import MiniTemplate.Diagnostic
import MiniTemplate.Dialect
import MiniTemplate.Registry

/-!
# Auditing references

Checks that the references of a document agree with the registry: each has a data
key of its own, selects a registered template, and is marked as text exactly where
it stands in a text container. The references checked are those that are children
of an element, at any depth, insets included.
-/

namespace MiniTemplate

/-- A reference, and whether its parent holds text only. -/
structure Placed where
  /-- The reference. -/
  reference : Element
  /-- Whether it stands in a text container that is no component. -/
  inText : Bool

/-- The references among the children of an element. -/
def placedChildren (inText : Bool) : List Node → List Placed
  | [] => []
  | .element element :: rest =>
    if element.isReference then ⟨element, inText⟩ :: placedChildren inText rest
    else placedChildren inText rest
  | _ :: rest => placedChildren inText rest

/-- Whether references among the children of an element stand in text. -/
def Dialect.marksChildren (dialect : Dialect) (element : Element) : Bool :=
  dialect.isText element && !dialect.isComponent element.tag

mutual
/-- The references below nodes: those in an element's attributes first, then those among
its children, then those below its children. -/
def placedIn (dialect : Dialect) : List Node → List Placed
  | [] => []
  | .element ⟨tag, attributes, children, position⟩ :: rest =>
    placedInAttributes dialect attributes ++
      placedChildren (dialect.marksChildren ⟨tag, attributes, children, position⟩) children ++
      placedIn dialect children ++ placedIn dialect rest
  | .text _ :: rest => placedIn dialect rest
  | .expression ⟨_, insets, _⟩ :: rest => placedInInsets dialect insets ++ placedIn dialect rest
/-- The references below the expressions of attributes. -/
def placedInAttributes (dialect : Dialect) : List Attribute → List Placed
  | [] => []
  | ⟨_, .dynamic ⟨_, insets, _⟩, _⟩ :: rest =>
    placedInInsets dialect insets ++ placedInAttributes dialect rest
  | _ :: rest => placedInAttributes dialect rest
/-- The references below insets. -/
def placedInInsets (dialect : Dialect) : List Inset → List Placed
  | [] => []
  | ⟨_, _, _, nodes⟩ :: rest => placedIn dialect nodes ++ placedInInsets dialect rest
end

/-- What is wrong with the data key of a reference, given the keys met before. -/
def keyCause? (seen : List String) (reference : Element) : Option Cause :=
  match reference.staticText? dataKeyName with
  | none => some .missingKey
  | some key => if seen.contains key then some (.repeatedKey key) else none

/-- What is wrong with the selector of a reference. An empty one selects nothing. -/
def selectorCause? (registered : List String) (reference : Element) : Option Cause :=
  match reference.staticText? selectorName with
  | none => none
  | some selector =>
    if selector != "" && !registered.contains selector then some (.unknownSelector selector) else none

/-- What is wrong with the text mark of a reference. -/
def markCause? (placed : Placed) : Option Cause :=
  if placed.reference.hasAttribute textMarkName != placed.inText then some .misplacedMark else none

/-- What is wrong with a reference, given the keys met before. -/
def Placed.causes (registered seen : List String) (placed : Placed) : List Cause :=
  (keyCause? seen placed.reference).toList ++
    (selectorCause? registered placed.reference).toList ++ (markCause? placed).toList

/-- What is wrong with references, one after the other, given the keys met before. -/
def auditPlaced (path : String) (registered : List String) :
    List String → List Placed → List Diagnostic
  | _, [] => []
  | seen, placed :: rest =>
    (placed.causes registered seen).map (fun cause => cause.diagnose path placed.reference.position) ++
      auditPlaced path registered ((placed.reference.staticText? dataKeyName).toList ++ seen) rest

/-- The names that repeat an earlier one. -/
def repeats : List String → List String → List String
  | _, [] => []
  | seen, name :: rest =>
    if seen.contains name then name :: repeats seen rest else repeats (name :: seen) rest

/-- Everything wrong with the references of a document: templates registered twice first,
then the references in order. -/
def Document.violations (dialect : Dialect) (registry : Registry) (document : Document) :
    List Diagnostic :=
  (repeats [] registry.selectors).map
      (fun name => (Cause.repeatedTemplate name).diagnose document.path .first) ++
    auditPlaced document.path registry.selectors [] (placedIn dialect document.nodes)

end MiniTemplate
