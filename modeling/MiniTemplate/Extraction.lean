import MiniTemplate.Dialect
import MiniTemplate.Registry
import MiniTemplate.Template.Visitor

/-!
# Lifting expression children into references

The template engine cannot evaluate an expression child, so every such child of an
element that is no component becomes a reference: a `template` element that reads
the value from a data key and shows it through a dispatch template. The children
of one element share one dispatch template, except that calls of a property go
through one template for each property they call. Elements are lifted from the
inside out, so that references carry markup whose own children are lifted already.
-/

namespace MiniTemplate

/-- The selectors that the children of one element share. -/
structure Selectors where
  /-- The selector of children that call no property, once there is one. -/
  plain : Option String
  /-- The properties called, in order of first use, with their selectors. -/
  props : List (String × String)

/-- No selectors yet. -/
def Selectors.none : Selectors := ⟨.none, []⟩

/-- The selector of a child that calls `prop`, or no property. A new one is drawn only
where no child of the element has one to share. -/
def Selectors.choose (prop : Option String) (selectors : Selectors) (supplies : Supplies) :
    String × Selectors × Supplies :=
  match prop with
  | some prop =>
    match selectors.props.lookup prop with
    | some selector => (selector, selectors, supplies)
    | .none =>
      let (selector, supply) := supplies.propSelectors.next
      (selector, { selectors with props := selectors.props ++ [(prop, selector)] },
        { supplies with propSelectors := supply })
  | .none =>
    match selectors.plain with
    | some selector => (selector, selectors, supplies)
    | .none =>
      let (selector, supply) := supplies.selectors.next
      (selector, { selectors with plain := some selector }, { supplies with selectors := supply })

/-- The reference that stands for an expression. -/
def reference (expression : Expression) (key selector : String) (inText : Bool) : Element where
  tag := templateTag
  attributes := [
    .ofText dataKeyName key,
    .ofExpression expressionName expression,
    .ofText conditionName ("\x7b\x7b" ++ key ++ "\x7d\x7d !== undefined"),
    .ofText selectorName selector,
    .ofText dataName ("\x7b\x7bd: " ++ key ++ "\x7d\x7d")] ++
    if inText then [.marker textMarkName] else []
  children := []
  position := expression.position

/-- The children of an element with every expression lifted into a reference, where the function
given tells which property a piece of code calls. -/
def liftChildren (calledProp? : String → Option String) (inText : Bool) :
    List Node → Selectors → Supplies → List Node × Selectors × Supplies
  | [], selectors, supplies => ([], selectors, supplies)
  | .expression expression :: rest, selectors, supplies =>
    let (selector, selectors, supplies) :=
      selectors.choose (calledProp? expression.code) supplies
    let (key, supply) := supplies.dataKeys.next
    let (rest, selectors, supplies) :=
      liftChildren calledProp? inText rest selectors { supplies with dataKeys := supply }
    (.element (reference expression key selector inText) :: rest, selectors, supplies)
  | node :: rest, selectors, supplies =>
    let (rest, selectors, supplies) := liftChildren calledProp? inText rest selectors supplies
    (node :: rest, selectors, supplies)

/-- The registry with the templates of one element's children. -/
def Registry.add (registry : Registry) (selectors : Selectors) : Registry where
  templates := registry.templates ++ selectors.plain.toList
  propTemplates := registry.propTemplates ++
    selectors.props.map fun (prop, selector) => ⟨selector, prop ++ componentSuffix⟩

/-- An element with its expression children lifted. -/
def Element.lift (dialect : Dialect) (element : Element) : StateM Ledger Element := fun ledger =>
  let (children, selectors, supplies) :=
    liftChildren dialect.calledProp? (dialect.isText element) element.children .none
      ledger.supplies
  ({ element with children := children }, ⟨supplies, ledger.registry.add selectors⟩)

/-- The pass that lifts expression children, from the inside out. -/
def extractor (dialect : Dialect) : Visitor (StateM Ledger) where
  element _ walk := do
    let element ← walk
    if dialect.isComponent element.tag then return element else element.lift dialect

/-- A document with the expression children of all elements lifted. -/
def Document.extract (dialect : Dialect) (document : Document) : StateM Ledger Document :=
  (extractor dialect).visitDocument document

end MiniTemplate
