import MiniTemplate.Template.Printer

/-!
# Bindings

The script side evaluates an expression for every data key. References inside
insets are evaluated with the expression around them and have no binding of their
own.
-/

namespace MiniTemplate

/-- A data key and the code whose value fills it. -/
structure Binding where
  /-- The data key. -/
  key : String
  /-- The code. -/
  code : String
  /-- Where the code stands. -/
  position : Position
deriving DecidableEq, Repr

/-- The binding of an element that has a fixed data key and an expression. -/
def Element.binding? (element : Element) : Option Binding :=
  match element.staticText? dataKeyName, element.expression? expressionName with
  | some key, some expression => some ⟨key, expression.source, expression.position⟩
  | _, _ => none

mutual
/-- The bindings of the references in a tree, insets apart, in document order. -/
def Node.bindings : Node → List Binding
  | .element ⟨tag, attributes, children, position⟩ =>
    let element : Element := ⟨tag, attributes, children, position⟩
    (if element.isReference then element.binding?.toList else []) ++ bindingsOf children
  | _ => []
/-- The bindings of the references in trees, insets apart, in document order. -/
def bindingsOf : List Node → List Binding
  | [] => []
  | node :: rest => Node.bindings node ++ bindingsOf rest
end

/-- The bindings of a document. -/
def Document.bindings (document : Document) : List Binding := bindingsOf document.nodes

end MiniTemplate
