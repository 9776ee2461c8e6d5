import MiniTemplate.Template.Basic

/-!
# Equality of component trees

Trees are compared part by part, positions included.
-/

namespace MiniTemplate

mutual
/-- Whether two nodes are equal. -/
def Node.same : Node → Node → Bool
  | .element a, .element b => Element.same a b
  | .text a, .text b => a == b
  | .expression a, .expression b => Expression.same a b
  | _, _ => false
/-- Whether two elements are equal. -/
def Element.same : Element → Element → Bool
  | ⟨tag, attributes, children, position⟩, ⟨tag', attributes', children', position'⟩ =>
    tag == tag' && sameAttributes attributes attributes' && sameNodes children children' &&
      position == position'
/-- Whether two expressions are equal. -/
def Expression.same : Expression → Expression → Bool
  | ⟨code, insets, position⟩, ⟨code', insets', position'⟩ =>
    code == code' && sameInsets insets insets' && position == position'
/-- Whether two values are equal. -/
def Value.same : Value → Value → Bool
  | .bare, .bare => true
  | .static a, .static b => a == b
  | .dynamic a, .dynamic b => Expression.same a b
  | _, _ => false
/-- Whether two lists of nodes are equal. -/
def sameNodes : List Node → List Node → Bool
  | [], [] => true
  | a :: as, b :: bs => Node.same a b && sameNodes as bs
  | _, _ => false
/-- Whether two lists of attributes are equal. -/
def sameAttributes : List Attribute → List Attribute → Bool
  | [], [] => true
  | ⟨name, value, position⟩ :: as, ⟨name', value', position'⟩ :: bs =>
    name == name' && Value.same value value' && position == position' && sameAttributes as bs
  | _, _ => false
/-- Whether two lists of insets are equal. -/
def sameInsets : List Inset → List Inset → Bool
  | [], [] => true
  | ⟨start, stop, fragment, nodes⟩ :: as, ⟨start', stop', fragment', nodes'⟩ :: bs =>
    start == start' && stop == stop' && fragment == fragment' && sameNodes nodes nodes' &&
      sameInsets as bs
  | _, _ => false
end

/-- Whether two documents are equal. -/
def Document.same (a b : Document) : Bool := a.path == b.path && sameNodes a.nodes b.nodes

end MiniTemplate
