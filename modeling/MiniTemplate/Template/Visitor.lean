import MiniTemplate.Template.Basic

/-!
# Walking component trees

One walk serves all passes: an element's attribute expressions come first, in
order, then its children in document order; markup inside expressions is walked
like any other subtree. A visitor says what happens at each kind of part. It is
given the part and the walk below it, which it runs before its own work, after it,
or not at all.
-/

namespace MiniTemplate

/-- What a pass does at each kind of part, given the part and the walk below it. -/
structure Visitor (m : Type → Type) where
  /-- At every node. -/
  node : Node → m Node → m Node := fun _ walk => walk
  /-- At an element. -/
  element : Element → m Element → m Element := fun _ walk => walk
  /-- At a run of text, below which there is nothing. -/
  text : TextRun → m TextRun → m TextRun := fun _ walk => walk
  /-- At an expression child. -/
  expression : Expression → m Expression → m Expression := fun _ walk => walk
  /-- At an inset of any expression. -/
  inset : Inset → m Inset → m Inset := fun _ walk => walk
  /-- At a list of nodes. -/
  nodes : List Node → m (List Node) → m (List Node) := fun _ walk => walk

namespace Visitor

variable {m : Type → Type} [Monad m]

mutual
/-- Visit a node. -/
def visitNode (visitor : Visitor m) : Node → m Node
  | .element element =>
    visitor.node (.element element) (.element <$> visitor.visitElement element)
  | .text run => visitor.node (.text run) (.text <$> visitor.text run (pure run))
  | .expression ⟨code, insets, position⟩ =>
    visitor.node (.expression ⟨code, insets, position⟩)
      (.expression <$> visitor.expression ⟨code, insets, position⟩ do
        return ⟨code, ← visitor.visitInsets insets, position⟩)
/-- Visit an element. -/
def visitElement (visitor : Visitor m) : Element → m Element
  | ⟨tag, attributes, children, position⟩ =>
    visitor.element ⟨tag, attributes, children, position⟩ do
      let attributes ← visitor.visitAttributes attributes
      let children ← visitor.nodes children (visitor.visitEach children)
      return ⟨tag, attributes, children, position⟩
/-- Visit the expressions of attributes. -/
def visitAttributes (visitor : Visitor m) : List Attribute → m (List Attribute)
  | [] => pure []
  | ⟨name, .dynamic ⟨code, insets, place⟩, position⟩ :: rest => do
    let insets ← visitor.visitInsets insets
    let rest ← visitor.visitAttributes rest
    return ⟨name, .dynamic ⟨code, insets, place⟩, position⟩ :: rest
  | entry :: rest => do
    let rest ← visitor.visitAttributes rest
    return entry :: rest
/-- Visit insets one after the other. -/
def visitInsets (visitor : Visitor m) : List Inset → m (List Inset)
  | [] => pure []
  | ⟨start, stop, fragment, nodes⟩ :: rest => do
    let inset ← visitor.inset ⟨start, stop, fragment, nodes⟩ do
      return ⟨start, stop, fragment, ← visitor.nodes nodes (visitor.visitEach nodes)⟩
    let rest ← visitor.visitInsets rest
    return inset :: rest
/-- Visit nodes one after the other. -/
def visitEach (visitor : Visitor m) : List Node → m (List Node)
  | [] => pure []
  | node :: rest => do
    let node ← visitor.visitNode node
    let rest ← visitor.visitEach rest
    return node :: rest
end

/-- Visit a list of nodes. -/
def visitNodes (visitor : Visitor m) (nodes : List Node) : m (List Node) :=
  visitor.nodes nodes (visitor.visitEach nodes)

/-- Visit a document. -/
def visitDocument (visitor : Visitor m) (document : Document) : m Document := do
  return { document with nodes := ← visitor.visitNodes document.nodes }

end Visitor

end MiniTemplate
