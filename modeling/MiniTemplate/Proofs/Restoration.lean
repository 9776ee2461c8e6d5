import MiniTemplate.Proofs.Lifting

/-!
# Lifting loses nothing and leaves nothing to lift

Putting the expression of every reference back in its place undoes lifting: the
result is the document as it was, down to positions. And no element that is no
component is left with an expression among its children, wherever it stands.
-/

namespace MiniTemplate

/-- The node that an element stands for: the expression of a template with a data key,
else the element itself. -/
def Element.restored (element : Element) : Node :=
  if element.tag == templateTag && element.hasAttribute dataKeyName then
    match element.expression? expressionName with
    | some expression => .expression expression
    | none => .element element
  else .element element

mutual
/-- Nodes with the expressions of references put back in their places. -/
def restoreNodes : List Node → List Node
  | [] => []
  | node :: rest => Node.restore node :: restoreNodes rest
/-- A node with the expressions of references put back in their places. -/
def Node.restore : Node → Node
  | .element ⟨tag, attributes, children, position⟩ =>
    Element.restored ⟨tag, restoreAttributes attributes, restoreNodes children, position⟩
  | .text run => .text run
  | .expression ⟨code, insets, position⟩ => .expression ⟨code, restoreInsets insets, position⟩
/-- Attributes with the nodes inside their expressions restored. -/
def restoreAttributes : List Attribute → List Attribute
  | [] => []
  | ⟨name, .bare, position⟩ :: rest => ⟨name, .bare, position⟩ :: restoreAttributes rest
  | ⟨name, .static text, position⟩ :: rest =>
    ⟨name, .static text, position⟩ :: restoreAttributes rest
  | ⟨name, .dynamic ⟨code, insets, place⟩, position⟩ :: rest =>
    ⟨name, .dynamic ⟨code, restoreInsets insets, place⟩, position⟩ :: restoreAttributes rest
/-- Insets with their nodes restored. -/
def restoreInsets : List Inset → List Inset
  | [] => []
  | ⟨start, stop, fragment, nodes⟩ :: rest =>
    ⟨start, stop, fragment, restoreNodes nodes⟩ :: restoreInsets rest
end

/-- A document with the expressions of references put back in their places. -/
def Document.restore (document : Document) : Document :=
  { document with nodes := restoreNodes document.nodes }

/-- An element that is no reference stands for itself. -/
theorem Element.restored_of_not_reference {element : Element}
    (h : element.isReference = false) : element.restored = .element element := by
  unfold isReference at h
  have hk : (element.tag == templateTag && element.hasAttribute dataKeyName) = false := by
    cases ht : element.tag == templateTag
    · rfl
    · simp_all
  rw [restored, hk]
  rfl

/-- A reference made for an expression is restored to it. -/
theorem restore_reference (script : Expression) (key selector : String) (inText : Bool) :
    (Node.element (reference script key selector inText)).restore =
      (Node.expression script).restore := by
  obtain ⟨code, insets, position⟩ := script
  cases inText <;> rfl

/-- Lifting the children of an element does not change what they are restored to. -/
theorem Lifts.restoreNodes_eq {inText : Bool} {selectors keys : List String}
    {before after : List Node} (h : Lifts inText selectors keys before after) :
    restoreNodes after = restoreNodes before := by
  induction h with
  | nil => rfl
  | expression script key selector hs h ih =>
    rw [restoreNodes, restoreNodes, restore_reference, ih]
  | element inner h ih => rw [restoreNodes, restoreNodes, ih]
  | text run h ih => rw [restoreNodes, restoreNodes, ih]

/-- An element after a step is restored like before it. -/
theorem restore_liftStep (dialect : Dialect) (element : Element) (ledger : Ledger) :
    (Node.element (liftStep dialect element ledger).1).restore = (Node.element element).restore := by
  rcases liftStep_cases dialect element ledger with ⟨-, he⟩ | ⟨-, _, _, _, _, _, he, -, hl⟩
  · rw [he]
  · rw [he]
    obtain ⟨tag, attributes, children, position⟩ := element
    dsimp only at hl ⊢
    rw [Node.restore, Node.restore, hl.restoreNodes_eq]

/-- Restoring undoes lifting wherever there were no references. -/
theorem restore_lifted (dialect : Dialect) :
    TreeInduction
      (fun nodes => (∀ element ∈ elementsIn nodes, element.isReference = false) →
        ∀ ledger, restoreNodes (rewriteNodes (liftStep dialect) nodes ledger).1 = nodes)
      (fun attributes => (∀ element ∈ elementsInAttributes attributes, element.isReference = false) →
        ∀ ledger, restoreAttributes (rewriteAttributes (liftStep dialect) attributes ledger).1 =
          attributes)
      (fun insets => (∀ element ∈ elementsInInsets insets, element.isReference = false) →
        ∀ ledger, restoreInsets (rewriteInsets (liftStep dialect) insets ledger).1 = insets) where
  noNodes _ _ := rfl
  element tag attributes children position rest hattributes hchildren hrest hfree ledger := by
    simp only [elementsIn, Node.elements, List.forall_mem_append, List.forall_mem_cons] at hfree
    obtain ⟨⟨hself, hfa, hfc⟩, hfr⟩ := hfree
    rw [rewriteNodes_element]
    dsimp only
    rw [restoreNodes, restore_liftStep, Node.restore, hattributes hfa, hchildren hfc, hrest hfr,
      Element.restored_of_not_reference hself]
  text run rest hrest hfree ledger := by
    rw [rewriteNodes_text]
    dsimp only
    rw [restoreNodes, Node.restore, hrest hfree]
  expression code insets position rest hinsets hrest hfree ledger := by
    simp only [elementsIn, Node.elements, List.forall_mem_append] at hfree
    rw [rewriteNodes_expression]
    dsimp only
    rw [restoreNodes, Node.restore, hinsets hfree.1, hrest hfree.2]
  noAttributes _ _ := rfl
  bare name position rest hrest hfree ledger := by
    rw [rewriteAttributes_bare]
    dsimp only
    rw [restoreAttributes, hrest hfree]
  static name text position rest hrest hfree ledger := by
    rw [rewriteAttributes_static]
    dsimp only
    rw [restoreAttributes, hrest hfree]
  dynamic name code insets place position rest hinsets hrest hfree ledger := by
    simp only [elementsInAttributes, List.forall_mem_append] at hfree
    rw [rewriteAttributes_dynamic]
    dsimp only
    rw [restoreAttributes, hinsets hfree.1, hrest hfree.2]
  noInsets _ _ := rfl
  inset start stop fragment nodes rest hnodes hrest hfree ledger := by
    simp only [elementsInInsets, List.forall_mem_append] at hfree
    rw [rewriteInsets_cons]
    dsimp only
    rw [restoreInsets, hnodes hfree.1, hrest hfree.2]

/-- An element with nothing left to lift. -/
def Element.Settled (dialect : Dialect) (element : Element) : Prop :=
  dialect.isComponent element.tag = false → ∀ child ∈ element.children, child.isExpression = false

/-- Lifted children are no expressions. -/
theorem Lifts.not_expression {inText : Bool} {selectors keys : List String}
    {before after : List Node} (h : Lifts inText selectors keys before after) :
    ∀ child ∈ after, child.isExpression = false := by
  induction h with
  | nil => simp
  | expression script key selector hs h ih => exact List.forall_mem_cons.mpr ⟨rfl, ih⟩
  | element inner h ih => exact List.forall_mem_cons.mpr ⟨rfl, ih⟩
  | text run h ih => exact List.forall_mem_cons.mpr ⟨rfl, ih⟩

/-- After a step an element is settled. -/
theorem liftStep_settled (dialect : Dialect) (element : Element) (ledger : Ledger) :
    (liftStep dialect element ledger).1.Settled dialect := by
  rcases liftStep_cases dialect element ledger with ⟨hc, he⟩ | ⟨-, _, _, _, _, _, he, -, hl⟩
  · rw [he]
    intro hn
    rw [hc] at hn
    contradiction
  · rw [he]
    exact fun _ => hl.not_expression

/-- After a pass every element, however deep, is settled. -/
theorem lifted_settled (dialect : Dialect) (nodes : List Node) (ledger : Ledger) :
    ∀ element ∈ elementsIn (rewriteNodes (liftStep dialect) nodes ledger).1,
      element.Settled dialect := by
  have hreference : ∀ script key selector inText,
      (reference script key selector inText).Settled dialect := by
    intro script key selector inText _ child hm
    simp [reference] at hm
  have hstep : ∀ element : Element, True → ∀ rewritten : Element,
      rewritten.outline = element.outline →
        ∀ ledger, (liftStep dialect rewritten ledger).1.Settled dialect :=
    fun _ _ rewritten _ ledger => liftStep_settled dialect rewritten ledger
  exact (lift_forall_elements dialect hreference hstep).nodes nodes (fun _ _ => trivial) ledger

/-- Lifting is complete and loses nothing: whatever the dialect and the ledger, no element
that is no component keeps an expression among its children, and a document that was free of
references is restored exactly. -/
theorem extract_complete_lossless (dialect : Dialect) (document : Document) (ledger : Ledger)
    (hfree : document.ReferenceFree) :
    (∀ element ∈ elementsIn ((document.extract dialect).run ledger).1.nodes,
        dialect.isComponent element.tag = false →
          ∀ child ∈ element.children, child.isExpression = false) ∧
      ((document.extract dialect).run ledger).1.restore = document := by
  change (∀ element ∈ elementsIn (document.extract dialect ledger).1.nodes,
    element.Settled dialect) ∧ (document.extract dialect ledger).1.restore = document
  rw [extract_eq]
  refine ⟨lifted_settled dialect document.nodes ledger, ?_⟩
  unfold Document.restore
  rw [(restore_lifted dialect).nodes document.nodes hfree]

/-- The document with expressions in every place is lifted completely and restored. -/
theorem extract_complete_lossless_layered :
    layeredDocument.ReferenceFree ∧
      (∀ element ∈ elementsIn ((layeredDocument.extract .standard).run .fresh).1.nodes,
        Dialect.standard.isComponent element.tag = false →
          ∀ child ∈ element.children, child.isExpression = false) ∧
      ((layeredDocument.extract .standard).run .fresh).1.restore = layeredDocument :=
  have hfree : layeredDocument.ReferenceFree := by decide
  ⟨hfree, extract_complete_lossless .standard layeredDocument .fresh hfree⟩

end MiniTemplate
