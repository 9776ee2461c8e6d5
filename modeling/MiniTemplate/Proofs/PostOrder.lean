import MiniTemplate.Proofs.Lifting

/-!
# Elements in the order in which a pass is done with them

A pass that rewrites elements from the inside out is done with an element behind everything
in its attributes and below its children. `postOrder` lists the elements of a document in that
order, and `laidBeside` pairs each of them with the element that stands in its place in another
document. Laid beside the document it made, lifting is a run over this list: one step for each
element, each on the ledger that the step before it left.
-/

namespace MiniTemplate

mutual
/-- Every element of trees: an element comes behind those in its attributes, which come in front,
and behind those below its children. -/
def postOrder : List Node → List Element
  | [] => []
  | node :: rest => Node.postOrder node ++ postOrder rest
/-- Every element of a tree, in post-order. -/
def Node.postOrder : Node → List Element
  | .element ⟨tag, attributes, children, position⟩ =>
    attributesPostOrder attributes ++ postOrder children ++ [⟨tag, attributes, children, position⟩]
  | .text _ => []
  | .expression ⟨_, insets, _⟩ => insetsPostOrder insets
/-- Every element inside the expressions of attributes, in post-order. -/
def attributesPostOrder : List Attribute → List Element
  | [] => []
  | ⟨_, .bare, _⟩ :: rest => attributesPostOrder rest
  | ⟨_, .static _, _⟩ :: rest => attributesPostOrder rest
  | ⟨_, .dynamic ⟨_, insets, _⟩, _⟩ :: rest => insetsPostOrder insets ++ attributesPostOrder rest
/-- Every element of insets, in post-order. -/
def insetsPostOrder : List Inset → List Element
  | [] => []
  | ⟨_, _, _, nodes⟩ :: rest => postOrder nodes ++ insetsPostOrder rest
end

mutual
/-- The elements of nodes in post-order, each with the element that stands in its place among
other nodes. -/
def laidBeside : List Node → List Node → List (Element × Element)
  | node :: rest, node' :: rest' => Node.laidBeside node node' ++ laidBeside rest rest'
  | _, _ => []
termination_by structural nodes => nodes
/-- The elements of a node, each with the one in its place. The insets of an expression that was
replaced are found in the element that took its place. -/
def Node.laidBeside : Node → Node → List (Element × Element)
  | .element ⟨tag, attributes, children, position⟩, .element parent =>
    attributesLaidBeside attributes parent.attributes ++ laidBeside children parent.children ++
      [(⟨tag, attributes, children, position⟩, parent)]
  | .expression ⟨_, insets, _⟩, .element parent =>
    match parent.expression? expressionName with
    | some script => insetsLaidBeside insets script.insets
    | none => []
  | .expression ⟨_, insets, _⟩, .expression script => insetsLaidBeside insets script.insets
  | _, _ => []
termination_by structural node => node
/-- The elements inside the expressions of attributes, each with the one in its place. -/
def attributesLaidBeside : List Attribute → List Attribute → List (Element × Element)
  | ⟨_, .dynamic ⟨_, insets, _⟩, _⟩ :: rest, ⟨_, .dynamic script, _⟩ :: rest' =>
    insetsLaidBeside insets script.insets ++ attributesLaidBeside rest rest'
  | _ :: rest, _ :: rest' => attributesLaidBeside rest rest'
  | _, _ => []
termination_by structural attributes => attributes
/-- The elements of insets, each with the one in its place. -/
def insetsLaidBeside : List Inset → List Inset → List (Element × Element)
  | ⟨_, _, _, nodes⟩ :: rest, inset :: rest' =>
    laidBeside nodes inset.nodes ++ insetsLaidBeside rest rest'
  | _, _ => []
termination_by structural insets => insets
end

/-- A child before the children around it were lifted: the expression that stood there is found
in the reference that took its place. -/
def Node.unlift : Node → Node → Node
  | .expression _, .element reference =>
    match reference.expression? expressionName with
    | some script => .expression script
    | none => .element reference
  | _, node => node

/-- An element whose own children have been lifted, as it was before that: everything below it
is lifted, and the expressions among its children are back in their places. The first element
says where these were. -/
def Element.unlift (old new : Element) : Element :=
  { new with children := List.zipWith Node.unlift old.children new.children }

/-- Whether a node is an expression shows in its outline. -/
theorem isExpression_outline (node : Node) : node.outline.isExpression = node.isExpression := by
  cases node <;> rfl

/-- A pass that keeps outlines leaves expressions in their places. -/
theorem KeepsOutline.isExpression {σ : Type} {step : Element → StateM σ Element}
    (h : KeepsOutline step) (nodes : List Node) (state : σ) :
    nodes.map Node.isExpression = (rewriteNodes step nodes state).1.map Node.isExpression := by
  have ho := congrArg (List.map Node.isExpression) (h.nodes state nodes)
  simp only [List.map_map] at ho
  simpa [Function.comp_def, isExpression_outline] using ho.symm

/-- A node that stood in no expression's place is unlifted to itself. -/
theorem Node.unlift_of_kept {old : Node} (h : old.isExpression = false) (node : Node) :
    old.unlift node = node := by
  cases old with
  | expression script => cases h
  | element inner => rfl
  | text run => rfl

/-- Children before and after they were lifted, beside nodes that have expressions in the same
places. -/
inductive LiftsBeside (inText : Bool) :
    List Node → List String → List Node → List Node → Prop where
  | nil : LiftsBeside inText [] [] [] []
  | expression {nodes before after : List Node} {keys : List String} (old script : Expression)
    (key selector : String) (h : LiftsBeside inText nodes keys before after) :
    LiftsBeside inText (.expression old :: nodes) (key :: keys) (.expression script :: before)
      (.element (reference script key selector inText) :: after)
  | kept {nodes before after : List Node} {keys : List String} (old node : Node)
    (ho : old.isExpression = false) (h : LiftsBeside inText nodes keys before after) :
    LiftsBeside inText (old :: nodes) keys (node :: before) (node :: after)

section Children

variable {inText : Bool} {selectors keys : List String} {nodes before after : List Node}

/-- Lifted children can be laid beside any nodes that have expressions in the same places. -/
theorem Lifts.beside (h : Lifts inText selectors keys before after)
    (hn : nodes.map Node.isExpression = before.map Node.isExpression) :
    LiftsBeside inText nodes keys before after := by
  induction h generalizing nodes with
  | nil =>
    obtain rfl : nodes = [] := by simpa using hn
    exact .nil
  | expression script key selector hs h ih =>
    obtain ⟨node, rest, rfl, hnode, hrest⟩ := List.map_eq_cons_iff.mp hn
    cases node with
    | expression old => exact .expression old script key selector (ih hrest)
    | element inner => cases hnode
    | text run => cases hnode
  | element inner h ih =>
    obtain ⟨node, rest, rfl, hnode, hrest⟩ := List.map_eq_cons_iff.mp hn
    exact .kept node (.element inner) hnode (ih hrest)
  | text run h ih =>
    obtain ⟨node, rest, rfl, hnode, hrest⟩ := List.map_eq_cons_iff.mp hn
    exact .kept node (.text run) hnode (ih hrest)

/-- Lifted children are unlifted to what they were lifted from. -/
theorem LiftsBeside.zipWith_unlift (h : LiftsBeside inText nodes keys before after) :
    List.zipWith Node.unlift nodes after = before := by
  induction h with
  | nil => rfl
  | expression old script key selector h ih =>
    rw [List.zipWith_cons_cons, ih, Node.unlift, expression?_reference]
  | kept old node ho h ih => rw [List.zipWith_cons_cons, ih, Node.unlift_of_kept ho]

/-- Children that stayed are unlifted to themselves. -/
theorem zipWith_unlift_of_kept (h : nodes.map Node.isExpression = after.map Node.isExpression) :
    List.zipWith Node.unlift nodes after = after := by
  induction nodes generalizing after with
  | nil =>
    obtain rfl : after = [] := by simpa using h.symm
    rfl
  | cons node rest ih =>
    obtain ⟨node', rest', rfl, hnode, hrest⟩ := List.map_eq_cons_iff.mp h.symm
    rw [List.zipWith_cons_cons, ih hrest.symm]
    cases node <;> cases node' <;> simp_all [Node.unlift, Node.isExpression]

/-- Lifting children does not change what stands in the places of the elements below them. -/
theorem LiftsBeside.laidBeside_eq (h : LiftsBeside inText nodes keys before after) :
    laidBeside nodes after = laidBeside nodes before := by
  induction h with
  | nil => rfl
  | expression old script key selector h ih =>
    obtain ⟨code, insets, position⟩ := old
    rw [laidBeside, laidBeside, ih, Node.laidBeside, Node.laidBeside, expression?_reference]
  | kept old node ho h ih => rw [laidBeside, laidBeside, ih]

end Children

/-- What lifting made of an element between two ledgers. -/
structure LiftedAt (dialect : Dialect) (before : Ledger) (old new : Element) (after : Ledger) :
    Prop where
  /-- Everything below the element was lifted first. -/
  below : ∃ first second, old.unlift new =
    ⟨old.tag, (rewriteAttributes (liftStep dialect) old.attributes first).1,
      (rewriteNodes (liftStep dialect) old.children second).1, old.position⟩
  /-- Then the element was handed to the step. -/
  step : liftStep dialect (old.unlift new) before = (new, after)

/-- Before its children were lifted, an element had expressions where it has them at first. -/
theorem LiftedAt.isExpression {dialect : Dialect} {before after : Ledger} {old new : Element}
    (h : LiftedAt dialect before old new after) :
    old.children.map Node.isExpression = (old.unlift new).children.map Node.isExpression := by
  obtain ⟨first, second, hbelow⟩ := h.below
  rw [hbelow]
  exact (liftStep_keepsOutline dialect).isExpression old.children second

/-- One element after the other is lifted, each on the ledger that was left before it. -/
inductive LiftRun (dialect : Dialect) : Ledger → List (Element × Element) → Ledger → Prop where
  | nil (ledger : Ledger) : LiftRun dialect ledger [] ledger
  | cons {before middle after : Ledger} {old new : Element} {rest : List (Element × Element)}
    (h : LiftedAt dialect before old new middle) (hrest : LiftRun dialect middle rest after) :
    LiftRun dialect before ((old, new) :: rest) after

namespace LiftRun

variable {dialect : Dialect} {before middle after : Ledger}
  {pairs pairs' : List (Element × Element)}

/-- Runs of lifting one behind the other are a run. -/
theorem append (h : LiftRun dialect before pairs middle)
    (h' : LiftRun dialect middle pairs' after) :
    LiftRun dialect before (pairs ++ pairs') after := by
  induction h with
  | nil ledger => exact h'
  | cons h _ ih => exact .cons h (ih h')

theorem single {old new : Element} (h : LiftedAt dialect before old new after) :
    LiftRun dialect before [(old, new)] after :=
  .cons h (.nil after)

end LiftRun

/-- What a step does to an element whose attributes and children have been lifted. -/
theorem liftedAt_step (dialect : Dialect) (old : Element) (first second before : Ledger) :
    let seen : Element := ⟨old.tag, (rewriteAttributes (liftStep dialect) old.attributes first).1,
      (rewriteNodes (liftStep dialect) old.children second).1, old.position⟩
    let new := (liftStep dialect seen before).1
    LiftedAt dialect before old new (liftStep dialect seen before).2 ∧
      new.attributes = seen.attributes ∧
      laidBeside old.children new.children = laidBeside old.children seen.children := by
  intro seen new
  have hkeep : old.children.map Node.isExpression = seen.children.map Node.isExpression :=
    (liftStep_keepsOutline dialect).isExpression old.children second
  have hseen : old.unlift new = seen ∧ new.attributes = seen.attributes ∧
      laidBeside old.children new.children = laidBeside old.children seen.children := by
    rcases liftStep_cases dialect seen before with ⟨-, he⟩ | ⟨-, children, _, _, _, _, he, -, hl⟩
    · have hnew : new = seen := congrArg Prod.fst he
      rw [hnew, Element.unlift, zipWith_unlift_of_kept hkeep]
      exact ⟨rfl, rfl, rfl⟩
    · have hnew : new = ⟨seen.tag, seen.attributes, children, seen.position⟩ :=
        congrArg Prod.fst he
      have hbeside := hl.beside hkeep
      rw [hnew, Element.unlift, hbeside.zipWith_unlift, hbeside.laidBeside_eq]
      exact ⟨rfl, rfl, rfl⟩
  obtain ⟨hunlift, hattributes, hbelow⟩ := hseen
  have hlifted : liftStep dialect (old.unlift new) before =
      (new, (liftStep dialect seen before).2) := by
    rw [hunlift]
    rfl
  exact ⟨⟨⟨first, second, hunlift⟩, hlifted⟩, hattributes, hbelow⟩

/-- Two elements beside each other: their attributes first, then their children, then the two. -/
theorem Node.laidBeside_element (element parent : Element) :
    Node.laidBeside (.element element) (.element parent) =
      attributesLaidBeside element.attributes parent.attributes ++
        MiniTemplate.laidBeside element.children parent.children ++ [(element, parent)] := by
  cases element
  rfl

/-- Lifting is a run over the elements in post-order, laid beside what it made of them. -/
theorem lift_run (dialect : Dialect) :
    TreeInduction
      (fun nodes => ∀ ledger,
        let lifted := rewriteNodes (liftStep dialect) nodes ledger
        LiftRun dialect ledger (laidBeside nodes lifted.1) lifted.2 ∧
          (laidBeside nodes lifted.1).map Prod.fst = postOrder nodes)
      (fun attributes => ∀ ledger,
        let lifted := rewriteAttributes (liftStep dialect) attributes ledger
        LiftRun dialect ledger (attributesLaidBeside attributes lifted.1) lifted.2 ∧
          (attributesLaidBeside attributes lifted.1).map Prod.fst = attributesPostOrder attributes)
      (fun insets => ∀ ledger,
        let lifted := rewriteInsets (liftStep dialect) insets ledger
        LiftRun dialect ledger (insetsLaidBeside insets lifted.1) lifted.2 ∧
          (insetsLaidBeside insets lifted.1).map Prod.fst = insetsPostOrder insets) where
  noNodes ledger := ⟨.nil ledger, rfl⟩
  element tag attributes children position rest hattributes hchildren hrest ledger := by
    obtain ⟨hfirst, hfirst'⟩ := hattributes ledger
    obtain ⟨hsecond, hsecond'⟩ :=
      hchildren (rewriteAttributes (liftStep dialect) attributes ledger).2
    obtain ⟨hstep, hattr, hbelow⟩ :=
      liftedAt_step dialect ⟨tag, attributes, children, position⟩ ledger
        (rewriteAttributes (liftStep dialect) attributes ledger).2
        (rewriteNodes (liftStep dialect) children
          (rewriteAttributes (liftStep dialect) attributes ledger).2).2
    dsimp only at hfirst hfirst' hsecond hsecond' hstep hattr hbelow ⊢
    rw [rewriteNodes_element]
    dsimp only
    rw [laidBeside, Node.laidBeside_element, hattr, hbelow]
    obtain ⟨hthird, hthird'⟩ := hrest (liftStep dialect
      ⟨tag, (rewriteAttributes (liftStep dialect) attributes ledger).1,
        (rewriteNodes (liftStep dialect) children
          (rewriteAttributes (liftStep dialect) attributes ledger).2).1, position⟩
      (rewriteNodes (liftStep dialect) children
        (rewriteAttributes (liftStep dialect) attributes ledger).2).2).2
    refine ⟨((hfirst.append hsecond).append (.single hstep)).append hthird, ?_⟩
    simp only [List.map_append, hfirst', hsecond', hthird', postOrder, Node.postOrder,
      List.map_cons, List.map_nil]
  text run rest hrest ledger := hrest ledger
  expression code insets position rest hinsets hrest ledger := by
    obtain ⟨hfirst, hfirst'⟩ := hinsets ledger
    obtain ⟨hsecond, hsecond'⟩ := hrest (rewriteInsets (liftStep dialect) insets ledger).2
    rw [rewriteNodes_expression]
    dsimp only at hfirst' hsecond' ⊢
    rw [laidBeside, Node.laidBeside, List.map_append, hfirst', hsecond']
    exact ⟨hfirst.append hsecond, rfl⟩
  noAttributes ledger := ⟨.nil ledger, rfl⟩
  bare name position rest hrest ledger := hrest ledger
  static name text position rest hrest ledger := hrest ledger
  dynamic name code insets place position rest hinsets hrest ledger := by
    obtain ⟨hfirst, hfirst'⟩ := hinsets ledger
    obtain ⟨hsecond, hsecond'⟩ := hrest (rewriteInsets (liftStep dialect) insets ledger).2
    rw [rewriteAttributes_dynamic]
    dsimp only at hfirst' hsecond' ⊢
    rw [attributesLaidBeside, List.map_append, hfirst', hsecond']
    exact ⟨hfirst.append hsecond, rfl⟩
  noInsets ledger := ⟨.nil ledger, rfl⟩
  inset start stop fragment nodes rest hnodes hrest ledger := by
    obtain ⟨hfirst, hfirst'⟩ := hnodes ledger
    obtain ⟨hsecond, hsecond'⟩ := hrest (rewriteNodes (liftStep dialect) nodes ledger).2
    rw [rewriteInsets_cons]
    dsimp only at hfirst' hsecond' ⊢
    rw [insetsLaidBeside, List.map_append, hfirst', hsecond']
    exact ⟨hfirst.append hsecond, rfl⟩

end MiniTemplate
