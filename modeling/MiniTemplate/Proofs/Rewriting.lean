import MiniTemplate.Template.Visitor
import MiniTemplate.Proofs.Trees

/-!
# Passes that rewrite elements from the inside out

Lifting and inlining are walks of one kind: an element is first rewritten below and
then handed to a step, which may change it and a state. The equations here say what
such a pass does to each part of a tree; everything about the passes is proved from
them.
-/

namespace MiniTemplate

variable {σ : Type}

/-- The pass that rewrites every element by a step once everything below it is done. -/
def Visitor.rewriter (step : Element → StateM σ Element) : Visitor (StateM σ) where
  element _ walk := do
    let element ← walk
    step element

/-- Nodes after a pass, with the state it leaves. -/
def rewriteNodes (step : Element → StateM σ Element) (nodes : List Node) (state : σ) :
    List Node × σ :=
  (Visitor.rewriter step).visitEach nodes state

/-- Attributes after a pass over their expressions, with the state it leaves. -/
def rewriteAttributes (step : Element → StateM σ Element) (attributes : List Attribute)
    (state : σ) : List Attribute × σ :=
  (Visitor.rewriter step).visitAttributes attributes state

/-- Insets after a pass, with the state it leaves. -/
def rewriteInsets (step : Element → StateM σ Element) (insets : List Inset) (state : σ) :
    List Inset × σ :=
  (Visitor.rewriter step).visitInsets insets state

variable (step : Element → StateM σ Element) (state : σ)

theorem rewriteNodes_nil : rewriteNodes step [] state = ([], state) := rfl

/-- An element is rewritten after its attributes and its children. -/
theorem rewriteNodes_element (tag : String) (attributes : List Attribute) (children : List Node)
    (position : Position) (rest : List Node) :
    rewriteNodes step (.element ⟨tag, attributes, children, position⟩ :: rest) state =
      let walked := rewriteAttributes step attributes state
      let below := rewriteNodes step children walked.2
      let rewritten := step ⟨tag, walked.1, below.1, position⟩ below.2
      let behind := rewriteNodes step rest rewritten.2
      (.element rewritten.1 :: behind.1, behind.2) := rfl

/-- A text is kept. -/
theorem rewriteNodes_text (run : TextRun) (rest : List Node) :
    rewriteNodes step (.text run :: rest) state =
      let behind := rewriteNodes step rest state
      (.text run :: behind.1, behind.2) := rfl

/-- Of an expression only the insets are rewritten. -/
theorem rewriteNodes_expression (code : String) (insets : List Inset) (position : Position)
    (rest : List Node) :
    rewriteNodes step (.expression ⟨code, insets, position⟩ :: rest) state =
      let walked := rewriteInsets step insets state
      let behind := rewriteNodes step rest walked.2
      (.expression ⟨code, walked.1, position⟩ :: behind.1, behind.2) := rfl

theorem rewriteAttributes_nil : rewriteAttributes step [] state = ([], state) := rfl

/-- An attribute without a value is kept. -/
theorem rewriteAttributes_bare (name : String) (position : Position) (rest : List Attribute) :
    rewriteAttributes step (⟨name, .bare, position⟩ :: rest) state =
      let behind := rewriteAttributes step rest state
      (⟨name, .bare, position⟩ :: behind.1, behind.2) := rfl

/-- An attribute with a text is kept. -/
theorem rewriteAttributes_static (name text : String) (position : Position)
    (rest : List Attribute) :
    rewriteAttributes step (⟨name, .static text, position⟩ :: rest) state =
      let behind := rewriteAttributes step rest state
      (⟨name, .static text, position⟩ :: behind.1, behind.2) := rfl

/-- Of an attribute with an expression only the insets are rewritten. -/
theorem rewriteAttributes_dynamic (name code : String) (insets : List Inset)
    (place position : Position) (rest : List Attribute) :
    rewriteAttributes step (⟨name, .dynamic ⟨code, insets, place⟩, position⟩ :: rest) state =
      let walked := rewriteInsets step insets state
      let behind := rewriteAttributes step rest walked.2
      (⟨name, .dynamic ⟨code, walked.1, place⟩, position⟩ :: behind.1, behind.2) := rfl

theorem rewriteInsets_nil : rewriteInsets step [] state = ([], state) := rfl

/-- Insets are rewritten in order, each in its place. -/
theorem rewriteInsets_cons (start stop : UInt32) (fragment : Bool) (nodes : List Node)
    (rest : List Inset) :
    rewriteInsets step (⟨start, stop, fragment, nodes⟩ :: rest) state =
      let walked := rewriteNodes step nodes state
      let behind := rewriteInsets step rest walked.2
      (⟨start, stop, fragment, walked.1⟩ :: behind.1, behind.2) := rfl

/-- A pass changes nothing of attributes but the insets of their expressions. -/
theorem rewriteAttributes_outline (attributes : List Attribute) :
    (rewriteAttributes step attributes state).1.map Attribute.outline =
      attributes.map Attribute.outline := by
  induction attributes generalizing state with
  | nil => rfl
  | cons entry rest ih =>
    obtain ⟨name, value, position⟩ := entry
    cases value with
    | bare =>
      rw [rewriteAttributes_bare, List.map_cons, List.map_cons, ih]
    | static text =>
      rw [rewriteAttributes_static, List.map_cons, List.map_cons, ih]
    | dynamic expression =>
      obtain ⟨code, insets, place⟩ := expression
      rw [rewriteAttributes_dynamic, List.map_cons, List.map_cons, ih]
      rfl

/-- An element keeps its outline when what is below it is rewritten. -/
theorem outline_walked (tag : String) (attributes : List Attribute) (children children' : List Node)
    (position : Position) :
    Element.outline ⟨tag, (rewriteAttributes step attributes state).1, children', position⟩ =
      Element.outline ⟨tag, attributes, children, position⟩ := by
  unfold Element.outline
  rw [rewriteAttributes_outline]

/-- A step that changes nothing of an element but its children. -/
def KeepsOutline (step : Element → StateM σ Element) : Prop :=
  ∀ element state, (step element state).1.outline = element.outline

variable {step}

/-- An element keeps its outline when it is rewritten below and then by the step. -/
theorem KeepsOutline.rewritten (h : KeepsOutline step) (tag : String)
    (attributes : List Attribute) (children children' : List Node) (position : Position)
    (state' : σ) :
    (step ⟨tag, (rewriteAttributes step attributes state).1, children', position⟩ state').1.outline =
      Element.outline ⟨tag, attributes, children, position⟩ := by
  rw [h, outline_walked]

/-- A pass that keeps outlines changes no node of a list as seen from the list. -/
theorem KeepsOutline.nodes (h : KeepsOutline step) (nodes : List Node) :
    (rewriteNodes step nodes state).1.map Node.outline = nodes.map Node.outline := by
  induction nodes generalizing state with
  | nil => rfl
  | cons node rest ih =>
    cases node with
    | element element =>
      obtain ⟨tag, attributes, children, position⟩ := element
      rw [rewriteNodes_element, List.map_cons, List.map_cons, ih]
      have ho := h.rewritten state tag attributes children
      exact congrArg (fun head => Node.element head :: rest.map Node.outline) (ho _ position _)
    | text run => rw [rewriteNodes_text, List.map_cons, List.map_cons, ih]
    | expression expression =>
      obtain ⟨code, insets, position⟩ := expression
      rw [rewriteNodes_expression, List.map_cons, List.map_cons, ih]
      rfl

/-- What every step does to the state, in the sense of a reflexive and transitive relation,
a whole pass does too. -/
theorem rewrite_relates {R : σ → σ → Prop} (hrefl : ∀ s, R s s)
    (htrans : ∀ {a b c}, R a b → R b c → R a c) (hstep : ∀ element s, R s (step element s).2) :
    TreeInduction (fun nodes => ∀ s, R s (rewriteNodes step nodes s).2)
      (fun attributes => ∀ s, R s (rewriteAttributes step attributes s).2)
      (fun insets => ∀ s, R s (rewriteInsets step insets s).2) where
  noNodes := hrefl
  element _ _ _ _ _ hattributes hchildren hrest s :=
    htrans (htrans (htrans (hattributes s) (hchildren _)) (hstep _ _)) (hrest _)
  text _ _ hrest := hrest
  expression _ _ _ _ hinsets hrest s := htrans (hinsets s) (hrest _)
  noAttributes := hrefl
  bare _ _ _ hrest := hrest
  static _ _ _ _ hrest := hrest
  dynamic _ _ _ _ _ _ hinsets hrest s := htrans (hinsets s) (hrest _)
  noInsets := hrefl
  inset _ _ _ _ _ hnodes hrest s := htrans (hnodes s) (hrest _)

/-- If the steps of a pass take a map of the state along, then so does the pass. -/
theorem rewrite_commutes {φ : σ → σ}
    (hstep : ∀ element s, step element (φ s) = ((step element s).1, φ (step element s).2)) :
    TreeInduction
      (fun nodes => ∀ s, rewriteNodes step nodes (φ s) =
        ((rewriteNodes step nodes s).1, φ (rewriteNodes step nodes s).2))
      (fun attributes => ∀ s, rewriteAttributes step attributes (φ s) =
        ((rewriteAttributes step attributes s).1, φ (rewriteAttributes step attributes s).2))
      (fun insets => ∀ s, rewriteInsets step insets (φ s) =
        ((rewriteInsets step insets s).1, φ (rewriteInsets step insets s).2)) where
  noNodes _ := rfl
  element _ _ _ _ _ hattributes hchildren hrest s := by
    simp only [rewriteNodes_element, hattributes, hchildren, hstep, hrest]
  text _ _ hrest s := by
    simp only [rewriteNodes_text, hrest]
  expression _ _ _ _ hinsets hrest s := by
    simp only [rewriteNodes_expression, hinsets, hrest]
  noAttributes _ := rfl
  bare _ _ _ hrest s := by
    simp only [rewriteAttributes_bare, hrest]
  static _ _ _ _ hrest s := by
    simp only [rewriteAttributes_static, hrest]
  dynamic _ _ _ _ _ _ hinsets hrest s := by
    simp only [rewriteAttributes_dynamic, hinsets, hrest]
  noInsets _ := rfl
  inset _ _ _ _ _ hnodes hrest s := by
    simp only [rewriteInsets_cons, hnodes, hrest]

/-- A pass whose step leaves every element of a tree as it is leaves the tree as it is. -/
theorem rewrite_fixed (s : σ) :
    TreeInduction
      (fun nodes => (∀ element ∈ elementsIn nodes, step element s = (element, s)) →
        rewriteNodes step nodes s = (nodes, s))
      (fun attributes => (∀ element ∈ elementsInAttributes attributes, step element s = (element, s)) →
        rewriteAttributes step attributes s = (attributes, s))
      (fun insets => (∀ element ∈ elementsInInsets insets, step element s = (element, s)) →
        rewriteInsets step insets s = (insets, s)) where
  noNodes _ := rfl
  element _ _ _ _ _ hattributes hchildren hrest hall := by
    simp only [elementsIn, Node.elements, List.forall_mem_append, List.forall_mem_cons] at hall
    obtain ⟨⟨hself, hfa, hfc⟩, hfr⟩ := hall
    simp only [rewriteNodes_element, hattributes hfa, hchildren hfc, hself, hrest hfr]
  text _ _ hrest hall := by
    simp only [rewriteNodes_text, hrest hall]
  expression _ _ _ _ hinsets hrest hall := by
    simp only [elementsIn, Node.elements, List.forall_mem_append] at hall
    simp only [rewriteNodes_expression, hinsets hall.1, hrest hall.2]
  noAttributes _ := rfl
  bare _ _ _ hrest hall := by
    simp only [rewriteAttributes_bare, hrest hall]
  static _ _ _ _ hrest hall := by
    simp only [rewriteAttributes_static, hrest hall]
  dynamic _ _ _ _ _ _ hinsets hrest hall := by
    simp only [elementsInAttributes, List.forall_mem_append] at hall
    simp only [rewriteAttributes_dynamic, hinsets hall.1, hrest hall.2]
  noInsets _ := rfl
  inset _ _ _ _ _ hnodes hrest hall := by
    simp only [elementsInInsets, List.forall_mem_append] at hall
    simp only [rewriteInsets_cons, hnodes hall.1, hrest hall.2]

end MiniTemplate
