import MiniTemplate.Proofs.Auditing
import MiniTemplate.Proofs.Settlement

/-!
# Documents without references are accepted

Lifting makes references that agree with the registry it leaves, and inlining takes
some of them away; so the audit finds nothing wrong with what the two passes make of
a document that had no references. All that can stop such a document is a template
that its author put into a text container.
-/

namespace MiniTemplate

/-- A reference with a registered selector and a text mark where it stands in text. -/
def Placed.Registered (selectors : List String) (placed : Placed) : Prop :=
  (∃ selector ∈ selectors, placed.reference.staticText? selectorName = some selector) ∧
    placed.reference.hasAttribute textMarkName = placed.inText

/-- A ledger after references have been made: their keys are the ones drawn, in some order, and
their selectors are registered. -/
def Ledger.Serves (before after : Ledger) (placed : List Placed) : Prop :=
  ∃ keys, before.Draws after keys ∧ (placed.map Placed.key).Perm keys ∧
    ∀ entry ∈ placed, entry.Registered after.registry.selectors

namespace Ledger.Serves

variable {before middle after : Ledger} {placed placed' : List Placed}

theorem refl (ledger : Ledger) : ledger.Serves ledger [] :=
  ⟨[], .refl ledger, .nil, by simp⟩

/-- References made earlier stay registered while others are made. -/
theorem trans (h : before.Serves middle placed) (h' : middle.Serves after placed') :
    before.Serves after (placed ++ placed') := by
  obtain ⟨keys, hd, hp, hr⟩ := h
  obtain ⟨keys', hd', hp', hr'⟩ := h'
  refine ⟨keys ++ keys', hd.trans hd', ?_, ?_⟩
  · rw [List.map_append]
    exact hp.append hp'
  · refine List.forall_mem_append.mpr ⟨fun entry hm => ?_, hr'⟩
    obtain ⟨⟨selector, hs, he⟩, hmark⟩ := hr entry hm
    obtain ⟨s, k, p, hg, -⟩ := hd'
    exact ⟨⟨selector, hg.selectors_subset hs, he⟩, hmark⟩

/-- The order in which references are listed does not matter. -/
theorem perm (h : before.Serves after placed) (hp : placed.Perm placed') :
    before.Serves after placed' := by
  obtain ⟨keys, hd, hk, hr⟩ := h
  exact ⟨keys, hd, (hp.symm.map Placed.key).trans hk, fun entry hm => hr entry (hp.mem_iff.mpr hm)⟩

/-- References made from a ledger agree with the registry it becomes. -/
theorem agreeing (h : before.Serves after placed) :
    Agreeing after.registry.selectors placed := by
  obtain ⟨keys, hd, hp, hr⟩ := h
  have hnodup := hp.nodup_iff.mpr hd.nodup
  obtain ⟨s, k, p, -, rfl⟩ := hd
  refine ⟨fun entry hm => ?_, hnodup, fun entry hm => ?_, fun entry hm => ?_⟩
  · have hkey := hp.mem_iff.mp (List.mem_map_of_mem hm)
    obtain ⟨name, -, he⟩ := List.mem_map.mp hkey
    rw [← he]
    rfl
  · obtain ⟨⟨selector, hs, he⟩, -⟩ := hr entry hm
    simp [selectorCause?, he, hs]
  · obtain ⟨-, hmark⟩ := hr entry hm
    simp [markCause?, hmark]

end Ledger.Serves

/-- No references stand among nodes whose elements are none. -/
theorem placedChildren_eq_nil {inText : Bool} {nodes : List Node}
    (h : ∀ element, .element element ∈ nodes → element.isReference = false) :
    placedChildren inText nodes = [] := by
  induction nodes with
  | nil => rfl
  | cons node rest ih =>
    have hrest := ih fun element hm => h element (List.mem_cons_of_mem _ hm)
    cases node with
    | element inner => rw [placedChildren, h inner List.mem_cons_self, hrest]; rfl
    | text run => exact hrest
    | expression script => exact hrest

/-- What lifted children hold: one reference for each key, with a selector in use and marked
as their container is. -/
theorem Lifts.placedChildren_spec {inText : Bool} {selectors keys : List String}
    {before after : List Node} (h : Lifts inText selectors keys before after)
    (hfree : ∀ element, .element element ∈ before → element.isReference = false) :
    (placedChildren inText after).map Placed.key = keys.map some ∧
      ∀ entry ∈ placedChildren inText after, entry.Registered selectors := by
  induction h with
  | nil => exact ⟨rfl, by simp [placedChildren]⟩
  | expression script key selector hs h ih =>
    obtain ⟨hkeys, hreg⟩ := ih fun element hm => hfree element (List.mem_cons_of_mem _ hm)
    rw [placedChildren, if_pos (isReference_reference script key selector inText), List.map_cons,
      hkeys]
    refine ⟨?_, List.forall_mem_cons.mpr ⟨⟨⟨selector, hs, ?_⟩, ?_⟩, hreg⟩⟩
    · rw [Placed.key, staticText?_reference]
      rfl
    · cases inText <;> rfl
    · cases inText <;> rfl
  | element inner h ih =>
    rw [placedChildren, hfree inner List.mem_cons_self, if_neg Bool.false_ne_true]
    exact ih fun element hm => hfree element (List.mem_cons_of_mem _ hm)
  | text run h ih => exact ih fun element hm => hfree element (List.mem_cons_of_mem _ hm)

/-- A reference holds what its expression held. -/
theorem placedIn_reference (dialect : Dialect) (script : Expression) (key selector : String)
    (inText : Bool) (rest : List Node) :
    placedIn dialect (.element (reference script key selector inText) :: rest) =
      placedIn dialect (.expression script :: rest) := by
  obtain ⟨code, insets, position⟩ := script
  cases inText <;> simp [reference, placedIn, placedInAttributes, placedChildren,
    Attribute.ofText, Attribute.ofExpression, Attribute.marker]

/-- Lifting children moves what is below them and changes nothing of it. -/
theorem Lifts.placedIn_eq {inText : Bool} {selectors keys : List String}
    {before after : List Node} (dialect : Dialect) (h : Lifts inText selectors keys before after) :
    placedIn dialect after = placedIn dialect before := by
  induction h with
  | nil => rfl
  | expression script key selector hs h ih =>
    obtain ⟨code, insets, position⟩ := script
    rw [placedIn_reference, placedIn, placedIn, ih]
  | element inner h ih =>
    obtain ⟨tag, attributes, children, position⟩ := inner
    rw [placedIn, placedIn, ih]
  | text run h ih => rw [placedIn, placedIn, ih]

/-- The references at and below an element, in the order of the audit. -/
theorem placedIn_element (dialect : Dialect) (element : Element) (rest : List Node) :
    placedIn dialect (.element element :: rest) =
      placedInAttributes dialect element.attributes ++
        placedChildren (dialect.marksChildren element) element.children ++
        placedIn dialect element.children ++ placedIn dialect rest := by
  obtain ⟨tag, attributes, children, position⟩ := element
  rw [placedIn]

/-- The references that a step makes are served by the ledger it leaves; what is below the
element stays. -/
theorem liftStep_serves {dialect : Dialect} (hd : dialect.ByTag) (element : Element)
    (ledger : Ledger)
    (hfree : ∀ inner, .element inner ∈ element.children → inner.isReference = false) :
    let lifted := liftStep dialect element ledger
    ledger.Serves lifted.2 (placedChildren (dialect.marksChildren lifted.1) lifted.1.children) ∧
      placedIn dialect lifted.1.children = placedIn dialect element.children ∧
      lifted.1.attributes = element.attributes := by
  intro lifted
  rcases liftStep_cases dialect element ledger with
    ⟨hc, he⟩ | ⟨hc, children, after, s, k, p, he, hg, hl⟩
  · have hlifted : lifted = (element, ledger) := he
    rw [hlifted]
    refine ⟨?_, rfl, rfl⟩
    rw [placedChildren_eq_nil hfree]
    exact .refl ledger
  · have hlifted : lifted =
        (⟨element.tag, element.attributes, children, element.position⟩, after) := he
    have hmark : dialect.marksChildren ⟨element.tag, element.attributes, children, element.position⟩ =
        dialect.isText element := by
      have htext := hd ⟨element.tag, element.attributes, children, element.position⟩ element rfl
      simp [Dialect.marksChildren, htext, hc]
    obtain ⟨hkeys, hreg⟩ := hl.placedChildren_spec hfree
    rw [hlifted]
    dsimp only
    rw [hmark]
    exact ⟨⟨_, ⟨s, k, p, hg, rfl⟩, .of_eq hkeys, hreg⟩, hl.placedIn_eq dialect, rfl⟩

/-- The references that a pass makes in nodes without references are served by the ledger it
leaves. -/
theorem lift_serves {dialect : Dialect} (hd : dialect.ByTag) :
    TreeInduction
      (fun nodes => (∀ element ∈ elementsIn nodes, element.isReference = false) →
        ∀ ledger : Ledger, ledger.Serves (rewriteNodes (liftStep dialect) nodes ledger).2
          (placedIn dialect (rewriteNodes (liftStep dialect) nodes ledger).1))
      (fun attributes => (∀ element ∈ elementsInAttributes attributes, element.isReference = false) →
        ∀ ledger : Ledger, ledger.Serves (rewriteAttributes (liftStep dialect) attributes ledger).2
          (placedInAttributes dialect (rewriteAttributes (liftStep dialect) attributes ledger).1))
      (fun insets => (∀ element ∈ elementsInInsets insets, element.isReference = false) →
        ∀ ledger : Ledger, ledger.Serves (rewriteInsets (liftStep dialect) insets ledger).2
          (placedInInsets dialect (rewriteInsets (liftStep dialect) insets ledger).1)) where
  noNodes _ ledger := by
    rw [rewriteNodes_nil, placedIn]
    exact .refl ledger
  element tag attributes children position rest hattributes hchildren hrest hfree ledger := by
    simp only [elementsIn, Node.elements, List.forall_mem_append, List.forall_mem_cons] at hfree
    obtain ⟨⟨-, hfa, hfc⟩, hfr⟩ := hfree
    have houtline := (liftStep_keepsOutline dialect).nodes
      (rewriteAttributes (liftStep dialect) attributes ledger).2 children
    rw [rewriteNodes_element]
    dsimp only
    have hfirst := hattributes hfa ledger
    generalize rewriteAttributes (liftStep dialect) attributes ledger = walked at hfirst houtline ⊢
    have hsecond := hchildren hfc walked.2
    generalize rewriteNodes (liftStep dialect) children walked.2 = below at hsecond houtline ⊢
    -- the children have been rewritten, but they are references as little as before
    have hnone : ∀ inner, Node.element inner ∈ below.1 → inner.isReference = false := by
      intro inner hm
      obtain ⟨inner', hm', ho⟩ := exists_element_of_outline houtline hm
      rw [← Element.isReference_congr ho]
      exact hfc inner' (mem_elementsIn hm')
    obtain ⟨hthird, hbelow, hattr⟩ :=
      liftStep_serves hd ⟨tag, walked.1, below.1, position⟩ below.2 hnone
    rw [placedIn_element, hbelow, hattr]
    have hall := ((hfirst.trans hsecond).trans hthird).trans (hrest hfr _)
    apply hall.perm
    apply List.Perm.append_right
    rw [List.append_assoc, List.append_assoc]
    exact List.perm_append_comm.append_left _
  text run rest hrest hfree ledger := by
    rw [rewriteNodes_text]
    dsimp only
    rw [placedIn]
    exact hrest hfree ledger
  expression code insets position rest hinsets hrest hfree ledger := by
    simp only [elementsIn, Node.elements, List.forall_mem_append] at hfree
    rw [rewriteNodes_expression]
    dsimp only
    rw [placedIn]
    exact (hinsets hfree.1 ledger).trans (hrest hfree.2 _)
  noAttributes _ ledger := by
    rw [rewriteAttributes_nil, placedInAttributes]
    exact .refl ledger
  bare name position rest hrest hfree ledger := by
    rw [rewriteAttributes_bare]
    simp only [placedInAttributes]
    exact hrest hfree ledger
  static name text position rest hrest hfree ledger := by
    rw [rewriteAttributes_static]
    simp only [placedInAttributes]
    exact hrest hfree ledger
  dynamic name code insets place position rest hinsets hrest hfree ledger := by
    simp only [elementsInAttributes, List.forall_mem_append] at hfree
    rw [rewriteAttributes_dynamic]
    dsimp only
    rw [placedInAttributes]
    exact (hinsets hfree.1 ledger).trans (hrest hfree.2 _)
  noInsets _ ledger := by
    rw [rewriteInsets_nil, placedInInsets]
    exact .refl ledger
  inset start stop fragment nodes rest hnodes hrest hfree ledger := by
    simp only [elementsInInsets, List.forall_mem_append] at hfree
    rw [rewriteInsets_cons]
    dsimp only
    rw [placedInInsets]
    exact (hnodes hfree.1 ledger).trans (hrest hfree.2 _)

/-- Inlining takes references away from the children of a container and adds none. -/
theorem Inlines.placedChildren_sublist {path container : String} {before after : List Node}
    {bindings : List Binding} {failure : Option Diagnostic} (inText : Bool)
    (h : Inlines path container before after bindings failure) :
    (placedChildren inText after).Sublist (placedChildren inText before) := by
  induction h with
  | nil => exact .refl _
  | shown inner key ht hk h ih =>
    rw [placedChildren, placedChildren]
    · split
      · exact ih.cons _
      · exact ih
    · simp
  | stopped inner ht hk => exact .refl _
  | element inner ht h ih =>
    rw [placedChildren, placedChildren]
    split
    · exact ih.cons_cons _
    · exact ih
  | text run h ih => exact ih
  | expression script h ih => exact ih

/-- Inlining takes away what stood below references and adds nothing. -/
theorem Inlines.placedIn_sublist {path container : String} {before after : List Node}
    {bindings : List Binding} {failure : Option Diagnostic} (dialect : Dialect)
    (h : Inlines path container before after bindings failure) :
    (placedIn dialect after).Sublist (placedIn dialect before) := by
  induction h with
  | nil => exact .refl _
  | shown inner key ht hk h ih =>
    rw [placedIn, placedIn_element]
    exact ih.trans (List.sublist_append_right _ _)
  | stopped inner ht hk => exact .refl _
  | element inner ht h ih =>
    rw [placedIn_element, placedIn_element]
    exact ih.append_left _
  | text run h ih =>
    rw [placedIn, placedIn]
    exact ih
  | expression script h ih =>
    obtain ⟨code, insets, position⟩ := script
    rw [placedIn, placedIn]
    exact ih.append_left _

/-- Nodes with the same outlines hold references with the same outlines. -/
theorem placedChildren_outline {inText : Bool} {nodes nodes' : List Node}
    (h : nodes.map Node.outline = nodes'.map Node.outline) :
    (placedChildren inText nodes).map Placed.outline =
      (placedChildren inText nodes').map Placed.outline := by
  induction nodes generalizing nodes' with
  | nil =>
    obtain rfl : nodes' = [] := by simpa using h.symm
    rfl
  | cons node rest ih =>
    obtain ⟨node', rest', rfl, hn, hr⟩ := List.map_eq_cons_iff.mp h.symm
    have hrest := ih hr.symm
    cases node with
    | element inner =>
      cases node' with
      | element inner' =>
        have ho : inner'.outline = inner.outline := Node.element.inj hn
        rw [placedChildren, placedChildren, Element.isReference_congr ho]
        split
        · rw [List.map_cons, List.map_cons, hrest, Placed.outline, Placed.outline, ho]
        · exact hrest
      | text run => simp [Node.outline] at hn
      | expression script => simp [Node.outline] at hn
    | text run =>
      cases node' with
      | element inner' => simp [Node.outline] at hn
      | text run' => exact hrest
      | expression script => simp [Node.outline] at hn
    | expression script =>
      cases node' with
      | element inner' => simp [Node.outline] at hn
      | text run => simp [Node.outline] at hn
      | expression script' => exact hrest

/-- In a dialect that goes by tags, elements with the same tag mark their children alike. -/
theorem Dialect.ByTag.marksChildren_congr {dialect : Dialect} (hd : dialect.ByTag) (a b : Element)
    (h : a.tag = b.tag) : dialect.marksChildren a = dialect.marksChildren b := by
  unfold Dialect.marksChildren
  rw [hd a b h, h]

/-- What a step of inlining leaves of the references at and below an element. -/
theorem inlineStep_placed {dialect : Dialect} (hd : dialect.ByTag) (path : String)
    (element : Element) (state : Inlined) :
    let inlined := (inlineStep dialect path element state).1
    (placedChildren (dialect.marksChildren inlined) inlined.children).Sublist
        (placedChildren (dialect.marksChildren element) element.children) ∧
      (placedIn dialect inlined.children).Sublist (placedIn dialect element.children) ∧
      inlined.attributes = element.attributes := by
  intro inlined
  rcases inlineStep_cases dialect path element state with ⟨-, he⟩ | ⟨-, -, children, _, _, he, h⟩
  · have hinlined : inlined = element := congrArg Prod.fst he
    rw [hinlined]
    exact ⟨.refl _, .refl _, rfl⟩
  · have hinlined : inlined = ⟨element.tag, element.attributes, children, element.position⟩ :=
      congrArg Prod.fst he
    rw [hinlined, hd.marksChildren_congr ⟨element.tag, element.attributes, children, element.position⟩
      element rfl]
    exact ⟨h.placedChildren_sublist _, h.placedIn_sublist dialect, rfl⟩

/-- A pass of inlining leaves some of the references, in their order and with their outlines. -/
theorem inline_placed {dialect : Dialect} (hd : dialect.ByTag) (path : String) :
    TreeInduction
      (fun nodes => ∀ state,
        ((placedIn dialect (rewriteNodes (inlineStep dialect path) nodes state).1).map
          Placed.outline).Sublist ((placedIn dialect nodes).map Placed.outline))
      (fun attributes => ∀ state,
        ((placedInAttributes dialect
          (rewriteAttributes (inlineStep dialect path) attributes state).1).map
            Placed.outline).Sublist ((placedInAttributes dialect attributes).map Placed.outline))
      (fun insets => ∀ state,
        ((placedInInsets dialect (rewriteInsets (inlineStep dialect path) insets state).1).map
          Placed.outline).Sublist ((placedInInsets dialect insets).map Placed.outline)) where
  noNodes _ := .refl _
  element tag attributes children position rest hattributes hchildren hrest state := by
    have houtline := (inlineStep_keepsOutline dialect path).nodes
      (rewriteAttributes (inlineStep dialect path) attributes state).2 children
    rw [rewriteNodes_element]
    dsimp only
    have hfirst := hattributes state
    generalize rewriteAttributes (inlineStep dialect path) attributes state = walked
      at hfirst houtline ⊢
    have hsecond := hchildren walked.2
    generalize rewriteNodes (inlineStep dialect path) children walked.2 = below at hsecond houtline ⊢
    obtain ⟨hhere, hbelow, hattr⟩ :=
      inlineStep_placed hd path ⟨tag, walked.1, below.1, position⟩ below.2
    rw [hd.marksChildren_congr ⟨tag, walked.1, below.1, position⟩
      ⟨tag, attributes, children, position⟩ rfl] at hhere
    have hhere' := hhere.map Placed.outline
    rw [placedChildren_outline houtline] at hhere'
    rw [placedIn_element, placedIn_element, hattr]
    simp only [List.map_append]
    exact ((hfirst.append hhere').append ((hbelow.map _).trans hsecond)).append (hrest _)
  text run rest hrest state := by
    rw [rewriteNodes_text]
    simp only [placedIn]
    exact hrest state
  expression code insets position rest hinsets hrest state := by
    rw [rewriteNodes_expression]
    simp only [placedIn, List.map_append]
    exact (hinsets state).append (hrest _)
  noAttributes _ := .refl _
  bare name position rest hrest state := by
    rw [rewriteAttributes_bare]
    simp only [placedInAttributes]
    exact hrest state
  static name text position rest hrest state := by
    rw [rewriteAttributes_static]
    simp only [placedInAttributes]
    exact hrest state
  dynamic name code insets place position rest hinsets hrest state := by
    rw [rewriteAttributes_dynamic]
    simp only [placedInAttributes, List.map_append]
    exact (hinsets state).append (hrest _)
  noInsets _ := .refl _
  inset start stop fragment nodes rest hnodes hrest state := by
    rw [rewriteInsets_cons]
    simp only [placedInInsets, List.map_append]
    exact (hnodes state).append (hrest _)

/-- Whether a node is an element tagged as a template. -/
def Node.isTemplate : Node → Bool
  | .element inner => inner.tag == templateTag
  | _ => false

/-- Whether an element is a text container with a template among its children. -/
def Element.holdsTemplate (dialect : Dialect) (element : Element) : Bool :=
  dialect.isText element && element.children.any Node.isTemplate

/-- Where there are no references, templates have no data keys. -/
theorem any_isKeyless_of_free {nodes : List Node}
    (h : ∀ element, .element element ∈ nodes → element.isReference = false) :
    nodes.any Node.isKeyless = nodes.any Node.isTemplate := by
  induction nodes with
  | nil => rfl
  | cons node rest ih =>
    have hrest := ih fun element hm => h element (List.mem_cons_of_mem _ hm)
    rw [List.any_cons, List.any_cons, hrest]
    cases node with
    | element inner =>
      by_cases ht : inner.tag = templateTag
      · have hk := Element.staticText?_of_not_reference ht (h inner List.mem_cons_self)
        simp [Node.isKeyless, Node.isTemplate, hk]
      · have hb : (inner.tag == templateTag) = false := beq_eq_false_iff_ne.mpr ht
        simp [Node.isKeyless, Node.isTemplate, hb]
    | text run => rfl
    | expression script => rfl

/-- References have data keys, so lifting adds no template without one. -/
theorem Lifts.any_isKeyless {inText : Bool} {selectors keys : List String}
    {before after : List Node} (h : Lifts inText selectors keys before after) :
    after.any Node.isKeyless = before.any Node.isKeyless := by
  induction h with
  | nil => rfl
  | expression script key selector hs h ih =>
    rw [List.any_cons, List.any_cons, ih, Node.isKeyless, staticText?_reference]
    simp [Node.isKeyless]
  | element inner h ih => rw [List.any_cons, List.any_cons, ih]
  | text run h ih => rw [List.any_cons, List.any_cons, ih]

/-- References have no children, so lifting adds no container with a template in it. -/
theorem Lifts.any_holdsKeyless {inText : Bool} {selectors keys : List String}
    {before after : List Node} (dialect : Dialect) (h : Lifts inText selectors keys before after) :
    (elementsIn after).any (Element.holdsKeyless dialect) =
      (elementsIn before).any (Element.holdsKeyless dialect) := by
  induction h with
  | nil => rfl
  | expression script key selector hs h ih =>
    have hr : (reference script key selector inText).holdsKeyless dialect = false := by
      simp [Element.holdsKeyless, reference]
    rw [elementsIn, elementsIn, elements_reference, List.any_append, List.any_append, ih,
      List.any_cons, hr, Bool.false_or]
  | element inner h ih => rw [elementsIn, elementsIn, List.any_append, List.any_append, ih]
  | text run h ih => rw [elementsIn, elementsIn, List.any_append, List.any_append, ih]

/-- After a step, a template without a data key stands in a container at or below the element
exactly if one did before. -/
theorem liftStep_any_holdsKeyless {dialect : Dialect} (hd : dialect.ByTag) (element : Element)
    (ledger : Ledger) :
    (Node.element (liftStep dialect element ledger).1).elements.any (Element.holdsKeyless dialect) =
      (Node.element element).elements.any (Element.holdsKeyless dialect) := by
  rcases liftStep_cases dialect element ledger with ⟨-, he⟩ | ⟨-, children, _, _, _, _, he, -, hl⟩
  · rw [he]
  · rw [he]
    have htext := hd ⟨element.tag, element.attributes, children, element.position⟩ element rfl
    obtain ⟨tag, attributes, children', position⟩ := element
    dsimp only at hl htext ⊢
    simp only [Node.elements, List.any_cons, List.any_append, Element.holdsKeyless, htext,
      hl.any_isKeyless]
    rw [← Element.holdsKeyless, hl.any_holdsKeyless dialect]

/-- After lifting, templates without data keys stand in text containers exactly where the
document had templates there. -/
theorem lift_holdsKeyless {dialect : Dialect} (hd : dialect.ByTag) :
    TreeInduction
      (fun nodes => (∀ element ∈ elementsIn nodes, element.isReference = false) → ∀ ledger,
        (elementsIn (rewriteNodes (liftStep dialect) nodes ledger).1).any
          (Element.holdsKeyless dialect) = (elementsIn nodes).any (Element.holdsTemplate dialect))
      (fun attributes => (∀ element ∈ elementsInAttributes attributes, element.isReference = false) →
        ∀ ledger,
          (elementsInAttributes (rewriteAttributes (liftStep dialect) attributes ledger).1).any
          (Element.holdsKeyless dialect) =
            (elementsInAttributes attributes).any (Element.holdsTemplate dialect))
      (fun insets => (∀ element ∈ elementsInInsets insets, element.isReference = false) →
        ∀ ledger, (elementsInInsets (rewriteInsets (liftStep dialect) insets ledger).1).any
          (Element.holdsKeyless dialect) =
            (elementsInInsets insets).any (Element.holdsTemplate dialect)) where
  noNodes _ _ := rfl
  element tag attributes children position rest hattributes hchildren hrest hfree ledger := by
    simp only [elementsIn, Node.elements, List.forall_mem_append, List.forall_mem_cons] at hfree
    obtain ⟨⟨-, hfa, hfc⟩, hfr⟩ := hfree
    have houtline := (liftStep_keepsOutline dialect).nodes
      (rewriteAttributes (liftStep dialect) attributes ledger).2 children
    rw [rewriteNodes_element]
    dsimp only
    have hfirst := hattributes hfa ledger
    generalize rewriteAttributes (liftStep dialect) attributes ledger = walked at hfirst houtline ⊢
    have hsecond := hchildren hfc walked.2
    generalize rewriteNodes (liftStep dialect) children walked.2 = below at hsecond houtline ⊢
    have hself : Element.holdsKeyless dialect ⟨tag, walked.1, below.1, position⟩ =
        Element.holdsTemplate dialect ⟨tag, attributes, children, position⟩ := by
      rw [hd.holdsKeyless_congr ⟨tag, walked.1, below.1, position⟩
        ⟨tag, attributes, children, position⟩ rfl houtline]
      unfold Element.holdsKeyless Element.holdsTemplate
      rw [any_isKeyless_of_free fun inner hm => hfc inner (mem_elementsIn hm)]
    rw [elementsIn, List.any_append, liftStep_any_holdsKeyless hd, hrest hfr, elementsIn,
      List.any_append]
    simp only [Node.elements, List.any_cons, List.any_append, hself, hfirst, hsecond]
  text run rest hrest hfree ledger := by
    rw [rewriteNodes_text]
    exact hrest hfree ledger
  expression code insets position rest hinsets hrest hfree ledger := by
    simp only [elementsIn, Node.elements, List.forall_mem_append] at hfree
    rw [rewriteNodes_expression]
    simp only [elementsIn, Node.elements, List.any_append, hinsets hfree.1, hrest hfree.2]
  noAttributes _ _ := rfl
  bare name position rest hrest hfree ledger := by
    rw [rewriteAttributes_bare]
    exact hrest hfree ledger
  static name text position rest hrest hfree ledger := by
    rw [rewriteAttributes_static]
    exact hrest hfree ledger
  dynamic name code insets place position rest hinsets hrest hfree ledger := by
    simp only [elementsInAttributes, List.forall_mem_append] at hfree
    rw [rewriteAttributes_dynamic]
    simp only [elementsInAttributes, List.any_append, hinsets hfree.1, hrest hfree.2]
  noInsets _ _ := rfl
  inset start stop fragment nodes rest hnodes hrest hfree ledger := by
    simp only [elementsInInsets, List.forall_mem_append] at hfree
    rw [rewriteInsets_cons]
    simp only [elementsInInsets, List.any_append, hnodes hfree.1, hrest hfree.2]

/-- A text container anywhere in a document has a template among its children. -/
def Document.HasTemplateInText (dialect : Dialect) (document : Document) : Prop :=
  ∃ element ∈ elementsIn document.nodes, dialect.isText element = true ∧
    ∃ child, .element child ∈ element.children ∧ child.tag = templateTag

/-- Among nodes there is a template exactly if one of them is an element with its tag. -/
theorem any_isTemplate {nodes : List Node} :
    nodes.any Node.isTemplate = true ↔ ∃ child, .element child ∈ nodes ∧ child.tag = templateTag := by
  rw [List.any_eq_true]
  constructor
  · rintro ⟨node, hm, ht⟩
    cases node with
    | element child => exact ⟨child, hm, by simpa [Node.isTemplate] using ht⟩
    | text run => simp [Node.isTemplate] at ht
    | expression script => simp [Node.isTemplate] at ht
  · rintro ⟨child, hm, ht⟩
    exact ⟨.element child, hm, by simp [Node.isTemplate, ht]⟩

/-- Whether a text container has a template among its children is told by a test of each element. -/
theorem hasTemplateInText_iff (dialect : Dialect) (document : Document) :
    document.HasTemplateInText dialect ↔
      (elementsIn document.nodes).any (Element.holdsTemplate dialect) = true := by
  unfold Document.HasTemplateInText Element.holdsTemplate
  simp only [← any_isTemplate, List.any_eq_true (p := fun _ => _ && _), Bool.and_eq_true]

instance (dialect : Dialect) (document : Document) :
    Decidable (document.HasTemplateInText dialect) :=
  decidable_of_iff _ (hasTemplateInText_iff dialect document).symm

section Lowering

variable {dialect : Dialect} {document : Document} {ledger : Ledger}

/-- The audit finds nothing in what the passes make of a document without references. -/
theorem lower_violations (hd : dialect.ByTag) (hfree : document.ReferenceFree)
    (hledger : Ledger.fresh.Extends ledger) (inlines : Bool) :
    (document.lower dialect inlines ledger).document.violations dialect
      (document.lower dialect inlines ledger).ledger.registry = [] := by
  have hserves := (lift_serves hd).nodes document.nodes hfree ledger
  have hnodup : (document.extract dialect ledger).2.registry.selectors.Nodup := by
    obtain ⟨_, ⟨s, k, p, hg, -⟩, -⟩ := hserves
    obtain ⟨s', k', p', hg'⟩ := hledger
    exact (hg'.trans hg).nodup_selectors
  rw [lower_eq, violations_eq_nil]
  refine ⟨hnodup, ?_⟩
  have hlifted : Agreeing (document.extract dialect ledger).2.registry.selectors
      (placedIn dialect (document.extract dialect ledger).1.nodes) := hserves.agreeing
  cases inlines with
  | false => exact hlifted
  | true =>
    dsimp only
    rw [settleBindings_true, inlineText_eq]
    exact hlifted.of_outline_sublist ((inline_placed hd _).nodes _ _)

/-- Inlining a lifted document stops exactly if the document had a template in text. -/
theorem inlineText_lifted_failure (hd : dialect.ByTag) (hfree : document.ReferenceFree)
    (ledger : Ledger) :
    ((document.extract dialect ledger).1.inlineText dialect).2.failure.isSome = true ↔
      document.HasTemplateInText dialect := by
  rw [inlineText_eq, (inline_failure hd _).nodes, extract_eq]
  dsimp only
  rw [(lift_holdsKeyless hd).nodes document.nodes hfree ledger, hasTemplateInText_iff]
  simp [Inlined.start]

/-- What inlining a document stops for is a missing data key. -/
theorem inlineText_failure_code (dialect : Dialect) (document : Document) :
    ∀ diagnostic ∈ (document.inlineText dialect).2.failure, diagnostic.code = "WX-INV-DATAKEY" := by
  rw [inlineText_eq]
  exact (inline_failure_code dialect document.path).nodes document.nodes .start
    (by simp [Inlined.start])

end Lowering

/-- Lowering a document without references, in any dialect given by tags and after any calls:
without inlining it succeeds; with inlining it succeeds exactly if no text container holds a
template, and else fails for want of a data key. The audit is never what stops it. -/
theorem lower_without_references (textTags : List String) (suffix : String) (document : Document)
    (calls : List Call) (hfree : document.ReferenceFree) :
    let dialect := Dialect.ofTags textTags suffix
    let ledger := (Session.start.run calls).ledger
    (∃ bindings, (document.lower dialect false ledger).outcome = .ok bindings) ∧
      ((∃ bindings, (document.lower dialect true ledger).outcome = .ok bindings) ↔
        ¬ document.HasTemplateInText dialect) ∧
      (document.HasTemplateInText dialect → ∃ diagnostic,
        (document.lower dialect true ledger).outcome = .error diagnostic ∧
          diagnostic.code = "WX-INV-DATAKEY") ∧
      ∀ inlines, (document.lower dialect inlines ledger).document.violations dialect
        (document.lower dialect inlines ledger).ledger.registry = [] := by
  intro dialect ledger
  have hd : dialect.ByTag := Dialect.byTag_ofTags textTags suffix
  have hledger : Ledger.fresh.Extends ledger := Session.start.run_extends calls
  have haccepted := lower_violations hd hfree hledger
  have hstops := inlineText_lifted_failure hd hfree ledger
  have hcode := inlineText_failure_code dialect (document.extract dialect ledger).1
  have houtcome := lower_outcome_of_accepted (haccepted true)
  rw [settleBindings_true] at houtcome
  refine ⟨⟨_, lower_outcome_of_accepted (haccepted false)⟩, ?_, ?_, haccepted⟩
  · rw [← hstops, houtcome]
    cases ((document.extract dialect ledger).1.inlineText dialect).2.failure <;> simp
  · rw [← hstops, houtcome]
    intro hsome
    obtain ⟨diagnostic, hdiagnostic⟩ := Option.isSome_iff_exists.mp hsome
    rw [hdiagnostic]
    exact ⟨diagnostic, rfl, hcode diagnostic hdiagnostic⟩

/-- A template in a text container, inside an expression. -/
def strayTemplate : Document where
  path := "stray.jsx"
  nodes := [.element ⟨"view", [],
    [.expression ⟨"ok && <text><template/></text>",
      [⟨6, 30, false, [.element ⟨"text", [], [.element ⟨"template", [], [], .unknown⟩], .unknown⟩]⟩],
      .unknown⟩], .unknown⟩]

/-- Both outcomes arise, in a dialect where templates are text containers and some of these
are components, on a ledger that another document has used before. -/
theorem lower_without_references_both :
    let dialect := Dialect.ofTags ["text", "template", "rowCPT"] "CPT"
    let ledger := (Session.start.run [.lower .standard true layeredDocument]).ledger
    (layeredDocument.ReferenceFree ∧
        ∃ bindings, (layeredDocument.lower dialect true ledger).outcome = .ok bindings) ∧
      strayTemplate.ReferenceFree ∧ ∃ diagnostic,
        (strayTemplate.lower dialect true ledger).outcome = .error diagnostic ∧
          diagnostic.code = "WX-INV-DATAKEY" := by
  intro dialect ledger
  have hlayered : layeredDocument.ReferenceFree := by decide
  have hstray : strayTemplate.ReferenceFree := by decide
  have hnone : ¬ layeredDocument.HasTemplateInText dialect := by decide
  have hsome : strayTemplate.HasTemplateInText dialect := by decide
  have haccept := lower_without_references ["text", "template", "rowCPT"] "CPT" layeredDocument
    [.lower .standard true layeredDocument] hlayered
  have hreject := lower_without_references ["text", "template", "rowCPT"] "CPT" strayTemplate
    [.lower .standard true layeredDocument] hstray
  exact ⟨⟨hlayered, haccept.2.1.mpr hnone⟩, hstray, hreject.2.2.1 hsome⟩

end MiniTemplate
