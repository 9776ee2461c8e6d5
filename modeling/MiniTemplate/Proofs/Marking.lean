import MiniTemplate.Proofs.Coverage
import MiniTemplate.Proofs.Frames
import MiniTemplate.Proofs.Showing

/-!
# The text mark says which references are shown

Lifting marks the references it makes in text containers; inlining goes by the containers and
does not look at marks. `MarksAgree` says that both come to the same: a child carries the mark
exactly if it is a template in a text container, and nothing without a parent carries it.
Lifting keeps this agreement, and where it holds, showing all spots of a tree is replacing
every element that carries the mark.
-/

namespace MiniTemplate

/-- Whether an element carries the text mark. -/
def Element.isMarked (element : Element) : Bool := element.hasAttribute textMarkName

/-- Whether a reference is marked is told from its outline. -/
theorem Element.isMarked_congr {a b : Element} (h : a.outline = b.outline) :
    a.isMarked = b.isMarked := by
  unfold isMarked
  rw [← hasAttribute_outline a, h, hasAttribute_outline]

/-- A reference made by lifting is marked exactly if it was made in text. -/
theorem Element.isMarked_reference (script : Expression) (key selector : String) (inText : Bool) :
    (reference script key selector inText).isMarked = inText := by
  cases inText <;> rfl

/-- Among nodes of one list, in text or not, the mark is on the templates in text. -/
def MarkedAs (inText : Bool) (nodes : List Node) : Prop :=
  ∀ inner, .element inner ∈ nodes →
    (inner.isMarked = true ↔ inText = true ∧ inner.tag = templateTag)

/-- Whether nodes are marked as they should be is told from their outlines. -/
theorem MarkedAs.of_outline {inText : Bool} {nodes nodes' : List Node} (h : MarkedAs inText nodes)
    (ho : nodes'.map Node.outline = nodes.map Node.outline) : MarkedAs inText nodes' := by
  intro inner hm
  obtain ⟨inner', hm', houtline⟩ := exists_element_of_outline ho hm
  have htag : inner'.outline.tag = inner.outline.tag := congrArg Element.tag houtline
  change inner'.tag = inner.tag at htag
  rw [← Element.isMarked_congr houtline, ← htag]
  exact h inner' hm'

/-- References are marked as their container asks. -/
theorem Lifts.markedAs {inText : Bool} {selectors keys : List String} {before after : List Node}
    (h : Lifts inText selectors keys before after) (hbefore : MarkedAs inText before) :
    MarkedAs inText after := by
  induction h with
  | nil => exact hbefore
  | expression script key selector hs h ih =>
    have hrest := ih fun inner hm => hbefore inner (List.mem_cons_of_mem _ hm)
    intro inner hm
    rcases List.mem_cons.mp hm with heq | hm
    · obtain rfl := Node.element.inj heq
      rw [Element.isMarked_reference]
      exact ⟨fun ht => ⟨ht, rfl⟩, And.left⟩
    · exact hrest inner hm
  | element kept h ih =>
    have hrest := ih fun inner hm => hbefore inner (List.mem_cons_of_mem _ hm)
    intro inner hm
    rcases List.mem_cons.mp hm with heq | hm
    · exact hbefore inner (heq ▸ List.mem_cons_self)
    · exact hrest inner hm
  | text run h ih =>
    have hrest := ih fun inner hm => hbefore inner (List.mem_cons_of_mem _ hm)
    intro inner hm
    exact hrest inner (List.mem_of_ne_of_mem (by simp) hm)

/-- What an element has to do with marks is in order. -/
structure Element.Agrees (dialect : Dialect) (element : Element) : Prop where
  /-- If it is marked, it has a data key. -/
  keyed : element.isMarked = true → (element.staticText? dataKeyName).isSome = true
  /-- Its children are marked as it asks. -/
  children : MarkedAs (dialect.isText element) element.children

/-- For elements and expressions that belong together: marks are where they should be, and
nowhere else. -/
structure MarksAgree (dialect : Dialect) (elements : List Element) (scripts : List Expression) :
    Prop where
  /-- Every element agrees with the marks on it and on its children. -/
  elements : ∀ element ∈ elements, element.Agrees dialect
  /-- What has no parent is not marked. -/
  insets : ∀ script ∈ scripts, ∀ inset ∈ script.insets, MarkedAs false inset.nodes

namespace MarksAgree

variable {dialect : Dialect} {elements elements' : List Element}
  {scripts scripts' : List Expression}

/-- Marks agree in two parts exactly if they do in both. -/
theorem append_iff : MarksAgree dialect (elements ++ elements') (scripts ++ scripts') ↔
    MarksAgree dialect elements scripts ∧ MarksAgree dialect elements' scripts' := by
  constructor
  · intro h
    have helements := List.forall_mem_append.mp h.elements
    have hinsets := List.forall_mem_append.mp h.insets
    exact ⟨⟨helements.1, hinsets.1⟩, ⟨helements.2, hinsets.2⟩⟩
  · rintro ⟨h, h'⟩
    exact ⟨List.forall_mem_append.mpr ⟨h.elements, h'.elements⟩,
      List.forall_mem_append.mpr ⟨h.insets, h'.insets⟩⟩

/-- An element in front adds that it agrees with the marks on it and on its children. -/
theorem element_iff {element : Element} : MarksAgree dialect (element :: elements) scripts ↔
    element.Agrees dialect ∧ MarksAgree dialect elements scripts := by
  constructor
  · intro h
    obtain ⟨hself, hrest⟩ := List.forall_mem_cons.mp h.elements
    exact ⟨hself, hrest, h.insets⟩
  · rintro ⟨hself, h⟩
    exact ⟨List.forall_mem_cons.mpr ⟨hself, h.elements⟩, h.insets⟩

/-- An expression in front adds that nothing at the top of its insets is marked. -/
theorem script_iff {script : Expression} : MarksAgree dialect elements (script :: scripts) ↔
    (∀ inset ∈ script.insets, MarkedAs false inset.nodes) ∧
      MarksAgree dialect elements scripts := by
  constructor
  · intro h
    obtain ⟨hself, hrest⟩ := List.forall_mem_cons.mp h.insets
    exact ⟨hself, h.elements, hrest⟩
  · rintro ⟨hself, h⟩
    exact ⟨h.elements, List.forall_mem_cons.mpr ⟨hself, h.insets⟩⟩

end MarksAgree

/-- An element agrees as another did that has the same outline and children with the same
outlines. -/
theorem Element.Agrees.of_outline {dialect : Dialect} (hd : dialect.ByTag) {a b : Element}
    (h : a.Agrees dialect) (ho : b.outline = a.outline)
    (hc : b.children.map Node.outline = a.children.map Node.outline) : b.Agrees dialect where
  keyed hmarked := by
    rw [Element.staticText?_congr ho]
    exact h.keyed (by rw [← Element.isMarked_congr ho, hmarked])
  children := by
    have htag : b.outline.tag = a.outline.tag := congrArg Element.tag ho
    rw [hd b a htag]
    exact h.children.of_outline hc

/-- A reference made by lifting agrees with its mark: it has a key, and no children. -/
theorem agrees_reference (dialect : Dialect) (script : Expression) (key selector : String)
    (inText : Bool) : (reference script key selector inText).Agrees dialect where
  keyed _ := by
    rw [staticText?_reference]
    rfl
  children inner hm := by simp [reference] at hm

/-- A step of lifting keeps the agreement at and below an element. -/
theorem liftStep_marksAgree {dialect : Dialect} (hd : dialect.ByTag) (element : Element)
    (ledger : Ledger)
    (h : MarksAgree dialect (Node.element element).elements (Node.element element).expressions) :
    let lifted := (liftStep dialect element ledger).1
    MarksAgree dialect (Node.element lifted).elements (Node.element lifted).expressions := by
  intro lifted
  rw [liftStep_expressions]
  refine ⟨?_, h.insets⟩
  rcases liftStep_cases dialect element ledger with ⟨-, he⟩ | ⟨-, children, _, _, _, _, he, -, hl⟩
  · have hlifted : lifted = element := congrArg Prod.fst he
    rw [hlifted]
    exact h.elements
  · have hlifted : lifted = ⟨element.tag, element.attributes, children, element.position⟩ :=
      congrArg Prod.fst he
    obtain ⟨tag, attributes, before, position⟩ := element
    have htext := hd ⟨tag, attributes, children, position⟩ ⟨tag, attributes, before, position⟩ rfl
    have hall := h.elements
    rw [hlifted]
    simp only [Node.elements, List.forall_mem_cons, List.forall_mem_append] at hall ⊢
    obtain ⟨hself, hattributes, hbelow⟩ := hall
    refine ⟨⟨hself.keyed, ?_⟩, hattributes, hl.forall_elements ?_ hbelow⟩
    · rw [htext]
      exact hl.markedAs hself.children
    · exact fun script key selector _ => agrees_reference dialect script key selector _

/-- Lifting keeps the agreement. -/
theorem lift_marksAgree {dialect : Dialect} (hd : dialect.ByTag) :
    TreeInduction
      (fun nodes => MarksAgree dialect (elementsIn nodes) (expressionsIn nodes) → ∀ ledger,
        let lifted := (rewriteNodes (liftStep dialect) nodes ledger).1
        MarksAgree dialect (elementsIn lifted) (expressionsIn lifted))
      (fun attributes =>
        MarksAgree dialect (elementsInAttributes attributes) (expressionsInAttributes attributes) →
        ∀ ledger,
        let lifted := (rewriteAttributes (liftStep dialect) attributes ledger).1
        MarksAgree dialect (elementsInAttributes lifted) (expressionsInAttributes lifted))
      (fun insets => MarksAgree dialect (elementsInInsets insets) (expressionsInInsets insets) →
        (∀ inset ∈ insets, MarkedAs false inset.nodes) → ∀ ledger,
        let lifted := (rewriteInsets (liftStep dialect) insets ledger).1
        MarksAgree dialect (elementsInInsets lifted) (expressionsInInsets lifted) ∧
          ∀ inset ∈ lifted, MarkedAs false inset.nodes) where
  noNodes h _ := h
  element tag attributes children position rest hattributes hchildren hrest h ledger := by
    simp only [elementsIn, expressionsIn, Node.elements, Node.expressions, MarksAgree.append_iff,
      MarksAgree.element_iff] at h
    obtain ⟨⟨hself, ha, hc⟩, hr⟩ := h
    have hself := hself.of_outline hd
      (outline_walked (liftStep dialect) ledger tag attributes children _ position)
      ((liftStep_keepsOutline dialect).nodes
        (rewriteAttributes (liftStep dialect) attributes ledger).2 children)
    have hfirst := hattributes ha ledger
    rw [rewriteNodes_element]
    dsimp only
    generalize rewriteAttributes (liftStep dialect) attributes ledger = walked at hself hfirst ⊢
    have hsecond := hchildren hc walked.2
    generalize rewriteNodes (liftStep dialect) children walked.2 = below at hself hsecond ⊢
    have hseen : MarksAgree dialect (Node.element ⟨tag, walked.1, below.1, position⟩).elements
        (Node.element ⟨tag, walked.1, below.1, position⟩).expressions := by
      simp only [Node.elements, Node.expressions, MarksAgree.element_iff, MarksAgree.append_iff]
      exact ⟨hself, hfirst, hsecond⟩
    rw [elementsIn, expressionsIn, MarksAgree.append_iff]
    exact ⟨liftStep_marksAgree hd _ below.2 hseen, hrest hr _⟩
  text run rest hrest h ledger := hrest h ledger
  expression code insets position rest hinsets hrest h ledger := by
    simp only [elementsIn, expressionsIn, Node.elements, Node.expressions, MarksAgree.append_iff,
      MarksAgree.script_iff] at h
    obtain ⟨⟨htops, hi⟩, hr⟩ := h
    rw [rewriteNodes_expression]
    simp only [elementsIn, expressionsIn, Node.elements, Node.expressions, MarksAgree.append_iff,
      MarksAgree.script_iff]
    obtain ⟨hinner, htops'⟩ := hinsets hi htops ledger
    exact ⟨⟨htops', hinner⟩, hrest hr _⟩
  noAttributes h _ := h
  bare name position rest hrest h ledger := hrest h ledger
  static name text position rest hrest h ledger := hrest h ledger
  dynamic name code insets place position rest hinsets hrest h ledger := by
    simp only [elementsInAttributes, expressionsInAttributes, MarksAgree.append_iff,
      MarksAgree.script_iff] at h
    obtain ⟨htops, hi, hr⟩ := h
    rw [rewriteAttributes_dynamic]
    simp only [elementsInAttributes, expressionsInAttributes, MarksAgree.append_iff,
      MarksAgree.script_iff]
    obtain ⟨hinner, htops'⟩ := hinsets hi htops ledger
    exact ⟨htops', hinner, hrest hr _⟩
  noInsets h htops _ := ⟨h, htops⟩
  inset start stop fragment nodes rest hnodes hrest h htops ledger := by
    simp only [elementsInInsets, expressionsInInsets, MarksAgree.append_iff] at h
    obtain ⟨htop, htops⟩ := List.forall_mem_cons.mp htops
    obtain ⟨hlast, hlast'⟩ := hrest h.2 htops (rewriteNodes (liftStep dialect) nodes ledger).2
    have houtline := (liftStep_keepsOutline dialect).nodes ledger nodes
    rw [rewriteInsets_cons]
    simp only [elementsInInsets, expressionsInInsets, MarksAgree.append_iff, List.forall_mem_cons]
    exact ⟨⟨hnodes h.1 ledger, hlast⟩, htop.of_outline houtline, hlast'⟩

mutual
/-- Nodes with every element that carries the mark replaced by what shows it. -/
def showMarked : List Node → List Node
  | [] => []
  | node :: rest => Node.showMarked node :: showMarked rest
/-- A node with every marked element at and below it replaced. -/
def Node.showMarked : Node → Node
  | .element ⟨tag, attributes, children, position⟩ =>
    if Element.isMarked ⟨tag, attributes, children, position⟩ then
      Element.shown ⟨tag, attributes, children, position⟩
    else .element ⟨tag, showMarkedInAttributes attributes, showMarked children, position⟩
  | .text run => .text run
  | .expression ⟨code, insets, position⟩ =>
    .expression ⟨code, showMarkedInInsets insets, position⟩
/-- Attributes with every marked element in their expressions replaced. -/
def showMarkedInAttributes : List Attribute → List Attribute
  | [] => []
  | ⟨name, .dynamic ⟨code, insets, place⟩, position⟩ :: rest =>
    ⟨name, .dynamic ⟨code, showMarkedInInsets insets, place⟩, position⟩ ::
      showMarkedInAttributes rest
  | entry :: rest => entry :: showMarkedInAttributes rest
/-- Insets with every marked element in them replaced. -/
def showMarkedInInsets : List Inset → List Inset
  | [] => []
  | ⟨first, stop, fragment, nodes⟩ :: rest =>
    ⟨first, stop, fragment, showMarked nodes⟩ :: showMarkedInInsets rest
end

/-- What inlining makes of a node with all spots below it shown, in text or not. -/
def Node.shownAs : Bool → Node → Node
  | true, .element inner => if inner.tag = templateTag then inner.shown else .element inner
  | _, node => node

@[simp] theorem Node.shownAs_text (inText : Bool) (run : TextRun) :
    Node.shownAs inText (.text run) = .text run := by
  cases inText <;> rfl

@[simp] theorem Node.shownAs_expression (inText : Bool) (script : Expression) :
    Node.shownAs inText (.expression script) = .expression script := by
  cases inText <;> rfl

/-- Outside text nothing is shown but what is below. -/
theorem Node.shownAs_false : Node.shownAs false = id := by
  funext node
  cases node <;> rfl

/-- Where all spots are chosen, all templates among nodes are shown. -/
theorem showAmong_all (start : Nat) (nodes : List Node) :
    showAmong (fun _ => true) start nodes = nodes.map (Node.shownAs true) := by
  fun_induction showAmong (fun _ => true) start nodes with
  | case1 => rfl
  | case2 start inner rest ht ih => simp [Node.shownAs, ht, ih]
  | case3 start inner rest ht ih => simp [Node.shownAs, ht, ih]
  | case4 start node rest hnode ih =>
    cases node with
    | element inner => exact absurd rfl (hnode inner)
    | text run => simp [ih]
    | expression script => simp [ih]

/-- The children of an element with all spots shown. -/
theorem children_showAll (dialect : Dialect) (start : Nat) (element : Element) :
    (element.showSpots dialect (fun _ => true) start).children =
      (showNodes dialect (fun _ => true) 0 element.children).map
        (Node.shownAs (dialect.isText element)) := by
  obtain ⟨tag, attributes, children, position⟩ := element
  rw [Element.showSpots, (showAll_start dialect).nodes children _ 0]
  dsimp only
  unfold Element.showOwn
  cases dialect.isText ⟨tag, attributes, children, position⟩ with
  | false =>
    rw [Node.shownAs_false, List.map_id]
    rfl
  | true => exact showAmong_all _ _

/-- A template with a key is shown as the same text after showing the spots inside it. -/
theorem shown_showAll (dialect : Dialect) (start : Nat) (element : Element)
    (h : (element.staticText? dataKeyName).isSome = true) :
    (element.showSpots dialect (fun _ => true) start).shown = element.shown := by
  obtain ⟨key, hk⟩ := Option.isSome_iff_exists.mp h
  unfold Element.shown
  rw [staticText?_showAll, hk, Element.position_showSpots]

/-- Where the marks agree, showing all spots is replacing all marked elements. -/
theorem showAll_eq_showMarked (dialect : Dialect) :
    TreeInduction
      (fun nodes => MarksAgree dialect (elementsIn nodes) (expressionsIn nodes) →
        ∀ inText, MarkedAs inText nodes →
        (showNodes dialect (fun _ => true) 0 nodes).map (Node.shownAs inText) = showMarked nodes)
      (fun attributes =>
        MarksAgree dialect (elementsInAttributes attributes) (expressionsInAttributes attributes) →
        showAttributes dialect (fun _ => true) 0 attributes = showMarkedInAttributes attributes)
      (fun insets => MarksAgree dialect (elementsInInsets insets) (expressionsInInsets insets) →
        (∀ inset ∈ insets, MarkedAs false inset.nodes) →
        showInsets dialect (fun _ => true) 0 insets = showMarkedInInsets insets) where
  noNodes _ _ _ := rfl
  element tag attributes children position rest hattributes hchildren hrest h inText hm := by
    simp only [elementsIn, expressionsIn, Node.elements, Node.expressions, MarksAgree.append_iff,
      MarksAgree.element_iff] at h
    obtain ⟨⟨hself, ha, hc⟩, hr⟩ := h
    have hmark := hm ⟨tag, attributes, children, position⟩ List.mem_cons_self
    have hlast := hrest hr inText fun inner hi => hm inner (List.mem_cons_of_mem _ hi)
    rw [showNodes, (showAll_start dialect).nodes rest _ 0, List.map_cons, hlast, showMarked]
    congr 1
    rw [Node.showSpots, Node.showMarked]
    by_cases hmarked : Element.isMarked ⟨tag, attributes, children, position⟩ = true
    · -- a template in text
      obtain ⟨rfl, ht⟩ := hmark.mp hmarked
      rw [if_pos hmarked, Node.shownAs, if_pos ((Element.tag_showSpots _ _ _ _).trans ht),
        shown_showAll _ _ _ (hself.keyed hmarked)]
    · have hkept : Node.shownAs inText (.element (Element.showSpots dialect (fun _ => true) 0
          ⟨tag, attributes, children, position⟩)) = .element (Element.showSpots dialect
            (fun _ => true) 0 ⟨tag, attributes, children, position⟩) := by
        cases inText with
        | false => rfl
        | true =>
          have ht : tag ≠ templateTag := fun ht => hmarked (hmark.mpr ⟨rfl, ht⟩)
          rw [Node.shownAs, if_neg (by rwa [Element.tag_showSpots])]
      have hbelow := (children_showAll dialect 0 ⟨tag, attributes, children, position⟩).trans
        (hchildren hc _ hself.children)
      rw [Element.showSpots] at hbelow
      rw [if_neg hmarked, hkept, Element.showSpots, hattributes ha, ← hbelow]
  text run rest hrest h inText hm := by
    have hlast := hrest h inText fun inner hi => hm inner (List.mem_cons_of_mem _ hi)
    rw [showNodes, (showAll_start dialect).nodes rest _ 0, List.map_cons, hlast, Node.showSpots,
      Node.shownAs_text, showMarked, Node.showMarked]
  expression code insets position rest hinsets hrest h inText hm := by
    simp only [elementsIn, expressionsIn, Node.elements, Node.expressions, MarksAgree.append_iff,
      MarksAgree.script_iff] at h
    obtain ⟨⟨htops, hi⟩, hr⟩ := h
    have hlast := hrest hr inText fun inner hi => hm inner (List.mem_cons_of_mem _ hi)
    rw [showNodes, (showAll_start dialect).nodes rest _ 0, List.map_cons, hlast, Node.showSpots,
      Node.shownAs_expression, hinsets hi htops, showMarked, Node.showMarked]
  noAttributes _ := rfl
  bare name position rest hrest h := by
    simp only [showAttributes, showMarkedInAttributes, hrest h]
  static name text position rest hrest h := by
    simp only [showAttributes, showMarkedInAttributes, hrest h]
  dynamic name code insets place position rest hinsets hrest h := by
    simp only [elementsInAttributes, expressionsInAttributes, MarksAgree.append_iff,
      MarksAgree.script_iff] at h
    obtain ⟨htops, hi, hr⟩ := h
    rw [showAttributes, (showAll_start dialect).attributes rest _ 0, hinsets hi htops, hrest hr,
      showMarkedInAttributes]
  noInsets _ _ := rfl
  inset start stop fragment nodes rest hnodes hrest h htops := by
    simp only [elementsInInsets, expressionsInInsets, MarksAgree.append_iff] at h
    obtain ⟨htop, htops⟩ := List.forall_mem_cons.mp htops
    have hfirst := hnodes h.1 false htop
    rw [Node.shownAs_false, List.map_id] at hfirst
    rw [showInsets, (showAll_start dialect).insets rest _ 0, hfirst, hrest h.2 htops,
      showMarkedInInsets]

/-- What is left of elements when the marked ones are replaced, with all that is below them. -/
structure Pruned (before after : List Element) : Prop where
  /-- Nothing left is marked. -/
  unmarked : ∀ element ∈ after, element.isMarked = false
  /-- What is left was there. -/
  found : ∀ element ∈ after, ∃ old ∈ before, element.outline = old.outline
  /-- What was there is left, except at and below marked elements. -/
  kept : ∀ old ∈ before, (∃ element ∈ after, element.outline = old.outline) ∨
    ∃ marked ∈ before, marked.isMarked = true ∧ old ∈ (Node.element marked).elements

namespace Pruned

variable {before before' after after' : List Element}

theorem nil : Pruned [] [] where
  unmarked := by simp
  found := by simp
  kept := by simp

/-- What is pruned from two lists is pruned from both together. -/
theorem append (h : Pruned before after) (h' : Pruned before' after') :
    Pruned (before ++ before') (after ++ after') where
  unmarked := List.forall_mem_append.mpr ⟨h.unmarked, h'.unmarked⟩
  found := by
    simp only [List.mem_append]
    rintro element (hm | hm)
    · obtain ⟨old, ho, he⟩ := h.found element hm
      exact ⟨old, .inl ho, he⟩
    · obtain ⟨old, ho, he⟩ := h'.found element hm
      exact ⟨old, .inr ho, he⟩
  kept := by
    simp only [List.mem_append]
    rintro old (hm | hm)
    · rcases h.kept old hm with ⟨element, he, ho⟩ | ⟨marked, hk, hb⟩
      · exact .inl ⟨element, .inl he, ho⟩
      · exact .inr ⟨marked, .inl hk, hb⟩
    · rcases h'.kept old hm with ⟨element, he, ho⟩ | ⟨marked, hk, hb⟩
      · exact .inl ⟨element, .inr he, ho⟩
      · exact .inr ⟨marked, .inr hk, hb⟩

/-- An element that is not marked is left. -/
theorem keep {old new : Element} (hm : old.isMarked = false) (ho : new.outline = old.outline) :
    Pruned [old] [new] where
  unmarked := by simpa [Element.isMarked_congr ho] using hm
  found := by simpa using ho
  kept := by simp [ho]

/-- A marked element goes, with everything below it. -/
theorem drop {old : Element} (hm : old.isMarked = true) :
    Pruned (Node.element old).elements [] where
  unmarked := by simp
  found := by simp
  kept inner hi := by
    refine .inr ⟨old, ?_, hm, hi⟩
    cases old
    simp [Node.elements]

end Pruned

/-- Replacing marked elements that have data keys leaves everything else. -/
theorem showMarked_prunes :
    TreeInduction
      (fun nodes => (∀ element ∈ elementsIn nodes, element.isMarked = true →
          (element.staticText? dataKeyName).isSome = true) →
        Pruned (elementsIn nodes) (elementsIn (showMarked nodes)))
      (fun attributes => (∀ element ∈ elementsInAttributes attributes, element.isMarked = true →
          (element.staticText? dataKeyName).isSome = true) →
        Pruned (elementsInAttributes attributes)
            (elementsInAttributes (showMarkedInAttributes attributes)) ∧
          (showMarkedInAttributes attributes).map Attribute.outline =
            attributes.map Attribute.outline)
      (fun insets => (∀ element ∈ elementsInInsets insets, element.isMarked = true →
          (element.staticText? dataKeyName).isSome = true) →
        Pruned (elementsInInsets insets) (elementsInInsets (showMarkedInInsets insets))) where
  noNodes _ := .nil
  element tag attributes children position rest hattributes hchildren hrest hkeyed := by
    simp only [elementsIn, Node.elements, List.forall_mem_append, List.forall_mem_cons] at hkeyed
    obtain ⟨⟨hself, ha, hc⟩, hr⟩ := hkeyed
    rw [showMarked, elementsIn, elementsIn]
    refine Pruned.append ?_ (hrest hr)
    rw [Node.showMarked]
    by_cases hm : Element.isMarked ⟨tag, attributes, children, position⟩ = true
    · obtain ⟨key, hk⟩ := Option.isSome_iff_exists.mp (hself hm)
      rw [if_pos hm, Element.shown, hk]
      exact .drop hm
    · obtain ⟨hfirst, houtline⟩ := hattributes ha
      have ho : Element.outline
            ⟨tag, showMarkedInAttributes attributes, showMarked children, position⟩ =
          Element.outline ⟨tag, attributes, children, position⟩ := by
        unfold Element.outline
        rw [houtline]
      rw [if_neg hm]
      exact (Pruned.keep (Bool.not_eq_true _ ▸ hm) ho).append (hfirst.append (hchildren hc))
  text run rest hrest hkeyed := hrest hkeyed
  expression code insets position rest hinsets hrest hkeyed := by
    simp only [elementsIn, Node.elements, List.forall_mem_append] at hkeyed
    simp only [showMarked, Node.showMarked, elementsIn, Node.elements]
    exact (hinsets hkeyed.1).append (hrest hkeyed.2)
  noAttributes _ := ⟨.nil, rfl⟩
  bare name position rest hrest hkeyed := by
    obtain ⟨hlast, houtline⟩ := hrest hkeyed
    simp only [showMarkedInAttributes, elementsInAttributes, List.map_cons, houtline]
    exact ⟨hlast, trivial⟩
  static name text position rest hrest hkeyed := by
    obtain ⟨hlast, houtline⟩ := hrest hkeyed
    simp only [showMarkedInAttributes, elementsInAttributes, List.map_cons, houtline]
    exact ⟨hlast, trivial⟩
  dynamic name code insets place position rest hinsets hrest hkeyed := by
    simp only [elementsInAttributes, List.forall_mem_append] at hkeyed
    obtain ⟨hlast, houtline⟩ := hrest hkeyed.2
    simp only [showMarkedInAttributes, elementsInAttributes, List.map_cons, houtline]
    exact ⟨(hinsets hkeyed.1).append hlast, rfl⟩
  noInsets _ := .nil
  inset start stop fragment nodes rest hnodes hrest hkeyed := by
    simp only [elementsInInsets, List.forall_mem_append] at hkeyed
    simp only [showMarkedInInsets, elementsInInsets]
    exact (hnodes hkeyed.1).append (hrest hkeyed.2)

/-- After lifting a document without marks, what is marked is a reference. -/
theorem lift_marked_reference (dialect : Dialect) {nodes : List Node}
    (h : ∀ element ∈ elementsIn nodes, element.isMarked = false) (ledger : Ledger) :
    ∀ element ∈ elementsIn (rewriteNodes (liftStep dialect) nodes ledger).1,
      element.isMarked = true →
        ∃ script key selector, element = reference script key selector true := by
  refine (lift_forall_elements dialect ?_ ?_).nodes nodes h ledger
  · intro script key selector inText hm
    rw [Element.isMarked_reference] at hm
    exact ⟨script, key, selector, by rw [hm]⟩
  · intro element hunmarked rewritten ho ledger hm
    rw [Element.isMarked_congr ((liftStep_keepsOutline dialect rewritten ledger).trans ho),
      hunmarked] at hm
    contradiction

/-- An element that stands on top of a list of nodes, on top of an inset or among the children of
an element is one of the elements. -/
theorem mem_elementsIn_iff {nodes : List Node} {element : Element} :
    element ∈ elementsIn nodes ↔ .element element ∈ nodes ∨
      (∃ script ∈ expressionsIn nodes, ∃ inset ∈ script.insets, .element element ∈ inset.nodes) ∨
      ∃ parent ∈ elementsIn nodes, .element element ∈ parent.children := by
  have hsplit := elementsIn_split.nodes nodes
  have hmem := congrArg (element ∈ ·) hsplit
  simp only [Multiset.mem_add, Multiset.mem_coe, insetTops, childElements, List.mem_flatMap,
    mem_topElements, or_assoc, eq_iff_iff] at hmem
  exact hmem

section Documents

variable {dialect : Dialect} {document : Document}

/-- In a document without marks and without templates in text, the marks agree. -/
theorem marksAgree_of_unmarked
    (hunmarked : ∀ element ∈ elementsIn document.nodes, element.isMarked = false)
    (htext : ¬ document.HasTemplateInText dialect) :
    MarksAgree dialect (elementsIn document.nodes) (expressionsIn document.nodes) ∧
      MarkedAs false document.nodes := by
  refine ⟨⟨fun element he => ⟨?_, ?_⟩, ?_⟩, ?_⟩
  · simp [hunmarked element he]
  · intro child hc
    have hplain := hunmarked child (mem_elementsIn_iff.mpr (.inr (.inr ⟨element, he, hc⟩)))
    refine ⟨by simp [hplain], fun ⟨ht, htag⟩ => ?_⟩
    exact absurd ⟨element, he, ht, child, hc, htag⟩ htext
  · intro script hs inset hi inner hm
    have hplain :=
      hunmarked inner (mem_elementsIn_iff.mpr (.inr (.inl ⟨script, hs, inset, hi, hm⟩)))
    simp [hplain]
  · intro inner hm
    simp [hunmarked inner (mem_elementsIn hm)]

/-- Where the marks agree, nothing stops inlining. -/
theorem inlineText_failure_of_marksAgree (hd : dialect.ByTag)
    (h : MarksAgree dialect (elementsIn document.nodes) (expressionsIn document.nodes)) :
    (document.inlineText dialect).2.failure = none := by
  have hnone : ∀ element ∈ elementsIn document.nodes, ¬ element.holdsKeyless dialect = true := by
    intro element he hk
    obtain ⟨ht, child, hc, htag, hkey⟩ := Element.holdsKeyless_iff.mp hk
    have hmarked := ((h.elements element he).children child hc).mpr ⟨ht, htag⟩
    have hchild := mem_elementsIn_iff.mpr (.inr (.inr ⟨element, he, hc⟩))
    simpa [hkey] using (h.elements child hchild).keyed hmarked
  have hfailure := (inline_failure hd document.path).nodes document.nodes .start
  rw [List.any_eq_false.mpr hnone] at hfailure
  rw [inlineText_eq]
  simpa [Inlined.start] using hfailure

end Documents

/-- Lifting a document in which nothing is marked and no template stands in text, and then inlining
it: inlining succeeds, and it replaces exactly the elements that lifting has marked. No marked
element is left; every element that is not marked is left with its attributes, unless it stood in
the expression of a marked reference. The ledger stays as lifting left it. -/
theorem inlineText_replaces_marked (textTags : List String) (suffix : String) (document : Document)
    (ledger : Ledger)
    (hunmarked : ∀ element ∈ elementsIn document.nodes, element.hasAttribute textMarkName = false)
    (htext : ¬ document.HasTemplateInText (.ofTags textTags suffix)) :
    let dialect := Dialect.ofTags textTags suffix
    let lifted := document.extract dialect ledger
    let result := lifted.1.inlineText dialect
    result.2.failure = none ∧
    result.1 = ⟨document.path, showMarked lifted.1.nodes⟩ ∧
    (∀ element ∈ elementsIn result.1.nodes, element.hasAttribute textMarkName = false ∧
      ∃ old ∈ elementsIn lifted.1.nodes, element.outline = old.outline) ∧
    (∀ old ∈ elementsIn lifted.1.nodes, old.hasAttribute textMarkName = false →
      (∃ element ∈ elementsIn result.1.nodes, element.outline = old.outline) ∨
      ∃ marked ∈ elementsIn lifted.1.nodes, marked.hasAttribute textMarkName = true ∧
        ∃ script, marked.expression? expressionName = some script ∧
          old ∈ elementsInInsets script.insets) ∧
    (document.lower dialect true ledger).ledger = lifted.2 := by
  intro dialect lifted result
  have hd : dialect.ByTag := Dialect.byTag_ofTags textTags suffix
  obtain ⟨hbefore, htops⟩ := marksAgree_of_unmarked hunmarked htext
  have hagree : MarksAgree dialect (elementsIn lifted.1.nodes) (expressionsIn lifted.1.nodes) :=
    (lift_marksAgree hd).nodes document.nodes hbefore ledger
  have htops' : MarkedAs false lifted.1.nodes :=
    htops.of_outline ((liftStep_keepsOutline dialect).nodes ledger document.nodes)
  have hnone : result.2.failure = none := inlineText_failure_of_marksAgree hd hagree
  have hresult : result.1 = ⟨document.path, showMarked lifted.1.nodes⟩ := by
    have hshown := (showAll_eq_showMarked dialect).nodes lifted.1.nodes hagree false htops'
    rw [Node.shownAs_false, List.map_id] at hshown
    rw [← hshown]
    exact congrArg Prod.fst (inlineText_showsAll hd hnone)
  have hpruned : Pruned (elementsIn lifted.1.nodes) (elementsIn result.1.nodes) := by
    rw [hresult]
    exact showMarked_prunes.nodes lifted.1.nodes fun element he =>
      (hagree.elements element he).keyed
  refine ⟨hnone, hresult, fun element he => ⟨hpruned.unmarked element he, hpruned.found element he⟩,
    ?_, rfl⟩
  intro old hold hplain
  rcases hpruned.kept old hold with hkept | ⟨marked, hm, hmark, hbelow⟩
  · exact .inl hkept
  · obtain ⟨script, key, selector, rfl⟩ :=
      lift_marked_reference dialect hunmarked ledger marked hm hmark
    refine .inr ⟨_, hm, hmark, script, expression?_reference script key selector true, ?_⟩
    rw [elements_reference] at hbelow
    rcases List.mem_cons.mp hbelow with rfl | hinside
    · exact absurd (hplain.symm.trans hmark) Bool.false_ne_true
    · cases script
      exact hinside

/-- In the layered document with the root as a text container, three references are marked, one of
them in the expression of another. The reference in the attribute is not, and it is left. -/
theorem inlineText_replaces_marked_layered :
    let dialect := Dialect.ofTags ["view", "text", "rowCPT"] "CPT"
    let lifted := layeredDocument.extract dialect .fresh
    let result := lifted.1.inlineText dialect
    (∀ element ∈ elementsIn layeredDocument.nodes, element.hasAttribute textMarkName = false) ∧
      ¬ layeredDocument.HasTemplateInText dialect ∧
      ((elementsIn lifted.1.nodes).filter (·.hasAttribute textMarkName)).length = 3 ∧
      ((elementsIn result.1.nodes).filter Element.isReference).length = 1 ∧
      result.2.failure = none ∧ result.1 = ⟨layeredDocument.path, showMarked lifted.1.nodes⟩ := by
  have hunmarked : ∀ element ∈ elementsIn layeredDocument.nodes,
      element.hasAttribute textMarkName = false := by decide
  have htext : ¬ layeredDocument.HasTemplateInText (.ofTags ["view", "text", "rowCPT"] "CPT") := by
    decide
  obtain ⟨hnone, hresult, -⟩ := inlineText_replaces_marked ["view", "text", "rowCPT"] "CPT"
    layeredDocument .fresh hunmarked htext
  refine ⟨hunmarked, htext, ?_, ?_, hnone, hresult⟩
  · decide +kernel
  · decide +kernel

end MiniTemplate
