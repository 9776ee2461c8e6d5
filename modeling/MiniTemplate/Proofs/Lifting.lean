import MiniTemplate.Extraction
import MiniTemplate.Proofs.Names
import MiniTemplate.Proofs.Rewriting

/-!
# What lifting does to an element and to the ledger

Lifting the children of an element draws one data key for each expression, in
order, and as many selectors as the children do not share; afterwards exactly the
selectors drawn are registered. `Lifts` says what becomes of the children, and
`liftStep_cases` everything that one step of the pass can do. What holds of all elements
after a whole pass follows by induction over the tree.
-/

namespace MiniTemplate

namespace Selectors

/-- The selectors in use. -/
def names (selectors : Selectors) : List String :=
  selectors.plain.toList ++ selectors.props.map Prod.snd

/-- The selectors in use are those drawn since `start`, in order. -/
structure DrawnFrom (start : Supplies) (selectors : Selectors) (supplies : Supplies) : Prop where
  /-- The selector of children that call no property. -/
  plain : ∃ n, supplies.selectors = start.selectors.advance n ∧
    selectors.plain.toList = start.selectors.upcoming n
  /-- The selectors of children that call a property. -/
  props : ∃ n, supplies.propSelectors = start.propSelectors.advance n ∧
    selectors.props.map Prod.snd = start.propSelectors.upcoming n

theorem DrawnFrom.none (start : Supplies) : DrawnFrom start .none start where
  plain := ⟨0, rfl, rfl⟩
  props := ⟨0, rfl, rfl⟩

variable {start supplies : Supplies} {selectors : Selectors}

/-- A plain child shares the selector there is, or draws the next one. -/
theorem choose_plain_cases (selectors : Selectors) (supplies : Supplies) :
    (∃ selector, selectors.plain = some selector ∧
      selectors.choose .none supplies = (selector, selectors, supplies)) ∨
    (selectors.plain = .none ∧ selectors.choose .none supplies =
      (supplies.selectors.name supplies.selectors.issued,
        { selectors with plain := some (supplies.selectors.name supplies.selectors.issued) },
        { supplies with selectors := supplies.selectors.advance 1 })) := by
  cases hp : selectors.plain with
  | some selector => exact .inl ⟨selector, rfl, by simp [choose, hp]⟩
  | none => exact .inr ⟨rfl, by simp [choose, hp, Supply.next_eq]⟩

/-- A child that calls a property shares the selector of that property, or draws the next
one. -/
theorem choose_prop_cases (prop : String) (selectors : Selectors) (supplies : Supplies) :
    (∃ selector, selectors.props.lookup prop = some selector ∧
      selectors.choose (some prop) supplies = (selector, selectors, supplies)) ∨
    (selectors.props.lookup prop = .none ∧ selectors.choose (some prop) supplies =
      (supplies.propSelectors.name supplies.propSelectors.issued,
        { selectors with props := selectors.props ++
          [(prop, supplies.propSelectors.name supplies.propSelectors.issued)] },
        { supplies with propSelectors := supplies.propSelectors.advance 1 })) := by
  cases hp : selectors.props.lookup prop with
  | some selector => exact .inl ⟨selector, rfl, by simp [choose, hp]⟩
  | none => exact .inr ⟨rfl, by simp [choose, hp, Supply.next_eq]⟩

/-- Choosing keeps selectors in step with the supplies, leaves the data keys alone, forgets
no selector and gives one that is in use. -/
theorem choose_spec (h : DrawnFrom start selectors supplies) (prop : Option String) :
    DrawnFrom start (selectors.choose prop supplies).2.1 (selectors.choose prop supplies).2.2 ∧
      (selectors.choose prop supplies).2.2.dataKeys = supplies.dataKeys ∧
      selectors.names ⊆ (selectors.choose prop supplies).2.1.names ∧
      (selectors.choose prop supplies).1 ∈ (selectors.choose prop supplies).2.1.names := by
  obtain ⟨n, hn, hplain⟩ := h.plain
  obtain ⟨m, hm, hprops⟩ := h.props
  cases prop with
  | none =>
    rcases choose_plain_cases selectors supplies with ⟨selector, hs, hc⟩ | ⟨hs, hc⟩
    · rw [hc]
      refine ⟨h, rfl, List.Subset.refl _, ?_⟩
      simp [names, hs]
    · rw [hc]
      -- nothing plain is in use yet, so nothing plain has been drawn
      have hz : n = 0 := by
        have hl := congrArg List.length hplain
        simpa [hs, Supply.length_upcoming] using hl.symm
      subst hz
      refine ⟨⟨⟨1, ?_, ?_⟩, m, hm, hprops⟩, rfl, ?_, ?_⟩
      · rw [hn, Supply.advance_zero]
      · rw [hn, Supply.advance_zero, Supply.upcoming_one]
        rfl
      · intro name hmem
        simp [names, hs] at hmem ⊢
        exact .inr hmem
      · simp [names]
  | some prop =>
    rcases choose_prop_cases prop selectors supplies with ⟨selector, hs, hc⟩ | ⟨hs, hc⟩
    · rw [hc]
      refine ⟨h, rfl, List.Subset.refl _, ?_⟩
      obtain ⟨earlier, later, he, -⟩ := List.lookup_eq_some_iff.mp hs
      simp [names, he]
    · rw [hc]
      refine ⟨⟨⟨n, hn, hplain⟩, m + 1, ?_, ?_⟩, rfl, ?_, ?_⟩
      · rw [hm, Supply.advance_advance]
      · rw [List.map_append, hprops, Supply.upcoming_add, Supply.upcoming_one, hm]
        rfl
      · intro name hmem
        simp only [names, List.map_append, List.mem_append] at hmem ⊢
        tauto
      · simp [names]

end Selectors

/-- The key and the expression of a reference are those it was made of. -/
theorem staticText?_reference (script : Expression) (key selector : String) (inText : Bool) :
    (reference script key selector inText).staticText? dataKeyName = some key := by
  cases inText <;> rfl

/-- The expression of a reference is the one it was made for. -/
theorem expression?_reference (script : Expression) (key selector : String) (inText : Bool) :
    (reference script key selector inText).expression? expressionName = some script := by
  cases inText <;> rfl

/-- What is made for a lifted expression is a reference. -/
theorem isReference_reference (script : Expression) (key selector : String) (inText : Bool) :
    (reference script key selector inText).isReference = true :=
  Element.isReference_of_key rfl (staticText?_reference script key selector inText)

/-- The elements of a reference are itself and those of its expression. -/
theorem elements_reference (script : Expression) (key selector : String) (inText : Bool) :
    (Node.element (reference script key selector inText)).elements =
      reference script key selector inText :: (Node.expression script).elements := by
  obtain ⟨code, insets, position⟩ := script
  cases inText <;> simp [reference, Node.elements, elementsIn, elementsInAttributes,
    Attribute.ofText, Attribute.ofExpression, Attribute.marker]

/-- What lifting makes of the children of an element: every expression becomes a reference
with the next of the keys and one of the selectors, and all else stays. -/
inductive Lifts (inText : Bool) (selectors : List String) :
    List String → List Node → List Node → Prop where
  | nil : Lifts inText selectors [] [] []
  | expression {keys : List String} {before after : List Node} (script : Expression)
    (key selector : String) (hs : selector ∈ selectors)
    (h : Lifts inText selectors keys before after) :
    Lifts inText selectors (key :: keys) (.expression script :: before)
      (.element (reference script key selector inText) :: after)
  | element {keys : List String} {before after : List Node} (inner : Element)
    (h : Lifts inText selectors keys before after) :
    Lifts inText selectors keys (.element inner :: before) (.element inner :: after)
  | text {keys : List String} {before after : List Node} (run : TextRun)
    (h : Lifts inText selectors keys before after) :
    Lifts inText selectors keys (.text run :: before) (.text run :: after)

/-- Children that were lifted with the selectors given were lifted with more of them. -/
theorem Lifts.mono {inText : Bool} {selectors selectors' keys : List String}
    {before after : List Node} (hs : selectors ⊆ selectors')
    (h : Lifts inText selectors keys before after) : Lifts inText selectors' keys before after := by
  induction h with
  | nil => exact .nil
  | expression script key selector hmem _ ih => exact .expression script key selector (hs hmem) ih
  | element inner _ ih => exact .element inner ih
  | text run _ ih => exact .text run ih

/-- Lifting children brings in references and no other element. -/
theorem Lifts.forall_elements {inText : Bool} {selectors keys : List String}
    {before after : List Node} {P : Element → Prop} (h : Lifts inText selectors keys before after)
    (hreference : ∀ script key, ∀ selector ∈ selectors, P (reference script key selector inText))
    (hbefore : ∀ element ∈ elementsIn before, P element) :
    ∀ element ∈ elementsIn after, P element := by
  induction h with
  | nil => exact hbefore
  | expression script key selector hs h ih =>
    simp only [elementsIn, elements_reference, List.forall_mem_append, List.forall_mem_cons]
      at hbefore ⊢
    exact ⟨⟨hreference script key selector hs, hbefore.1⟩, ih hbefore.2⟩
  | element inner h ih =>
    simp only [elementsIn, List.forall_mem_append] at hbefore ⊢
    exact ⟨hbefore.1, ih hbefore.2⟩
  | text run h ih =>
    simp only [elementsIn, List.forall_mem_append] at hbefore ⊢
    exact ⟨hbefore.1, ih hbefore.2⟩

/-- Lifting children one after the other, from selectors in step with the supplies. -/
theorem liftChildren_spec (calledProp? : String → Option String) (inText : Bool)
    {start : Supplies} (children : List Node)
    (selectors : Selectors) (supplies : Supplies)
    (h : Selectors.DrawnFrom start selectors supplies) :
    Selectors.DrawnFrom start (liftChildren calledProp? inText children selectors supplies).2.1
        (liftChildren calledProp? inText children selectors supplies).2.2 ∧
      (liftChildren calledProp? inText children selectors supplies).2.2.dataKeys =
        supplies.dataKeys.advance (children.countP Node.isExpression) ∧
      selectors.names ⊆ (liftChildren calledProp? inText children selectors supplies).2.1.names ∧
      Lifts inText (liftChildren calledProp? inText children selectors supplies).2.1.names
        (supplies.dataKeys.upcoming (children.countP Node.isExpression)) children
        (liftChildren calledProp? inText children selectors supplies).1 := by
  induction children generalizing selectors supplies with
  | nil => exact ⟨h, rfl, List.Subset.refl _, .nil⟩
  | cons node rest ih =>
    cases node with
    | element inner =>
      obtain ⟨hd, hk, hn, hl⟩ := ih selectors supplies h
      have hc : (Node.element inner :: rest).countP Node.isExpression =
          rest.countP Node.isExpression := by simp [Node.isExpression]
      rw [hc]
      exact ⟨hd, hk, hn, .element inner hl⟩
    | text run =>
      obtain ⟨hd, hk, hn, hl⟩ := ih selectors supplies h
      have hc : (Node.text run :: rest).countP Node.isExpression =
          rest.countP Node.isExpression := by simp [Node.isExpression]
      rw [hc]
      exact ⟨hd, hk, hn, .text run hl⟩
    | expression script =>
      obtain ⟨hd, hk, hn, hm⟩ := Selectors.choose_spec h (calledProp? script.code)
      have hd' : Selectors.DrawnFrom start
          (selectors.choose (calledProp? script.code) supplies).2.1
          { (selectors.choose (calledProp? script.code) supplies).2.2 with
            dataKeys := supplies.dataKeys.advance 1 } := ⟨hd.plain, hd.props⟩
      obtain ⟨hdr, hkr, hnr, hlr⟩ := ih _ _ hd'
      have hc : (Node.expression script :: rest).countP Node.isExpression =
          1 + rest.countP Node.isExpression := by
        rw [List.countP_cons_of_pos rfl, Nat.add_comm]
      have he : liftChildren calledProp? inText (.expression script :: rest) selectors supplies =
          (.element (reference script (supplies.dataKeys.name supplies.dataKeys.issued)
            (selectors.choose (calledProp? script.code) supplies).1 inText) ::
              (liftChildren calledProp? inText rest
                (selectors.choose (calledProp? script.code) supplies).2.1
                { (selectors.choose (calledProp? script.code) supplies).2.2 with
                  dataKeys := supplies.dataKeys.advance 1 }).1,
            (liftChildren calledProp? inText rest
                (selectors.choose (calledProp? script.code) supplies).2.1
                { (selectors.choose (calledProp? script.code) supplies).2.2 with
                  dataKeys := supplies.dataKeys.advance 1 }).2) := by
        simp [liftChildren, hk, Supply.next_eq]
      rw [he, hc, Supply.upcoming_add, Supply.upcoming_one]
      refine ⟨hdr, ?_, List.Subset.trans hn hnr, ?_⟩
      · rw [hkr, Supply.advance_advance]
      · exact .expression script _ _ (hnr hm) hlr

/-- One step of the lifting pass. -/
def liftStep (dialect : Dialect) (element : Element) : StateM Ledger Element :=
  if dialect.isComponent element.tag then pure element else element.lift dialect

/-- Lifting a document is the pass with that step. -/
theorem extract_eq (dialect : Dialect) (document : Document) (ledger : Ledger) :
    document.extract dialect ledger =
      ({ document with nodes := (rewriteNodes (liftStep dialect) document.nodes ledger).1 },
        (rewriteNodes (liftStep dialect) document.nodes ledger).2) := rfl

/-- Registering the selectors of an element whose children have been lifted. -/
theorem grows_add {ledger : Ledger} {selectors : Selectors} {supplies : Supplies} {keys : Nat}
    (h : Selectors.DrawnFrom ledger.supplies selectors supplies)
    (hk : supplies.dataKeys = ledger.supplies.dataKeys.advance keys) :
    ∃ s p, ledger.Grows ⟨supplies, ledger.registry.add selectors⟩ s keys p := by
  obtain ⟨s, hs, hplain⟩ := h.plain
  obtain ⟨p, hp, hprops⟩ := h.props
  refine ⟨s, p, ?_, ?_, ?_, ?_⟩
  · rw [← hs, ← hp, ← hk]
  · simp only [Registry.add, hplain]
  · simp only [Registry.add, List.map_append, List.map_map, ← hprops]
    rfl
  · exact List.prefix_append _ _

/-- The selectors of an element are all registered afterwards. -/
theorem names_subset_add (registry : Registry) (selectors : Selectors) :
    selectors.names ⊆ (registry.add selectors).selectors := by
  intro name hm
  simp only [Selectors.names, Registry.add, Registry.selectors, List.map_append, List.map_map,
    List.mem_append] at hm ⊢
  rcases hm with hm | hm
  · exact .inl (.inr hm)
  · exact .inr (.inr hm)

/-- Everything a step can do: components stay as they are; the children of any other element
are lifted with the next data keys, and the selectors drawn for them are registered. -/
theorem liftStep_cases (dialect : Dialect) (element : Element) (ledger : Ledger) :
    (dialect.isComponent element.tag = true ∧ liftStep dialect element ledger = (element, ledger)) ∨
    (dialect.isComponent element.tag = false ∧ ∃ children after s k p,
      liftStep dialect element ledger =
        (⟨element.tag, element.attributes, children, element.position⟩, after) ∧
      ledger.Grows after s k p ∧
      Lifts (dialect.isText element) after.registry.selectors
        (ledger.supplies.dataKeys.upcoming k) element.children children) := by
  cases hc : dialect.isComponent element.tag with
  | true =>
    left
    simp only [liftStep, hc, true_and]
    rfl
  | false =>
    right
    obtain ⟨hd, hk, -, hl⟩ := liftChildren_spec dialect.calledProp? (dialect.isText element)
      element.children .none ledger.supplies (.none ledger.supplies)
    obtain ⟨s, p, hg⟩ := grows_add hd hk
    refine ⟨rfl, _, _, s, _, p, ?_, hg, hl.mono (names_subset_add _ _)⟩
    simp only [liftStep, hc, Bool.false_eq_true, if_false]
    rfl

/-- A ledger after any number of names have been drawn and registered. -/
def Ledger.Extends (before after : Ledger) : Prop := ∃ s k p, before.Grows after s k p

theorem Ledger.Extends.refl (ledger : Ledger) : ledger.Extends ledger := ⟨0, 0, 0, .refl ledger⟩

/-- A ledger that extends one that extends another extends the latter. -/
theorem Ledger.Extends.trans {before middle after : Ledger} (h : before.Extends middle)
    (h' : middle.Extends after) : before.Extends after := by
  obtain ⟨s, k, p, hg⟩ := h
  obtain ⟨s', k', p', hg'⟩ := h'
  exact ⟨s + s', k + k', p + p', hg.trans hg'⟩

/-- A step changes nothing of an element but its children. -/
theorem liftStep_keepsOutline (dialect : Dialect) : KeepsOutline (liftStep dialect) := by
  intro element ledger
  rcases liftStep_cases dialect element ledger with ⟨-, he⟩ | ⟨-, _, _, _, _, _, he, -, -⟩
  · rw [he]
  · rw [he]
    rfl

/-- What is registered stays registered over a pass. -/
theorem lift_selectors_subset (dialect : Dialect) :
    TreeInduction
      (fun nodes => ∀ ledger : Ledger, ledger.registry.selectors ⊆
        (rewriteNodes (liftStep dialect) nodes ledger).2.registry.selectors)
      (fun attributes => ∀ ledger : Ledger, ledger.registry.selectors ⊆
        (rewriteAttributes (liftStep dialect) attributes ledger).2.registry.selectors)
      (fun insets => ∀ ledger : Ledger, ledger.registry.selectors ⊆
        (rewriteInsets (liftStep dialect) insets ledger).2.registry.selectors) := by
  apply rewrite_relates (R := fun before after : Ledger =>
    before.registry.selectors ⊆ after.registry.selectors)
  · exact fun _ => List.Subset.refl _
  · exact List.Subset.trans
  · intro element ledger
    rcases liftStep_cases dialect element ledger with ⟨-, he⟩ | ⟨-, _, _, _, _, _, he, hg, -⟩
    · rw [he]
      exact List.Subset.refl _
    · rw [he]
      exact hg.selectors_subset

/-- What holds of every reference and of every element just after its step holds of all elements
after a pass. It may depend on the selectors that are registered, as long as more of them do no
harm. The step may rely on what is known of the element it was called for, of which everything
but the insets and children is still there. -/
theorem lift_forall_registered (dialect : Dialect) {P : List String → Element → Prop}
    {Q : Element → Prop}
    (hmono : ∀ {registered registered' : List String} {element : Element},
      registered ⊆ registered' → P registered element → P registered' element)
    (hreference : ∀ registered script key, ∀ selector ∈ registered, ∀ inText,
      P registered (reference script key selector inText))
    (hstep : ∀ element, Q element → ∀ rewritten : Element, rewritten.outline = element.outline →
      ∀ ledger, P (liftStep dialect rewritten ledger).2.registry.selectors
        (liftStep dialect rewritten ledger).1) :
    TreeInduction
      (fun nodes => (∀ element ∈ elementsIn nodes, Q element) → ∀ ledger,
        ∀ element ∈ elementsIn (rewriteNodes (liftStep dialect) nodes ledger).1,
          P (rewriteNodes (liftStep dialect) nodes ledger).2.registry.selectors element)
      (fun attributes => (∀ element ∈ elementsInAttributes attributes, Q element) → ∀ ledger,
        ∀ element ∈ elementsInAttributes (rewriteAttributes (liftStep dialect) attributes ledger).1,
          P (rewriteAttributes (liftStep dialect) attributes ledger).2.registry.selectors element)
      (fun insets => (∀ element ∈ elementsInInsets insets, Q element) → ∀ ledger,
        ∀ element ∈ elementsInInsets (rewriteInsets (liftStep dialect) insets ledger).1,
          P (rewriteInsets (liftStep dialect) insets ledger).2.registry.selectors element) where
  noNodes _ _ := by simp [rewriteNodes_nil, elementsIn]
  element tag attributes children position rest hattributes hchildren hrest hall ledger := by
    simp only [elementsIn, Node.elements, List.forall_mem_append, List.forall_mem_cons] at hall
    obtain ⟨⟨hself, hqa, hqc⟩, hqr⟩ := hall
    have houtline := outline_walked (liftStep dialect) ledger tag attributes children
    rw [rewriteNodes_element]
    dsimp only
    have hfirst := hattributes hqa ledger
    generalize rewriteAttributes (liftStep dialect) attributes ledger = walked at hfirst houtline ⊢
    have hsecond := hchildren hqc walked.2
    have hwalked := (lift_selectors_subset dialect).nodes children walked.2
    generalize rewriteNodes (liftStep dialect) children walked.2 = below at hsecond hwalked ⊢
    have hhere := hstep _ hself ⟨tag, walked.1, below.1, position⟩ (houtline below.1 position) below.2
    have hbehind := hrest hqr (liftStep dialect ⟨tag, walked.1, below.1, position⟩ below.2).2
    have hlater := (lift_selectors_subset dialect).nodes rest
      (liftStep dialect ⟨tag, walked.1, below.1, position⟩ below.2).2
    simp only [elementsIn, List.forall_mem_append]
    refine ⟨fun element hm => hmono hlater ?_, hbehind⟩
    revert element
    rcases liftStep_cases dialect ⟨tag, walked.1, below.1, position⟩ below.2 with
      ⟨-, he⟩ | ⟨-, _, _, _, _, _, he, hg, hl⟩
    · rw [he] at hhere ⊢
      exact List.forall_mem_cons.mpr ⟨hhere, List.forall_mem_append.mpr
        ⟨fun element hm => hmono hwalked (hfirst element hm), hsecond⟩⟩
    · rw [he] at hhere ⊢
      have hgrown := hg.selectors_subset
      have hbelow := hl.forall_elements
        (fun script key selector hs => hreference _ script key selector hs _)
        (fun element hm => hmono hgrown (hsecond element hm))
      exact List.forall_mem_cons.mpr ⟨hhere, List.forall_mem_append.mpr
        ⟨fun element hm => hmono (List.Subset.trans hwalked hgrown) (hfirst element hm), hbelow⟩⟩
  text run rest hrest hall ledger := by
    rw [rewriteNodes_text]
    exact hrest hall ledger
  expression code insets position rest hinsets hrest hall ledger := by
    simp only [elementsIn, Node.elements, List.forall_mem_append] at hall
    rw [rewriteNodes_expression]
    simp only [elementsIn, Node.elements, List.forall_mem_append]
    have hlater := (lift_selectors_subset dialect).nodes rest
      (rewriteInsets (liftStep dialect) insets ledger).2
    exact ⟨fun element hm => hmono hlater (hinsets hall.1 ledger element hm), hrest hall.2 _⟩
  noAttributes _ _ := by simp [rewriteAttributes_nil, elementsInAttributes]
  bare name position rest hrest hall ledger := by
    rw [rewriteAttributes_bare]
    exact hrest hall ledger
  static name text position rest hrest hall ledger := by
    rw [rewriteAttributes_static]
    exact hrest hall ledger
  dynamic name code insets place position rest hinsets hrest hall ledger := by
    simp only [elementsInAttributes, List.forall_mem_append] at hall
    rw [rewriteAttributes_dynamic]
    simp only [elementsInAttributes, List.forall_mem_append]
    have hlater := (lift_selectors_subset dialect).attributes rest
      (rewriteInsets (liftStep dialect) insets ledger).2
    exact ⟨fun element hm => hmono hlater (hinsets hall.1 ledger element hm), hrest hall.2 _⟩
  noInsets _ _ := by simp [rewriteInsets_nil, elementsInInsets]
  inset start stop fragment nodes rest hnodes hrest hall ledger := by
    simp only [elementsInInsets, List.forall_mem_append] at hall
    rw [rewriteInsets_cons]
    simp only [elementsInInsets, List.forall_mem_append]
    have hlater := (lift_selectors_subset dialect).insets rest
      (rewriteNodes (liftStep dialect) nodes ledger).2
    exact ⟨fun element hm => hmono hlater (hnodes hall.1 ledger element hm), hrest hall.2 _⟩

/-- What holds of every reference, whatever it selects, and of every element just after its step
holds of all elements after a pass. -/
theorem lift_forall_elements (dialect : Dialect) {P Q : Element → Prop}
    (hreference : ∀ script key selector inText, P (reference script key selector inText))
    (hstep : ∀ element, Q element → ∀ rewritten : Element, rewritten.outline = element.outline →
      ∀ ledger, P (liftStep dialect rewritten ledger).1) :
    TreeInduction
      (fun nodes => (∀ element ∈ elementsIn nodes, Q element) → ∀ ledger,
        ∀ element ∈ elementsIn (rewriteNodes (liftStep dialect) nodes ledger).1, P element)
      (fun attributes => (∀ element ∈ elementsInAttributes attributes, Q element) → ∀ ledger,
        ∀ element ∈ elementsInAttributes (rewriteAttributes (liftStep dialect) attributes ledger).1,
          P element)
      (fun insets => (∀ element ∈ elementsInInsets insets, Q element) → ∀ ledger,
        ∀ element ∈ elementsInInsets (rewriteInsets (liftStep dialect) insets ledger).1,
          P element) :=
  lift_forall_registered dialect (P := fun _ => P) (fun _ h => h)
    (fun _ script key selector _ inText => hreference script key selector inText) hstep

end MiniTemplate
