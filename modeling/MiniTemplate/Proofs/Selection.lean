import MiniTemplate.Proofs.Coverage
import MiniTemplate.Proofs.Frames
import MiniTemplate.Proofs.Idempotence

/-!
# What references select and what is registered for them

Wherever a reference stands in a lowered document, it selects a template that the registry
lists. A template for a component passed as a property is named for a property that some
expression of the document calls.
-/

namespace MiniTemplate

/-- An element that selects a registered template, if it is a reference. -/
def Element.SelectsFrom (registered : List String) (element : Element) : Prop :=
  element.isReference = true →
    ∃ selector ∈ registered, element.staticText? selectorName = some selector

/-- A reference that selects from registered names selects from more of them. -/
theorem Element.SelectsFrom.mono {registered registered' : List String} {element : Element}
    (hs : registered ⊆ registered') (h : element.SelectsFrom registered) :
    element.SelectsFrom registered' := by
  intro hr
  obtain ⟨selector, hm, he⟩ := h hr
  exact ⟨selector, hs hm, he⟩

/-- What a reference selects is told from its outline. -/
theorem Element.SelectsFrom.congr {registered : List String} {a b : Element}
    (ho : a.outline = b.outline) (h : a.SelectsFrom registered) : b.SelectsFrom registered := by
  intro hr
  rw [← Element.isReference_congr ho] at hr
  rw [← Element.staticText?_congr ho]
  exact h hr

/-- After lifting nodes without references, every reference selects a registered template. -/
theorem lifted_selects (dialect : Dialect) {nodes : List Node}
    (hfree : ∀ element ∈ elementsIn nodes, element.isReference = false) (ledger : Ledger) :
    ∀ element ∈ elementsIn (rewriteNodes (liftStep dialect) nodes ledger).1,
      element.SelectsFrom (rewriteNodes (liftStep dialect) nodes ledger).2.registry.selectors := by
  refine (lift_forall_registered dialect (P := Element.SelectsFrom) .mono ?_ ?_).nodes nodes hfree
    ledger
  · intro registered script key selector hs inText _
    refine ⟨selector, hs, ?_⟩
    cases inText <;> rfl
  · intro element hnone rewritten ho ledger hr
    have hkeep := (liftStep_keepsOutline dialect rewritten ledger).trans ho
    rw [Element.isReference_congr hkeep, hnone] at hr
    contradiction

/-- The outlines of elements. -/
def outlines (elements : List Element) : List Element := elements.map Element.outline

/-- Outlines found in two lists are found in longer ones. -/
theorem outlines_append_subset {as as' bs bs' : List Element} (ha : outlines as ⊆ outlines as')
    (hb : outlines bs ⊆ outlines bs') : outlines (as ++ bs) ⊆ outlines (as' ++ bs') := by
  unfold outlines at *
  rw [List.map_append, List.map_append, List.append_subset]
  exact ⟨List.subset_append_of_subset_left _ ha, List.subset_append_of_subset_right _ hb⟩

/-- A step of inlining brings in no element at or below the one it is called for. -/
theorem inlineStep_outlines (dialect : Dialect) (path : String) (element : Element)
    (state : Inlined) :
    outlines (Node.element (inlineStep dialect path element state).1).elements ⊆
      outlines (Node.element element).elements := by
  rcases inlineStep_cases dialect path element state with ⟨-, he⟩ | ⟨-, -, _, _, _, he, hi⟩
  · rw [he]
    exact List.Subset.refl _
  · rw [he]
    obtain ⟨tag, attributes, children, position⟩ := element
    have hbelow := hi.forall_elements (P := (· ∈ elementsIn children)) fun _ hm => hm
    simp only [Node.elements, outlines, List.map_cons]
    refine List.cons_subset_cons _ (List.map_subset _ ?_)
    exact List.append_subset.mpr ⟨List.subset_append_left _ _,
      List.subset_append_of_subset_right _ hbelow⟩

/-- A pass of inlining brings in no element. -/
theorem inline_outlines (dialect : Dialect) (path : String) :
    TreeInduction
      (fun nodes => ∀ state,
        outlines (elementsIn (rewriteNodes (inlineStep dialect path) nodes state).1) ⊆
          outlines (elementsIn nodes))
      (fun attributes => ∀ state,
        outlines (elementsInAttributes
          (rewriteAttributes (inlineStep dialect path) attributes state).1) ⊆
            outlines (elementsInAttributes attributes))
      (fun insets => ∀ state,
        outlines (elementsInInsets (rewriteInsets (inlineStep dialect path) insets state).1) ⊆
          outlines (elementsInInsets insets)) where
  noNodes _ := List.Subset.refl _
  element tag attributes children position rest hattributes hchildren hrest state := by
    have houtline := outline_walked (inlineStep dialect path) state tag attributes children
    have hfirst := hattributes state
    rw [rewriteNodes_element]
    dsimp only
    generalize rewriteAttributes (inlineStep dialect path) attributes state = walked
      at hfirst houtline ⊢
    have hsecond := hchildren walked.2
    generalize rewriteNodes (inlineStep dialect path) children walked.2 = below at hsecond ⊢
    have hhere := inlineStep_outlines dialect path ⟨tag, walked.1, below.1, position⟩ below.2
    have hself : outlines (Node.element ⟨tag, walked.1, below.1, position⟩).elements ⊆
        outlines (Node.element ⟨tag, attributes, children, position⟩).elements := by
      simp only [Node.elements, outlines, List.map_cons, houtline below.1 position]
      exact List.cons_subset_cons _ (outlines_append_subset hfirst hsecond)
    exact outlines_append_subset (List.Subset.trans hhere hself) (hrest _)
  text run rest hrest state := hrest state
  expression code insets position rest hinsets hrest state := by
    rw [rewriteNodes_expression]
    exact outlines_append_subset (hinsets state) (hrest _)
  noAttributes _ := List.Subset.refl _
  bare name position rest hrest state := hrest state
  static name text position rest hrest state := hrest state
  dynamic name code insets place position rest hinsets hrest state := by
    rw [rewriteAttributes_dynamic]
    exact outlines_append_subset (hinsets state) (hrest _)
  noInsets _ := List.Subset.refl _
  inset start stop fragment nodes rest hnodes hrest state := by
    rw [rewriteInsets_cons]
    exact outlines_append_subset (hnodes state) (hrest _)

/-- Wherever a reference stands in a lowered document that had none before, it selects a template
of the registry. -/
theorem lowered_selects (dialect : Dialect) (inlines : Bool) {document : Document}
    (hfree : document.ReferenceFree) (ledger : Ledger) :
    ∀ element ∈ elementsIn (document.lower dialect inlines ledger).document.nodes,
      element.SelectsFrom (document.lower dialect inlines ledger).ledger.registry.selectors := by
  have hlifted := lifted_selects dialect hfree ledger
  rw [lower_document]
  cases inlines with
  | false => exact hlifted
  | true =>
    intro element hm
    rw [if_pos rfl, inlineText_eq] at hm
    have hsubset := (inline_outlines dialect (document.extract dialect ledger).1.path).nodes
      (document.extract dialect ledger).1.nodes .start
    obtain ⟨element', hm', ho⟩ := List.mem_map.mp (hsubset (List.mem_map_of_mem hm))
    exact .congr ho (hlifted element' hm')

/-- Every template for a component passed as a property is named for one of the properties
that are called. -/
def Registry.ServesCalls (called : String → Prop) (registry : Registry) : Prop :=
  ∀ template ∈ registry.propTemplates,
    ∃ prop, called prop ∧ template.component = prop ++ componentSuffix

/-- The properties that have a selector are those with one before, and those that a child calls. -/
theorem choose_props (prop? : Option String) (selectors : Selectors) (supplies : Supplies) :
    ∀ pair ∈ (selectors.choose prop? supplies).2.1.props,
      pair ∈ selectors.props ∨ prop? = some pair.1 := by
  intro pair hm
  cases prop? with
  | none =>
    rcases selectors.choose_plain_cases supplies with ⟨_, -, hc⟩ | ⟨-, hc⟩ <;>
      exact .inl (by rw [hc] at hm; exact hm)
  | some prop =>
    rcases selectors.choose_prop_cases prop supplies with ⟨_, -, hc⟩ | ⟨-, hc⟩
    · exact .inl (by rw [hc] at hm; exact hm)
    · rw [hc] at hm
      rcases List.mem_append.mp hm with hm | hm
      · exact .inl hm
      · rw [List.mem_singleton.mp hm]
        exact .inr rfl

/-- A property has a selector after lifting only if it had one before or a child calls it. -/
theorem liftChildren_props (calledProp? : String → Option String) (inText : Bool)
    (children : List Node) (selectors : Selectors) (supplies : Supplies) :
    ∀ pair ∈ (liftChildren calledProp? inText children selectors supplies).2.1.props,
      pair ∈ selectors.props ∨ ∃ script, .expression script ∈ children ∧
        calledProp? script.code = some pair.1 := by
  induction children generalizing selectors supplies with
  | nil => exact fun pair hm => .inl hm
  | cons node rest ih =>
    intro pair hm
    cases node with
    | element inner =>
      rcases ih selectors supplies pair hm with h | ⟨script, hs, hc⟩
      · exact .inl h
      · exact .inr ⟨script, List.mem_cons_of_mem _ hs, hc⟩
    | text run =>
      rcases ih selectors supplies pair hm with h | ⟨script, hs, hc⟩
      · exact .inl h
      · exact .inr ⟨script, List.mem_cons_of_mem _ hs, hc⟩
    | expression script =>
      rcases ih _ _ pair hm with h | ⟨script', hs, hc⟩
      · rcases choose_props (calledProp? script.code) selectors supplies pair h with h | h
        · exact .inl h
        · exact .inr ⟨script, List.mem_cons_self, h⟩
      · exact .inr ⟨script', List.mem_cons_of_mem _ hs, hc⟩

/-- A step registers components only for properties that the children call. -/
theorem liftStep_servesCalls (dialect : Dialect) {called : String → Prop} {element : Element}
    {ledger : Ledger} (h : ledger.registry.ServesCalls called)
    (hcalls : ∀ script, .expression script ∈ element.children →
      ∀ prop ∈ dialect.calledProp? script.code, called prop) :
    (liftStep dialect element ledger).2.registry.ServesCalls called := by
  unfold liftStep
  split
  · exact h
  · intro template hm
    rcases List.mem_append.mp hm with hm | hm
    · exact h template hm
    · obtain ⟨pair, hpair, rfl⟩ := List.mem_map.mp hm
      rcases liftChildren_props _ _ _ _ _ pair hpair with hnone | ⟨script, hs, hc⟩
      · simp [Selectors.none] at hnone
      · exact ⟨pair.1, hcalls script hs pair.1 hc, rfl⟩

/-- An expression among nodes is one of the expressions in them. -/
theorem mem_expressionsIn {nodes : List Node} {script : Expression}
    (h : .expression script ∈ nodes) : script ∈ expressionsIn nodes := by
  induction nodes with
  | nil => simp at h
  | cons node rest ih =>
    rw [expressionsIn]
    rcases List.mem_cons.mp h with rfl | h
    · obtain ⟨code, insets, position⟩ := script
      simp [Node.expressions]
    · exact List.mem_append_right _ (ih h)

/-- A pass registers components only for properties that expressions of the nodes call. -/
theorem lift_servesCalls (dialect : Dialect) (called : String → Prop) :
    TreeInduction
      (fun nodes => (∀ script ∈ expressionsIn nodes,
          ∀ prop ∈ dialect.calledProp? script.code, called prop) →
        ∀ ledger : Ledger, ledger.registry.ServesCalls called →
          (rewriteNodes (liftStep dialect) nodes ledger).2.registry.ServesCalls called)
      (fun attributes => (∀ script ∈ expressionsInAttributes attributes,
          ∀ prop ∈ dialect.calledProp? script.code, called prop) →
        ∀ ledger : Ledger, ledger.registry.ServesCalls called →
          (rewriteAttributes (liftStep dialect) attributes ledger).2.registry.ServesCalls called)
      (fun insets => (∀ script ∈ expressionsInInsets insets,
          ∀ prop ∈ dialect.calledProp? script.code, called prop) →
        ∀ ledger : Ledger, ledger.registry.ServesCalls called →
          (rewriteInsets (liftStep dialect) insets ledger).2.registry.ServesCalls called) where
  noNodes _ _ h := h
  element tag attributes children position rest hattributes hchildren hrest hall ledger h := by
    simp only [expressionsIn, Node.expressions, List.forall_mem_append] at hall
    obtain ⟨⟨hca, hcc⟩, hcr⟩ := hall
    rw [rewriteNodes_element]
    dsimp only
    have hfirst := hattributes hca ledger h
    generalize rewriteAttributes (liftStep dialect) attributes ledger = walked at hfirst ⊢
    have hsecond := hchildren hcc walked.2 hfirst
    have hframes := lift_frames dialect children walked.2
    generalize rewriteNodes (liftStep dialect) children walked.2 = below at hsecond hframes ⊢
    refine hrest hcr _ (liftStep_servesCalls dialect hsecond ?_)
    -- the expressions among the children have been rewritten, but their text is what it was
    intro script hm
    have hframe := hframes (List.mem_map_of_mem (mem_expressionsIn hm))
    obtain ⟨script', hm', he⟩ := List.mem_map.mp hframe
    have hcode : script'.code = script.code := (Expression.mk.inj he).1
    rw [← hcode]
    exact hcc script' hm'
  text run rest hrest hall ledger h := hrest hall ledger h
  expression code insets position rest hinsets hrest hall ledger h := by
    simp only [expressionsIn, Node.expressions, List.forall_mem_append, List.forall_mem_cons]
      at hall
    exact hrest hall.2 _ (hinsets hall.1.2 ledger h)
  noAttributes _ _ h := h
  bare name position rest hrest hall ledger h := hrest hall ledger h
  static name text position rest hrest hall ledger h := hrest hall ledger h
  dynamic name code insets place position rest hinsets hrest hall ledger h := by
    simp only [expressionsInAttributes, List.forall_mem_append, List.forall_mem_cons] at hall
    exact hrest hall.2.2 _ (hinsets hall.2.1 ledger h)
  noInsets _ _ h := h
  inset start stop fragment nodes rest hnodes hrest hall ledger h := by
    simp only [expressionsInInsets, List.forall_mem_append] at hall
    exact hrest hall.2 _ (hnodes hall.1 ledger h)

end MiniTemplate
