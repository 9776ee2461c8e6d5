import MiniTemplate.Inlining
import MiniTemplate.Proofs.Rewriting

/-!
# What inlining does to an element and when it stops

`Inlines` says what becomes of the children of a text container, which bindings are
kept and what stops the pass there; `inlineStep_cases` says everything that one step
can do. A pass stops exactly where some text container, however deep, holds a template
without a data key.
-/

namespace MiniTemplate

/-- What inlining makes of the children of a text container, with the bindings it keeps and
the reason for which it stops, if it does. -/
inductive Inlines (path container : String) :
    List Node → List Node → List Binding → Option Diagnostic → Prop where
  | nil : Inlines path container [] [] [] none
  | shown {before after : List Node} {bindings : List Binding} {failure : Option Diagnostic}
    (inner : Element) (key : String) (ht : inner.tag = templateTag)
    (hk : inner.staticText? dataKeyName = some key)
    (h : Inlines path container before after bindings failure) :
    Inlines path container (.element inner :: before)
      (.text ⟨interpolation key, inner.position⟩ :: after) (inner.binding?.toList ++ bindings)
      failure
  | stopped {before : List Node} (inner : Element) (ht : inner.tag = templateTag)
    (hk : inner.staticText? dataKeyName = none) :
    Inlines path container (.element inner :: before) (.element inner :: before) []
      (some ((Cause.nothingToInline container).diagnose path inner.position))
  | element {before after : List Node} {bindings : List Binding} {failure : Option Diagnostic}
    (inner : Element) (ht : inner.tag ≠ templateTag)
    (h : Inlines path container before after bindings failure) :
    Inlines path container (.element inner :: before) (.element inner :: after) bindings failure
  | text {before after : List Node} {bindings : List Binding} {failure : Option Diagnostic}
    (run : TextRun) (h : Inlines path container before after bindings failure) :
    Inlines path container (.text run :: before) (.text run :: after) bindings failure
  | expression {before after : List Node} {bindings : List Binding} {failure : Option Diagnostic}
    (script : Expression) (h : Inlines path container before after bindings failure) :
    Inlines path container (.expression script :: before) (.expression script :: after) bindings
      failure

/-- A change of the state comes before what is done next. -/
theorem modify_bind {α : Type} (change : Inlined → Inlined) (next : Unit → StateM Inlined α)
    (state : Inlined) :
    ((modify change : StateM Inlined Unit) >>= next) state = next () (change state) := rfl

/-- Inlining children one after the other, as long as nothing has stopped the pass; the bindings
kept before play no part in it. -/
theorem inlineChildren_spec (path container : String) (children : List Node) :
    ∃ after kept failure,
      (∀ bindings, inlineChildren path container children ⟨bindings, none⟩ =
        (after, ⟨bindings ++ kept, failure⟩)) ∧
      Inlines path container children after kept failure := by
  induction children with
  | nil =>
    refine ⟨[], [], none, fun bindings => ?_, .nil⟩
    rw [List.append_nil]
    rfl
  | cons node rest ih =>
    obtain ⟨after, kept, failure, he, h⟩ := ih
    cases node with
    | text run =>
      refine ⟨.text run :: after, kept, failure, fun bindings => ?_, .text run h⟩
      simp only [inlineChildren, bind, StateT.bind, he]
      rfl
    | expression script =>
      refine ⟨.expression script :: after, kept, failure, fun bindings => ?_, .expression script h⟩
      simp only [inlineChildren, bind, StateT.bind, he]
      rfl
    | element inner =>
      by_cases ht : inner.tag = templateTag
      · cases hk : inner.staticText? dataKeyName with
        | none =>
          refine ⟨_, [], _, fun bindings => ?_, .stopped inner ht hk⟩
          simp only [inlineChildren, ht, beq_self_eq_true, if_true, hk, List.append_nil]
          rfl
        | some key =>
          refine ⟨_, _, failure, fun bindings => ?_, .shown inner key ht hk h⟩
          simp only [inlineChildren, ht, beq_self_eq_true, if_true, hk, modify_bind]
          simp only [bind, StateT.bind, he, List.append_assoc]
          rfl
      · have hb : (inner.tag == templateTag) = false := beq_eq_false_iff_ne.mpr ht
        refine ⟨.element inner :: after, kept, failure, fun bindings => ?_, .element inner ht h⟩
        simp only [inlineChildren, hb, Bool.false_eq_true, if_false, bind, StateT.bind, he]
        rfl

/-- One step of the inlining pass. -/
def inlineStep (dialect : Dialect) (path : String) (element : Element) : StateM Inlined Element := do
  if (← get).failure.isSome || !dialect.isText element then return element
  return { element with children := ← inlineChildren path element.tag element.children }

/-- Inlining a document is the pass with that step. -/
theorem inlineText_eq (dialect : Dialect) (document : Document) :
    document.inlineText dialect =
      ({ document with
          nodes := (rewriteNodes (inlineStep dialect document.path) document.nodes .start).1 },
        (rewriteNodes (inlineStep dialect document.path) document.nodes .start).2) := rfl

/-- Once the pass has stopped, a step does nothing. -/
theorem inlineStep_stopped (dialect : Dialect) (path : String) (element : Element)
    (bindings : List Binding) (diagnostic : Diagnostic) :
    inlineStep dialect path element ⟨bindings, some diagnostic⟩ =
      (element, ⟨bindings, some diagnostic⟩) := rfl

/-- Outside text containers a step does nothing. -/
theorem inlineStep_of_not_text {dialect : Dialect} {element : Element}
    (h : dialect.isText element = false) (path : String) (bindings : List Binding) :
    inlineStep dialect path element ⟨bindings, none⟩ = (element, ⟨bindings, none⟩) := by
  simp only [inlineStep, bind, StateT.bind, get, getThe, MonadStateOf.get, StateT.get, pure, h]
  rfl

/-- In a text container a step inlines the children. -/
theorem inlineStep_of_text {dialect : Dialect} {element : Element}
    (h : dialect.isText element = true) (path : String) (bindings : List Binding) :
    inlineStep dialect path element ⟨bindings, none⟩ =
      let result := inlineChildren path element.tag element.children ⟨bindings, none⟩
      (⟨element.tag, element.attributes, result.1, element.position⟩, result.2) := by
  simp only [inlineStep, bind, StateT.bind, get, getThe, MonadStateOf.get, StateT.get, pure, h]
  rfl

/-- Everything a step can do: nothing, once the pass has stopped and outside text containers;
else the children are inlined and their bindings kept. -/
theorem inlineStep_cases (dialect : Dialect) (path : String) (element : Element)
    (state : Inlined) :
    ((state.failure.isSome = true ∨ dialect.isText element = false) ∧
      inlineStep dialect path element state = (element, state)) ∨
    (state.failure = none ∧ dialect.isText element = true ∧ ∃ children kept failure,
      inlineStep dialect path element state =
        (⟨element.tag, element.attributes, children, element.position⟩,
          ⟨state.bindings ++ kept, failure⟩) ∧
      Inlines path element.tag element.children children kept failure) := by
  obtain ⟨bindings, failure⟩ := state
  cases failure with
  | some diagnostic => exact .inl ⟨.inl rfl, inlineStep_stopped dialect path element _ _⟩
  | none =>
    cases ht : dialect.isText element with
    | false => exact .inl ⟨.inr rfl, inlineStep_of_not_text ht path bindings⟩
    | true =>
      obtain ⟨children, kept, failure, he, h⟩ :=
        inlineChildren_spec path element.tag element.children
      refine .inr ⟨rfl, rfl, children, kept, failure, ?_, h⟩
      rw [inlineStep_of_text ht, he]

/-- A state with more bindings kept before. -/
def Inlined.prepend (earlier : List Binding) (state : Inlined) : Inlined :=
  ⟨earlier ++ state.bindings, state.failure⟩

/-- A step does not depend on the bindings kept before it. -/
theorem inlineStep_prepend (dialect : Dialect) (path : String) (earlier : List Binding)
    (element : Element) (state : Inlined) :
    inlineStep dialect path element (state.prepend earlier) =
      ((inlineStep dialect path element state).1,
        (inlineStep dialect path element state).2.prepend earlier) := by
  obtain ⟨bindings, failure⟩ := state
  cases failure with
  | some diagnostic => rfl
  | none =>
    unfold Inlined.prepend
    cases ht : dialect.isText element with
    | false => rw [inlineStep_of_not_text ht, inlineStep_of_not_text ht]
    | true =>
      obtain ⟨children, kept, failure, he, -⟩ :=
        inlineChildren_spec path element.tag element.children
      simp only [inlineStep_of_text ht, he, List.append_assoc]

/-- Nor does a pass over insets. -/
theorem rewriteInsets_inline_of_running (dialect : Dialect) (path : String) (insets : List Inset)
    {state : Inlined} (h : state.failure = none) :
    (rewriteInsets (inlineStep dialect path) insets state).1 =
      (rewriteInsets (inlineStep dialect path) insets .start).1 := by
  have hstate : state = Inlined.start.prepend state.bindings := by
    obtain ⟨bindings, failure⟩ := state
    simpa [Inlined.prepend, Inlined.start] using h
  rw [hstate, (rewrite_commutes (inlineStep_prepend dialect path state.bindings)).insets]

/-- Bindings that have been kept stay, and a step after which the pass goes on found it going. -/
theorem inlineStep_progress (dialect : Dialect) (path : String) (element : Element)
    (state : Inlined) :
    state.bindings ⊆ (inlineStep dialect path element state).2.bindings ∧
      ((inlineStep dialect path element state).2.failure = none → state.failure = none) := by
  rcases inlineStep_cases dialect path element state with ⟨-, he⟩ | ⟨hrun, -, _, _, _, he, -⟩
  · rw [he]
    exact ⟨List.Subset.refl _, id⟩
  · rw [he]
    exact ⟨List.subset_append_left _ _, fun _ => hrun⟩

/-- Bindings that have been kept stay, and a pass that has stopped does not go on. -/
theorem inline_progress (dialect : Dialect) (path : String) :
    TreeInduction
      (fun nodes => ∀ state : Inlined,
        state.bindings ⊆ (rewriteNodes (inlineStep dialect path) nodes state).2.bindings ∧
          ((rewriteNodes (inlineStep dialect path) nodes state).2.failure = none →
            state.failure = none))
      (fun attributes => ∀ state : Inlined,
        state.bindings ⊆ (rewriteAttributes (inlineStep dialect path) attributes state).2.bindings ∧
          ((rewriteAttributes (inlineStep dialect path) attributes state).2.failure = none →
            state.failure = none))
      (fun insets => ∀ state : Inlined,
        state.bindings ⊆ (rewriteInsets (inlineStep dialect path) insets state).2.bindings ∧
          ((rewriteInsets (inlineStep dialect path) insets state).2.failure = none →
            state.failure = none)) := by
  apply rewrite_relates (R := fun before after : Inlined =>
    before.bindings ⊆ after.bindings ∧ (after.failure = none → before.failure = none))
  · exact fun state => ⟨List.Subset.refl _, id⟩
  · exact fun h h' => ⟨List.Subset.trans h.1 h'.1, fun hn => h.2 (h'.2 hn)⟩
  · exact inlineStep_progress dialect path

/-- Inlining at an element leaves its attributes. -/
theorem inlineStep_attributes (dialect : Dialect) (path : String) (element : Element)
    (state : Inlined) :
    (inlineStep dialect path element state).1.attributes = element.attributes := by
  rcases inlineStep_cases dialect path element state with ⟨-, he⟩ | ⟨-, -, _, _, _, he, -⟩ <;> rw [he]

/-- A step changes nothing of an element but its children. -/
theorem inlineStep_keepsOutline (dialect : Dialect) (path : String) :
    KeepsOutline (inlineStep dialect path) := by
  intro element state
  rcases inlineStep_cases dialect path element state with ⟨-, he⟩ | ⟨-, -, _, _, _, he, -⟩
  · rw [he]
  · rw [he]
    rfl

/-- Whether a node is a template without a data key. -/
def Node.isKeyless : Node → Bool
  | .element inner => inner.tag == templateTag && (inner.staticText? dataKeyName).isNone
  | _ => false

/-- Whether an element is a text container in which a template has no data key. -/
def Element.holdsKeyless (dialect : Dialect) (element : Element) : Bool :=
  dialect.isText element && element.children.any Node.isKeyless

/-- Inlining children stops exactly where one of them is a template without a data key. -/
theorem Inlines.failure_isSome {path container : String} {before after : List Node}
    {bindings : List Binding} {failure : Option Diagnostic}
    (h : Inlines path container before after bindings failure) :
    failure.isSome = before.any Node.isKeyless := by
  induction h with
  | nil => rfl
  | shown inner key ht hk h ih => simp [Node.isKeyless, hk, ih]
  | stopped inner ht hk => simp [Node.isKeyless, ht, hk]
  | element inner ht h ih => simp [Node.isKeyless, ht, ih]
  | text run h ih => simpa [Node.isKeyless] using ih
  | expression script h ih => simpa [Node.isKeyless] using ih

/-- Inlining children stops for want of a data key, and for nothing else. -/
theorem Inlines.failure_code {path container : String} {before after : List Node}
    {bindings : List Binding} {failure : Option Diagnostic}
    (h : Inlines path container before after bindings failure) :
    ∀ diagnostic ∈ failure, diagnostic.code = "WX-INV-DATAKEY" := by
  induction h with
  | nil => simp
  | shown inner key ht hk h ih => exact ih
  | stopped inner ht hk =>
    intro diagnostic hm
    obtain rfl := Option.mem_some_iff.mp hm
    rfl
  | element inner ht h ih => exact ih
  | text run h ih => exact ih
  | expression script h ih => exact ih

/-- Whether a step leaves the pass stopped. -/
theorem inlineStep_failure (dialect : Dialect) (path : String) (element : Element)
    (state : Inlined) :
    (inlineStep dialect path element state).2.failure.isSome =
      (state.failure.isSome || element.holdsKeyless dialect) := by
  unfold Element.holdsKeyless
  rcases inlineStep_cases dialect path element state with
    ⟨hstopped | htext, he⟩ | ⟨hrun, htext, _, _, _, he, h⟩
  · simp [he, hstopped]
  · simp [he, htext]
  · simp [he, hrun, htext, h.failure_isSome]

/-- A dialect that tells text containers by their tags. -/
def Dialect.ByTag (dialect : Dialect) : Prop :=
  ∀ a b : Element, a.tag = b.tag → dialect.isText a = dialect.isText b

/-- A dialect given by tags looks at tags only. -/
theorem Dialect.byTag_ofTags (textTags : List String) (suffix : String) :
    (Dialect.ofTags textTags suffix).ByTag := by
  intro a b h
  change textTags.contains a.tag = textTags.contains b.tag
  rw [h]

/-- Whether a node is a template without a key is told from its outline. -/
theorem isKeyless_outline (node : Node) : node.outline.isKeyless = node.isKeyless := by
  cases node with
  | element inner =>
    simp only [Node.outline, Node.isKeyless, Element.staticText?_outline]
    rfl
  | text run => rfl
  | expression script => rfl

/-- Nodes with the same outlines agree in whether a template has no data key. -/
theorem any_isKeyless_congr {nodes nodes' : List Node}
    (h : nodes.map Node.outline = nodes'.map Node.outline) :
    nodes.any Node.isKeyless = nodes'.any Node.isKeyless := by
  have ha := congrArg (List.any · Node.isKeyless) h
  simpa only [List.any_map, Function.comp_def, isKeyless_outline] using ha

/-- Whether an element holds a template without a key depends on its tag and the outlines of its
children. -/
theorem Dialect.ByTag.holdsKeyless_congr {dialect : Dialect} (hd : dialect.ByTag) (a b : Element)
    (ht : a.tag = b.tag) (hc : a.children.map Node.outline = b.children.map Node.outline) :
    a.holdsKeyless dialect = b.holdsKeyless dialect := by
  unfold Element.holdsKeyless
  rw [hd a b ht, any_isKeyless_congr hc]

/-- Whether a pass stops: it does so exactly if some text container anywhere holds a template
without a data key. -/
theorem inline_failure {dialect : Dialect} (hd : dialect.ByTag) (path : String) :
    TreeInduction
      (fun nodes => ∀ state, (rewriteNodes (inlineStep dialect path) nodes state).2.failure.isSome =
        (state.failure.isSome || (elementsIn nodes).any (Element.holdsKeyless dialect)))
      (fun attributes => ∀ state,
        (rewriteAttributes (inlineStep dialect path) attributes state).2.failure.isSome =
          (state.failure.isSome ||
            (elementsInAttributes attributes).any (Element.holdsKeyless dialect)))
      (fun insets => ∀ state,
        (rewriteInsets (inlineStep dialect path) insets state).2.failure.isSome =
          (state.failure.isSome ||
            (elementsInInsets insets).any (Element.holdsKeyless dialect))) where
  noNodes state := by simp [rewriteNodes_nil, elementsIn]
  element tag attributes children position rest hattributes hchildren hrest state := by
    have houtline := (inlineStep_keepsOutline dialect path).nodes
      (rewriteAttributes (inlineStep dialect path) attributes state).2 children
    rw [rewriteNodes_element]
    dsimp only
    generalize (rewriteAttributes (inlineStep dialect path) attributes state).1 = attributes'
    have hself := hd.holdsKeyless_congr ⟨tag, attributes', _, position⟩
      ⟨tag, attributes, children, position⟩ rfl houtline
    rw [hrest, inlineStep_failure, hself, hchildren, hattributes]
    simp only [elementsIn, Node.elements, List.any_append, List.any_cons]
    -- the same four conditions in the order of the walk and in that of the list
    ac_rfl
  text run rest hrest state := hrest state
  expression code insets position rest hinsets hrest state := by
    rw [rewriteNodes_expression]
    dsimp only
    rw [hrest, hinsets]
    simp only [elementsIn, Node.elements, List.any_append]
    ac_rfl
  noAttributes state := by simp [rewriteAttributes_nil, elementsInAttributes]
  bare name position rest hrest state := hrest state
  static name text position rest hrest state := hrest state
  dynamic name code insets place position rest hinsets hrest state := by
    rw [rewriteAttributes_dynamic]
    dsimp only
    rw [hrest, hinsets]
    simp only [elementsInAttributes, List.any_append]
    ac_rfl
  noInsets state := by simp [rewriteInsets_nil, elementsInInsets]
  inset start stop fragment nodes rest hnodes hrest state := by
    rw [rewriteInsets_cons]
    dsimp only
    rw [hrest, hnodes]
    simp only [elementsInInsets, List.any_append]
    ac_rfl

/-- If a pass stops, then for want of a data key. -/
theorem inline_failure_code (dialect : Dialect) (path : String) :
    TreeInduction
      (fun nodes => ∀ state : Inlined,
        (∀ diagnostic ∈ state.failure, diagnostic.code = "WX-INV-DATAKEY") →
        ∀ diagnostic ∈ (rewriteNodes (inlineStep dialect path) nodes state).2.failure,
          diagnostic.code = "WX-INV-DATAKEY")
      (fun attributes => ∀ state : Inlined,
        (∀ diagnostic ∈ state.failure, diagnostic.code = "WX-INV-DATAKEY") →
        ∀ diagnostic ∈ (rewriteAttributes (inlineStep dialect path) attributes state).2.failure,
          diagnostic.code = "WX-INV-DATAKEY")
      (fun insets => ∀ state : Inlined,
        (∀ diagnostic ∈ state.failure, diagnostic.code = "WX-INV-DATAKEY") →
        ∀ diagnostic ∈ (rewriteInsets (inlineStep dialect path) insets state).2.failure,
          diagnostic.code = "WX-INV-DATAKEY") := by
  apply rewrite_relates (R := fun before after : Inlined =>
    (∀ diagnostic ∈ before.failure, diagnostic.code = "WX-INV-DATAKEY") →
      ∀ diagnostic ∈ after.failure, diagnostic.code = "WX-INV-DATAKEY")
  · exact fun _ h => h
  · exact fun h h' hs => h' (h hs)
  · intro element state hs
    rcases inlineStep_cases dialect path element state with ⟨-, he⟩ | ⟨-, -, _, _, _, he, h⟩
    · rw [he]
      exact hs
    · rw [he]
      exact h.failure_code

end MiniTemplate
