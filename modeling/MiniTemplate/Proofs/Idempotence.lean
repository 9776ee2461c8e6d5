import MiniTemplate.Proofs.Acceptance
import MiniTemplate.Proofs.Restoration

/-!
# Lowering a lowered document

What lowering leaves is in a normal form: no element that is no component has an
expression among its children and, where text containers were inlined, none of them has
a template among its children. Either pass leaves a document in this form as it is and
draws no names, so a second lowering meets the document and the registry that the audit
has accepted already.
-/

namespace MiniTemplate

/-- An element that no pass changes any more. -/
structure Element.Normal (dialect : Dialect) (inlines : Bool) (element : Element) : Prop where
  /-- Nothing is left to lift. -/
  settled : element.Settled dialect
  /-- Nothing is left to inline, if inlining is wanted. -/
  shown : inlines = true → element.holdsTemplate dialect = false

/-- Children that are no expressions are lifted to themselves. -/
theorem liftChildren_of_not_expression (calledProp? : String → Option String) (inText : Bool)
    {children : List Node}
    (h : ∀ child ∈ children, child.isExpression = false) (selectors : Selectors)
    (supplies : Supplies) :
    liftChildren calledProp? inText children selectors supplies = (children, selectors, supplies) := by
  induction children with
  | nil => rfl
  | cons node rest ih =>
    obtain ⟨hnode, hrest⟩ := List.forall_mem_cons.mp h
    cases node with
    | element inner => simp only [liftChildren, ih hrest]
    | text run => simp only [liftChildren, ih hrest]
    | expression script => simp [Node.isExpression] at hnode

/-- A registry to which no selectors are added stays as it is. -/
theorem Registry.add_none (registry : Registry) : registry.add .none = registry := by
  simp [Registry.add, Selectors.none]

/-- A step of lifting leaves a settled element and the ledger as they are. -/
theorem liftStep_of_settled {dialect : Dialect} {element : Element} (h : element.Settled dialect)
    (ledger : Ledger) : liftStep dialect element ledger = (element, ledger) := by
  cases hc : dialect.isComponent element.tag with
  | true =>
    simp only [liftStep, hc]
    rfl
  | false =>
    simp only [liftStep, hc, Bool.false_eq_true, if_false, Element.lift,
      liftChildren_of_not_expression _ _ (h hc), Registry.add_none]
    cases element
    rfl

/-- Where there are no templates, inlining children does nothing. -/
theorem Inlines.eq_of_not_template {path container : String} {before after : List Node}
    {kept : List Binding} {failure : Option Diagnostic}
    (h : Inlines path container before after kept failure)
    (hn : before.any Node.isTemplate = false) :
    after = before ∧ kept = [] ∧ failure = none := by
  induction h with
  | nil => exact ⟨rfl, rfl, rfl⟩
  | shown inner key ht hk h ih => simp [Node.isTemplate, ht] at hn
  | stopped inner ht hk => simp [Node.isTemplate, ht] at hn
  | element inner ht h ih =>
    rw [List.any_cons, Bool.or_eq_false_iff] at hn
    obtain ⟨rfl, hkept, hfailure⟩ := ih hn.2
    exact ⟨rfl, hkept, hfailure⟩
  | text run h ih =>
    obtain ⟨rfl, hkept, hfailure⟩ := ih hn
    exact ⟨rfl, hkept, hfailure⟩
  | expression script h ih =>
    obtain ⟨rfl, hkept, hfailure⟩ := ih hn
    exact ⟨rfl, hkept, hfailure⟩

/-- A step of inlining leaves an element as it is that has nothing to inline. -/
theorem inlineStep_of_shown {dialect : Dialect} {element : Element}
    (h : element.holdsTemplate dialect = false) (path : String) (state : Inlined) :
    inlineStep dialect path element state = (element, state) := by
  rcases inlineStep_cases dialect path element state with
    ⟨-, he⟩ | ⟨hrun, htext, children, kept, failure, he, hi⟩
  · exact he
  · have hn : element.children.any Node.isTemplate = false := by
      simpa [Element.holdsTemplate, htext] using h
    obtain ⟨rfl, rfl, rfl⟩ := hi.eq_of_not_template hn
    obtain ⟨bindings, running⟩ := state
    obtain rfl : running = none := hrun
    rw [he, List.append_nil]
    cases element
    rfl

/-- After inlining that does not stop, no child is a template. -/
theorem Inlines.any_isTemplate {path container : String} {before after : List Node}
    {kept : List Binding} {failure : Option Diagnostic}
    (h : Inlines path container before after kept failure) (hend : failure = none) :
    after.any Node.isTemplate = false := by
  induction h with
  | nil => rfl
  | shown inner key ht hk h ih => exact ih hend
  | stopped inner ht hk => cases hend
  | element inner ht h ih =>
    rw [List.any_cons, ih hend, Node.isTemplate, beq_eq_false_iff_ne.mpr ht]
    rfl
  | text run h ih => exact ih hend
  | expression script h ih => exact ih hend

/-- Inlining children brings in no expression. -/
theorem Inlines.not_expression {path container : String} {before after : List Node}
    {kept : List Binding} {failure : Option Diagnostic}
    (h : Inlines path container before after kept failure)
    (hn : ∀ child ∈ before, child.isExpression = false) :
    ∀ child ∈ after, child.isExpression = false := by
  induction h with
  | nil => exact hn
  | stopped inner ht hk => exact hn
  | shown inner key ht hk h ih =>
    exact List.forall_mem_cons.mpr ⟨rfl, ih (List.forall_mem_cons.mp hn).2⟩
  | element inner ht h ih | text inner h ih | expression inner h ih =>
    obtain ⟨hhead, hrest⟩ := List.forall_mem_cons.mp hn
    exact List.forall_mem_cons.mpr ⟨hhead, ih hrest⟩

/-- Inlining children brings in no element. -/
theorem Inlines.forall_elements {path container : String} {before after : List Node}
    {kept : List Binding} {failure : Option Diagnostic} {P : Element → Prop}
    (h : Inlines path container before after kept failure)
    (hbefore : ∀ element ∈ elementsIn before, P element) :
    ∀ element ∈ elementsIn after, P element := by
  induction h with
  | nil => exact hbefore
  | stopped inner ht hk => exact hbefore
  | shown inner key ht hk h ih =>
    rw [elementsIn, List.forall_mem_append] at hbefore
    exact ih hbefore.2
  | element inner ht h ih | text inner h ih | expression inner h ih =>
    rw [elementsIn, List.forall_mem_append] at hbefore ⊢
    exact ⟨hbefore.1, ih hbefore.2⟩

/-- Whether an element is settled depends on its tag and on where its children are expressions. -/
theorem Element.Settled.congr {dialect : Dialect} {a b : Element} (h : a.Settled dialect)
    (ht : a.tag = b.tag)
    (hc : a.children.map Node.isExpression = b.children.map Node.isExpression) :
    b.Settled dialect := by
  intro hcomponent child hm
  have hall := h (ht ▸ hcomponent)
  have hflag : child.isExpression ∈ a.children.map Node.isExpression :=
    hc ▸ List.mem_map_of_mem hm
  obtain ⟨child', hm', he⟩ := List.mem_map.mp hflag
  rw [← he]
  exact hall child' hm'

/-- After a step of inlining that does not stop, a settled element is normal. -/
theorem inlineStep_normal {dialect : Dialect} (path : String) {element : Element}
    {state : Inlined} (h : element.Settled dialect)
    (hend : (inlineStep dialect path element state).2.failure = none) :
    (inlineStep dialect path element state).1.Normal dialect true := by
  rcases inlineStep_cases dialect path element state with
    ⟨hstopped | htext, he⟩ | ⟨-, htext, children, kept, failure, he, hi⟩
  · rw [he] at hend
    dsimp only at hend
    simp [hend] at hstopped
  · rw [he]
    refine ⟨h, fun _ => ?_⟩
    simp [Element.holdsTemplate, htext]
  · rw [he] at hend ⊢
    refine ⟨fun hcomponent => hi.not_expression (h hcomponent), fun _ => ?_⟩
    simp [Element.holdsTemplate, hi.any_isTemplate hend]

/-- After a pass of inlining that does not stop, every element of a settled tree is normal. -/
theorem inline_normal (dialect : Dialect) (path : String) :
    TreeInduction
      (fun nodes => (∀ element ∈ elementsIn nodes, element.Settled dialect) →
        ∀ state, (rewriteNodes (inlineStep dialect path) nodes state).2.failure = none →
          ∀ element ∈ elementsIn (rewriteNodes (inlineStep dialect path) nodes state).1,
            element.Normal dialect true)
      (fun attributes => (∀ element ∈ elementsInAttributes attributes, element.Settled dialect) →
        ∀ state, (rewriteAttributes (inlineStep dialect path) attributes state).2.failure = none →
          ∀ element ∈ elementsInAttributes
            (rewriteAttributes (inlineStep dialect path) attributes state).1,
              element.Normal dialect true)
      (fun insets => (∀ element ∈ elementsInInsets insets, element.Settled dialect) →
        ∀ state, (rewriteInsets (inlineStep dialect path) insets state).2.failure = none →
          ∀ element ∈ elementsInInsets (rewriteInsets (inlineStep dialect path) insets state).1,
            element.Normal dialect true) where
  noNodes _ _ _ := by simp [rewriteNodes_nil, elementsIn]
  element tag attributes children position rest hattributes hchildren hrest hall state hend := by
    simp only [elementsIn, Node.elements, List.forall_mem_append, List.forall_mem_cons] at hall
    obtain ⟨⟨hself, hsa, hsc⟩, hsr⟩ := hall
    rw [rewriteNodes_element] at hend ⊢
    dsimp only at hend ⊢
    have hfirst := hattributes hsa state
    generalize rewriteAttributes (inlineStep dialect path) attributes state = walked at hfirst hend ⊢
    have hsecond := hchildren hsc walked.2
    have hkeep := (inlineStep_keepsOutline dialect path).isExpression children walked.2
    have hwalked := ((inline_progress dialect path).nodes children walked.2).2
    generalize rewriteNodes (inlineStep dialect path) children walked.2 = below
      at hsecond hkeep hwalked hend ⊢
    -- nothing has stopped the pass on its way
    have hstep := ((inline_progress dialect path).nodes rest _).2 hend
    have hbelow := (inlineStep_progress dialect path _ _).2 hstep
    have hsettled : Element.Settled dialect ⟨tag, walked.1, below.1, position⟩ :=
      hself.congr rfl hkeep
    have hhere := inlineStep_normal path hsettled hstep
    simp only [elementsIn, List.forall_mem_append]
    refine ⟨?_, hrest hsr _ hend⟩
    have hinside := hsecond hbelow
    rcases inlineStep_cases dialect path ⟨tag, walked.1, below.1, position⟩ below.2 with
      ⟨-, he⟩ | ⟨-, -, _, _, _, he, hi⟩
    · rw [he] at hhere ⊢
      exact List.forall_mem_cons.mpr
        ⟨hhere, List.forall_mem_append.mpr ⟨hfirst (hwalked hbelow), hinside⟩⟩
    · rw [he] at hhere ⊢
      exact List.forall_mem_cons.mpr
        ⟨hhere, List.forall_mem_append.mpr ⟨hfirst (hwalked hbelow), hi.forall_elements hinside⟩⟩
  text run rest hrest hall state hend := by
    rw [rewriteNodes_text] at hend ⊢
    exact hrest hall state hend
  expression code insets position rest hinsets hrest hall state hend := by
    simp only [elementsIn, Node.elements, List.forall_mem_append] at hall
    rw [rewriteNodes_expression] at hend ⊢
    have hmiddle := ((inline_progress dialect path).nodes rest _).2 hend
    simp only [elementsIn, Node.elements, List.forall_mem_append]
    exact ⟨hinsets hall.1 state hmiddle, hrest hall.2 _ hend⟩
  noAttributes _ _ _ := by simp [rewriteAttributes_nil, elementsInAttributes]
  bare name position rest hrest hall state hend := by
    rw [rewriteAttributes_bare] at hend ⊢
    exact hrest hall state hend
  static name text position rest hrest hall state hend := by
    rw [rewriteAttributes_static] at hend ⊢
    exact hrest hall state hend
  dynamic name code insets place position rest hinsets hrest hall state hend := by
    simp only [elementsInAttributes, List.forall_mem_append] at hall
    rw [rewriteAttributes_dynamic] at hend ⊢
    have hmiddle := ((inline_progress dialect path).attributes rest _).2 hend
    simp only [elementsInAttributes, List.forall_mem_append]
    exact ⟨hinsets hall.1 state hmiddle, hrest hall.2 _ hend⟩
  noInsets _ _ _ := by simp [rewriteInsets_nil, elementsInInsets]
  inset start stop fragment nodes rest hnodes hrest hall state hend := by
    simp only [elementsInInsets, List.forall_mem_append] at hall
    rw [rewriteInsets_cons] at hend ⊢
    have hmiddle := ((inline_progress dialect path).insets rest _).2 hend
    simp only [elementsInInsets, List.forall_mem_append]
    exact ⟨hnodes hall.1 state hmiddle, hrest hall.2 _ hend⟩

section Lowered

variable {dialect : Dialect} {inlines : Bool} {document : Document}

/-- Lifting a normal document changes nothing and draws no names. -/
theorem extract_of_normal
    (h : ∀ element ∈ elementsIn document.nodes, element.Normal dialect inlines) (ledger : Ledger) :
    document.extract dialect ledger = (document, ledger) := by
  have hfixed := (rewrite_fixed ledger).nodes document.nodes fun element hm =>
    liftStep_of_settled (h element hm).settled ledger
  rw [extract_eq, hfixed]

/-- Inlining a normal document changes nothing and keeps no bindings. -/
theorem inlineText_of_normal
    (h : ∀ element ∈ elementsIn document.nodes, element.Normal dialect true) :
    document.inlineText dialect = (document, .start) := by
  have hfixed := (rewrite_fixed Inlined.start).nodes document.nodes fun element hm =>
    inlineStep_of_shown ((h element hm).shown rfl) document.path .start
  rw [inlineText_eq, hfixed]

/-- Settling the bindings of a normal document gives bindings and leaves the document as it is. -/
theorem settleBindings_of_normal
    (h : ∀ element ∈ elementsIn document.nodes, element.Normal dialect inlines) :
    ∃ bindings, document.settleBindings dialect inlines = (document, .ok bindings) := by
  cases inlines with
  | false => exact ⟨_, settleBindings_false dialect document⟩
  | true =>
    rw [settleBindings_true, inlineText_of_normal h]
    exact ⟨_, rfl⟩

/-- A lowered document is normal. -/
theorem lowered_normal {ledger : Ledger} {bindings : List Binding}
    (h : (document.lower dialect inlines ledger).outcome = .ok bindings) :
    ∀ element ∈ elementsIn (document.lower dialect inlines ledger).document.nodes,
      element.Normal dialect inlines := by
  have hsettled := lifted_settled dialect document.nodes ledger
  have hok := settleBindings_of_lower h
  rw [lower_document]
  cases inlines with
  | false => exact fun element hm => ⟨hsettled element hm, fun hf => nomatch hf⟩
  | true =>
    rw [settleBindings_true] at hok
    cases hfailure : ((document.extract dialect ledger).1.inlineText dialect).2.failure with
    | some failure =>
      rw [hfailure] at hok
      cases hok
    | none => exact (inline_normal dialect _).nodes _ hsettled .start hfailure

/-- Lowering a normal document gives the document and the ledger back. -/
theorem lower_of_normal
    (h : ∀ element ∈ elementsIn document.nodes, element.Normal dialect inlines) (ledger : Ledger) :
    (document.lower dialect inlines ledger).document = document ∧
      (document.lower dialect inlines ledger).ledger = ledger := by
  obtain ⟨bindings, hb⟩ := settleBindings_of_normal h
  rw [lower_eq, extract_of_normal h]
  dsimp only
  rw [hb]
  exact ⟨rfl, rfl⟩

end Lowered

/-- The data key of an element that has a fixed one and an expression to fill it. -/
def Element.boundKey? (element : Element) : Option String :=
  if (element.expression? expressionName).isSome then element.staticText? dataKeyName else none

/-- The key of the binding that a reference has is the key it binds. -/
theorem Element.binding?_key (element : Element) :
    element.binding?.map Binding.key = element.boundKey? := by
  unfold binding? boundKey?
  cases element.staticText? dataKeyName <;> cases element.expression? expressionName <;> rfl

/-- The keys of the bindings of a document, in document order. -/
theorem bindings_keys (document : Document) :
    document.bindings.map Binding.key =
      (outerReferences document.nodes).filterMap Element.boundKey? := by
  unfold Document.bindings
  rw [bindingsOf_eq.nodes, List.map_filterMap]
  exact List.filterMap_congr fun element _ => element.binding?_key

/-- Lowering is idempotent, whatever references the document had and whatever had been drawn and
registered before: on the document and the registry that it left, with any supplies, it succeeds
again, changes neither, draws no names, and gives the bindings of the references that are still
in the outer trees, in document order. -/
theorem lower_idempotent (textTags : List String) (suffix : String) (inlines : Bool)
    (document : Document) (ledger : Ledger) (bindings : List Binding) (supplies : Supplies)
    (hok : (document.lower (.ofTags textTags suffix) inlines ledger).outcome = .ok bindings) :
    let dialect := Dialect.ofTags textTags suffix
    let once := document.lower dialect inlines ledger
    let twice := once.document.lower dialect inlines ⟨supplies, once.ledger.registry⟩
    twice.document = once.document ∧ twice.ledger = ⟨supplies, once.ledger.registry⟩ ∧
      ∃ again, twice.outcome = .ok again ∧
        again.map Binding.key = (outerReferences once.document.nodes).filterMap Element.boundKey? := by
  intro dialect once twice
  have hnormal : ∀ element ∈ elementsIn once.document.nodes, element.Normal dialect inlines :=
    lowered_normal hok
  have haccepted : once.document.violations dialect once.ledger.registry = [] :=
    (lower_ok_iff.mp hok).2
  obtain ⟨hdocument, hledger⟩ := lower_of_normal hnormal ⟨supplies, once.ledger.registry⟩
  obtain ⟨again, hagain⟩ := settleBindings_of_normal hnormal
  have hlifted := extract_of_normal hnormal ⟨supplies, once.ledger.registry⟩
  refine ⟨hdocument, hledger, again, ?_, ?_⟩
  · refine lower_ok_iff.mpr ⟨?_, ?_⟩
    · rw [hlifted, hagain]
    · rw [hdocument, hledger]
      exact haccepted
  · rw [settled_keys (congrArg Prod.snd hagain), bindings_keys]

/-- A reference that its author wrote, beside expressions in text, in a component and inside
another expression. -/
def mixedDocument : Document where
  path := "mixed.jsx"
  nodes := [.element ⟨"view", [],
    [.element ⟨"template", [.ofText dataKeyName "own",
        .ofExpression expressionName ⟨"mine", [], ⟨2, 24⟩⟩], [], ⟨2, 2⟩⟩,
      .expression ⟨"ok && <text>\x7bname\x7d</text>",
        [⟨6, 25, false, [.element ⟨"text", [], [.expression ⟨"name", [], ⟨3, 14⟩⟩], ⟨3, 8⟩⟩]⟩],
        ⟨3, 2⟩⟩,
      .element ⟨"text", [], [.expression ⟨"title", [], ⟨4, 8⟩⟩], ⟨4, 2⟩⟩,
      .element ⟨"rowCPT", [], [.expression ⟨"row", [], ⟨5, 10⟩⟩], ⟨5, 2⟩⟩], ⟨1, 0⟩⟩]

/-- Supplies that have handed out other names than a compilation does that starts afresh. -/
def usedSupplies : Supplies := ⟨⟨"child", 7⟩, ⟨"cd", 3⟩, ⟨"propchild", 0⟩⟩

/-- A second lowering gives the bindings of the two references that are left. -/
theorem lower_idempotent_mixed :
    let once := mixedDocument.lower (.ofTags defaultTextTags componentSuffix) true .fresh
    let twice := once.document.lower (.ofTags defaultTextTags componentSuffix) true
      ⟨usedSupplies, once.ledger.registry⟩
    once.outcome = .ok [⟨"own", "mine", ⟨2, 24⟩⟩,
        ⟨"cd2", "ok && <text>\x7b\x7bcd0\x7d\x7d</text>", ⟨3, 2⟩⟩, ⟨"cd1", "title", ⟨4, 8⟩⟩] ∧
      twice.document = once.document ∧ twice.ledger = ⟨usedSupplies, once.ledger.registry⟩ ∧
      ∃ again, twice.outcome = .ok again ∧ again.map Binding.key = ["own", "cd2"] := by
  have hok : (mixedDocument.lower (.ofTags defaultTextTags componentSuffix) true .fresh).outcome =
      .ok [⟨"own", "mine", ⟨2, 24⟩⟩,
        ⟨"cd2", "ok && <text>\x7b\x7bcd0\x7d\x7d</text>", ⟨3, 2⟩⟩, ⟨"cd1", "title", ⟨4, 8⟩⟩] := by
    decide +kernel
  obtain ⟨hdocument, hledger, again, hagain, hkeys⟩ := lower_idempotent defaultTextTags
    componentSuffix true mixedDocument .fresh _ usedSupplies hok
  refine ⟨hok, hdocument, hledger, again, hagain, hkeys.trans ?_⟩
  decide +kernel

end MiniTemplate
