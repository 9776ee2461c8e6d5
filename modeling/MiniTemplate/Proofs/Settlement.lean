import MiniTemplate.Lowering
import MiniTemplate.Proofs.Bindings

/-!
# The bindings that lowering gives back

The bindings of a lifted document are joined by key with those that are still in the
document after inlining and those that inlining kept. Where a document has no references
before it is lifted, each reference of an outer tree is found there exactly once; so one
binding is given back for each expression that was lifted there, in document order and
with its final code.
-/

namespace MiniTemplate

/-- Lowering lifts the document, settles its bindings and audits what has become of it. -/
theorem lower_eq (dialect : Dialect) (inlines : Bool) (document : Document) (ledger : Ledger) :
    document.lower dialect inlines ledger =
      let lifted := document.extract dialect ledger
      let settled := lifted.1.settleBindings dialect inlines
      ⟨settled.1, lifted.2, do
        let bindings ← settled.2
        match Diagnostic.summarize? (settled.1.violations dialect lifted.2.registry) with
        | some violation => .error violation
        | none => .ok bindings⟩ := rfl

/-- Where the audit finds nothing, lowering gives what settling the bindings gave. -/
theorem lower_outcome_of_accepted {dialect : Dialect} {inlines : Bool} {document : Document}
    {ledger : Ledger}
    (h : (document.lower dialect inlines ledger).document.violations dialect
      (document.lower dialect inlines ledger).ledger.registry = []) :
    (document.lower dialect inlines ledger).outcome =
      ((document.extract dialect ledger).1.settleBindings dialect inlines).2 := by
  rw [lower_eq] at h ⊢
  dsimp only at h ⊢
  rw [h]
  cases ((document.extract dialect ledger).1.settleBindings dialect inlines).2 <;> rfl

/-- Without inlining the lifted document stands, and its bindings with it. -/
theorem settleBindings_false (dialect : Dialect) (document : Document) :
    document.settleBindings dialect false = (document, .ok document.bindings) := rfl

/-- With inlining the document is what the pass made of it; its bindings are there unless the
pass stopped. -/
theorem settleBindings_true (dialect : Dialect) (document : Document) :
    document.settleBindings dialect true =
      ((document.inlineText dialect).1,
        match (document.inlineText dialect).2.failure with
        | some failure => .error failure
        | none => .ok (refresh ((document.inlineText dialect).1.bindings ++
            (document.inlineText dialect).2.bindings).reverse document.bindings)) := by
  unfold Document.settleBindings
  rcases document.inlineText dialect with ⟨document', bindings, failure⟩
  cases failure <;> rfl

/-- Lowering leaves the lifted document, with its text containers inlined if wanted. -/
theorem lower_document (dialect : Dialect) (inlines : Bool) (document : Document)
    (ledger : Ledger) :
    (document.lower dialect inlines ledger).document =
      if inlines then ((document.extract dialect ledger).1.inlineText dialect).1
      else (document.extract dialect ledger).1 := by
  rw [lower_eq]
  cases inlines with
  | false => rfl
  | true =>
    dsimp only
    rw [settleBindings_true]
    rfl

/-- There is a summary exactly of some complaints. -/
theorem summarize?_eq_none {diagnostics : List Diagnostic} :
    Diagnostic.summarize? diagnostics = none ↔ diagnostics = [] := by
  match diagnostics with
  | [] => simp [Diagnostic.summarize?]
  | [only] => simp [Diagnostic.summarize?]
  | first :: second :: rest => simp [Diagnostic.summarize?]

/-- Lowering gives bindings exactly if these were settled and the audit finds nothing. -/
theorem lower_ok_iff {dialect : Dialect} {inlines : Bool} {document : Document}
    {ledger : Ledger} {bindings : List Binding} :
    (document.lower dialect inlines ledger).outcome = .ok bindings ↔
      ((document.extract dialect ledger).1.settleBindings dialect inlines).2 = .ok bindings ∧
        (document.lower dialect inlines ledger).document.violations dialect
          (document.lower dialect inlines ledger).ledger.registry = [] := by
  rw [lower_eq]
  dsimp only
  generalize (document.extract dialect ledger).1.settleBindings dialect inlines = settled
  obtain ⟨document', outcome⟩ := settled
  rw [← summarize?_eq_none]
  cases outcome with
  | error diagnostic => simp [bind, Except.bind]
  | ok found =>
    cases Diagnostic.summarize?
      (document'.violations dialect (document.extract dialect ledger).2.registry) <;>
        simp [bind, Except.bind]

/-- The bindings that lowering gives are those that were settled. -/
theorem settleBindings_of_lower {dialect : Dialect} {inlines : Bool} {document : Document}
    {ledger : Ledger} {bindings : List Binding}
    (h : (document.lower dialect inlines ledger).outcome = .ok bindings) :
    ((document.extract dialect ledger).1.settleBindings dialect inlines).2 = .ok bindings :=
  (lower_ok_iff.mp h).1

/-- Refreshing bindings changes none of their keys. -/
theorem refresh_keys (current bindings : List Binding) :
    (refresh current bindings).map Binding.key = bindings.map Binding.key := by
  induction bindings generalizing current with
  | nil => rfl
  | cons binding rest ih =>
    rw [refresh]
    cases hf : current.find? (fun other => other.key == binding.key) with
    | none => exact congrArg (binding.key :: ·) (ih current)
    | some found =>
      have hkey : found.key = binding.key := by simpa using List.find?_some hf
      dsimp only
      rw [List.map_cons, List.map_cons, ih, hkey]

/-- The bindings that are settled for a document have the keys of its own bindings, in the same
order. -/
theorem settled_keys {dialect : Dialect} {inlines : Bool} {document : Document}
    {bindings : List Binding} (h : (document.settleBindings dialect inlines).2 = .ok bindings) :
    bindings.map Binding.key = document.bindings.map Binding.key := by
  cases inlines with
  | false =>
    rw [settleBindings_false] at h
    rw [Except.ok.inj h]
  | true =>
    rw [settleBindings_true] at h
    cases hfailure : (document.inlineText dialect).2.failure with
    | some failure =>
      rw [hfailure] at h
      cases h
    | none =>
      rw [hfailure] at h
      rw [← Except.ok.inj h, refresh_keys]

/-- Where keys differ, the key of a binding finds the binding. -/
theorem find?_key {bindings : List Binding} (hd : (bindings.map Binding.key).Nodup)
    {binding : Binding} (hm : binding ∈ bindings) :
    bindings.find? (fun other => other.key == binding.key) = some binding := by
  cases hf : bindings.find? (fun other => other.key == binding.key) with
  | none => exact absurd (List.find?_eq_none.mp hf binding hm) (by simp)
  | some found =>
    have hkey : found.key = binding.key := by simpa using List.find?_some hf
    rw [List.inj_on_of_nodup_map hd (List.mem_of_find?_eq_some hf) hm hkey]

/-- Where keys differ, refreshing bindings gives the current bindings of their keys. -/
theorem refresh_eq {current bindings settled : List Binding}
    (hkeys : settled.map Binding.key = bindings.map Binding.key)
    (hb : (bindings.map Binding.key).Nodup) (hc : (current.map Binding.key).Nodup)
    (hmem : ∀ found ∈ settled, found ∈ current) : refresh current bindings = settled := by
  induction bindings generalizing current settled with
  | nil =>
    rw [List.map_nil, List.map_eq_nil_iff] at hkeys
    rw [hkeys, refresh]
  | cons binding rest ih =>
    obtain ⟨found, settled, rfl, hkey, hrest⟩ := List.map_eq_cons_iff.mp hkeys
    rw [List.map_cons, List.nodup_cons] at hb
    have hfound := find?_key hc (hmem found List.mem_cons_self)
    rw [hkey] at hfound
    rw [refresh, hfound]
    dsimp only
    rw [ih hrest hb.2 (hc.sublist (List.filter_sublist.map _)) ?_]
    intro other ho
    -- the current binding of a later key is not the one taken out
    have hother : other.key ∈ rest.map Binding.key := hrest ▸ List.mem_map_of_mem ho
    have hne : other.key ≠ binding.key := fun he => hb.1 (he ▸ hother)
    exact List.mem_filter.mpr ⟨hmem other (List.mem_cons_of_mem _ ho), by simpa using hne⟩

/-- The keys of the bindings of elements are among the data keys of the elements. -/
theorem keys_sublist (elements : List Element) :
    (((elements.filterMap Element.binding?).map Binding.key).map some).Sublist
      (elements.map fun element => element.staticText? dataKeyName) := by
  induction elements with
  | nil => exact .slnil
  | cons element rest ih =>
    cases hb : element.binding? with
    | none =>
      rw [List.filterMap_cons_none hb, List.map_cons]
      exact ih.cons _
    | some binding =>
      rw [List.filterMap_cons_some hb, List.map_cons, List.map_cons, List.map_cons,
        staticText?_of_binding? hb]
      exact ih.cons_cons _

/-- Inlining its expression does not change the key of a reference. -/
theorem inlinedBinding?_keys (dialect : Dialect) (path : String) (elements : List Element) :
    (elements.filterMap (Element.inlinedBinding? dialect path)).map Binding.key =
      (elements.filterMap Element.binding?).map Binding.key := by
  rw [List.map_filterMap, List.map_filterMap]
  apply List.filterMap_congr
  intro element _
  unfold Element.inlinedBinding? Element.binding?
  cases element.staticText? dataKeyName with
  | none => rfl
  | some key => cases element.expression? expressionName <;> rfl

section Settled

variable (dialect : Dialect) {document : Document}

/-- The bindings of a lifted document have different keys. -/
theorem nodup_keys_lifted (hfree : document.ReferenceFree) (ledger : Ledger) :
    ((document.extract dialect ledger).1.bindings.map Binding.key).Nodup := by
  have hnodup := nodup_referenceKeys_lifted dialect hfree ledger
  rw [extract_eq]
  unfold Document.bindings
  dsimp only
  rw [bindingsOf_eq.nodes]
  have houter := (outerReferences_sublist
    (rewriteNodes (liftStep dialect) document.nodes ledger).1).map
      fun element => element.staticText? dataKeyName
  exact (hnodup.sublist ((keys_sublist _).trans houter)).of_map some

/-- The bindings that are left in a lifted document after inlining and those that were kept have
different keys. -/
theorem nodup_keys_inlined (hfree : document.ReferenceFree) (ledger : Ledger) :
    let inlined := (document.extract dialect ledger).1.inlineText dialect
    ((inlined.1.bindings ++ inlined.2.bindings).map Binding.key).Nodup := by
  have hnodup := List.nodup_iff_count_le_one.mp (nodup_referenceKeys_lifted dialect hfree ledger)
  intro inlined
  rw [List.nodup_iff_count_le_one]
  intro key
  have hone := hnodup (some key)
  have hle := (inline_keyCount_le dialect document.path key).nodes
    (rewriteNodes (liftStep dialect) document.nodes ledger).1 .start
  have hstart : keyCount key Inlined.start.bindings = 0 := rfl
  change keyCount key (inlined.1.bindings ++ inlined.2.bindings) ≤ 1
  rw [keyCount_append]
  change keyCount key inlined.1.bindings + keyCount key inlined.2.bindings ≤ _ at hle
  omega

/-- The bindings that are settled for a lifted document are those of the references in its outer
trees, with their expressions inlined if wanted. -/
theorem settled_eq (hfree : document.ReferenceFree) (ledger : Ledger) {inlines : Bool}
    {bindings : List Binding}
    (h : ((document.extract dialect ledger).1.settleBindings dialect inlines).2 = .ok bindings) :
    bindings = (outerReferences (document.extract dialect ledger).1.nodes).filterMap
      (if inlines then Element.inlinedBinding? dialect document.path else Element.binding?) := by
  have hbindings : (document.extract dialect ledger).1.bindings =
      (outerReferences (document.extract dialect ledger).1.nodes).filterMap Element.binding? :=
    bindingsOf_eq.nodes _
  cases inlines with
  | false =>
    rw [settleBindings_false] at h
    rw [← Except.ok.inj h, hbindings]
    rfl
  | true =>
    have hcurrent := nodup_keys_inlined dialect hfree ledger
    have hlifted := nodup_keys_lifted dialect hfree ledger
    have hchildless := childless_lifted dialect hfree ledger
    rw [settleBindings_true] at h
    cases hfailure : ((document.extract dialect ledger).1.inlineText dialect).2.failure with
    | some failure =>
      rw [hfailure] at h
      cases h
    | none =>
      rw [hfailure] at h
      rw [← Except.ok.inj h, if_pos rfl]
      apply refresh_eq
      · rw [hbindings]
        exact inlinedBinding?_keys dialect document.path _
      · exact hlifted
      · rw [List.map_reverse]
        exact List.nodup_reverse.mpr hcurrent
      · intro found hm
        obtain ⟨element, he, hb⟩ := List.mem_filterMap.mp hm
        rw [List.mem_reverse, List.mem_append]
        exact (inline_outer dialect document.path).nodes _ hchildless .start hfailure element he
          found hb

end Settled

/-- What a binding says of an expression and the reference that took its place. -/
structure BindingOf (dialect : Dialect) (inlines : Bool) (path : String)
    (pair : Expression × Element) (binding : Binding) : Prop where
  /-- Its key is the data key of the reference. -/
  key : pair.2.staticText? dataKeyName = some binding.key
  /-- It stands where the expression stands. -/
  position : binding.position = pair.1.position
  /-- Its code is that of the expression, with the insets that were lifted into the reference and,
  if wanted, inlined there. -/
  code : ∃ ledger,
    let lifted := ((extractor dialect).visitInsets pair.1.insets ledger).1
    let settled := if inlines then ((inliner dialect path).visitInsets lifted .start).1 else lifted
    pair.2.expression? expressionName = some ⟨pair.1.code, lifted, pair.1.position⟩ ∧
      binding.code = Expression.source ⟨pair.1.code, settled, pair.1.position⟩

/-- An element made for an expression has a binding, and it is a binding of the expression. -/
theorem MadeFor.bindingOf {dialect : Dialect} {pair : Expression × Element}
    (h : MadeFor dialect pair.1 pair.2) (inlines : Bool) (path : String) :
    ∃ binding, (if inlines then Element.inlinedBinding? dialect path else Element.binding?) pair.2 =
      some binding ∧ BindingOf dialect inlines path pair binding := by
  obtain ⟨script, element⟩ := pair
  obtain ⟨ledger, key, selector, inText, he⟩ := h
  dsimp only at he ⊢
  subst he
  have hkey := staticText?_reference ⟨script.code,
    (rewriteInsets (liftStep dialect) script.insets ledger).1, script.position⟩ key selector inText
  have hscript := expression?_reference ⟨script.code,
    (rewriteInsets (liftStep dialect) script.insets ledger).1, script.position⟩ key selector inText
  generalize reference _ key selector inText = element at hkey hscript
  cases inlines with
  | false => exact ⟨_, Element.binding?_eq hkey hscript, hkey, rfl, ledger, hscript, rfl⟩
  | true =>
    exact ⟨_, Element.inlinedBinding?_eq hkey hscript dialect path, hkey, rfl, ledger, hscript, rfl⟩

/-- Elements that have the bindings a relation asks for have them in their order. -/
theorem forall₂_filterMap {f : Element → Option Binding}
    {relation : Expression × Element → Binding → Prop} {pairs : List (Expression × Element)}
    (h : ∀ pair ∈ pairs, ∃ binding, f pair.2 = some binding ∧ relation pair binding) :
    List.Forall₂ relation pairs ((pairs.map Prod.snd).filterMap f) := by
  induction pairs with
  | nil => exact .nil
  | cons pair rest ih =>
    obtain ⟨⟨binding, hb, hr⟩, hrest⟩ := List.forall_mem_cons.mp h
    rw [List.map_cons, List.filterMap_cons_some hb]
    exact .cons hr (ih hrest)

/-- The bindings of the same expressions and references have the same keys and positions, whether
or not they were inlined. -/
theorem BindingOf.keys_positions {dialect : Dialect} {inlines inlines' : Bool} {path : String}
    {pairs : List (Expression × Element)} {bindings other : List Binding}
    (h : List.Forall₂ (BindingOf dialect inlines path) pairs bindings)
    (h' : List.Forall₂ (BindingOf dialect inlines' path) pairs other) :
    other.map Binding.key = bindings.map Binding.key ∧
      other.map Binding.position = bindings.map Binding.position := by
  induction h generalizing other with
  | nil =>
    cases h'
    exact ⟨rfl, rfl⟩
  | cons hb _ ih =>
    cases h' with
    | cons hb' hrest =>
      obtain ⟨hkeys, hpositions⟩ := ih hrest
      have hkey := Option.some.inj (hb'.key.symm.trans hb.key)
      have hposition := hb'.position.trans hb.position.symm
      rw [List.map_cons, List.map_cons, List.map_cons, List.map_cons, hkeys, hkey, hpositions,
        hposition]
      exact ⟨rfl, rfl⟩

/-- The bindings that lowering gives for a document without references: one for each expression
child of an element of the outer trees that is no component, in document order, with the data key
of the reference that lifting put there, the position of the expression, and its code in its final
form. So inlining changes neither keys nor positions. -/
theorem lower_bindings_complete (dialect : Dialect) (inlines : Bool) (document : Document)
    (ledger : Ledger) (bindings : List Binding) (hfree : document.ReferenceFree)
    (hok : (document.lower dialect inlines ledger).outcome = .ok bindings) :
    let pairs := outerReplaced document.nodes (document.extract dialect ledger).1.nodes
    pairs.map Prod.fst = outerExpressions dialect false document.nodes ∧
      List.Forall₂ (BindingOf dialect inlines document.path) pairs bindings ∧
      ∀ inlines' other, (document.lower dialect inlines' ledger).outcome = .ok other →
        other.map Binding.key = bindings.map Binding.key ∧
          other.map Binding.position = bindings.map Binding.position := by
  intro pairs
  have houter : OuterLifted dialect false document.nodes
      (document.extract dialect ledger).1.nodes :=
    ((lift_outer dialect).nodes document.nodes hfree ledger).1
  have hall : ∀ inlines' other, (document.lower dialect inlines' ledger).outcome = .ok other →
      List.Forall₂ (BindingOf dialect inlines' document.path) pairs other := by
    intro inlines' other hother
    rw [settled_eq dialect hfree ledger (settleBindings_of_lower hother), houter.references]
    exact forall₂_filterMap fun pair hm => (houter.made pair hm).bindingOf inlines' document.path
  refine ⟨houter.expressions, hall inlines bindings hok, ?_⟩
  intro inlines' other hother
  exact BindingOf.keys_positions (hall inlines bindings hok) (hall inlines' other hother)

/-- A text container that shows an expression, and an expression that has another one in it. -/
def captionedDocument : Document where
  path := "card.jsx"
  nodes := [.element ⟨"view", [],
    [.expression ⟨"ok && <text>\x7bname\x7d</text>",
        [⟨6, 25, false, [.element ⟨"text", [], [.expression ⟨"name", [], ⟨2, 14⟩⟩], ⟨2, 8⟩⟩]⟩],
        ⟨2, 2⟩⟩,
      .element ⟨"text", [], [.expression ⟨"title", [], ⟨3, 8⟩⟩], ⟨3, 2⟩⟩,
      .expression ⟨"late", [], ⟨4, 2⟩⟩], ⟨1, 0⟩⟩]

/-- The reference to the title is gone when the bindings are given back; its binding is there, in
its place. -/
theorem lower_bindings_complete_captioned :
    let bindings : List Binding := [⟨"cd2", "ok && <text>\x7b\x7bcd0\x7d\x7d</text>", ⟨2, 2⟩⟩,
      ⟨"cd1", "title", ⟨3, 8⟩⟩, ⟨"cd3", "late", ⟨4, 2⟩⟩]
    captionedDocument.ReferenceFree ∧
      (captionedDocument.lower .standard true .fresh).outcome = .ok bindings ∧
      List.Forall₂ (BindingOf .standard true captionedDocument.path)
        (outerReplaced captionedDocument.nodes (captionedDocument.extract .standard .fresh).1.nodes)
        bindings := by
  intro bindings
  have hfree : captionedDocument.ReferenceFree := by decide
  have hok : (captionedDocument.lower .standard true .fresh).outcome = .ok bindings := by
    decide +kernel
  exact ⟨hfree, hok,
    (lower_bindings_complete .standard true captionedDocument .fresh bindings hfree hok).2.1⟩

end MiniTemplate
