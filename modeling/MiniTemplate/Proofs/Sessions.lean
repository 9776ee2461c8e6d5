import MiniTemplate.Lowering
import MiniTemplate.Proofs.PostOrder

/-!
# Names over whole sessions

A session makes any number of calls on one ledger. The references that a call makes
are found by laying the document before lifting beside the one after it: they are the
elements among the children of an element that stand where an expression stood. Over a
whole session the registry lists the selectors handed out, in order and without repetition,
and no two references carry the same data key.
-/

namespace MiniTemplate

/-- The expressions among nodes that were replaced by elements, each with the element that
took its place. -/
def replacedChildren : List Node → List Node → List (Expression × Element)
  | .expression script :: rest, .element element :: rest' =>
    (script, element) :: replacedChildren rest rest'
  | _ :: rest, _ :: rest' => replacedChildren rest rest'
  | _, _ => []

/-- The children that were replaced below nodes, one list for each element, where elements
come behind everything below them. -/
def replacedIn (nodes nodes' : List Node) : List (List (Expression × Element)) :=
  (laidBeside nodes nodes').map fun pair => replacedChildren pair.1.children pair.2.children

/-- The data keys of the elements that took the place of children. -/
def replacedKeys (pairs : List (Element × Element)) : List (Option String) :=
  pairs.flatMap fun pair =>
    (replacedChildren pair.1.children pair.2.children).map fun change =>
      change.2.staticText? dataKeyName

/-- Lifted children show one replacement for each key. -/
theorem LiftsBeside.replacedChildren_keys {inText : Bool} {keys : List String}
    {nodes before after : List Node} (h : LiftsBeside inText nodes keys before after) :
    (replacedChildren nodes after).map (fun pair => pair.2.staticText? dataKeyName) =
      keys.map some := by
  induction h with
  | nil => rfl
  | expression old script key selector h ih =>
    rw [replacedChildren, List.map_cons, List.map_cons, staticText?_reference, ih]
  | kept old node ho h ih =>
    cases old with
    | expression script => cases ho
    | element inner => exact ih
    | text run => exact ih

/-- Nodes that keep expressions in their places show no replacement. -/
theorem replacedChildren_eq_nil {nodes nodes' : List Node}
    (h : nodes.map Node.isExpression = nodes'.map Node.isExpression) :
    replacedChildren nodes nodes' = [] := by
  fun_induction replacedChildren nodes nodes' with
  | case1 script rest element rest' ih => simp [Node.isExpression] at h
  | case2 node rest node' rest' hne ih =>
    exact ih (List.cons.inj h).2
  | case3 => rfl

/-- A ledger after a pass that made references with the given keys: the keys are the next
ones, in order. -/
def Ledger.Draws (before after : Ledger) (keys : List (Option String)) : Prop :=
  ∃ s k p, before.Grows after s k p ∧ keys = (before.supplies.dataKeys.upcoming k).map some

theorem Ledger.Draws.refl (ledger : Ledger) : ledger.Draws ledger [] :=
  ⟨0, 0, 0, .refl ledger, rfl⟩

/-- Keys drawn in two runs are drawn in both, one behind the other. -/
theorem Ledger.Draws.trans {before middle after : Ledger} {keys keys' : List (Option String)}
    (h : before.Draws middle keys) (h' : middle.Draws after keys') :
    before.Draws after (keys ++ keys') := by
  obtain ⟨s, k, p, hg, rfl⟩ := h
  obtain ⟨s', k', p', hg', rfl⟩ := h'
  refine ⟨s + s', k + k', p + p', hg.trans hg', ?_⟩
  rw [hg.dataKeys, Supply.upcoming_add, List.map_append]

/-- No key is drawn twice. -/
theorem Ledger.Draws.nodup {before after : Ledger} {keys : List (Option String)}
    (h : before.Draws after keys) : keys.Nodup := by
  obtain ⟨s, k, p, -, rfl⟩ := h
  exact (Supply.nodup_upcoming _ k).map fun _ _ he => Option.some.inj he

/-- The elements that take the place of an element's children carry the next data keys. -/
theorem LiftedAt.draws {dialect : Dialect} {before after : Ledger} {old new : Element}
    (h : LiftedAt dialect before old new after) :
    before.Draws after ((replacedChildren old.children new.children).map
      fun change => change.2.staticText? dataKeyName) := by
  have hkeep := h.isExpression
  have hstep := h.step
  generalize old.unlift new = seen at hkeep hstep
  rcases liftStep_cases dialect seen before with ⟨-, he⟩ | ⟨-, _, _, s, k, p, he, hg, hl⟩
  · rw [he] at hstep
    obtain ⟨rfl, rfl⟩ := Prod.mk.inj hstep
    rw [replacedChildren_eq_nil hkeep]
    exact .refl before
  · rw [he] at hstep
    obtain ⟨rfl, rfl⟩ := Prod.mk.inj hstep
    exact ⟨s, k, p, hg, (hl.beside hkeep).replacedChildren_keys⟩

/-- The elements that a run puts in place of children carry the next data keys in order. -/
theorem LiftRun.draws {dialect : Dialect} {before after : Ledger}
    {pairs : List (Element × Element)} (h : LiftRun dialect before pairs after) :
    before.Draws after (replacedKeys pairs) := by
  induction h with
  | nil ledger => exact .refl ledger
  | cons h _ ih =>
    rw [replacedKeys, List.flatMap_cons]
    exact h.draws.trans ih

/-- The elements that a pass puts in place of expressions, whatever the document, carry the
next data keys in order. -/
theorem extract_draws (dialect : Dialect) (document : Document) (ledger : Ledger) :
    ledger.Draws (document.extract dialect ledger).2
      ((replacedIn document.nodes (document.extract dialect ledger).1.nodes).flatten.map
        fun change => change.2.staticText? dataKeyName) := by
  obtain ⟨hrun, -⟩ := (lift_run dialect).nodes document.nodes ledger
  have hdraws := hrun.draws
  rw [replacedKeys, ← List.map_flatMap, List.flatMap_def] at hdraws
  exact hdraws

/-- A call made on the ledger of a session. -/
inductive Call where
  /-- Lift the expression children of a document. -/
  | extract (dialect : Dialect) (document : Document)
  /-- Show data directly in the text containers of a document. -/
  | inline (dialect : Dialect) (document : Document)
  /-- Lower a document. -/
  | lower (dialect : Dialect) (inlines : Bool) (document : Document)
  /-- Check the references of a document. -/
  | audit (dialect : Dialect) (document : Document)
  /-- Write a document. -/
  | markup (document : Document)
  /-- List the bindings of a document. -/
  | bindings (document : Document)
  /-- Write the dispatch templates. -/
  | templates

/-- What a call answers. -/
inductive Reply where
  | document (document : Document)
  | inlined (document : Document) (inlined : Inlined)
  | lowered (document : Document) (outcome : Except Diagnostic (List Binding))
  | diagnostics (diagnostics : List Diagnostic)
  | bindings (bindings : List Binding)
  | text (text : String)

namespace Call

/-- What a call answers, and the ledger it leaves. -/
def perform (ledger : Ledger) : Call → Reply × Ledger
  | extract dialect document =>
    let (document, ledger) := (document.extract dialect).run ledger
    (.document document, ledger)
  | inline dialect document =>
    let (document, inlined) := document.inlineText dialect
    (.inlined document inlined, ledger)
  | lower dialect inlines document =>
    let lowered := document.lower dialect inlines ledger
    (.lowered lowered.document lowered.outcome, lowered.ledger)
  | audit dialect document => (.diagnostics (document.violations dialect ledger.registry), ledger)
  | markup document => (.text document.markup, ledger)
  | bindings document => (.bindings document.bindings, ledger)
  | templates => (.text ledger.registry.text, ledger)

/-- The references that a call makes: what stands in place of expressions once the document
has been lifted, also where inlining replaces it afterwards. -/
def references (ledger : Ledger) : Call → List Element
  | extract dialect document | lower dialect _ document =>
    (replacedIn document.nodes ((document.extract dialect).run ledger).1.nodes).flatten.map Prod.snd
  | _ => []

/-- Lifting is the only part of a call that reaches the ledger, and the references it makes
carry the next data keys. -/
theorem perform_draws (ledger : Ledger) (call : Call) :
    ledger.Draws (call.perform ledger).2
      ((call.references ledger).map fun reference => reference.staticText? dataKeyName) := by
  cases call with
  | extract dialect document =>
    rw [references, List.map_map]
    exact extract_draws dialect document ledger
  | lower dialect inlines document =>
    rw [references, List.map_map]
    exact extract_draws dialect document ledger
  | inline dialect document => exact .refl ledger
  | audit dialect document => exact .refl ledger
  | markup document => exact .refl ledger
  | bindings document => exact .refl ledger
  | templates => exact .refl ledger

end Call

/-- A session under way. -/
structure Session where
  /-- The ledger that all calls share. -/
  ledger : Ledger
  /-- The references made so far, in order. -/
  references : List Element

namespace Session

/-- A session before its first call. -/
def start : Session := ⟨.fresh, []⟩

/-- A session after one more call. -/
def step (session : Session) (call : Call) : Session :=
  ⟨(call.perform session.ledger).2, session.references ++ call.references session.ledger⟩

/-- A session after calls. -/
def run (session : Session) (calls : List Call) : Session := calls.foldl step session

/-- The ledger has moved on by what the references needed, all the way from a fresh one. -/
def Sound (session : Session) : Prop :=
  Ledger.fresh.Draws session.ledger
    (session.references.map fun reference => reference.staticText? dataKeyName)

/-- A session starts with nothing drawn. -/
theorem sound_start : start.Sound := .refl .fresh

/-- A call keeps a session sound, whether it succeeds or fails. -/
theorem Sound.step {session : Session} (h : session.Sound) (call : Call) :
    (session.step call).Sound := by
  unfold Sound Session.step
  rw [List.map_append]
  exact h.trans (call.perform_draws session.ledger)

/-- So does any number of calls. -/
theorem Sound.run {session : Session} (h : session.Sound) (calls : List Call) :
    (session.run calls).Sound := by
  induction calls generalizing session with
  | nil => exact h
  | cons call rest ih => exact ih (h.step call)

/-- Calls only extend the ledger. -/
theorem run_extends (session : Session) (calls : List Call) :
    session.ledger.Extends (session.run calls).ledger := by
  induction calls generalizing session with
  | nil => exact .refl _
  | cons call rest ih =>
    obtain ⟨s, k, p, hg, -⟩ := call.perform_draws session.ledger
    exact Ledger.Extends.trans ⟨s, k, p, hg⟩ (ih (session.step call))

end Session

/-- A ledger grown from a fresh one never registers a selector twice. -/
theorem Ledger.Grows.nodup_selectors {ledger : Ledger} {s k p : Nat}
    (h : Ledger.fresh.Grows ledger s k p) : ledger.registry.selectors.Nodup := by
  unfold Registry.selectors
  rw [h.templates, h.propNames]
  apply List.Nodup.append
  · exact Supply.nodup_upcoming _ s
  · exact Supply.nodup_upcoming _ p
  · intro name hleft hright
    obtain ⟨i, -, -, hi⟩ := Supply.mem_upcoming.mp hleft
    obtain ⟨j, -, -, hj⟩ := Supply.mem_upcoming.mp hright
    exact child_ne_propchild i j (hi.symm.trans hj)

/-- The names a supply has handed out since it was fresh. -/
theorem Supply.upcoming_of_fresh (stem : String) (count : Nat) :
    Supply.upcoming ⟨stem, 0⟩ count = (List.range count).map fun i => stem ++ toString i := by
  unfold Supply.upcoming
  simp [Supply.name]

/-- Over any session that starts with a fresh ledger, selectors are registered exactly as they
were handed out, in order, and never twice; later calls only append to what is registered; and
the references made, by whatever calls and in whatever documents, are as many as the data keys
handed out and carry these keys, no two the same. -/
theorem session_names_never_repeat (calls : List Call) :
    let session := Session.start.run calls
    session.ledger.registry.templates =
        (List.range session.ledger.supplies.selectors.issued).map (fun i => "child" ++ toString i) ∧
      session.ledger.registry.propTemplates.map PropTemplate.name =
        (List.range session.ledger.supplies.propSelectors.issued).map
          (fun i => "propchild" ++ toString i) ∧
      session.ledger.registry.selectors.Nodup ∧
      (∀ more, session.ledger.registry.templates <+:
          (Session.start.run (calls ++ more)).ledger.registry.templates ∧
        session.ledger.registry.propTemplates <+:
          (Session.start.run (calls ++ more)).ledger.registry.propTemplates) ∧
      session.references.length = session.ledger.supplies.dataKeys.issued ∧
      (∀ reference ∈ session.references, ∃ i < session.ledger.supplies.dataKeys.issued,
        reference.staticText? dataKeyName = some ("cd" ++ toString i)) ∧
      session.references.Pairwise
        (fun a b => a.staticText? dataKeyName ≠ b.staticText? dataKeyName) := by
  intro session
  have hsound : session.Sound := Session.sound_start.run calls
  have hnodup := hsound.nodup
  obtain ⟨s, k, p, hg, hkeys⟩ := hsound
  have hissued : session.ledger.supplies.selectors.issued = s ∧
      session.ledger.supplies.dataKeys.issued = k ∧
      session.ledger.supplies.propSelectors.issued = p := by
    rw [hg.supplies]
    simp [Ledger.fresh, Supplies.fresh]
  obtain ⟨hs, hk, hp⟩ := hissued
  refine ⟨?_, ?_, hg.nodup_selectors, ?_, ?_, ?_, ?_⟩
  · rw [hg.templates, hs, ← Supply.upcoming_of_fresh]
    rfl
  · rw [hg.propNames, hp, ← Supply.upcoming_of_fresh]
    rfl
  · intro more
    have hrun : Session.start.run (calls ++ more) = session.run more := List.foldl_append
    obtain ⟨s', k', p', hmore⟩ := session.run_extends more
    rw [hrun, hmore.templates]
    exact ⟨List.prefix_append _ _, hmore.propTemplates⟩
  · have hlength := congrArg List.length hkeys
    rw [hk]
    simpa [Supply.length_upcoming] using hlength
  · intro reference hm
    have hkey : reference.staticText? dataKeyName ∈
        (Ledger.fresh.supplies.dataKeys.upcoming k).map some :=
      hkeys ▸ List.mem_map_of_mem hm
    obtain ⟨name, hname, heq⟩ := List.mem_map.mp hkey
    obtain ⟨i, -, hi, rfl⟩ := Supply.mem_upcoming.mp hname
    refine ⟨i, ?_, heq.symm⟩
    rw [hk]
    simpa [Ledger.fresh, Supplies.fresh] using hi
  · exact List.pairwise_map.mp hnodup

end MiniTemplate
