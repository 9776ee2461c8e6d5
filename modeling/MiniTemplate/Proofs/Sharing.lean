import MiniTemplate.Proofs.Numbering
import Mathlib.Data.List.Forall2
import Mathlib.Data.List.ReduceOption

/-!
# Which references share a selector

The children of one element share a selector, except that calls of a property have one of
their own for each property. No selector is shared between elements. What is registered
follows the same order as the data keys: for each element in turn one ordinary template, if
it has a child that calls no property, and one template for each property that is called.
The two kinds of selectors come from supplies of their own; a child that calls a property and
one that does not have different selectors only if these supplies never hand out the same name.
-/

namespace MiniTemplate

/-- What the expression children of an element that can be lifted call, in document order. -/
def Element.calls (dialect : Dialect) (element : Element) : List (Option String) :=
  (element.liftable dialect).map fun script => dialect.calledProp? script.code

/-- Whether a child that can be lifted calls no property. -/
def Element.hasPlainCall (dialect : Dialect) (element : Element) : Bool :=
  (element.calls dialect).contains none

/-- The properties among calls, in order of first occurrence. -/
def distinctProps (calls : List (Option String)) : List String := calls.reduceOption.eraseDups

/-- A child that calls no property adds none. -/
theorem distinctProps_none (calls : List (Option String)) :
    distinctProps (calls ++ [none]) = distinctProps calls := by
  simp [distinctProps, List.reduceOption_append]

/-- A child that calls a property adds it, unless it was called before. -/
theorem distinctProps_some (calls : List (Option String)) (prop : String) :
    distinctProps (calls ++ [some prop]) =
      distinctProps calls ++ if prop ∈ distinctProps calls then [] else [prop] := by
  unfold distinctProps
  rw [List.reduceOption_append, List.reduceOption_singleton, Option.toList_some,
    List.eraseDups_append]
  by_cases hm : prop ∈ calls.reduceOption
  · simp [hm, List.removeAll]
  · simp [hm, List.removeAll, List.eraseDups_cons]

namespace Selectors

/-- The selectors in use are those that calls need, with the properties in order of first
occurrence. -/
structure Serves (selectors : Selectors) (calls : List (Option String)) : Prop where
  /-- There is a selector for calls of no property if there is such a call. -/
  plain : selectors.plain.isSome = calls.contains .none
  /-- There is one selector for each property called. -/
  props : selectors.props.map Prod.fst = distinctProps calls
  /-- No property has two. -/
  nodup : (selectors.props.map Prod.fst).Nodup

theorem Serves.none : Serves .none [] := ⟨rfl, rfl, .nil⟩

/-- A choice serves one more call: by a selector it has, or by a new one. -/
theorem Serves.choose {selectors : Selectors} {calls : List (Option String)}
    (h : selectors.Serves calls) (call : Option String) (supplies : Supplies) :
    (selectors.choose call supplies).2.1.Serves (calls ++ [call]) := by
  cases call with
  | none =>
    have hprops := h.props.trans (distinctProps_none calls).symm
    rcases selectors.choose_plain_cases supplies with ⟨_, hs, hc⟩ | ⟨-, hc⟩
    · rw [hc]
      exact ⟨by simp [hs], hprops, h.nodup⟩
    · rw [hc]
      exact ⟨by simp, hprops, h.nodup⟩
  | some prop =>
    have hplain : selectors.plain.isSome = (calls ++ [some prop]).contains .none := by
      rw [h.plain]
      simp
    rcases selectors.choose_prop_cases prop supplies with ⟨selector, hs, hc⟩ | ⟨hs, hc⟩
    · have hm : prop ∈ distinctProps calls := by
        obtain ⟨earlier, later, he, -⟩ := List.lookup_eq_some_iff.mp hs
        rw [← h.props, he]
        simp
      rw [hc]
      refine ⟨hplain, ?_, h.nodup⟩
      rw [distinctProps_some, if_pos hm, List.append_nil, h.props]
    · have hm : prop ∉ selectors.props.map Prod.fst := by
        intro hmem
        obtain ⟨pair, hpair, rfl⟩ := List.mem_map.mp hmem
        simpa using List.lookup_eq_none_iff.mp hs pair hpair
      rw [hc]
      refine ⟨hplain, ?_, ?_⟩
      · rw [distinctProps_some, ← h.props, if_neg hm, List.map_append]
        rfl
      · rw [List.map_append]
        exact h.nodup.append (List.nodup_singleton prop) (by simpa using hm)

end Selectors

/-- Lifting children brings the selectors that their calls need. -/
theorem liftChildren_serves (calledProp? : String → Option String) (inText : Bool)
    (nodes : List Node) {selectors : Selectors} {calls : List (Option String)}
    (h : selectors.Serves calls) (supplies : Supplies) :
    (liftChildren calledProp? inText nodes selectors supplies).2.1.Serves
      (calls ++ (scriptsAmong nodes).map fun script => calledProp? script.code) := by
  induction nodes generalizing selectors calls supplies with
  | nil => simpa [liftChildren, scriptsAmong] using h
  | cons node rest ih =>
    cases node with
    | element inner => exact ih h supplies
    | text run => exact ih h supplies
    | expression script =>
      rw [liftChildren_expression]
      have hrest := ih (h.choose (calledProp? script.code) supplies)
        { (selectors.choose (calledProp? script.code) supplies).2.2 with
          dataKeys := supplies.dataKeys.advance 1 }
      rw [List.append_assoc] at hrest
      exact hrest

/-- A pass changes no code of the expressions among nodes. -/
theorem rewriteNodes_codes {σ : Type} (step : Element → StateM σ Element) (nodes : List Node)
    (state : σ) :
    (scriptsAmong (rewriteNodes step nodes state).1).map Expression.code =
      (scriptsAmong nodes).map Expression.code := by
  induction nodes generalizing state with
  | nil => rfl
  | cons node rest ih =>
    cases node with
    | element inner =>
      obtain ⟨tag, attributes, children, position⟩ := inner
      exact ih _
    | text run => exact ih state
    | expression script =>
      obtain ⟨code, insets, position⟩ := script
      exact congrArg (code :: ·) (ih _)

/-- What the expression of a replaced child calls. -/
def Replacement.call (dialect : Dialect) (change : Replacement) : Option String :=
  dialect.calledProp? change.script.code

/-- The selector of the reference that took a child's place. -/
def Replacement.selector? (change : Replacement) : Option String :=
  change.reference.staticText? selectorName

/-- The children of an element that call the same were given the same selector. -/
def GivenFor (dialect : Dialect) (call : Option String) (name : String) (pair : Element × Element) :
    Prop :=
  ∀ change ∈ pair.1.replacements pair.2, change.call dialect = call →
    change.selector? = some name

/-- What is registered for lifted elements. -/
structure Registered (dialect : Dialect) (pairs : List (Element × Element)) (names : List String)
    (templates : List PropTemplate) : Prop where
  /-- One name for each element with a child that calls no property, in order. -/
  plain : List.Forall₂ (fun pair name => GivenFor dialect none name pair)
    (pairs.filter fun pair => pair.1.hasPlainCall dialect) names
  /-- One template for each element and each property that its children call, in order. -/
  props : List.Forall₂
    (fun owner template => template.component = owner.2 ++ componentSuffix ∧
      GivenFor dialect (some owner.2) template.name owner.1)
    (pairs.flatMap fun pair => (distinctProps (pair.1.calls dialect)).map fun prop => (pair, prop))
    templates
  /-- Every selector given is registered, on the side that goes with the call. -/
  among : ∀ pair ∈ pairs, ∀ change ∈ pair.1.replacements pair.2, ∃ name,
    change.selector? = some name ∧
      (change.call dialect = none → name ∈ names) ∧
      (∀ prop, change.call dialect = some prop → name ∈ templates.map PropTemplate.name)

namespace Registered

variable {dialect : Dialect} {pairs pairs' : List (Element × Element)} {names names' : List String}
  {templates templates' : List PropTemplate}

theorem nil : Registered dialect [] [] [] where
  plain := .nil
  props := .nil
  among := by simp

/-- What is registered for two runs is registered for both. -/
theorem append (h : Registered dialect pairs names templates)
    (h' : Registered dialect pairs' names' templates') :
    Registered dialect (pairs ++ pairs') (names ++ names') (templates ++ templates') where
  plain := by
    rw [List.filter_append]
    exact List.rel_append h.plain h'.plain
  props := by
    rw [List.flatMap_append]
    exact List.rel_append h.props h'.props
  among := by
    simp only [List.map_append, List.mem_append]
    rintro pair (hm | hm) change hchange
    · obtain ⟨name, hs, hplain, hprop⟩ := h.among pair hm change hchange
      exact ⟨name, hs, fun hc => .inl (hplain hc), fun prop hc => .inl (hprop prop hc)⟩
    · obtain ⟨name, hs, hplain, hprop⟩ := h'.among pair hm change hchange
      exact ⟨name, hs, fun hc => .inr (hplain hc), fun prop hc => .inr (hprop prop hc)⟩

end Registered

/-- What lifting an element does to the ledger, given the selectors that its children share. -/
structure SharedAt (selectors : Selectors) (calls : List (Option String)) (before after : Ledger) :
    Prop where
  /-- The selectors are those that the children need. -/
  serves : selectors.Serves calls
  /-- They are drawn in order. -/
  drawn : Selectors.DrawnFrom before.supplies selectors after.supplies
  /-- They are registered behind those of the elements before. -/
  registry : after.registry = before.registry.add selectors

section Step

variable {dialect : Dialect} {before after : Ledger} {old new : Element}

/-- The children of an element that was lifted share selectors. -/
theorem LiftedAt.shares (h : LiftedAt dialect before old new after) :
    SharedAt ((old.unlift new).sharedSelectors dialect before.supplies) (old.calls dialect) before
      after := by
  rcases h.step_cases with ⟨hc, -, rfl, hselectors⟩ | ⟨hc, hlifted, hselectors⟩
  · rw [hselectors, Element.calls, Element.liftable, if_pos hc]
    refine ⟨.none, .none _, ?_⟩
    simp [Registry.add, Selectors.none]
  · obtain ⟨first, second, hbelow⟩ := h.below
    have hcodes : (scriptsAmong (old.unlift new).children).map Expression.code =
        (scriptsAmong old.children).map Expression.code := by
      rw [hbelow]
      exact rewriteNodes_codes (liftStep dialect) old.children second
    have hcalls : (scriptsAmong (old.unlift new).children).map
        (fun script => dialect.calledProp? script.code) = old.calls dialect := by
      have hmap := congrArg (List.map dialect.calledProp?) hcodes
      rw [List.map_map, List.map_map] at hmap
      rw [Element.calls, Element.liftable, hc]
      exact hmap
    have hserves := liftChildren_serves dialect.calledProp? (dialect.isText (old.unlift new))
      (old.unlift new).children Selectors.Serves.none before.supplies
    rw [List.nil_append, hcalls] at hserves
    obtain ⟨hdrawn, -⟩ := liftChildren_spec dialect.calledProp? (dialect.isText (old.unlift new))
      (old.unlift new).children .none before.supplies (.none before.supplies)
    rw [hselectors, ← (Prod.mk.inj hlifted).2]
    exact ⟨hserves, hdrawn, rfl⟩

/-- The reference that took a child's place selects what is in use for the child's call. -/
theorem LiftedAt.selector? (h : LiftedAt dialect before old new after) :
    ∀ change ∈ old.replacements new, ∃ name, change.selector? = some name ∧
      ((old.unlift new).sharedSelectors dialect before.supplies).find? (change.call dialect) =
        some name := by
  intro change hm
  obtain ⟨pair, hpair, rfl⟩ := List.mem_map.mp hm
  rw [← List.zipIdx_map_fst before.supplies.dataKeys.issued
    (replacedChildren old.children new.children)] at hpair
  obtain ⟨entry, hentry, rfl⟩ := List.mem_map.mp hpair
  obtain ⟨ledger, selector, hfind, he⟩ := h.numbered.takes entry hentry
  refine ⟨selector, ?_, hfind⟩
  unfold Replacement.selector?
  dsimp only
  rw [he]
  cases dialect.isText (old.unlift new) <;> rfl

/-- A selector in use is given to all children that call the same. -/
theorem LiftedAt.givenFor (h : LiftedAt dialect before old new after) {call : Option String}
    {name : String}
    (hf : ((old.unlift new).sharedSelectors dialect before.supplies).find? call = some name) :
    GivenFor dialect call name (old, new) := by
  intro change hm hcall
  obtain ⟨name', hs, hfind⟩ := h.selector? change hm
  rw [hs, ← hfind, hcall, hf]

/-- A property has the selector that it is listed with. -/
theorem Selectors.Serves.lookup {selectors : Selectors} {calls : List (Option String)}
    (h : selectors.Serves calls) {pair : String × String} (hm : pair ∈ selectors.props) :
    selectors.props.lookup pair.1 = some pair.2 := by
  cases hl : selectors.props.lookup pair.1 with
  | none => simpa using List.lookup_eq_none_iff.mp hl pair hm
  | some selector =>
    obtain ⟨earlier, later, he, -⟩ := List.lookup_eq_some_iff.mp hl
    have hmem : (pair.1, selector) ∈ selectors.props := by
      rw [he]
      simp
    rw [← List.inj_on_of_nodup_map h.nodup hmem hm rfl]

/-- The templates registered for the properties that have selectors. -/
def Selectors.propTemplates (selectors : Selectors) : List PropTemplate :=
  selectors.props.map fun pair => ⟨pair.2, pair.1 ++ componentSuffix⟩

/-- The templates for properties carry the selectors of the properties. -/
theorem Selectors.propTemplates_name (selectors : Selectors) :
    selectors.propTemplates.map PropTemplate.name = selectors.props.map Prod.snd := by
  unfold propTemplates
  rw [List.map_map]
  rfl

/-- What is registered for one element. -/
theorem LiftedAt.registered (h : LiftedAt dialect before old new after) :
    let selectors := (old.unlift new).sharedSelectors dialect before.supplies
    Registered dialect [(old, new)] selectors.plain.toList selectors.propTemplates := by
  intro selectors
  have hserves := h.shares.serves
  refine ⟨?_, ?_, ?_⟩
  · have hcall : old.hasPlainCall dialect = selectors.plain.isSome := hserves.plain.symm
    rw [List.filter_singleton, hcall]
    cases hname : selectors.plain with
    | none => exact .nil
    | some name => exact .cons (h.givenFor hname) .nil
  · rw [List.flatMap_singleton, ← hserves.props, List.map_map, Selectors.propTemplates,
      List.forall₂_map_left_iff, List.forall₂_map_right_iff, List.forall₂_same]
    exact fun pair hpair => ⟨rfl, h.givenFor (hserves.lookup hpair)⟩
  · intro pair hm change hchange
    obtain rfl := List.mem_singleton.mp hm
    obtain ⟨name, hs, hfind⟩ := h.selector? change hchange
    refine ⟨name, hs, ?_, ?_⟩
    · intro hcall
      rw [hcall] at hfind
      exact Option.mem_toList.mpr hfind
    · intro prop hcall
      rw [hcall] at hfind
      obtain ⟨earlier, later, he, -⟩ := List.lookup_eq_some_iff.mp hfind
      rw [Selectors.propTemplates_name, he]
      simp

end Step

/-- Ordinary selectors and those of property templates never meet. -/
def Supplies.Apart (supplies : Supplies) : Prop :=
  ∀ i j, supplies.selectors.name i ≠ supplies.propSelectors.name j

/-- Supplies with the stems of a fresh ledger are apart, whatever they have handed out. -/
theorem Supplies.apart_of_stems {supplies : Supplies} (hs : supplies.selectors.stem = "child")
    (hp : supplies.propSelectors.stem = "propchild") : supplies.Apart := by
  intro i j
  unfold Supply.name
  rw [hs, hp]
  exact child_ne_propchild i j

/-- A ledger after elements have been lifted, with the selectors drawn and registered for them. -/
structure RegistersFor (dialect : Dialect) (before : Ledger) (pairs : List (Element × Element))
    (after : Ledger) (names : List String) (templates : List PropTemplate) : Prop where
  /-- The names are the next ones. -/
  next : names = before.supplies.selectors.upcoming names.length
  /-- So are those of the property templates. -/
  nextProps : templates.map PropTemplate.name =
    before.supplies.propSelectors.upcoming templates.length
  /-- The supply of ordinary selectors has moved on. -/
  selectors : after.supplies.selectors = before.supplies.selectors.advance names.length
  /-- The supply of property selectors has moved on. -/
  propSelectors : after.supplies.propSelectors =
    before.supplies.propSelectors.advance templates.length
  /-- The names are registered behind those before. -/
  appends : after.registry.templates = before.registry.templates ++ names
  /-- So are the property templates. -/
  appendsProps : after.registry.propTemplates = before.registry.propTemplates ++ templates
  /-- They are registered for the elements. -/
  registered : Registered dialect pairs names templates

section Run

variable {dialect : Dialect} {before middle after : Ledger}
  {pairs pairs' : List (Element × Element)} {names names' : List String}
  {templates templates' : List PropTemplate}

theorem RegistersFor.nil (ledger : Ledger) : RegistersFor dialect ledger [] ledger [] [] where
  next := rfl
  nextProps := rfl
  selectors := rfl
  propSelectors := rfl
  appends := by simp
  appendsProps := by simp
  registered := .nil

/-- Runs that register one behind the other register together. -/
theorem RegistersFor.append (h : RegistersFor dialect before pairs middle names templates)
    (h' : RegistersFor dialect middle pairs' after names' templates') :
    RegistersFor dialect before (pairs ++ pairs') after (names ++ names')
      (templates ++ templates') where
  next := by
    rw [List.length_append, Supply.upcoming_add, ← h.next, ← h.selectors, ← h'.next]
  nextProps := by
    rw [List.length_append, Supply.upcoming_add, List.map_append, ← h.nextProps,
      ← h.propSelectors, ← h'.nextProps]
  selectors := by
    rw [h'.selectors, h.selectors, Supply.advance_advance, List.length_append]
  propSelectors := by
    rw [h'.propSelectors, h.propSelectors, Supply.advance_advance, List.length_append]
  appends := by rw [h'.appends, h.appends, List.append_assoc]
  appendsProps := by rw [h'.appendsProps, h.appendsProps, List.append_assoc]
  registered := h.registered.append h'.registered

/-- Lifting one element registers what its children need. -/
theorem LiftedAt.registersFor {old new : Element} (h : LiftedAt dialect before old new after) :
    let selectors := (old.unlift new).sharedSelectors dialect before.supplies
    RegistersFor dialect before [(old, new)] after selectors.plain.toList
      selectors.propTemplates := by
  intro selectors
  obtain ⟨s, hs, hplain⟩ := h.shares.drawn.plain
  obtain ⟨p, hp, hprops⟩ := h.shares.drawn.props
  have hregistry := h.shares.registry
  have hnames : selectors.plain.toList.length = s := by
    rw [hplain, Supply.length_upcoming]
  have hpropNames : selectors.propTemplates.length = p := by
    rw [← List.length_map PropTemplate.name, Selectors.propTemplates_name, hprops,
      Supply.length_upcoming]
  refine ⟨?_, ?_, ?_, ?_, ?_, ?_, h.registered⟩
  · rw [hnames]
    exact hplain
  · rw [hpropNames, Selectors.propTemplates_name]
    exact hprops
  · rw [hnames]
    exact hs
  · rw [hpropNames]
    exact hp
  · rw [hregistry]
    rfl
  · rw [hregistry]
    rfl

/-- Over a run, what the children of all elements need is registered, element by element. -/
theorem LiftRun.registersFor (h : LiftRun dialect before pairs after) :
    ∃ names templates, RegistersFor dialect before pairs after names templates := by
  induction h with
  | nil ledger => exact ⟨[], [], .nil ledger⟩
  | cons h _ ih =>
    obtain ⟨names, templates, hrest⟩ := ih
    exact ⟨_, _, h.registersFor.append hrest⟩

/-- Supplies that are apart stay apart. -/
theorem RegistersFor.apart (h : RegistersFor dialect before pairs after names templates)
    (ha : before.supplies.Apart) : after.supplies.Apart := by
  intro i j
  rw [h.selectors, h.propSelectors]
  exact ha i j

/-- The ordinary selectors registered from one ledger on are all different. -/
theorem RegistersFor.nodup (h : RegistersFor dialect before pairs after names templates) :
    names.Nodup := by
  rw [h.next]
  exact Supply.nodup_upcoming _ _

/-- So are the selectors of property templates. -/
theorem RegistersFor.nodup_props (h : RegistersFor dialect before pairs after names templates) :
    (templates.map PropTemplate.name).Nodup := by
  rw [h.nextProps]
  exact Supply.nodup_upcoming _ _

/-- From supplies that are apart, the two kinds of selectors have none in common. -/
theorem RegistersFor.disjoint (h : RegistersFor dialect before pairs after names templates)
    (ha : before.supplies.Apart) : names.Disjoint (templates.map PropTemplate.name) := by
  rw [h.next, h.nextProps]
  intro name hleft hright
  obtain ⟨i, -, -, rfl⟩ := Supply.mem_upcoming.mp hleft
  obtain ⟨j, -, -, hj⟩ := Supply.mem_upcoming.mp hright
  exact ha i j hj

/-- Two calls whose selectors are drawn from one supply, or from two that are apart. -/
def Supplies.Separate (supplies : Supplies) (call call' : Option String) : Prop :=
  supplies.Apart ∨ call.isSome = call'.isSome

/-- Selectors drawn for calls are separate as long as elements are lifted. -/
theorem RegistersFor.separate (h : RegistersFor dialect before pairs after names templates)
    {call call' : Option String} (hs : before.supplies.Separate call call') :
    after.supplies.Separate call call' :=
  hs.imp_left h.apart

/-- A selector in use for a property is listed with it. -/
theorem Selectors.mem_props_of_find? {selectors : Selectors} {prop name : String}
    (h : selectors.find? (some prop) = some name) : (prop, name) ∈ selectors.props := by
  obtain ⟨earlier, later, he, -⟩ := List.lookup_eq_some_iff.mp h
  rw [he]
  simp

/-- The selectors of one element tell separate calls apart. -/
theorem LiftedAt.find?_injective {old new : Element} (h : LiftedAt dialect before old new after)
    {call call' : Option String} (hs : before.supplies.Separate call call') {name : String}
    (hf : ((old.unlift new).sharedSelectors dialect before.supplies).find? call = some name)
    (hf' : ((old.unlift new).sharedSelectors dialect before.supplies).find? call' = some name) :
    call = call' := by
  have hprops := h.registersFor.nodup_props
  have hdisjoint := h.registersFor.disjoint
  rw [Selectors.propTemplates_name] at hprops hdisjoint
  cases call with
  | none =>
    cases call' with
    | none => rfl
    | some prop' =>
      have hapart := hs.resolve_right (by simp)
      have hm := List.mem_map_of_mem (f := Prod.snd) (Selectors.mem_props_of_find? hf')
      exact absurd hm (hdisjoint hapart (Option.mem_toList.mpr hf))
  | some prop =>
    cases call' with
    | none =>
      have hapart := hs.resolve_right (by simp)
      have hm := List.mem_map_of_mem (f := Prod.snd) (Selectors.mem_props_of_find? hf)
      exact absurd hm (hdisjoint hapart (Option.mem_toList.mpr hf'))
    | some prop' =>
      have hpair := List.inj_on_of_nodup_map hprops (Selectors.mem_props_of_find? hf)
        (Selectors.mem_props_of_find? hf') rfl
      rw [(Prod.mk.inj hpair).1]

/-- Two children of one element have the same selector exactly if they call the same. -/
theorem LiftedAt.selector?_eq_iff {old new : Element} (h : LiftedAt dialect before old new after)
    {change change' : Replacement} (hm : change ∈ old.replacements new)
    (hm' : change' ∈ old.replacements new)
    (hs : before.supplies.Separate (change.call dialect) (change'.call dialect)) :
    change.selector? = change'.selector? ↔ change.call dialect = change'.call dialect := by
  obtain ⟨name, hn, hfind⟩ := h.selector? change hm
  obtain ⟨name', hn', hfind'⟩ := h.selector? change' hm'
  rw [hn, hn', Option.some.injEq]
  constructor
  · rintro rfl
    exact h.find?_injective hs hfind hfind'
  · intro hcall
    rw [hcall, hfind'] at hfind
    exact (Option.some.inj hfind).symm

/-- The same over a run, element by element. -/
theorem LiftRun.selector?_eq_iff (h : LiftRun dialect before pairs after) :
    ∀ pair ∈ pairs, ∀ change ∈ pair.1.replacements pair.2, ∀ change' ∈ pair.1.replacements pair.2,
      before.supplies.Separate (change.call dialect) (change'.call dialect) →
      (change.selector? = change'.selector? ↔ change.call dialect = change'.call dialect) := by
  induction h with
  | nil ledger => simp
  | cons h _ ih =>
    refine List.forall_mem_cons.mpr ⟨fun change hm change' hm' => h.selector?_eq_iff hm hm', ?_⟩
    intro pair hpair change hm change' hm' hs
    exact ih pair hpair change hm change' hm' (h.registersFor.separate hs)

/-- Selectors registered for elements one after the other are different where their calls are
separate. -/
theorem RegistersFor.selector?_ne (h : RegistersFor dialect before pairs middle names templates)
    (h' : RegistersFor dialect middle pairs' after names' templates') {a b : Element × Element}
    (ha : a ∈ pairs) (hb : b ∈ pairs') {change change' : Replacement}
    (hm : change ∈ a.1.replacements a.2) (hm' : change' ∈ b.1.replacements b.2)
    (hs : before.supplies.Separate (change.call dialect) (change'.call dialect)) :
    change.selector? ≠ change'.selector? := by
  obtain ⟨name, hn, hplain, hprop⟩ := h.registered.among a ha change hm
  obtain ⟨name', hn', hplain', hprop'⟩ := h'.registered.among b hb change' hm'
  -- both are registered from the same ledger on, one for this element and one for a later one
  have hboth := h.append h'
  have hnames := List.disjoint_of_nodup_append hboth.nodup
  have hprops := hboth.nodup_props
  have hdisjoint := hboth.disjoint
  rw [List.map_append] at hprops hdisjoint
  have hprops := List.disjoint_of_nodup_append hprops
  rw [hn, hn']
  rintro ⟨⟩
  cases hcall : change.call dialect with
  | none =>
    cases hcall' : change'.call dialect with
    | none => exact hnames (hplain hcall) (hplain' hcall')
    | some prop' =>
      rw [hcall, hcall'] at hs
      have hapart := hs.resolve_right (by simp)
      exact hdisjoint hapart (List.mem_append_left _ (hplain hcall))
        (List.mem_append_right _ (hprop' prop' hcall'))
  | some prop =>
    cases hcall' : change'.call dialect with
    | none =>
      rw [hcall, hcall'] at hs
      have hapart := hs.resolve_right (by simp)
      exact hdisjoint hapart (List.mem_append_right _ (hplain' hcall'))
        (List.mem_append_left _ (hprop prop hcall))
    | some prop' => exact hprops (hprop prop hcall) (hprop' prop' hcall')

/-- Children of different elements never have the same selector. -/
theorem LiftRun.selectors_apart (h : LiftRun dialect before pairs after) :
    pairs.Pairwise fun a b => ∀ change ∈ a.1.replacements a.2, ∀ change' ∈ b.1.replacements b.2,
      before.supplies.Separate (change.call dialect) (change'.call dialect) →
      change.selector? ≠ change'.selector? := by
  induction h with
  | nil ledger => exact .nil
  | cons h hrest ih =>
    have hhere := h.registersFor
    obtain ⟨names, templates, hbehind⟩ := hrest.registersFor
    refine .cons ?_ (ih.imp ?_)
    · intro pair hpair change hm change' hm' hs
      exact hhere.selector?_ne hbehind (List.mem_singleton_self _) hpair hm hm' hs
    · intro a b hne change hm change' hm' hs
      exact hne change hm change' hm' (hhere.separate hs)

end Run

/-- Over a run, two references have the same selector exactly if they stand for children of one
element that call the same. -/
theorem LiftRun.shared_iff {dialect : Dialect} {before after : Ledger}
    {pairs : List (Element × Element)} (h : LiftRun dialect before pairs after)
    {i j : Nat} {a b : Element × Element} (hi : pairs[i]? = some a) (hj : pairs[j]? = some b)
    {change change' : Replacement} (hm : change ∈ a.1.replacements a.2)
    (hm' : change' ∈ b.1.replacements b.2)
    (hs : before.supplies.Separate (change.call dialect) (change'.call dialect)) :
    change.selector? = change'.selector? ↔
      i = j ∧ change.call dialect = change'.call dialect := by
  have hapart := List.pairwise_iff_getElem.mp h.selectors_apart
  obtain ⟨hli, rfl⟩ := List.getElem?_eq_some_iff.mp hi
  obtain ⟨hlj, rfl⟩ := List.getElem?_eq_some_iff.mp hj
  rcases Nat.lt_trichotomy i j with hlt | rfl | hlt
  · have hne := hapart i j hli hlj hlt change hm change' hm' hs
    exact ⟨fun he => absurd he hne, fun he => absurd he.1 (by omega)⟩
  · rw [h.selector?_eq_iff _ (List.getElem_mem hli) change hm change' hm' hs]
    simp
  · have hne := hapart j i hlj hli hlt change' hm' change hm (hs.imp_right Eq.symm)
    exact ⟨fun he => absurd he.symm hne, fun he => absurd he.1 (by omega)⟩

/-- Selectors are shared by the children of one element and by no others. Laid beside what lifting
made of them, the elements of a document come in post-order. Whatever function tells the calls and
whatever stems and counts the supplies have, two references made have the same selector exactly if
they stand for children of the same element that call the same property or both none; only for a
child that calls a property and one that does not do the two supplies have to be apart. What is
appended to the registry is one ordinary template for each element that has a child calling no
property, and one for each element and each property called, in order of first call, with the
component named for the property; every reference selects one of these, and they carry the next
names of the supply that goes with what is called. -/
theorem extract_shares_selectors (dialect : Dialect) (document : Document) (ledger : Ledger) :
    let result := (document.extract dialect).run ledger
    let pairs := laidBeside document.nodes result.1.nodes
    let plain := ledger.supplies.selectors
    let prop := ledger.supplies.propSelectors
    pairs.map Prod.fst = postOrder document.nodes ∧
      (∀ pair ∈ pairs,
        (pair.1.replacements pair.2).map Replacement.script = pair.1.liftable dialect) ∧
      (∀ (i j : Nat) (a b : Element × Element), pairs[i]? = some a → pairs[j]? = some b →
        ∀ change ∈ a.1.replacements a.2, ∀ change' ∈ b.1.replacements b.2,
          ledger.supplies.Apart ∨
            (change.call dialect).isSome = (change'.call dialect).isSome →
          (change.selector? = change'.selector? ↔
            i = j ∧ change.call dialect = change'.call dialect)) ∧
      ∃ names templates,
        result.2.registry.templates = ledger.registry.templates ++ names ∧
          result.2.registry.propTemplates = ledger.registry.propTemplates ++ templates ∧
          names = (List.range names.length).map
            (fun i => plain.stem ++ toString (plain.issued + i)) ∧
          templates.map PropTemplate.name = (List.range templates.length).map
            (fun i => prop.stem ++ toString (prop.issued + i)) ∧
          result.2.supplies.selectors = ⟨plain.stem, plain.issued + names.length⟩ ∧
          result.2.supplies.propSelectors = ⟨prop.stem, prop.issued + templates.length⟩ ∧
          Registered dialect pairs names templates := by
  intro result pairs plain prop
  obtain ⟨hrun, hparents⟩ := (lift_run dialect).nodes document.nodes ledger
  obtain ⟨names, templates, hregisters⟩ := hrun.registersFor
  refine ⟨hparents, hrun.replaced_scripts, ?_, names, templates, hregisters.appends,
    hregisters.appendsProps, hregisters.next, hregisters.nextProps, hregisters.selectors,
    hregisters.propSelectors, hregisters.registered⟩
  intro i j a b hi hj change hm change' hm' hs
  exact hrun.shared_iff hi hj hm hm' hs

/-- An element whose children call a property or none, and another such element among them. -/
def sharedDocument : Document where
  path := "page.jsx"
  nodes := [.element ⟨"view", [],
    [.expression ⟨"a", [], ⟨2, 2⟩⟩, .expression ⟨"props.f()", [], ⟨3, 2⟩⟩,
      .element ⟨"text", [],
        [.expression ⟨"b", [], ⟨4, 8⟩⟩, .expression ⟨"props.f(0)", [], ⟨4, 11⟩⟩], ⟨4, 2⟩⟩,
      .expression ⟨"c", [], ⟨5, 2⟩⟩, .expression ⟨"props.f(1)", [], ⟨6, 2⟩⟩], ⟨1, 0⟩⟩]

/-- The calls and selectors of the references that lifting the document makes, element by
element. -/
def sharedSelections (ledger : Ledger) : List (List (Option String × Option String)) :=
  (laidBeside sharedDocument.nodes
    ((sharedDocument.extract .standard).run ledger).1.nodes).map fun pair =>
      (pair.1.replacements pair.2).map fun change => (change.call .standard, change.selector?)

/-- A ledger with the stems of a fresh one, from which names have been drawn before. -/
def laterLedger : Ledger := ⟨⟨⟨"child", 4⟩, ⟨"cd", 0⟩, ⟨"propchild", 2⟩⟩, .empty⟩

/-- The children of the outer element share one selector for each call, and those of the inner
element have their own, also for the same property. -/
theorem extract_shares_selectors_nested :
    let result := (sharedDocument.extract .standard).run laterLedger
    let pairs := laidBeside sharedDocument.nodes result.1.nodes
    laterLedger.supplies.Apart ∧
      sharedSelections laterLedger = [[(none, some "child4"), (some "f", some "propchild2")],
        [(none, some "child5"), (some "f", some "propchild3"), (none, some "child5"),
          (some "f", some "propchild3")]] ∧
      (∀ (i j : Nat) (a b : Element × Element), pairs[i]? = some a → pairs[j]? = some b →
        ∀ change ∈ a.1.replacements a.2, ∀ change' ∈ b.1.replacements b.2,
          (change.selector? = change'.selector? ↔
            i = j ∧ change.call .standard = change'.call .standard)) ∧
      result.2.registry =
        ⟨["child4", "child5"], [⟨"propchild2", "fCPT"⟩, ⟨"propchild3", "fCPT"⟩]⟩ := by
  have hapart : laterLedger.supplies.Apart := Supplies.apart_of_stems rfl rfl
  obtain ⟨-, -, hshared, -⟩ := extract_shares_selectors .standard sharedDocument laterLedger
  refine ⟨hapart, by decide +kernel, ?_, by decide +kernel⟩
  intro i j a b hi hj change hm change' hm'
  exact hshared i j a b hi hj change hm change' hm' (.inl hapart)

/-- Supplies that are not apart: both hand out the same names. -/
def sharedStem : Ledger := ⟨⟨⟨"x", 0⟩, ⟨"cd", 0⟩, ⟨"x", 0⟩⟩, .empty⟩

/-- The supplies have to be apart: where both hand out the same names, all children of an element
are given the same selector, whether they call a property or not, and it is registered twice. -/
theorem extract_confuses_selectors :
    ¬ sharedStem.supplies.Apart ∧
      sharedSelections sharedStem = [[(none, some "x0"), (some "f", some "x0")],
        [(none, some "x1"), (some "f", some "x1"), (none, some "x1"), (some "f", some "x1")]] ∧
      ((sharedDocument.extract .standard).run sharedStem).2.registry =
        ⟨["x0", "x1"], [⟨"x0", "fCPT"⟩, ⟨"x1", "fCPT"⟩]⟩ := by
  exact ⟨fun h => h 0 0 rfl, by decide +kernel, by decide +kernel⟩

end MiniTemplate
