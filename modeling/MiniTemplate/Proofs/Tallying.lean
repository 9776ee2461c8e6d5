import MiniTemplate.Proofs.Coverage
import Mathlib.Data.Finset.Card
import Mathlib.Data.Finset.SDiff

/-!
# How much the audit reports

Every complaint of the audit is accounted for. Templates come first, one complaint for each
name that was registered before. Then each reference that is a child of an element answers for
itself, wherever it is nested: for a missing key, an unknown selector and a wrong mark one
complaint each. Keys that repeat are counted together, since which of two references repeats
the other depends on the order in which they are met, and how many do does not.
-/

namespace MiniTemplate

/-- The codes of complaints, in order. -/
def codesOf (diagnostics : List Diagnostic) : List String := diagnostics.map Diagnostic.code

/-! ### Names that repeat -/

/-- Which names repeat depends only on the set of the names met before. -/
theorem repeats_congr {seen seen' : List String} (h : ∀ name, name ∈ seen ↔ name ∈ seen')
    (names : List String) : repeats seen names = repeats seen' names := by
  induction names generalizing seen seen' with
  | nil => rfl
  | cons name rest ih =>
    have hcons : ∀ other, other ∈ name :: seen ↔ other ∈ name :: seen' := by
      intro other
      rw [List.mem_cons, List.mem_cons, h]
    have hcontains : seen.contains name = seen'.contains name := by
      rw [List.contains_eq_mem, List.contains_eq_mem, decide_eq_decide]
      exact h name
    rw [repeats, repeats, hcontains, ih h, ih hcons]

/-- A name met before is none the newer for being met again. -/
theorem repeats_cons_of_mem {seen : List String} {name : String} (h : name ∈ seen)
    (names : List String) : repeats (name :: seen) names = repeats seen names := by
  refine repeats_congr (fun other => ?_) names
  rw [List.mem_cons, or_iff_right_of_imp]
  rintro rfl
  exact h

/-- Every name is new, for the first time, or repeats an earlier one. -/
theorem length_repeats_add (names seen : List String) :
    (repeats seen names).length + (names.toFinset \ seen.toFinset).card = names.length := by
  induction names generalizing seen with
  | nil => simp [repeats]
  | cons name rest ih =>
    rw [repeats, List.contains_eq_mem, List.toFinset_cons, List.length_cons]
    by_cases hm : name ∈ seen
    · have hrest := ih seen
      have hold : insert name rest.toFinset \ seen.toFinset = rest.toFinset \ seen.toFinset :=
        Finset.insert_sdiff_of_mem _ (List.mem_toFinset.mpr hm)
      rw [decide_eq_true hm, if_pos rfl, List.length_cons, hold]
      omega
    · have hrest := ih (name :: seen)
      -- the name is counted here, and not among the rest once it has been seen
      have hnew : insert name rest.toFinset \ seen.toFinset =
          insert name (rest.toFinset \ (name :: seen).toFinset) := by
        ext other
        by_cases he : other = name
        · simp [he, hm]
        · simp [he]
      have hcard : (insert name (rest.toFinset \ (name :: seen).toFinset)).card =
          (rest.toFinset \ (name :: seen).toFinset).card + 1 :=
        Finset.card_insert_of_notMem (by simp)
      rw [decide_eq_false hm, if_neg Bool.false_ne_true, hnew, hcard]
      omega

/-- As many names repeat an earlier one as there are more names than distinct ones. -/
theorem length_repeats (names : List String) :
    (repeats [] names).length = names.length - names.toFinset.card := by
  have h := length_repeats_add names []
  rw [List.toFinset_nil, Finset.sdiff_empty] at h
  omega

/-! ### One reference after the other -/

/-- Whether a reference selects a template that is not registered. An empty selector selects
nothing. -/
def Element.selectsUnknown (registered : List String) (reference : Element) : Bool :=
  (reference.staticText? selectorName).any fun selector =>
    selector != "" && !registered.contains selector

/-- Whether a reference is marked where it does not stand in text, or is not where it does. -/
def Placed.isMismarked (placed : Placed) : Bool :=
  placed.reference.hasAttribute textMarkName != placed.inText

/-- The codes of what is wrong with a reference, told from four answers: whether it has no data key,
has one met before, selects an unknown template and is marked wrongly. -/
def codesFor (keyless repeated unknown mismarked : Bool) : List String :=
  (if keyless then ["WX-INV-DATAKEY"] else []) ++
    (if repeated then ["WX-INV-DUPLICATE-DATAKEY"] else []) ++
    (if unknown then ["WX-INV-UNREGISTERED-TEMPLATE"] else []) ++
    if mismarked then ["WX-INV-TEXT-MARKER"] else []

/-- Each answer has a code of its own. -/
theorem count_codesFor : ∀ keyless repeated unknown mismarked,
    (codesFor keyless repeated unknown mismarked).count "WX-INV-DATAKEY" =
        (if keyless then 1 else 0) ∧
      (codesFor keyless repeated unknown mismarked).count "WX-INV-DUPLICATE-DATAKEY" =
        (if repeated then 1 else 0) ∧
      (codesFor keyless repeated unknown mismarked).count "WX-INV-UNREGISTERED-TEMPLATE" =
        (if unknown then 1 else 0) ∧
      (codesFor keyless repeated unknown mismarked).count "WX-INV-TEXT-MARKER" =
        if mismarked then 1 else 0 := by
  decide

/-- There are no other codes. -/
theorem mem_codesFor : ∀ keyless repeated unknown mismarked,
    ∀ code ∈ codesFor keyless repeated unknown mismarked, code = "WX-INV-DATAKEY" ∨
      code = "WX-INV-DUPLICATE-DATAKEY" ∨ code = "WX-INV-UNREGISTERED-TEMPLATE" ∨
        code = "WX-INV-TEXT-MARKER" := by
  decide

variable (registered seen : List String)

/-- A key that is missing and a key that repeats have a code each. -/
theorem codes_keyCause? (placed : Placed) :
    (keyCause? seen placed.reference).toList.map Cause.code =
      codesFor placed.key.isNone (placed.key.any seen.contains) false false := by
  unfold keyCause? Placed.key
  cases placed.reference.staticText? dataKeyName with
  | none => rfl
  | some key =>
    dsimp only [Option.any_some]
    cases seen.contains key <;> rfl

/-- A selector that is unknown has a code. -/
theorem codes_selectorCause? (reference : Element) :
    (selectorCause? registered reference).toList.map Cause.code =
      codesFor false false (reference.selectsUnknown registered) false := by
  unfold Element.selectsUnknown selectorCause?
  cases reference.staticText? selectorName with
  | none => rfl
  | some selector =>
    dsimp only [Option.any_some]
    cases selector != "" && !registered.contains selector <;> rfl

/-- A wrong mark has a code. -/
theorem codes_markCause? (placed : Placed) :
    (markCause? placed).toList.map Cause.code = codesFor false false false placed.isMismarked := by
  unfold Placed.isMismarked markCause?
  cases placed.reference.hasAttribute textMarkName != placed.inText <;> rfl

/-- The codes of what is wrong with a reference. -/
theorem codes_causes (placed : Placed) :
    (placed.causes registered seen).map Cause.code =
      codesFor placed.key.isNone (placed.key.any seen.contains)
        (placed.reference.selectsUnknown registered) placed.isMismarked := by
  unfold Placed.causes
  rw [List.map_append, List.map_append, codes_keyCause?, codes_selectorCause?, codes_markCause?]
  simp [codesFor]

/-- The codes for a first reference, and those for the rest once its key has been met. -/
theorem codesOf_auditPlaced_cons (path : String) (placed : Placed) (rest : List Placed) :
    codesOf (auditPlaced path registered seen (placed :: rest)) =
      (placed.causes registered seen).map Cause.code ++
        codesOf (auditPlaced path registered (placed.key.toList ++ seen) rest) := by
  unfold codesOf
  rw [auditPlaced, List.map_append, List.map_map]
  rfl

/-- A code that each reference gets once or never, whatever came before it, is reported as often
as there are references that get it. -/
theorem count_auditPlaced {code : String} {gets : Placed → Bool}
    (hstep : ∀ seen placed, ((placed.causes registered seen).map Cause.code).count code =
      if gets placed then 1 else 0) (path : String) (placed : List Placed) :
    (codesOf (auditPlaced path registered seen placed)).count code = placed.countP gets := by
  induction placed generalizing seen with
  | nil => rfl
  | cons entry rest ih =>
    rw [codesOf_auditPlaced_cons, List.count_append, hstep, ih, List.countP_cons, Nat.add_comm]

/-- Keys that repeat are reported as often as they do. -/
theorem count_repeatedKeys (path : String) (placed : List Placed) :
    (codesOf (auditPlaced path registered seen placed)).count "WX-INV-DUPLICATE-DATAKEY" =
      (repeats seen (placed.filterMap Placed.key)).length := by
  induction placed generalizing seen with
  | nil => rfl
  | cons entry rest ih =>
    rw [codesOf_auditPlaced_cons, List.count_append, codes_causes, (count_codesFor _ _ _ _).2.1, ih]
    cases hk : entry.key with
    | none =>
      rw [List.filterMap_cons_none hk]
      simp
    | some key =>
      rw [List.filterMap_cons_some hk, repeats]
      by_cases hm : key ∈ seen
      · simp [hm, repeats_cons_of_mem hm, Nat.add_comm]
      · simp [hm]

/-- The audit of references reports four codes. -/
theorem mem_codesOf_auditPlaced (path : String) (placed : List Placed) :
    ∀ code ∈ codesOf (auditPlaced path registered seen placed), code = "WX-INV-DATAKEY" ∨
      code = "WX-INV-DUPLICATE-DATAKEY" ∨ code = "WX-INV-UNREGISTERED-TEMPLATE" ∨
        code = "WX-INV-TEXT-MARKER" := by
  induction placed generalizing seen with
  | nil => simp [codesOf, auditPlaced]
  | cons entry rest ih =>
    rw [codesOf_auditPlaced_cons, codes_causes, List.forall_mem_append]
    exact ⟨mem_codesFor _ _ _ _, ih _⟩

/-! ### The account -/

/-- The references of a document that are children of elements, each with whether it stands in the
text of its parent. -/
def Document.placed (dialect : Dialect) (document : Document) : List Placed :=
  document.hosted.map (Hosted.placed dialect)

/-- Complaints that account for references: how often each code is found among them, and that there
are no others. -/
structure Accounts (registered : List String) (placed : List Placed)
    (complaints : List Diagnostic) : Prop where
  /-- One for every reference without a data key. -/
  keyless : (codesOf complaints).count "WX-INV-DATAKEY" =
    placed.countP fun child => child.key.isNone
  /-- As many as there are more keys than distinct keys. -/
  repeated : (codesOf complaints).count "WX-INV-DUPLICATE-DATAKEY" =
    (placed.filterMap Placed.key).length - (placed.filterMap Placed.key).toFinset.card
  /-- One for every reference that selects an unknown template. -/
  unknown : (codesOf complaints).count "WX-INV-UNREGISTERED-TEMPLATE" =
    placed.countP fun child => child.reference.selectsUnknown registered
  /-- One for every reference that is marked wrongly. -/
  mismarked : (codesOf complaints).count "WX-INV-TEXT-MARKER" = placed.countP Placed.isMismarked
  /-- Nothing else. -/
  only : ∀ code ∈ codesOf complaints, code = "WX-INV-DATAKEY" ∨ code = "WX-INV-DUPLICATE-DATAKEY" ∨
    code = "WX-INV-UNREGISTERED-TEMPLATE" ∨ code = "WX-INV-TEXT-MARKER"

/-- The audit of references accounts for them. -/
theorem accounts_auditPlaced (path : String) (placed : List Placed) :
    Accounts registered placed (auditPlaced path registered [] placed) := by
  have hcodes := fun seen (placed : Placed) => codes_causes registered seen placed ▸
    count_codesFor placed.key.isNone (placed.key.any seen.contains)
      (placed.reference.selectsUnknown registered) placed.isMismarked
  constructor
  case keyless =>
    exact count_auditPlaced registered [] (fun seen placed => (hcodes seen placed).1) path placed
  case repeated =>
    rw [count_repeatedKeys, length_repeats]
  case unknown =>
    exact count_auditPlaced registered [] (fun seen placed => (hcodes seen placed).2.2.1) path
      placed
  case mismarked =>
    exact count_auditPlaced registered [] (fun seen placed => (hcodes seen placed).2.2.2) path
      placed
  case only =>
    exact mem_codesOf_auditPlaced registered [] path placed

variable {registered}

/-- What accounts for references accounts for them in any order. -/
theorem Accounts.of_perm {placed placed' : List Placed} {complaints : List Diagnostic}
    (h : Accounts registered placed complaints) (hperm : placed.Perm placed') :
    Accounts registered placed' complaints := by
  have hkeys := hperm.filterMap Placed.key
  constructor
  case keyless => rw [h.keyless, hperm.countP_eq]
  case repeated => rw [h.repeated, hkeys.length_eq, List.toFinset_eq_of_perm _ _ hkeys]
  case unknown => rw [h.unknown, hperm.countP_eq]
  case mismarked => rw [h.mismarked, hperm.countP_eq]
  case only => exact h.only

/-- As many names as distinct ones: no two are the same. -/
theorem length_sub_card_eq_zero (names : List String) :
    names.length - names.toFinset.card = 0 ↔ names.Nodup := by
  rw [← length_repeats, List.length_eq_zero_iff, repeats_eq_nil]
  simp

/-- Complaints that account for references are none exactly if nothing is wrong with any of them. -/
theorem Accounts.eq_nil_iff {placed : List Placed} {complaints : List Diagnostic}
    (h : Accounts registered placed complaints) :
    complaints = [] ↔
      (∀ child ∈ placed, child.key.isSome = true) ∧ (placed.filterMap Placed.key).Nodup ∧
        (∀ child ∈ placed, child.reference.selectsUnknown registered = false) ∧
        ∀ child ∈ placed, child.isMismarked = false := by
  have hnone : ∀ gets : Placed → Bool,
      placed.countP gets = 0 ↔ ∀ child ∈ placed, gets child = false := by
    intro gets
    rw [List.countP_eq_zero]
    simp only [Bool.not_eq_true]
  have hkeys : (∀ child ∈ placed, child.key.isSome = true) ↔
      ∀ child ∈ placed, child.key.isNone = false := by
    simp only [Option.isNone_eq_false_iff]
  rw [hkeys, ← hnone, ← hnone, ← hnone, ← length_sub_card_eq_zero, ← h.keyless, ← h.repeated,
    ← h.unknown, ← h.mismarked]
  constructor
  · rintro rfl
    exact ⟨rfl, rfl, rfl, rfl⟩
  · rintro ⟨hkeyless, hrepeated, hunknown, hmismarked⟩
    rw [List.count_eq_zero] at hkeyless hrepeated hunknown hmismarked
    refine List.map_eq_nil_iff.mp (List.eq_nil_iff_forall_not_mem.mpr ?_ : codesOf complaints = [])
    intro code hm
    rcases h.only code hm with rfl | rfl | rfl | rfl
    · exact hkeyless hm
    · exact hrepeated hm
    · exact hunknown hm
    · exact hmismarked hm

/-- What the audit reports, counted. Templates that are registered again come first, one complaint
for each entry that repeats another. The rest accounts for the references that are children of
elements. So there are no complaints exactly if no template is registered twice and nothing is wrong
with these references. -/
theorem audit_accounts (dialect : Dialect) (registry : Registry) (document : Document) :
    (∃ templates references, document.violations dialect registry = templates ++ references ∧
      (∀ complaint ∈ templates, complaint.code = "WX-INV-DUPLICATE-TEMPLATE") ∧
      templates.length = registry.selectors.length - registry.selectors.toFinset.card ∧
      Accounts registry.selectors (document.placed dialect) references) ∧
    (document.violations dialect registry = [] ↔
      registry.selectors.Nodup ∧
        (∀ child ∈ document.placed dialect, child.key.isSome = true) ∧
        ((document.placed dialect).filterMap Placed.key).Nodup ∧
        (∀ child ∈ document.placed dialect,
          child.reference.selectsUnknown registry.selectors = false) ∧
        ∀ child ∈ document.placed dialect, child.isMismarked = false) := by
  -- the audit meets the references in an order of its own
  have haccounts := (accounts_auditPlaced registry.selectors document.path
    (placedIn dialect document.nodes)).of_perm (document.placedIn_perm_hosted dialect)
  have hlength := length_repeats registry.selectors
  constructor
  · refine ⟨_, _, rfl, ?_, ?_, haccounts⟩
    · refine List.forall_mem_map.mpr fun name _ => ?_
      rfl
    · rw [List.length_map, hlength]
  · unfold Document.violations
    rw [List.append_eq_nil_iff, List.map_eq_nil_iff, ← List.length_eq_zero_iff, hlength,
      length_sub_card_eq_zero, haccounts.eq_nil_iff]
    rfl

end MiniTemplate
