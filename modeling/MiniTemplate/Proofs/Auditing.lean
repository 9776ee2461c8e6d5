import MiniTemplate.Audit
import MiniTemplate.Proofs.Trees
import Mathlib.Data.List.Nodup

/-!
# When the audit finds nothing

The audit is silent exactly if no selector is registered twice and the references
agree with the registry: keys are there and differ, selectors are known, and marks
stand where text stands. Whether references agree depends on their outlines alone,
and fewer references agree all the more.
-/

namespace MiniTemplate

namespace Placed

/-- The data key of a reference, if it has one. -/
def key (placed : Placed) : Option String := placed.reference.staticText? dataKeyName

/-- A reference without anything below it. -/
def outline (placed : Placed) : Placed := ⟨placed.reference.outline, placed.inText⟩

/-- The data key of a reference is told from its outline. -/
theorem key_outline (placed : Placed) : placed.outline.key = placed.key :=
  placed.reference.staticText?_outline dataKeyName

end Placed

/-- References that agree with the selectors registered and with each other. -/
structure Agreeing (registered : List String) (placed : List Placed) : Prop where
  /-- Every reference has a data key. -/
  keyed : ∀ entry ∈ placed, entry.key.isSome = true
  /-- No two references have the same data key. -/
  nodup : (placed.map Placed.key).Nodup
  /-- Nothing is wrong with the selectors. -/
  selectors : ∀ entry ∈ placed, selectorCause? registered entry.reference = none
  /-- Nothing is wrong with the text marks. -/
  marks : ∀ entry ∈ placed, markCause? entry = none

/-- Nothing is wrong with the key of a reference that has one not met before. -/
theorem keyCause?_eq_none {seen : List String} {placed : Placed} :
    keyCause? seen placed.reference = none ↔ ∃ key, placed.key = some key ∧ key ∉ seen := by
  unfold keyCause? Placed.key
  cases placed.reference.staticText? dataKeyName with
  | none => simp
  | some key => simp

/-- Nothing is wrong with a reference exactly if it has a key that is new, its selector is known and
its mark is right. -/
theorem causes_eq_nil {registered seen : List String} {placed : Placed} :
    placed.causes registered seen = [] ↔
      (∃ key, placed.key = some key ∧ key ∉ seen) ∧
        selectorCause? registered placed.reference = none ∧ markCause? placed = none := by
  rw [← keyCause?_eq_none]
  unfold Placed.causes
  simp

/-- The audit of references, given the keys met before, is silent exactly if the references
agree and have none of these keys. -/
theorem auditPlaced_eq_nil (path : String) (registered : List String) (placed : List Placed)
    (seen : List String) :
    auditPlaced path registered seen placed = [] ↔
      Agreeing registered placed ∧ ∀ entry ∈ placed, ∀ key ∈ entry.key, key ∉ seen := by
  induction placed generalizing seen with
  | nil =>
    rw [auditPlaced]
    exact ⟨fun _ => ⟨⟨by simp, by simp, by simp, by simp⟩, by simp⟩, fun _ => rfl⟩
  | cons entry rest ih =>
    rw [auditPlaced, List.append_eq_nil_iff, List.map_eq_nil_iff, causes_eq_nil, ih]
    constructor
    · rintro ⟨⟨⟨key, hkey, hnew⟩, hs, hm⟩, hrest, hseen⟩
      have hk : entry.reference.staticText? dataKeyName = some key := hkey
      rw [hk] at hseen
      have hother : ∀ other ∈ rest, other.key ≠ some key := by
        intro other ho he
        exact hseen other ho key he (by simp)
      refine ⟨⟨?_, ?_, ?_, ?_⟩, ?_⟩
      · exact List.forall_mem_cons.mpr ⟨by rw [hkey]; rfl, hrest.keyed⟩
      · rw [List.map_cons, List.nodup_cons, hkey]
        refine ⟨?_, hrest.nodup⟩
        intro hmem
        obtain ⟨other, ho, he⟩ := List.mem_map.mp hmem
        exact hother other ho he
      · exact List.forall_mem_cons.mpr ⟨hs, hrest.selectors⟩
      · exact List.forall_mem_cons.mpr ⟨hm, hrest.marks⟩
      · refine List.forall_mem_cons.mpr ⟨?_, ?_⟩
        · intro key' hk'
          rw [hkey] at hk'
          obtain rfl := Option.mem_some_iff.mp hk'
          exact hnew
        · intro other ho key' hk' hmem
          exact hseen other ho key' hk' (List.mem_append_right _ hmem)
    · rintro ⟨hall, hseen⟩
      obtain ⟨key, hkey⟩ := Option.isSome_iff_exists.mp (hall.keyed entry List.mem_cons_self)
      have hk : entry.reference.staticText? dataKeyName = some key := hkey
      have hnodup := hall.nodup
      rw [List.map_cons, List.nodup_cons, hkey] at hnodup
      refine ⟨⟨⟨key, hkey, hseen entry List.mem_cons_self key hkey⟩, ?_, ?_⟩, ⟨?_, hnodup.2, ?_, ?_⟩, ?_⟩
      · exact hall.selectors entry List.mem_cons_self
      · exact hall.marks entry List.mem_cons_self
      · exact fun other ho => hall.keyed other (List.mem_cons_of_mem _ ho)
      · exact fun other ho => hall.selectors other (List.mem_cons_of_mem _ ho)
      · exact fun other ho => hall.marks other (List.mem_cons_of_mem _ ho)
      · intro other ho key' hk' hmem
        rw [hk] at hmem
        rcases List.mem_append.mp hmem with hmem | hmem
        · obtain rfl := List.mem_singleton.mp hmem
          exact hnodup.1 (List.mem_map.mpr ⟨other, ho, hk'⟩)
        · exact hseen other (List.mem_cons_of_mem _ ho) key' hk' hmem

/-- No name repeats an earlier one exactly if all differ from each other and from those met
before. -/
theorem repeats_eq_nil (names seen : List String) :
    repeats seen names = [] ↔ names.Nodup ∧ ∀ name ∈ names, name ∉ seen := by
  induction names generalizing seen with
  | nil => simp [repeats]
  | cons name rest ih =>
    rw [repeats, List.nodup_cons, List.forall_mem_cons]
    by_cases hm : name ∈ seen
    · simp [hm]
    · have hc : seen.contains name = false := by simpa using hm
      rw [hc, if_neg Bool.false_ne_true, ih]
      constructor
      · rintro ⟨hn, hs⟩
        refine ⟨⟨fun h => hs name h List.mem_cons_self, hn⟩, hm, ?_⟩
        exact fun other ho h => hs other ho (List.mem_cons_of_mem _ h)
      · rintro ⟨⟨hne, hn⟩, -, hs⟩
        refine ⟨hn, fun other ho h => ?_⟩
        rcases List.mem_cons.mp h with rfl | h
        · exact hne ho
        · exact hs other ho h

/-- The audit of a document is silent exactly if no selector is registered twice and the
references agree. -/
theorem violations_eq_nil (dialect : Dialect) (registry : Registry) (document : Document) :
    document.violations dialect registry = [] ↔
      registry.selectors.Nodup ∧ Agreeing registry.selectors (placedIn dialect document.nodes) := by
  unfold Document.violations
  rw [List.append_eq_nil_iff, List.map_eq_nil_iff, repeats_eq_nil, auditPlaced_eq_nil]
  simp

namespace Agreeing

variable {registered : List String} {placed placed' : List Placed}

/-- Fewer references agree all the more. -/
theorem sublist (h : Agreeing registered placed) (hs : placed'.Sublist placed) :
    Agreeing registered placed' where
  keyed entry hm := h.keyed entry (hs.subset hm)
  nodup := h.nodup.sublist (hs.map Placed.key)
  selectors entry hm := h.selectors entry (hs.subset hm)
  marks entry hm := h.marks entry (hs.subset hm)

/-- What is wrong with a selector is told from the outline. -/
theorem selectorCause?_outline (registered : List String) (element : Element) :
    selectorCause? registered element.outline = selectorCause? registered element := by
  unfold selectorCause?
  rw [Element.staticText?_outline]

/-- What is wrong with a mark is told from the outline. -/
theorem markCause?_outline (placed : Placed) : markCause? placed.outline = markCause? placed := by
  unfold markCause? Placed.outline
  rw [Element.hasAttribute_outline]

/-- Whether references agree can be told from their outlines. -/
theorem map_outline_iff :
    Agreeing registered (placed.map Placed.outline) ↔ Agreeing registered placed := by
  have hkeys : (placed.map Placed.outline).map Placed.key = placed.map Placed.key := by
    rw [List.map_map]
    exact List.map_congr_left fun entry _ => entry.key_outline
  constructor
  · intro h
    refine ⟨fun entry hm => ?_, hkeys ▸ h.nodup, fun entry hm => ?_, fun entry hm => ?_⟩
    · rw [← entry.key_outline]
      exact h.keyed _ (List.mem_map_of_mem hm)
    · rw [← selectorCause?_outline]
      exact h.selectors _ (List.mem_map_of_mem hm)
    · rw [← markCause?_outline]
      exact h.marks _ (List.mem_map_of_mem hm)
  · intro h
    refine ⟨?_, hkeys.symm ▸ h.nodup, ?_, ?_⟩
    · refine List.forall_mem_map.mpr fun entry hm => ?_
      rw [entry.key_outline]
      exact h.keyed entry hm
    · refine List.forall_mem_map.mpr fun entry hm => ?_
      exact (selectorCause?_outline _ _).trans (h.selectors entry hm)
    · refine List.forall_mem_map.mpr fun entry hm => ?_
      exact (markCause?_outline _).trans (h.marks entry hm)

/-- References agree if some of the references that do have the same outlines. -/
theorem of_outline_sublist (h : Agreeing registered placed)
    (hs : (placed'.map Placed.outline).Sublist (placed.map Placed.outline)) :
    Agreeing registered placed' :=
  map_outline_iff.mp ((map_outline_iff.mpr h).sublist hs)

end Agreeing

end MiniTemplate
