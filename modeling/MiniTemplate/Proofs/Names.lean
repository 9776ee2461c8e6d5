import MiniTemplate.Registry
import Mathlib.Data.List.Range
import Mathlib.Data.List.Nodup

/-!
# Names that supplies hand out

A supply hands out its stem followed by a decimal number, counting up. The names
still to come are therefore known in advance, differ from each other and from those
of a supply whose stem begins otherwise. A ledger grows in step with its supplies:
each selector handed out is registered, in order.
-/

namespace MiniTemplate

namespace Supply

/-- A supply after some more names have been handed out. -/
def advance (supply : Supply) (count : Nat) : Supply :=
  { supply with issued := supply.issued + count }

/-- The next names, in order. -/
def upcoming (supply : Supply) (count : Nat) : List String :=
  (List.range count).map fun i => supply.name (supply.issued + i)

/-- The next name of a supply has the number that was reached, and moves it on by one. -/
theorem next_eq (supply : Supply) :
    supply.next = (supply.name supply.issued, supply.advance 1) := rfl

@[simp] theorem advance_zero (supply : Supply) : supply.advance 0 = supply := rfl

@[simp] theorem upcoming_zero (supply : Supply) : supply.upcoming 0 = [] := rfl

@[simp] theorem issued_advance (supply : Supply) (count : Nat) :
    (supply.advance count).issued = supply.issued + count := rfl

@[simp] theorem name_advance (supply : Supply) (count number : Nat) :
    (supply.advance count).name number = supply.name number := rfl

/-- Moving on twice is moving on by the sum. -/
@[simp] theorem advance_advance (supply : Supply) (m n : Nat) :
    (supply.advance m).advance n = supply.advance (m + n) := by
  unfold advance
  rw [Nat.add_assoc]

/-- The next names are some of them and then those that come after. -/
theorem upcoming_add (supply : Supply) (m n : Nat) :
    supply.upcoming (m + n) = supply.upcoming m ++ (supply.advance m).upcoming n := by
  unfold upcoming
  rw [List.range_add, List.map_append, List.map_map]
  simp [Function.comp_def, Nat.add_assoc]

theorem upcoming_one (supply : Supply) : supply.upcoming 1 = [supply.name supply.issued] := rfl

/-- As many names come up as were asked for. -/
theorem length_upcoming (supply : Supply) (count : Nat) :
    (supply.upcoming count).length = count := by
  simp [upcoming]

/-- Different numbers make different names. -/
theorem name_injective (supply : Supply) : Function.Injective supply.name := by
  intro i j h
  have hs : toString i = toString j := (String.append_right_inj supply.stem).mp h
  rw [Nat.toString_eq_ofList_toDigits, Nat.toString_eq_ofList_toDigits] at hs
  have hd : Nat.toDigits 10 i = Nat.toDigits 10 j := String.ofList_injective hs
  calc
    i = Nat.ofDigitChars 10 (Nat.toDigits 10 i) 0 := Nat.ofDigitChars_ten_toDigits.symm
    _ = Nat.ofDigitChars 10 (Nat.toDigits 10 j) 0 := by rw [hd]
    _ = j := Nat.ofDigitChars_ten_toDigits

/-- Names that come up are different from each other. -/
theorem nodup_upcoming (supply : Supply) (count : Nat) : (supply.upcoming count).Nodup := by
  unfold upcoming
  apply List.Nodup.map _ List.nodup_range
  intro i j h
  have hij := supply.name_injective h
  omega

/-- The names that come up are those from the number that was reached. -/
theorem mem_upcoming {supply : Supply} {count : Nat} {name : String} :
    name ∈ supply.upcoming count ↔
      ∃ i, supply.issued ≤ i ∧ i < supply.issued + count ∧ name = supply.name i := by
  simp only [upcoming, List.mem_map, List.mem_range]
  constructor
  · rintro ⟨i, hi, rfl⟩
    exact ⟨supply.issued + i, by omega, by omega, rfl⟩
  · rintro ⟨i, hl, hr, rfl⟩
    exact ⟨i - supply.issued, by omega, by congr 1; omega⟩

end Supply

/-- Ordinary selectors and those of property templates never meet: their stems begin
with different letters. -/
theorem child_ne_propchild (i j : Nat) :
    "child" ++ toString i ≠ "propchild" ++ toString j := by
  intro h
  have hl := congrArg (fun name => name.toList.head?) h
  simp [String.toList_append] at hl

namespace Ledger

/-- A ledger after some selectors, data keys and property selectors have been drawn, with
every selector registered. -/
structure Grows (before after : Ledger) (selectors keys propSelectors : Nat) : Prop where
  /-- The supplies have moved on by what was drawn. -/
  supplies : after.supplies = ⟨before.supplies.selectors.advance selectors,
    before.supplies.dataKeys.advance keys, before.supplies.propSelectors.advance propSelectors⟩
  /-- The selectors drawn stand behind the templates registered before. -/
  templates : after.registry.templates =
    before.registry.templates ++ before.supplies.selectors.upcoming selectors
  /-- So do the property selectors. -/
  propNames : after.registry.propTemplates.map PropTemplate.name =
    before.registry.propTemplates.map PropTemplate.name ++
      before.supplies.propSelectors.upcoming propSelectors
  /-- Property templates registered before stay as they are. -/
  propTemplates : before.registry.propTemplates <+: after.registry.propTemplates

namespace Grows

variable {before middle after : Ledger} {s s' k k' p p' : Nat}

/-- A ledger from which nothing is drawn. -/
theorem refl (ledger : Ledger) : ledger.Grows ledger 0 0 0 where
  supplies := rfl
  templates := by simp
  propNames := by simp
  propTemplates := List.prefix_rfl

/-- Growing twice adds up. -/
theorem trans (h : before.Grows middle s k p) (h' : middle.Grows after s' k' p') :
    before.Grows after (s + s') (k + k') (p + p') where
  supplies := by
    rw [h'.supplies, h.supplies]
    simp
  templates := by
    rw [h'.templates, h.templates, h.supplies, Supply.upcoming_add, List.append_assoc]
  propNames := by
    rw [h'.propNames, h.propNames, h.supplies, Supply.upcoming_add, List.append_assoc]
  propTemplates := h.propTemplates.trans h'.propTemplates

/-- A ledger that grows moves its data keys on by those that were drawn. -/
theorem dataKeys (h : before.Grows after s k p) :
    after.supplies.dataKeys = before.supplies.dataKeys.advance k := by
  rw [h.supplies]

/-- What is registered stays registered. -/
theorem selectors_subset (h : before.Grows after s k p) :
    before.registry.selectors ⊆ after.registry.selectors := by
  intro name hm
  unfold Registry.selectors at hm ⊢
  rw [h.templates, h.propNames]
  simp only [List.mem_append] at hm ⊢
  tauto

end Grows

end Ledger

end MiniTemplate
