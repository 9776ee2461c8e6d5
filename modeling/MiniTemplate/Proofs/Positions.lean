import MiniTemplate.Position
import MiniTemplate.Proofs.Slices
import Mathlib.Data.List.DropRight
import Mathlib.Data.List.GetD
import Mathlib.Data.List.TakeWhile

/-!
# What positions count

An offset at which a character starts cuts a text in two. The line of its position counts the
line feeds in front, and its column the characters behind the last of them. So a later offset has
a later position, as long as lines and columns can be counted with 32 bits.
-/

namespace MiniTemplate

open Text

/-- The line starts of a text that goes on are found behind its first part. -/
theorem lineStartsFrom_append (offset : Nat) (front rest : List Char) :
    lineStartsFrom offset (front ++ rest) =
      lineStartsFrom offset front ++ lineStartsFrom (offset + byteLength front) rest := by
  induction front generalizing offset with
  | nil => simp [lineStartsFrom, byteLength]
  | cons c cs ih =>
    simp only [List.cons_append, lineStartsFrom, byteLength, ih, ← Nat.add_assoc]
    split <;> rfl

/-- A line starts behind its line feed, so behind the start of the text and not behind its end. -/
theorem mem_lineStartsFrom {offset start : Nat} {text : List Char}
    (h : start ∈ lineStartsFrom offset text) :
    offset < start ∧ start ≤ offset + byteLength text := by
  induction text generalizing offset with
  | nil => simp [lineStartsFrom] at h
  | cons c cs ih =>
    have hsize := c.utf8Size_pos
    simp only [lineStartsFrom] at h
    simp only [byteLength]
    split at h
    · rcases List.mem_cons.mp h with rfl | h
      · omega
      · have hrest := ih h
        omega
    · have hrest := ih h
      omega

/-- Behind each line feed one line starts. -/
theorem length_lineStartsFrom (offset : Nat) (text : List Char) :
    (lineStartsFrom offset text).length = text.count '\n' := by
  induction text generalizing offset with
  | nil => rfl
  | cons c cs ih =>
    simp only [lineStartsFrom, List.count_cons]
    split
    · simp [ih, ‹c = '\n'›]
    · simp [ih, ‹c ≠ '\n'›]

/-- As many lines start up to an offset as there are line feeds in front of it, and one more. -/
theorem countUpTo_lineStarts (front rest : List Char) :
    countUpTo (byteLength front) (lineStarts (front ++ rest)) = front.count '\n' + 1 := by
  unfold countUpTo lineStarts
  rw [lineStartsFrom_append, Nat.zero_add, ← List.cons_append]
  have hfront : ∀ start ∈ 0 :: lineStartsFrom 0 front,
      decide (start ≤ byteLength front) = true := by
    intro start hm
    rcases List.mem_cons.mp hm with rfl | hm
    · simp
    · have hbounds := mem_lineStartsFrom hm
      simp
      omega
  have hrest : (lineStartsFrom (byteLength front) rest).takeWhile (· ≤ byteLength front) = [] := by
    rw [List.takeWhile_eq_nil_iff]
    intro hpos
    have hbounds := mem_lineStartsFrom (List.getElem_mem hpos)
    simp
    omega
  rw [List.takeWhile_append_of_pos hfront, hrest, List.append_nil, List.length_cons,
    length_lineStartsFrom]

/-- A front part of a text that ends where a line starts. -/
def EndsLine (before : List Char) : Prop := before = [] ∨ ∃ lines, before = lines ++ ['\n']

/-- Behind the end of a line, no characters belong to the line yet. -/
theorem EndsLine.rtakeWhile {before : List Char} (h : EndsLine before) :
    before.rtakeWhile (· != '\n') = [] := by
  rcases h with rfl | ⟨lines, rfl⟩
  · rfl
  · exact List.rtakeWhile_concat_neg _ _ _ (by simp)

/-- What has no line feeds goes on with the line in which a text ends. -/
theorem rtakeWhile_append (front : List Char) {line : List Char} (hline : '\n' ∉ line) :
    (front ++ line).rtakeWhile (· != '\n') = front.rtakeWhile (· != '\n') ++ line := by
  have hplain : ∀ c ∈ line.reverse, (c != '\n') = true := by
    intro c hm
    exact bne_iff_ne.mpr fun he => hline (he ▸ List.mem_reverse.mp hm)
  unfold List.rtakeWhile
  rw [List.reverse_append, List.takeWhile_append_of_pos hplain, List.reverse_append,
    List.reverse_reverse]

/-- Every text is some lines and a rest without line feeds. -/
theorem exists_line (front : List Char) :
    ∃ before line, front = before ++ line ∧ EndsLine before ∧ '\n' ∉ line := by
  induction front with
  | nil => exact ⟨[], [], rfl, .inl rfl, by simp⟩
  | cons c cs ih =>
    obtain ⟨before, line, rfl, hends, hline⟩ := ih
    rcases hends with rfl | ⟨lines, rfl⟩
    · by_cases hc : c = '\n'
      · exact ⟨['\n'], line, by simp [hc], .inr ⟨[], rfl⟩, hline⟩
      · exact ⟨[], c :: line, rfl, .inl rfl, by simp [hline, Ne.symm hc]⟩
    · exact ⟨c :: (lines ++ ['\n']), line, rfl, .inr ⟨c :: lines, rfl⟩, hline⟩

/-- The line in which a front part ends starts where its last line feed ends. -/
theorem getD_lineStarts {before : List Char} (hends : EndsLine before) (rest : List Char) :
    (lineStarts (before ++ rest)).getD (before.count '\n') 0 = byteLength before := by
  unfold lineStarts
  rcases hends with rfl | ⟨lines, rfl⟩
  · rfl
  · have hcount : (lines ++ ['\n']).count '\n' = (lineStartsFrom 0 lines).length + 1 := by
      rw [List.count_append, length_lineStartsFrom]
      rfl
    have hfeed : byteLength ['\n'] = 1 := by decide
    rw [hcount, List.append_assoc, lineStartsFrom_append, List.getD_cons_succ,
      List.getD_append_right _ _ _ _ (Nat.le_refl _), Nat.sub_self, byteLength_append, hfeed]
    simp [lineStartsFrom]

/-- The position of an offset: its line counts the line feeds in front, and its column the
characters since the last of them. -/
theorem positionAt_line {before line : List Char} (hends : EndsLine before) (hline : '\n' ∉ line)
    (rest : List Char) :
    positionAt (before ++ line ++ rest) (byteLength (before ++ line)) =
      ⟨UInt32.ofNat (before.count '\n' + 1), UInt32.ofNat (line.length + 1)⟩ := by
  have hcount : (before ++ line).count '\n' = before.count '\n' := by
    rw [List.count_append, List.count_eq_zero.mpr hline, Nat.add_zero]
  have hmin : min (byteLength (before ++ line)) (byteLength (before ++ line ++ rest)) =
      byteLength (before ++ line) := by
    rw [byteLength_append (before ++ line)]
    omega
  have hstart := getD_lineStarts hends (line ++ rest)
  unfold positionAt
  dsimp only
  rw [hmin, countUpTo_lineStarts, hcount, Nat.add_sub_cancel, List.append_assoc, hstart,
    ← List.append_assoc, slice_middle]

/-- The position of an offset counts the line feeds in front of it and the characters back to the
last of them. -/
theorem positionAt_front (front rest : List Char) :
    positionAt (front ++ rest) (byteLength front) =
      ⟨UInt32.ofNat (front.count '\n' + 1),
        UInt32.ofNat ((front.rtakeWhile (· != '\n')).length + 1)⟩ := by
  obtain ⟨before, line, rfl, hends, hline⟩ := exists_line front
  have hfeeds : (before ++ line).count '\n' = before.count '\n' := by
    rw [List.count_append, List.count_eq_zero.mpr hline, Nat.add_zero]
  rw [positionAt_line hends hline, hfeeds, rtakeWhile_append before hline, hends.rtakeWhile,
    List.nil_append]

/-- A front part of a text behind which line and column can be counted with 32 bits. -/
def IsCounted (front : List Char) : Prop :=
  front.count '\n' + 1 < UInt32.size ∧ (front.rtakeWhile (· != '\n')).length + 1 < UInt32.size

/-- The counts at an offset are held if the offset is. -/
theorem isCounted_of_lt {front : List Char} (h : byteLength front + 1 < UInt32.size) :
    IsCounted front := by
  have hlength := length_le_byteLength front
  have hfeeds := List.count_le_length (a := '\n') (l := front)
  have hline := (front.rtakeWhile_suffix (· != '\n')).length_le
  constructor <;> omega

/-- Going on in a text adds to the lines, or else to the columns. -/
theorem counts_append (front : List Char) {middle : List Char} (hmiddle : middle ≠ []) :
    front.count '\n' < (front ++ middle).count '\n' ∨
      front.count '\n' = (front ++ middle).count '\n' ∧
        (front.rtakeWhile (· != '\n')).length <
          ((front ++ middle).rtakeWhile (· != '\n')).length := by
  rw [List.count_append]
  by_cases hfeed : '\n' ∈ middle
  · have hone := List.count_pos_iff.mpr hfeed
    exact .inl (by omega)
  · -- the same line goes on
    have hpos := List.length_pos_iff.mpr hmiddle
    rw [rtakeWhile_append front hfeed, List.length_append, List.count_eq_zero.mpr hfeed]
    exact .inr ⟨rfl, by omega⟩

/-- One position comes before another in reading order. -/
def Position.Before (a b : Position) : Prop :=
  a.line < b.line ∨ a.line = b.line ∧ a.column < b.column

instance (a b : Position) : Decidable (a.Before b) :=
  inferInstanceAs (Decidable (a.line < b.line ∨ a.line = b.line ∧ a.column < b.column))

/-- The order of numbers that are held in 32 bits. -/
theorem ofNat_lt_ofNat {m n : Nat} (h : m < n) (hn : n < UInt32.size) :
    UInt32.ofNat m < UInt32.ofNat n := by
  rw [UInt32.lt_iff_toNat_lt, UInt32.toNat_ofNat_of_lt' hn, UInt32.toNat_ofNat_of_lt' (h.trans hn)]
  exact h

/-- A longer front part has the later position. -/
theorem positionAt_before_front {text front rest front' rest' : List Char}
    (hfront : text = front ++ rest) (hfront' : text = front' ++ rest')
    (hlt : byteLength front < byteLength front') (hcounted : IsCounted front') :
    (positionAt text (byteLength front)).Before (positionAt text (byteLength front')) := by
  obtain ⟨middle, rfl, -⟩ := exists_middle (hfront.symm.trans hfront') hlt.le
  have hmiddle : middle ≠ [] := by
    rintro rfl
    simp at hlt
  obtain ⟨hfeeds, hcolumn⟩ := hcounted
  rw [hfront', positionAt_front (front ++ middle), List.append_assoc, positionAt_front]
  rcases counts_append front hmiddle with hlines | ⟨hsame, hcolumns⟩
  · exact .inl (ofNat_lt_ofNat (by omega) hfeeds)
  · exact .inr ⟨by rw [hsame], ofNat_lt_ofNat (by omega) hcolumn⟩

/-- Of two offsets at which characters start, the later one has the later position. -/
theorem positionAt_before {text : List Char} {offset offset' : Nat}
    (h : (dropBytes? offset text).isSome) (h' : (dropBytes? offset' text).isSome)
    (hlt : offset < offset') (hsize : offset' + 1 < UInt32.size) :
    (positionAt text offset).Before (positionAt text offset') := by
  obtain ⟨rest, hrest⟩ := Option.isSome_iff_exists.mp h
  obtain ⟨rest', hrest'⟩ := Option.isSome_iff_exists.mp h'
  obtain ⟨front, hfront, rfl⟩ := exists_front hrest
  obtain ⟨front', hfront', rfl⟩ := exists_front hrest'
  exact positionAt_before_front hfront hfront' hlt (isCounted_of_lt hsize)

end MiniTemplate
