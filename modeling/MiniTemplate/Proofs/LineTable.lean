import MiniTemplate.Proofs.Positions

/-!
# Looking up positions

The table of line starts ascends and starts at zero, so that the entries up to an offset come first
in it and there is always one. The entry before the first greater one is the start of the line of
the offset. Positions found in this way are the counts of lines and columns, and in the order of
the offsets. A line or column that 32 bits do not hold can only be met at the end of a text of the
greatest size, which is made of line feeds only or of a single line; there the order is lost.
-/

namespace MiniTemplate

open Text

/-- The line starts in a piece of text ascend. -/
theorem pairwise_lineStartsFrom (offset : Nat) (text : List Char) :
    (lineStartsFrom offset text).Pairwise (· < ·) := by
  induction text generalizing offset with
  | nil => exact List.Pairwise.nil
  | cons c cs ih =>
    rw [lineStartsFrom]
    split
    · rename_i hc
      refine List.pairwise_cons.mpr ⟨fun start hm => ?_, ih _⟩
      have hfeed : c.utf8Size = 1 := hc ▸ rfl
      have hbounds := mem_lineStartsFrom hm
      omega
    · exact ih _

/-- The table of line starts ascends. -/
theorem pairwise_lineStarts (text : List Char) : (lineStarts text).Pairwise (· < ·) :=
  List.pairwise_cons.mpr ⟨fun _ hm => (mem_lineStartsFrom hm).1, pairwise_lineStartsFrom 0 text⟩

/-- The count goes on behind a first entry only if this one is not behind the offset. -/
theorem countUpTo_cons (offset start : Nat) (table : List Nat) :
    countUpTo offset (start :: table) =
      if start ≤ offset then countUpTo offset table + 1 else 0 := by
  unfold countUpTo
  rw [List.takeWhile_cons]
  by_cases h : start ≤ offset <;> simp [h]

theorem countUpTo_le_length (offset : Nat) (table : List Nat) :
    countUpTo offset table ≤ table.length := (List.takeWhile_prefix _).length_le

/-- In an ascending table, the entries up to an offset are those in front of the place that the
search gives. -/
theorem lt_countUpTo_iff {table : List Nat} (h : table.Pairwise (· < ·)) {i start : Nat}
    (hi : table[i]? = some start) (offset : Nat) : i < countUpTo offset table ↔ start ≤ offset := by
  induction table generalizing i with
  | nil => simp at hi
  | cons first rest ih =>
    rw [List.pairwise_cons] at h
    rw [countUpTo_cons]
    cases i with
    | zero =>
      obtain rfl : first = start := by simpa using hi
      split <;> simp_all
    | succ i =>
      rw [List.getElem?_cons_succ] at hi
      have hlater := h.1 start (List.mem_of_getElem? hi)
      split
      · rw [Nat.add_lt_add_iff_right]
        exact ih h.2 hi
      · omega

/-- Some line has started at every offset. -/
theorem countUpTo_lineStarts_pos (offset : Nat) (text : List Char) :
    0 < countUpTo offset (lineStarts text) := by
  rw [lineStarts, countUpTo_cons, if_pos (Nat.zero_le offset)]
  exact Nat.succ_pos _

/-- In a text that is not too large, the counts at an offset are held by 32 bits, unless in front of
it stand as many characters as 32 bits can count, which are all line feeds or all on one line. -/
theorem isCounted_iff {front : List Char} (hsize : byteLength front < UInt32.size) :
    IsCounted front ↔
      ¬ (front.length + 1 = UInt32.size ∧ ((∀ c ∈ front, c = '\n') ∨ '\n' ∉ front)) := by
  have hlength := length_le_byteLength front
  have hfeeds := List.count_le_length (a := '\n') (l := front)
  have hsuffix := front.rtakeWhile_suffix (· != '\n')
  have hline := hsuffix.length_le
  have hallFeeds : (∀ c ∈ front, c = '\n') ↔ front.count '\n' = front.length := by
    rw [List.count_eq_length]
    exact forall₂_congr fun c _ => eq_comm
  have hnoFeed : '\n' ∉ front ↔
      (front.rtakeWhile (· != '\n')).length = front.length := by
    have hwhole : (front.rtakeWhile (· != '\n')).length = front.length ↔
        front.rtakeWhile (· != '\n') = front :=
      ⟨hsuffix.eq_of_length, congrArg List.length⟩
    rw [hwhole, List.rtakeWhile_eq_self_iff]
    exact ⟨fun h c hm => bne_iff_ne.mpr fun he => h (he ▸ hm),
      fun h hm => bne_iff_ne.mp (h '\n' hm) rfl⟩
  rw [hallFeeds, hnoFeed, IsCounted]
  omega

/-- Positions are right and differ. Take a text of fewer than 2³² bytes and an offset at which a
character starts or the text ends. The line counts the line feeds in front and the column the
characters back to the last of them, in numbers of 32 bits. These hold the counts, except behind
2³² - 1 line feeds or 2³² - 1 characters of one line, and so at most at the end of a text of the
greatest size. Offsets with later counts that are held have later positions. As the table of line
starts ascends, the entries in front of the place that is searched for are those up to the offset,
and no offset at all leads out of the table. -/
theorem positionAt_exact (text : List Char) (hsize : byteLength text < UInt32.size) :
    (∀ front rest, text = front ++ rest →
      positionAt text (byteLength front) =
        ⟨UInt32.ofNat (front.count '\n' + 1),
          UInt32.ofNat ((front.rtakeWhile (· != '\n')).length + 1)⟩ ∧
      (IsCounted front →
        (positionAt text (byteLength front)).line.toNat = front.count '\n' + 1 ∧
        (positionAt text (byteLength front)).column.toNat =
          (front.rtakeWhile (· != '\n')).length + 1) ∧
      (rest ≠ [] ∨ byteLength text + 1 < UInt32.size → IsCounted front) ∧
      (IsCounted front ↔
        ¬ (front.length + 1 = UInt32.size ∧ ((∀ c ∈ front, c = '\n') ∨ '\n' ∉ front)))) ∧
    (∀ front rest front' rest', text = front ++ rest → text = front' ++ rest' →
      byteLength front < byteLength front' → IsCounted front' →
        (positionAt text (byteLength front)).Before (positionAt text (byteLength front'))) ∧
    ∀ offset,
      (∀ i start, (lineStarts text)[i]? = some start →
        (i < countUpTo offset (lineStarts text) ↔ start ≤ offset)) ∧
      0 < countUpTo offset (lineStarts text) ∧
      countUpTo offset (lineStarts text) - 1 < (lineStarts text).length := by
  refine ⟨?_, ?_, fun offset => ⟨?_, ?_, ?_⟩⟩
  · rintro front rest rfl
    rw [byteLength_append] at hsize
    refine ⟨positionAt_front front rest, fun hcounted => ?_, fun hend => isCounted_of_lt ?_,
      isCounted_iff (by omega)⟩
    · rw [positionAt_front]
      exact ⟨UInt32.toNat_ofNat_of_lt' hcounted.1, UInt32.toNat_ofNat_of_lt' hcounted.2⟩
    · rw [byteLength_append] at hend
      rcases hend with hrest | hend
      · have hpos := List.length_pos_iff.mpr hrest
        have hlength := length_le_byteLength rest
        omega
      · omega
  · intro front rest front' rest' hfront hfront' hlt hcounted
    exact positionAt_before_front hfront hfront' hlt hcounted
  · exact fun i start hi => lt_countUpTo_iff (pairwise_lineStarts text) hi offset
  · exact countUpTo_lineStarts_pos offset text
  · have hpos := countUpTo_lineStarts_pos offset text
    have hle := countUpTo_le_length offset (lineStarts text)
    omega

/-- A text with an empty line and characters of two and of four bytes. -/
def multibyteText : List Char := ['é', '\n', '\n', '𝄞', 'b']

/-- Behind the character of four bytes, the position is the count of lines and of characters. -/
theorem positionAt_exact_multibyte :
    byteLength multibyteText < UInt32.size ∧ IsCounted ['é', '\n', '\n', '𝄞'] ∧
      (positionAt multibyteText 8).line.toNat = 3 ∧ (positionAt multibyteText 8).column.toNat = 2 ∧
      (positionAt multibyteText 3).Before (positionAt multibyteText 8) := by
  have hsize : byteLength multibyteText < UInt32.size := by decide
  have hstart : byteLength ['é', '\n'] = 3 := by decide
  have hstop : byteLength ['é', '\n', '\n', '𝄞'] = 8 := by decide
  obtain ⟨hexact, hlater, -⟩ := positionAt_exact multibyteText hsize
  obtain ⟨-, hcounts, hcounted, -⟩ := hexact ['é', '\n', '\n', '𝄞'] ['b'] rfl
  have hfront := hcounted (.inl (by decide))
  obtain ⟨hline, hcolumn⟩ := hcounts hfront
  have hbefore := hlater ['é', '\n'] ['\n', '𝄞', 'b'] ['é', '\n', '\n', '𝄞'] ['b'] rfl rfl
    (by decide) hfront
  rw [hstop] at hline hcolumn
  rw [hstart, hstop] at hbefore
  exact ⟨hsize, hfront, hline.trans (by decide), hcolumn.trans (by decide), hbefore⟩

/-- The bytes of a character that is repeated. -/
theorem byteLength_replicate (count : Nat) (c : Char) :
    byteLength (List.replicate count c) = count * c.utf8Size := by
  induction count with
  | zero => simp [byteLength]
  | succ count ih =>
    rw [List.replicate_succ, byteLength, ih, Nat.succ_mul, Nat.add_comm]

/-- The position of the end of a text. -/
theorem positionAt_end (text : List Char) :
    positionAt text (byteLength text) =
      ⟨UInt32.ofNat (text.count '\n' + 1),
        UInt32.ofNat ((text.rtakeWhile (· != '\n')).length + 1)⟩ := by
  have hend := positionAt_front text []
  rw [List.append_nil] at hend
  exact hend

/-- The position of the start of a text. -/
theorem positionAt_start (text : List Char) : positionAt text 0 = .first :=
  positionAt_front [] text

/-- As many line feeds as 32 bits can count. -/
def countlessFeeds : List Char := List.replicate (UInt32.size - 1) '\n'

/-- As many letters as 32 bits can count, on one line. -/
def countlessLetters : List Char := List.replicate (UInt32.size - 1) 'a'

/-- The end of a text of nothing but line feeds has a position on line zero. -/
theorem positionAt_countlessFeeds :
    positionAt countlessFeeds (byteLength countlessFeeds) = ⟨0, 1⟩ := by
  have hline : countlessFeeds.rtakeWhile (· != '\n') = [] := by
    unfold countlessFeeds List.rtakeWhile
    rw [List.reverse_replicate, List.takeWhile_replicate, if_neg (by decide)]
    rfl
  rw [positionAt_end, hline, countlessFeeds, List.count_replicate_self]
  decide

/-- The end of a text of one line of letters has a position in column zero. -/
theorem positionAt_countlessLetters :
    positionAt countlessLetters (byteLength countlessLetters) = ⟨1, 0⟩ := by
  have hplain : ∀ c ∈ countlessLetters, (c != '\n') = true := by
    intro c hm
    rw [List.eq_of_mem_replicate hm]
    decide
  have hfeeds : countlessLetters.count '\n' = 0 := by
    rw [List.count_eq_zero]
    intro hm
    exact absurd (hplain _ hm) (by decide)
  have hlength : countlessLetters.length = UInt32.size - 1 := List.length_replicate
  rw [positionAt_end, List.rtakeWhile_eq_self_iff.mpr hplain, hfeeds, hlength]
  decide

/-- The counts have to be held: in texts of fewer than 2³² bytes, the end of 2³² - 1 line feeds and
the end of a line of 2³² - 1 letters have positions that count from zero again, and do not come
behind the position of the start. -/
theorem positionAt_starts_over :
    byteLength countlessFeeds + 1 = UInt32.size ∧
      positionAt countlessFeeds (byteLength countlessFeeds) = ⟨0, 1⟩ ∧
      ¬ (positionAt countlessFeeds 0).Before
        (positionAt countlessFeeds (byteLength countlessFeeds)) ∧
      byteLength countlessLetters + 1 = UInt32.size ∧
      positionAt countlessLetters (byteLength countlessLetters) = ⟨1, 0⟩ ∧
      ¬ (positionAt countlessLetters 0).Before
        (positionAt countlessLetters (byteLength countlessLetters)) := by
  rw [positionAt_countlessFeeds, positionAt_countlessLetters, positionAt_start, positionAt_start]
  refine ⟨?_, rfl, by decide, ?_, rfl, by decide⟩
  · rw [countlessFeeds, byteLength_replicate]
    decide
  · rw [countlessLetters, byteLength_replicate]
    decide

end MiniTemplate
