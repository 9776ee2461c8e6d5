import MiniTemplate.Text.Bytes
import MiniTemplate.Text.Blank
import Mathlib.Data.List.Infix
import Mathlib.Data.List.TakeWhile

/-!
# Cutting texts

A text is cut at byte offsets. An offset at which a character starts, or the text ends, is the length
of a front part of the text, so that a slice of a text is a middle part of it, with something in front
and something behind. Blanks at the ends of a text are cut off in the same way, and separators cut it
into pieces.
-/

namespace MiniTemplate

open Text

/-- The bytes of a text are those of its parts. -/
theorem byteLength_append (front rest : List Char) :
    byteLength (front ++ rest) = byteLength front + byteLength rest := by
  induction front with
  | nil => simp [byteLength]
  | cons c cs ih => simp only [List.cons_append, byteLength, ih, Nat.add_assoc]

/-- Every character takes a byte at least. -/
theorem length_le_byteLength (text : List Char) : text.length ≤ byteLength text := by
  induction text with
  | nil => exact Nat.le_refl 0
  | cons c cs ih =>
    have hsize := c.utf8Size_pos
    simp only [List.length_cons, byteLength]
    omega

/-- Every character takes a byte at least, told as a successor. -/
theorem exists_byteLength_eq_succ (c : Char) (count : Nat) : ∃ n, c.utf8Size + count = n + 1 := by
  have hsize := c.utf8Size_pos
  exact Nat.exists_eq_succ_of_ne_zero (by omega)

/-- Dropping the bytes of a first character and more of them drops it. -/
theorem dropBytes?_cons (c : Char) (count : Nat) (cs : List Char) :
    dropBytes? (c.utf8Size + count) (c :: cs) = dropBytes? count cs := by
  obtain ⟨n, hn⟩ := exists_byteLength_eq_succ c count
  rw [hn, dropBytes?, if_pos (by omega), ← hn, Nat.add_sub_cancel_left]

/-- Taking the bytes of a first character and more of them takes it. -/
theorem takeBytes?_cons (c : Char) (count : Nat) (cs : List Char) :
    takeBytes? (c.utf8Size + count) (c :: cs) = (takeBytes? count cs).map (c :: ·) := by
  obtain ⟨n, hn⟩ := exists_byteLength_eq_succ c count
  rw [hn, takeBytes?, if_pos (by omega), ← hn, Nat.add_sub_cancel_left]

/-- Cutting a text behind a front part gives what is behind it. -/
theorem dropBytes?_byteLength (front rest : List Char) :
    dropBytes? (byteLength front) (front ++ rest) = some rest := by
  induction front with
  | nil => simp [byteLength, dropBytes?]
  | cons c cs ih => rw [byteLength, List.cons_append, dropBytes?_cons, ih]

/-- The bytes of a front part are the front part. -/
theorem takeBytes?_byteLength (front rest : List Char) :
    takeBytes? (byteLength front) (front ++ rest) = some front := by
  induction front with
  | nil => simp [byteLength, takeBytes?]
  | cons c cs ih =>
    rw [byteLength, List.cons_append, takeBytes?_cons, ih]
    rfl

/-- An offset at which a character starts, or the text ends, cuts the text in two. -/
theorem exists_front {offset : Nat} {text rest : List Char}
    (h : dropBytes? offset text = some rest) :
    ∃ front, text = front ++ rest ∧ byteLength front = offset := by
  fun_induction dropBytes? offset text with
  | case1 text => exact ⟨[], by rw [Option.some.inj h, List.nil_append], rfl⟩
  | case2 count => simp at h
  | case3 count c cs hle ih =>
    obtain ⟨front, hcs, hlength⟩ := ih h
    refine ⟨c :: front, by rw [hcs, List.cons_append], ?_⟩
    rw [byteLength, hlength]
    omega
  | case4 count c cs hle => simp at h

/-- The first bytes of a text cut it in two. -/
theorem exists_rest {count : Nat} {text front : List Char} (h : takeBytes? count text = some front) :
    ∃ rest, text = front ++ rest ∧ byteLength front = count := by
  fun_induction takeBytes? count text generalizing front with
  | case1 text =>
    obtain rfl := Option.some.inj h
    exact ⟨text, rfl, rfl⟩
  | case2 count => simp at h
  | case3 count c cs hle ih =>
    obtain ⟨front', hfront, rfl⟩ := Option.map_eq_some_iff.mp h
    obtain ⟨rest, hcs, hlength⟩ := ih hfront
    refine ⟨rest, by rw [hcs, List.cons_append], ?_⟩
    rw [byteLength, hlength]
    omega
  | case4 count c cs hle => simp at h

/-- Of two front parts of a text, the longer one starts with the shorter one. -/
theorem exists_middle {front rest front' rest' : List Char} (h : front ++ rest = front' ++ rest')
    (hle : byteLength front ≤ byteLength front') :
    ∃ middle, front' = front ++ middle ∧ rest = middle ++ rest' := by
  rcases List.append_eq_append_iff.mp h with ⟨middle, hfront, hrest⟩ | ⟨extra, hfront, hrest⟩
  · exact ⟨middle, hfront, hrest⟩
  · -- the first one is not longer, so there is nothing it has in addition
    have hshort := length_le_byteLength extra
    rw [hfront, byteLength_append] at hle
    obtain rfl : extra = [] := List.length_eq_zero_iff.mp (by omega)
    rw [List.append_nil] at hfront
    exact ⟨[], by rw [hfront, List.append_nil], hrest.symm⟩

/-! ### Separators -/

/-- Splitting a text at a separator, one character at a time. -/
theorem eq_splitOn {split : List Char → List (List Char)} {separator : Char}
    (hnil : split [] = [[]])
    (hcons : ∀ c cs, split (c :: cs) =
      if c = separator then [] :: split cs
      else match split cs with
        | [] => [[c]]
        | piece :: rest => (c :: piece) :: rest)
    (text : List Char) : split text = text.splitOn separator := by
  induction text with
  | nil => exact hnil
  | cons c cs ih =>
    obtain ⟨piece, rest, hcs⟩ := List.exists_cons_of_ne_nil (List.splitOn_ne_nil separator cs)
    rw [hcons, ih, hcs, List.splitOn_cons_eq_if_modifyHead, hcs, List.modifyHead_cons]
    by_cases hc : c = separator
    · rw [if_pos hc, if_pos (beq_iff_eq.mpr hc)]
    · rw [if_neg hc, if_neg (fun he => hc (beq_iff_eq.mp he))]

/-! ### Slices -/

/-- A slice is a middle part of a text, between the lengths of what is in front of it and of what is
in front of the rest. -/
theorem slice?_eq_some_iff {start stop : Nat} {text piece : List Char} :
    slice? start stop text = some piece ↔
      ∃ front rest, text = front ++ piece ++ rest ∧ byteLength front = start ∧
        byteLength (front ++ piece) = stop := by
  constructor
  · intro h
    unfold slice? at h
    split at h
    · rename_i hle
      obtain ⟨behind, hbehind, hpiece⟩ := Option.bind_eq_some_iff.mp h
      obtain ⟨front, hfront, hstart⟩ := exists_front hbehind
      obtain ⟨rest, hrest, hlength⟩ := exists_rest hpiece
      refine ⟨front, rest, by rw [hfront, hrest, List.append_assoc], hstart, ?_⟩
      rw [byteLength_append]
      omega
    · simp at h
  · rintro ⟨front, rest, rfl, rfl, rfl⟩
    unfold slice?
    rw [byteLength_append, if_pos (Nat.le_add_right _ _), List.append_assoc, dropBytes?_byteLength,
      Nat.add_sub_cancel_left]
    exact takeBytes?_byteLength piece rest

/-- A text can be cut between two offsets exactly if they are in order and a character starts, or the
text ends, at each. -/
theorem isSome_slice? {start stop : Nat} {text : List Char} :
    (slice? start stop text).isSome ↔
      start ≤ stop ∧ (dropBytes? start text).isSome ∧ (dropBytes? stop text).isSome := by
  constructor
  · intro h
    obtain ⟨piece, hpiece⟩ := Option.isSome_iff_exists.mp h
    obtain ⟨front, rest, rfl, rfl, rfl⟩ := slice?_eq_some_iff.mp hpiece
    rw [dropBytes?_byteLength (front ++ piece) rest, List.append_assoc, dropBytes?_byteLength,
      byteLength_append]
    exact ⟨Nat.le_add_right _ _, rfl, rfl⟩
  · rintro ⟨hle, hstart, hstop⟩
    obtain ⟨behind, hbehind⟩ := Option.isSome_iff_exists.mp hstart
    obtain ⟨rest, hrest⟩ := Option.isSome_iff_exists.mp hstop
    obtain ⟨front, hfront, rfl⟩ := exists_front hbehind
    obtain ⟨front', hfront', rfl⟩ := exists_front hrest
    obtain ⟨middle, rfl, -⟩ := exists_middle (hfront.symm.trans hfront') hle
    exact Option.isSome_iff_exists.mpr
      ⟨middle, slice?_eq_some_iff.mpr ⟨front, rest, hfront', rfl, rfl⟩⟩

/-- The text between two offsets at which characters start. -/
theorem slice_middle (before line rest : List Char) :
    slice (byteLength before) (byteLength (before ++ line)) (before ++ line ++ rest) = line := by
  unfold slice
  rw [slice?_eq_some_iff.mpr ⟨before, rest, rfl, rfl, rfl⟩, Option.getD_some]

/-- A slice is a piece of the text. -/
theorem slice_piece (start stop : Nat) (text : List Char) : slice start stop text <:+: text := by
  unfold slice
  cases hs : slice? start stop text with
  | none => exact List.nil_infix
  | some piece =>
    obtain ⟨front, rest, htext, -, -⟩ := slice?_eq_some_iff.mp hs
    exact ⟨front, rest, htext.symm⟩

/-- Nothing between an offset and itself. -/
theorem slice_self (code : List Char) (offset : Nat) : slice offset offset code = [] := by
  unfold slice slice?
  rw [if_pos (Nat.le_refl _), Nat.sub_self]
  cases dropBytes? offset code <;> simp [takeBytes?]

/-- The text from an offset on is the slice from there to the end. -/
theorem sliceFrom_eq_slice (start : Nat) (text : List Char) :
    sliceFrom start text = slice start (byteLength text) text := by
  unfold sliceFrom slice
  cases hd : dropBytes? start text with
  | none =>
    have hnone : slice? start (byteLength text) text = none := by
      rw [← Option.not_isSome_iff_eq_none, isSome_slice?, hd]
      simp
    rw [hnone]
  | some behind =>
    obtain ⟨front, rfl, rfl⟩ := exists_front hd
    have hsome : slice? (byteLength front) (byteLength (front ++ behind)) (front ++ behind) =
        some behind :=
      slice?_eq_some_iff.mpr ⟨front, [], by rw [List.append_nil], rfl, rfl⟩
    rw [hsome]

/-- A slice of a text that lies within another one is a piece of that one, as far from its start as
their offsets are apart. -/
theorem exists_within {start stop first last : Nat} {text whole piece : List Char}
    (hwhole : slice? start stop text = some whole) (hpiece : slice? first last text = some piece)
    (hfirst : start ≤ first) (hlast : last ≤ stop) :
    ∃ front rest, whole = front ++ piece ++ rest ∧ start + byteLength front = first := by
  obtain ⟨before, after, htext, rfl, rfl⟩ := slice?_eq_some_iff.mp hwhole
  obtain ⟨before', after', htext', rfl, rfl⟩ := slice?_eq_some_iff.mp hpiece
  rw [htext, List.append_assoc, List.append_assoc] at htext'
  obtain ⟨front, rfl, hfront⟩ := exists_middle htext' hfirst
  rw [← List.append_assoc] at hfront
  have hshort : byteLength (front ++ piece) ≤ byteLength whole := by
    simp only [byteLength_append] at hlast ⊢
    omega
  obtain ⟨rest, hwhole', -⟩ := exists_middle hfront.symm hshort
  exact ⟨front, rest, hwhole', (byteLength_append _ _).symm⟩

/-! ### Blanks at the ends -/

/-- A text is what is left of it without blanks at its ends, between blanks. -/
theorem exists_blanks (text : List Char) :
    ∃ lead trail, text = lead ++ trim text ++ trail ∧
      byteLength lead = byteLength text - byteLength (trimStart text) ∧
      (∀ c ∈ lead, isBlank c = true) ∧ ∀ c ∈ trail, isBlank c = true := by
  have hstart : text = text.takeWhile isBlank ++ trimStart text :=
    List.takeWhile_append_dropWhile.symm
  have hend : trimStart text =
      trim text ++ ((trimStart text).reverse.takeWhile isBlank).reverse := by
    unfold trim trimEnd dropEndWhile
    rw [← List.reverse_append, List.takeWhile_append_dropWhile, List.reverse_reverse]
  refine ⟨text.takeWhile isBlank, ((trimStart text).reverse.takeWhile isBlank).reverse, ?_, ?_, ?_, ?_⟩
  · rw [List.append_assoc, ← hend]
    exact hstart
  · have hlength := congrArg byteLength hstart
    rw [byteLength_append] at hlength
    omega
  · exact fun c hm => List.mem_takeWhile_imp hm
  · exact fun c hm => List.mem_takeWhile_imp (List.mem_reverse.mp hm)

/-- A text without blanks at its ends is a piece of the text. -/
theorem trim_piece (text : List Char) : trim text <:+: text := by
  obtain ⟨lead, trail, htext, -⟩ := exists_blanks text
  exact ⟨lead, trail, htext.symm⟩

/-- A piece that starts with a character other than a blank lies behind leading blanks. -/
theorem exists_behind {lead rest front behind : List Char} {c : Char}
    (hlead : ∀ c ∈ lead, isBlank c = true) (hc : isBlank c = false)
    (h : lead ++ rest = front ++ c :: behind) :
    ∃ front', front = lead ++ front' ∧ rest = front' ++ c :: behind := by
  rcases List.append_eq_append_iff.mp h with ⟨front', hfront, hrest⟩ | ⟨extra, hextra, hbehind⟩
  · exact ⟨front', hfront, hrest⟩
  · cases extra with
    | nil => exact ⟨[], by rw [hextra, List.append_nil, List.append_nil], hbehind.symm⟩
    | cons d extra =>
      -- the character would be one of the blanks
      obtain ⟨rfl, -⟩ := List.cons.inj hbehind
      have hblank := hlead c (by simp [hextra])
      rw [hc] at hblank
      cases hblank

/-- A piece that ends with a character other than a blank lies in front of trailing blanks. -/
theorem exists_before {text trail front behind : List Char} {c : Char}
    (htrail : ∀ c ∈ trail, isBlank c = true) (hc : isBlank c = false)
    (h : text ++ trail = front ++ c :: behind) : ∃ behind', text = front ++ c :: behind' := by
  rcases List.append_eq_append_iff.mp h with ⟨extra, hfront, hextra⟩ | ⟨behind', htext, hbehind⟩
  · have hblank := htrail c (by simp [hextra])
    rw [hc] at hblank
    cases hblank
  · cases behind' with
    | nil =>
      obtain rfl : trail = c :: behind := hbehind.symm
      have hblank := htrail c List.mem_cons_self
      rw [hc] at hblank
      cases hblank
    | cons d behind' =>
      obtain ⟨rfl, -⟩ := List.cons.inj hbehind
      exact ⟨behind', htext⟩

end MiniTemplate
