import MiniTemplate.Text.Flow
import MiniTemplate.Proofs.Positions
import Mathlib.Data.List.DropRight

/-!
# Layout of text between tags

Blanks where a line meets a line break are layout, so that more of them there change nothing,
whether they indent the next line or are carriage returns of the line before. What remains of a
text is one line. The texts that stay as they are are those of one line with no carriage return at
the end, and what remains of any text is one of these.
-/

namespace MiniTemplate

open Text

/-! ### Lines -/

theorem lines_eq_splitOn (text : List Char) : lines text = text.splitOn '\n' :=
  eq_splitOn rfl (fun _ _ => rfl) text

/-- There is always a line, if an empty one. -/
theorem lines_ne_nil (text : List Char) : lines text ≠ [] := by
  rw [lines_eq_splitOn]
  exact List.splitOn_ne_nil '\n' text

/-- A line feed ends the lines in front of it. -/
theorem lines_feed (front rest : List Char) :
    lines (front ++ '\n' :: rest) = lines front ++ lines rest := by
  simp only [lines_eq_splitOn, List.splitOn_append_cons_self]

/-- A text without a line feed is one line. -/
theorem lines_of_no_feed {line : List Char} (h : '\n' ∉ line) : lines line = [line] := by
  rw [lines_eq_splitOn, List.splitOn_eq_singleton h]

/-- What stands behind the last line feed is the last line. -/
theorem lines_last {before : List Char} (hends : EndsLine before) :
    ∃ above, ∀ line, '\n' ∉ line → lines (before ++ line) = above ++ [line] := by
  rcases hends with rfl | ⟨text, rfl⟩
  · exact ⟨[], fun line h => lines_of_no_feed h⟩
  · refine ⟨lines text, fun line h => ?_⟩
    rw [List.append_assoc, List.singleton_append, lines_feed, lines_of_no_feed h]

/-- What is put in front of a text without a line feed becomes a part of its first line. -/
theorem lines_first (rest : List Char) :
    ∃ line below, lines rest = line :: below ∧
      ∀ start, '\n' ∉ start → lines (start ++ rest) = (start ++ line) :: below := by
  obtain ⟨line, below, hrest⟩ := List.exists_cons_of_ne_nil (lines_ne_nil rest)
  refine ⟨line, below, hrest, fun start h => ?_⟩
  induction start with
  | nil => exact hrest
  | cons c cs ih =>
    rw [List.mem_cons, not_or] at h
    rw [List.cons_append, lines, ih h.2, if_neg (Ne.symm h.1), List.cons_append]

/-- Lines have no line feed in them. -/
theorem feed_not_mem_lines (text : List Char) : ∀ line ∈ lines text, '\n' ∉ line := by
  induction text with
  | nil => simp [lines]
  | cons c cs ih =>
    obtain ⟨line, below, hcs⟩ := List.exists_cons_of_ne_nil (lines_ne_nil cs)
    rw [lines]
    by_cases hc : c = '\n'
    · rw [if_pos hc, List.forall_mem_cons]
      exact ⟨List.not_mem_nil, ih⟩
    · rw [hcs, List.forall_mem_cons] at ih
      rw [if_neg hc, hcs, List.forall_mem_cons, List.mem_cons, not_or]
      exact ⟨⟨Ne.symm hc, ih.1⟩, ih.2⟩

/-! ### Trimming -/

/-- Whether a first character is kept from the end depends on whether anything behind it is. -/
theorem dropEndWhile_cons (p : Char → Bool) (c : Char) (cs : List Char) :
    dropEndWhile p (c :: cs) =
      if dropEndWhile p cs = [] ∧ p c = true then [] else c :: dropEndWhile p cs := by
  unfold dropEndWhile
  rw [List.reverse_cons, List.dropWhile_append]
  by_cases hcs : cs.reverse.dropWhile p = []
  · by_cases hc : p c = true <;> simp [hcs, hc]
  · simp [hcs]

/-- Dropping characters at the end twice is dropping them once, if those dropped first would have
been dropped anyway. -/
theorem dropEndWhile_dropEndWhile {p q : Char → Bool} (hpq : ∀ c, p c = true → q c = true)
    (text : List Char) : dropEndWhile q (dropEndWhile p text) = dropEndWhile q text := by
  unfold dropEndWhile
  rw [List.reverse_reverse]
  congr 1
  have hsplit := List.takeWhile_append_dropWhile (p := p) (l := text.reverse)
  have hdropped : ∀ c ∈ text.reverse.takeWhile p, q c = true :=
    fun c hm => hpq c (List.mem_takeWhile_imp hm)
  rw [← List.dropWhile_append_of_pos hdropped, hsplit]

/-- Characters that are dropped from the end may as well not be there. -/
theorem dropEndWhile_append {p : Char → Bool} {tail : List Char} (h : ∀ c ∈ tail, p c = true)
    (text : List Char) : dropEndWhile p (text ++ tail) = dropEndWhile p text := by
  unfold dropEndWhile
  rw [List.reverse_append, List.dropWhile_append_of_pos]
  exact fun c hm => h c (List.mem_reverse.mp hm)

/-- A text can be trimmed at its start before or after blanks at its end are dropped. -/
theorem trimStart_dropEndWhile {p : Char → Bool} (hp : ∀ c, p c = true → isBlank c = true)
    (text : List Char) : trimStart (dropEndWhile p text) = dropEndWhile p (trimStart text) := by
  unfold trimStart
  induction text with
  | nil => rfl
  | cons c cs ih =>
    by_cases hc : isBlank c = true
    · -- the blank goes in either order
      rw [List.dropWhile_cons_of_pos hc, ← ih, dropEndWhile_cons]
      split
      · rename_i hempty
        rw [hempty.1]
      · rw [List.dropWhile_cons_of_pos hc]
    · -- trimming stops here, and so does dropping
      have hstays : ¬ (dropEndWhile p cs = [] ∧ p c = true) := fun h => hc (hp c h.2)
      rw [List.dropWhile_cons_of_neg hc, dropEndWhile_cons, if_neg hstays,
        List.dropWhile_cons_of_neg hc]

/-- A carriage return is blank. -/
theorem isBlank_of_return (c : Char) (h : (c == '\r') = true) : isBlank c = true := by
  rw [beq_iff_eq.mp h]
  decide

/-- The order in which a line is trimmed does not matter: its start comes first as well as last,
and carriage returns are dropped with the other blanks. -/
theorem trimLine_eq (first last : Bool) (line : List Char) :
    trimLine first last line =
      dropEndWhile (if last then (· == '\r') else isBlank)
        (if first then line else trimStart line) := by
  unfold trimLine trimEnd
  cases first <;> cases last
  · simp [trimStart_dropEndWhile isBlank_of_return, dropEndWhile_dropEndWhile isBlank_of_return]
  · simp [trimStart_dropEndWhile isBlank_of_return]
  · simp [dropEndWhile_dropEndWhile isBlank_of_return]
  · simp

/-- Blanks at the end of a line in front of a line break are layout. -/
theorem trimLine_append_blanks (first : Bool) {blanks : List Char}
    (h : ∀ c ∈ blanks, isBlank c = true) (line : List Char) :
    trimLine first false (line ++ blanks) = trimLine first false line := by
  rw [trimLine_eq, trimLine_eq]
  cases first
  · simp [← trimStart_dropEndWhile (fun _ h => h), dropEndWhile_append h]
  · simp [dropEndWhile_append h]

/-- Blanks at the start of a line behind a line break are layout. -/
theorem trimLine_blanks_append (last : Bool) {blanks : List Char}
    (h : ∀ c ∈ blanks, isBlank c = true) (line : List Char) :
    trimLine false last (blanks ++ line) = trimLine false last line := by
  have hstart : trimStart (blanks ++ line) = trimStart line := List.dropWhile_append_of_pos h
  simp only [trimLine_eq, Bool.false_eq_true, if_false, hstart]

/-- A trimmed line is what is left of the line. -/
theorem trimLine_sublist (first last : Bool) (line : List Char) :
    (trimLine first last line).Sublist line := by
  have hend := fun (p : Char → Bool) (text : List Char) => (text.rdropWhile_prefix p).sublist
  rw [trimLine_eq]
  cases first
  · exact (hend _ _).trans (List.dropWhile_sublist _)
  · exact hend _ _

/-- A trimmed line does not end in a carriage return. -/
theorem trimLine_getLast? (first last : Bool) (line : List Char) :
    (trimLine first last line).getLast? ≠ some '\r' := by
  rw [trimLine_eq]
  intro h
  have hdropped := List.head?_dropWhile_not (if last then (· == '\r') else isBlank)
    (if first then line else trimStart line).reverse
  unfold dropEndWhile at h
  rw [List.getLast?_reverse] at h
  rw [h] at hdropped
  cases last <;> simp [isBlank] at hdropped

/-- A line that is not the last is trimmed as such, and those below it as lines below a first. -/
theorem trimLines_cons (first : Bool) (line : List Char) {below : List (List Char)}
    (h : below ≠ []) :
    trimLines first (line :: below) = trimLine first false line :: trimLines false below := by
  obtain ⟨next, rest, rfl⟩ := List.exists_cons_of_ne_nil h
  rfl

/-- A line counts only by what is left of it when it is trimmed as its place asks. -/
theorem trimLines_congr {first : Bool} {above below : List (List Char)} {line line' : List Char}
    (h : trimLine (first && above.isEmpty) below.isEmpty line =
      trimLine (first && above.isEmpty) below.isEmpty line') :
    trimLines first (above ++ line :: below) = trimLines first (above ++ line' :: below) := by
  induction above generalizing first with
  | nil =>
    cases below with
    | nil => simpa [trimLines] using h
    | cons next rest => simpa [trimLines] using h
  | cons top above ih =>
    rw [List.cons_append, List.cons_append, trimLines_cons _ _ (by simp),
      trimLines_cons _ _ (by simp)]
    congr 1
    exact ih (by simpa using h)

/-- A trimmed line is one of the lines, trimmed in some way. -/
theorem exists_line_of_mem_trimLines {first : Bool} {text : List (List Char)} {line : List Char}
    (h : line ∈ trimLines first text) :
    ∃ first last, ∃ full ∈ text, line = trimLine first last full := by
  induction text generalizing first with
  | nil => cases h
  | cons top below ih =>
    cases below with
    | nil =>
      exact ⟨first, true, top, List.mem_cons_self, List.mem_singleton.mp h⟩
    | cons next rest =>
      rcases List.mem_cons.mp h with rfl | h
      · exact ⟨first, false, top, List.mem_cons_self, rfl⟩
      · obtain ⟨first, last, full, hm, he⟩ := ih h
        exact ⟨first, last, full, List.mem_cons_of_mem _ hm, he⟩

/-! ### What remains of a text -/

/-- Joined lines consist of the characters of the lines and of the spaces between them. -/
theorem mem_joinLines {text : List (List Char)} {c : Char} (h : c ∈ joinLines text) :
    c = ' ' ∨ ∃ line ∈ text, c ∈ line := by
  induction text with
  | nil => cases h
  | cons line below ih =>
    cases below with
    | nil => exact .inr ⟨line, List.mem_cons_self, h⟩
    | cons next rest =>
      simp only [joinLines, List.mem_append, List.mem_cons] at h
      rcases h with h | rfl | h
      · exact .inr ⟨line, List.mem_cons_self, h⟩
      · exact .inl rfl
      · obtain hspace | ⟨line', hm, hc⟩ := ih h
        · exact .inl hspace
        · exact .inr ⟨line', List.mem_cons_of_mem _ hm, hc⟩

/-- Joined lines end in no carriage return if none of the lines does. -/
theorem joinLines_getLast? {text : List (List Char)}
    (h : ∀ line ∈ text, line.getLast? ≠ some '\r') :
    (joinLines text).getLast? ≠ some '\r' := by
  induction text with
  | nil => simp [joinLines]
  | cons line below ih =>
    cases below with
    | nil => exact h line List.mem_cons_self
    | cons next rest =>
      have hbelow := ih fun line hm => h line (List.mem_cons_of_mem _ hm)
      change (line ++ ' ' :: joinLines (next :: rest)).getLast? ≠ some '\r'
      rw [List.getLast?_append, List.getLast?_cons]
      cases hlast : (joinLines (next :: rest)).getLast? with
      | none => simp
      | some c =>
        rw [hlast] at hbelow
        simpa using hbelow

/-- What remains of a text has no line feeds. -/
theorem feed_not_mem_flow (text : List Char) : '\n' ∉ flow text := by
  intro h
  obtain hspace | ⟨line, hm, hc⟩ := mem_joinLines h
  · cases hspace
  · obtain ⟨first, last, full, hfull, rfl⟩ :=
      exists_line_of_mem_trimLines (List.mem_of_mem_filter hm)
    exact feed_not_mem_lines text full hfull ((trimLine_sublist first last full).subset hc)

/-- What remains of a text does not end in a carriage return. -/
theorem flow_getLast? (text : List Char) : (flow text).getLast? ≠ some '\r' := by
  refine joinLines_getLast? fun line hm => ?_
  obtain ⟨first, last, full, -, rfl⟩ := exists_line_of_mem_trimLines (List.mem_of_mem_filter hm)
  exact trimLine_getLast? first last full

/-- A single line loses its carriage returns at the end and nothing else. -/
theorem flow_of_no_feed {line : List Char} (h : '\n' ∉ line) :
    flow line = dropEndWhile (· == '\r') line := by
  have htrim : trimLine true true line = dropEndWhile (· == '\r') line := rfl
  rw [flow, lines_of_no_feed h, trimLines, htrim]
  cases dropEndWhile (· == '\r') line <;> simp [joinLines]

/-- The texts that stay as they are. -/
theorem flow_eq_self_iff {text : List Char} :
    flow text = text ↔ '\n' ∉ text ∧ text.getLast? ≠ some '\r' := by
  constructor
  · intro h
    rw [← h]
    exact ⟨feed_not_mem_flow text, flow_getLast? text⟩
  · rintro ⟨hfeed, hreturn⟩
    rw [flow_of_no_feed hfeed]
    refine List.rdropWhile_eq_self_iff.mpr fun hne hlast => hreturn ?_
    rw [List.getLast?_eq_some_getLast hne, beq_iff_eq.mp hlast]

/-- Blanks that can be put around a line feed without adding a line. -/
def IsIndent (blanks : List Char) : Prop := ∀ c ∈ blanks, isBlank c = true ∧ c ≠ '\n'

instance (blanks : List Char) : Decidable (IsIndent blanks) :=
  List.decidableBAll (fun c => isBlank c = true ∧ c ≠ '\n') blanks

theorem IsIndent.blank {blanks : List Char} (h : IsIndent blanks) :
    ∀ c ∈ blanks, isBlank c = true := fun c hm => (h c hm).1

theorem IsIndent.feed_not_mem {blanks : List Char} (h : IsIndent blanks) : '\n' ∉ blanks :=
  fun hm => (h _ hm).2 rfl

/-- Blanks in front of a line feed do not show. -/
theorem flow_blanks_before {blanks : List Char} (h : IsIndent blanks) (front rest : List Char) :
    flow (front ++ blanks ++ '\n' :: rest) = flow (front ++ '\n' :: rest) := by
  obtain ⟨before, line, rfl, hends, hline⟩ := exists_line front
  obtain ⟨above, habove⟩ := lines_last hends
  have hlonger : '\n' ∉ line ++ blanks := by
    rw [List.mem_append, not_or]
    exact ⟨hline, h.feed_not_mem⟩
  have hbelow : (lines rest).isEmpty = false := by simp [lines_ne_nil]
  unfold flow
  rw [lines_feed, lines_feed, List.append_assoc, habove _ hlonger, habove _ hline,
    List.append_assoc, List.append_assoc, List.singleton_append, List.singleton_append]
  congr 2
  refine trimLines_congr ?_
  rw [hbelow]
  exact trimLine_append_blanks _ h.blank line

/-- Blanks behind a line feed do not show. -/
theorem flow_blanks_behind {blanks : List Char} (h : IsIndent blanks) (front rest : List Char) :
    flow (front ++ '\n' :: (blanks ++ rest)) = flow (front ++ '\n' :: rest) := by
  obtain ⟨line, below, hrest, hindented⟩ := lines_first rest
  have habove : (lines front).isEmpty = false := by simp [lines_ne_nil]
  unfold flow
  rw [lines_feed, lines_feed, hindented blanks h.feed_not_mem, hrest]
  congr 2
  refine trimLines_congr ?_
  rw [habove, Bool.and_false]
  exact trimLine_blanks_append _ h.blank line

/-- A text laid out anew: some of its line feeds have got blanks around them. -/
inductive Relaid : List Char → List Char → Prop
  /-- An empty text. -/
  | nil : Relaid [] []
  /-- A character that stays where it is. -/
  | cons (c : Char) {text text' : List Char} (h : Relaid text text') :
    Relaid (c :: text) (c :: text')
  /-- A line feed with blanks on both sides. -/
  | feed {before behind text text' : List Char} (hbefore : IsIndent before)
    (hbehind : IsIndent behind) (h : Relaid text text') :
    Relaid ('\n' :: text) (before ++ '\n' :: (behind ++ text'))

/-- Laying out the end of a text anew changes nothing, whatever stands in front. -/
theorem Relaid.flow_append {text text' : List Char} (h : Relaid text text') (front : List Char) :
    flow (front ++ text') = flow (front ++ text) := by
  induction h generalizing front with
  | nil => rfl
  | cons c h ih =>
    have hfront := ih (front ++ [c])
    rwa [List.append_assoc, List.append_assoc] at hfront
  | @feed before behind text text' hbefore hbehind h ih =>
    calc
      flow (front ++ (before ++ '\n' :: (behind ++ text')))
        = flow (front ++ before ++ '\n' :: (behind ++ text')) := by rw [List.append_assoc]
      _ = flow (front ++ '\n' :: (behind ++ text')) := flow_blanks_before hbefore _ _
      _ = flow (front ++ '\n' :: text') := flow_blanks_behind hbehind _ _
      _ = flow (front ++ ['\n'] ++ text') := by rw [List.append_assoc, List.singleton_append]
      _ = flow (front ++ '\n' :: text) := by
        rw [ih, List.append_assoc, List.singleton_append]

/-- A text with a carriage return in front of every line feed. -/
def withReturns (text : List Char) : List Char :=
  text.flatMap fun c => if c = '\n' then ['\r', '\n'] else [c]

/-- Writing a carriage return in front of every line feed changes the layout only. -/
theorem relaid_withReturns (text : List Char) : Relaid text (withReturns text) := by
  induction text with
  | nil => exact .nil
  | cons c cs ih =>
    rw [withReturns, List.flatMap_cons]
    by_cases hc : c = '\n'
    · rw [if_pos hc, hc]
      change Relaid ('\n' :: cs) (['\r'] ++ '\n' :: ([] ++ withReturns cs))
      exact .feed (by decide) (by decide) ih
    · rw [if_neg hc]
      exact .cons c ih

/-- What remains of a text between tags does not depend on its layout. It is one line, and stays as
it is, as do exactly the lines that do not end in a carriage return. Blanks put in front of or
behind a line feed are passed over, so that a text can be indented anew, and its lines be ended by
carriage returns and line feeds. -/
theorem collapse_ignores_layout (text : String) :
    '\n' ∉ (collapse text).toList ∧
      collapse (collapse text) = collapse text ∧
      (collapse text = text ↔ '\n' ∉ text.toList ∧ text.toList.getLast? ≠ some '\r') ∧
      (∀ front rest blanks : String, text = front ++ "\n" ++ rest → IsIndent blanks.toList →
        collapse (front ++ blanks ++ "\n" ++ rest) = collapse text ∧
          collapse (front ++ "\n" ++ blanks ++ rest) = collapse text) ∧
      (∀ text' : String, Relaid text.toList text'.toList → collapse text' = collapse text) ∧
      collapse (String.ofList (withReturns text.toList)) = collapse text := by
  have hfixed : ∀ text : String,
      collapse text = text ↔ '\n' ∉ text.toList ∧ text.toList.getLast? ≠ some '\r' := by
    intro text
    rw [← flow_eq_self_iff, collapse, ← String.toList_inj, String.toList_ofList]
  have hrelaid : ∀ text' : String, Relaid text.toList text'.toList →
      collapse text' = collapse text := by
    intro text' h
    exact congrArg String.ofList (h.flow_append [])
  refine ⟨?_, ?_, hfixed text, ?_, hrelaid, hrelaid _ ?_⟩
  · rw [collapse, String.toList_ofList]
    exact feed_not_mem_flow text.toList
  · rw [hfixed, collapse, String.toList_ofList]
    exact ⟨feed_not_mem_flow text.toList, flow_getLast? text.toList⟩
  · rintro front rest blanks rfl hblanks
    have hfeed : "\n".toList = ['\n'] := rfl
    have hbefore := congrArg String.ofList (flow_blanks_before hblanks front.toList rest.toList)
    have hbehind := congrArg String.ofList (flow_blanks_behind hblanks front.toList rest.toList)
    constructor
    · simpa [collapse, hfeed] using hbefore
    · simpa [collapse, hfeed] using hbehind
  · rw [String.toList_ofList]
    exact relaid_withReturns text.toList

/-- A no-break space and a carriage return around the first line feed, in a text with an empty line
and blanks at both ends. -/
theorem collapse_ignores_layout_padded :
    IsIndent "\u00a0\r".toList ∧
      collapse (" a\r" ++ "\u00a0\r" ++ "\n" ++ "\n\t b \r") = " a b " ∧
      collapse (" a\r" ++ "\n" ++ "\u00a0\r" ++ "\n\t b \r") = " a b " := by
  have hindent : IsIndent "\u00a0\r".toList := by decide
  obtain ⟨-, -, -, hinsert, -⟩ := collapse_ignores_layout " a\r\n\n\t b \r"
  obtain ⟨hbefore, hbehind⟩ := hinsert " a\r" "\n\t b \r" "\u00a0\r" (by decide) hindent
  have hplain : collapse " a\r\n\n\t b \r" = " a b " := by decide
  exact ⟨hindent, hbefore.trans hplain, hbehind.trans hplain⟩

end MiniTemplate
