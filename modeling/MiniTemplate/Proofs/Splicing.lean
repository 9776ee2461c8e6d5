import MiniTemplate.Template.Printer
import MiniTemplate.Script.Tree
import MiniTemplate.Proofs.Slices
import Mathlib.Data.List.Basic

/-!
# What splicing keeps of the code

The code of an expression is written with the current form of every inset in place of the range the
inset names. Ranges come from outside and may be anything: they may overlap, be out of order, end
behind the code or cut a character in two. Whatever they are, the code is kept in slices that never go
back, so no byte of it is written twice. Where the ranges are those of pieces that lie in order in the
code, exactly what is outside of them is kept.
-/

namespace MiniTemplate

open Text Script

/-! ### Kept slices -/

/-- Pieces and texts in turn, a piece first. -/
def weave : List String → List String → String
  | pieces, [] => String.join pieces
  | [], text :: texts => text ++ weave [] texts
  | piece :: pieces, text :: texts => piece ++ text ++ weave pieces texts

/-- The range that is kept between a cursor and an offset: the whole of it if it can be cut from the
code, else nothing, at the end of what was kept before. -/
def keptSpan (code : List Char) (last cursor stop : Nat) : Span :=
  if (slice? cursor stop code).isSome then ⟨cursor, stop⟩ else ⟨last, last⟩

/-- The ranges of the code that are kept from a cursor on when others are replaced. -/
def keptSpans (code : List Char) : Nat → Nat → List Span → List Span
  | last, cursor, [] => [keptSpan code last cursor (byteLength code)]
  | last, cursor, range :: rest =>
    let cut := keptSpan code last cursor range.start
    cut :: keptSpans code cut.stop (max cursor range.stop) rest

/-- The text of a range of code. -/
def Script.Span.piece (code : List Char) (span : Span) : String :=
  String.ofList (slice span.start span.stop code)

/-- The range that a patch replaces. -/
def Patch.range (patch : Patch) : Span := ⟨patch.start, patch.stop⟩

variable {code : List Char}

/-- The piece of a span that is kept is a slice of the code, also where the span is empty. -/
theorem piece_keptSpan (last cursor stop : Nat) :
    (keptSpan code last cursor stop).piece code = String.ofList (slice cursor stop code) := by
  unfold keptSpan Span.piece
  split
  · rfl
  · rename_i hnone
    have hslice : slice cursor stop code = [] := by
      unfold slice
      rw [Option.not_isSome_iff_eq_none.mp hnone, Option.getD_none]
    rw [hslice, slice_self code]

/-- Splicing writes the kept slices and the texts in turn. -/
theorem splice_eq_weave (last cursor : Nat) (patches : List Patch) :
    splice code cursor patches =
      weave ((keptSpans code last cursor (patches.map Patch.range)).map (Span.piece code))
        (patches.map Patch.text) := by
  induction patches generalizing last cursor with
  | nil =>
    rw [splice, sliceFrom_eq_slice]
    simp [keptSpans, weave, piece_keptSpan]
  | cons patch rest ih =>
    rw [splice, ih (keptSpan code last cursor patch.start).stop]
    simp [keptSpans, weave, piece_keptSpan, Patch.range]

/-- Between and around ranges, one span more than there are ranges is kept. -/
theorem length_keptSpans (last cursor : Nat) (ranges : List Span) :
    (keptSpans code last cursor ranges).length = ranges.length + 1 := by
  induction ranges generalizing last cursor with
  | nil => rfl
  | cons range rest ih => simp [keptSpans, ih]

/-- What is kept between a cursor and an offset can be cut from the code. -/
theorem isSome_keptSpan {last : Nat} (hlast : (dropBytes? last code).isSome) (cursor stop : Nat) :
    (slice? (keptSpan code last cursor stop).start (keptSpan code last cursor stop).stop
      code).isSome := by
  unfold keptSpan
  split
  · assumption
  · exact isSome_slice?.mpr ⟨Nat.le_refl _, hlast, hlast⟩

/-- Every kept range can be cut from the code. -/
theorem isSome_keptSpans {last : Nat} (hlast : (dropBytes? last code).isSome) (cursor : Nat)
    (ranges : List Span) :
    ∀ cut ∈ keptSpans code last cursor ranges, (slice? cut.start cut.stop code).isSome := by
  induction ranges generalizing last cursor with
  | nil => exact List.forall_mem_singleton.mpr (isSome_keptSpan hlast _ _)
  | cons range rest ih =>
    have hcut := isSome_keptSpan hlast cursor range.start
    exact List.forall_mem_cons.mpr ⟨hcut, ih (isSome_slice?.mp hcut).2.2 _⟩

/-- What is kept between a cursor and an offset starts behind what was kept before, and ends no
further than the two of them. -/
theorem keptSpan_bounds (code : List Char) {last cursor : Nat} (hle : last ≤ cursor) (stop : Nat) :
    last ≤ (keptSpan code last cursor stop).start ∧
      (keptSpan code last cursor stop).start ≤ (keptSpan code last cursor stop).stop ∧
      (keptSpan code last cursor stop).stop ≤ max cursor stop := by
  unfold keptSpan
  split
  · rename_i hsome
    have hordered := (isSome_slice?.mp hsome).1
    dsimp only
    omega
  · dsimp only
    omega

/-- The kept ranges never go back. -/
theorem pairwise_keptSpans {last cursor : Nat} (hle : last ≤ cursor) {ranges : List Span}
    (hordered : ∀ range ∈ ranges, range.start ≤ range.stop) :
    (∀ cut ∈ keptSpans code last cursor ranges, last ≤ cut.start) ∧
      (keptSpans code last cursor ranges).Pairwise fun a b => a.stop ≤ b.start := by
  induction ranges generalizing last cursor with
  | nil =>
    have hbounds := keptSpan_bounds code hle (byteLength code)
    exact ⟨List.forall_mem_singleton.mpr hbounds.1, List.pairwise_singleton _ _⟩
  | cons range rest ih =>
    have hrange := hordered range List.mem_cons_self
    obtain ⟨hfirst, hcut, hstop⟩ := keptSpan_bounds code hle range.start
    -- the cursor has passed what was kept, since the range ends no earlier than it starts
    have hnext : (keptSpan code last cursor range.start).stop ≤ max cursor range.stop := by omega
    obtain ⟨hbehind, hrest⟩ := ih hnext fun other hm => hordered other (List.mem_cons_of_mem _ hm)
    refine ⟨List.forall_mem_cons.mpr ⟨hfirst, fun cut hm => ?_⟩, List.pairwise_cons.mpr ⟨hbehind, hrest⟩⟩
    have hle' := hbehind cut hm
    omega

/-! ### Ranges in order -/

/-- What lies between ranges, from a cursor to an end. -/
def gaps (cursor : Nat) (ranges : List Span) (size : Nat) : List Span :=
  List.zipWith Span.mk (cursor :: ranges.map Span.stop) (ranges.map Span.start ++ [size])

theorem gaps_nil (cursor size : Nat) : gaps cursor [] size = [⟨cursor, size⟩] := rfl

theorem gaps_cons (cursor : Nat) (range : Span) (rest : List Span) (size : Nat) :
    gaps cursor (range :: rest) size = ⟨cursor, range.start⟩ :: gaps range.stop rest size := rfl

/-- Whether a range holds the byte at an offset. -/
def Script.Span.Covers (span : Span) (offset : Nat) : Prop :=
  span.start ≤ offset ∧ offset < span.stop

/-- Ranges of code that can be cut from it and lie one behind the other, from a cursor on. -/
structure InOrder (code : List Char) (cursor : Nat) (ranges : List Span) : Prop where
  /-- A character starts, or the code ends, at the cursor. -/
  clean : (dropBytes? cursor code).isSome
  /-- The ranges start behind the cursor. -/
  behind : ∀ range ∈ ranges, cursor ≤ range.start
  /-- They are in order, and characters start, or the code ends, where they start and stop. -/
  cuts : ∀ range ∈ ranges, (slice? range.start range.stop code).isSome
  /-- Each ends before the next one starts. -/
  apart : ranges.Pairwise fun a b => a.stop ≤ b.start

namespace InOrder

variable {cursor : Nat} {range : Span} {rest : List Span}

/-- The ranges behind the first one are in order from its end on. -/
theorem tail (h : InOrder code cursor (range :: rest)) : InOrder code range.stop rest where
  clean := (isSome_slice?.mp (h.cuts range List.mem_cons_self)).2.2
  behind := (List.pairwise_cons.mp h.apart).1
  cuts other hm := h.cuts other (List.mem_cons_of_mem _ hm)
  apart := (List.pairwise_cons.mp h.apart).2

/-- What lies in front of the first range can be cut from the code. -/
theorem isSome_front (h : InOrder code cursor (range :: rest)) :
    (slice? cursor range.start code).isSome :=
  isSome_slice?.mpr ⟨h.behind range List.mem_cons_self, h.clean,
    (isSome_slice?.mp (h.cuts range List.mem_cons_self)).2.1⟩

/-- Everything between the ranges is kept. -/
theorem keptSpans_eq {ranges : List Span} (h : InOrder code cursor ranges) (last : Nat) :
    keptSpans code last cursor ranges = gaps cursor ranges (byteLength code) := by
  induction ranges generalizing last cursor with
  | nil =>
    have hend : (slice? cursor (byteLength code) code).isSome := by
      obtain ⟨behind, hbehind⟩ := Option.isSome_iff_exists.mp h.clean
      obtain ⟨front, hfront, hlength⟩ := exists_front hbehind
      refine Option.isSome_iff_exists.mpr ⟨behind, slice?_eq_some_iff.mpr ?_⟩
      exact ⟨front, [], by rw [List.append_nil, hfront], hlength, by rw [hfront]⟩
    rw [gaps_nil, keptSpans, keptSpan, if_pos hend]
  | cons range rest ih =>
    have hcursor := h.behind range List.mem_cons_self
    have hrange := (isSome_slice?.mp (h.cuts range List.mem_cons_self)).1
    have hmax : max cursor range.stop = range.stop := by omega
    rw [gaps_cons, keptSpans, keptSpan, if_pos h.isSome_front, hmax, ih h.tail]

/-- The gaps come behind the cursor too. -/
theorem le_start_of_mem_gaps {ranges : List Span} (h : InOrder code cursor ranges) (size : Nat) :
    ∀ gap ∈ gaps cursor ranges size, cursor ≤ gap.start := by
  induction ranges generalizing cursor with
  | nil => exact List.forall_mem_singleton.mpr (Nat.le_refl _)
  | cons range rest ih =>
    refine List.forall_mem_cons.mpr ⟨Nat.le_refl _, fun gap hm => ?_⟩
    have hcursor := h.behind range List.mem_cons_self
    have hrange := (isSome_slice?.mp (h.cuts range List.mem_cons_self)).1
    have hgap := ih h.tail gap hm
    omega

/-- A byte lies between the ranges exactly if it lies in none of them. -/
theorem covers_gaps_iff {ranges : List Span} (h : InOrder code cursor ranges) {size offset : Nat}
    (hcursor : cursor ≤ offset) (hsize : offset < size) :
    (∃ gap ∈ gaps cursor ranges size, gap.Covers offset) ↔
      ¬ ∃ range ∈ ranges, range.Covers offset := by
  induction ranges generalizing cursor with
  | nil =>
    rw [gaps_nil]
    simp [Span.Covers, hcursor, hsize]
  | cons range rest ih =>
    have hrange := (isSome_slice?.mp (h.cuts range List.mem_cons_self)).1
    rw [gaps_cons, List.exists_mem_cons_iff, List.exists_mem_cons_iff]
    by_cases hbefore : offset < range.stop
    · -- every later range and gap starts behind the byte
      have hgaps : ¬ ∃ gap ∈ gaps range.stop rest size, gap.Covers offset := by
        rintro ⟨gap, hm, hcovers⟩
        have hbehind := h.tail.le_start_of_mem_gaps size gap hm
        have hstart := hcovers.1
        omega
      have hranges : ¬ ∃ other ∈ rest, other.Covers offset := by
        rintro ⟨other, hm, hcovers⟩
        have hbehind := h.tail.behind other hm
        have hstart := hcovers.1
        omega
      rw [or_iff_left hgaps, or_iff_left hranges]
      unfold Span.Covers
      dsimp only
      omega
    · -- the first gap and the first range end in front of it
      have hgap : ¬ Span.Covers ⟨cursor, range.start⟩ offset := by
        rintro ⟨-, hstop⟩
        dsimp only at hstop
        omega
      have hfirst : ¬ range.Covers offset := fun hcovers => hbefore hcovers.2
      rw [or_iff_right hgap, or_iff_right hfirst]
      exact ih h.tail (by omega)

end InOrder

/-! ### Insets -/

/-- The range of an inset in the code around it. -/
def Inset.range (inset : Inset) : Span := ⟨inset.start.toNat, inset.stop.toNat⟩

/-- An inset in source notation: its nodes, between the tags of a fragment if it is one. -/
def Inset.text (inset : Inset) : String :=
  if inset.fragment then "<>" ++ nodesSource inset.nodes ++ "</>" else nodesSource inset.nodes

/-- Each inset is a patch of its range by its own text. -/
theorem insetPatches_eq (insets : List Inset) :
    insetPatches insets =
      insets.map fun inset => ⟨inset.start.toNat, inset.stop.toNat, inset.text⟩ := by
  induction insets with
  | nil => rfl
  | cons inset rest ih =>
    obtain ⟨start, stop, fragment, nodes⟩ := inset
    rw [insetPatches, ih]
    rfl

/-- The code of an expression is written as slices of its text, in turn with its insets. -/
theorem source_eq_weave (code : String) (insets : List Inset) (position : Position) :
    Expression.source ⟨code, insets, position⟩ =
      weave ((keptSpans code.toList 0 0 (insets.map Inset.range)).map (Span.piece code.toList))
        (insets.map Inset.text) := by
  unfold Expression.source
  dsimp only
  rw [insetPatches_eq, splice_eq_weave 0 0, List.map_map, List.map_map]
  rfl

/-- The code of an expression is written as its insets, in their order, between slices of its text.
The slices follow from the text and the ranges of the insets alone, whatever the insets hold, and each
lies behind the one before. If the ranges lie in order in the text and cut no character in two, the
slices are what lies between them, so that every byte outside of the ranges is kept. -/
theorem source_keeps_code (code : String) (insets : List Inset)
    (hordered : ∀ inset ∈ insets, inset.start ≤ inset.stop) :
    ∃ cuts : List Span,
      cuts.length = insets.length + 1 ∧
      (∀ cut ∈ cuts, (slice? cut.start cut.stop code.toList).isSome) ∧
      cuts.Pairwise (fun a b => a.stop ≤ b.start) ∧
      (∀ insets' position, insets'.map Inset.range = insets.map Inset.range →
        Expression.source ⟨code, insets', position⟩ =
          weave (cuts.map (Span.piece code.toList)) (insets'.map Inset.text)) ∧
      (insets.Pairwise (fun a b => a.stop ≤ b.start) →
        (∀ inset ∈ insets, (dropBytes? inset.start.toNat code.toList).isSome ∧
          (dropBytes? inset.stop.toNat code.toList).isSome) →
        cuts = gaps 0 (insets.map Inset.range) (byteLength code.toList) ∧
          ∀ offset < byteLength code.toList, (∃ cut ∈ cuts, cut.Covers offset) ↔
            ¬ ∃ inset ∈ insets, inset.range.Covers offset) := by
  have hstart : (dropBytes? 0 code.toList).isSome := by simp [dropBytes?]
  have hranges : ∀ range ∈ insets.map Inset.range, range.start ≤ range.stop :=
    List.forall_mem_map.mpr hordered
  refine ⟨keptSpans code.toList 0 0 (insets.map Inset.range), ?_, isSome_keptSpans hstart 0 _,
    (pairwise_keptSpans (Nat.le_refl 0) hranges).2, ?_, ?_⟩
  · rw [length_keptSpans, List.length_map]
  · intro insets' position hsame
    rw [source_eq_weave, hsame]
  · intro hapart hclean
    have hinorder : InOrder code.toList 0 (insets.map Inset.range) := by
      refine ⟨hstart, fun range _ => Nat.zero_le _, ?_, List.pairwise_map.mpr hapart⟩
      refine List.forall_mem_map.mpr fun inset hm => isSome_slice?.mpr ?_
      exact ⟨hordered inset hm, hclean inset hm⟩
    rw [hinorder.keptSpans_eq]
    refine ⟨rfl, fun offset hsize => ?_⟩
    rw [hinorder.covers_gaps_iff (Nat.zero_le _) hsize]
    simp only [List.mem_map, exists_exists_and_eq_and]

/-- Code with an element and a fragment in it, behind a character of two bytes. -/
def splicedCode : String := "é && <a/> || <></>"

/-- What has become of the element and the fragment. -/
def splicedInsets : List Inset :=
  [⟨6, 10, false, [.element ⟨"c", [.marker "d"], [], .unknown⟩]⟩, ⟨14, 19, true, [.text ⟨"e", .unknown⟩]⟩]

/-- All of the code around the two is kept. -/
theorem source_keeps_code_spliced :
    (∀ inset ∈ splicedInsets, inset.start ≤ inset.stop) ∧
      Expression.source ⟨splicedCode, splicedInsets, .unknown⟩ = "é && <c d /> || <>e</>" := by
  have hordered : ∀ inset ∈ splicedInsets, inset.start ≤ inset.stop := by decide
  obtain ⟨cuts, -, -, -, hsource, hgaps⟩ := source_keeps_code splicedCode splicedInsets hordered
  obtain ⟨rfl, -⟩ := hgaps (by decide) (by decide)
  refine ⟨hordered, (hsource splicedInsets .unknown rfl).trans ?_⟩
  decide

/-- Ranges that overlap and cut a character in two leave out what is not cut cleanly; a range that
ends before it starts would make code come twice. -/
example :
    Expression.source ⟨"é && b", [⟨1, 4, false, []⟩, ⟨3, 5, false, []⟩], .unknown⟩ = " b" ∧
      Expression.source ⟨"a && b", [⟨4, 0, false, []⟩], .unknown⟩ = "a &&a && b" := by
  decide

end MiniTemplate
