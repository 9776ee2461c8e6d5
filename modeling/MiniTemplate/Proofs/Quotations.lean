import MiniTemplate.Proofs.Sites
import MiniTemplate.Proofs.Splicing

/-!
# Where markup lies in the code around it

An expression quotes the script between its braces, without the blanks at the ends, and places the
markup in it at offsets from the start of this quotation. The blanks that are cut off have any length
and the markup may be anywhere, but it starts and ends with an angle bracket, which is no blank. So it
is never cut off, and a slice of the quotation at the offsets is the markup as it is written in the
script.
-/

namespace MiniTemplate

open Text Script

namespace Script

/-- A range of a text that starts with one character and ends with another. -/
def Span.Delimited (text : List Char) (first last : Char) (span : Span) : Prop :=
  ∃ inner, slice? span.start span.stop text = some (first :: (inner ++ [last]))

instance (text : List Char) (first last : Char) (span : Span) :
    Decidable (span.Delimited text first last) :=
  decidable_of_iff (∃ piece ∈ slice? span.start span.stop text,
      piece.head? = some first ∧ piece.tail.getLast? = some last) <| by
    constructor
    · rintro ⟨piece, hpiece, hfirst, hlast⟩
      obtain ⟨behind, rfl⟩ := List.head?_eq_some_iff.mp hfirst
      obtain ⟨inner, rfl⟩ := List.getLast?_eq_some_iff.mp hlast
      exact ⟨inner, hpiece⟩
    · rintro ⟨inner, hpiece⟩
      exact ⟨_, hpiece, rfl, by simp⟩

/-- Markup between braces: it starts and ends with angle brackets, lies inside of the braces, and each
piece of it ends before the next one starts. -/
structure Span.Braces (text : List Char) (span : Span) (markup : List Jsx) : Prop where
  /-- The braces. -/
  braces : span.Delimited text '{' '}'
  /-- The angle brackets. -/
  brackets : ∀ jsx ∈ markup, jsx.span.Delimited text '<' '>'
  /-- The markup is inside. -/
  inside : ∀ jsx ∈ markup, span.start < jsx.span.start ∧ jsx.span.stop < span.stop
  /-- The pieces come one behind the other. -/
  apart : markup.Pairwise fun a b => a.span.stop ≤ b.span.start

instance (text : List Char) (span : Span) (markup : List Jsx) : Decidable (span.Braces text markup) :=
  decidable_of_iff (span.Delimited text '{' '}' ∧ (∀ jsx ∈ markup, jsx.span.Delimited text '<' '>') ∧
      (∀ jsx ∈ markup, span.start < jsx.span.start ∧ jsx.span.stop < span.stop) ∧
      markup.Pairwise fun a b => a.span.stop ≤ b.span.start)
    ⟨fun ⟨hbraces, hbrackets, hinside, hapart⟩ => ⟨hbraces, hbrackets, hinside, hapart⟩,
      fun h => ⟨h.braces, h.brackets, h.inside, h.apart⟩⟩

/-- A site whose range is that of what it is in a text. -/
def Site.Spanned (text : List Char) : Site → Prop
  | .bare jsx => jsx.span.Delimited text '<' '>'
  | .child span term | .value span term => span.Braces text term.outermost
  | .markup _ | .text _ _ | .empty _ | .spreadAttribute _ | .spreadChild _ => True

instance (text : List Char) : (site : Site) → Decidable (site.Spanned text)
  | .bare jsx => inferInstanceAs (Decidable (jsx.span.Delimited text '<' '>'))
  | .child span term => inferInstanceAs (Decidable (span.Braces text term.outermost))
  | .value span term => inferInstanceAs (Decidable (span.Braces text term.outermost))
  | .markup _ | .text _ _ | .empty _ | .spreadAttribute _ | .spreadChild _ =>
    inferInstanceAs (Decidable True)

/-- A script whose ranges are those of a text with offsets of 32 bits. -/
structure Program.Spanned (program : Program) (text : List Char) : Prop where
  /-- Every site is where its range says. -/
  sites : ∀ site ∈ program.sites, site.Spanned text
  /-- Offsets have 32 bits. -/
  size : byteLength text ≤ maximalSize

end Script

/-! ### Quotations in a text -/

/-- A quotation whose markup lies in a text as it should. -/
structure Quote.Spanned (text : List Char) (quote : Quote) : Prop where
  /-- The quotation can be cut from the text. -/
  clean : (slice? quote.span.start quote.span.stop text).isSome
  /-- The angle brackets. -/
  brackets : ∀ jsx ∈ quote.markup, jsx.span.Delimited text '<' '>'
  /-- The markup is inside. -/
  inside : ∀ jsx ∈ quote.markup,
    quote.span.start ≤ jsx.span.start ∧ jsx.span.stop ≤ quote.span.stop
  /-- The pieces come one behind the other. -/
  apart : quote.markup.Pairwise fun a b => a.span.stop ≤ b.span.start

/-- What is between braces can be cut from the text, up to the braces. -/
theorem between_braces {text : List Char} {span : Span} (h : span.Delimited text '{' '}') :
    (slice? (Source.between span).start (Source.between span).stop text).isSome ∧
      (Source.between span).stop + 1 = span.stop := by
  obtain ⟨inner, hinner⟩ := h
  obtain ⟨front, rest, htext, hstart, hstop⟩ := slice?_eq_some_iff.mp hinner
  have hfirst : byteLength ['{'] = 1 := rfl
  have hlast : byteLength ['}'] = 1 := rfl
  have hopen : byteLength (front ++ ['{']) = span.start + 1 := by
    rw [byteLength_append, hstart, hfirst]
  have hclose : span.stop = span.start + 1 + byteLength inner + 1 := by
    rw [← hstop, ← List.singleton_append, ← List.append_assoc, byteLength_append, hopen,
      byteLength_append, hlast, ← Nat.add_assoc]
  have hmax : max (span.stop - 1) (span.start + 1) = span.start + 1 + byteLength inner := by omega
  unfold Source.between
  dsimp only
  rw [hmax]
  refine ⟨Option.isSome_iff_exists.mpr ⟨inner, slice?_eq_some_iff.mpr ?_⟩, hclose.symm⟩
  refine ⟨front ++ ['{'], '}' :: rest, by simp [htext], hopen, ?_⟩
  rw [byteLength_append, hopen]

/-- Sites that are where their ranges say quote the script as they should. -/
theorem Script.Site.Spanned.quote {text : List Char} {site : Site} {quote : Quote}
    (h : site.Spanned text) (hquote : site.quote? = some quote) : quote.Spanned text := by
  have hbraced : ∀ {span : Span} {term : Term}, span.Braces text term.outermost →
      Quote.Spanned text ⟨Source.between span, term.outermost⟩ := by
    intro span term hbraces
    obtain ⟨hclean, hstop⟩ := between_braces hbraces.braces
    refine ⟨hclean, hbraces.brackets, fun jsx hm => ?_, hbraces.apart⟩
    have hinside := hbraces.inside jsx hm
    have hstart : (Source.between span).start = span.start + 1 := rfl
    dsimp only
    omega
  cases site with
  | child span term =>
    obtain rfl := Option.some.inj hquote
    exact hbraced h
  | value span term =>
    obtain rfl := Option.some.inj hquote
    exact hbraced h
  | bare jsx =>
    obtain rfl := Option.some.inj hquote
    obtain ⟨inner, hinner⟩ := id h
    exact {
      clean := Option.isSome_iff_exists.mpr ⟨_, hinner⟩
      brackets := List.forall_mem_singleton.mpr h
      inside := List.forall_mem_singleton.mpr ⟨Nat.le_refl _, Nat.le_refl _⟩
      apart := List.pairwise_singleton _ _ }
  | markup jsx => cases hquote
  | text span raw => cases hquote
  | empty span => cases hquote
  | spreadAttribute span => cases hquote
  | spreadChild span => cases hquote

/-- Markup in a quotation is not cut off with the blanks at its ends: it is a piece of the code, at
its distance from where the code starts. -/
theorem Quote.Spanned.piece {source : Source} {quote : Quote} (h : quote.Spanned source.text)
    {jsx : Jsx} (hm : jsx ∈ quote.markup) :
    ∃ front piece rest, (source.trimmed quote.span).1.toList = front ++ piece ++ rest ∧ piece ≠ [] ∧
      slice? jsx.span.start jsx.span.stop source.text = some piece ∧
      (source.trimmed quote.span).2 + byteLength front = jsx.span.start ∧
      (source.trimmed quote.span).2 + byteLength (front ++ piece) = jsx.span.stop := by
  obtain ⟨raw, hraw⟩ := Option.isSome_iff_exists.mp h.clean
  obtain ⟨inner, hpiece⟩ := h.brackets jsx hm
  obtain ⟨hfirst, hlast⟩ := h.inside jsx hm
  obtain ⟨front, rest, hwithin, hstart⟩ := exists_within hraw hpiece hfirst hlast
  obtain ⟨lead, trail, htrim, hlead, hblank, hblank'⟩ := exists_blanks raw
  -- the first bracket is behind the leading blanks, the last one in front of the trailing ones
  have hopen : lead ++ (trim raw ++ trail) = front ++ '<' :: (inner ++ ['>'] ++ rest) := by
    rw [← List.append_assoc, ← htrim, hwithin]
    simp
  obtain ⟨front', rfl, hcode⟩ := exists_behind hblank (by decide) hopen
  have hclose : trim raw ++ trail = (front' ++ '<' :: inner) ++ '>' :: rest := by
    rw [hcode]
    simp
  obtain ⟨rest', hcode⟩ := exists_before hblank' (by decide) hclose
  have hbase : (source.trimmed quote.span).2 = quote.span.start + byteLength lead := by
    unfold Source.trimmed slice
    dsimp only
    rw [hraw, Option.getD_some, hlead]
  have hbase' : (source.trimmed quote.span).2 + byteLength front' = jsx.span.start := by
    rw [hbase, ← hstart, byteLength_append]
    omega
  refine ⟨front', '<' :: (inner ++ ['>']), rest', ?_, by simp, hpiece, hbase', ?_⟩
  · unfold Source.trimmed slice
    dsimp only
    rw [hraw, Option.getD_some, String.toList_ofList, hcode]
    simp
  · obtain ⟨before, behind, -, hbefore, hstop⟩ := slice?_eq_some_iff.mp hpiece
    rw [byteLength_append] at hstop ⊢
    omega

/-! ### Insets in their code -/

namespace Source

variable (source : Source)

/-- An inset that shows markup of the source where it stands in some code. -/
structure Shows (code : List Char) (inset : Inset) (jsx : Jsx) : Prop where
  /-- It is not empty. -/
  nonempty : inset.start < inset.stop
  /-- It ends with the code at the latest. -/
  inside : inset.stop.toNat ≤ byteLength code
  /-- Characters start, or the code ends, where it starts and stops. -/
  clean : (dropBytes? inset.start.toNat code).isSome ∧ (dropBytes? inset.stop.toNat code).isSome
  /-- The code says there what the source says at the markup. -/
  same : slice? inset.start.toNat inset.stop.toNat code =
    slice? jsx.span.start jsx.span.stop source.text
  /-- It is a fragment if the markup is. -/
  kind : inset.fragment = jsx.isFragment
  /-- It holds what the markup is read as. -/
  nodes : ∃ warnings warnings', source.nodes jsx warnings = .ok (inset.nodes, warnings')
  /-- If it is no fragment it holds one element, that of the markup. -/
  single : inset.fragment = false → ∃ element, inset.nodes = [.element element] ∧
    source.jsxFace? jsx = some (Node.element element).face

/-- An expression whose insets show the markup of a quotation in its code, one behind the other. -/
structure Locates (script : Expression) (quote : Quote) : Prop where
  /-- Each piece ends before the next one starts. -/
  apart : script.insets.Pairwise fun a b => a.stop ≤ b.start
  /-- Each is where the markup is written. -/
  pieces : List.Forall₂ (source.Shows script.code.toList) script.insets quote.markup

variable {source}

/-- An element is read as one element. -/
theorem nodes_single {jsx : Jsx} {nodes : List Node} {warnings warnings' : List Diagnostic}
    (h : source.nodes jsx warnings = .ok (nodes, warnings')) (hkind : jsx.isFragment = false) :
    ∃ element, nodes = [.element element] ∧
      source.jsxFace? jsx = some (Node.element element).face := by
  cases jsx with
  | fragment span children => cases hkind
  | element span tag attributes children =>
    have hgives : Gives (fun nodes => ∃ element, nodes = [.element element] ∧
        source.jsxFace? (.element span tag attributes children) = some (Node.element element).face)
        (source.nodes (.element span tag attributes children)) := by
      rw [Source.nodes]
      refine .bind (P := fun _ => True) (fun _ _ _ _ => trivial) fun attributes _ => ?_
      refine .bind (P := fun _ => True) (fun _ _ _ _ => trivial) fun children _ => ?_
      exact .pure ⟨_, rfl, rfl⟩
    exact hgives warnings nodes warnings' h

variable {quote : Quote} {inset : Inset} {jsx : Jsx}

/-- The offsets of an inset are those of its markup, from where the code starts. -/
theorem ReadAs.range (h : source.ReadAs (source.trimmed quote.span).2 inset jsx)
    (hsize : byteLength source.text ≤ maximalSize)
    (hspanned : quote.Spanned source.text) (hm : jsx ∈ quote.markup) :
    inset.range = ⟨jsx.span.start - (source.trimmed quote.span).2,
      jsx.span.stop - (source.trimmed quote.span).2⟩ := by
  obtain ⟨front, piece, rest, -, -, hpiece, hstart, hstop⟩ := hspanned.piece hm
  obtain ⟨before, behind, htext, -, hlast⟩ := slice?_eq_some_iff.mp hpiece
  have hbound : jsx.span.stop ≤ 4294967295 := by
    rw [htext, byteLength_append, hlast] at hsize
    exact (Nat.le_add_right _ _).trans hsize
  have hordered : jsx.span.start ≤ jsx.span.stop := by
    rw [byteLength_append] at hstop
    omega
  unfold Inset.range
  rw [h.1]
  unfold Source.inset
  dsimp only
  rw [UInt32.toNat_ofNat_of_lt', UInt32.toNat_ofNat_of_lt']
  · change _ < 4294967296
    omega
  · change _ < 4294967296
    omega

/-- An inset that was read from a quotation shows its markup. -/
theorem ReadAs.shows (h : source.ReadAs (source.trimmed quote.span).2 inset jsx)
    (hsize : byteLength source.text ≤ maximalSize)
    (hspanned : quote.Spanned source.text) (hm : jsx ∈ quote.markup) :
    source.Shows (source.trimmed quote.span).1.toList inset jsx := by
  obtain ⟨front, piece, rest, hcode, hsome, hpiece, hstart, hstop⟩ := hspanned.piece hm
  have hrange := h.range hsize hspanned hm
  have hfirst : inset.start.toNat = byteLength front := by
    have hfield := congrArg Span.start hrange
    dsimp only [Inset.range] at hfield
    omega
  have hlast : inset.stop.toNat = byteLength (front ++ piece) := by
    have hfield := congrArg Span.stop hrange
    dsimp only [Inset.range] at hfield
    omega
  have hcut : slice? inset.start.toNat inset.stop.toNat (source.trimmed quote.span).1.toList =
      some piece :=
    slice?_eq_some_iff.mpr ⟨front, rest, hcode, hfirst.symm, hlast.symm⟩
  have hclean := (isSome_slice?.mp (Option.isSome_iff_exists.mpr ⟨piece, hcut⟩)).2
  have hkind : inset.fragment = jsx.isFragment := by
    rw [h.1]
    rfl
  have hlength : 0 < byteLength piece :=
    (List.length_pos_iff.mpr hsome).trans_le (length_le_byteLength piece)
  refine ⟨?_, ?_, hclean, hcut.trans hpiece.symm, hkind, h.2, ?_⟩
  · rw [UInt32.lt_iff_toNat_lt, hfirst, hlast, byteLength_append]
    omega
  · rw [hlast, hcode, byteLength_append (front ++ piece)]
    omega
  · intro hfragment
    obtain ⟨warnings, warnings', hnodes⟩ := h.2
    exact nodes_single hnodes (hkind.symm.trans hfragment)

/-- An expression that was quoted from a script shows the markup of the quotation. -/
theorem Quotes.locates {script : Expression} (h : source.Quotes script quote)
    (hsize : byteLength source.text ≤ maximalSize) (hspanned : quote.Spanned source.text) :
    source.Locates script quote := by
  have hread : ∀ {inset jsx}, (inset, jsx) ∈ script.insets.zip quote.markup →
      jsx ∈ quote.markup ∧ source.ReadAs (source.trimmed quote.span).2 inset jsx :=
    fun hm => ⟨(List.of_mem_zip hm).2, List.forall₂_zip h.insets hm⟩
  have hpieces : List.Forall₂ (source.Shows script.code.toList) script.insets quote.markup := by
    rw [h.code]
    refine List.forall₂_iff_zip.mpr ⟨h.insets.length_eq, fun hm => ?_⟩
    obtain ⟨hmarkup, hinset⟩ := hread hm
    exact hinset.shows hsize hspanned hmarkup
  refine ⟨?_, hpieces⟩
  -- the order of the ranges is that of the markup
  have hranges : script.insets.map Inset.range = quote.markup.map fun jsx =>
      (⟨jsx.span.start - (source.trimmed quote.span).2,
        jsx.span.stop - (source.trimmed quote.span).2⟩ : Span) := by
    rw [← List.forall₂_eq_eq_eq, List.forall₂_map_left_iff, List.forall₂_map_right_iff]
    refine List.forall₂_iff_zip.mpr ⟨h.insets.length_eq, fun hm => ?_⟩
    obtain ⟨hmarkup, hinset⟩ := hread hm
    exact hinset.range hsize hspanned hmarkup
  have hapart : (script.insets.map Inset.range).Pairwise fun a b => a.stop ≤ b.start := by
    rw [hranges, List.pairwise_map]
    exact hspanned.apart.imp fun hle => Nat.sub_le_sub_right hle _
  exact List.pairwise_map.mp hapart

end Source

/-- In a script whose ranges are those of the source, the expressions of the document are quotations
from the source, one for one, and their insets show the markup in these: no two of them overlap, they
come in order, and each is as long as the markup and says the same. -/
theorem document_insets_located (source : Source) (program : Program) (document : Document)
    (warnings : List Diagnostic) (hspanned : program.Spanned source.text)
    (h : source.documentOf program = .ok (document, warnings)) :
    List.Forall₂ source.Locates (expressionsIn document.nodes)
      (program.sites.filterMap Site.quote?) := by
  have hquotes := (documentOf_mirrors h).quotes
  refine List.forall₂_iff_zip.mpr ⟨hquotes.length_eq, fun hm => ?_⟩
  obtain ⟨site, hsite, hquote⟩ := List.mem_filterMap.mp (List.of_mem_zip hm).2
  exact (List.forall₂_zip hquotes hm).locates hspanned.size ((hspanned.sites site hsite).quote hquote)

/-- A source whose braces hold blanks of several bytes, markup in markup, and a fragment. -/
def paddedSource : Source where
  path := "page.jsx"
  text := ("const é = <a b=\x7b\u3000ok ? <c/> : <>é</>\u00a0\x7d d=<e>\x7b <f/> \x7d</e>>" ++
    "\x7b\n  list.map(x => <g>\x7bx\x7d</g>)\n\x7d</a>;").toList

/-- The spans of the padded source are those of its text. -/
theorem paddedSource_spanned : paddedSource.program.Spanned paddedSource.text where
  sites := by decide +kernel
  size := by decide +kernel

/-- All five expressions of the source have their insets where the markup is. -/
theorem document_insets_located_padded :
    paddedSource.program.Spanned paddedSource.text ∧
    ∃ document warnings, paddedSource.documentOf paddedSource.program = .ok (document, warnings) ∧
      List.Forall₂ paddedSource.Locates (expressionsIn document.nodes)
        (paddedSource.program.sites.filterMap Site.quote?) ∧
      (expressionsIn document.nodes).map (fun script => (script.code, script.insets.map Inset.range)) =
        [("ok ? <c/> : <>é</>", [⟨5, 9⟩, ⟨12, 19⟩]), ("<e>\x7b <f/> \x7d</e>", [⟨0, 15⟩]),
          ("<f/>", [⟨0, 4⟩]), ("list.map(x => <g>\x7bx\x7d</g>)", [⟨14, 24⟩]), ("x", [])] := by
  have hsome : (paddedSource.documentOf paddedSource.program).toOption.map (fun step =>
      (expressionsIn step.1.nodes).map fun script => (script.code, script.insets.map Inset.range)) =
        some [("ok ? <c/> : <>é</>", [⟨5, 9⟩, ⟨12, 19⟩]), ("<e>\x7b <f/> \x7d</e>", [⟨0, 15⟩]),
          ("<f/>", [⟨0, 4⟩]), ("list.map(x => <g>\x7bx\x7d</g>)", [⟨14, 24⟩]), ("x", [])] := by
    decide +kernel
  cases hok : paddedSource.documentOf paddedSource.program with
  | error diagnostic =>
    rw [hok] at hsome
    cases hsome
  | ok step =>
    obtain ⟨document, warnings⟩ := step
    rw [hok] at hsome
    exact ⟨paddedSource_spanned, document, warnings, rfl, document_insets_located paddedSource _
      document warnings paddedSource_spanned hok, Option.some.inj hsome⟩

end MiniTemplate
