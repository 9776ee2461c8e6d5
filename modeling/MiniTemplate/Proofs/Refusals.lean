import MiniTemplate.Proofs.Sites

/-!
# What is refused, and what is only warned about

Reading a script ends in one of three ways, and its sites tell which: a spread anywhere in the markup
is refused, the first one where there are several; a script without markup is refused as a whole; any
other script becomes a document, with one warning for each pair of empty braces and no trace of them
in the tree.
-/

namespace MiniTemplate

open Text Script

namespace Script

/-- Whether attributes or children are spread at a site. -/
def Site.isSpread : Site → Bool
  | .spreadAttribute _ | .spreadChild _ => true
  | _ => false

/-- Whether a site is an element or a fragment. -/
def Site.isMarkup : Site → Bool
  | .markup _ | .bare _ => true
  | _ => false

/-- Whether a site is a pair of empty braces between tags. -/
def Site.isEmpty : Site → Bool
  | .empty _ => true
  | _ => false

/-- A script whose sub-nodes are visited in source order, each once. -/
def Program.InOrder (program : Program) : Prop :=
  program.sites.Pairwise fun a b => a.span.start < b.span.start

instance (program : Program) : Decidable program.InOrder :=
  inferInstanceAs (Decidable (program.sites.Pairwise fun a b => a.span.start < b.span.start))

mutual
/-- The sites of a term are its outermost markup, each piece before what is inside it. -/
theorem Term.sites_eq : ∀ term : Term,
    term.sites = term.outermost.flatMap fun jsx => .markup jsx :: jsx.inside
  | .this => by rw [Term.sites, Term.outermost, List.flatMap_nil]
  | .name _ => by rw [Term.sites, Term.outermost, List.flatMap_nil]
  | .member object _ => by rw [Term.sites, Term.outermost, object.sites_eq]
  | .call callee arguments => by
    rw [Term.sites, Term.outermost, List.flatMap_append, callee.sites_eq, sitesOfTerms_eq arguments]
  | .group inner => by rw [Term.sites, Term.outermost, inner.sites_eq]
  | .markup jsx => by rw [Term.sites, Term.outermost, List.flatMap_singleton]
  | .compound parts => by rw [Term.sites, Term.outermost, sitesOfTerms_eq parts]
/-- So are those of terms. -/
theorem sitesOfTerms_eq : ∀ terms : List Term,
    sitesOfTerms terms = (outermostOf terms).flatMap fun jsx => .markup jsx :: jsx.inside
  | [] => by rw [sitesOfTerms, outermostOf, List.flatMap_nil]
  | term :: rest => by
    rw [sitesOfTerms, outermostOf, List.flatMap_append, term.sites_eq, sitesOfTerms_eq rest]
end

/-- A script has markup exactly if it has outermost markup. -/
theorem Program.outermostOf_eq_nil_iff (program : Program) :
    outermostOf program.parts = [] ↔ ∀ site ∈ program.sites, site.isMarkup = false := by
  unfold Program.sites
  rw [sitesOfTerms_eq]
  cases outermostOf program.parts with
  | nil => simp
  | cons jsx rest =>
    constructor
    · exact fun h => by cases h
    · intro h
      have hfirst := h (.markup jsx) (List.mem_flatMap.mpr ⟨jsx, List.mem_cons_self, List.mem_cons_self⟩)
      cases hfirst

end Script

/-- Spreads are what cannot be read. -/
theorem isSome_refusal? (source : Source) (site : Site) :
    (source.refusal? site).isSome = site.isSpread := by
  cases site <;> rfl

/-- The complaint about a spread says where it is. -/
theorem refusal?_eq_some {source : Source} {site : Site} {diagnostic : Diagnostic}
    (h : source.refusal? site = some diagnostic) :
    site.isSpread = true ∧ diagnostic.code = "WX-ERR-SPREAD" ∧ diagnostic.file = source.path ∧
      diagnostic.position = positionAt source.text site.span.start := by
  have hspread : site.isSpread = true := by
    rw [← isSome_refusal? source, h]
    rfl
  cases site with
  | spreadAttribute span =>
    obtain rfl := Option.some.inj h
    exact ⟨rfl, rfl, rfl, rfl⟩
  | spreadChild span =>
    obtain rfl := Option.some.inj h
    exact ⟨rfl, rfl, rfl, rfl⟩
  | markup jsx => cases hspread
  | bare jsx => cases hspread
  | text span raw => cases hspread
  | child span term => cases hspread
  | value span term => cases hspread
  | empty span => cases hspread

/-- Nothing is refused if nothing is spread. -/
theorem findSome?_refusal?_eq_none {source : Source} {sites : List Site} :
    sites.findSome? source.refusal? = none ↔ ∀ site ∈ sites, site.isSpread = false := by
  rw [List.findSome?_eq_none_iff]
  refine forall₂_congr fun site _ => ?_
  rw [← isSome_refusal? source, Option.isSome_eq_false_iff, Option.isNone_iff_eq_none]

/-- The complaint about a script is about its first spread. -/
theorem findSome?_refusal?_eq_some {source : Source} {sites : List Site} {diagnostic : Diagnostic}
    (h : sites.findSome? source.refusal? = some diagnostic) :
    ∃ first, sites.find? Site.isSpread = some first ∧ source.refusal? first = some diagnostic := by
  obtain ⟨before, first, after, rfl, hfirst, hbefore⟩ := List.findSome?_eq_some_iff.mp h
  refine ⟨first, ?_, hfirst⟩
  rw [List.find?_eq_some_iff_append]
  refine ⟨(refusal?_eq_some hfirst).1, before, after, rfl, fun site hm => ?_⟩
  rw [← isSome_refusal? source, hbefore site hm]
  rfl

/-- The warnings of sites are those about empty braces. -/
theorem filterMap_warning? (source : Source) (sites : List Site) :
    sites.filterMap source.warning? =
      (sites.filter Site.isEmpty).map fun site => source.diagnose .emptyExpression site.span.start := by
  induction sites with
  | nil => rfl
  | cons site rest ih =>
    cases site with
    | empty span => exact congrArg (List.cons _) ih
    | _ => exact ih

/-- In a script that is visited in source order, the first spread that is met is the first one that
is written. -/
theorem Script.Program.InOrder.first_le {program : Program} (h : program.InOrder) {first : Site}
    (hfirst : program.sites.find? Site.isSpread = some first) :
    ∀ other ∈ program.sites, other.isSpread = true → first.span.start ≤ other.span.start := by
  obtain ⟨-, before, after, hsites, hbefore⟩ := List.find?_eq_some_iff_append.mp hfirst
  unfold Program.InOrder at h
  rw [hsites] at h ⊢
  intro other hm hspread
  rcases List.mem_append.mp hm with hm | hm
  · have hnot := hbefore other hm
    rw [hspread] at hnot
    cases hnot
  · rcases List.mem_cons.mp hm with rfl | hm
    · exact Nat.le_refl _
    · have hafter := (List.pairwise_cons.mp (List.pairwise_append.mp h).2.1).1 other hm
      omega

section Outcomes

variable {source : Source} {program : Program}

/-- A script with spreads is refused for the first one. -/
theorem documentOf_of_spread (h : ∃ site ∈ program.sites, site.isSpread = true) :
    ∃ first diagnostic, program.sites.find? Site.isSpread = some first ∧
      source.documentOf program = .error diagnostic ∧ diagnostic.code = "WX-ERR-SPREAD" ∧
      diagnostic.file = source.path ∧
      diagnostic.position = positionAt source.text first.span.start := by
  obtain ⟨site, hm, hspread⟩ := h
  cases hf : program.sites.findSome? source.refusal? with
  | none =>
    rw [findSome?_refusal?_eq_none.mp hf site hm] at hspread
    cases hspread
  | some diagnostic =>
    obtain ⟨first, hfind, hfirst⟩ := findSome?_refusal?_eq_some hf
    exact ⟨first, diagnostic, hfind, documentOf_refused hf, (refusal?_eq_some hfirst).2⟩

/-- A script without spreads is read as the roots of its markup, which there are if it has markup. -/
theorem documentOf_of_no_spread (h : ∀ site ∈ program.sites, site.isSpread = false) :
    ∃ roots, (roots.isEmpty = true ↔ ∀ site ∈ program.sites, site.isMarkup = false) ∧
      (nodesInInsets roots).map Node.face = program.sites.filterMap source.face? ∧
      source.documentOf program =
        if roots.isEmpty then .error (Cause.noMarkup.diagnose source.path .first)
        else .ok (⟨source.path, roots.flatMap Inset.nodes⟩,
          (program.sites.filter Site.isEmpty).map fun site =>
            source.diagnose .emptyExpression site.span.start) := by
  obtain ⟨roots, hmirrors, hroots, hdocument⟩ := documentOf_read (findSome?_refusal?_eq_none.mpr h)
  refine ⟨roots, ?_, hmirrors.faces, by rw [hdocument, filterMap_warning?]⟩
  rw [← program.outermostOf_eq_nil_iff, List.isEmpty_iff, ← List.length_eq_zero_iff,
    ← List.length_eq_zero_iff, hroots.length_eq]

end Outcomes

/-- How reading a script ends. It is refused for a spread exactly if there is one, and the complaint
is about the first. Without spreads it is refused for lack of markup exactly if it has none. With
markup and without spreads it becomes a document, and there is one warning for each pair of empty
braces, in their order; the nodes of the document are those of the other sites, one for one. -/
theorem document_refusals (source : Source) (program : Program) :
    ((∃ diagnostic, source.documentOf program = .error diagnostic ∧
        diagnostic.code = "WX-ERR-SPREAD") ↔ ∃ site ∈ program.sites, site.isSpread = true) ∧
    (∀ diagnostic, source.documentOf program = .error diagnostic →
      diagnostic.code = "WX-ERR-SPREAD" →
        ∃ first, program.sites.find? Site.isSpread = some first ∧ diagnostic.file = source.path ∧
          diagnostic.position = positionAt source.text first.span.start ∧
          (program.InOrder → ∀ other ∈ program.sites, other.isSpread = true →
            first.span.start ≤ other.span.start)) ∧
    ((∀ site ∈ program.sites, site.isSpread = false) →
      ((∃ diagnostic, source.documentOf program = .error diagnostic ∧
          diagnostic.code = "WX-ERR-NO-JSX") ↔ ∀ site ∈ program.sites, site.isMarkup = false) ∧
      ((∃ site ∈ program.sites, site.isMarkup = true) →
        ∃ document, source.documentOf program = .ok (document,
            (program.sites.filter Site.isEmpty).map fun site =>
              source.diagnose .emptyExpression site.span.start) ∧
          (program.InOrder → (program.sites.filter Site.isEmpty).Pairwise fun a b =>
            a.span.start < b.span.start) ∧
          (nodesIn document.nodes).map Node.face = program.sites.filterMap source.face?)) := by
  by_cases hspread : ∃ site ∈ program.sites, site.isSpread = true
  · obtain ⟨first, diagnostic, hfind, hrefused, hcode, hfile, hposition⟩ :=
      documentOf_of_spread hspread
    refine ⟨⟨fun _ => hspread, fun _ => ⟨diagnostic, hrefused, hcode⟩⟩, ?_, ?_⟩
    · intro other hother _
      rw [hrefused] at hother
      obtain rfl := Except.error.inj hother
      exact ⟨first, hfind, hfile, hposition, fun horder => horder.first_le hfind⟩
    · intro hnone
      obtain ⟨site, hm, hsome⟩ := hspread
      rw [hnone site hm] at hsome
      cases hsome
  · have hnone : ∀ site ∈ program.sites, site.isSpread = false := by
      simpa only [not_exists, not_and, Bool.not_eq_true] using hspread
    obtain ⟨roots, hempty, hfaces, hdocument⟩ := documentOf_of_no_spread hnone
    -- the only complaint left is about a script without markup
    have herror : ∀ diagnostic, source.documentOf program = .error diagnostic →
        roots.isEmpty = true ∧ diagnostic.code = "WX-ERR-NO-JSX" := by
      intro diagnostic hd
      rw [hdocument] at hd
      split at hd
      · rename_i hroots
        obtain rfl := Except.error.inj hd
        exact ⟨hroots, rfl⟩
      · cases hd
    have hother : ∀ diagnostic, source.documentOf program = .error diagnostic →
        diagnostic.code ≠ "WX-ERR-SPREAD" := by
      intro diagnostic hd
      rw [(herror diagnostic hd).2]
      decide
    refine ⟨⟨?_, fun h => absurd h hspread⟩, ?_, fun _ => ⟨⟨?_, ?_⟩, ?_⟩⟩
    · rintro ⟨diagnostic, hd, hcode⟩
      exact absurd hcode (hother diagnostic hd)
    · intro diagnostic hd hcode
      exact absurd hcode (hother diagnostic hd)
    · rintro ⟨diagnostic, hd, -⟩
      exact hempty.mp (herror diagnostic hd).1
    · intro hmarkup
      rw [hdocument, if_pos (hempty.mpr hmarkup)]
      exact ⟨_, rfl, rfl⟩
    · rintro ⟨site, hm, hmarkup⟩
      have hsome : ¬ roots.isEmpty = true := by
        intro hroots
        rw [hempty.mp hroots site hm] at hmarkup
        cases hmarkup
      rw [hdocument, if_neg hsome]
      refine ⟨_, rfl, fun horder => List.Pairwise.filter _ horder, ?_⟩
      rw [nodesIn_collects.flatMap]
      exact hfaces

/-- A source with spreads at three depths, the first of them inside an expression. -/
def spreadSource : Source where
  path := "page.jsx"
  text := ("const é = <a>\x7b\x7d\x7bok && f(<b c=<i \x7b...x\x7d/>/>)\x7d\n" ++
    "<>\x7b...y\x7d</></a>, z = <d \x7b...w\x7d/>;").toList

/-- A source with empty braces outside and inside an expression. -/
def hollowSource : Source where
  path := "page.jsx"
  text := "const é = <a>\x7b/* b */\x7d\n\x7bok && <c>\x7b\x7d d</c>\x7d</a>;".toList

/-- The first of three spreads is refused, and two pairs of empty braces are warned about. -/
theorem document_refusals_spread :
    (spreadSource.program.InOrder ∧ hollowSource.program.InOrder) ∧
    (∃ diagnostic, spreadSource.documentOf spreadSource.program = .error diagnostic ∧
      diagnostic.code = "WX-ERR-SPREAD" ∧ diagnostic.position = ⟨1, 33⟩ ∧
      ∀ other ∈ spreadSource.program.sites, other.isSpread = true → 33 ≤ other.span.start) ∧
    ∃ document warnings, hollowSource.documentOf hollowSource.program = .ok (document, warnings) ∧
      warnings.map (fun warning => (warning.code, warning.position)) =
        [("WX-WARN-EMPTY-EXPRESSION", ⟨1, 14⟩), ("WX-WARN-EMPTY-EXPRESSION", ⟨2, 11⟩)] ∧
      (nodesIn document.nodes).map Node.face = [(.element "a", ⟨1, 11⟩),
        (.expression "ok && <c>\x7b\x7d d</c>", ⟨2, 1⟩), (.element "c", ⟨2, 8⟩),
        (.text " d", ⟨2, 13⟩)] := by
  have hspread : spreadSource.program.InOrder := by decide +kernel
  have hhollow : hollowSource.program.InOrder := by decide +kernel
  obtain ⟨hiff, hfirst, -⟩ := document_refusals spreadSource spreadSource.program
  obtain ⟨-, -, hread⟩ := document_refusals hollowSource hollowSource.program
  refine ⟨⟨hspread, hhollow⟩, ?_, ?_⟩
  · obtain ⟨diagnostic, herror, hcode⟩ := hiff.mpr (by decide +kernel)
    obtain ⟨first, hfind, -, hposition, hleast⟩ := hfirst diagnostic herror hcode
    have hstart : (spreadSource.program.sites.find? Site.isSpread).map (·.span.start) = some 33 := by
      decide +kernel
    rw [hfind] at hstart
    have hstart : first.span.start = 33 := Option.some.inj hstart
    rw [hstart] at hposition hleast
    refine ⟨diagnostic, herror, hcode, hposition.trans ?_, hleast hspread⟩
    decide +kernel
  · obtain ⟨-, hmarkup⟩ := hread (by decide +kernel)
    obtain ⟨document, hok, -, hfaces⟩ := hmarkup (by decide +kernel)
    refine ⟨document, _, hok, ?_, hfaces.trans ?_⟩
    · decide +kernel
    · decide +kernel

end MiniTemplate
