import MiniTemplate.Proofs.Positions
import MiniTemplate.Proofs.Sites

/-!
# Every element of a script is read once

Reading a document goes back and forth between markup and script: it stops at the outermost
markup of a script, and looks for markup again inside the expressions of that markup. Nothing is
passed over on the way, and nothing comes twice: the elements of the document, listed in their
order, are those of the script, with their tags and positions. If the ranges of markup lie inside
each other and side by side as they do in a text, then the positions ascend.
-/

namespace MiniTemplate

open Text Script

namespace Script

/-- An element of a script as it is found there. -/
structure Found where
  /-- The range it occupies. -/
  span : Span
  /-- Its name. -/
  name : TagName
deriving DecidableEq, Repr

mutual
/-- Every element of markup: an element comes before those in its attributes, and these before
those below its children. -/
def Jsx.elements : Jsx → List Found
  | .element span tag attributes children =>
    ⟨span, tag⟩ :: (elementsOfAttributes attributes ++ elementsOfChildren children)
  | .fragment _ children => elementsOfChildren children
/-- Every element of attributes. -/
def elementsOfAttributes : List JsxAttribute → List Found
  | [] => []
  | .named _ _ value :: rest => JsxValue.elements value ++ elementsOfAttributes rest
  | .spread _ term :: rest => Term.elements term ++ elementsOfAttributes rest
/-- Every element of the value of an attribute. -/
def JsxValue.elements : JsxValue → List Found
  | .absent | .quoted _ => []
  | .container _ term => Term.elements term
  | .markup jsx => Jsx.elements jsx
/-- Every element of children. -/
def elementsOfChildren : List JsxChild → List Found
  | [] => []
  | .text _ _ :: rest => elementsOfChildren rest
  | .markup jsx :: rest => Jsx.elements jsx ++ elementsOfChildren rest
  | .container _ term :: rest => Term.elements term ++ elementsOfChildren rest
  | .empty _ :: rest => elementsOfChildren rest
  | .spread _ term :: rest => Term.elements term ++ elementsOfChildren rest
/-- Every element of a term. -/
def Term.elements : Term → List Found
  | .this | .name _ => []
  | .member object _ => Term.elements object
  | .call callee arguments => Term.elements callee ++ elementsOfTerms arguments
  | .group inner => Term.elements inner
  | .markup jsx => Jsx.elements jsx
  | .compound parts => elementsOfTerms parts
/-- Every element of terms. -/
def elementsOfTerms : List Term → List Found
  | [] => []
  | term :: rest => Term.elements term ++ elementsOfTerms rest
end

/-- Every element of a script. -/
def Program.elements (program : Program) : List Found := elementsOfTerms program.parts

/-- The end of a range, if it starts no earlier than an offset and reaches as far as what is
inside. -/
def Span.close? (span : Span) (offset : Nat) (inside : Option Nat) : Option Nat :=
  inside.bind fun reached =>
    if offset ≤ span.start ∧ reached ≤ span.stop then some span.stop else none

mutual
/-- The offset behind markup, if it starts no earlier than an offset and the markup inside it comes
behind its first byte, in order, and no further than its end. -/
def Jsx.reach? : Nat → Jsx → Option Nat
  | offset, .element span _ attributes children =>
    span.close? offset <| (reachAttributes? (span.start + 1) attributes).bind fun reached =>
      reachChildren? reached children
  | offset, .fragment span children =>
    span.close? offset (reachChildren? (span.start + 1) children)
/-- The offset behind the markup of attributes, if it comes in order behind an offset. -/
def reachAttributes? : Nat → List JsxAttribute → Option Nat
  | offset, [] => some offset
  | offset, .named _ _ value :: rest =>
    (JsxValue.reach? offset value).bind fun reached => reachAttributes? reached rest
  | offset, .spread _ term :: rest =>
    (Term.reach? offset term).bind fun reached => reachAttributes? reached rest
/-- The offset behind the markup of the value of an attribute. -/
def JsxValue.reach? : Nat → JsxValue → Option Nat
  | offset, .absent | offset, .quoted _ => some offset
  | offset, .container _ term => Term.reach? offset term
  | offset, .markup jsx => Jsx.reach? offset jsx
/-- The offset behind the markup of children. -/
def reachChildren? : Nat → List JsxChild → Option Nat
  | offset, [] => some offset
  | offset, .text _ _ :: rest => reachChildren? offset rest
  | offset, .markup jsx :: rest =>
    (Jsx.reach? offset jsx).bind fun reached => reachChildren? reached rest
  | offset, .container _ term :: rest =>
    (Term.reach? offset term).bind fun reached => reachChildren? reached rest
  | offset, .empty _ :: rest => reachChildren? offset rest
  | offset, .spread _ term :: rest =>
    (Term.reach? offset term).bind fun reached => reachChildren? reached rest
/-- The offset behind the markup of a term. -/
def Term.reach? : Nat → Term → Option Nat
  | offset, .this | offset, .name _ => some offset
  | offset, .member object _ => Term.reach? offset object
  | offset, .call callee arguments =>
    (Term.reach? offset callee).bind fun reached => reachTerms? reached arguments
  | offset, .group inner => Term.reach? offset inner
  | offset, .markup jsx => Jsx.reach? offset jsx
  | offset, .compound parts => reachTerms? offset parts
/-- The offset behind the markup of terms. -/
def reachTerms? : Nat → List Term → Option Nat
  | offset, [] => some offset
  | offset, term :: rest =>
    (Term.reach? offset term).bind fun reached => reachTerms? reached rest
end

/-- A script whose ranges are those of markup in a text: they are nested and ordered as the markup
is, elements start where characters do, and offsets have 32 bits. -/
structure Program.WellSpanned (program : Program) (text : List Char) : Prop where
  /-- The markup comes in order and ends with the text at the latest. -/
  ordered : ∃ reached ∈ reachTerms? 0 program.parts, reached ≤ byteLength text
  /-- A character starts at each element. -/
  starts : ∀ found ∈ program.elements, (dropBytes? found.span.start text).isSome
  /-- Offsets have 32 bits. -/
  size : byteLength text ≤ maximalSize

/-- Elements that start one after another, from an offset on and before another one. -/
structure Ascending (first last : Nat) (elements : List Found) : Prop where
  /-- The offsets are in order. -/
  le : first ≤ last
  /-- The elements start between them. -/
  bounds : ∀ found ∈ elements, first ≤ found.span.start ∧ found.span.start < last
  /-- Each starts behind those before it. -/
  pairwise : elements.Pairwise fun a b => a.span.start < b.span.start

namespace Ascending

variable {first middle last : Nat} {elements elements' : List Found}

theorem nil (first : Nat) : Ascending first first [] :=
  ⟨Nat.le_refl first, by simp, List.Pairwise.nil⟩

/-- Elements that ascend from where others end ascend with them. -/
theorem append (h : Ascending first middle elements) (h' : Ascending middle last elements') :
    Ascending first last (elements ++ elements') where
  le := h.le.trans h'.le
  bounds found hm := by
    have hle := h.le
    have hle' := h'.le
    rcases List.mem_append.mp hm with hm | hm
    · have hbounds := h.bounds found hm
      omega
    · have hbounds := h'.bounds found hm
      omega
  pairwise := by
    refine List.pairwise_append.mpr ⟨h.pairwise, h'.pairwise, fun a ha b hb => ?_⟩
    have hbounds := h.bounds a ha
    have hbounds' := h'.bounds b hb
    omega

/-- The elements inside markup, and the markup itself if it is an element, start one after another
within its range. -/
theorem close {span : Span} {offset : Nat} {inside : Option Nat}
    (h : span.close? offset inside = some last)
    (hinside : ∀ reached, inside = some reached → Ascending (span.start + 1) reached elements)
    (name : TagName) :
    Ascending offset last elements ∧ Ascending offset last (⟨span, name⟩ :: elements) := by
  obtain ⟨reached, hr, hclose⟩ := Option.bind_eq_some_iff.mp h
  split at hclose
  · rename_i hle
    obtain rfl := Option.some.inj hclose
    have hin := hinside reached hr
    have hreached := hin.le
    have hopen : span.start < span.stop := by omega
    have hbounds : ∀ found ∈ elements, span.start < found.span.start ∧
        found.span.start < span.stop := by
      intro found hm
      have hfound := hin.bounds found hm
      omega
    refine ⟨⟨by omega, fun found hm => ?_, hin.pairwise⟩, ⟨by omega, ?_, ?_⟩⟩
    · have hfound := hbounds found hm
      omega
    · refine List.forall_mem_cons.mpr ⟨⟨hle.1, hopen⟩, fun found hm => ?_⟩
      have hfound := hbounds found hm
      omega
    · exact List.pairwise_cons.mpr ⟨fun found hm => (hbounds found hm).1, hin.pairwise⟩
  · cases hclose

/-- One thing after another: what `bind` reaches. -/
theorem bind {reach : Option Nat} {next : Nat → Option Nat} (h : reach.bind next = some last)
    (hfirst : ∀ reached, reach = some reached → Ascending first reached elements)
    (hnext : ∀ reached, next reached = some last → Ascending reached last elements') :
    Ascending first last (elements ++ elements') := by
  obtain ⟨reached, hr, hn⟩ := Option.bind_eq_some_iff.mp h
  exact (hfirst reached hr).append (hnext reached hn)

end Ascending

mutual
/-- The elements of markup start one after another. -/
theorem Jsx.ascending : ∀ (jsx : Jsx) (offset last : Nat), jsx.reach? offset = some last →
    Ascending offset last jsx.elements
  | .element span tag attributes children, offset, last, h => by
    rw [Jsx.reach?] at h
    rw [Jsx.elements]
    refine (Ascending.close h (fun reached hr => ?_) tag).2
    exact .bind hr (fun _ => ascending_attributes attributes _ _)
      fun _ => ascending_children children _ _
  | .fragment span children, offset, last, h => by
    rw [Jsx.reach?] at h
    rw [Jsx.elements]
    exact (Ascending.close h (fun _ => ascending_children children _ _) .this).1
/-- So do those of attributes. -/
theorem ascending_attributes : ∀ (attributes : List JsxAttribute) (offset last : Nat),
    reachAttributes? offset attributes = some last →
      Ascending offset last (elementsOfAttributes attributes)
  | [], offset, last, h => by
    rw [reachAttributes?] at h
    obtain rfl := Option.some.inj h
    exact .nil _
  | .named _ _ value :: rest, offset, last, h => by
    rw [reachAttributes?] at h
    rw [elementsOfAttributes]
    exact .bind h (fun _ => value.ascending _ _) fun _ => ascending_attributes rest _ _
  | .spread _ term :: rest, offset, last, h => by
    rw [reachAttributes?] at h
    rw [elementsOfAttributes]
    exact .bind h (fun _ => term.ascending _ _) fun _ => ascending_attributes rest _ _
/-- So do those of the value of an attribute. -/
theorem JsxValue.ascending : ∀ (value : JsxValue) (offset last : Nat),
    value.reach? offset = some last → Ascending offset last value.elements
  | .absent, offset, last, h => by
    rw [JsxValue.reach?] at h
    obtain rfl := Option.some.inj h
    exact .nil _
  | .quoted _, offset, last, h => by
    rw [JsxValue.reach?] at h
    obtain rfl := Option.some.inj h
    exact .nil _
  | .container _ term, offset, last, h => by
    rw [JsxValue.reach?] at h
    exact term.ascending offset last h
  | .markup jsx, offset, last, h => by
    rw [JsxValue.reach?] at h
    exact jsx.ascending offset last h
/-- So do those of children. -/
theorem ascending_children : ∀ (children : List JsxChild) (offset last : Nat),
    reachChildren? offset children = some last →
      Ascending offset last (elementsOfChildren children)
  | [], offset, last, h => by
    rw [reachChildren?] at h
    obtain rfl := Option.some.inj h
    exact .nil _
  | .text _ _ :: rest, offset, last, h => by
    rw [reachChildren?] at h
    exact ascending_children rest offset last h
  | .markup jsx :: rest, offset, last, h => by
    rw [reachChildren?] at h
    rw [elementsOfChildren]
    exact .bind h (fun _ => jsx.ascending _ _) fun _ => ascending_children rest _ _
  | .container _ term :: rest, offset, last, h => by
    rw [reachChildren?] at h
    rw [elementsOfChildren]
    exact .bind h (fun _ => term.ascending _ _) fun _ => ascending_children rest _ _
  | .empty _ :: rest, offset, last, h => by
    rw [reachChildren?] at h
    exact ascending_children rest offset last h
  | .spread _ term :: rest, offset, last, h => by
    rw [reachChildren?] at h
    rw [elementsOfChildren]
    exact .bind h (fun _ => term.ascending _ _) fun _ => ascending_children rest _ _
/-- So do those of a term. -/
theorem Term.ascending : ∀ (term : Term) (offset last : Nat), term.reach? offset = some last →
    Ascending offset last term.elements
  | .this, offset, last, h => by
    rw [Term.reach?] at h
    obtain rfl := Option.some.inj h
    exact .nil _
  | .name _, offset, last, h => by
    rw [Term.reach?] at h
    obtain rfl := Option.some.inj h
    exact .nil _
  | .member object _, offset, last, h => by
    rw [Term.reach?] at h
    exact object.ascending offset last h
  | .call callee arguments, offset, last, h => by
    rw [Term.reach?] at h
    rw [Term.elements]
    exact .bind h (fun _ => callee.ascending _ _) fun _ => ascending_terms arguments _ _
  | .group inner, offset, last, h => by
    rw [Term.reach?] at h
    exact inner.ascending offset last h
  | .markup jsx, offset, last, h => by
    rw [Term.reach?] at h
    exact jsx.ascending offset last h
  | .compound parts, offset, last, h => by
    rw [Term.reach?] at h
    exact ascending_terms parts offset last h
/-- So do those of terms. -/
theorem ascending_terms : ∀ (terms : List Term) (offset last : Nat),
    reachTerms? offset terms = some last → Ascending offset last (elementsOfTerms terms)
  | [], offset, last, h => by
    rw [reachTerms?] at h
    obtain rfl := Option.some.inj h
    exact .nil _
  | term :: rest, offset, last, h => by
    rw [reachTerms?] at h
    rw [elementsOfTerms]
    exact .bind h (fun _ => term.ascending _ _) fun _ => ascending_terms rest _ _
end

/-- The element that markup is. -/
def Jsx.found? : Jsx → Option Found
  | .element span tag _ _ => some ⟨span, tag⟩
  | .fragment _ _ => none

/-- The element that is found at a site. -/
def Site.found? : Site → Option Found
  | .markup jsx | .bare jsx => jsx.found?
  | _ => none

mutual
/-- The elements of markup are found at its sites. -/
theorem Jsx.elements_eq : ∀ jsx : Jsx,
    jsx.elements = (Site.markup jsx :: jsx.inside).filterMap Site.found?
  | .element span tag attributes children => by
    simp [Jsx.elements, Jsx.inside, Site.found?, Jsx.found?, elementsOfAttributes_eq attributes,
      elementsOfChildren_eq children]
  | .fragment span children => by
    simp [Jsx.elements, Jsx.inside, List.filterMap_cons, Site.found?, Jsx.found?,
      elementsOfChildren_eq children]
/-- So are those of attributes. -/
theorem elementsOfAttributes_eq : ∀ attributes : List JsxAttribute,
    elementsOfAttributes attributes = (sitesOfAttributes attributes).filterMap Site.found?
  | [] => by rw [elementsOfAttributes, sitesOfAttributes, List.filterMap_nil]
  | .named _ _ value :: rest => by
    rw [elementsOfAttributes, sitesOfAttributes, List.filterMap_append, value.elements_eq,
      elementsOfAttributes_eq rest]
  | .spread _ term :: rest => by
    simp [elementsOfAttributes, sitesOfAttributes, List.filterMap_cons, Site.found?, term.elements_eq,
      elementsOfAttributes_eq rest]
/-- So are those of the value of an attribute. -/
theorem JsxValue.elements_eq : ∀ value : JsxValue,
    value.elements = value.sites.filterMap Site.found?
  | .absent => by rw [JsxValue.elements, JsxValue.sites, List.filterMap_nil]
  | .quoted _ => by rw [JsxValue.elements, JsxValue.sites, List.filterMap_nil]
  | .container _ term => by
    simp [JsxValue.elements, JsxValue.sites, List.filterMap_cons, Site.found?, term.elements_eq]
  | .markup jsx => by
    rw [JsxValue.elements, JsxValue.sites, jsx.elements_eq]
    rfl
/-- So are those of children. -/
theorem elementsOfChildren_eq : ∀ children : List JsxChild,
    elementsOfChildren children = (sitesOfChildren children).filterMap Site.found?
  | [] => by rw [elementsOfChildren, sitesOfChildren, List.filterMap_nil]
  | .text _ _ :: rest => by
    simp [elementsOfChildren, sitesOfChildren, List.filterMap_cons, Site.found?,
      elementsOfChildren_eq rest]
  | .markup jsx :: rest => by
    rw [elementsOfChildren, sitesOfChildren, ← List.cons_append, List.filterMap_append,
      jsx.elements_eq, elementsOfChildren_eq rest]
  | .container _ term :: rest => by
    simp [elementsOfChildren, sitesOfChildren, List.filterMap_cons, Site.found?, term.elements_eq,
      elementsOfChildren_eq rest]
  | .empty _ :: rest => by
    simp [elementsOfChildren, sitesOfChildren, List.filterMap_cons, Site.found?,
      elementsOfChildren_eq rest]
  | .spread _ term :: rest => by
    simp [elementsOfChildren, sitesOfChildren, List.filterMap_cons, Site.found?, term.elements_eq,
      elementsOfChildren_eq rest]
/-- So are those of a term. -/
theorem Term.elements_eq : ∀ term : Term, term.elements = term.sites.filterMap Site.found?
  | .this => by rw [Term.elements, Term.sites, List.filterMap_nil]
  | .name _ => by rw [Term.elements, Term.sites, List.filterMap_nil]
  | .member object _ => by rw [Term.elements, Term.sites, object.elements_eq]
  | .call callee arguments => by
    rw [Term.elements, Term.sites, List.filterMap_append, callee.elements_eq,
      elementsOfTerms_eq arguments]
  | .group inner => by rw [Term.elements, Term.sites, inner.elements_eq]
  | .markup jsx => by rw [Term.elements, Term.sites, jsx.elements_eq]
  | .compound parts => by rw [Term.elements, Term.sites, elementsOfTerms_eq parts]
/-- So are those of terms. -/
theorem elementsOfTerms_eq : ∀ terms : List Term,
    elementsOfTerms terms = (sitesOfTerms terms).filterMap Site.found?
  | [] => by rw [elementsOfTerms, sitesOfTerms, List.filterMap_nil]
  | term :: rest => by
    rw [elementsOfTerms, sitesOfTerms, List.filterMap_append, term.elements_eq,
      elementsOfTerms_eq rest]
end

end Script

/-- The elements of a tree are the elements among its nodes. -/
theorem elements_among_nodes : TreeInduction
    (fun nodes => elementsIn nodes = (nodesIn nodes).filterMap Node.element?)
    (fun attributes =>
      elementsInAttributes attributes = (nodesInAttributes attributes).filterMap Node.element?)
    (fun insets => elementsInInsets insets = (nodesInInsets insets).filterMap Node.element?) where
  noNodes := rfl
  element tag attributes children position rest ha hc hr := by
    simp [elementsIn, Node.elements, nodesIn, Node.inside, Node.element?, ha, hc, hr]
  text run rest hr := by
    simp [elementsIn, Node.elements, nodesIn, Node.inside, List.filterMap_cons, Node.element?, hr]
  expression code insets position rest hi hr := by
    simp [elementsIn, Node.elements, nodesIn, Node.inside, List.filterMap_cons, Node.element?, hi, hr]
  noAttributes := rfl
  bare name position rest hr := hr
  static name text position rest hr := hr
  dynamic name code insets place position rest hi hr := by
    rw [elementsInAttributes, nodesInAttributes, List.filterMap_append, hi, hr]
  noInsets := rfl
  inset start stop fragment nodes rest hn hr := by
    rw [elementsInInsets, nodesInInsets, List.filterMap_append, hn, hr]

/-- The elements in insets are those in their nodes. -/
theorem elementsIn_flatMap (insets : List Inset) :
    elementsIn (insets.flatMap Inset.nodes) = elementsInInsets insets := by
  rw [elements_among_nodes.nodes, elements_among_nodes.insets, nodesIn_collects.flatMap]

/-- The tag and the position of a face, if it is that of an element. -/
def tagged? : Face × Position → Option (String × Position)
  | (.element tag, position) => some (tag, position)
  | _ => none

/-- Elements of a document that are those found in a script, one for one, with their tags and
positions. -/
def Source.Matches (source : Source) (elements : List Element) (found : List Found) : Prop :=
  elements.map (fun element => (element.tag, element.position)) =
    found.map fun item => (item.name.text, positionAt source.text item.span.start)

section Reading

variable {source : Source}

/-- The face of a node shows tag and position exactly of an element. -/
theorem tagged?_face (node : Node) :
    tagged? node.face = node.element?.map fun element => (element.tag, element.position) := by
  cases node with
  | element inner => rfl
  | text run => rfl
  | expression script => rfl

/-- The face of a site shows tag and position exactly of an element that is found there. -/
theorem tagged?_face? (site : Site) :
    (source.face? site).bind tagged? =
      site.found?.map fun item => (item.name.text, positionAt source.text item.span.start) := by
  have hjsx : ∀ jsx : Jsx, (source.jsxFace? jsx).bind tagged? =
      jsx.found?.map fun item => (item.name.text, positionAt source.text item.span.start) := by
    intro jsx
    cases jsx with
    | element span tag attributes children => rfl
    | fragment span children => rfl
  cases site with
  | markup jsx => exact hjsx jsx
  | bare jsx => exact hjsx jsx
  | text span raw =>
    rw [Source.face?]
    split
    · rfl
    · rfl
  | child span term => rfl
  | value span term => rfl
  | empty span => rfl
  | spreadAttribute span => rfl
  | spreadChild span => rfl

/-- Nodes with the faces of sites have the elements that are found there. -/
theorem Source.Mirrors.matches {sites : List Site} {nodes : List Node} {scripts : List Expression}
    (h : source.Mirrors sites nodes scripts) :
    source.Matches (nodes.filterMap Node.element?) (sites.filterMap Site.found?) := by
  have htagged := congrArg (List.filterMap tagged?) h.faces
  rw [List.filterMap_map, List.filterMap_filterMap] at htagged
  unfold Source.Matches
  rw [List.map_filterMap, List.map_filterMap, ← funext tagged?_face, ← funext tagged?_face?]
  exact htagged

variable (source)

/-- The markup of terms is read with its elements. -/
theorem insetsOfAll_match (base : Nat) (terms : List Term) :
    Gives (fun insets => source.Matches (elementsInInsets insets) (elementsOfTerms terms))
      (source.insetsOfAll base terms) := by
  refine (Source.Reports.mono (insetsOfAll_report source base terms) fun insets hi => ?_).gives
  rw [elements_among_nodes.insets, elementsOfTerms_eq]
  exact hi.1.matches

end Reading

/-- The elements that are found in a script in order have ascending positions. -/
theorem Script.Program.WellSpanned.positions {program : Program} {text : List Char}
    (h : program.WellSpanned text) :
    program.elements.Pairwise fun a b =>
      (positionAt text a.span.start).Before (positionAt text b.span.start) := by
  obtain ⟨last, hreach, hlast⟩ := h.ordered
  have hascending := ascending_terms program.parts 0 last hreach
  refine hascending.pairwise.imp_of_mem fun {a b} ha hb hlt => ?_
  refine positionAt_before (h.starts a ha) (h.starts b hb) hlt ?_
  have hbounds := hascending.bounds b hb
  have hsize : byteLength text ≤ 4294967295 := h.size
  change b.span.start + 1 < 4294967296
  omega

/-- The elements of a document are those of the script that it is read from, one for one and in
their order, with their tags and positions; in a script with the ranges of a text, the positions
ascend. -/
theorem document_elements (source : Source) (program : Program) (document : Document)
    (warnings : List Diagnostic) (h : source.documentOf program = .ok (document, warnings)) :
    (elementsIn document.nodes).map (fun element => (element.tag, element.position)) =
        program.elements.map
          (fun found => (found.name.text, positionAt source.text found.span.start)) ∧
      (program.WellSpanned source.text →
        (elementsIn document.nodes).Pairwise fun a b => a.position.Before b.position) := by
  obtain ⟨roots, hroots, hnodes⟩ := documentOf_ok h
  have hmatch : source.Matches (elementsIn document.nodes) program.elements := by
    rw [hnodes, elementsIn_flatMap]
    exact insetsOfAll_match source 0 program.parts [] roots warnings hroots
  refine ⟨hmatch, fun hspanned => ?_⟩
  have hpositions : (elementsIn document.nodes).map Element.position =
      program.elements.map fun found => positionAt source.text found.span.start := by
    have hseconds := congrArg (List.map Prod.snd) hmatch
    rw [List.map_map, List.map_map] at hseconds
    exact hseconds
  rw [← List.pairwise_map, hpositions, List.pairwise_map]
  exact hspanned.positions

/-- A source with markup in every place it can stand: below elements and fragments, in attributes
with and without braces, and inside expressions, under names of every kind. -/
def nestedSource : Source where
  path := "page.jsx"
  text := ("const é = <a b=\x7b<c:d/>\x7d d=<e/>>\x7bok && f(y => <><g>\x7b<h/>\x7d</g></>)\x7d\n" ++
    "<this.i.j/></a>;").toList

/-- The ranges of its markup are those of a text. -/
theorem nestedSource_wellSpanned : nestedSource.program.WellSpanned nestedSource.text where
  ordered := ⟨byteLength nestedSource.text - 1, by decide +kernel, by decide +kernel⟩
  starts := by decide +kernel
  size := by decide +kernel

/-- All six elements of the source come out in their order. -/
theorem document_elements_nested :
    ∃ document warnings, nestedSource.documentOf nestedSource.program = .ok (document, warnings) ∧
      nestedSource.program.WellSpanned nestedSource.text ∧
      (elementsIn document.nodes).map (fun element => (element.tag, element.position)) =
        [("a", ⟨1, 11⟩), ("c:d", ⟨1, 17⟩), ("e", ⟨1, 27⟩), ("g", ⟨1, 48⟩), ("h", ⟨1, 52⟩),
          ("this.i.j", ⟨2, 1⟩)] ∧
      (elementsIn document.nodes).Pairwise fun a b => a.position.Before b.position := by
  have hsome : (nestedSource.documentOf nestedSource.program).toOption.isSome = true := by
    decide +kernel
  cases hok : nestedSource.documentOf nestedSource.program with
  | error diagnostic =>
    rw [hok] at hsome
    cases hsome
  | ok step =>
    obtain ⟨document, warnings⟩ := step
    obtain ⟨hmatch, hascend⟩ :=
      document_elements nestedSource nestedSource.program document warnings hok
    refine ⟨document, warnings, rfl, nestedSource_wellSpanned, hmatch.trans ?_,
      hascend nestedSource_wellSpanned⟩
    decide +kernel

end MiniTemplate
