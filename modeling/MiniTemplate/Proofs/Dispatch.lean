import MiniTemplate.Proofs.Selection
import MiniTemplate.Proofs.Unambiguity
import Mathlib.Data.List.Infix

/-!
# Definitions of dispatch templates

The text of a registry defines every template that the registry lists, as often as it lists
it, and no other one. A definition opens with a tag that names the template. Such an opening
begins with a fixed stem; the bodies of the templates hold other tags, and names of
components, but nothing that the stem could begin at. Names cannot be confused with longer
ones, since a quote ends them.
-/

namespace MiniTemplate

open Text

/-- A name that is no part of a tag: it has neither quotes nor opening brackets. -/
def IsInert (name : String) : Prop := '"' ∉ name.toList ∧ '<' ∉ name.toList

instance (name : String) : Decidable (IsInert name) :=
  inferInstanceAs (Decidable ('"' ∉ name.toList ∧ '<' ∉ name.toList))

/-- Two inert names make up an inert one. -/
theorem IsInert.append {a b : String} (ha : IsInert a) (hb : IsInert b) : IsInert (a ++ b) :=
  ⟨not_mem_toList_append ha.1 hb.1, not_mem_toList_append ha.2 hb.2⟩

/-- How often a piece occurs in a text, counting every place at which it starts. -/
def occurrences (piece text : String) : Nat :=
  text.toList.tails.countP fun rest => piece.toList.isPrefixOf rest

/-- What the openings of all definitions begin with. -/
def definitionStem : String := "<template name=\""

/-- The tag that opens the definition of a template. -/
def definitionOpening (name : String) : String := definitionStem ++ name ++ "\">"

theorem toList_definitionStem :
    definitionStem.toList = '<' :: ("template name=".toList ++ ['"']) := by
  simp [definitionStem]

theorem toList_definitionOpening (name : String) :
    (definitionOpening name).toList = definitionStem.toList ++ (name.toList ++ ['"', '>']) := by
  simp [definitionOpening]

/-- No definition opens in an empty text. -/
theorem occurrences_empty (name : String) : occurrences (definitionOpening name) "" = 0 := by
  unfold occurrences
  rw [toList_definitionOpening, toList_definitionStem]
  simp

/-- A piece occurs at the first character of a text or further on. -/
theorem occurrences_cons (piece : String) (c : Char) (cs : List Char) :
    occurrences piece (String.ofList (c :: cs)) =
      (if piece.toList <+: c :: cs then 1 else 0) + occurrences piece (String.ofList cs) := by
  unfold occurrences
  rw [String.toList_ofList, String.toList_ofList, List.tails_cons, List.countP_cons, Nat.add_comm]
  simp only [List.isPrefixOf_iff_prefix]

/-- Whether no definition can open in a text, whatever stands behind it: no end of it agrees with
the stem as far as both go. -/
def isQuiet : List Char → Bool
  | [] => true
  | c :: cs =>
    !(definitionStem.toList.isPrefixOf (c :: cs) || (c :: cs).isPrefixOf definitionStem.toList) &&
      isQuiet cs

/-- A text is quiet if no definition opens at its start, none that goes on behind it, and none
further on. -/
theorem isQuiet_cons {c : Char} {cs : List Char} :
    isQuiet (c :: cs) = true ↔
      ¬ definitionStem.toList <+: c :: cs ∧ ¬ c :: cs <+: definitionStem.toList ∧
        isQuiet cs = true := by
  rw [isQuiet, Bool.and_eq_true, Bool.not_eq_true', Bool.or_eq_false_iff, ← Bool.not_eq_true,
    ← Bool.not_eq_true, List.isPrefixOf_iff_prefix, List.isPrefixOf_iff_prefix, and_assoc]

/-- No definition opens at the beginning of a quiet text, whatever stands behind it. -/
theorem not_stem_of_quiet {c : Char} {cs : List Char} (h : isQuiet (c :: cs) = true)
    (rest : List Char) : ¬ definitionStem.toList <+: c :: (cs ++ rest) := by
  obtain ⟨hstem, hpart, -⟩ := isQuiet_cons.mp h
  intro hp
  -- the stem and the quiet text begin the same text, so one of them begins the other
  rcases List.prefix_or_prefix_of_prefix hp (List.prefix_append (c :: cs) rest) with h | h
  · exact hstem h
  · exact hpart h

/-- Quiet texts one behind the other are quiet: an opening across the border would begin in the
first. -/
theorem isQuiet_append {front back : List Char} (hf : isQuiet front = true)
    (hb : isQuiet back = true) : isQuiet (front ++ back) = true := by
  induction front with
  | nil => exact hb
  | cons c cs ih =>
    obtain ⟨-, hpart, hrest⟩ := isQuiet_cons.mp hf
    refine isQuiet_cons.mpr ⟨not_stem_of_quiet hf back, fun h => ?_, ih hrest⟩
    exact hpart ((List.prefix_append (c :: cs) back).trans h)

/-- No definition opens without the first character of the stem. -/
theorem isQuiet_of_not_mem {text : List Char} (h : '<' ∉ text) : isQuiet text = true := by
  induction text with
  | nil => rfl
  | cons c cs ih =>
    rw [List.mem_cons, not_or] at h
    rw [isQuiet_cons, toList_definitionStem]
    refine ⟨fun hp => ?_, fun hp => ?_, ih h.2⟩
    · exact h.1 (List.cons_prefix_cons.mp hp).1
    · exact h.1 (List.cons_prefix_cons.mp hp).1.symm

/-- In quiet characters in front of a text, no definition opens. -/
theorem occurrences_quiet_append (name : String) {front : List Char} (h : isQuiet front = true)
    (rest : List Char) :
    occurrences (definitionOpening name) (String.ofList (front ++ rest)) =
      occurrences (definitionOpening name) (String.ofList rest) := by
  induction front with
  | nil => rfl
  | cons c cs ih =>
    obtain ⟨-, -, hcs⟩ := isQuiet_cons.mp h
    have hnone : ¬ (definitionOpening name).toList <+: c :: (cs ++ rest) := by
      intro hp
      rw [toList_definitionOpening] at hp
      exact not_stem_of_quiet h rest ((List.prefix_append _ _).trans hp)
    rw [List.cons_append, occurrences_cons, if_neg hnone, ih hcs, Nat.zero_add]

/-- A quiet text adds no openings in front of another text. -/
theorem occurrences_quiet (name : String) {front : String} (h : isQuiet front.toList = true)
    (rest : String) :
    occurrences (definitionOpening name) (front ++ rest) =
      occurrences (definitionOpening name) rest := by
  have hchars := occurrences_quiet_append name h rest.toList
  rw [String.ofList_append, String.ofList_toList, String.ofList_toList] at hchars
  exact hchars

/-- Words that a quote ends are the same if one text with its word begins the other. -/
theorem quoted_word_unique {front back rest text : List Char} (hf : '"' ∉ front)
    (hb : '"' ∉ back) (h : front ++ '"' :: rest <+: back ++ '"' :: text) : front = back := by
  obtain ⟨more, hmore⟩ := h
  rw [List.append_assoc, List.cons_append] at hmore
  exact (span_unique (all_ne_of_not_mem hf) (all_ne_of_not_mem hb) (by simp) (by simp) hmore).1

/-- A definition opens where the opening of a template is written, if it is that of the template,
and nowhere else up to the end of the opening. -/
theorem occurrences_definition {name name' : String} (hq : '"' ∉ name.toList)
    (hi : IsInert name') (rest : String) :
    occurrences (definitionOpening name) (definitionOpening name' ++ rest) =
      (if name = name' then 1 else 0) + occurrences (definitionOpening name) rest := by
  have hiff : (definitionOpening name).toList <+: (definitionOpening name' ++ rest).toList ↔
      name = name' := by
    rw [String.toList_append, toList_definitionOpening, toList_definitionOpening, List.append_assoc,
      List.prefix_append_right_inj]
    constructor
    · intro h
      rw [List.append_assoc] at h
      exact String.toList_inj.mp (quoted_word_unique hq hi.1 h)
    · rintro rfl
      exact List.prefix_append _ _
  have hinner : isQuiet ("template name=\"".toList ++ (name'.toList ++ ['"', '>'])) = true :=
    isQuiet_append (by decide +kernel)
      (isQuiet_append (isQuiet_of_not_mem hi.2) (by decide +kernel))
  have hcons : (definitionOpening name' ++ rest).toList =
      '<' :: (("template name=\"".toList ++ (name'.toList ++ ['"', '>'])) ++ rest.toList) := by
    simp [toList_definitionOpening, toList_definitionStem]
  rw [← String.ofList_toList (s := definitionOpening name' ++ rest), hcons, occurrences_cons,
    occurrences_quiet_append name hinner, String.ofList_toList, ← hcons]
  simp only [hiff]

/-- A text that defines one template, whatever stands behind it. -/
def Defines (text name : String) : Prop :=
  ∀ name', '"' ∉ name'.toList → ∀ rest,
    occurrences (definitionOpening name') (text ++ rest) =
      (if name' = name then 1 else 0) + occurrences (definitionOpening name') rest

/-- Texts on lines of their own: a first one, and behind a line break the others. -/
theorem joinWith_cons (separator text : String) (rest : List String) :
    joinWith separator (text :: rest) =
      text ++ if rest.isEmpty then "" else separator ++ joinWith separator rest := by
  cases rest with
  | nil => simp [joinWith]
  | cons next rest => simp [joinWith, String.append_assoc]

/-- Lines are quiet behind another line if they are by themselves. -/
theorem isQuiet_behind_line {lines : List String}
    (h : isQuiet (joinWith "\n" lines).toList = true) :
    isQuiet (if lines.isEmpty then "" else "\n" ++ joinWith "\n" lines).toList = true := by
  split
  · rfl
  · rw [String.toList_append]
    exact isQuiet_append (by decide +kernel) h

/-- Quiet lines are a quiet text, since no opening has a line break. -/
theorem isQuiet_lines {lines : List String} (h : ∀ line ∈ lines, isQuiet line.toList = true) :
    isQuiet (joinWith "\n" lines).toList = true := by
  induction lines with
  | nil => rfl
  | cons line rest ih =>
    rw [List.forall_mem_cons] at h
    rw [joinWith_cons, String.toList_append]
    exact isQuiet_append h.1 (isQuiet_behind_line (ih h.2))

/-- The opening of a template and quiet lines define the template. -/
theorem defines_lines {name : String} (hi : IsInert name) {lines : List String}
    (h : ∀ line ∈ lines, isQuiet line.toList = true) :
    Defines (joinWith "\n" (definitionOpening name :: lines)) name := by
  intro name' hq' rest
  rw [joinWith_cons, String.append_assoc, occurrences_definition hq' hi,
    occurrences_quiet name' (isQuiet_behind_line (isQuiet_lines h))]

/-- The text of an ordinary template defines it. -/
theorem defines_templateText {name : String} (hi : IsInert name) :
    Defines (templateText name) name := by
  have hlines : ∀ line ∈ (templateLines name).tail, isQuiet line.toList = true := by
    change ∀ line ∈ (templateLines "").tail, isQuiet line.toList = true
    decide +kernel
  exact defines_lines hi hlines

/-- A tag of a component is no opening: up to its first quote it ends otherwise than the stem. -/
theorem isQuiet_component {component : String} (hi : IsInert component) {rest : List Char}
    (hrest : isQuiet rest = true) :
    isQuiet ('<' :: (component.toList ++ (" diuu=\"".toList ++ rest))) = true := by
  have htag : '<' :: (component.toList ++ (" diuu=\"".toList ++ rest)) =
      '<' :: ((component.toList ++ " diuu=".toList) ++ '"' :: rest) := by simp
  have hquote : '"' ∉ component.toList ++ " diuu=".toList := by simpa using hi.1
  have hends : component.toList ++ " diuu=".toList ≠ "template name=".toList := by
    intro h
    have hsuffix : " diuu=".toList <:+ "template name=".toList := h ▸ List.suffix_append _ _
    revert hsuffix
    decide +kernel
  refine isQuiet_cons.mpr ⟨fun h => ?_, fun h => ?_, ?_⟩
  · rw [toList_definitionStem, htag] at h
    have h' := (List.cons_prefix_cons.mp h).2
    exact hends (quoted_word_unique (by decide +kernel) hquote h').symm
  · rw [toList_definitionStem, htag] at h
    have h' := (List.cons_prefix_cons.mp h).2
    exact hends (quoted_word_unique hquote (by decide +kernel) h')
  · exact isQuiet_append (isQuiet_of_not_mem hi.2) (isQuiet_append (by decide +kernel) hrest)

/-- The text of a template for a property defines it. -/
theorem defines_propTemplate {template : PropTemplate} (hi : IsInert template.name)
    (hc : IsInert template.component) : Defines template.text template.name := by
  have hclosing : isQuiet ("\x7b\x7bd.diuu\x7d\x7d\"></".toList ++
      (template.component.toList ++ ">".toList)) = true :=
    isQuiet_append (by decide +kernel)
      (isQuiet_append (isQuiet_of_not_mem hc.2) (by decide +kernel))
  have hindent : isQuiet "    ".toList = true := by decide +kernel
  have htag := isQuiet_append hindent (isQuiet_component hc hclosing)
  have hlines : ∀ line ∈ template.lines.tail, isQuiet line.toList = true := by
    simp only [PropTemplate.lines, List.tail_cons, List.forall_mem_cons]
    refine ⟨by decide +kernel, by decide +kernel, ?_, by decide +kernel, by decide +kernel, ?_⟩
    · simpa using htag
    · simp
  exact defines_lines hi hlines

/-- In texts on lines of their own, each of which defines a template, a template is defined as
often as it is among theirs. -/
theorem occurrences_joined {texts names : List String} (h : List.Forall₂ Defines texts names)
    {name : String} (hq : '"' ∉ name.toList) :
    occurrences (definitionOpening name) (joinWith "\n" texts) = names.count name := by
  induction h with
  | nil => exact occurrences_empty name
  | @cons text name' texts names hfirst hrest ih =>
    rw [joinWith_cons, hfirst name hq, List.count_cons]
    have hbehind : occurrences (definitionOpening name)
        (if texts.isEmpty then "" else "\n" ++ joinWith "\n" texts) = names.count name := by
      cases texts with
      | nil =>
        cases hrest
        exact occurrences_empty name
      | cons next texts =>
        rw [← ih, List.isEmpty_cons, if_neg Bool.false_ne_true]
        exact occurrences_quiet name (by decide +kernel) _
    rw [hbehind, Nat.add_comm]
    simp only [beq_iff_eq, @eq_comm _ name]

/-- A registry whose names and components are no parts of tags. -/
structure Registry.Inert (registry : Registry) : Prop where
  /-- The selectors are not. -/
  selectors : ∀ name ∈ registry.selectors, IsInert name
  /-- The components are not. -/
  components : ∀ template ∈ registry.propTemplates, IsInert template.component

/-- The text of a registry defines the templates that it lists, each as often as it lists it. -/
theorem occurrences_opening {registry : Registry} (h : registry.Inert) {name : String}
    (hq : '"' ∉ name.toList) :
    occurrences (definitionOpening name) registry.text = registry.selectors.count name := by
  have hplain : List.Forall₂ Defines (registry.templates.map templateText) registry.templates := by
    refine List.forall₂_map_left_iff.mpr (List.forall₂_same.mpr fun name hm => ?_)
    exact defines_templateText (h.selectors name (List.mem_append_left _ hm))
  have hprops : List.Forall₂ Defines (registry.propTemplates.map PropTemplate.text)
      (registry.propTemplates.map PropTemplate.name) := by
    refine List.forall₂_map_left_iff.mpr (List.forall₂_map_right_iff.mpr
      (List.forall₂_same.mpr fun template hm => ?_))
    have hname := h.selectors template.name (List.mem_append_right _ (List.mem_map_of_mem hm))
    exact defines_propTemplate hname (h.components template hm)
  exact occurrences_joined (List.rel_append hplain hprops) hq

/-- A name of a script. -/
def isIdentifier (name : String) : Bool :=
  match name.toList with
  | [] => false
  | first :: rest => isNameStart first && rest.all isNamePart

/-- A name of a script has neither quotes nor brackets in it. -/
theorem IsInert.of_isIdentifier {name : String} (h : isIdentifier name = true) : IsInert name := by
  have hnot : ∀ c, isNameStart c = false → isNamePart c = false → c ∉ name.toList := by
    intro c hs hp hm
    unfold isIdentifier at h
    split at h
    · contradiction
    · rename_i first rest hname
      rw [Bool.and_eq_true, List.all_eq_true] at h
      rw [hname, List.mem_cons] at hm
      rcases hm with rfl | hm
      · exact Bool.false_ne_true (hs.symm.trans h.1)
      · exact Bool.false_ne_true (hp.symm.trans (h.2 c hm))
  exact ⟨hnot '"' (by decide +kernel) (by decide +kernel),
    hnot '<' (by decide +kernel) (by decide +kernel)⟩

/-- The names of a supply are as inert as its stem: what is added are digits. -/
theorem IsInert.supplied {supply : Supply} (h : IsInert supply.stem) (number : Nat) :
    IsInert (supply.name number) := by
  refine h.append ?_
  have hnot : ∀ c, c.isDigit = false → c ∉ (toString number).toList := by
    intro c hc hm
    rw [Nat.toString_eq_ofList_toDigits, String.toList_ofList] at hm
    have hd := Nat.isDigit_of_mem_toDigits (by decide) (by decide) hm
    exact Bool.false_ne_true (hc.symm.trans hd)
  exact ⟨hnot '"' (by decide), hnot '<' (by decide)⟩

/-- The properties that expressions of a document call have names of scripts. -/
def Document.CallsIdentifiers (dialect : Dialect) (document : Document) : Prop :=
  ∀ script ∈ expressionsIn document.nodes, ∀ prop ∈ dialect.calledProp? script.code,
    isIdentifier prop = true

instance (dialect : Dialect) (document : Document) :
    Decidable (document.CallsIdentifiers dialect) :=
  inferInstanceAs (Decidable (∀ script ∈ expressionsIn document.nodes,
    ∀ prop ∈ dialect.calledProp? script.code, isIdentifier prop = true))

/-- No name that lowering registers is part of a tag. -/
theorem lowered_inert (dialect : Dialect) (inlines : Bool) {document : Document}
    (hcalls : document.CallsIdentifiers dialect) :
    (document.lower dialect inlines .fresh).ledger.registry.Inert where
  selectors name hm := by
    obtain ⟨s, k, p, hg, -⟩ := extract_draws dialect document .fresh
    change name ∈ (document.extract dialect .fresh).2.registry.selectors at hm
    unfold Registry.selectors at hm
    rw [hg.templates, hg.propNames] at hm
    rcases List.mem_append.mp hm with hm | hm
    · obtain ⟨i, -, -, rfl⟩ := Supply.mem_upcoming.mp hm
      exact .supplied (by decide +kernel) i
    · obtain ⟨i, -, -, rfl⟩ := Supply.mem_upcoming.mp hm
      exact .supplied (by decide +kernel) i
  components template hm := by
    have hserves := (lift_servesCalls dialect (isIdentifier · = true)).nodes document.nodes hcalls
      .fresh (by simp [Registry.ServesCalls, Ledger.fresh, Registry.empty])
    obtain ⟨prop, hp, hc⟩ := hserves template hm
    rw [hc]
    exact (IsInert.of_isIdentifier hp).append (by decide +kernel)

/-- Every reference that lowering leaves in a document selects a template that the text of the
registry defines exactly once, also where lowering fails in the end. The text of any registry
defines a template as often as the registry lists it. -/
theorem dispatch_defined_once :
    (∀ (dialect : Dialect) (inlines : Bool) (document : Document), document.ReferenceFree →
      document.CallsIdentifiers dialect →
      let lowered := document.lower dialect inlines .fresh
      ∀ reference ∈ lowered.document.references, ∃ selector,
        reference.staticText? selectorName = some selector ∧
          occurrences (definitionOpening selector) lowered.ledger.registry.text = 1) ∧
    ∀ registry : Registry, registry.Inert → ∀ name : String, '"' ∉ name.toList →
      occurrences (definitionOpening name) registry.text = registry.selectors.count name := by
  refine ⟨?_, fun registry hi name hq => occurrences_opening hi hq⟩
  intro dialect inlines document hfree hcalls lowered reference hm
  obtain ⟨hmem, hreference⟩ := List.mem_filter.mp hm
  obtain ⟨selector, hs, he⟩ :=
    lowered_selects dialect inlines hfree .fresh reference hmem hreference
  have hinert := lowered_inert dialect inlines hcalls
  obtain ⟨s, k, p, hg, -⟩ := extract_draws dialect document .fresh
  refine ⟨selector, he, ?_⟩
  rw [occurrences_opening hinert (hinert.selectors selector hs).1]
  exact List.count_eq_one_of_mem hg.nodup_selectors hs

/-- An expression and a call of a property side by side. -/
def slottedDocument : Document where
  path := "page.jsx"
  nodes := [.element ⟨"view", [],
    [.expression ⟨"name", [], ⟨2, 2⟩⟩, .expression ⟨"props.render()", [], ⟨3, 2⟩⟩], ⟨1, 0⟩⟩]

/-- References of both kinds select what is defined once. A registry that lists a template twice
has it defined twice, and the template of which its name is the beginning does not count. -/
theorem dispatch_defined_once_slotted :
    let lowered := slottedDocument.lower .standard true .fresh
    let registry : Registry := ⟨["row", "row1", "row"], [⟨"cell", "cellCPT"⟩]⟩
    slottedDocument.ReferenceFree ∧ slottedDocument.CallsIdentifiers .standard ∧
      lowered.document.references.map (·.staticText? selectorName) =
        [some "child0", some "propchild0"] ∧
      (∀ reference ∈ lowered.document.references, ∃ selector,
        reference.staticText? selectorName = some selector ∧
          occurrences (definitionOpening selector) lowered.ledger.registry.text = 1) ∧
      registry.Inert ∧ occurrences (definitionOpening "row") registry.text = 2 := by
  have hfree : slottedDocument.ReferenceFree := by decide
  have hcalls : slottedDocument.CallsIdentifiers .standard := by decide +kernel
  have hinert : Registry.Inert ⟨["row", "row1", "row"], [⟨"cell", "cellCPT"⟩]⟩ :=
    ⟨by decide +kernel, by decide +kernel⟩
  refine ⟨hfree, hcalls, by decide +kernel, ?_, hinert, ?_⟩
  · exact dispatch_defined_once.1 .standard true slottedDocument hfree hcalls
  · exact dispatch_defined_once.2 _ hinert "row" (by decide +kernel)

end MiniTemplate
