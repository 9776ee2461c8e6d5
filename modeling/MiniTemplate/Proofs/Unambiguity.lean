import MiniTemplate.Text.Blank
import MiniTemplate.Template.Printer
import MiniTemplate.Proofs.Trees
import Mathlib.Data.List.TakeWhile

/-!
# Markup can be read in one way only

Nodes are plain if they are elements and texts that markup can show: no text holds an opening
bracket, and tags and names are words. Two lists of plain nodes have the same markup exactly if
they are the same but for their positions and for where a text is cut in two. Values are
escaped, so they may be any text.

Every part of markup ends at a character that it does not hold itself: a word at a blank, a
bracket or an equals sign, a value at a quote, a text at an opening bracket. So the parts of two
equal texts agree one after another.
-/

namespace MiniTemplate

open Text

/-- Two equal texts agree on their longest beginnings of characters of a kind. -/
theorem span_unique {p : Char → Bool} {front front' rest rest' : List Char}
    (hf : ∀ c ∈ front, p c = true) (hf' : ∀ c ∈ front', p c = true)
    (hr : ∀ c ∈ rest.head?, p c = false) (hr' : ∀ c ∈ rest'.head?, p c = false)
    (h : front ++ rest = front' ++ rest') : front = front' ∧ rest = rest' := by
  have hstop : ∀ {text : List Char}, (∀ c ∈ text.head?, p c = false) → text.takeWhile p = [] := by
    intro text ht
    cases text with
    | nil => rfl
    | cons c cs => rw [List.takeWhile_cons, ht c rfl, if_neg Bool.false_ne_true]
  have hfront := congrArg (List.takeWhile p) h
  rw [List.takeWhile_append_of_pos hf, List.takeWhile_append_of_pos hf', hstop hr, hstop hr',
    List.append_nil, List.append_nil] at hfront
  subst hfront
  exact ⟨rfl, List.append_cancel_left h⟩

theorem all_ne_of_not_mem {c : Char} {text : List Char} (h : c ∉ text) :
    ∀ d ∈ text, (d != c) = true :=
  fun _ hd => bne_iff_ne.mpr fun he => h (he ▸ hd)

/-- A character of a value in markup. -/
def escapeChar (c : Char) : List Char :=
  if c = '&' then "&amp;".toList else if c = '"' then "&quot;".toList else [c]

/-- A value is escaped character by character. -/
theorem toList_escapeValue (value : String) :
    (escapeValue value).toList = value.toList.flatMap escapeChar := by
  simp only [escapeValue, replaceChar, String.toList_ofList, List.flatMap_assoc]
  congr 1
  funext c
  unfold escapeChar
  split
  · rfl
  · simp

/-- An escaped value has no quote in it, so that it ends at the next one. -/
theorem quote_not_mem_escapeValue (value : String) : '"' ∉ (escapeValue value).toList := by
  rw [toList_escapeValue, List.mem_flatMap]
  rintro ⟨c, -, hm⟩
  unfold escapeChar at hm
  split at hm
  · exact absurd hm (by decide)
  · split at hm
    · exact absurd hm (by decide)
    · rename_i hc
      exact hc (List.mem_singleton.mp hm).symm

/-- Ampersands and quotes are escaped, and all other characters are kept. -/
theorem escapeChar_cases (c : Char) :
    (c = '&' ∧ escapeChar c = ['&', 'a', 'm', 'p', ';']) ∨
      (c = '"' ∧ escapeChar c = ['&', 'q', 'u', 'o', 't', ';']) ∨
      (c ≠ '&' ∧ escapeChar c = [c]) := by
  unfold escapeChar
  split
  · exact .inl ⟨‹_›, by simp⟩
  · split
    · exact .inr (.inl ⟨‹_›, by simp⟩)
    · exact .inr (.inr ⟨‹_›, rfl⟩)

/-- No escaped character is the beginning of another one. -/
theorem escapeChar_unique {c d : Char} {rest rest' : List Char}
    (h : escapeChar c ++ rest = escapeChar d ++ rest') : c = d ∧ rest = rest' := by
  rcases escapeChar_cases c with ⟨hc, he⟩ | ⟨hc, he⟩ | ⟨hc, he⟩ <;>
    rcases escapeChar_cases d with ⟨hd, he'⟩ | ⟨hd, he'⟩ | ⟨hd, he'⟩ <;>
      simp only [he, he', List.cons_append, List.nil_append, List.cons.injEq] at h <;> grind

/-- Every character leaves something. -/
theorem escapeChar_ne_nil (c : Char) : escapeChar c ≠ [] := by
  rcases escapeChar_cases c with ⟨-, he⟩ | ⟨-, he⟩ | ⟨-, he⟩ <;> simp [he]

/-- Different values are escaped differently. -/
theorem escapeValue_injective : Function.Injective escapeValue := by
  intro a b h
  have hflat := congrArg String.toList h
  rw [toList_escapeValue, toList_escapeValue] at hflat
  apply String.toList_inj.mp
  generalize a.toList = cs at hflat
  generalize b.toList = ds at hflat
  induction cs generalizing ds with
  | nil =>
    cases ds with
    | nil => rfl
    | cons d ds => simp [escapeChar_ne_nil] at hflat
  | cons c cs ih =>
    cases ds with
    | nil => simp [escapeChar_ne_nil] at hflat
    | cons d ds =>
      rw [List.flatMap_cons, List.flatMap_cons] at hflat
      obtain ⟨rfl, hrest⟩ := escapeChar_unique hflat
      rw [ih ds hrest]

/-- Whether a character can stand in a word of markup. -/
def isWordPart (c : Char) : Bool := !isBlank c && !(['<', '>', '/', '=', '"'].contains c)

/-- Whether a text is a word of markup: a tag or the name of an attribute. -/
def isWord (word : String) : Bool := word != "" && word.toList.all isWordPart

/-- Whether markup shows an attribute as it is: its name is a word other than that of expressions
of references, and its value is fixed if it has one. -/
def Attribute.isPlain (entry : Attribute) : Bool :=
  isWord entry.name && entry.name != expressionName &&
    match entry.value with
    | .bare | .static _ => true
    | .dynamic _ => false

mutual
/-- Whether a node is an element or a text that markup shows as it is. -/
def Node.isPlain : Node → Bool
  | .element ⟨tag, attributes, children, _⟩ =>
    isWord tag && attributes.all Attribute.isPlain && arePlain children
  | .text run => run.value != "" && !run.value.toList.contains '<'
  | .expression _ => false
/-- Whether all of some nodes are plain, at every depth. -/
def arePlain : List Node → Bool
  | [] => true
  | node :: rest => Node.isPlain node && arePlain rest
end

/-- An attribute without its position. -/
def Attribute.unplaced (entry : Attribute) : Attribute := { entry with position := .unknown }

/-- Nodes behind a text, which is joined with the text that they begin with, if they do. -/
def joinText (text : String) : List Node → List Node
  | .text run :: rest => .text ⟨text ++ run.value, .unknown⟩ :: rest
  | nodes => if text = "" then nodes else .text ⟨text, .unknown⟩ :: nodes

mutual
/-- Plain nodes without their positions, with texts that follow each other made one. -/
def essence : List Node → List Node
  | [] => []
  | node :: rest => Node.before node (essence rest)
/-- A node without positions, in front of others. -/
def Node.before : Node → List Node → List Node
  | .element ⟨tag, attributes, children, _⟩, rest =>
    .element ⟨tag, attributes.map Attribute.unplaced, essence children, .unknown⟩ :: rest
  | .text run, rest => joinText run.value rest
  | .expression script, rest => .expression script :: rest
end

/-- Joining two texts to nodes is joining them to each other. -/
theorem joinText_joinText (text text' : String) (nodes : List Node) :
    joinText text (joinText text' nodes) = joinText (text ++ text') nodes := by
  fun_cases joinText text' nodes with
  | case1 run rest => simp [joinText, String.append_assoc]
  | case2 _ _ hempty => rw [hempty, String.append_empty]
  | case3 _ _ hne => simp [joinText, hne]

/-- An empty text adds nothing to nodes whose texts are joined. -/
theorem joinText_empty_essence (nodes : List Node) :
    joinText "" (essence nodes) = essence nodes := by
  cases nodes with
  | nil => rfl
  | cons node rest =>
    cases node with
    | text run =>
      change joinText "" (joinText run.value (essence rest)) = joinText run.value (essence rest)
      rw [joinText_joinText, String.empty_append]
    | element element =>
      obtain ⟨tag, attributes, children, position⟩ := element
      rfl
    | expression script => rfl

/-- Positions do not show in markup. -/
theorem attributesMarkup_unplaced (attributes : List Attribute) :
    attributesMarkup (attributes.map Attribute.unplaced) = attributesMarkup attributes := by
  induction attributes with
  | nil => rfl
  | cons entry rest ih =>
    rw [List.map_cons, attributesMarkup, attributesMarkup, ih]
    rfl

/-- A text joined to nodes comes in front of their markup. -/
theorem nodesMarkup_joinText (text : String) (nodes : List Node) :
    nodesMarkup (joinText text nodes) = text ++ nodesMarkup nodes := by
  fun_cases joinText text nodes with
  | case1 run rest => simp [nodesMarkup, Node.markup, String.append_assoc]
  | case2 _ _ hempty => rw [hempty, String.empty_append]
  | case3 => simp [nodesMarkup, Node.markup]

/-- Markup does not show more of nodes than their essence. -/
theorem markup_of_essence :
    OuterInduction fun nodes => nodesMarkup (essence nodes) = nodesMarkup nodes where
  noNodes := rfl
  element tag attributes children position rest hchildren hrest := by
    simp only [essence, Node.before, nodesMarkup, Node.markup, attributesMarkup_unplaced, hchildren,
      hrest]
  text run rest hrest := by
    simp only [essence, Node.before, nodesMarkup_joinText, nodesMarkup, Node.markup, hrest]
  expression code insets position rest hrest := by
    simp only [essence, Node.before, nodesMarkup, hrest]

/-- A word has a first character, and all of them are parts of words. -/
theorem isWord_toList {word : String} (h : isWord word = true) :
    (∀ c ∈ word.toList, isWordPart c = true) ∧ ∃ first rest, word.toList = first :: rest := by
  rw [isWord, Bool.and_eq_true, bne_iff_ne, List.all_eq_true] at h
  refine ⟨h.2, List.exists_cons_of_ne_nil fun hnil => h.1 ?_⟩
  exact String.toList_inj.mp hnil

/-- A plain attribute has a word for a name, not that of an expression, and a text or no value. -/
theorem Attribute.isPlain_iff {entry : Attribute} :
    entry.isPlain = true ↔ isWord entry.name = true ∧ entry.name ≠ expressionName ∧
      (entry.value = .bare ∨ ∃ text, entry.value = .static text) := by
  rw [Attribute.isPlain, Bool.and_eq_true, Bool.and_eq_true, bne_iff_ne, and_assoc]
  cases entry.value <;> simp

/-- What follows the name of a plain attribute. -/
def Value.markup : Value → List Char
  | .static text => '=' :: '"' :: ((escapeValue text).toList ++ ['"'])
  | _ => []

/-- The markup of a first plain attribute: a space, its name and its value. -/
theorem toList_attributesMarkup_cons {entry : Attribute} (h : entry.isPlain = true)
    (rest : List Attribute) :
    (attributesMarkup (entry :: rest)).toList =
      ' ' :: (entry.name.toList ++ (entry.value.markup ++ (attributesMarkup rest).toList)) := by
  obtain ⟨-, hname, hvalue | ⟨text, hvalue⟩⟩ := Attribute.isPlain_iff.mp h <;>
    simp [attributesMarkup, Attribute.markup, hname, hvalue, Value.markup]

/-- What stands behind an attribute of a tag begins with a blank or ends the tag. -/
theorem head_behind_attribute {attributes : List Attribute}
    (h : ∀ entry ∈ attributes, entry.isPlain = true) (rest : List Char) :
    ∀ c ∈ ((attributesMarkup attributes).toList ++ '>' :: rest).head?, c = ' ' ∨ c = '>' := by
  cases attributes with
  | nil => simp [attributesMarkup]
  | cons entry others =>
    rw [toList_attributesMarkup_cons (h entry List.mem_cons_self)]
    simp

/-- Values with what stands behind them are told apart: a fixed one begins with an equals sign, and
ends at its second quote. -/
theorem value_unique {value value' : Value} {rest rest' : List Char}
    (hv : value = .bare ∨ ∃ text, value = .static text)
    (hv' : value' = .bare ∨ ∃ text, value' = .static text)
    (hr : ∀ c ∈ rest.head?, c = ' ' ∨ c = '>') (hr' : ∀ c ∈ rest'.head?, c = ' ' ∨ c = '>')
    (h : value.markup ++ rest = value'.markup ++ rest') : value = value' ∧ rest = rest' := by
  have hinner := fun text => all_ne_of_not_mem (quote_not_mem_escapeValue text)
  rcases hv with rfl | ⟨text, rfl⟩ <;> rcases hv' with rfl | ⟨text', rfl⟩
  · exact ⟨rfl, h⟩
  · have hequals : '=' ∈ rest.head? := congrArg List.head? h
    exact absurd (hr _ hequals) (by decide)
  · have hequals : '=' ∈ rest'.head? := congrArg List.head? h.symm
    exact absurd (hr' _ hequals) (by decide)
  · simp only [Value.markup, List.cons_append, List.append_assoc, List.nil_append,
      List.cons.injEq, true_and] at h
    obtain ⟨htext, hrest⟩ := span_unique (hinner text) (hinner text') (by simp) (by simp) h
    rw [escapeValue_injective (String.toList_inj.mp htext), List.cons.inj hrest |>.2]
    exact ⟨rfl, rfl⟩

/-- No part of a word stands behind the name of an attribute. -/
theorem value_behind {value : Value} (hv : value = .bare ∨ ∃ text, value = .static text)
    {rest : List Char} (hr : ∀ c ∈ rest.head?, c = ' ' ∨ c = '>') :
    ∀ c ∈ (value.markup ++ rest).head?, isWordPart c = false := by
  rcases hv with rfl | ⟨text, rfl⟩
  · intro c hc
    rcases hr c hc with rfl | rfl <;> rfl
  · simp only [Value.markup, List.cons_append, List.head?_cons, Option.mem_some_iff,
      forall_eq']
    rfl

/-- The attributes of a tag and what stands behind the tag can be read off. -/
theorem attributes_unique {attributes attributes' : List Attribute}
    (h : ∀ entry ∈ attributes, entry.isPlain = true)
    (h' : ∀ entry ∈ attributes', entry.isPlain = true) {rest rest' : List Char}
    (he : (attributesMarkup attributes).toList ++ '>' :: rest =
      (attributesMarkup attributes').toList ++ '>' :: rest') :
    attributes.map Attribute.unplaced = attributes'.map Attribute.unplaced ∧ rest = rest' := by
  induction attributes generalizing attributes' with
  | nil =>
    cases attributes' with
    | nil => exact ⟨rfl, (List.cons.inj he).2⟩
    | cons entry' others' =>
      rw [toList_attributesMarkup_cons (h' entry' List.mem_cons_self)] at he
      simp [attributesMarkup] at he
  | cons entry others ih =>
    cases attributes' with
    | nil =>
      rw [toList_attributesMarkup_cons (h entry List.mem_cons_self)] at he
      simp [attributesMarkup] at he
    | cons entry' others' =>
      obtain ⟨hplain, hothers⟩ := List.forall_mem_cons.mp h
      obtain ⟨hplain', hothers'⟩ := List.forall_mem_cons.mp h'
      rw [toList_attributesMarkup_cons hplain, toList_attributesMarkup_cons hplain'] at he
      simp only [List.cons_append, List.append_assoc, List.cons.injEq, true_and] at he
      obtain ⟨hword, -, hvalue⟩ := Attribute.isPlain_iff.mp hplain
      obtain ⟨hword', -, hvalue'⟩ := Attribute.isPlain_iff.mp hplain'
      have hhead := head_behind_attribute hothers rest
      have hhead' := head_behind_attribute hothers' rest'
      obtain ⟨hname, htail⟩ := span_unique (isWord_toList hword).1 (isWord_toList hword').1
        (value_behind hvalue hhead) (value_behind hvalue' hhead') he
      obtain ⟨hvalues, hbehind⟩ := value_unique hvalue hvalue' hhead hhead' htail
      obtain ⟨hothers, hrest⟩ := ih hothers hothers' hbehind
      refine ⟨?_, hrest⟩
      rw [List.map_cons, List.map_cons, hothers, Attribute.unplaced, Attribute.unplaced,
        String.toList_inj.mp hname, hvalues]

/-- The parts of an opening tag and what stands behind it can be read off. -/
theorem openingTag_unique {tag tag' : String} (ht : isWord tag = true) (ht' : isWord tag' = true)
    {attributes attributes' : List Attribute} (ha : ∀ entry ∈ attributes, entry.isPlain = true)
    (ha' : ∀ entry ∈ attributes', entry.isPlain = true) {rest rest' : List Char}
    (h : tag.toList ++ ((attributesMarkup attributes).toList ++ '>' :: rest) =
      tag'.toList ++ ((attributesMarkup attributes').toList ++ '>' :: rest')) :
    tag = tag' ∧ attributes.map Attribute.unplaced = attributes'.map Attribute.unplaced ∧
      rest = rest' := by
  obtain ⟨htag, hbehind⟩ := span_unique (isWord_toList ht).1 (isWord_toList ht').1
    (value_behind (.inl rfl) (head_behind_attribute ha rest))
    (value_behind (.inl rfl) (head_behind_attribute ha' rest')) h
  exact ⟨String.toList_inj.mp htag, attributes_unique ha ha' hbehind⟩

/-- What may stand behind the nodes of an element or of a whole text: a closing tag or nothing. -/
def IsClosing (rest : List Char) : Prop := rest = [] ∨ ∃ more, rest = '<' :: '/' :: more

/-- The markup of a first element between its tags, with what comes behind it. -/
theorem toList_nodesMarkup_element (tag : String) (attributes : List Attribute)
    (children : List Node) (position : Position) (rest : List Node) (behind : List Char) :
    (nodesMarkup (.element ⟨tag, attributes, children, position⟩ :: rest)).toList ++ behind =
      '<' :: (tag.toList ++ ((attributesMarkup attributes).toList ++
        '>' :: ((nodesMarkup children).toList ++
          ('<' :: '/' :: (tag.toList ++ '>' :: ((nodesMarkup rest).toList ++ behind)))))) := by
  simp [nodesMarkup, Node.markup]

/-- Plain nodes that begin with an element: all parts of it are plain. -/
theorem arePlain_element {tag : String} {attributes : List Attribute} {children : List Node}
    {position : Position} {rest : List Node}
    (h : arePlain (.element ⟨tag, attributes, children, position⟩ :: rest) = true) :
    isWord tag = true ∧ (∀ entry ∈ attributes, entry.isPlain = true) ∧
      arePlain children = true ∧ arePlain rest = true := by
  simpa [arePlain, Node.isPlain, and_assoc] using h

/-- Plain nodes that begin with a text: no tag opens in it. -/
theorem arePlain_text {run : TextRun} {rest : List Node}
    (h : arePlain (.text run :: rest) = true) : '<' ∉ run.value.toList ∧ arePlain rest = true := by
  simp only [arePlain, Node.isPlain, Bool.and_eq_true, Bool.not_eq_true', List.contains_eq_mem,
    decide_eq_false_iff_not] at h
  exact ⟨h.1.2, h.2⟩

theorem not_mem_toList_append {c : Char} {text text' : String} (h : c ∉ text.toList)
    (h' : c ∉ text'.toList) : c ∉ (text ++ text').toList := by
  rw [String.toList_append, List.mem_append, not_or]
  exact ⟨h, h'⟩

/-- An opening tag is no closing tag. -/
theorem not_isClosing_element {element : Element} {rest : List Node}
    (h : arePlain (.element element :: rest) = true) (behind : List Char) :
    ¬ IsClosing ((nodesMarkup (.element element :: rest)).toList ++ behind) := by
  obtain ⟨tag, attributes, children, position⟩ := element
  obtain ⟨hparts, first, more, htag⟩ := isWord_toList (arePlain_element h).1
  rw [toList_nodesMarkup_element, htag]
  rintro (hnone | ⟨more', hsome⟩)
  · simp at hnone
  · simp only [List.cons_append, List.cons.injEq, true_and] at hsome
    have hslash := hparts first (htag ▸ List.mem_cons_self)
    rw [hsome.1] at hslash
    exact absurd hslash (by decide)

/-- Nodes that do not begin with a text. -/
def BeginsWithTag (nodes : List Node) : Prop :=
  nodes = [] ∨ ∃ element rest, nodes = .element element :: rest

/-- The texts at the beginning of plain nodes taken off. -/
theorem exists_beginsWithTag {nodes : List Node} (h : arePlain nodes = true) {text : String}
    (ht : '<' ∉ text.toList) :
    ∃ text' nodes', '<' ∉ text'.toList ∧ arePlain nodes' = true ∧ BeginsWithTag nodes' ∧
      text.toList ++ (nodesMarkup nodes).toList = text'.toList ++ (nodesMarkup nodes').toList ∧
      joinText text (essence nodes) = joinText text' (essence nodes') := by
  induction nodes generalizing text with
  | nil => exact ⟨text, [], ht, h, .inl rfl, rfl, rfl⟩
  | cons node rest ih =>
    cases node with
    | element element => exact ⟨text, _, ht, h, .inr ⟨element, rest, rfl⟩, rfl, rfl⟩
    | text run =>
      obtain ⟨hrun, hrest⟩ := arePlain_text h
      obtain ⟨text', nodes', ht', hn', hb', hm', he'⟩ := ih hrest (not_mem_toList_append ht hrun)
      refine ⟨text', nodes', ht', hn', hb', ?_, ?_⟩
      · rw [← hm']
        simp [nodesMarkup, Node.markup]
      · rw [← he', ← joinText_joinText]
        rfl
    | expression script => simp [arePlain, Node.isPlain] at h

/-- The texts in front of nodes that begin with a tag can be read off. -/
theorem text_unique {nodes nodes' : List Node} (hn : BeginsWithTag nodes)
    (hn' : BeginsWithTag nodes') {text text' : String} (ht : '<' ∉ text.toList)
    (ht' : '<' ∉ text'.toList) {rest rest' : List Char} (hr : IsClosing rest)
    (hr' : IsClosing rest')
    (h : text.toList ++ ((nodesMarkup nodes).toList ++ rest) =
      text'.toList ++ ((nodesMarkup nodes').toList ++ rest')) :
    text = text' ∧
      (nodesMarkup nodes).toList ++ rest = (nodesMarkup nodes').toList ++ rest' := by
  have hends : ∀ {nodes : List Node} {rest : List Char}, BeginsWithTag nodes → IsClosing rest →
      ∀ c ∈ ((nodesMarkup nodes).toList ++ rest).head?, (c != '<') = false := by
    rintro nodes rest (rfl | ⟨⟨tag, attributes, children, position⟩, behind, rfl⟩) hr
    · rcases hr with rfl | ⟨more, rfl⟩ <;> simp [nodesMarkup]
    · rw [toList_nodesMarkup_element]
      simp
  obtain ⟨htext, hmarkup⟩ := span_unique (all_ne_of_not_mem ht) (all_ne_of_not_mem ht')
    (hends hn hr) (hends hn' hr') h
  exact ⟨String.toList_inj.mp htext, hmarkup⟩

/-- Plain nodes behind a text, and what stands behind them, can be read off up to the essence of
the nodes. -/
theorem nodes_unique :
    OuterInduction fun nodes => arePlain nodes = true → ∀ nodes', arePlain nodes' = true →
      ∀ text text' : String, '<' ∉ text.toList → '<' ∉ text'.toList →
      ∀ rest rest', IsClosing rest → IsClosing rest' →
      text.toList ++ (nodesMarkup nodes).toList ++ rest =
        text'.toList ++ (nodesMarkup nodes').toList ++ rest' →
      joinText text (essence nodes) = joinText text' (essence nodes') ∧ rest = rest' where
  noNodes _ nodes' hn' text text' ht ht' rest rest' hr hr' h := by
    -- the other list may begin with texts of its own; joined with the one in front they are equal
    obtain ⟨text', nodes', ht', hn', hb', hm', he'⟩ := exists_beginsWithTag hn' ht'
    rw [he']
    rw [hm', List.append_assoc, List.append_assoc] at h
    obtain ⟨rfl, hrest⟩ := text_unique (.inl rfl) hb' ht ht' hr hr' h
    rcases hb' with rfl | ⟨element, behind, rfl⟩
    · exact ⟨rfl, hrest⟩
    · -- an element would have to open with the closing tag behind no nodes
      exact absurd (hrest ▸ hr) (not_isClosing_element hn' rest')
  element tag attributes children position behind hchildren hbehind hn nodes' hn' text text' ht ht'
      rest rest' hr hr' h := by
    obtain ⟨text', nodes', ht', hn', hb', hm', he'⟩ := exists_beginsWithTag hn' ht'
    rw [he']
    rw [hm', List.append_assoc, List.append_assoc] at h
    obtain ⟨rfl, hmarkup⟩ := text_unique (.inr ⟨_, _, rfl⟩) hb' ht ht' hr hr' h
    rcases hb' with rfl | ⟨⟨tag', attributes', children', position'⟩, behind', rfl⟩
    · exact absurd (hmarkup.symm ▸ hr') (not_isClosing_element hn rest)
    · obtain ⟨hword, hattributes, hplain, hplains⟩ := arePlain_element hn
      obtain ⟨hword', hattributes', hplain', hplains'⟩ := arePlain_element hn'
      rw [toList_nodesMarkup_element, toList_nodesMarkup_element] at hmarkup
      obtain ⟨rfl, hattribute, hinside⟩ := openingTag_unique hword hword' hattributes hattributes'
        (List.cons.inj hmarkup).2
      -- what is inside ends at a closing tag, and so the lists of children are equal first
      obtain ⟨hchild, hclosing⟩ := hchildren hplain children' hplain' "" "" (by simp) (by simp) _ _
        (.inr ⟨_, rfl⟩) (.inr ⟨_, rfl⟩) (by simpa using hinside)
      have hafter :
          (nodesMarkup behind).toList ++ rest = (nodesMarkup behind').toList ++ rest' := by
        simpa using hclosing
      obtain ⟨hlast, hrest⟩ := hbehind hplains behind' hplains' "" "" (by simp) (by simp) rest rest'
        hr hr' (by simpa using hafter)
      rw [joinText_empty_essence, joinText_empty_essence] at hchild hlast
      refine ⟨?_, hrest⟩
      simp only [essence, Node.before, hattribute, hchild, hlast]
  text run behind hbehind hn nodes' hn' text text' ht ht' rest rest' hr hr' h := by
    obtain ⟨hrun, hplain⟩ := arePlain_text hn
    have hmarkup : (text ++ run.value).toList ++ (nodesMarkup behind).toList ++ rest =
        text'.toList ++ (nodesMarkup nodes').toList ++ rest' := by
      rw [← h]
      simp [nodesMarkup, Node.markup]
    have hboth := hbehind hplain nodes' hn' _ text' (not_mem_toList_append ht hrun) ht' rest rest'
      hr hr' hmarkup
    rwa [← joinText_joinText] at hboth
  expression code insets position behind _ hn := by
    simp [arePlain, Node.isPlain] at hn

/-- Plain nodes have the same markup exactly if they are the same but for their positions and for
where their texts are cut. -/
theorem markup_eq_iff_essence_eq {nodes nodes' : List Node} (h : arePlain nodes = true)
    (h' : arePlain nodes' = true) :
    nodesMarkup nodes = nodesMarkup nodes' ↔ essence nodes = essence nodes' := by
  constructor
  · intro he
    have hunique := nodes_unique.nodes nodes h nodes' h' "" "" (by simp) (by simp) [] []
      (.inl rfl) (.inl rfl) (by simp [he])
    rw [joinText_empty_essence, joinText_empty_essence] at hunique
    exact hunique.1
  · intro he
    rw [← markup_of_essence.nodes nodes, he, markup_of_essence.nodes nodes']

/-- A text cut at some place, and an element with a title. -/
def titledNodes (front back title : String) (position : Position) : List Node :=
  [.text ⟨front, position⟩, .text ⟨back, position⟩,
    .element ⟨"view", [⟨"title", .static title, position⟩, ⟨"hidden", .bare, position⟩],
      [.text ⟨"/view>", position⟩], position⟩]

/-- Markup shows neither where a text is cut nor positions, but it tells a quote from its escape. -/
theorem markup_eq_iff_essence_eq_titled :
    let cut := titledNodes "1 > " "0" "\" hidden=\"" ⟨1, 0⟩
    let cut' := titledNodes "1" " > 0" "\" hidden=\"" ⟨7, 2⟩
    let escaped := titledNodes "1" " > 0" "&quot; hidden=&quot;" ⟨7, 2⟩
    (arePlain cut = true ∧ arePlain cut' = true ∧ arePlain escaped = true) ∧
      cut ≠ cut' ∧ nodesMarkup cut = nodesMarkup cut' ∧ nodesMarkup cut' ≠ nodesMarkup escaped := by
  intro cut cut' escaped
  have hplain : arePlain cut = true ∧ arePlain cut' = true ∧ arePlain escaped = true := by
    decide
  have hsame : essence cut = essence cut' := by
    simp [cut, cut', titledNodes, essence, Node.before, joinText, Attribute.unplaced]
  have hother : essence cut' ≠ essence escaped := by
    simp [cut', escaped, titledNodes, essence, Node.before, joinText, Attribute.unplaced]
  refine ⟨hplain, by simp [cut, cut', titledNodes], ?_, ?_⟩
  · exact (markup_eq_iff_essence_eq hplain.1 hplain.2.1).mpr hsame
  · exact fun he => hother ((markup_eq_iff_essence_eq hplain.2.1 hplain.2.2).mp he)

end MiniTemplate
