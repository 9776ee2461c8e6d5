import MiniTemplate.Json.Records
import MiniTemplate.Proofs.Trees

/-!
# What is written as JSON is read back

Every value of the data model is read back from the JSON that it is written as. Records are
objects whose fields are looked up by their names. Two things are not written where they stand: a
list of insets is left out if it is empty, and the kinds of values of attributes have no tag of
their own but are told apart by the kind of JSON. Trees are read back by induction over them.
-/

namespace MiniTemplate

namespace Json

/-- A way to write values as JSON and a way to read them, of which the second undoes the first. -/
def RoundTrips {α : Type} (write : α → Json) (read : Json → Option α) : Prop :=
  ∀ value, read (write value) = some value

/-- A number of 32 bits is read back. -/
theorem word?_ofNat : RoundTrips (fun word : UInt32 => ofNat word.toNat) word? := by
  intro word
  have hlt : word.toNat < 4294967296 := word.toNat_lt
  change (if word.toNat < 4294967296 then some (UInt32.ofNat word.toNat) else none) = some word
  rw [if_pos hlt, UInt32.ofNat_toNat]

/-- A text that may be missing is read back. -/
theorem textOrNull?_ofText? : RoundTrips ofText? textOrNull? := by
  intro value
  cases value <;> rfl

/-- Values that are read back one by one are read back as a list. -/
theorem mapM_write {α β : Type} {write : α → β} {read : β → Option α}
    (h : ∀ value, read (write value) = some value) (values : List α) :
    (values.map write).mapM read = some values := by
  induction values with
  | nil => rfl
  | cons value rest ih => simp [h value, ih]

/-- So is an array of them. -/
theorem list?_array {α : Type} {write : α → Json} {read : Json → Option α}
    (h : RoundTrips write read) :
    RoundTrips (fun values => .array (values.map write)) (list? read) :=
  mapM_write h

/-- A list of texts is read back. -/
theorem texts?_ofTexts : RoundTrips ofTexts texts? :=
  list?_array fun _ => rfl

@[simp] theorem checkRecord_object (fields : List (String × Json)) (count : Nat) :
    (object fields).checkRecord count = some () := rfl

@[simp] theorem field?_object (fields : List (String × Json)) (place : Nat) (name : String) :
    (object fields).field? place name = fields.lookup name := rfl

end Json

open Json

/-- A position is read back. -/
theorem Position.ofJson?_toJson : RoundTrips Position.toJson Position.ofJson? := by
  intro position
  have hline := word?_ofNat position.line
  have hcolumn := word?_ofNat position.column
  simp [Position.toJson, Position.ofJson?, required, List.lookup_cons, hline, hcolumn]

/-- A template for a property is read back. -/
theorem PropTemplate.ofJson?_toJson : RoundTrips PropTemplate.toJson PropTemplate.ofJson? := by
  intro template
  simp [PropTemplate.toJson, PropTemplate.ofJson?, required, List.lookup_cons, text?]

/-- A registry is read back, with both of its lists. -/
theorem Registry.ofJson?_toJson : RoundTrips Registry.toJson Registry.ofJson? := by
  intro registry
  have htemplates := texts?_ofTexts registry.templates
  have hprops := list?_array PropTemplate.ofJson?_toJson registry.propTemplates
  simp [Registry.toJson, Registry.ofJson?, required, Json.optional, List.lookup_cons, htemplates,
    hprops]

/-- A binding is read back. -/
theorem Binding.ofJson?_toJson : RoundTrips Binding.toJson Binding.ofJson? := by
  intro binding
  have hposition := Position.ofJson?_toJson binding.position
  simp [Binding.toJson, Binding.ofJson?, required, List.lookup_cons, text?, hposition]

/-- A diagnostic is read back, with the context that may be missing. -/
theorem Diagnostic.ofJson?_toJson : RoundTrips Diagnostic.toJson Diagnostic.ofJson? := by
  intro diagnostic
  have hline := word?_ofNat diagnostic.position.line
  have hcolumn := word?_ofNat diagnostic.position.column
  have hcontext := textOrNull?_ofText? diagnostic.context
  have hhints := texts?_ofTexts diagnostic.hints
  simp [Diagnostic.toJson, Diagnostic.ofJson?, required, Json.optional, List.lookup_cons, text?,
    hline, hcolumn, hcontext, hhints]

/-- Options are read back: every field is written, so that no default comes in. -/
theorem Options.ofJson?_toJson : RoundTrips Options.toJson Options.ofJson? := by
  intro options
  have htags := texts?_ofTexts options.textTags
  have hcomponents := texts?_ofTexts options.components
  have hscript := textOrNull?_ofText? options.script
  simp [Options.toJson, Options.ofJson?, Json.optional, List.lookup_cons, text?, bool?, htags,
    hcomponents, hscript]

/-- A source file is read back. -/
theorem SourceFile.ofJson?_toJson : RoundTrips SourceFile.toJson SourceFile.ofJson? := by
  intro file
  have hscript := textOrNull?_ofText? file.script
  simp [SourceFile.toJson, SourceFile.ofJson?, required, Json.optional, List.lookup_cons, text?,
    hscript]

/-- Stylesheets are read back in order. -/
theorem Sheets.ofJson?_toJson : RoundTrips Sheets.toJson Sheets.ofJson? :=
  mapM_write fun _ => rfl

/-- The output of a compilation is read back from its parts. -/
theorem Output.ofJson?_toJson : RoundTrips Output.toJson Output.ofJson? := by
  intro output
  have hregistry := Registry.ofJson?_toJson output.registry
  have hbindings := list?_array Binding.ofJson?_toJson output.bindings
  have hsheets := Sheets.ofJson?_toJson output.sheets
  have hwarnings := list?_array Diagnostic.ofJson?_toJson output.warnings
  simp [Output.toJson, Output.ofJson?, required, List.lookup_cons, text?, hregistry, hbindings,
    hsheets, hwarnings]

/-- A field of insets is written exactly if there are some. -/
theorem insetsToFields_eq (insets : List Inset) :
    insetsToFields insets =
      if insets.isEmpty then [] else [("embedded", .array (insetsToJson insets))] := by
  cases insets with
  | nil => rfl
  | cons inset rest =>
    obtain ⟨start, stop, fragment, nodes⟩ := inset
    simp [insetsToFields, insetsToJson]

/-- Insets that are written are looked for in their array. -/
theorem insetsField?_of_array {json : Json} {place : Nat} {items : List Json}
    (h : json.field? place "embedded" = some (.array items)) :
    insetsField? place json = insetsOfJson? items := by
  rw [insetsField?]
  split <;> simp_all

/-- Insets that are not written are none. -/
theorem insetsField?_of_none {json : Json} {place : Nat}
    (h : json.field? place "embedded" = none) : insetsField? place json = some [] := by
  rw [insetsField?]
  split <;> simp_all

/-- The fields of an expression behind those that hold its code. -/
def expressionFields (insets : List Inset) (position : Position) : List (String × Json) :=
  insetsToFields insets ++ [("location", position.toJson)]

/-- Insets are read back from behind other fields, also where they are left out. -/
theorem insetsField?_object {insets : List Inset}
    (h : insetsOfJson? (insetsToJson insets) = some insets)
    (front : List (String × Json)) (hfront : front.lookup "embedded" = none) (place : Nat)
    (position : Position) :
    insetsField? place (.object (front ++ expressionFields insets position)) = some insets := by
  cases insets with
  | nil =>
    apply insetsField?_of_none
    simp [expressionFields, insetsToFields_eq, List.lookup_append, List.lookup_cons, hfront]
  | cons inset rest =>
    rw [← h]
    apply insetsField?_of_array
    simp [expressionFields, insetsToFields_eq, List.lookup_append, hfront]

/-- So is the position, which is behind the insets. -/
theorem positionField?_object (insets : List Inset) (front : List (String × Json))
    (hfront : front.lookup "location" = none) (place : Nat) (position : Position) :
    positionField? (.object (front ++ expressionFields insets position)) place = some position := by
  have hposition := Position.ofJson?_toJson position
  rw [positionField?, expressionFields, insetsToFields_eq]
  split <;> simp [Json.optional, List.lookup_append, List.lookup_cons, hfront, hposition]

/-- An element is read back if its attributes and children are. -/
theorem Node.ofJson?_element {attributes : List Attribute} {children : List Node}
    (hattributes : attributesOfJson? (attributesToJson attributes) = some attributes)
    (hchildren : nodesOfJson? (nodesToJson children) = some children) (tag : String)
    (position : Position) :
    Node.ofJson? (Node.toJson (.element ⟨tag, attributes, children, position⟩)) =
      some (.element ⟨tag, attributes, children, position⟩) := by
  have hposition := Position.ofJson?_toJson position
  rw [Node.toJson, Node.ofJson?, Element.ofJson?]
  simp [required, List.lookup_cons, text?, positionField?, Json.optional, hposition, hattributes,
    hchildren]

/-- A text is read back. -/
theorem Node.ofJson?_text (run : TextRun) :
    Node.ofJson? (Node.toJson (.text run)) = some (.text run) := by
  have hposition := Position.ofJson?_toJson run.position
  rw [Node.toJson, Node.ofJson?]
  simp [required, List.lookup_cons, text?, positionField?, Json.optional, hposition]

/-- An expression is read back if its insets are, which are not written if there are none. -/
theorem Node.ofJson?_expression {insets : List Inset}
    (h : insetsOfJson? (insetsToJson insets) = some insets) (code : String) (position : Position) :
    Node.ofJson? (Node.toJson (.expression ⟨code, insets, position⟩)) =
      some (.expression ⟨code, insets, position⟩) := by
  let front : List (String × Json) := [("type", .string "expression"), ("expression", .string code)]
  have hjson : Node.toJson (.expression ⟨code, insets, position⟩) =
      .object (front ++ expressionFields insets position) := by
    rw [Node.toJson, List.append_assoc]
    rfl
  have hinsets := insetsField?_object h front (by simp [front, List.lookup_cons]) 2 position
  have hposition := positionField?_object insets front (by simp [front, List.lookup_cons]) 3
    position
  rw [hjson, Node.ofJson?, hinsets, hposition]
  simp [front, required, List.lookup_cons, text?]

/-- A value with an expression is read back if the insets are. -/
theorem Value.ofJson?_dynamic {insets : List Inset}
    (h : insetsOfJson? (insetsToJson insets) = some insets) (code : String) (position : Position) :
    Value.ofJson? (Value.toJson (.dynamic ⟨code, insets, position⟩)) =
      some (.dynamic ⟨code, insets, position⟩) := by
  let front : List (String × Json) := [("code", .string code)]
  have hjson : Value.toJson (.dynamic ⟨code, insets, position⟩) =
      .object (front ++ expressionFields insets position) := by
    rw [Value.toJson, List.append_assoc]
    rfl
  have hinsets := insetsField?_object h front (by simp [front, List.lookup_cons]) 1 position
  have hposition := positionField?_object insets front (by simp [front, List.lookup_cons]) 2
    position
  rw [hjson, Value.ofJson?, hinsets, hposition]
  · simp [front, required, text?]
  · simp
  · simp

/-- An attribute is read back if its value is. -/
theorem Attribute.ofJson?_of_value {value : Value} (h : Value.ofJson? value.toJson = some value)
    (name : String) (position : Position) :
    Attribute.ofJson? (Attribute.toJson ⟨name, value, position⟩) =
      some ⟨name, value, position⟩ := by
  have hposition := Position.ofJson?_toJson position
  rw [Attribute.toJson, Attribute.ofJson?]
  simp [required, List.lookup_cons, text?, positionField?, Json.optional, hposition, h]

/-- Nodes are read back one by one. -/
theorem nodesOfJson?_cons {node : Node} {rest : List Node}
    (h : Node.ofJson? node.toJson = some node)
    (hrest : nodesOfJson? (nodesToJson rest) = some rest) :
    nodesOfJson? (nodesToJson (node :: rest)) = some (node :: rest) := by
  rw [nodesToJson, nodesOfJson?]
  simp [h, hrest]

/-- Attributes are read back one by one. -/
theorem attributesOfJson?_cons {value : Value} {rest : List Attribute}
    (h : Value.ofJson? value.toJson = some value)
    (hrest : attributesOfJson? (attributesToJson rest) = some rest) (name : String)
    (position : Position) :
    attributesOfJson? (attributesToJson (⟨name, value, position⟩ :: rest)) =
      some (⟨name, value, position⟩ :: rest) := by
  have hentry := Attribute.ofJson?_of_value h name position
  rw [Attribute.toJson] at hentry
  rw [attributesToJson, attributesOfJson?]
  simp [hentry, hrest]

/-- Nodes, attributes and insets are read back. -/
theorem trees_read_back :
    TreeInduction (fun nodes => nodesOfJson? (nodesToJson nodes) = some nodes)
      (fun attributes => attributesOfJson? (attributesToJson attributes) = some attributes)
      (fun insets => insetsOfJson? (insetsToJson insets) = some insets) where
  noNodes := by rw [nodesToJson, nodesOfJson?]
  element tag attributes children position rest hattributes hchildren hrest :=
    nodesOfJson?_cons (Node.ofJson?_element hattributes hchildren tag position) hrest
  text run rest hrest := nodesOfJson?_cons (Node.ofJson?_text run) hrest
  expression code insets position rest hinsets hrest :=
    nodesOfJson?_cons (Node.ofJson?_expression hinsets code position) hrest
  noAttributes := by rw [attributesToJson, attributesOfJson?]
  bare name position rest hrest :=
    attributesOfJson?_cons (by rw [Value.toJson, Value.ofJson?]) hrest name position
  static name text position rest hrest :=
    attributesOfJson?_cons (by rw [Value.toJson, Value.ofJson?]) hrest name position
  dynamic name code insets place position rest hinsets hrest :=
    attributesOfJson?_cons (Value.ofJson?_dynamic hinsets code place) hrest name position
  noInsets := by rw [insetsToJson, insetsOfJson?]
  inset start stop fragment nodes rest hnodes hrest := by
    have hstart := word?_ofNat start
    have hstop := word?_ofNat stop
    rw [insetsToJson, insetsOfJson?, insetToJson, Inset.ofJson?]
    simp [required, List.lookup_cons, bool?, Json.optional, hstart, hstop, hnodes, hrest]

/-- A node is read back. -/
theorem Node.ofJson?_toJson : RoundTrips Node.toJson Node.ofJson? := by
  intro node
  cases node with
  | element element =>
    obtain ⟨tag, attributes, children, position⟩ := element
    exact Node.ofJson?_element (trees_read_back.attributes attributes)
      (trees_read_back.nodes children) tag position
  | text run => exact Node.ofJson?_text run
  | expression script =>
    obtain ⟨code, insets, position⟩ := script
    exact Node.ofJson?_expression (trees_read_back.insets insets) code position

/-- An attribute is read back. -/
theorem Attribute.ofJson?_toJson : RoundTrips Attribute.toJson Attribute.ofJson? := by
  intro entry
  obtain ⟨name, value, position⟩ := entry
  refine Attribute.ofJson?_of_value ?_ name position
  cases value with
  | bare => rw [Value.toJson, Value.ofJson?]
  | static text => rw [Value.toJson, Value.ofJson?]
  | dynamic script =>
    obtain ⟨code, insets, place⟩ := script
    exact Value.ofJson?_dynamic (trees_read_back.insets insets) code place

/-- A document is read back. -/
theorem Document.ofJson?_toJson : RoundTrips Document.toJson Document.ofJson? := by
  intro document
  have hnodes := trees_read_back.nodes document.nodes
  simp [Document.toJson, Document.ofJson?, required, List.lookup_cons, text?, items?, hnodes]

/-- Every value of the data model is read back from the JSON that it is written as. -/
theorem json_lossless :
    RoundTrips Document.toJson Document.ofJson? ∧ RoundTrips Node.toJson Node.ofJson? ∧
      RoundTrips Attribute.toJson Attribute.ofJson? ∧
      RoundTrips Registry.toJson Registry.ofJson? ∧ RoundTrips Options.toJson Options.ofJson? ∧
      RoundTrips SourceFile.toJson SourceFile.ofJson? ∧
      RoundTrips Binding.toJson Binding.ofJson? ∧
      RoundTrips Diagnostic.toJson Diagnostic.ofJson? ∧
      RoundTrips Output.toJson Output.ofJson? :=
  ⟨Document.ofJson?_toJson, Node.ofJson?_toJson, Attribute.ofJson?_toJson,
    Registry.ofJson?_toJson, Options.ofJson?_toJson, SourceFile.ofJson?_toJson,
    Binding.ofJson?_toJson, Diagnostic.ofJson?_toJson, Output.ofJson?_toJson⟩

end MiniTemplate
