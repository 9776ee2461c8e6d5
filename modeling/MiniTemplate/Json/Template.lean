import MiniTemplate.Json.Basic
import MiniTemplate.Template.Basic

/-!
# Component trees as JSON

Nodes are told apart by their field `type`. A bare attribute has the value null, a
fixed one a text and a dynamic one an object. Insets are left out where there are
none, and positions may be left out where nothing is known.
-/

namespace MiniTemplate

/-- A position as JSON. -/
def Position.toJson (position : Position) : Json :=
  .object [("line", .ofNat position.line.toNat), ("column", .ofNat position.column.toNat)]

/-- The position that JSON stands for. -/
def Position.ofJson? (json : Json) : Option Position := do
  json.checkRecord 2
  return ⟨← json.required 0 "line" Json.word?, ← json.required 1 "column" Json.word?⟩

/-- The position of a part, if it is given. -/
def positionField? (json : Json) (place : Nat) : Option Position :=
  json.optional place "location" .unknown Position.ofJson?

/-- An inset as JSON, given its nodes. -/
def insetToJson (start stop : UInt32) (fragment : Bool) (nodes : List Json) : Json :=
  .object [("start", .ofNat start.toNat), ("end", .ofNat stop.toNat), ("fragment", .bool fragment),
    ("nodes", .array nodes)]

mutual
/-- A node as JSON. -/
def Node.toJson : Node → Json
  | .element ⟨tag, attributes, children, position⟩ =>
    .object [("type", .string "element"), ("tag", .string tag),
      ("attributes", .array (attributesToJson attributes)),
      ("children", .array (nodesToJson children)), ("location", position.toJson)]
  | .text ⟨value, position⟩ =>
    .object [("type", .string "text"), ("value", .string value), ("location", position.toJson)]
  | .expression ⟨code, insets, position⟩ =>
    .object ([("type", .string "expression"), ("expression", .string code)] ++
      insetsToFields insets ++ [("location", position.toJson)])
/-- The value of an attribute as JSON. -/
def Value.toJson : Value → Json
  | .bare => .null
  | .static text => .string text
  | .dynamic ⟨code, insets, position⟩ =>
    .object ([("code", .string code)] ++ insetsToFields insets ++ [("location", position.toJson)])
/-- The field of insets, left out where there are none. -/
def insetsToFields : List Inset → List (String × Json)
  | [] => []
  | ⟨start, stop, fragment, nodes⟩ :: rest =>
    [("embedded", .array (insetToJson start stop fragment (nodesToJson nodes) :: insetsToJson rest))]
/-- Insets as JSON. -/
def insetsToJson : List Inset → List Json
  | [] => []
  | ⟨start, stop, fragment, nodes⟩ :: rest =>
    insetToJson start stop fragment (nodesToJson nodes) :: insetsToJson rest
/-- Nodes as JSON. -/
def nodesToJson : List Node → List Json
  | [] => []
  | node :: rest => Node.toJson node :: nodesToJson rest
/-- Attributes as JSON. -/
def attributesToJson : List Attribute → List Json
  | [] => []
  | ⟨name, value, position⟩ :: rest =>
    .object [("name", .string name), ("value", Value.toJson value), ("location", position.toJson)] ::
      attributesToJson rest
end

/-- An attribute as JSON. -/
def Attribute.toJson (entry : Attribute) : Json :=
  .object [("name", .string entry.name), ("value", entry.value.toJson),
    ("location", entry.position.toJson)]

/-- A document as JSON. -/
def Document.toJson (document : Document) : Json :=
  .object [("filePath", .string document.path), ("nodes", .array (nodesToJson document.nodes))]

theorem Json.sizeOf_lookup_lt {fields : List (String × Json)} {name : String} {json : Json}
    (h : fields.lookup name = some json) : sizeOf json < sizeOf fields := by
  induction fields with
  | nil => simp at h
  | cons field rest ih =>
    obtain ⟨key, value⟩ := field
    simp only [List.lookup_cons] at h
    split at h
    · cases h
      simp only [List.cons.sizeOf_spec, Prod.mk.sizeOf_spec]
      omega
    · have := ih h
      simp only [List.cons.sizeOf_spec, Prod.mk.sizeOf_spec]
      omega

theorem Json.sizeOf_field_lt {record json : Json} {place : Nat} {name : String}
    (h : record.field? place name = some json) : sizeOf json < sizeOf record := by
  cases record with
  | object fields =>
    have := Json.sizeOf_lookup_lt h
    simp only [Json.object.sizeOf_spec]
    omega
  | array items =>
    have := List.sizeOf_lt_of_mem (List.mem_of_getElem? h)
    simp only [Json.array.sizeOf_spec]
    omega
  | _ => simp [Json.field?] at h

theorem Json.sizeOf_items_lt {record : Json} {items : List Json} {place : Nat} {name : String}
    (h : record.field? place name = some (.array items)) : sizeOf items < sizeOf record := by
  have := Json.sizeOf_field_lt h
  simp only [Json.array.sizeOf_spec] at this
  omega

mutual
/-- The node that JSON stands for. Its type comes before the fields of its kind. -/
def Node.ofJson? (json : Json) : Option Node := do
  match ← json.required 0 "type" Json.text? with
  | "element" => return .element (← Element.ofJson? 1 json)
  | "text" =>
    json.checkRecord 3
    return .text ⟨← json.required 1 "value" Json.text?, ← positionField? json 2⟩
  | "expression" =>
    json.checkRecord 4
    let code ← json.required 1 "expression" Json.text?
    let insets ← insetsField? 2 json
    return .expression ⟨code, insets, ← positionField? json 3⟩
  | _ => none
termination_by (sizeOf json, 1)
/-- The element that JSON stands for, its fields starting at a place. -/
def Element.ofJson? (place : Nat) (json : Json) : Option Element := do
  json.checkRecord (place + 4)
  let tag ← json.required place "tag" Json.text?
  let attributes ← match _h : json.field? (place + 1) "attributes" with
    | some (.array items) => attributesOfJson? items
    | _ => none
  let children ← match _h : json.field? (place + 2) "children" with
    | some (.array items) => nodesOfJson? items
    | _ => none
  return ⟨tag, attributes, children, ← positionField? json (place + 3)⟩
termination_by (sizeOf json, 0)
decreasing_by all_goals exact Prod.Lex.left _ _ (Json.sizeOf_items_lt _h)
/-- The insets of an expression, if they are given. -/
def insetsField? (place : Nat) (json : Json) : Option (List Inset) :=
  match _h : json.field? place "embedded" with
  | some (.array items) => insetsOfJson? items
  | some _ => none
  | none => some []
termination_by (sizeOf json, 0)
decreasing_by exact Prod.Lex.left _ _ (Json.sizeOf_items_lt _h)
/-- The value of an attribute that JSON stands for. -/
def Value.ofJson? (json : Json) : Option Value :=
  match json with
  | .null => some .bare
  | .string text => some (.static text)
  | json => do
    json.checkRecord 3
    let code ← json.required 0 "code" Json.text?
    let insets ← insetsField? 1 json
    return .dynamic ⟨code, insets, ← positionField? json 2⟩
termination_by (sizeOf json, 1)
/-- The attribute that JSON stands for. -/
def Attribute.ofJson? (json : Json) : Option Attribute := do
  json.checkRecord 3
  let name ← json.required 0 "name" Json.text?
  let value ← match _h : json.field? 1 "value" with
    | some value => Value.ofJson? value
    | none => some .bare
  return ⟨name, value, ← positionField? json 2⟩
termination_by (sizeOf json, 0)
decreasing_by exact Prod.Lex.left _ _ (Json.sizeOf_field_lt _h)
/-- The inset that JSON stands for. -/
def Inset.ofJson? (json : Json) : Option Inset := do
  json.checkRecord 4
  let start ← json.required 0 "start" Json.word?
  let stop ← json.required 1 "end" Json.word?
  let fragment ← json.optional 2 "fragment" false Json.bool?
  let nodes ← match _h : json.field? 3 "nodes" with
    | some (.array items) => nodesOfJson? items
    | _ => none
  return ⟨start, stop, fragment, nodes⟩
termination_by (sizeOf json, 0)
decreasing_by exact Prod.Lex.left _ _ (Json.sizeOf_items_lt _h)
/-- The nodes that JSON values stand for. -/
def nodesOfJson? (items : List Json) : Option (List Node) :=
  match items with
  | [] => some []
  | item :: rest => do return (← Node.ofJson? item) :: (← nodesOfJson? rest)
termination_by (sizeOf items, 0)
/-- The attributes that JSON values stand for. -/
def attributesOfJson? (items : List Json) : Option (List Attribute) :=
  match items with
  | [] => some []
  | item :: rest => do return (← Attribute.ofJson? item) :: (← attributesOfJson? rest)
termination_by (sizeOf items, 0)
/-- The insets that JSON values stand for. -/
def insetsOfJson? (items : List Json) : Option (List Inset) :=
  match items with
  | [] => some []
  | item :: rest => do return (← Inset.ofJson? item) :: (← insetsOfJson? rest)
termination_by (sizeOf items, 0)
end

/-- The document that JSON stands for. -/
def Document.ofJson? (json : Json) : Option Document := do
  json.checkRecord 2
  return ⟨← json.required 0 "filePath" Json.text?,
    ← json.required 1 "nodes" fun nodes => nodes.items?.bind nodesOfJson?⟩

end MiniTemplate
