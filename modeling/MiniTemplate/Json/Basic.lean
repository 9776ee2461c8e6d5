/-!
# JSON values

Values of JSON and the readings of them that the data model needs. A reading
gives nothing where the value is of another kind. A record is given as an object, or
as an array of its fields in their order; fields that have a default may be left out.
-/

namespace MiniTemplate

/-- A JSON value. -/
inductive Json where
  | null
  | bool (value : Bool)
  /-- The number `mantissa / 10 ^ places`. -/
  | number (mantissa : Int) (places : Nat)
  | string (value : String)
  | array (items : List Json)
  | object (fields : List (String × Json))
deriving Inhabited

namespace Json

/-- The whole number `n`. -/
def ofNat (n : Nat) : Json := .number n 0

/-- A text, or null. -/
def ofText? : Option String → Json
  | some text => .string text
  | none => .null

/-- A list of texts. -/
def ofTexts (texts : List String) : Json := .array (texts.map .string)

/-- Whether a value can be a record of a number of fields. -/
def isRecord (json : Json) (count : Nat) : Bool :=
  match json with
  | .object _ => true
  | .array items => items.length ≤ count
  | _ => false

/-- Fails unless a value can be a record of a number of fields. -/
def checkRecord (json : Json) (count : Nat) : Option Unit := guard (json.isRecord count)

/-- The value of a field of a record, by its place among the fields and its name. -/
def field? (json : Json) (place : Nat) (name : String) : Option Json :=
  match json with
  | .object fields => fields.lookup name
  | .array items => items[place]?
  | _ => none

/-- A truth value. -/
def bool? : Json → Option Bool
  | .bool value => some value
  | _ => none

/-- A text. -/
def text? : Json → Option String
  | .string value => some value
  | _ => none

/-- A text, or null for none. -/
def textOrNull? : Json → Option (Option String)
  | .null => some none
  | .string value => some (some value)
  | _ => none

/-- The items of an array. -/
def items? : Json → Option (List Json)
  | .array items => some items
  | _ => none

/-- A whole number of 32 bits. -/
def word? : Json → Option UInt32
  | .number (.ofNat n) 0 => if n < 4294967296 then some (UInt32.ofNat n) else none
  | _ => none

/-- A list, each item read in the same way. -/
def list? (read : Json → Option α) (json : Json) : Option (List α) :=
  json.items?.bind (fun items => items.mapM read)

/-- A list of texts. -/
def texts? (json : Json) : Option (List String) := json.list? text?

/-- A field that must be there. -/
def required (json : Json) (place : Nat) (name : String) (read : Json → Option α) : Option α :=
  (json.field? place name).bind read

/-- A field that has a default. -/
def optional (json : Json) (place : Nat) (name : String) (default : α) (read : Json → Option α) :
    Option α :=
  match json.field? place name with
  | some value => read value
  | none => some default

end Json

end MiniTemplate
