import MiniTemplate.Script.Parser

/-!
# Names and patterns that are bound

Declarations, parameters and exception handlers bind a name or a pattern that
takes a value apart. Keys of properties are read here too, since patterns,
object literals and classes share them.
-/

namespace MiniTemplate.Script

open Script.Parser

/-- A name to be bound. -/
def boundName (context : Context) : Parser String := do
  match ← token with
  | .word text _ =>
    require (context.isName text)
    advance
    return text
  | _ => failure

/-- The key of a property. -/
structure Key where
  /-- The term of a computed key. -/
  parts : List Term
  /-- The text of a key that is spelled out. -/
  text : Option String
  /-- Whether the key is a plain word. -/
  isWord : Bool
  /-- Whether the key is a private name. -/
  isHidden : Bool

/-- Whether a token can start the key of a property. -/
def Token.startsKey : Token → Bool
  | .word _ _ | .quoted _ | .number | .hidden _ | .mark .openBracket => true
  | _ => false

/-- The key of a property. -/
def propertyKey (recur : Recur) (context : Context) : Parser Key := do
  match ← token with
  | .word text _ =>
    advance
    return ⟨[], some text, true, false⟩
  | .quoted raw =>
    advance
    return ⟨[], some raw, false, false⟩
  | .number =>
    advance
    return ⟨[], none, false, false⟩
  | .hidden text =>
    advance
    return ⟨[], some text, false, true⟩
  | .mark .openBracket =>
    advance
    let term ← recur.assignment context.inner
    mark .closeBracket
    return ⟨[term], none, false, false⟩
  | _ => failure

/-- A pattern without names. -/
def Pattern.empty : Pattern := ⟨[], [], true⟩

/-- A pattern that also binds what another one binds. -/
def Pattern.add (whole part : Pattern) : Pattern :=
  ⟨whole.names ++ part.names, whole.parts ++ part.parts, true⟩

/-- The default of a pattern, if one follows. -/
def defaultValue (recur : Recur) (context : Context) : Parser (List Term) := do
  if ← skipMark .assign then return [← recur.assignment context.inner] else return []

/-- A pattern with an optional default. -/
def bindingElement (recur : Recur) (context : Context) : Parser Pattern := do
  let pattern ← recur (.binding context)
  return { pattern with parts := pattern.parts ++ (← defaultValue recur context) }

/-- The elements of an array pattern, behind its opening bracket. -/
def arrayPattern (recur : Recur) (context : Context) : Parser Pattern :=
  loop (fun done => do
    if ← skipMark .closeBracket then return .inr done
    if ← skipMark .comma then return .inl done
    if ← skipMark .ellipsis then
      let rest ← recur (.binding context)
      mark .closeBracket
      return .inr (done.add rest)
    let element ← bindingElement recur context
    if ← skipMark .closeBracket then return .inr (done.add element)
    mark .comma
    return .inl (done.add element)) Pattern.empty

/-- A property of an object pattern. -/
def propertyPattern (recur : Recur) (context : Context) : Parser Pattern := do
  let key ← propertyKey recur context
  require (!key.isHidden)
  if ← skipMark .colon then
    let element ← bindingElement recur context
    return { element with parts := key.parts ++ element.parts }
  match key.isWord, key.text with
  | true, some name =>
    require (context.isName name)
    return ⟨[name], ← defaultValue recur context, true⟩
  | _, _ => failure

/-- The properties of an object pattern, behind its opening brace. -/
def objectPattern (recur : Recur) (context : Context) : Parser Pattern :=
  loop (fun done => do
    if ← skipMark .closeBrace then return .inr done
    if ← skipMark .ellipsis then
      let name ← boundName context
      mark .closeBrace
      return .inr (done.add ⟨[name], [], true⟩)
    let property ← propertyPattern recur context
    if ← skipMark .closeBrace then return .inr (done.add property)
    mark .comma
    return .inl (done.add property)) Pattern.empty

/-- A name or pattern that is bound. -/
def bindingPattern (recur : Recur) (context : Context) : Parser Pattern := do
  if ← skipMark .openBracket then arrayPattern recur context
  else if ← skipMark .openBrace then objectPattern recur context
  else return ⟨[← boundName context], [], false⟩

end MiniTemplate.Script
