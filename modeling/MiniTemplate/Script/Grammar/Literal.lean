import MiniTemplate.Script.Grammar.Function

/-!
# Literals

Template, array and object literals, and parentheses. Array and object literals
may turn out to be patterns and parentheses to hold parameters, so their readings
say what else they might be.
-/

namespace MiniTemplate.Script

open Script.Parser

/-- The holes of a template literal whose first piece is ahead. Only a tag can
make sense of unsound escapes. -/
def templateHoles (recur : Recur) (context : Context) (tagged : Bool) : Parser (List Term) :=
  loop (fun done => do
    match ← token with
    | .chunk closes sound =>
      require (tagged || sound)
      advance
      if closes then return .inr done
      let term ← recur.expression context.inner
      require (← atMark .closeBrace)
      let behind := (← get).behind
      place behind false (← scanChunk behind.text behind.offset true)
      return .inl (done ++ [term])
    | _ => failure) []

/-- A literal under way: the terms so far, whether they all fit in a pattern, and
whether one holds a default that needs one. -/
structure Gathered where
  terms : List Term
  fits : Bool
  unsettled : Bool

/-- Nothing gathered yet. -/
def Gathered.empty : Gathered := ⟨[], true, false⟩

/-- Add terms that fit in a pattern or not. -/
def Gathered.add (gathered : Gathered) (terms : List Term) (fits unsettled : Bool) : Gathered :=
  ⟨gathered.terms ++ terms, gathered.fits && fits, gathered.unsettled || unsettled⟩

/-- The literal gathered, which must be a pattern if a default needs one. -/
def Gathered.literal (gathered : Gathered) : Parser Reading := do
  require (gathered.fits || !gathered.unsettled)
  return ⟨.compound gathered.terms, if gathered.fits then .pattern else .value, gathered.unsettled⟩

/-- The elements of an array literal, behind its opening bracket. -/
def arrayLiteral (recur : Recur) (context : Context) : Parser Reading := do
  let gathered ← loop (fun done : Gathered => do
    if ← skipMark .closeBracket then return .inr done
    if ← skipMark .comma then return .inl done
    let spread ← skipMark .ellipsis
    let element ← recur (.assignment context.inner)
    let fits :=
      if spread then element.form.isTarget else element.form.isElement
    if ← skipMark .closeBracket then return .inr (done.add [element.term] fits element.unsettled)
    mark .comma
    return .inl (done.add [element.term] (fits && !spread) element.unsettled)) Gathered.empty
  gathered.literal

/-- What a property of an object literal adds to it. -/
structure Property where
  parts : List Term
  fits : Bool
  unsettled : Bool

/-- A property of an object literal. -/
def objectProperty (recur : Recur) (context : Context) : Parser Property := do
  let role ← memberRole
  let key ← propertyKey recur context
  require (!key.isHidden)
  if role.isSpecial || (← atMark .openParen) then
    return ⟨key.parts ++ (← methodTail recur role), false, false⟩
  if ← skipMark .colon then
    let value ← recur (.assignment context.inner)
    return ⟨key.parts ++ [value.term], value.form.isElement, value.unsettled⟩
  match key.isWord, key.text with
  | true, some name =>
    require (context.isName name)
    if ← skipMark .assign then
      return ⟨[.name name, ← recur.assignment context.inner], true, true⟩
    return ⟨[.name name], true, false⟩
  | _, _ => failure

/-- The properties of an object literal, behind its opening brace. -/
def objectLiteral (recur : Recur) (context : Context) : Parser Reading := do
  let gathered ← loop (fun done : Gathered => do
    if ← skipMark .closeBrace then return .inr done
    if ← skipMark .ellipsis then
      let rest ← recur (.assignment context.inner)
      let done := done.add [rest.term] rest.form.isSimple rest.unsettled
      if ← skipMark .closeBrace then return .inr done
      mark .comma
      return .inl { done with fits := false }
    let property ← objectProperty recur context
    let done := done.add property.parts property.fits property.unsettled
    if ← skipMark .closeBrace then return .inr done
    mark .comma
    return .inl done) Gathered.empty
  gathered.literal

/-- What parentheses hold. -/
structure Grouped where
  readings : List Reading
  /-- Whether only parameters can be written like this. -/
  onlyParameters : Bool

/-- The contents of parentheses, behind the opening one. -/
def groupContents (recur : Recur) (context : Context) : Parser Grouped :=
  loop (fun done => do
    if ← skipMark .closeParen then return .inr ⟨done.reverse, true⟩
    if ← skipMark .ellipsis then
      let _ ← recur (.binding context.inner)
      mark .closeParen
      return .inr ⟨done.reverse, true⟩
    let next ← recur (.assignment context.inner)
    if ← skipMark .closeParen then return .inr ⟨(next :: done).reverse, false⟩
    mark .comma
    return .inl (next :: done)) []

/-- A term in parentheses, behind the opening one. What only parameters can hold is
refused unless an arrow follows. -/
def group (recur : Recur) (context : Context) : Parser Reading := do
  let contents ← groupContents recur context
  let beforeArrow ← atMark .arrow
  if contents.onlyParameters then
    require beforeArrow
    return .settled .parameters (.compound [])
  require (beforeArrow || contents.readings.all (fun reading => !reading.unsettled))
  match contents.readings with
  | [reading] => return .settled (.group reading.form.isSimple) (.group reading.term)
  | readings => return .settled (.group false) (.group (.compound (readings.map Reading.term)))

end MiniTemplate.Script
