import MiniTemplate.Script.Parser

/-!
# Markup in scripts

Elements and fragments. Inside tags tokens are separated by blanks and comments as
everywhere; names may hold hyphens and quoted values have no escapes. Between tags
everything up to the next `<` or brace is text, which may hold neither `>` nor a
closing brace.
-/

namespace MiniTemplate.Script

open Script.Parser Text

/-- Whether a character may stand in a name of markup after its first character. -/
def isTagPart (c : Char) : Bool := c == '-' || isNamePart c

/-- A name of markup, as written: a word, which goes on over hyphens. -/
def tagWord (hyphens : Bool) : Parser String := do
  match ← token with
  | .word _ _ =>
    let reader ← get
    let written := String.ofList ((takeBytes? (reader.behind.offset - reader.start) reader.here).getD [])
    if reader.behind.text.head? == some '-' then
      require hyphens
      let more := reader.behind.text.takeWhile isTagPart
      let behind : Cursor :=
        ⟨reader.behind.offset + byteLength more, reader.behind.text.dropWhile isTagPart⟩
      let name := written ++ String.ofList more
      place ⟨reader.start, reader.here⟩ reader.newline (.word name false, behind)
      advance
      return name
    else
      advance
      return written
  | _ => failure

/-- A name without members, whose first word has been read: this word, or two words around a
colon. -/
def plainName (first : String) : Parser PlainName := do
  if ← skipMark .colon then return .within first (← tagWord true) else return .word first

/-- The name of an attribute. -/
def attributeName : Parser PlainName := do
  plainName (← tagWord true)

/-- The members behind an object, the first dot of which has been read: words between dots. -/
def memberName (object : MemberObject) : Parser TagName := do
  let property ← tagWord false
  loop (fun (object, property) => do
    if ← skipMark .dot then return .inl (.member object property, ← tagWord false)
    return .inr (.member object property)) (object, property)

/-- The name of an element: a name without members, or words between dots. -/
def tagName : Parser TagName := do
  let first ← tagWord true
  let isThis := first == "this"
  if ← skipMark .dot then memberName (if isThis then .this else .name first)
  else
    match ← plainName first with
    | .word _ => return if isThis then .this else .plain (.word first)
    | name => return .plain name

/-- The first token of an attribute's value, whose quoted text has no escapes. -/
def scanValue (cursor : Cursor) : Option (Token × Cursor) :=
  match cursor.text with
  | quote :: cs =>
    if quote == '\x22' || quote == '\x27' then
      let raw := cs.takeWhile (· != quote)
      match cs.dropWhile (· != quote) with
      | _ :: rest =>
        some (.quoted (String.ofList raw), ⟨cursor.offset + 2 + byteLength raw, rest⟩)
      | [] => none
    else scanToken cursor
  | [] => none

/-- The value of an attribute, ahead. An expression in braces may be neither empty nor a spread. -/
def attributeValue (recur : Recur) (context : Context) : Parser JsxValue := do
  match ← token with
  | .quoted raw =>
    advance
    return .quoted raw
  | .mark .openBrace =>
    let start ← start
    advance
    let term ← recur.expression context.inner
    let stop ← stop
    mark .closeBrace
    return .container ⟨start, stop⟩ term
  | .mark .less =>
    let jsx ← recur (.markup context.inner)
    advance
    return .markup jsx
  | _ => failure

/-- What stands in an opening tag behind the tag name, up to its end. -/
def attributes (recur : Recur) (context : Context) : Parser (List JsxAttribute) :=
  loop (fun done => do
    let start ← start
    match ← token with
    | .mark .openBrace =>
      advance
      mark .ellipsis
      let term ← recur.expression context.inner
      let stop ← stop
      mark .closeBrace
      return .inl (.spread ⟨start, stop⟩ term :: done)
    | .word _ _ =>
      let name ← attributeName
      if ← atMark .assign then
        advanceBy scanValue
        let value ← attributeValue recur context
        return .inl (.named ⟨start, ← last⟩ name value :: done)
      return .inl (.named ⟨start, ← last⟩ name .absent :: done)
    | _ => return .inr done.reverse) []

/-- Whether text between tags goes on over a character. -/
def isTextPart (c : Char) : Bool := c != '<' && c != '{'

/-- Make the single character at a place the token ahead. -/
def placeMark (cursor : Cursor) (m : Mark) : Parser Unit :=
  place cursor false (.mark m, ⟨cursor.offset + 1, cursor.text.tail⟩)

/-- The rest of a child in braces, whose opening brace is ahead. The closing one is left ahead. -/
def bracedChild (recur : Recur) (context : Context) : Parser JsxChild := do
  let start ← start
  advance
  if ← atMark .closeBrace then return .empty ⟨start, ← stop⟩
  let spread ← skipMark .ellipsis
  let term ← recur.expression context.inner
  require (← atMark .closeBrace)
  let span : Span := ⟨start, ← stop⟩
  return if spread then .spread span term else .container span term

/-- The children of an element or fragment, from behind the token ahead up to the
`<` of the closing tag. -/
def children (recur : Recur) (context : Context) : Parser (List JsxChild) :=
  loop (fun done => do
    let behind := (← get).behind
    let run := behind.text.takeWhile isTextPart
    require (!run.contains '>' && !run.contains '}')
    let cursor : Cursor := ⟨behind.offset + byteLength run, behind.text.dropWhile isTextPart⟩
    let done :=
      if run.isEmpty then done
      else .text ⟨behind.offset, cursor.offset⟩ (String.ofList run) :: done
    match cursor.text with
    | '{' :: _ =>
      placeMark cursor .openBrace
      return .inl ((← bracedChild recur context) :: done)
    | '<' :: _ =>
      placeMark cursor .less
      let closes ← lookahead do
        advance
        atMark .slash
      if ← liftM closes then return .inr done.reverse
      return .inl (.markup (← recur (.markup context.inner)) :: done)
    | _ => failure) []

/-- The children of an element or fragment and its closing tag, whose name must be
given again. The last `>` is left ahead. -/
def childrenToClose (recur : Recur) (context : Context) (closing : Parser Unit) :
    Parser (List JsxChild) := do
  let children ← children recur context
  mark .less
  mark .slash
  closing
  require (← atMark .greater)
  return children

/-- An element or fragment from its `<` on. Its last `>` is left ahead, since what
follows it may be text. -/
def markup (recur : Recur) (context : Context) : Parser Jsx := do
  let start ← start
  mark .less
  if ← atMark .greater then
    let children ← childrenToClose recur context (pure ())
    return .fragment ⟨start, ← stop⟩ children
  let tag ← tagName
  let attributes ← attributes recur context
  if ← skipMark .slash then
    require (← atMark .greater)
    return .element ⟨start, ← stop⟩ tag attributes []
  require (← atMark .greater)
  let children ← childrenToClose recur context do
    require ((← tagName) == tag)
  return .element ⟨start, ← stop⟩ tag attributes children

end MiniTemplate.Script
