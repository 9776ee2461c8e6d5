import MiniTemplate.Script.Lexer
import MiniTemplate.Script.Tree

/-!
# Parsing steps

A parsing step looks at one token ahead and either fails or gives a result and
moves on. The token ahead is read as an ordinary token; steps that expect a
regular expression, a piece of a template literal or markup read the text at
that place again by their own rules.

Productions of the grammar are written without recursion, over an assumed
parser for every goal; `Goal` lists the goals through which the grammar recurses.
-/

namespace MiniTemplate.Script

/-- How far a script has been read. -/
structure Reader where
  /-- The token ahead. -/
  token : Token
  /-- Byte offset of the token ahead. -/
  start : Nat
  /-- The text from the token ahead on. -/
  here : List Char
  /-- The place behind the token ahead. -/
  behind : Cursor
  /-- Byte offset behind the token before. -/
  last : Nat
  /-- Whether a line ends between the token before and the token ahead. -/
  newline : Bool
  /-- Byte length of the script, which bounds every repetition. -/
  size : Nat
  /-- Names exported so far. -/
  exported : List String

/-- A parsing step. -/
abbrev Parser := StateT Reader Option

namespace Parser

/-- The token ahead. -/
def token : Parser Token := return (← get).token

/-- Byte offset of the token ahead. -/
def start : Parser Nat := return (← get).start

/-- Byte offset behind the token ahead. -/
def stop : Parser Nat := return (← get).behind.offset

/-- Byte offset behind the token before. -/
def last : Parser Nat := return (← get).last

/-- Whether a line ends before the token ahead. -/
def newline : Parser Bool := return (← get).newline

/-- Go on only under a condition. -/
def require (condition : Bool) : Parser Unit := if condition then pure () else failure

/-- Make the token that starts at `cursor` the token ahead. -/
def place (cursor : Cursor) (newline : Bool) (scanned : Token × Cursor) : Parser Unit :=
  modify fun reader =>
    { reader with
      token := scanned.1, start := cursor.offset, here := cursor.text, behind := scanned.2
      newline := newline }

/-- Move on to the next token, read by a given rule. -/
def advanceBy (rule : Cursor → Option (Token × Cursor)) : Parser Unit := do
  let reader ← get
  let (cursor, newline) ← skipGap .blank reader.behind.text reader.behind.offset false
  modify fun reader => { reader with last := reader.behind.offset }
  place cursor newline (← rule cursor)

/-- Move on to the next token. -/
def advance : Parser Unit := advanceBy scanToken

/-- Read the token ahead again by a rule of its own. -/
def rescan (rule : Cursor → Option (Token × Cursor)) : Parser Unit := do
  let reader ← get
  let cursor : Cursor := ⟨reader.start, reader.here⟩
  place cursor reader.newline (← rule cursor)

/-- Look at what a step would give, without moving on. Nothing is given where it fails. -/
def lookahead (step : Parser α) : Parser (Option α) := do
  let reader ← get
  return (step.run reader).map Prod.fst

/-- Whether a mark is ahead. -/
def atMark (m : Mark) : Parser Bool := return (← token) == .mark m

/-- Whether a word is ahead, written without escapes. -/
def atWord (text : String) : Parser Bool := return (← token) == .word text false

/-- Move past a mark, which must be ahead. -/
def mark (m : Mark) : Parser Unit := do
  require (← atMark m)
  advance

/-- Move past a mark if it is ahead, and tell whether it was. -/
def skipMark (m : Mark) : Parser Bool := do
  if ← atMark m then
    advance
    return true
  else return false

/-- Move past a word, which must be ahead. -/
def word (text : String) : Parser Unit := do
  require (← atWord text)
  advance

/-- Move past a word if it is ahead, and tell whether it was. -/
def skipWord (text : String) : Parser Bool := do
  if ← atWord text then
    advance
    return true
  else return false

/-- Put the marks that begin with `>` together, where an operator may stand. -/
def joinClosing : Parser Unit := do
  if ← atMark .greater then
    rescan fun cursor => (findMark Mark.closingSpellings cursor).map fun (m, behind) => (.mark m, behind)

/-- Repeat a step until it gives a result, at most a number of times. -/
def repeatAtMost (step : α → Parser (α ⊕ β)) : Nat → α → Parser β
  | 0, _ => failure
  | n + 1, state => do
    match ← step state with
    | .inl next => repeatAtMost step n next
    | .inr result => return result

/-- Repeat a step until it gives a result. Every repetition reads some text,
so that the length of the script bounds their number. -/
def loop (step : α → Parser (α ⊕ β)) (state : α) : Parser β := do
  repeatAtMost step ((← get).size + 2) state

/-- Items between commas up to a closing mark; a comma may end the list. -/
def items (close : Mark) (item : Parser α) : Parser (List α) :=
  loop (fun done => do
    if ← skipMark close then return .inr done.reverse
    let next ← item
    if ← skipMark .comma then return .inl (next :: done)
    mark close
    return .inr (next :: done).reverse) []

/-- The end of a statement: a semicolon, or a place where one may be left out. -/
def semicolon : Parser Unit := do
  if ← skipMark .semicolon then return
  let token ← token
  require (token == .mark .closeBrace || token == .done || (← newline))

end Parser

/-- Where in a script an expression or statement stands. -/
structure Context where
  /-- Whether `in` is an operator. -/
  allowsIn : Bool
  /-- Whether `yield` is an operator. -/
  yields : Bool
  /-- Whether `await` is an operator. -/
  awaits : Bool
  /-- Whether `await` may not stand here at all. -/
  forbidsAwait : Bool
  /-- Whether a function can be left with `return`. -/
  returns : Bool
  /-- Whether a decorator is being read, which a bracket ends. -/
  decorates : Bool

/-- The outermost context of a script. -/
def Context.outermost : Context := ⟨true, false, true, false, false, false⟩

/-- The context of what stands between brackets of any kind. -/
def Context.inner (context : Context) : Context :=
  { context with allowsIn := true, decorates := false }

/-- The context of the parameters and body of a function. -/
def Context.function (async generator : Bool) : Context :=
  ⟨true, generator, async, false, true, false⟩

/-- Whether a word is a name in a context. -/
def Context.isName (context : Context) (text : String) : Bool :=
  !isReserved text && !(text == "await" && (context.awaits || context.forbidsAwait)) &&
    !(text == "yield" && context.yields)

/-- What else an expression might turn out to be. -/
inductive Form where
  /-- Nothing else. -/
  | value
  /-- A name, which can be assigned to and be the parameter of an arrow function. -/
  | name
  /-- A property, which can be assigned to. -/
  | property
  /-- An array or object literal that can be read as a pattern. -/
  | pattern
  /-- Parentheses, which can hold the parameters of an arrow function; whether what
  they hold can be assigned to. -/
  | group (assignable : Bool)
  /-- Parentheses that can only be the parameters of an arrow function. -/
  | parameters
  /-- What can only be the parameters of an asynchronous arrow function. -/
  | asyncParameters
  /-- An assignment, which in a pattern is a target with a default. -/
  | defaulted
  /-- An operator before its operand. -/
  | unary
  /-- A private name before `in`. -/
  | hidden
  /-- An optional chain. -/
  | chain
  /-- A quoted text. -/
  | quoted (raw : String)
deriving DecidableEq

/-- Whether an expression can be assigned to as a whole. -/
def Form.isSimple : Form → Bool
  | .name | .property | .group true => true
  | _ => false

/-- Whether an expression can stand on the left of `=`. -/
def Form.isTarget (form : Form) : Bool := form.isSimple || form == .pattern

/-- Whether an expression can be an element of a pattern. -/
def Form.isElement (form : Form) : Bool := form.isTarget || form == .defaulted

/-- An expression as read, before what follows decides its role. -/
structure Reading where
  /-- The term read. -/
  term : Term
  /-- What else it might be. -/
  form : Form
  /-- Whether it holds a default that is legal only in a pattern. -/
  unsettled : Bool

/-- A reading without open questions. -/
def Reading.settled (form : Form) (term : Term) : Reading := ⟨term, form, false⟩

/-- A construct that is nothing but a value. -/
def Reading.compound (parts : List Term) : Reading := .settled .value (.compound parts)

/-- The term of an expression that stands as it is. -/
def Reading.settle (reading : Reading) : Parser Term := do
  Parser.require (!reading.unsettled)
  return reading.term

/-- What a declaration introduces. -/
structure Pattern where
  /-- The names bound, in order. -/
  names : List String
  /-- Defaults and computed keys, in order. -/
  parts : List Term
  /-- Whether it takes a value apart. -/
  destructures : Bool

/-- The goals through which the grammar recurses. -/
inductive Goal where
  /-- An expression without a comma. -/
  | assignment (context : Context)
  /-- An operand of a binary operator. -/
  | unary (context : Context)
  /-- An expression with its accesses and calls. -/
  | access (context : Context)
  /-- An instantiation, from `new` on. -/
  | instantiation (context : Context)
  /-- A name or pattern that a declaration binds. -/
  | binding (context : Context)
  /-- A statement; whether it stands alone, outside a list of statements. -/
  | statement (context : Context) (single : Bool)
  /-- Markup from its `<` on, leaving its last `>` ahead. -/
  | markup (context : Context)

/-- What reading a goal gives. -/
abbrev Goal.Result : Goal → Type
  | .assignment _ | .unary _ | .access _ | .instantiation _ => Reading
  | .binding _ => Pattern
  | .statement _ _ => Statement
  | .markup _ => Jsx

/-- A parser for every goal. -/
abbrev Recur := (goal : Goal) → Parser goal.Result

namespace Recur

/-- An expression without a comma. -/
def assignment (recur : Recur) (context : Context) : Parser Term := do
  (← recur (.assignment context)).settle

/-- An expression, with the parts of a sequence in order. -/
def sequence (recur : Recur) (context : Context) : Parser (List Term) :=
  Parser.loop (fun done => do
    let next ← recur.assignment context
    if ← Parser.skipMark .comma then return .inl (next :: done)
    return .inr (next :: done).reverse) []

/-- An expression. -/
def expression (recur : Recur) (context : Context) : Parser Term := do
  match ← recur.sequence context with
  | [term] => return term
  | terms => return .compound terms

/-- An expression in parentheses. -/
def parenthesized (recur : Recur) (context : Context) : Parser Term := do
  Parser.mark .openParen
  let term ← recur.expression context.inner
  Parser.mark .closeParen
  return term

end Recur

end MiniTemplate.Script
