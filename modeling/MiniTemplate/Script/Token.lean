/-!
# Tokens of a script

A script is read token by token. Which token stands at a place can depend on
what the grammar expects there: a slash divides or opens a regular expression, a
brace ends a block or a hole of a template literal. The reading rules are in the
lexer; here are the tokens themselves.
-/

namespace MiniTemplate.Script

/-- The punctuators of a script. -/
inductive Mark where
  | openBrace | closeBrace | openParen | closeParen | openBracket | closeBracket
  | dot | ellipsis | semicolon | comma | colon | question | chain | arrow | decorate
  | less | greater | lessEq | greaterEq | equal | notEqual | same | notSame
  | plus | minus | star | slash | percent | power | increment | decrement
  | shiftLeft | shiftRight | shiftRightZero
  | bitAnd | bitOr | bitXor | bang | tilde | both | either | coalesce
  | assign
  /-- An assignment that also computes, such as `+=`. -/
  | compute
deriving DecidableEq, Repr

/-- Spelling of every mark but those that begin with `>`, longer spellings before
the shorter ones they begin with. -/
def Mark.spellings : List (List Char × Mark) := [
  (['.', '.', '.'], .ellipsis), (['=', '=', '='], .same), (['!', '=', '='], .notSame),
  (['*', '*', '='], .compute), (['<', '<', '='], .compute), (['&', '&', '='], .compute),
  (['|', '|', '='], .compute), (['?', '?', '='], .compute),
  (['=', '='], .equal), (['!', '='], .notEqual), (['<', '='], .lessEq), (['=', '>'], .arrow),
  (['+', '+'], .increment), (['-', '-'], .decrement), (['*', '*'], .power),
  (['<', '<'], .shiftLeft), (['&', '&'], .both), (['|', '|'], .either), (['?', '?'], .coalesce),
  (['+', '='], .compute), (['-', '='], .compute), (['*', '='], .compute), (['/', '='], .compute),
  (['%', '='], .compute), (['&', '='], .compute), (['|', '='], .compute), (['^', '='], .compute),
  (['{'], .openBrace), (['}'], .closeBrace), (['('], .openParen), ([')'], .closeParen),
  (['['], .openBracket), ([']'], .closeBracket), (['.'], .dot), ([';'], .semicolon),
  ([','], .comma), ([':'], .colon), (['?'], .question), (['@'], .decorate), (['<'], .less),
  (['>'], .greater), (['+'], .plus), (['-'], .minus), (['*'], .star), (['/'], .slash),
  (['%'], .percent), (['&'], .bitAnd), (['|'], .bitOr), (['^'], .bitXor), (['!'], .bang),
  (['~'], .tilde), (['='], .assign)]

/-- Spelling of the marks that begin with `>`, longest first. They are put
together only where an operator may stand, since elsewhere `>` ends a tag. -/
def Mark.closingSpellings : List (List Char × Mark) := [
  (['>', '>', '>', '='], .compute), (['>', '>', '>'], .shiftRightZero), (['>', '>', '='], .compute),
  (['>', '>'], .shiftRight), (['>', '='], .greaterEq), (['>'], .greater)]

/-- A token. -/
inductive Token where
  /-- The end of the script. -/
  | done
  /-- A name or a keyword, with the text its escapes stand for. -/
  | word (text : String) (escaped : Bool)
  /-- A private name, without its number sign. -/
  | hidden (text : String)
  /-- A number, of any notation. -/
  | number
  /-- A quoted text, as written between its quotes. -/
  | quoted (raw : String)
  /-- A piece of a template literal: whether the literal ends with it, and
  whether all its escapes are sound. -/
  | chunk (closes sound : Bool)
  /-- A regular expression. -/
  | pattern
  /-- A punctuator. -/
  | mark (m : Mark)
deriving DecidableEq, Repr

/-- Words that are never names. -/
def reservedWords : List String := [
  "break", "case", "catch", "class", "const", "continue", "debugger", "default", "delete", "do",
  "else", "enum", "export", "extends", "false", "finally", "for", "function", "if", "import", "in",
  "instanceof", "new", "null", "return", "super", "switch", "this", "throw", "true", "try",
  "typeof", "var", "void", "while", "with"]

/-- Whether a word is never a name. -/
def isReserved (text : String) : Bool := reservedWords.contains text

end MiniTemplate.Script
