import MiniTemplate.Text.Blank
import MiniTemplate.Text.Bytes
import MiniTemplate.Text.Identifier
import MiniTemplate.Script.Token

/-!
# Reading tokens

Each reading rule takes the text left and the byte offset at which it starts,
and gives what it read and the cursor behind it, or nothing where the text is no
such token. All rules recurse on the text.
-/

namespace MiniTemplate.Script

open Text

/-- A place in a script: a byte offset and the text from there on. -/
structure Cursor where
  /-- Number of bytes before the place. -/
  offset : Nat
  /-- The text from the place on. -/
  text : List Char

/-- The characters that end a line. -/
def isLineBreak (c : Char) : Bool :=
  c == '\n' || c == '\r' || c.toNat == 0x2028 || c.toNat == 0x2029

/-- Characters that may stand between tokens and do not end a line. -/
def isSpace (c : Char) : Bool :=
  c.toNat == 0xFEFF || (isBlank c && !isLineBreak c)

/-- What the text between two tokens is part of. -/
inductive Gap where
  /-- Plain blanks. -/
  | blank
  /-- A comment up to the end of its line. -/
  | line
  /-- A comment with a closing mark. -/
  | block

/-- Skip blanks and comments. The flag tells whether a line ended on the way; a
comment left open is no gap. -/
def skipGap : Gap → List Char → Nat → Bool → Option (Cursor × Bool)
  | .blank, '/' :: '/' :: cs, n, broken => skipGap .line cs (n + 2) broken
  | .blank, '/' :: '*' :: cs, n, broken => skipGap .block cs (n + 2) broken
  | .blank, c :: cs, n, broken =>
    if isLineBreak c then skipGap .blank cs (n + c.utf8Size) true
    else if isSpace c then skipGap .blank cs (n + c.utf8Size) broken
    else some (⟨n, c :: cs⟩, broken)
  | .line, c :: cs, n, broken =>
    if isLineBreak c then skipGap .blank cs (n + c.utf8Size) true
    else skipGap .line cs (n + c.utf8Size) broken
  | .block, '*' :: '/' :: cs, n, broken => skipGap .blank cs (n + 2) broken
  | .block, c :: cs, n, broken => skipGap .block cs (n + c.utf8Size) (broken || isLineBreak c)
  | .block, [], _, _ => none
  | _, [], n, broken => some (⟨n, []⟩, broken)

/-- Value of a hexadecimal digit. -/
def hexDigit? (c : Char) : Option Nat :=
  if c.isDigit then some (c.toNat - '0'.toNat)
  else if 'a' ≤ c && c ≤ 'f' then some (c.toNat - 'a'.toNat + 10)
  else if 'A' ≤ c && c ≤ 'F' then some (c.toNat - 'A'.toNat + 10)
  else none

/-- Value of hexadecimal digits, if all of them are. -/
def hexValue? (digits : List Char) : Option Nat :=
  digits.foldlM (fun value c => (hexDigit? c).map (value * 16 + ·)) 0

/-- Whether hexadecimal digits in braces follow, standing for a code point. -/
def isBracedEscape : Nat → Bool → List Char → Bool
  | _, _, [] => false
  | value, some?, c :: cs =>
    if c == '}' then some?
    else match hexDigit? c with
      | some d => value * 16 + d ≤ 0x10FFFF && isBracedEscape (value * 16 + d) true cs
      | none => false

/-- Whether what follows `\u` is four hexadecimal digits or a code point in braces. -/
def isUnicodeEscape : List Char → Bool
  | '{' :: cs => isBracedEscape 0 false cs
  | a :: b :: c :: d :: _ => (hexValue? [a, b, c, d]).isSome
  | _ => false

/-- Whether what follows `\x` is two hexadecimal digits. -/
def isByteEscape : List Char → Bool
  | a :: b :: _ => (hexValue? [a, b]).isSome
  | _ => false

/-- The rest of a quoted text, behind its opening quote. Escapes are checked
and skipped; a line break must be escaped. -/
def scanQuoted (quote : Char) : List Char → Nat → Option Cursor
  | [], _ => none
  | '\\' :: '\r' :: '\n' :: cs, n => scanQuoted quote cs (n + 3)
  | '\\' :: c :: cs, n =>
    if (c == 'x' && !isByteEscape cs) || (c == 'u' && !isUnicodeEscape cs) then none
    else scanQuoted quote cs (n + 1 + c.utf8Size)
  | c :: cs, n =>
    if c == quote then some ⟨n + 1, cs⟩
    else if c == '\n' || c == '\r' || c == '\\' then none
    else scanQuoted quote cs (n + c.utf8Size)

/-- Whether an escape of a template literal has a meaning, given what follows the backslash. -/
def isSoundEscape : List Char → Bool
  | 'x' :: cs => isByteEscape cs
  | 'u' :: cs => isUnicodeEscape cs
  | '0' :: c :: _ => !c.isDigit
  | c :: _ => c == '0' || !c.isDigit
  | [] => false

/-- The rest of a piece of a template literal, up to its closing mark or its next hole. -/
def scanChunk : List Char → Nat → Bool → Option (Token × Cursor)
  | [], _, _ => none
  | '\x60' :: cs, n, sound => some (.chunk true sound, ⟨n + 1, cs⟩)
  | '$' :: '{' :: cs, n, sound => some (.chunk false sound, ⟨n + 2, cs⟩)
  | '\\' :: c :: cs, n, sound =>
    scanChunk cs (n + 1 + c.utf8Size) (sound && isSoundEscape (c :: cs))
  | c :: cs, n, sound => scanChunk cs (n + c.utf8Size) sound

/-- The rest of a regular expression's body; a slash inside a class of characters does not end it. -/
def scanPattern : Bool → List Char → Nat → Option Cursor
  | _, [], _ => none
  | inClass, '\\' :: c :: cs, n =>
    if isLineBreak c then none else scanPattern inClass cs (n + 1 + c.utf8Size)
  | inClass, c :: cs, n =>
    if isLineBreak c || c == '\\' then none
    else if c == '/' && !inClass then some ⟨n + 1, cs⟩
    else scanPattern (c == '[' || (inClass && c != ']')) cs (n + c.utf8Size)

/-- Whether regular-expression flags are known, not repeated, and not both `u` and `v`. -/
def areFlags : List Char → Bool
  | [] => true
  | c :: cs =>
    ['d', 'g', 'i', 'm', 's', 'u', 'v', 'y'].contains c && !cs.contains c &&
      !(c == 'u' && cs.contains 'v') && !(c == 'v' && cs.contains 'u') && areFlags cs

/-- Whether a character may stand among regular-expression flags. -/
def isFlagPart (c : Char) : Bool := c.isAlphanum || c == '$' || c == '_'

/-- A regular expression, behind its opening slash. -/
def scanRegExp (cs : List Char) (n : Nat) : Option Cursor := do
  let body ← scanPattern false cs n
  let flags := body.text.takeWhile isFlagPart
  if areFlags flags then some ⟨body.offset + flags.length, body.text.dropWhile isFlagPart⟩ else none

/-- The rest of a name, its characters so far being `read` in reverse. An
escape stands for its character, which must fit at its place; `braced` holds the
value of an open escape in braces. -/
def scanName : Option Nat → List Char → Nat → Bool → List Char → Option (List Char × Bool × Cursor)
  | none, '\\' :: 'u' :: '{' :: cs, n, _, read => scanName (some 0) cs (n + 3) true read
  | none, '\\' :: 'u' :: a :: b :: c :: d :: cs, n, _, read => do
    let value ← hexValue? [a, b, c, d]
    let fits := if read.isEmpty then isNameStart else isNamePart
    if value.isValidChar && fits (Char.ofNat value) then
      scanName none cs (n + 6) true (Char.ofNat value :: read)
    else none
  | none, c :: cs, n, escaped, read =>
    if c == '\\' then none
    else if (if read.isEmpty then isNameStart else isNamePart) c then
      scanName none cs (n + c.utf8Size) escaped (c :: read)
    else if read.isEmpty then none
    else some (read.reverse, escaped, ⟨n, c :: cs⟩)
  | none, [], n, escaped, read => if read.isEmpty then none else some (read.reverse, escaped, ⟨n, []⟩)
  | some value, '}' :: cs, n, _, read =>
    let fits := if read.isEmpty then isNameStart else isNamePart
    if value.isValidChar && fits (Char.ofNat value) then
      scanName none cs (n + 1) true (Char.ofNat value :: read)
    else none
  | some value, c :: cs, n, escaped, read => do
    let digit ← hexDigit? c
    if value * 16 + digit ≤ 0x10FFFF then scanName (some (value * 16 + digit)) cs (n + 1) escaped read
    else none
  | some _, [], _, _, _ => none

/-- Whether underscores stand singly and between digits; `after` tells whether a digit stands before. -/
def areSeparated : Bool → List Char → Bool
  | after, [] => after
  | after, c :: cs => if c == '_' then after && areSeparated false cs else areSeparated true cs

/-- A run of digits of a kind, possibly empty, with single underscores between them. -/
def scanDigits (isDigit : Char → Bool) (c : Cursor) : Option Cursor :=
  let run := c.text.takeWhile (fun d => isDigit d || d == '_')
  if run.isEmpty || areSeparated false run then some ⟨c.offset + run.length, c.text.drop run.length⟩
  else none

/-- At least one digit of a kind. -/
def scanDigits1 (isDigit : Char → Bool) (c : Cursor) : Option Cursor :=
  if (c.text.takeWhile isDigit).isEmpty then none else scanDigits isDigit c

/-- The exponent of a number, if one follows. -/
def scanExponent (c : Cursor) : Option Cursor :=
  match c.text with
  | e :: s :: cs =>
    if e == 'e' || e == 'E' then
      if s == '+' || s == '-' then scanDigits1 Char.isDigit ⟨c.offset + 2, cs⟩
      else scanDigits1 Char.isDigit ⟨c.offset + 1, s :: cs⟩
    else some c
  | [e] => if e == 'e' || e == 'E' then none else some c
  | [] => some c

/-- The fraction and the exponent of a number, if they follow. -/
def scanFraction (c : Cursor) : Option Cursor :=
  match c.text with
  | '.' :: cs => (scanDigits Char.isDigit ⟨c.offset + 1, cs⟩).bind scanExponent
  | _ => scanExponent c

/-- The mark of a big integer, if it follows. -/
def skipBig (c : Cursor) : Cursor :=
  match c.text with
  | 'n' :: cs => ⟨c.offset + 1, cs⟩
  | _ => c

/-- A number in a base named by a letter behind a zero. -/
def scanBased (isDigit : Char → Bool) (c : Cursor) : Option Cursor :=
  (scanDigits1 isDigit c).map skipBig

/-- A decimal number that starts with a digit, in full. -/
def scanDecimal (c : Cursor) : Option Cursor := do
  let digits ← scanDigits Char.isDigit c
  if digits.text.head? == some 'n' then some (skipBig digits) else scanFraction digits

/-- A number written with a leading zero: octal, unless a digit is too large for that. -/
def scanLeadingZero (c : Cursor) : Option Cursor :=
  let run := c.text.takeWhile Char.isDigit
  let digits := ⟨c.offset + run.length, c.text.drop run.length⟩
  if run.any (fun d => d == '8' || d == '9') then scanFraction digits else some digits

/-- A number, which no digit and no name may follow at once. -/
def scanNumber (c : Cursor) : Option Cursor := do
  let number ← match c.text with
    | '0' :: b :: cs =>
      let digits : Cursor := ⟨c.offset + 2, cs⟩
      if b == 'x' || b == 'X' then scanBased (fun d => (hexDigit? d).isSome) digits
      else if b == 'o' || b == 'O' then scanBased (fun d => '0' ≤ d && d ≤ '7') digits
      else if b == 'b' || b == 'B' then scanBased (fun d => d == '0' || d == '1') digits
      else if b.isDigit then scanLeadingZero c
      else if b == '_' then none
      else scanDecimal c
    | '.' :: _ => scanFraction c
    | _ => scanDecimal c
  match number.text with
  | d :: _ => if isNameStart d || d.isDigit || d == '\\' then none else some number
  | [] => some number

/-- The longest of some spellings that a text starts with. -/
def findMark (spellings : List (List Char × Mark)) (c : Cursor) : Option (Mark × Cursor) :=
  (spellings.find? (fun entry => entry.1.isPrefixOf c.text)).map fun entry =>
    (entry.2, ⟨c.offset + entry.1.length, c.text.drop entry.1.length⟩)

/-- A punctuator. A question mark before a fraction stands alone, and the
opening of a markup comment is no token. -/
def scanMark (c : Cursor) : Option (Mark × Cursor) :=
  match c.text with
  | '?' :: '.' :: d :: cs =>
    if d.isDigit then some (.question, ⟨c.offset + 1, '.' :: d :: cs⟩)
    else some (.chain, ⟨c.offset + 2, d :: cs⟩)
  | '?' :: '.' :: [] => some (.chain, ⟨c.offset + 2, []⟩)
  | '<' :: '!' :: '-' :: '-' :: _ => none
  | _ => findMark Mark.spellings c

/-- A quoted text, behind its opening quote. -/
def scanString (quote : Char) (cs : List Char) (n : Nat) : Option (Token × Cursor) :=
  (scanQuoted quote cs n).map fun behind =>
    (.quoted (String.ofList ((takeBytes? (behind.offset - n - 1) cs).getD [])), behind)

/-- The token at a place where no gap stands. -/
def scanToken (c : Cursor) : Option (Token × Cursor) :=
  match c.text with
  | [] => some (.done, c)
  | '\x22' :: cs => scanString '\x22' cs (c.offset + 1)
  | '\x27' :: cs => scanString '\x27' cs (c.offset + 1)
  | '\x60' :: cs => scanChunk cs (c.offset + 1) true
  | '#' :: cs =>
    (scanName none cs (c.offset + 1) false []).map fun (name, _, behind) =>
      (.hidden (String.ofList name), behind)
  | d :: cs =>
    if isNameStart d || d == '\\' then
      (scanName none (d :: cs) c.offset false []).map fun (name, escaped, behind) =>
        (.word (String.ofList name) escaped, behind)
    else if d.isDigit || (d == '.' && (cs.head?.any Char.isDigit)) then
      (scanNumber c).map fun behind => (.number, behind)
    else (scanMark c).map fun (m, behind) => (.mark m, behind)

end MiniTemplate.Script
