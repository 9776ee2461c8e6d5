import MiniTemplate.Text.Bytes

/-!
# Positions in a source text

A position is a line and a column, both counted from one. Lines end at line
feeds only; columns count characters, not bytes. The offsets at which lines start
form a table in which the line of an offset is looked up.
-/

namespace MiniTemplate

open Text

/-- A line and a column. Both are zero where nothing is known. -/
structure Position where
  /-- The line, from one. -/
  line : UInt32
  /-- The column in characters, from one. -/
  column : UInt32
deriving DecidableEq, Repr

/-- The position of what has none. -/
def Position.unknown : Position := ⟨0, 0⟩

/-- The first position of every text. -/
def Position.first : Position := ⟨1, 1⟩

/-- Byte offsets behind the line feeds of a text that starts at an offset. -/
def lineStartsFrom : Nat → List Char → List Nat
  | _, [] => []
  | offset, c :: cs =>
    let rest := lineStartsFrom (offset + c.utf8Size) cs
    if c = '\n' then (offset + 1) :: rest else rest

/-- Byte offsets at which the lines of a text start, ascending. -/
def lineStarts (text : List Char) : List Nat := 0 :: lineStartsFrom 0 text

/-- Number of entries of an ascending table that are at most an offset. -/
def countUpTo (offset : Nat) (table : List Nat) : Nat := (table.takeWhile (· ≤ offset)).length

/-- The position of a byte offset in a text. An offset behind the end counts as the end. -/
def positionAt (text : List Char) (offset : Nat) : Position :=
  let offset := min offset (byteLength text)
  let starts := lineStarts text
  let line := countUpTo offset starts
  let lineStart := starts.getD (line - 1) 0
  ⟨UInt32.ofNat line, UInt32.ofNat ((slice lineStart offset text).length + 1)⟩

end MiniTemplate
