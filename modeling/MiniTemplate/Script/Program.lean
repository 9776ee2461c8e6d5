import MiniTemplate.Script.Grammar.Expression
import MiniTemplate.Script.Grammar.Markup
import MiniTemplate.Script.Grammar.Statement

/-!
# Parsing whole scripts

The productions tied together. Every goal is read to a bounded depth; a script
of `n` bytes never nests deeper than a multiple of `n`, so the bound is no limit.
-/

namespace MiniTemplate.Script

open Script.Parser

/-- The production of a goal. -/
def produce (recur : Recur) : Recur
  | .assignment context => assignment recur context
  | .unary context => unary recur context
  | .access context => access recur context
  | .instantiation context => instantiation recur context
  | .binding context => bindingPattern recur context
  | .statement context isSingle => statement recur context isSingle
  | .markup context => markup recur context

/-- A parser for every goal that nests at most to a depth. -/
def read : Nat → Recur
  | 0, _ => failure
  | depth + 1, goal => produce (read depth) goal

/-- The text behind a first line that tells a shell what to run. -/
def skipShellLine (text : List Char) : Cursor :=
  match text with
  | '#' :: '!' :: cs =>
    let line := cs.takeWhile (fun c => !isLineBreak c)
    ⟨2 + Text.byteLength line, cs.dropWhile (fun c => !isLineBreak c)⟩
  | _ => ⟨0, text⟩

/-- The statements up to the end of the script. -/
def statementsToEnd (recur : Recur) : Parser (List Statement) :=
  loop (fun done => do
    if (← token) == .done then return .inr done.reverse
    return .inl ((← recur (.statement Context.outermost false)) :: done)) []

/-- Scripts are limited to offsets of 32 bits. -/
def maximalSize : Nat := 4294967295

/-- The parsed form of a script, if it is one. -/
def Program.parse? (text : List Char) : Option Program := do
  let size := Text.byteLength text
  guard (size ≤ maximalSize)
  let first := skipShellLine text
  let reader : Reader := ⟨.done, 0, text, first, 0, false, size, []⟩
  let (statements, _) ← (do advance; statementsToEnd (read (8 * (size + 2)))).run reader
  return ⟨statements⟩

end MiniTemplate.Script
