import MiniTemplate.Text.Blank

/-!
# Text between tags

Text written between tags is laid out over lines for the reader of the source.
Blanks where a line meets a line break are layout; blanks at the very start and
the very end of the text, and inside a line, are content. Lines that hold only
layout vanish and the others are joined by single spaces.
-/

namespace MiniTemplate.Text

/-- The lines of a text, split at line feeds only; there is always at least one. -/
def lines : List Char → List (List Char)
  | [] => [[]]
  | c :: cs =>
    if c = '\n' then [] :: lines cs
    else match lines cs with
      | [] => [[c]]
      | line :: rest => (c :: line) :: rest

/-- One line without its layout: carriage returns at its end always go, blanks
at its start stay only on the first line and blanks at its end only on the last. -/
def trimLine (first last : Bool) (line : List Char) : List Char :=
  let line := dropEndWhile (· == '\r') line
  let line := if first then line else trimStart line
  if last then line else trimEnd line

/-- The lines of a text without their layout, knowing whether the first of them
starts the text. -/
def trimLines (first : Bool) : List (List Char) → List (List Char)
  | [] => []
  | [line] => [trimLine first true line]
  | line :: rest => trimLine first false line :: trimLines false rest

/-- Lines joined by single spaces. -/
def joinLines : List (List Char) → List Char
  | [] => []
  | [line] => line
  | line :: rest => line ++ ' ' :: joinLines rest

/-- The content of a text between tags. -/
def flow (text : List Char) : List Char :=
  joinLines ((trimLines true (lines text)).filter (fun line => !line.isEmpty))

/-- The content of a text between tags. -/
def collapse (text : String) : String := String.ofList (flow text.toList)

end MiniTemplate.Text
