import MiniTemplate.Diagnostic

/-!
# File paths

A path is read as a list of parts. Repeated slashes and single dots say nothing,
except that a slash or a dot at the very start is a part of its own.
-/

namespace MiniTemplate

/-- A part of a path. -/
inductive PathPart where
  /-- The slash at the start of an absolute path. -/
  | root
  /-- A single dot at the start of a path. -/
  | current
  /-- Two dots. -/
  | up
  /-- The name of a file or directory. -/
  | name (text : String)
deriving DecidableEq, Repr

/-- The texts between the slashes of a path, empty ones included. -/
def pathSegments : List Char → List (List Char)
  | [] => [[]]
  | c :: cs =>
    if c = '/' then [] :: pathSegments cs
    else match pathSegments cs with
      | [] => [[c]]
      | segment :: rest => (c :: segment) :: rest

/-- The part that a segment behind the first is, if it says anything. -/
def pathPart? (segment : List Char) : Option PathPart :=
  if segment = [] || segment = ['.'] then none
  else if segment = ['.', '.'] then some .up
  else some (.name (String.ofList segment))

/-- The parts of a path. -/
def pathParts (path : String) : List PathPart :=
  match pathSegments path.toList with
  | [] :: rest =>
    if path = "" then [] else .root :: rest.filterMap pathPart?
  | ['.'] :: rest => .current :: rest.filterMap pathPart?
  | segments => segments.filterMap pathPart?

/-- The parts of the directory that holds what a path names; none for a path without one. -/
def directoryParts (path : String) : List PathPart :=
  let parts := pathParts path
  match parts.getLast? with
  | some .root => []
  | _ => parts.dropLast

/-- The parts behind a list of leading parts, or all of them where they do not lead. -/
def partsBelow (leading parts : List PathPart) : List PathPart :=
  if leading.isPrefixOf parts then parts.drop leading.length else parts

/-- Whether a part names a directory to go down into. -/
def PathPart.isName : PathPart → Bool
  | .name _ => true
  | _ => false

/-- The relative path that goes up a number of directories. -/
def goUp (depth : Nat) : String :=
  if depth = 0 then "." else joinWith "/" (List.replicate depth "..")

/-- The relative path from the directory of a file up to a root directory. -/
def pathToRoot (file root : String) : String :=
  goUp ((partsBelow (pathParts root) (directoryParts file)).filter PathPart.isName).length

end MiniTemplate
