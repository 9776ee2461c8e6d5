import MiniTemplate.Template.Basic

/-!
# Writing component trees

Trees are written in two notations. Markup for the template engine writes
expressions as interpolations in double braces and leaves out what only the
script side evaluates. Source notation is what stands inside expressions: the
code of an expression is its own text with the current form of every inset put
in place of the markup it was read from.
-/

namespace MiniTemplate

open Text

/-- A text with one character written as another text. -/
def replaceChar (c : Char) (text : String) (s : String) : String :=
  String.ofList (s.toList.flatMap fun d => if d = c then text.toList else [d])

/-- A fixed value between double quotes in markup. -/
def escapeValue (value : String) : String :=
  replaceChar '"' "&quot;" (replaceChar '&' "&amp;" value)

/-- A text put in place of a range of bytes. -/
structure Patch where
  /-- Offset of the first byte replaced. -/
  start : Nat
  /-- Offset behind the last byte replaced. -/
  stop : Nat
  /-- The text put there. -/
  text : String

/-- Code from a cursor on, with patches put in. The cursor never moves back, and a
stretch of code that a patch does not cut cleanly is left out. -/
def splice (code : List Char) : Nat → List Patch → String
  | cursor, [] => String.ofList (sliceFrom cursor code)
  | cursor, patch :: rest =>
    String.ofList (slice cursor patch.start code) ++ patch.text ++
      splice code (max cursor patch.stop) rest

mutual
/-- A node in source notation. -/
def Node.source : Node → String
  | .element element => Element.source element
  | .text run => run.value
  | .expression ⟨code, insets, _⟩ =>
    "\x7b" ++ splice code.toList 0 (insetPatches insets) ++ "\x7d"
/-- An element in source notation. -/
def Element.source : Element → String
  | ⟨tag, attributes, children, _⟩ =>
    "<" ++ tag ++ attributesSource attributes ++
      match children with
      | [] => " />"
      | first :: rest => ">" ++ Node.source first ++ nodesSource rest ++ "</" ++ tag ++ ">"
/-- Attributes in source notation, each behind a space. -/
def attributesSource : List Attribute → String
  | [] => ""
  | ⟨name, .bare, _⟩ :: rest => " " ++ name ++ attributesSource rest
  | ⟨name, .static text, _⟩ :: rest =>
    " " ++ name ++ "=\"" ++ replaceChar '"' "&quot;" text ++ "\"" ++ attributesSource rest
  | ⟨name, .dynamic ⟨code, insets, _⟩, _⟩ :: rest =>
    " " ++ name ++ "=\x7b" ++ splice code.toList 0 (insetPatches insets) ++ "\x7d" ++
      attributesSource rest
/-- Nodes in source notation. -/
def nodesSource : List Node → String
  | [] => ""
  | node :: rest => Node.source node ++ nodesSource rest
/-- What to put in place of insets: their nodes in source notation. -/
def insetPatches : List Inset → List Patch
  | [] => []
  | ⟨start, stop, fragment, nodes⟩ :: rest =>
    let text := if fragment then "<>" ++ nodesSource nodes ++ "</>" else nodesSource nodes
    ⟨start.toNat, stop.toNat, text⟩ :: insetPatches rest
end

/-- The current code of an expression. -/
def Expression.source (expression : Expression) : String :=
  splice expression.code.toList 0 (insetPatches expression.insets)

/-- An attribute in markup, behind a space. The expression of a reference is not written. -/
def Attribute.markup (entry : Attribute) : String :=
  if entry.name == expressionName then ""
  else
    " " ++ entry.name ++
      match entry.value with
      | .bare => ""
      | .static text => "=\"" ++ escapeValue text ++ "\""
      | .dynamic expression =>
        "=\"\x7b\x7b" ++ replaceChar '"' "&quot;" expression.source ++ "\x7d\x7d\""

/-- Attributes in markup. -/
def attributesMarkup : List Attribute → String
  | [] => ""
  | entry :: rest => entry.markup ++ attributesMarkup rest

mutual
/-- A node in markup. -/
def Node.markup : Node → String
  | .element ⟨tag, attributes, children, _⟩ =>
    "<" ++ tag ++ attributesMarkup attributes ++ ">" ++ nodesMarkup children ++ "</" ++ tag ++ ">"
  | .text run => run.value
  | .expression expression => "\x7b\x7b" ++ expression.source ++ "\x7d\x7d"
/-- Nodes in markup. -/
def nodesMarkup : List Node → String
  | [] => ""
  | node :: rest => Node.markup node ++ nodesMarkup rest
end

/-- A document in markup. -/
def Document.markup (document : Document) : String := nodesMarkup document.nodes

end MiniTemplate
