import MiniTemplate.Diagnostic
import MiniTemplate.Template.Basic
import MiniTemplate.Text.Flow
import MiniTemplate.Script.Program

/-!
# Reading documents from scripts

Every outermost piece of markup in a script becomes a root of the document, in
source order; a fragment gives its children. Expressions keep their source text
between the braces, without blanks at its ends, and the markup inside them becomes
insets at offsets from the start of that text. What cannot be enumerated before
run time, spread attributes and children, is refused at its first occurrence;
empty braces between tags are dropped with a warning.
-/

namespace MiniTemplate

open Text Script

/-- The text of a name without members, with no blanks around its colon. -/
def Script.PlainName.text : PlainName → String
  | .word text => text
  | .within space text => space ++ ":" ++ text

/-- The text of what members are looked up in, with no blanks around dots. -/
def Script.MemberObject.text : MemberObject → String
  | .this => "this"
  | .name text => text
  | .member object property => object.text ++ "." ++ property

/-- The text of an element's name, which is the tag of the element. -/
def Script.TagName.text : TagName → String
  | .this => "this"
  | .plain name => name.text
  | .member object property => (MemberObject.member object property).text

/-- A source file. -/
structure Source where
  /-- Its path. -/
  path : String
  /-- Its text. -/
  text : List Char

namespace Source

/-- The diagnostic of a cause at a byte offset. -/
def diagnose (source : Source) (cause : Cause) (offset : Nat) : Diagnostic :=
  cause.diagnose source.path (positionAt source.text offset)

/-- The text of a range without blanks at its ends, and the offset at which it starts. -/
def trimmed (source : Source) (span : Span) : String × Nat :=
  let raw := slice span.start span.stop source.text
  (String.ofList (trim raw), span.start + (byteLength raw - byteLength (trimStart raw)))

/-- The range between the braces around an expression. -/
def between (span : Span) : Span := ⟨span.start + 1, max (span.stop - 1) (span.start + 1)⟩

/-- An inset at its offset from the start of the code around it. -/
def inset (base : Nat) (jsx : Jsx) (nodes : List Node) : Inset :=
  ⟨UInt32.ofNat (jsx.span.start - base), UInt32.ofNat (jsx.span.stop - base), jsx.isFragment, nodes⟩

/-- An expression in braces, with its insets. -/
def bracedExpression (source : Source) (span : Span) (insets : List Inset) : Expression :=
  ⟨(source.trimmed (between span)).1, insets, positionAt source.text span.start⟩

/-- Markup that is an expression as a whole. -/
def markupExpression (source : Source) (jsx : Jsx) (nodes : List Node) : Expression :=
  let (code, base) := source.trimmed jsx.span
  ⟨code, [inset base jsx nodes], positionAt source.text jsx.span.start⟩

end Source

/-- Reading a document: warnings are gathered until something is refused. -/
abbrev Gather := StateT (List Diagnostic) (Except Diagnostic)

/-- Leave a warning behind. -/
def warn (warning : Diagnostic) : Gather Unit := modify (· ++ [warning])

mutual
/-- The nodes of markup: one element, or the children of a fragment. -/
def Source.nodes (source : Source) : Jsx → Gather (List Node)
  | .element span tag attributes children => do
    let attributes ← source.attributes attributes
    let children ← source.children children
    return [.element ⟨tag.text, attributes, children, positionAt source.text span.start⟩]
  | .fragment _ children => source.children children
/-- The attributes of an element. -/
def Source.attributes (source : Source) : List JsxAttribute → Gather (List Attribute)
  | [] => pure []
  | .named span name value :: rest => do
    let value ← source.value value
    let rest ← source.attributes rest
    return ⟨name.text, value, positionAt source.text span.start⟩ :: rest
  | .spread span _ :: _ => throw (source.diagnose .spreadAttribute span.start)
/-- The value of an attribute. -/
def Source.value (source : Source) : JsxValue → Gather Value
  | .absent => pure .bare
  | .quoted raw => pure (.static raw)
  | .container span term => do
    let insets ← source.insets (source.trimmed (Source.between span)).2 term
    return .dynamic (source.bracedExpression span insets)
  | .markup jsx => do
    let nodes ← source.nodes jsx
    return .dynamic (source.markupExpression jsx nodes)
/-- The children of an element or fragment. -/
def Source.children (source : Source) : List JsxChild → Gather (List Node)
  | [] => pure []
  | .text span raw :: rest => do
    let value := collapse raw
    let rest ← source.children rest
    return if value == "" then rest else .text ⟨value, positionAt source.text span.start⟩ :: rest
  | .markup jsx :: rest => do
    let nodes ← source.nodes jsx
    let rest ← source.children rest
    return nodes ++ rest
  | .container span term :: rest => do
    let insets ← source.insets (source.trimmed (Source.between span)).2 term
    let rest ← source.children rest
    return .expression (source.bracedExpression span insets) :: rest
  | .empty span :: rest => do
    warn (source.diagnose .emptyExpression span.start)
    source.children rest
  | .spread span _ :: _ => throw (source.diagnose .spreadChild span.start)
/-- The outermost markup in a term, at offsets from a base. -/
def Source.insets (source : Source) (base : Nat) : Term → Gather (List Inset)
  | .this | .name _ => pure []
  | .member object _ => source.insets base object
  | .call callee arguments => do
    let first ← source.insets base callee
    let rest ← source.insetsOfAll base arguments
    return first ++ rest
  | .group inner => source.insets base inner
  | .markup jsx => do
    let nodes ← source.nodes jsx
    return [Source.inset base jsx nodes]
  | .compound parts => source.insetsOfAll base parts
/-- The outermost markup in terms, at offsets from a base. -/
def Source.insetsOfAll (source : Source) (base : Nat) : List Term → Gather (List Inset)
  | [] => pure []
  | term :: rest => do
    let first ← source.insets base term
    let rest ← source.insetsOfAll base rest
    return first ++ rest
end

/-- The document of a parsed source and the warnings on the way, or what is wrong with it. -/
def Source.documentOf (source : Source) (program : Program) :
    Except Diagnostic (Document × List Diagnostic) := do
  let (roots, warnings) ← (source.insetsOfAll 0 program.parts).run []
  if roots.isEmpty then .error (Cause.noMarkup.diagnose source.path .first)
  else return (⟨source.path, roots.flatMap Inset.nodes⟩, warnings)

/-- The document of a source and the warnings on the way, or what is wrong with it. -/
def Source.document (source : Source) : Except Diagnostic (Document × List Diagnostic) :=
  match Program.parse? source.text with
  | some program => source.documentOf program
  | none => .error (Cause.malformed.diagnose source.path .first)

end MiniTemplate
