/-!
# Parsed scripts

The compiler looks into few constructs of a script: markup, and calls of a
property. A parsed script keeps these apart and of every other construct only
its parts, in the order in which they are written. Markup carries the byte range
it occupies in the script.
-/

namespace MiniTemplate.Script

/-- A range of bytes. -/
structure Span where
  /-- Offset of the first byte. -/
  start : Nat
  /-- Offset behind the last byte. -/
  stop : Nat
deriving DecidableEq, Repr

/-- A name of markup without members. -/
inductive PlainName where
  /-- One word, which may hold hyphens. -/
  | word (text : String)
  /-- A word in a namespace, before which a colon stands. -/
  | within (space text : String)
deriving DecidableEq, Repr

/-- What a member in the name of an element is looked up in. -/
inductive MemberObject where
  /-- The receiver, `this`. -/
  | this
  /-- A name that is read. -/
  | name (text : String)
  /-- A member of another object. -/
  | member (object : MemberObject) (property : String)
deriving DecidableEq, Repr

/-- The name of an element. -/
inductive TagName where
  /-- The receiver, `this`. -/
  | this
  /-- A name without members. -/
  | plain (name : PlainName)
  /-- A member of an object. -/
  | member (object : MemberObject) (property : String)
deriving DecidableEq, Repr

mutual
/-- A part of a script. -/
inductive Term where
  /-- The receiver, `this`. -/
  | this
  /-- A name that is read. -/
  | name (text : String)
  /-- A property looked up by its name; no part of an optional chain. -/
  | member (object : Term) (property : String)
  /-- A call; no part of an optional chain. -/
  | call (callee : Term) (arguments : List Term)
  /-- A term in parentheses. -/
  | group (inner : Term)
  /-- Markup. -/
  | markup (jsx : Jsx)
  /-- Any other construct: its parts in source order. -/
  | compound (parts : List Term)
/-- Markup: an element, or a fragment that only groups its children. -/
inductive Jsx where
  | element (span : Span) (tag : TagName) (attributes : List JsxAttribute) (children : List JsxChild)
  | fragment (span : Span) (children : List JsxChild)
/-- What stands in an opening tag behind the tag name. -/
inductive JsxAttribute where
  | named (span : Span) (name : PlainName) (value : JsxValue)
  /-- The attributes of an object, `...term` in braces. -/
  | spread (span : Span) (term : Term)
/-- The value of an attribute. -/
inductive JsxValue where
  /-- The attribute stands alone. -/
  | absent
  /-- A quoted text, taken as written. -/
  | quoted (raw : String)
  /-- An expression in braces. -/
  | container (span : Span) (term : Term)
  /-- Markup without braces. -/
  | markup (jsx : Jsx)
/-- A child of an element or fragment. -/
inductive JsxChild where
  | text (span : Span) (raw : String)
  | markup (jsx : Jsx)
  /-- An expression in braces. -/
  | container (span : Span) (term : Term)
  /-- Braces with nothing but blanks and comments between them. -/
  | empty (span : Span)
  /-- The children of an array, `...term` in braces. -/
  | spread (span : Span) (term : Term)
end

/-- The range that markup occupies. -/
def Jsx.span : Jsx → Span
  | .element span _ _ _ => span
  | .fragment span _ => span

/-- Whether markup is a fragment. -/
def Jsx.isFragment : Jsx → Bool
  | .element _ _ _ _ => false
  | .fragment _ _ => true

/-- A statement. -/
inductive Statement where
  /-- A quoted text standing alone, a directive where it leads the script. -/
  | quoted (raw : String)
  /-- Any other expression standing alone. -/
  | expression (term : Term)
  /-- Any other statement: its parts in source order. -/
  | other (parts : List Term)

/-- The parts of a statement in source order. -/
def Statement.parts : Statement → List Term
  | .quoted _ => []
  | .expression term => [term]
  | .other parts => parts

/-- Whether a statement is a quoted text standing alone. -/
def Statement.isQuoted : Statement → Bool
  | .quoted _ => true
  | _ => false

/-- A parsed script. -/
structure Program where
  /-- All statements, leading directives included. -/
  statements : List Statement

/-- The statements behind the leading directives. -/
def Program.body (program : Program) : List Statement :=
  program.statements.dropWhile Statement.isQuoted

/-- The parts of a script in source order. -/
def Program.parts (program : Program) : List Term :=
  program.statements.flatMap Statement.parts

end MiniTemplate.Script
