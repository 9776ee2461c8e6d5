import MiniTemplate.Position

/-!
# Component trees

A document is a list of trees made of elements, runs of text and script
expressions. An expression is kept as source text; markup written inside it is
held beside the text as insets, each with the range of bytes it occupies, so
that the passes can change it like any other tree.
-/

namespace MiniTemplate

/-- A run of literal text. -/
structure TextRun where
  /-- The text. -/
  value : String
  /-- Where it starts. -/
  position : Position
deriving DecidableEq, Repr

mutual
/-- A node of a component tree. -/
inductive Node where
  | element (element : Element)
  | text (run : TextRun)
  | expression (expression : Expression)
/-- An element with its attributes and children. -/
structure Element where
  /-- The tag name. -/
  tag : String
  /-- The attributes as written; names may repeat. -/
  attributes : List Attribute
  /-- The children. -/
  children : List Node
  /-- Where it starts. -/
  position : Position
/-- An attribute of an element. -/
structure Attribute where
  /-- The name. -/
  name : String
  /-- The value. -/
  value : Value
  /-- Where it starts. -/
  position : Position
/-- The value of an attribute. -/
inductive Value where
  /-- The attribute is a bare marker. -/
  | bare
  /-- A fixed text. -/
  | static (text : String)
  /-- The value of an expression. -/
  | dynamic (expression : Expression)
/-- An expression that is evaluated at run time. -/
structure Expression where
  /-- Its source text. -/
  code : String
  /-- The markup inside it. -/
  insets : List Inset
  /-- Where it starts. -/
  position : Position
/-- Markup inside an expression. -/
structure Inset where
  /-- Offset of its first byte in the expression's code. -/
  start : UInt32
  /-- Offset behind its last byte in the expression's code. -/
  stop : UInt32
  /-- Whether the markup is a fragment. -/
  fragment : Bool
  /-- Its nodes. -/
  nodes : List Node
end

/-- The trees of one source file. -/
structure Document where
  /-- Path of the file. -/
  path : String
  /-- The roots, in source order. -/
  nodes : List Node

/-- An element without attributes and children. -/
def Element.ofTag (tag : String) : Element := ⟨tag, [], [], .unknown⟩

/-- An attribute with a fixed text. -/
def Attribute.ofText (name text : String) : Attribute := ⟨name, .static text, .unknown⟩

/-- An attribute that stands where its expression stands. -/
def Attribute.ofExpression (name : String) (expression : Expression) : Attribute :=
  ⟨name, .dynamic expression, expression.position⟩

/-- A bare attribute. -/
def Attribute.marker (name : String) : Attribute := ⟨name, .bare, .unknown⟩

namespace Element

/-- The first attribute of a name. -/
def lookup? (element : Element) (name : String) : Option Attribute :=
  element.attributes.find? (fun entry => entry.name == name)

/-- Whether an element has an attribute of a name. -/
def hasAttribute (element : Element) (name : String) : Bool := (element.lookup? name).isSome

/-- The fixed text of an attribute; nothing where the first attribute of the name is
missing, bare or dynamic. -/
def staticText? (element : Element) (name : String) : Option String :=
  match element.lookup? name with
  | some ⟨_, .static text, _⟩ => some text
  | _ => none

/-- The expression of an attribute; nothing where the first attribute of the name is
missing, bare or fixed. -/
def expression? (element : Element) (name : String) : Option Expression :=
  match element.lookup? name with
  | some ⟨_, .dynamic expression, _⟩ => some expression
  | _ => none

end Element

/-- The tag of elements that stand for a dispatch template. -/
def templateTag : String := "template"

/-- The attribute that names the data key a reference reads. -/
def dataKeyName : String := "datakey"

/-- The attribute that holds the expression a reference stands for. -/
def expressionName : String := "tempVnode"

/-- The attribute that shows a reference only once its data is there. -/
def conditionName : String := "wx:if"

/-- The attribute that selects a dispatch template. -/
def selectorName : String := "is"

/-- The attribute that hands data to a dispatch template. -/
def dataName : String := "data"

/-- The attribute that marks references inside text containers. -/
def textMarkName : String := "isTextElement"

/-- Whether an element is a reference: a template with either half of a reference's shape. -/
def Element.isReference (element : Element) : Bool :=
  element.tag == templateTag &&
    (element.hasAttribute dataKeyName || element.hasAttribute expressionName)

end MiniTemplate
