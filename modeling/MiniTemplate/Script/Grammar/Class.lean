import MiniTemplate.Script.Grammar.Function

/-!
# Classes

Heritage, members, static blocks and decorators.
-/

namespace MiniTemplate.Script

open Script.Parser

/-- Decorators, as many as stand ahead. -/
def decorators (recur : Recur) (context : Context) : Parser (List Term) :=
  loop (fun done => do
    if ← skipMark .decorate then
      let decorator ← recur (.access { context.inner with decorates := true })
      return .inl (done ++ [← decorator.settle])
    return .inr done) []

/-- The context of a field's initial value. -/
def Context.field : Context := { Context.function false false with returns := false }

/-- The context of a static block. -/
def Context.staticBlock : Context := { Context.field with forbidsAwait := true }

/-- Whether a method may have its key: a constructor is an ordinary method and nothing
else may be called `prototype` on the class itself. -/
def isMethodKey (isStatic : Bool) (role : Role) (key : Key) : Bool :=
  if key.isHidden then key.text != some "constructor"
  else if isStatic then key.text != some "prototype"
  else key.text != some "constructor" || !role.isSpecial

/-- Whether a field may have its key. -/
def isFieldKey (isStatic : Bool) (key : Key) : Bool :=
  key.text != some "constructor" && (key.isHidden || !isStatic || key.text != some "prototype")

/-- A method or field, behind its decorators and `static`. -/
def classMember (recur : Recur) (context : Context) (isStatic : Bool) : Parser (List Term) := do
  let accessor ← do
    if ← atWord "accessor" then
      if ← followedBy Token.startsKey true then
        advance
        pure true
      else pure false
    else pure false
  let role ← if accessor then pure Role.plain else memberRole
  let key ← propertyKey recur context
  if ← atMark .openParen then
    require (!accessor && isMethodKey isStatic role key)
    return key.parts ++ (← methodTail recur role)
  require (!role.isSpecial && isFieldKey isStatic key)
  let value ← if ← skipMark .assign then (fun term => [term]) <$> recur.assignment Context.field else pure []
  semicolon
  return key.parts ++ value

/-- Whether a token can follow `static` as a modifier. -/
def Token.followsStatic (token : Token) : Bool :=
  token.startsKey || token == .mark .star || token == .mark .openBrace

/-- A member of a class. -/
def classElement (recur : Recur) (context : Context) : Parser (List Term) := do
  let decorators ← decorators recur context
  let isStatic ← do
    if ← atWord "static" then
      if ← followedBy Token.followsStatic false then
        advance
        pure true
      else pure false
    else pure false
  if isStatic && (← atMark .openBrace) then
    require decorators.isEmpty
    block recur Context.staticBlock
  else return decorators ++ (← classMember recur context isStatic)

/-- The members of a class, in braces. -/
def classBody (recur : Recur) (context : Context) : Parser (List Term) := do
  mark .openBrace
  loop (fun done => do
    if ← skipMark .closeBrace then return .inr done
    if ← skipMark .semicolon then return .inl done
    return .inl (done ++ (← classElement recur context))) []

/-- A class from `class` on: its name, if it has one, and its parts. -/
def classTail (recur : Recur) (context : Context) (nameless : Bool) :
    Parser (Option String × List Term) := do
  word "class"
  let isNameless := nameless && ((← atMark .openBrace) || (← atWord "extends"))
  let name ← if isNameless then pure none else some <$> boundName context
  let heritage ←
    if ← skipWord "extends" then
      let parent ← recur (.access context.inner)
      (fun term => [term]) <$> parent.settle
    else pure []
  return (name, heritage ++ (← classBody recur context.inner))

end MiniTemplate.Script
