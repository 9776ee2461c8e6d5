import MiniTemplate.Script.Grammar.Binding

/-!
# Functions

Parameters, bodies, and the forms of functions built from them.
-/

namespace MiniTemplate.Script

open Script.Parser

/-- The parameters of a function. -/
structure Parameters where
  /-- Defaults and computed keys, in order. -/
  parts : List Term
  /-- Number of parameters besides a rest parameter. -/
  count : Nat
  /-- Whether there is a rest parameter. -/
  hasRest : Bool

/-- The parameters of a function, with their parentheses. A rest parameter comes
last, without a default and without a comma behind it. -/
def parameters (recur : Recur) (context : Context) : Parser Parameters := do
  mark .openParen
  loop (fun done : Parameters => do
    if ← skipMark .closeParen then return .inr done
    if ← skipMark .ellipsis then
      let rest ← recur (.binding context)
      mark .closeParen
      return .inr { done with parts := done.parts ++ rest.parts, hasRest := true }
    let element ← bindingElement recur context
    let done := { done with parts := done.parts ++ element.parts, count := done.count + 1 }
    if ← skipMark .closeParen then return .inr done
    mark .comma
    return .inl done) ⟨[], 0, false⟩

/-- Statements up to a closing brace, which is moved past. -/
def statementsToBrace (recur : Recur) (context : Context) : Parser (List Term) :=
  loop (fun done => do
    if ← skipMark .closeBrace then return .inr done
    let statement ← recur (.statement context false)
    return .inl (done ++ statement.parts)) []

/-- Statements in braces. -/
def block (recur : Recur) (context : Context) : Parser (List Term) := do
  mark .openBrace
  statementsToBrace recur context

/-- The parameters and body of a function. -/
def functionTail (recur : Recur) (async generator : Bool) : Parser (List Term) := do
  let context := Context.function async generator
  let parameters ← parameters recur context
  return parameters.parts ++ (← block recur context)

/-- A function as an expression, from `function` on; its name is bound inside it only. -/
def functionExpression (recur : Recur) (async : Bool) : Parser (List Term) := do
  word "function"
  let generator ← skipMark .star
  if !(← atMark .openParen) then
    let _ ← boundName (Context.function async generator)
  functionTail recur async generator

/-- A function as a declaration, from `function` on: its name, if it has one, and its
parts. -/
def functionDeclaration (recur : Recur) (context : Context) (async nameless single : Bool) :
    Parser (Option String × List Term) := do
  word "function"
  let generator ← skipMark .star
  require (!single || (!async && !generator))
  let name ← if nameless && (← atMark .openParen) then pure none else some <$> boundName context
  return (name, ← functionTail recur async generator)

/-- Whether a function follows that is marked as asynchronous. -/
def atAsyncFunction : Parser Bool := do
  if !(← atWord "async") then return false
  let follows ← lookahead do
    advance
    return (← atWord "function") && !(← newline)
  return follows.getD false

/-- What a property or class member is, besides its key. -/
structure Role where
  async : Bool
  generator : Bool
  getter : Bool
  setter : Bool

/-- A member that is none of the special kinds. -/
def Role.plain : Role := ⟨false, false, false, false⟩

/-- Whether a member is of a special kind. -/
def Role.isSpecial (role : Role) : Bool :=
  role.async || role.generator || role.getter || role.setter

/-- Whether a token other than a key of some kind follows the word ahead; used to
tell a modifier from a key of the same spelling. -/
def followedBy (accepts : Token → Bool) (sameLine : Bool) : Parser Bool := do
  let follows ← lookahead do
    advance
    return accepts (← token) && !(sameLine && (← newline))
  return follows.getD false

/-- The words and marks before a key that make it a method of a special kind. -/
def memberRole : Parser Role := do
  if ← atWord "async" then
    if ← followedBy (fun t => t.startsKey || t == .mark .star) true then
      advance
      return ⟨true, ← skipMark .star, false, false⟩
    else return .plain
  else if ← skipMark .star then return ⟨false, true, false, false⟩
  else if ← atWord "get" then
    if ← followedBy Token.startsKey false then
      advance
      return ⟨false, false, true, false⟩
    else return .plain
  else if ← atWord "set" then
    if ← followedBy Token.startsKey false then
      advance
      return ⟨false, false, false, true⟩
    else return .plain
  else return .plain

/-- The parameters and body of a method. A getter takes nothing and a setter one value. -/
def methodTail (recur : Recur) (role : Role) : Parser (List Term) := do
  let context := Context.function role.async role.generator
  let parameters ← parameters recur context
  require (!role.getter || (parameters.count == 0 && !parameters.hasRest))
  require (!role.setter || (parameters.count == 1 && !parameters.hasRest))
  return parameters.parts ++ (← block recur context)

end MiniTemplate.Script
