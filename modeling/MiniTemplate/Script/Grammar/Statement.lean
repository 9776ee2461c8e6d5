import MiniTemplate.Script.Grammar.Expression
import MiniTemplate.Script.Grammar.Module

/-!
# Statements

Declarations, control flow, labels and expressions that stand alone.
-/

namespace MiniTemplate.Script

open Script.Parser

/-- A declared name or pattern with its initial value. -/
structure Declarator where
  /-- What is bound. -/
  pattern : Pattern
  /-- The initial value, if one is given. -/
  value : Option Term

/-- The parts of a declarator in source order. -/
def Declarator.parts (declarator : Declarator) : List Term :=
  declarator.pattern.parts ++ declarator.value.toList

/-- Whether a declarator needs no further value: constants and patterns do. -/
def Declarator.isComplete (constant : Bool) (declarator : Declarator) : Bool :=
  declarator.value.isSome || !(constant || declarator.pattern.destructures)

/-- The declarators of a declaration, behind its keyword. -/
def declarators (recur : Recur) (context : Context) : Parser (List Declarator) :=
  loop (fun done => do
    let pattern ← recur (.binding context)
    let value ← if ← skipMark .assign then some <$> recur.assignment context else pure none
    let done := ⟨pattern, value⟩ :: done
    if ← skipMark .comma then return .inl done
    return .inr done.reverse) []

/-- Declarators as a statement of their own: the names bound and the parts. -/
def declaration (recur : Recur) (context : Context) (constant : Bool) :
    Parser (List String × List Term) := do
  advance
  let declarators ← declarators recur context
  require (declarators.all (Declarator.isComplete constant))
  semicolon
  return (declarators.flatMap (fun d => d.pattern.names), declarators.flatMap Declarator.parts)

/-- Whether a token can be the first of what is bound. -/
def Token.startsBinding : Token → Bool
  | .word text _ => !isReserved text
  | .mark .openBracket | .mark .openBrace => true
  | _ => false

/-- Whether a token is a name that is not reserved. -/
def Token.isFreeWord : Token → Bool
  | .word text _ => !isReserved text
  | _ => false

/-- Whether a declaration of resources starts here. -/
def atUsing : Parser Bool := do
  if ← atWord "using" then followedBy Token.isFreeWord true else return false

/-- Whether a declaration of asynchronous resources starts here. -/
def atAwaitUsing (context : Context) : Parser Bool := do
  if !context.awaits || !(← atWord "await") then return false
  let follows ← lookahead do
    advance
    return (← atUsing) && !(← newline)
  return follows.getD false

/-- A statement that stands in place of a list of statements. -/
def single (recur : Recur) (context : Context) : Parser (List Term) := do
  return (← recur (.statement context true)).parts

/-- An expression that stands alone, or a label and its statement. -/
def expressionStatement (recur : Recur) (context : Context) : Parser Statement := do
  let first ← recur (.assignment context)
  if first.form == .name && (← atMark .colon) then
    advance
    return .other (← single recur context)
  let first' ← first.settle
  if ← skipMark .comma then
    let rest ← recur.sequence context
    semicolon
    return .expression (.compound (first' :: rest))
  semicolon
  match first.form with
  | .quoted raw => return .quoted raw
  | _ => return .expression first'

/-- A choice between two statements, behind `if`. -/
def ifStatement (recur : Recur) (context : Context) : Parser (List Term) := do
  let test ← recur.parenthesized context
  let yes ← single recur context
  let no ← if ← skipWord "else" then single recur context else pure []
  return test :: yes ++ no

/-- The two last clauses of a counting loop, behind the first semicolon, and its body. -/
def countingTail (recur : Recur) (context : Context) : Parser (List Term) := do
  let test ← if ← atMark .semicolon then pure [] else recur.sequence context
  mark .semicolon
  let step ← if ← atMark .closeParen then pure [] else recur.sequence context
  mark .closeParen
  return test ++ step ++ (← single recur context)

/-- What a loop goes over, and its body. -/
def eachTail (recur : Recur) (context : Context) : Parser (List Term) := do
  let subject ←
    if ← skipWord "of" then (fun term => [term]) <$> recur.assignment context
    else
      word "in"
      recur.sequence context
  mark .closeParen
  return subject ++ (← single recur context)

/-- A loop whose head declares its variables. Only a loop over values can be awaited. -/
def declaringLoop (recur : Recur) (context : Context) (awaited constant : Bool) :
    Parser (List Term) := do
  advance
  let declarators ← declarators recur { context with allowsIn := false }
  let parts := declarators.flatMap Declarator.parts
  require (!awaited || (← atWord "of"))
  if (← atWord "of") || (← atWord "in") then return parts ++ (← eachTail recur context)
  require (declarators.all (Declarator.isComplete constant))
  mark .semicolon
  return parts ++ (← countingTail recur context)

/-- A loop whose head assigns to something, or only computes. Only a loop over values
can be awaited. -/
def assigningLoop (recur : Recur) (context : Context) (awaited : Bool) : Parser (List Term) := do
  let isAsyncOf ← do
    if ← atWord "async" then followedBy (· == .word "of" false) false else pure false
  let first ← recur (.assignment { context with allowsIn := false })
  require (!awaited || (← atWord "of"))
  if (← atWord "of") || (← atWord "in") then
    require (first.form.isTarget && (awaited || !isAsyncOf))
    return first.term :: (← eachTail recur context)
  let term ← first.settle
  let rest ←
    if ← skipMark .comma then recur.sequence { context with allowsIn := false } else pure []
  mark .semicolon
  return term :: rest ++ (← countingTail recur context)

/-- A loop with a head, behind `for`. -/
def forStatement (recur : Recur) (context : Context) : Parser (List Term) := do
  let awaited ← if context.awaits then skipWord "await" else pure false
  mark .openParen
  if ← skipMark .semicolon then
    require (!awaited)
    countingTail recur context
  else if ← atWord "var" then declaringLoop recur context awaited false
  else if ← atWord "const" then declaringLoop recur context awaited true
  else if (← atWord "let") && (← followedBy Token.startsBinding false) then
    declaringLoop recur context awaited false
  else if (← atUsing) && !(← followedBy (· == .word "of" false) true) then
    declaringLoop recur context awaited true
  else if ← atAwaitUsing context then
    advance
    declaringLoop recur context awaited true
  else assigningLoop recur context awaited

/-- The statements of a case of a `switch`. -/
def caseStatements (recur : Recur) (context : Context) : Parser (List Term) :=
  loop (fun done => do
    if (← atWord "case") || (← atWord "default") || (← atMark .closeBrace) then return .inr done
    return .inl (done ++ (← recur (.statement context false)).parts)) []

/-- A choice between cases, behind `switch`. -/
def switchStatement (recur : Recur) (context : Context) : Parser (List Term) := do
  let subject ← recur.parenthesized context
  mark .openBrace
  loop (fun done => do
    if ← skipMark .closeBrace then return .inr done
    let test ←
      if ← skipWord "default" then pure []
      else
        word "case"
        recur.sequence context
    mark .colon
    return .inl (done ++ test ++ (← caseStatements recur context))) [subject]

/-- A guarded block, behind `try`, which has a handler or a final block. -/
def tryStatement (recur : Recur) (context : Context) : Parser (List Term) := do
  let guarded ← block recur context
  let hasHandler ← atWord "catch"
  let handler ←
    if ← skipWord "catch" then
      let parameter ←
        if ← skipMark .openParen then
          let pattern ← recur (.binding context)
          mark .closeParen
          pure pattern.parts
        else pure []
      pure (parameter ++ (← block recur context))
    else pure []
  let hasFinal ← atWord "finally"
  let final ← if ← skipWord "finally" then block recur context else pure []
  require (hasHandler || hasFinal)
  return guarded ++ handler ++ final

/-- The label of a jump, if one stands on its line. -/
def jump (context : Context) : Parser (List Term) := do
  if !(← newline) && (← token).isFreeWord then
    let _ ← boundName context
  semicolon
  return []

/-- The value given back, if one stands on the line of `return`. -/
def returnStatement (recur : Recur) (context : Context) : Parser (List Term) := do
  require context.returns
  let token ← token
  if token == .mark .semicolon || token == .mark .closeBrace || token == .done || (← newline) then
    semicolon
    return []
  let parts ← recur.sequence context
  semicolon
  return parts

/-- The value thrown, which stands on the line of `throw`. -/
def throwStatement (recur : Recur) (context : Context) : Parser (List Term) := do
  require (!(← newline))
  let parts ← recur.sequence context
  semicolon
  return parts

/-- A loop that tests behind its body, behind `do`. -/
def doStatement (recur : Recur) (context : Context) : Parser (List Term) := do
  let body ← single recur context
  word "while"
  let test ← recur.parenthesized context
  let _ ← skipMark .semicolon
  return body ++ [test]

/-- A condition in parentheses and the statement it governs. -/
def governed (recur : Recur) (context : Context) : Parser (List Term) := do
  let head ← recur.parenthesized context
  return head :: (← single recur context)

/-- Whether a token shows that the word `let` before it is a name. -/
def Token.followsLetName (token : Token) : Bool :=
  token.operator?.isSome ||
    [.assign, .compute, .dot, .openParen, .semicolon].any (token == .mark ·)

/-- What `let` starts: a declaration, unless what follows shows that it is a name. -/
def letStatement (recur : Recur) (context : Context) (isSingle : Bool) : Parser Statement := do
  let next ← lookahead do
    advance
    token
  let next ← liftM next
  if next.followsLetName || (isSingle && next != .mark .openBracket) then
    expressionStatement recur context
  else
    require (!isSingle)
    return .other (← declaration recur context false).2

/-- A class declaration. -/
def classStatement (recur : Recur) (context : Context) (isSingle : Bool) : Parser (List Term) := do
  require (!isSingle)
  return (← classTail recur context false).2

/-- A declaration that is exported, behind `export`. -/
def exportedDeclaration (recur : Recur) (context : Context) : Parser (List Term) := do
  if (← atWord "var") || (← atWord "let") then
    let (names, parts) ← declaration recur context false
    exportNames names
    return parts
  else if ← atWord "const" then
    let (names, parts) ← declaration recur context true
    exportNames names
    return parts
  else if ← atWord "function" then
    let (name, parts) ← functionDeclaration recur context false false false
    exportNames name.toList
    return parts
  else if ← atAsyncFunction then
    advance
    let (name, parts) ← functionDeclaration recur context true false false
    exportNames name.toList
    return parts
  else
    let decorators ← decorators recur context
    let (name, parts) ← classTail recur context false
    exportNames name.toList
    return decorators ++ parts

/-- An export, behind `export`. -/
def exportDeclaration (recur : Recur) (context : Context) : Parser (List Term) := do
  if ← skipWord "default" then exportDefault recur context
  else if ← skipMark .star then
    exportAll context
    return []
  else if ← skipMark .openBrace then
    exportList context
    return []
  else exportedDeclaration recur context

/-- A decorated class, possibly exported. -/
def decoratedStatement (recur : Recur) (context : Context) (isSingle : Bool) : Parser (List Term) := do
  let decorators ← decorators recur context
  if ← skipWord "export" then
    require (!isSingle)
    let isDefault ← skipWord "default"
    let (name, parts) ← classTail recur context isDefault
    exportNames (if isDefault then ["default"] else name.toList)
    return decorators ++ parts
  return decorators ++ (← classStatement recur context isSingle)

/-- A statement that starts with a word. -/
def wordStatement (recur : Recur) (context : Context) (isSingle : Bool) (text : String) :
    Parser Statement := do
  match text with
  | "var" => return .other (← declaration recur context false).2
  | "const" =>
    require (!isSingle)
    return .other (← declaration recur context true).2
  | "let" => letStatement recur context isSingle
  | "function" => return .other (← functionDeclaration recur context false false isSingle).2
  | "class" => return .other (← classStatement recur context isSingle)
  | "if" => advance; return .other (← ifStatement recur context)
  | "for" => advance; return .other (← forStatement recur context)
  | "while" | "with" => advance; return .other (← governed recur context)
  | "do" => advance; return .other (← doStatement recur context)
  | "switch" => advance; return .other (← switchStatement recur context)
  | "try" => advance; return .other (← tryStatement recur context)
  | "throw" => advance; return .other (← throwStatement recur context)
  | "return" => advance; return .other (← returnStatement recur context)
  | "break" | "continue" => advance; return .other (← jump context)
  | "debugger" =>
    advance
    semicolon
    return .other []
  | "export" => advance; return .other (← exportDeclaration recur context)
  | "import" =>
    if ← followedBy (fun t => t == .mark .openParen || t == .mark .dot) false then
      expressionStatement recur context
    else
      advance
      importDeclaration context
      return .other []
  | _ =>
    if ← atAsyncFunction then
      advance
      return .other (← functionDeclaration recur context true false isSingle).2
    else if ← atUsing then
      require (!isSingle)
      return .other (← declaration recur context true).2
    else if ← atAwaitUsing context then
      require (!isSingle)
      advance
      return .other (← declaration recur context true).2
    else expressionStatement recur context

/-- A statement. -/
def statement (recur : Recur) (context : Context) (isSingle : Bool) : Parser Statement := do
  match ← token with
  | .mark .openBrace => return .other (← block recur context)
  | .mark .semicolon =>
    advance
    return .other []
  | .mark .decorate => return .other (← decoratedStatement recur context isSingle)
  | .word text false => wordStatement recur context isSingle text
  | _ => expressionStatement recur context

end MiniTemplate.Script
