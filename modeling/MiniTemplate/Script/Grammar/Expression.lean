import MiniTemplate.Script.Grammar.Class
import MiniTemplate.Script.Grammar.Literal

/-!
# Expressions

Operands, accesses and calls, operators, assignments and arrow functions. An
arrow function is recognised behind its parameters: these are first read as an
expression and, when an arrow follows, read again from their start as parameters.
-/

namespace MiniTemplate.Script

open Script.Parser

/-- A regular expression, whose slash is ahead. -/
def scanSlash (cursor : Cursor) : Option (Token × Cursor) :=
  match cursor.text with
  | '/' :: cs => (scanRegExp cs (cursor.offset + 1)).map fun behind => (.pattern, behind)
  | _ => none

/-- A word as an operand. -/
def wordOperand (recur : Recur) (context : Context) (text : String) (escaped : Bool) : Parser Reading := do
  if escaped then
    require (context.isName text)
    advance
    return .settled .name (.name text)
  match text with
  | "this" =>
    advance
    return .settled .value .this
  | "null" | "true" | "false" =>
    advance
    return .compound []
  | "function" => return .compound (← functionExpression recur false)
  | "class" => return .compound (← classTail recur context true).2
  | _ =>
    if ← atAsyncFunction then
      advance
      return .compound (← functionExpression recur true)
    require (context.isName text)
    advance
    return .settled .name (.name text)

/-- An operand without accesses, calls and operators. -/
def primary (recur : Recur) (context : Context) : Parser Reading := do
  match ← token with
  | .word text escaped => wordOperand recur context text escaped
  | .number =>
    advance
    return .compound []
  | .quoted raw =>
    advance
    return .settled (.quoted raw) (.compound [])
  | .chunk _ _ => return .compound (← templateHoles recur context false)
  | .mark .openParen =>
    advance
    group recur context
  | .mark .openBracket =>
    advance
    arrayLiteral recur context
  | .mark .openBrace =>
    advance
    objectLiteral recur context
  | .mark .decorate =>
    let decorators ← decorators recur context
    return .compound (decorators ++ (← classTail recur context true).2)
  | .mark .slash | .mark .compute =>
    rescan scanSlash
    advance
    return .compound []
  | _ => failure

/-- Arguments in parentheses; whether one of them holds a default that is legal only in a pattern. -/
def callArguments (recur : Recur) (context : Context) : Parser (List Term × Bool) := do
  mark .openParen
  let readings ← items .closeParen do
    let _ ← skipMark .ellipsis
    recur (.assignment context.inner)
  return (readings.map Reading.term, readings.any Reading.unsettled)

/-- Arguments in parentheses, as they stand. -/
def settledArguments (recur : Recur) (context : Context) : Parser (List Term) := do
  let (terms, unsettled) ← callArguments recur context
  require (!unsettled)
  return terms

/-- A property looked up by its name, behind the dot. -/
def namedAccess (chained : Bool) (object : Term) : Parser Reading := do
  let form := if chained then .chain else .property
  match ← token with
  | .word text _ =>
    advance
    return .settled form (if chained then .compound [object] else .member object text)
  | .hidden _ =>
    advance
    return .settled form (.compound [object])
  | _ => failure

/-- A property looked up by a computed key, behind the bracket. -/
def computedAccess (recur : Recur) (context : Context) (chained : Bool) (object : Term) :
    Parser Reading := do
  let key ← recur.expression context.inner
  mark .closeBracket
  return .settled (if chained then .chain else .property) (.compound [object, key])

/-- A call, whose opening parenthesis is ahead. Behind `async` its arguments may be parameters. -/
def callAccess (recur : Recur) (context : Context) (chained : Bool) (callee : Reading) :
    Parser Reading := do
  let isAsync := match callee with
    | ⟨.name "async", .name, false⟩ => true
    | _ => false
  let sameLine := !(← newline)
  let (terms, unsettled) ← callArguments recur context
  if isAsync && sameLine && (← atMark .arrow) then
    return .settled .asyncParameters (.compound [])
  require (!unsettled)
  return .settled (if chained then .chain else .value)
    (if chained then .compound (callee.term :: terms) else .call callee.term terms)

/-- What may follow `?.`. -/
def chainedAccess (recur : Recur) (context : Context) (object : Term) : Parser Reading := do
  if ← atMark .openParen then
    return .settled .chain (.compound (object :: (← settledArguments recur context)))
  else if ← skipMark .openBracket then computedAccess recur context true object
  else namedAccess true object

/-- Accesses and calls, as many as follow an operand; calls only where they are wanted. -/
def accesses (recur : Recur) (context : Context) (calls : Bool) (operand : Reading) : Parser Reading :=
  loop (fun reading : Reading => do
    let chained := reading.form == .chain
    match ← token with
    | .mark .dot =>
      let object ← reading.settle
      advance
      return .inl (← namedAccess chained object)
    | .mark .chain =>
      require calls
      let object ← reading.settle
      advance
      return .inl (← chainedAccess recur context object)
    | .mark .openBracket =>
      if context.decorates then return .inr reading
      let object ← reading.settle
      advance
      return .inl (← computedAccess recur context chained object)
    | .mark .openParen =>
      if !calls then return .inr reading
      let _ ← reading.settle
      let call ← callAccess recur context chained reading
      if call.form == .asyncParameters then return .inr call
      return .inl call
    | .chunk _ _ =>
      require (!chained)
      let tag ← reading.settle
      let holes ← templateHoles recur context true
      return .inl (.compound (tag :: holes))
    | _ => return .inr reading) operand

/-- What `import` starts in an expression: the description of the module, or the
loading of another one. -/
def importOperand (recur : Recur) (context : Context) : Parser Reading := do
  word "import"
  if ← skipMark .dot then
    if ← skipWord "meta" then return .compound []
    if !(← skipWord "source") then word "defer"
  mark .openParen
  let terms ← items .closeParen (recur.assignment context.inner)
  require (!terms.isEmpty && terms.length ≤ 2)
  return .compound terms

/-- What `super` starts, which is always an access or a call. -/
def superOperand : Parser Reading := do
  word "super"
  require ((← atMark .dot) || (← atMark .openBracket) || (← atMark .openParen))
  return .compound []

/-- An operand with its accesses and calls. -/
def access (recur : Recur) (context : Context) : Parser Reading := do
  let operand ←
    if ← atWord "new" then recur (.instantiation context)
    else if ← atWord "super" then superOperand
    else if ← atWord "import" then importOperand recur context
    else primary recur context
  accesses recur context true operand

/-- The class that is instantiated. A module cannot be loaded in its place. -/
def instantiated (recur : Recur) (context : Context) : Parser Reading := do
  if ← atWord "new" then recur (.instantiation context)
  else if ← atWord "super" then superOperand
  else if ← atWord "import" then
    let isMeta ← lookahead do
      advance
      mark .dot
      word "meta"
    require isMeta.isSome
    importOperand recur context
  else primary recur context

/-- An instantiation, or `new.target`. -/
def instantiation (recur : Recur) (context : Context) : Parser Reading := do
  word "new"
  if ← skipMark .dot then
    word "target"
    return .compound []
  let operand ← instantiated recur context
  let callee ← (← accesses recur context false operand).settle
  if ← atMark .openParen then
    return .compound (callee :: (← settledArguments recur context))
  return .compound [callee]

/-- An operand with `++` or `--` before or behind it, or markup. -/
def update (recur : Recur) (context : Context) : Parser Reading := do
  match ← token with
  | .mark .increment | .mark .decrement =>
    advance
    let operand ← recur (.unary context)
    require operand.form.isSimple
    return .compound [← operand.settle]
  | .mark .less =>
    let jsx ← recur (.markup context.inner)
    advance
    return .settled .value (.markup jsx)
  | _ =>
    let operand ← recur (.access context)
    let steps := (← atMark .increment) || (← atMark .decrement)
    if steps && !(← newline) then
      require operand.form.isSimple
      advance
      return .compound [← operand.settle]
    return operand

/-- Whether a token is an operator before its operand, apart from `await`. -/
def Token.isUnaryOperator : Token → Bool
  | .mark .plus | .mark .minus | .mark .tilde | .mark .bang => true
  | .word "delete" false | .word "typeof" false | .word "void" false => true
  | _ => false

/-- An operand of a binary operator. -/
def unary (recur : Recur) (context : Context) : Parser Reading := do
  let isAwait ← atWord "await"
  require (!(isAwait && context.forbidsAwait))
  if (← token).isUnaryOperator || (isAwait && context.awaits) then
    advance
    let operand ← recur (.unary context)
    return .settled .unary (.compound [← operand.settle])
  update recur context

/-- Binary operators, as far as the rules on mixing them tell them apart. -/
inductive Operator where
  /-- `??`, not to be mixed with the logical operators. -/
  | coalesce
  /-- `&&` and `||`. -/
  | logical
  /-- Other operators that bind less than `in`. -/
  | loose
  /-- Operators that bind like `in`, or more. -/
  | tight
  /-- `in` itself. -/
  | membership
  /-- `**`, whose left operand has no operator before it. -/
  | power
deriving DecidableEq

/-- The binary operator that a token is. -/
def Token.operator? : Token → Option Operator
  | .mark .coalesce => some .coalesce
  | .mark .both | .mark .either => some .logical
  | .mark .bitOr | .mark .bitXor | .mark .bitAnd => some .loose
  | .mark .equal | .mark .notEqual | .mark .same | .mark .notSame => some .loose
  | .mark .less | .mark .greater | .mark .lessEq | .mark .greaterEq => some .tight
  | .mark .shiftLeft | .mark .shiftRight | .mark .shiftRightZero => some .tight
  | .mark .plus | .mark .minus | .mark .star | .mark .slash | .mark .percent => some .tight
  | .mark .power => some .power
  | .word "instanceof" false => some .tight
  | .word "in" false => some .membership
  | _ => none

/-- Whether a private name may be the left operand of `in` behind an operator. -/
def Operator.admitsHidden : Operator → Bool
  | .coalesce | .logical | .loose => true
  | _ => false

/-- Operands and operators read so far. -/
structure Chain where
  /-- The operands, last first. -/
  operands : List Term
  /-- The last operand. -/
  last : Reading
  /-- The operators, last first. -/
  operators : List Operator

/-- An operand, or a private name that is looked for. -/
def chainOperand (recur : Recur) (context : Context) (before : Option Operator) : Parser Reading := do
  match ← token with
  | .hidden _ =>
    require (before.all Operator.admitsHidden)
    advance
    require (context.allowsIn && (← atWord "in"))
    return .settled .hidden (.compound [])
  | _ => recur (.unary context)

/-- Whether the operators of a chain may be mixed without parentheses. -/
def mayMix (operators : List Operator) : Bool :=
  !(operators.contains .coalesce && operators.contains .logical)

/-- Operands joined by binary operators. -/
def operatorChain (recur : Recur) (context : Context) : Parser Reading := do
  let first ← chainOperand recur context none
  loop (fun chain : Chain => do
    joinClosing
    match (← token).operator? with
    | some operator =>
      if operator == .membership && !context.allowsIn then finish chain
      else
        require (!(operator == .power && chain.last.form == .unary))
        let _ ← chain.last.settle
        advance
        let operand ← chainOperand recur context (some operator)
        let term ← operand.settle
        return .inl ⟨term :: chain.operands, operand, operator :: chain.operators⟩
    | none => finish chain) ⟨[first.term], first, []⟩
where
  /-- A single operand stands as it is; several make a construct of their own. -/
  finish (chain : Chain) : Parser (Chain ⊕ Reading) := do
    if chain.operators.isEmpty then return .inr chain.last
    require (mayMix chain.operators)
    return .inr (.compound chain.operands.reverse)

/-- A choice between two expressions, or just operands and operators. -/
def conditional (recur : Recur) (context : Context) : Parser Reading := do
  let test ← operatorChain recur context
  if !(← atMark .question) then return test
  let test ← test.settle
  advance
  let yes ← recur.assignment context.inner
  mark .colon
  let no ← recur.assignment { context with decorates := false }
  return .compound [test, yes, no]

/-- What stands behind `yield`, if anything. -/
def yielded (recur : Recur) (context : Context) : Parser Reading := do
  word "yield"
  if ← newline then return .compound []
  if ← skipMark .star then return .compound [← recur.assignment context]
  match ← token with
  | .done | .mark .closeParen | .mark .closeBracket | .mark .closeBrace | .mark .comma
  | .mark .semicolon | .mark .colon => return .compound []
  | .word "in" false | .word "of" false => return .compound []
  | _ => return .compound [← recur.assignment context]

/-- The arrow and body of an arrow function. -/
def arrowTail (recur : Recur) (context : Context) (async : Bool) : Parser (List Term) := do
  require (!(← newline))
  mark .arrow
  let body : Context :=
    { Context.function async false with forbidsAwait := context.forbidsAwait && !async }
  if ← atMark .openBrace then block recur body
  else return [← recur.assignment { body with allowsIn := context.allowsIn, returns := false }]

/-- An arrow function from its start on. -/
def arrowFunction (recur : Recur) (context : Context) (async : Bool) : Parser Reading := do
  if async then word "async"
  let inside := { context.inner with awaits := context.awaits || async }
  let parts ←
    if ← atMark .openParen then Parameters.parts <$> parameters recur inside
    else
      let _ ← boundName inside
      pure []
  return .compound (parts ++ (← arrowTail recur context async))

/-- Whether an asynchronous arrow function with a single bare parameter starts here. -/
def atAsyncArrow : Parser Bool := do
  if !(← atWord "async") then return false
  let follows ← lookahead do
    advance
    let sameLine := !(← newline)
    match ← token with
    | .word _ _ =>
      advance
      return sameLine && (← atMark .arrow)
    | _ => return false
  return follows.getD false

/-- What follows the left side of an assignment, or the expression as it is. -/
def assignmentTail (recur : Recur) (context : Context) (left : Reading) : Parser Reading := do
  joinClosing
  match ← token with
  | .mark .assign =>
    require left.form.isTarget
    advance
    let right ← recur.assignment context
    return .settled .defaulted (.compound [left.term, right])
  | .mark .compute =>
    require left.form.isSimple
    let left ← left.settle
    advance
    return .compound [left, ← recur.assignment context]
  | _ => return left

/-- An expression without a comma. -/
def assignment (recur : Recur) (context : Context) : Parser Reading := do
  if context.yields && (← atWord "yield") then yielded recur context
  else if ← atAsyncArrow then arrowFunction recur context true
  else
    let origin ← get
    let left ← conditional recur context
    if ← atMark .arrow then
      match left.form with
      | .name | .group _ | .parameters =>
        set origin
        arrowFunction recur context false
      | .asyncParameters =>
        set origin
        arrowFunction recur context true
      | _ => failure
    else assignmentTail recur context left

end MiniTemplate.Script
