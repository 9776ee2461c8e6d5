import MiniTemplate.Script.Grammar.Class

/-!
# Imports and exports

A name can be exported only once.
-/

namespace MiniTemplate.Script

open Script.Parser

/-- Record exported names, none of which may have been exported before. -/
def exportNames : List String → Parser Unit
  | [] => pure ()
  | name :: names => do
    let reader ← get
    require (!reader.exported.contains name)
    set { reader with exported := name :: reader.exported }
    exportNames names

/-- A quoted text. -/
def quotedText : Parser String := do
  match ← token with
  | .quoted raw =>
    advance
    return raw
  | _ => failure

/-- The key of an import attribute. -/
def importKey : Parser Unit := do
  match ← token with
  | .word _ _ | .quoted _ => advance
  | _ => failure

/-- Import attributes, if they follow. -/
def importAttributes : Parser Unit := do
  let follows := (← atWord "with") || ((← atWord "assert") && !(← newline))
  if follows then
    advance
    mark .openBrace
    let _ ← items .closeBrace do
      importKey
      mark .colon
      quotedText

/-- The module that is imported from, at the end of a declaration. -/
def importedModule : Parser Unit := do
  let _ ← quotedText
  importAttributes
  semicolon

/-- The name of an exported thing: its text, and whether it may be a local name. -/
def moduleName (context : Context) : Parser (String × Bool) := do
  match ← token with
  | .word text _ =>
    advance
    return (text, context.isName text)
  | .quoted raw =>
    advance
    return (raw, false)
  | _ => failure

/-- An entry of an import list. -/
def importSpecifier (context : Context) : Parser Unit := do
  let (_, isLocal) ← moduleName context
  if ← skipWord "as" then
    let _ ← boundName context
  else require isLocal

/-- The list or the module object that an import names. -/
def importBindings (context : Context) : Parser Unit := do
  if ← skipMark .star then
    word "as"
    let _ ← boundName context
  else
    mark .openBrace
    let _ ← items .closeBrace (importSpecifier context)

/-- What an import binds, and the module. -/
def importClause (context : Context) : Parser Unit := do
  if (← atMark .star) || (← atMark .openBrace) then importBindings context
  else
    let _ ← boundName context
    if ← skipMark .comma then importBindings context
  word "from"
  importedModule

/-- An import that is put off, or that takes the source of a module. -/
def phasedImport (context : Context) : Parser Unit := do
  if ← skipWord "defer" then require (← atMark .star)
  else
    word "source"
    match ← token with
    | .word _ _ => pure ()
    | _ => failure
  importClause context

/-- An import declaration, behind `import`. -/
def importDeclaration (context : Context) : Parser Unit := do
  match ← token with
  | .quoted _ => importedModule
  | _ => importClause context <|> phasedImport context

/-- An entry of an export list: its exported name, and whether its own name is a local name. -/
def exportSpecifier (context : Context) : Parser (String × Bool) := do
  let (own, isLocal) ← moduleName context
  if ← skipWord "as" then return ((← moduleName context).1, isLocal) else return (own, isLocal)

/-- An export list, behind its opening brace. Without a module to take them from, the
names must be local. -/
def exportList (context : Context) : Parser Unit := do
  let entries ← items .closeBrace (exportSpecifier context)
  exportNames (entries.map Prod.fst)
  if ← skipWord "from" then importedModule
  else
    require (entries.all Prod.snd)
    semicolon

/-- An export of all that another module exports, behind the star. -/
def exportAll (context : Context) : Parser Unit := do
  if ← skipWord "as" then exportNames [(← moduleName context).1]
  word "from"
  importedModule

/-- The default export, behind `default`. -/
def exportDefault (recur : Recur) (context : Context) : Parser (List Term) := do
  exportNames ["default"]
  if ← atWord "function" then return (← functionDeclaration recur context false true false).2
  else if ← atAsyncFunction then
    advance
    return (← functionDeclaration recur context true true false).2
  else if (← atWord "class") || (← atMark .decorate) then
    let decorators ← decorators recur context
    return decorators ++ (← classTail recur context true).2
  else
    let term ← recur.assignment context.inner
    semicolon
    return [term]

end MiniTemplate.Script
