import MiniTemplate.Compiler
import MiniTemplate.Json.Template

/-!
# Records as JSON

Registries, bindings, diagnostics, options, source files and outputs.
-/

namespace MiniTemplate

/-- A template for a property's component as JSON. -/
def PropTemplate.toJson (template : PropTemplate) : Json :=
  .object [("name", .string template.name), ("component", .string template.component)]

/-- The template for a property's component that JSON stands for. -/
def PropTemplate.ofJson? (json : Json) : Option PropTemplate := do
  json.checkRecord 2
  return ⟨← json.required 0 "name" Json.text?, ← json.required 1 "component" Json.text?⟩

/-- A registry as JSON. -/
def Registry.toJson (registry : Registry) : Json :=
  .object [("childTemplates", .ofTexts registry.templates),
    ("propChildTemplates", .array (registry.propTemplates.map PropTemplate.toJson))]

/-- The registry that JSON stands for; the templates of properties may be left out. -/
def Registry.ofJson? (json : Json) : Option Registry := do
  json.checkRecord 2
  return ⟨← json.required 0 "childTemplates" Json.texts?,
    ← json.optional 1 "propChildTemplates" [] (Json.list? PropTemplate.ofJson?)⟩

/-- A binding as JSON. -/
def Binding.toJson (binding : Binding) : Json :=
  .object [("datakey", .string binding.key), ("code", .string binding.code),
    ("location", binding.position.toJson)]

/-- The binding that JSON stands for. -/
def Binding.ofJson? (json : Json) : Option Binding := do
  json.checkRecord 3
  return ⟨← json.required 0 "datakey" Json.text?, ← json.required 1 "code" Json.text?,
    ← json.required 2 "location" Position.ofJson?⟩

/-- A diagnostic as JSON. -/
def Diagnostic.toJson (diagnostic : Diagnostic) : Json :=
  .object [("code", .string diagnostic.code), ("errorType", .string diagnostic.family),
    ("message", .string diagnostic.message), ("guarantee", .string diagnostic.guarantee),
    ("file", .string diagnostic.file), ("line", .ofNat diagnostic.position.line.toNat),
    ("column", .ofNat diagnostic.position.column.toNat), ("context", .ofText? diagnostic.context),
    ("hints", .ofTexts diagnostic.hints)]

/-- The diagnostic that JSON stands for; its context may be left out. -/
def Diagnostic.ofJson? (json : Json) : Option Diagnostic := do
  json.checkRecord 9
  return {
    code := ← json.required 0 "code" Json.text?
    family := ← json.required 1 "errorType" Json.text?
    message := ← json.required 2 "message" Json.text?
    guarantee := ← json.required 3 "guarantee" Json.text?
    file := ← json.required 4 "file" Json.text?
    position := ⟨← json.required 5 "line" Json.word?, ← json.required 6 "column" Json.word?⟩
    context := ← json.optional 7 "context" none Json.textOrNull?
    hints := ← json.required 8 "hints" Json.texts? }

/-- Options as JSON. -/
def Options.toJson (options : Options) : Json :=
  .object [("filePath", .string options.path), ("textTags", .ofTexts options.textTags),
    ("childCompSuffix", .string options.suffix), ("inlineLiterals", .bool options.inlines),
    ("isPage", .bool options.isPage), ("outComps", .ofTexts options.components),
    ("outputRoot", .string options.outputRoot), ("finalJsPath", .ofText? options.script)]

/-- The options that JSON stands for, each of which may be left out. -/
def Options.ofJson? (json : Json) : Option Options := do
  json.checkRecord 8
  let default : Options := {}
  return {
    path := ← json.optional 0 "filePath" default.path Json.text?
    textTags := ← json.optional 1 "textTags" default.textTags Json.texts?
    suffix := ← json.optional 2 "childCompSuffix" default.suffix Json.text?
    inlines := ← json.optional 3 "inlineLiterals" default.inlines Json.bool?
    isPage := ← json.optional 4 "isPage" default.isPage Json.bool?
    components := ← json.optional 5 "outComps" default.components Json.texts?
    outputRoot := ← json.optional 6 "outputRoot" default.outputRoot Json.text?
    script := ← json.optional 7 "finalJsPath" default.script Json.textOrNull? }

/-- A source file as JSON. -/
def SourceFile.toJson (file : SourceFile) : Json :=
  .object [("filePath", .string file.path), ("code", .string file.text),
    ("finalJsPath", .ofText? file.script)]

/-- The source file that JSON stands for; the path of its script may be left out. -/
def SourceFile.ofJson? (json : Json) : Option SourceFile := do
  json.checkRecord 3
  return ⟨← json.required 0 "filePath" Json.text?, ← json.required 1 "code" Json.text?,
    ← json.optional 2 "finalJsPath" none Json.textOrNull?⟩

/-- Stylesheets as JSON: an object from paths to texts. -/
def Sheets.toJson (sheets : Sheets) : Json :=
  .object (sheets.map fun (path, text) => (path, .string text))

/-- The stylesheets that JSON stands for. -/
def Sheets.ofJson? : Json → Option Sheets
  | .object fields => fields.mapM fun (path, value) => value.text?.map fun text => (path, text)
  | _ => none

/-- An output as JSON. -/
def Output.toJson (output : Output) : Json :=
  .object [("filePath", .string output.path), ("wxml", .string output.markup),
    ("childTemplates", .string output.templates), ("info", output.registry.toJson),
    ("bindings", .array (output.bindings.map Binding.toJson)), ("styles", output.sheets.toJson),
    ("warnings", .array (output.warnings.map Diagnostic.toJson))]

/-- The output that JSON stands for. -/
def Output.ofJson? (json : Json) : Option Output := do
  json.checkRecord 7
  return {
    path := ← json.required 0 "filePath" Json.text?
    markup := ← json.required 1 "wxml" Json.text?
    templates := ← json.required 2 "childTemplates" Json.text?
    registry := ← json.required 3 "info" Registry.ofJson?
    bindings := ← json.required 4 "bindings" (Json.list? Binding.ofJson?)
    sheets := ← json.required 5 "styles" Sheets.ofJson?
    warnings := ← json.required 6 "warnings" (Json.list? Diagnostic.ofJson?) }

end MiniTemplate
