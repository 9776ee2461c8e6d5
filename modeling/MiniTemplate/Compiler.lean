import MiniTemplate.Lowering
import MiniTemplate.Stylesheet
import MiniTemplate.Template.FromScript

/-!
# Compiling source files

From the text of a source file to its markup, dispatch templates, bindings and
stylesheets.
-/

namespace MiniTemplate

/-- How a file is compiled. -/
structure Options where
  /-- Path of the file. -/
  path : String := ""
  /-- Tags of containers that hold text only. -/
  textTags : List String := defaultTextTags
  /-- Suffix of the tags of components. -/
  suffix : String := componentSuffix
  /-- Whether references in text containers are replaced by interpolations. -/
  inlines : Bool := true
  /-- Whether the file is a page. -/
  isPage : Bool := false
  /-- The components that get a stylesheet. -/
  components : List String := [mainComponent]
  /-- The directory that all output goes to. -/
  outputRoot : String := ""
  /-- Path of the script that is put out; stylesheets are made only if there is one. -/
  script : Option String := none
deriving DecidableEq, Repr

/-- The dialect that options describe. -/
def Options.dialect (options : Options) : Dialect := .ofTags options.textTags options.suffix

/-- The stylesheets that options ask for. -/
def Options.sheets (options : Options) : Sheets :=
  match options.script with
  | some script => MiniTemplate.sheets script options.components options.isPage options.outputRoot
  | none => []

/-- What compiling a file gives. -/
structure Output where
  /-- Path of the file. -/
  path : String
  /-- The markup. -/
  markup : String
  /-- The dispatch templates. -/
  templates : String
  /-- The registry they were written from. -/
  registry : Registry
  /-- The bindings, in document order. -/
  bindings : List Binding
  /-- The stylesheets. -/
  sheets : Sheets
  /-- Oddities that were passed over. -/
  warnings : List Diagnostic
deriving DecidableEq, Repr

/-- Compile a source text. -/
def Options.compile (options : Options) (text : String) : Except Diagnostic Output := do
  let (document, warnings) ← (Source.mk options.path text.toList).document
  let lowered := document.lower options.dialect options.inlines .fresh
  let bindings ← lowered.outcome
  return {
    path := options.path
    markup := lowered.document.markup
    templates := lowered.ledger.registry.text
    registry := lowered.ledger.registry
    bindings := bindings
    sheets := options.sheets
    warnings := warnings }

/-- A file to be compiled with others. -/
structure SourceFile where
  /-- Its path. -/
  path : String
  /-- Its text. -/
  text : String
  /-- Path of the script that is put out for it. -/
  script : Option String
deriving DecidableEq, Repr

/-- Compile files independently of each other, each under shared options but for its paths. -/
def Options.compileAll (options : Options) (files : List SourceFile) :
    List (Except Diagnostic Output) :=
  files.map fun file =>
    { options with path := file.path, script := file.script : Options }.compile file.text

end MiniTemplate
