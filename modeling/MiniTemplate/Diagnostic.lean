import MiniTemplate.Position

/-!
# Diagnostics

Everything the compiler complains about. A diagnostic carries the code of the rule
that is broken, the guarantee that rule stands for, and the place. The causes that
the compiler itself finds are listed in `Cause`.
-/

namespace MiniTemplate

/-- A complaint about a source or a tree. -/
structure Diagnostic where
  /-- Code of the rule. -/
  code : String
  /-- Family of the rule. -/
  family : String
  /-- What is wrong. -/
  message : String
  /-- What the rule guarantees. -/
  guarantee : String
  /-- File it is about. -/
  file : String
  /-- Where in the file. -/
  position : Position
  /-- What else is wrong, if anything. -/
  context : Option String
  /-- What to do about it. -/
  hints : List String
deriving DecidableEq, Repr

/-- What the rule of a code guarantees. -/
def guaranteeOf (code : String) : String :=
  match code with
  | "WX-ERR-PARSE" => "Only syntactically valid JSX reaches the lowering passes."
  | "WX-ERR-NO-JSX" => "Every compiled source renders a component tree."
  | "WX-ERR-SPREAD" => "WXML attributes and children are statically enumerable."
  | "WX-INV-DATAKEY" => "Every child template reference binds a runtime data slot."
  | "WX-INV-DUPLICATE-DATAKEY" => "Data keys are unique across the compiled tree."
  | "WX-INV-UNREGISTERED-TEMPLATE" =>
    "Every dispatch selector used by a reference is emitted as a template."
  | "WX-INV-DUPLICATE-TEMPLATE" => "Each dispatch template is emitted exactly once."
  | "WX-INV-TEXT-MARKER" =>
    "isTextElement is set iff the reference lives inside a pure-text container."
  | "WX-WARN-EMPTY-EXPRESSION" => "Empty expression containers never become references."
  | _ => "Unknown invariant."

/-- The family of the rule of a code, told by how the code begins. -/
def familyOf (code : String) : String :=
  if "WX-INV".toList.isPrefixOf code.toList then "COMPILER_INVARIANT_VIOLATION"
  else if "WX-WARN".toList.isPrefixOf code.toList then "COMPILE_WARNING"
  else "COMPILE_ERROR"

/-- A diagnostic of a code, with what the code stands for filled in. -/
def Diagnostic.ofCode (code message file : String) (position : Position) (context : Option String)
    (hints : List String) : Diagnostic :=
  ⟨code, familyOf code, message, guaranteeOf code, file, position, context, hints⟩

/-- What the compiler finds wrong. -/
inductive Cause where
  /-- The source is not a well-formed script. -/
  | malformed
  /-- The source holds no markup. -/
  | noMarkup
  /-- Attributes are spread into an element. -/
  | spreadAttribute
  /-- Children are spread into an element or fragment. -/
  | spreadChild
  /-- Braces between tags hold nothing. -/
  | emptyExpression
  /-- A reference has no data key. -/
  | missingKey
  /-- A template inside a text container has no data key to show. -/
  | nothingToInline (container : String)
  /-- Two references have the same data key. -/
  | repeatedKey (key : String)
  /-- A reference selects a template that is not registered. -/
  | unknownSelector (selector : String)
  /-- A template is registered twice. -/
  | repeatedTemplate (name : String)
  /-- A reference is marked as text where it does not stand in text, or is not where it does. -/
  | misplacedMark
deriving DecidableEq, Repr

namespace Cause

/-- Code of the rule that is broken. -/
def code : Cause → String
  | malformed => "WX-ERR-PARSE"
  | noMarkup => "WX-ERR-NO-JSX"
  | spreadAttribute | spreadChild => "WX-ERR-SPREAD"
  | emptyExpression => "WX-WARN-EMPTY-EXPRESSION"
  | missingKey | nothingToInline _ => "WX-INV-DATAKEY"
  | repeatedKey _ => "WX-INV-DUPLICATE-DATAKEY"
  | unknownSelector _ => "WX-INV-UNREGISTERED-TEMPLATE"
  | repeatedTemplate _ => "WX-INV-DUPLICATE-TEMPLATE"
  | misplacedMark => "WX-INV-TEXT-MARKER"

/-- The wording. -/
def message : Cause → String
  | malformed => "The source is not a well-formed module."
  | noMarkup => "No JSX element found in source."
  | spreadAttribute => "Spread attributes cannot be lowered to template attributes."
  | spreadChild => "Spread children cannot be lowered to template children."
  | emptyExpression => "Empty expression container dropped."
  | missingKey => "Child template reference has no datakey attribute."
  | nothingToInline container => "<template> inside <" ++ container ++ "> has no datakey to inline."
  | repeatedKey key => "Data key \"" ++ key ++ "\" is bound by more than one reference."
  | unknownSelector selector =>
    "Selector \"" ++ selector ++ "\" has no registered dispatch template."
  | repeatedTemplate name => "Dispatch template \"" ++ name ++ "\" is registered twice."
  | misplacedMark => "isTextElement marker does not match the parent container."

/-- What to do about it. -/
def hints : Cause → List String
  | nothingToInline _ => ["Run children_to_template before literal_template."]
  | unknownSelector _ => ["Run children_to_template with the same CompileInfo."]
  | _ => []

/-- The diagnostic of a cause at a place in a file. -/
def diagnose (cause : Cause) (file : String) (position : Position) : Diagnostic :=
  .ofCode cause.code cause.message file position none cause.hints

end Cause

/-- A diagnostic on one line. -/
def Diagnostic.display (diagnostic : Diagnostic) : String :=
  "[" ++ diagnostic.code ++ "] " ++ diagnostic.message ++ " (" ++ diagnostic.file ++ ":" ++
    toString diagnostic.position.line.toNat ++ ":" ++ toString diagnostic.position.column.toNat ++ ")"

/-- Texts with a separator between them. -/
def joinWith (separator : String) : List String → String
  | [] => ""
  | [text] => text
  | text :: rest => text ++ separator ++ joinWith separator rest

/-- The first of several diagnostics, which mentions the others; nothing if there are none. -/
def Diagnostic.summarize? : List Diagnostic → Option Diagnostic
  | [] => none
  | [only] => some only
  | first :: rest =>
    some { first with
      context := some (toString rest.length ++ " further violation(s): " ++
        joinWith "; " (rest.map Diagnostic.display)) }

end MiniTemplate
