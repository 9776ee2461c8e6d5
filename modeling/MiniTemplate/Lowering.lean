import MiniTemplate.Audit
import MiniTemplate.Extraction
import MiniTemplate.Inlining

/-!
# Lowering documents

Lifting, inlining and the audit in their order. The bindings given back are those
of all lifted children, in document order, whether or not their references were
replaced afterwards.
-/

namespace MiniTemplate

/-- What lowering leaves behind. -/
structure Lowered where
  /-- The document as the passes left it, also after a failure. -/
  document : Document
  /-- Supplies and registry afterwards. -/
  ledger : Ledger
  /-- The bindings, or what is wrong. -/
  outcome : Except Diagnostic (List Binding)

/-- Bindings with the current form of each put in its place. The last of the current
bindings of a key is taken, and only once. -/
def refresh : List Binding → List Binding → List Binding
  | _, [] => []
  | current, binding :: rest =>
    match current.find? (fun other => other.key == binding.key) with
    | some found => found :: refresh (current.filter (fun other => other.key != binding.key)) rest
    | none => binding :: refresh current rest

/-- A document that has been lifted and, if wanted, inlined, with its bindings. -/
def Document.settleBindings (dialect : Dialect) (inlines : Bool) (document : Document) :
    Document × Except Diagnostic (List Binding) :=
  if inlines then
    match document.inlineText dialect with
    | (document', ⟨_, some failure⟩) => (document', .error failure)
    | (document', ⟨inlined, none⟩) =>
      (document', .ok (refresh (document'.bindings ++ inlined).reverse document.bindings))
  else (document, .ok document.bindings)

/-- Lower a document. -/
def Document.lower (dialect : Dialect) (inlines : Bool) (document : Document) (ledger : Ledger) :
    Lowered :=
  let (document, ledger) := (document.extract dialect).run ledger
  let (document, bindings) := document.settleBindings dialect inlines
  let outcome := do
    let bindings ← bindings
    match Diagnostic.summarize? (document.violations dialect ledger.registry) with
    | some violation => .error violation
    | none => .ok bindings
  ⟨document, ledger, outcome⟩

end MiniTemplate
