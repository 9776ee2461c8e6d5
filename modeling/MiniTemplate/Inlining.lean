import MiniTemplate.Binding
import MiniTemplate.Diagnostic
import MiniTemplate.Dialect
import MiniTemplate.Template.Visitor

/-!
# Showing data directly in text containers

Inside a container that holds text only, a reference can show nothing but a
literal, so it is replaced by an interpolation of its data key. Its binding is
kept, since the value is still needed. A template without a data key stops the
pass; what was replaced before it stays replaced.
-/

namespace MiniTemplate

/-- What the pass has done so far. -/
structure Inlined where
  /-- Bindings of the references replaced, in order. -/
  bindings : List Binding
  /-- Why the pass stopped, if it did. -/
  failure : Option Diagnostic

/-- The pass before it has done anything. -/
def Inlined.start : Inlined := ⟨[], none⟩

/-- The text that shows a data key. -/
def interpolation (key : String) : String := "\x7b\x7b" ++ key ++ "\x7d\x7d"

/-- The children of a text container with its templates replaced, up to one that has no
data key. -/
def inlineChildren (path container : String) : List Node → StateM Inlined (List Node)
  | [] => pure []
  | .element element :: rest => do
    if element.tag == templateTag then
      match element.staticText? dataKeyName with
      | some key =>
        modify fun state => { state with bindings := state.bindings ++ element.binding?.toList }
        let rest ← inlineChildren path container rest
        return .text ⟨interpolation key, element.position⟩ :: rest
      | none =>
        let failure := (Cause.nothingToInline container).diagnose path element.position
        modify fun state => { state with failure := some failure }
        return .element element :: rest
    else
      let rest ← inlineChildren path container rest
      return .element element :: rest
  | node :: rest => do
    let rest ← inlineChildren path container rest
    return node :: rest

/-- The pass that shows data directly in text containers, from the inside out. -/
def inliner (dialect : Dialect) (path : String) : Visitor (StateM Inlined) where
  element _ walk := do
    let element ← walk
    if (← get).failure.isSome || !dialect.isText element then return element
    return { element with children := ← inlineChildren path element.tag element.children }

/-- A document with the references in its text containers replaced, and what became of them. -/
def Document.inlineText (dialect : Dialect) (document : Document) : Document × Inlined :=
  ((inliner dialect document.path).visitDocument document).run Inlined.start

end MiniTemplate
