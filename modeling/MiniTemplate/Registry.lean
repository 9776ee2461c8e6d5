import MiniTemplate.Diagnostic

/-!
# Names handed out and templates registered

Three supplies hand out names: selectors of dispatch templates, data keys, and
selectors of templates for components passed as properties. The registry lists the
dispatch templates that have to be written; it only grows.
-/

namespace MiniTemplate

/-- A source of names that never repeats one. -/
structure Supply where
  /-- What every name starts with. -/
  stem : String
  /-- How many names have been handed out. The count has no upper limit: a counter of 64 bits
  would start again behind its last number, and no run is taken to get there. -/
  issued : Nat
deriving DecidableEq, Repr

namespace Supply

/-- The name with a number. -/
def name (supply : Supply) (number : Nat) : String := supply.stem ++ toString number

/-- The next number, and the supply after handing it out. -/
def nextNumber (supply : Supply) : Nat × Supply :=
  (supply.issued, { supply with issued := supply.issued + 1 })

/-- The next name, and the supply after handing it out. -/
def next (supply : Supply) : String × Supply :=
  let (number, rest) := supply.nextNumber
  (supply.name number, rest)

end Supply

/-- The supplies that one compilation draws on. -/
structure Supplies where
  /-- Selectors of dispatch templates. -/
  selectors : Supply
  /-- Data keys. -/
  dataKeys : Supply
  /-- Selectors of templates for components passed as properties. -/
  propSelectors : Supply
deriving DecidableEq, Repr

/-- Supplies that have handed out nothing. -/
def Supplies.fresh : Supplies := ⟨⟨"child", 0⟩, ⟨"cd", 0⟩, ⟨"propchild", 0⟩⟩

/-- A template for a component passed as a property. -/
structure PropTemplate where
  /-- Its selector. -/
  name : String
  /-- Tag of the component. -/
  component : String
deriving DecidableEq, Repr

/-- The dispatch templates to be written. -/
structure Registry where
  /-- Selectors of the ordinary ones. -/
  templates : List String
  /-- Those for components passed as properties. -/
  propTemplates : List PropTemplate
deriving DecidableEq, Repr

/-- A registry without templates. -/
def Registry.empty : Registry := ⟨[], []⟩

/-- Every selector, ordinary ones first. -/
def Registry.selectors (registry : Registry) : List String :=
  registry.templates ++ registry.propTemplates.map PropTemplate.name

/-- Supplies and registry of a compilation under way. -/
structure Ledger where
  /-- Where names come from. -/
  supplies : Supplies
  /-- What has been registered. -/
  registry : Registry
deriving DecidableEq, Repr

/-- The ledger a compilation starts with. -/
def Ledger.fresh : Ledger := ⟨.fresh, .empty⟩

/-- The lines of an ordinary dispatch template: a list, a nested component or a literal,
as the bound value `d` tells. -/
def templateLines (name : String) : List String := [
  "<template name=\"" ++ name ++ "\">",
  "  <block wx:if=\"\x7b\x7bd.isArray\x7d\x7d\">",
  "    <block wx:for=\"\x7b\x7bd.v\x7d\x7d\" wx:key=\"key\">",
  "      <template is=\"\x7b\x7bitem.tempName\x7d\x7d\" data=\"\x7b\x7b...item\x7d\x7d\"></template>",
  "    </block>",
  "  </block>",
  "  <block wx:elif=\"\x7b\x7bd.isJSX\x7d\x7d\">",
  "    <template is=\"\x7b\x7bd.v.tempName\x7d\x7d\" data=\"\x7b\x7b...d.v\x7d\x7d\"></template>",
  "  </block>",
  "  <block wx:elif=\"\x7b\x7bd.isLiteral\x7d\x7d\">\x7b\x7bd.v\x7d\x7d</block>",
  "</template>"]

/-- An ordinary dispatch template. -/
def templateText (name : String) : String := joinWith "\n" (templateLines name)

/-- The lines of a dispatch template for a component passed as a property: a literal or
the component. -/
def PropTemplate.lines (template : PropTemplate) : List String := [
  "<template name=\"" ++ template.name ++ "\">",
  "  <block wx:if=\"\x7b\x7bd.isLiteral\x7d\x7d\">\x7b\x7bd.v\x7d\x7d</block>",
  "  <block wx:elif=\"\x7b\x7bd.isCPT\x7d\x7d\">",
  "    <" ++ template.component ++ " diuu=\"\x7b\x7bd.diuu\x7d\x7d\"></" ++ template.component ++ ">",
  "  </block>",
  "</template>"]

/-- A dispatch template for a component passed as a property. -/
def PropTemplate.text (template : PropTemplate) : String := joinWith "\n" template.lines

/-- All dispatch templates, ordinary ones first, each in order of registration. -/
def Registry.text (registry : Registry) : String :=
  joinWith "\n" (registry.templates.map templateText ++ registry.propTemplates.map PropTemplate.text)

end MiniTemplate
