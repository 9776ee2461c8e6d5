import MiniTemplate.Template.FromScript
import MiniTemplate.Proofs.Trees
import Mathlib.Data.List.Forall2

/-!
# What reading a script comes upon

The markup of a script is visited in source order: tags before what is inside them, attributes before
children, and inside an expression only the markup in it. The sites of a script list every sub-node on
this way. What becomes of a script follows from its sites: reading stops at the first site that cannot
be read; otherwise each site leaves its warning, its node and its expression behind, or nothing, and
the document has no others.
-/

namespace MiniTemplate

open Text Script

namespace Script

mutual
/-- The outermost markup of a term, in source order. -/
def Term.outermost : Term → List Jsx
  | .this | .name _ => []
  | .member object _ => Term.outermost object
  | .call callee arguments => Term.outermost callee ++ outermostOf arguments
  | .group inner => Term.outermost inner
  | .markup jsx => [jsx]
  | .compound parts => outermostOf parts
/-- The outermost markup of terms. -/
def outermostOf : List Term → List Jsx
  | [] => []
  | term :: rest => Term.outermost term ++ outermostOf rest
end

/-- A sub-node of the markup in a script. -/
inductive Site where
  /-- An element or fragment, between tags or in an expression. -/
  | markup (jsx : Jsx)
  /-- An element or fragment that is the value of an attribute, without braces. -/
  | bare (jsx : Jsx)
  /-- Text between tags. -/
  | text (span : Span) (raw : String)
  /-- An expression in braces between tags. -/
  | child (span : Span) (term : Term)
  /-- An expression in braces that is the value of an attribute. -/
  | value (span : Span) (term : Term)
  /-- Empty braces between tags. -/
  | empty (span : Span)
  /-- Attributes that are spread into a tag. -/
  | spreadAttribute (span : Span)
  /-- Children that are spread between tags. -/
  | spreadChild (span : Span)

/-- The range of a site. -/
def Site.span : Site → Span
  | .markup jsx | .bare jsx => jsx.span
  | .text span _ | .child span _ | .value span _ => span
  | .empty span | .spreadAttribute span | .spreadChild span => span

mutual
/-- The sites inside markup: those of its attributes, then those of its children. -/
def Jsx.inside : Jsx → List Site
  | .element _ _ attributes children => sitesOfAttributes attributes ++ sitesOfChildren children
  | .fragment _ children => sitesOfChildren children
/-- The sites of attributes. -/
def sitesOfAttributes : List JsxAttribute → List Site
  | [] => []
  | .named _ _ value :: rest => JsxValue.sites value ++ sitesOfAttributes rest
  | .spread span term :: rest =>
    .spreadAttribute span :: (Term.sites term ++ sitesOfAttributes rest)
/-- The sites of the value of an attribute. -/
def JsxValue.sites : JsxValue → List Site
  | .absent | .quoted _ => []
  | .container span term => .value span term :: Term.sites term
  | .markup jsx => .bare jsx :: Jsx.inside jsx
/-- The sites of children. -/
def sitesOfChildren : List JsxChild → List Site
  | [] => []
  | .text span raw :: rest => .text span raw :: sitesOfChildren rest
  | .markup jsx :: rest => .markup jsx :: (Jsx.inside jsx ++ sitesOfChildren rest)
  | .container span term :: rest => .child span term :: (Term.sites term ++ sitesOfChildren rest)
  | .empty span :: rest => .empty span :: sitesOfChildren rest
  | .spread span term :: rest => .spreadChild span :: (Term.sites term ++ sitesOfChildren rest)
/-- The sites of a term: those of the markup in it. -/
def Term.sites : Term → List Site
  | .this | .name _ => []
  | .member object _ => Term.sites object
  | .call callee arguments => Term.sites callee ++ sitesOfTerms arguments
  | .group inner => Term.sites inner
  | .markup jsx => .markup jsx :: Jsx.inside jsx
  | .compound parts => sitesOfTerms parts
/-- The sites of terms. -/
def sitesOfTerms : List Term → List Site
  | [] => []
  | term :: rest => Term.sites term ++ sitesOfTerms rest
end

/-- The sites of a script. -/
def Program.sites (program : Program) : List Site := sitesOfTerms program.parts

end Script

/-! ### Nodes and expressions -/

mutual
/-- Every node of trees, at any depth: a node comes before those inside it. -/
def nodesIn : List Node → List Node
  | [] => []
  | node :: rest => node :: (Node.inside node ++ nodesIn rest)
/-- Every node inside a node, expressions included. -/
def Node.inside : Node → List Node
  | .element ⟨_, attributes, children, _⟩ => nodesInAttributes attributes ++ nodesIn children
  | .text _ => []
  | .expression ⟨_, insets, _⟩ => nodesInInsets insets
/-- Every node inside the expressions of attributes. -/
def nodesInAttributes : List Attribute → List Node
  | [] => []
  | ⟨_, .bare, _⟩ :: rest => nodesInAttributes rest
  | ⟨_, .static _, _⟩ :: rest => nodesInAttributes rest
  | ⟨_, .dynamic ⟨_, insets, _⟩, _⟩ :: rest => nodesInInsets insets ++ nodesInAttributes rest
/-- Every node of insets. -/
def nodesInInsets : List Inset → List Node
  | [] => []
  | ⟨_, _, _, nodes⟩ :: rest => nodesIn nodes ++ nodesInInsets rest
end

/-- Functions that gather items from nodes and from insets, one after the other. -/
structure Collects {α : Type} (fromNodes : List Node → List α) (fromInsets : List Inset → List α) :
    Prop where
  /-- Each node gives its own items. -/
  nodes : ∃ each : Node → List α, ∀ nodes, fromNodes nodes = nodes.flatMap each
  /-- An inset gives the items of its nodes. -/
  insets : ∀ insets, fromInsets insets = insets.flatMap fun inset => fromNodes inset.nodes

namespace Collects

variable {α : Type} {fromNodes : List Node → List α} {fromInsets : List Inset → List α}
  (h : Collects fromNodes fromInsets)
include h

/-- Items of nodes side by side. -/
theorem append (nodes nodes' : List Node) :
    fromNodes (nodes ++ nodes') = fromNodes nodes ++ fromNodes nodes' := by
  obtain ⟨each, heach⟩ := h.nodes
  rw [heach, heach, heach, List.flatMap_append]

/-- Items of insets side by side. -/
theorem insets_append (insets insets' : List Inset) :
    fromInsets (insets ++ insets') = fromInsets insets ++ fromInsets insets' := by
  rw [h.insets, h.insets, h.insets, List.flatMap_append]

/-- The nodes of insets give what the insets give. -/
theorem flatMap (insets : List Inset) :
    fromNodes (insets.flatMap Inset.nodes) = fromInsets insets := by
  obtain ⟨each, heach⟩ := h.nodes
  rw [h.insets, heach, List.flatMap_assoc]
  simp only [heach]

/-- A single inset gives what its nodes give. -/
theorem inset (base : Nat) (jsx : Jsx) (nodes : List Node) :
    fromInsets [Source.inset base jsx nodes] = fromNodes nodes := by
  rw [h.insets, List.flatMap_singleton, Source.inset]

end Collects

/-- Nodes are gathered one after the other. -/
theorem nodesIn_collects : Collects nodesIn nodesInInsets where
  nodes := by
    refine ⟨fun node => node :: node.inside, fun nodes => ?_⟩
    induction nodes with
    | nil => rfl
    | cons node rest ih => rw [nodesIn, ih, List.flatMap_cons, List.cons_append]
  insets insets := by
    induction insets with
    | nil => rfl
    | cons inset rest ih =>
      obtain ⟨start, stop, fragment, nodes⟩ := inset
      rw [nodesInInsets, ih, List.flatMap_cons]

/-- So are expressions. -/
theorem expressionsIn_collects : Collects expressionsIn expressionsInInsets where
  nodes := by
    refine ⟨Node.expressions, fun nodes => ?_⟩
    induction nodes with
    | nil => rfl
    | cons node rest ih => rw [expressionsIn, ih, List.flatMap_cons]
  insets insets := by
    induction insets with
    | nil => rfl
    | cons inset rest ih =>
      obtain ⟨start, stop, fragment, nodes⟩ := inset
      rw [expressionsInInsets, ih, List.flatMap_cons]

/-- Every node inside the value of an attribute. -/
def Value.nodes : Value → List Node
  | .dynamic script => nodesInInsets script.insets
  | _ => []

/-- Every expression of the value of an attribute, itself included. -/
def Value.expressions : Value → List Expression
  | .dynamic script => script :: expressionsInInsets script.insets
  | _ => []

/-- The nodes in attributes are those in the value of each. -/
theorem nodesInAttributes_entry (entry : Attribute) (rest : List Attribute) :
    nodesInAttributes (entry :: rest) = entry.value.nodes ++ nodesInAttributes rest := by
  obtain ⟨name, value, position⟩ := entry
  cases value with
  | bare => rfl
  | static text => rfl
  | dynamic script =>
    obtain ⟨code, insets, place⟩ := script
    rfl

/-- The expressions in attributes are those in the value of each. -/
theorem expressionsInAttributes_entry (entry : Attribute) (rest : List Attribute) :
    expressionsInAttributes (entry :: rest) =
      entry.value.expressions ++ expressionsInAttributes rest := by
  obtain ⟨name, value, position⟩ := entry
  cases value with
  | bare => rfl
  | static text => rfl
  | dynamic script =>
    obtain ⟨code, insets, place⟩ := script
    rfl

/-- What a node is, apart from what is inside it. -/
inductive Face where
  | element (tag : String)
  | text (value : String)
  | expression (code : String)
deriving DecidableEq, Repr

/-- What a node is, and where. -/
def Node.face : Node → Face × Position
  | .element inner => (.element inner.tag, inner.position)
  | .text run => (.text run.value, run.position)
  | .expression script => (.expression script.code, script.position)

/-! ### What sites leave behind -/

/-- Code that is quoted from a script, with the outermost markup in it. -/
structure Quote where
  /-- The range of the code, with blanks at its ends. -/
  span : Span
  /-- The markup, in source order. -/
  markup : List Jsx

/-- What an expression is quoted from. -/
def Script.Site.quote? : Site → Option Quote
  | .child span term | .value span term => some ⟨Source.between span, term.outermost⟩
  | .bare jsx => some ⟨jsx.span, [jsx]⟩
  | _ => none

/-- Why a site cannot be read. -/
def Script.Site.refusal? : Site → Option Cause
  | .spreadAttribute _ => some .spreadAttribute
  | .spreadChild _ => some .spreadChild
  | _ => none

namespace Source

variable (source : Source)

/-- The complaint about a site that cannot be read. -/
def refusal? (site : Site) : Option Diagnostic :=
  site.refusal?.map fun cause => source.diagnose cause site.span.start

/-- The warning about a site. -/
def warning? : Site → Option Diagnostic
  | .empty span => some (source.diagnose .emptyExpression span.start)
  | _ => none

/-- The face of markup: fragments have none. -/
def jsxFace? : Jsx → Option (Face × Position)
  | .element span tag _ _ => some (.element tag.text, positionAt source.text span.start)
  | .fragment _ _ => none

/-- The face of the node that a site becomes, if it becomes one. Blank text between tags and empty
braces become nothing, and neither do expressions in attributes. -/
def face? : Site → Option (Face × Position)
  | .markup jsx | .bare jsx => source.jsxFace? jsx
  | .text span raw =>
    if collapse raw == "" then none else some (.text (collapse raw), positionAt source.text span.start)
  | .child span _ =>
    some (.expression (source.trimmed (between span)).1, positionAt source.text span.start)
  | _ => none

/-- An inset that markup was read as, at its offset from a base. -/
def ReadAs (base : Nat) (inset : Inset) (jsx : Jsx) : Prop :=
  inset = Source.inset base jsx inset.nodes ∧
    ∃ warnings warnings', source.nodes jsx warnings = .ok (inset.nodes, warnings')

/-- An expression that was quoted from a script: its code without blanks at the ends, and the markup
in it at offsets from the start of this code. -/
structure Quotes (script : Expression) (quote : Quote) : Prop where
  /-- The code. -/
  code : script.code = (source.trimmed quote.span).1
  /-- The markup, piece by piece. -/
  insets : List.Forall₂ (source.ReadAs (source.trimmed quote.span).2) script.insets quote.markup

/-- Nodes and expressions that are those of sites, one for one. -/
structure Mirrors (sites : List Site) (nodes : List Node) (scripts : List Expression) : Prop where
  /-- The nodes have the faces of the sites. -/
  faces : nodes.map Node.face = sites.filterMap source.face?
  /-- The expressions are quoted from the sites. -/
  quotes : List.Forall₂ source.Quotes scripts (sites.filterMap Site.quote?)

/-- Reading that comes upon sites: it is refused for the first that cannot be read; otherwise every
warning of the sites is left behind, and what is read has a property. -/
def Reports {α : Type} (sites : List Site) (P : α → Prop) (action : Gather α) : Prop :=
  ∀ warnings, match sites.findSome? source.refusal? with
    | some diagnostic => action warnings = .error diagnostic
    | none => ∃ result, P result ∧
        action warnings = .ok (result, warnings ++ sites.filterMap source.warning?)

end Source

namespace Source.Mirrors

variable {source : Source} {sites sites' : List Site} {nodes nodes' : List Node}
  {scripts scripts' : List Expression}

theorem nil : source.Mirrors [] [] [] := ⟨rfl, .nil⟩

/-- Two parts that mirror their sites do so together. -/
theorem append (h : source.Mirrors sites nodes scripts) (h' : source.Mirrors sites' nodes' scripts') :
    source.Mirrors (sites ++ sites') (nodes ++ nodes') (scripts ++ scripts') where
  faces := by rw [List.map_append, List.filterMap_append, h.faces, h'.faces]
  quotes := by
    rw [List.filterMap_append]
    exact List.rel_append h.quotes h'.quotes

/-- A site that becomes nothing. -/
theorem silent {site : Site} (hface : source.face? site = none) (hquote : site.quote? = none)
    (h : source.Mirrors sites nodes scripts) : source.Mirrors (site :: sites) nodes scripts where
  faces := by rw [List.filterMap_cons_none hface, h.faces]
  quotes := by
    rw [List.filterMap_cons_none hquote]
    exact h.quotes

/-- A site that becomes a node. -/
theorem node {site : Site} {node : Node} (hface : source.face? site = some node.face)
    (hquote : site.quote? = none) (h : source.Mirrors sites nodes scripts) :
    source.Mirrors (site :: sites) (node :: nodes) scripts where
  faces := by rw [List.filterMap_cons_some hface, List.map_cons, h.faces]
  quotes := by
    rw [List.filterMap_cons_none hquote]
    exact h.quotes

/-- An expression between tags. -/
theorem child {span : Span} {term : Term} {script : Expression}
    (hface : source.face? (.child span term) = some (Node.expression script).face)
    (hquote : source.Quotes script ⟨between span, term.outermost⟩)
    (h : source.Mirrors sites nodes scripts) :
    source.Mirrors (.child span term :: sites) (.expression script :: nodes) (script :: scripts) where
  faces := by rw [List.filterMap_cons_some hface, List.map_cons, h.faces]
  quotes := .cons hquote h.quotes

/-- An expression in an attribute. -/
theorem value {span : Span} {term : Term} {script : Expression}
    (hquote : source.Quotes script ⟨between span, term.outermost⟩)
    (h : source.Mirrors sites nodes scripts) :
    source.Mirrors (.value span term :: sites) nodes (script :: scripts) where
  faces := h.faces
  quotes := .cons hquote h.quotes

/-- Markup in an attribute is the node it would be elsewhere, and an expression too. -/
theorem bare {jsx : Jsx} {script : Expression} (hquote : source.Quotes script ⟨jsx.span, [jsx]⟩)
    (h : source.Mirrors (.markup jsx :: sites) nodes scripts) :
    source.Mirrors (.bare jsx :: sites) nodes (script :: scripts) where
  faces := h.faces
  quotes := .cons hquote h.quotes

end Source.Mirrors

/-- What reading gives satisfies a property, if it gives anything. -/
def Gives {α : Type} (P : α → Prop) (action : Gather α) : Prop :=
  ∀ warnings result warnings', action warnings = .ok (result, warnings') → P result

namespace Gives

variable {α β : Type} {P : α → Prop} {Q : β → Prop}

/-- A value that is given at once. -/
theorem pure {a : α} (h : P a) : Gives P (pure a) := by
  intro warnings result warnings' he
  cases he
  exact h

/-- What an action gives is handed on to the next. -/
theorem bind {action : Gather α} {next : α → Gather β} (h : Gives P action)
    (hnext : ∀ a, P a → Gives Q (next a)) : Gives Q (action >>= next) := by
  intro warnings result warnings' he
  change (action warnings >>= fun step => next step.1 step.2) = _ at he
  cases ha : action warnings with
  | error diagnostic =>
    rw [ha] at he
    cases he
  | ok step =>
    rw [ha] at he
    exact hnext step.1 (h warnings step.1 step.2 ha) step.2 result warnings' he

end Gives

namespace Source.Reports

variable {source : Source} {α β : Type} {sites sites' : List Site} {P : α → Prop} {Q : β → Prop}

/-- A value that is given at once reports nothing. -/
theorem pure {a : α} (h : P a) : source.Reports [] P (pure a) := by
  intro warnings
  exact ⟨a, h, by rw [List.filterMap_nil, List.append_nil]; rfl⟩

/-- What is read has what follows for the results of runs. -/
theorem imp {P' : α → Prop} {action : Gather α} (h : source.Reports sites P action)
    (himp : ∀ a warnings warnings', P a → action warnings = .ok (a, warnings') → P' a) :
    source.Reports sites P' action := by
  intro warnings
  have hw := h warnings
  cases hf : sites.findSome? source.refusal? with
  | some diagnostic =>
    rw [hf] at hw
    exact hw
  | none =>
    rw [hf] at hw
    obtain ⟨result, hresult, hok⟩ := hw
    exact ⟨result, himp result warnings _ hresult hok, hok⟩

/-- What is reported does not depend on how much is said of the value. -/
theorem mono {P' : α → Prop} {action : Gather α} (h : source.Reports sites P action)
    (himp : ∀ a, P a → P' a) : source.Reports sites P' action :=
  h.imp fun a _ _ ha _ => himp a ha

/-- What is read was read by a run. -/
theorem ran {action : Gather α} (h : source.Reports sites P action) :
    source.Reports sites
      (fun a => P a ∧ ∃ warnings warnings', action warnings = .ok (a, warnings')) action :=
  h.imp fun _ warnings warnings' ha hok => ⟨ha, warnings, warnings', hok⟩

/-- One reading after another. -/
theorem bind {action : Gather α} {next : α → Gather β} (h : source.Reports sites P action)
    (hnext : ∀ a, P a → source.Reports sites' Q (next a)) :
    source.Reports (sites ++ sites') Q (action >>= next) := by
  intro warnings
  change match (sites ++ sites').findSome? source.refusal? with
    | some diagnostic => (action warnings >>= fun step => next step.1 step.2) = .error diagnostic
    | none => ∃ result, Q result ∧ (action warnings >>= fun step => next step.1 step.2) =
        .ok (result, warnings ++ (sites ++ sites').filterMap source.warning?)
  have hw := h warnings
  rw [List.findSome?_append]
  cases hf : sites.findSome? source.refusal? with
  | some diagnostic =>
    rw [hf] at hw
    rw [hw]
    rfl
  | none =>
    rw [hf] at hw
    obtain ⟨first, hfirst, hok⟩ := hw
    have hrest := hnext first hfirst (warnings ++ sites.filterMap source.warning?)
    rw [hok, List.filterMap_append, ← List.append_assoc]
    exact hrest

/-- What is read has the property. -/
theorem gives {action : Gather α} (h : source.Reports sites P action) : Gives P action := by
  intro warnings result warnings' hok
  have hw := h warnings
  cases hf : sites.findSome? source.refusal? with
  | some diagnostic =>
    rw [hf] at hw
    dsimp only at hw
    rw [hw] at hok
    cases hok
  | none =>
    rw [hf] at hw
    obtain ⟨result', hresult, hok'⟩ := hw
    rw [hok'] at hok
    obtain ⟨rfl, -⟩ := Prod.mk.inj (Except.ok.inj hok)
    exact hresult

/-- The last reading, of which something is made. -/
theorem returns {action : Gather α} {make : α → β} (h : source.Reports sites P action)
    (himp : ∀ a, P a → Q (make a)) :
    source.Reports sites Q (action >>= fun a => Pure.pure (make a)) := by
  rw [← List.append_nil sites]
  exact h.bind fun a ha => .pure (himp a ha)

/-- A site that is passed over. -/
theorem silent {site : Site} {action : Gather α} (hrefusal : site.refusal? = none)
    (hwarning : source.warning? site = none) (h : source.Reports sites P action) :
    source.Reports (site :: sites) P action := by
  intro warnings
  have hnone : source.refusal? site = none := by
    unfold Source.refusal?
    rw [hrefusal, Option.map_none]
  rw [List.findSome?_cons, hnone, List.filterMap_cons_none hwarning]
  exact h warnings

/-- A site that is refused. -/
theorem throw {site : Site} {cause : Cause} (hrefusal : site.refusal? = some cause)
    (sites : List Site) :
    source.Reports (site :: sites) P (throw (source.diagnose cause site.span.start) : Gather α) := by
  intro warnings
  have hsome : source.refusal? site = some (source.diagnose cause site.span.start) := by
    unfold Source.refusal?
    rw [hrefusal, Option.map_some]
  rw [List.findSome?_cons, hsome]
  rfl

/-- Empty braces. -/
theorem warn (span : Span) :
    source.Reports [.empty span] (fun _ => True)
      (warn (source.diagnose .emptyExpression span.start)) := by
  intro warnings
  exact ⟨(), trivial, rfl⟩

end Source.Reports

/-! ### The whole reading -/

section Reading

variable (source : Source)

/-- An expression in braces is quoted from between them. -/
theorem bracedExpression_quotes {span : Span} {term : Term} {insets : List Inset}
    (h : List.Forall₂ (source.ReadAs (source.trimmed (Source.between span)).2) insets
      term.outermost) :
    source.Quotes (source.bracedExpression span insets) ⟨Source.between span, term.outermost⟩ :=
  ⟨rfl, h⟩

/-- Markup that is an expression as a whole is quoted from its own range. -/
theorem markupExpression_quotes {jsx : Jsx} {nodes : List Node}
    (h : ∃ warnings warnings', source.nodes jsx warnings = .ok (nodes, warnings')) :
    source.Quotes (source.markupExpression jsx nodes) ⟨jsx.span, [jsx]⟩ :=
  ⟨rfl, .cons ⟨rfl, h⟩ .nil⟩

mutual
/-- Markup comes upon what is inside it. -/
theorem nodes_report : ∀ jsx : Jsx,
    source.Reports jsx.inside
      (fun nodes => source.Mirrors (.markup jsx :: jsx.inside) (nodesIn nodes) (expressionsIn nodes))
      (source.nodes jsx)
  | .element span tag attributes children => by
    rw [Source.nodes, Jsx.inside]
    refine .bind (attributes_report attributes) fun attributes' ha => ?_
    refine (children_report children).returns fun children' hc => ?_
    simp only [nodesIn, Node.inside, expressionsIn, Node.expressions, List.append_nil]
    exact (ha.append hc).node rfl rfl
  | .fragment span children => by
    rw [Source.nodes, Jsx.inside]
    exact (children_report children).mono fun nodes hn => hn.silent rfl rfl
/-- Attributes come upon the sites of their values. -/
theorem attributes_report : ∀ attributes : List JsxAttribute,
    source.Reports (sitesOfAttributes attributes)
      (fun entries => source.Mirrors (sitesOfAttributes attributes) (nodesInAttributes entries)
        (expressionsInAttributes entries))
      (source.attributes attributes)
  | [] => by
    rw [Source.attributes, sitesOfAttributes]
    exact .pure .nil
  | .named span name value :: rest => by
    rw [Source.attributes, sitesOfAttributes]
    refine .bind (value_reports value) fun value' hv => ?_
    refine (attributes_report rest).returns fun rest' hr => ?_
    rw [nodesInAttributes_entry, expressionsInAttributes_entry]
    exact hv.append hr
  | .spread span term :: rest => by
    rw [Source.attributes, sitesOfAttributes]
    exact .throw rfl _
/-- The value of an attribute is an expression, or comes upon nothing. -/
theorem value_reports : ∀ value : JsxValue,
    source.Reports value.sites
      (fun read => source.Mirrors value.sites read.nodes read.expressions) (source.value value)
  | .absent => by
    rw [Source.value, JsxValue.sites]
    exact .pure .nil
  | .quoted raw => by
    rw [Source.value, JsxValue.sites]
    exact .pure .nil
  | .container span term => by
    rw [Source.value, JsxValue.sites]
    refine .silent rfl rfl ((insets_report _ term).returns fun insets hi => ?_)
    exact hi.1.value (bracedExpression_quotes source hi.2)
  | .markup jsx => by
    rw [Source.value, JsxValue.sites]
    refine .silent rfl rfl ((nodes_report jsx).ran.returns fun nodes hn => ?_)
    have hbare := hn.1.bare (markupExpression_quotes source hn.2)
    rw [← nodesIn_collects.inset (source.trimmed jsx.span).2 jsx,
      ← expressionsIn_collects.inset (source.trimmed jsx.span).2 jsx] at hbare
    exact hbare
/-- Children come upon themselves, one after the other. -/
theorem children_report : ∀ children : List JsxChild,
    source.Reports (sitesOfChildren children)
      (fun nodes => source.Mirrors (sitesOfChildren children) (nodesIn nodes) (expressionsIn nodes))
      (source.children children)
  | [] => by
    rw [Source.children, sitesOfChildren]
    exact .pure .nil
  | .text span raw :: rest => by
    rw [Source.children, sitesOfChildren]
    refine .silent rfl rfl ((children_report rest).returns fun rest' hr => ?_)
    cases hblank : collapse raw == ""
    · exact hr.node (by simp [Source.face?, hblank, Node.face]) rfl
    · exact hr.silent (by simp [Source.face?, hblank]) rfl
  | .markup jsx :: rest => by
    rw [Source.children, sitesOfChildren]
    refine .silent rfl rfl (.bind (nodes_report jsx) fun nodes hn => ?_)
    refine (children_report rest).returns fun rest' hr => ?_
    rw [nodesIn_collects.append, expressionsIn_collects.append]
    exact hn.append hr
  | .container span term :: rest => by
    rw [Source.children, sitesOfChildren]
    refine .silent rfl rfl (.bind (insets_report _ term) fun insets hi => ?_)
    refine (children_report rest).returns fun rest' hr => ?_
    exact (hi.1.append hr).child rfl (bracedExpression_quotes source hi.2)
  | .empty span :: rest => by
    rw [Source.children, sitesOfChildren]
    exact .bind (.warn span) fun _ _ =>
      (children_report rest).mono fun nodes hn => hn.silent rfl rfl
  | .spread span term :: rest => by
    rw [Source.children, sitesOfChildren]
    exact .throw rfl _
/-- A term comes upon the markup in it. -/
theorem insets_report (base : Nat) : ∀ term : Term,
    source.Reports term.sites
      (fun insets => source.Mirrors term.sites (nodesInInsets insets) (expressionsInInsets insets) ∧
        List.Forall₂ (source.ReadAs base) insets term.outermost)
      (source.insets base term)
  | .this => by
    rw [Source.insets, Term.sites, Term.outermost]
    exact .pure ⟨.nil, .nil⟩
  | .name _ => by
    rw [Source.insets, Term.sites, Term.outermost]
    exact .pure ⟨.nil, .nil⟩
  | .member object _ => by
    rw [Source.insets, Term.sites, Term.outermost]
    exact insets_report base object
  | .call callee arguments => by
    rw [Source.insets, Term.sites, Term.outermost]
    refine .bind (insets_report base callee) fun first hf => ?_
    refine (insetsOfAll_report base arguments).returns fun rest hr => ?_
    rw [nodesIn_collects.insets_append, expressionsIn_collects.insets_append]
    exact ⟨hf.1.append hr.1, List.rel_append hf.2 hr.2⟩
  | .group inner => by
    rw [Source.insets, Term.sites, Term.outermost]
    exact insets_report base inner
  | .markup jsx => by
    rw [Source.insets, Term.sites, Term.outermost]
    refine .silent rfl rfl ((nodes_report jsx).ran.returns fun nodes hn => ?_)
    rw [nodesIn_collects.inset, expressionsIn_collects.inset]
    exact ⟨hn.1, .cons ⟨rfl, hn.2⟩ .nil⟩
  | .compound parts => by
    rw [Source.insets, Term.sites, Term.outermost]
    exact insetsOfAll_report base parts
/-- Terms come upon the markup in them. -/
theorem insetsOfAll_report (base : Nat) : ∀ terms : List Term,
    source.Reports (sitesOfTerms terms)
      (fun insets => source.Mirrors (sitesOfTerms terms) (nodesInInsets insets)
        (expressionsInInsets insets) ∧
        List.Forall₂ (source.ReadAs base) insets (outermostOf terms))
      (source.insetsOfAll base terms)
  | [] => by
    rw [Source.insetsOfAll, sitesOfTerms, outermostOf]
    exact .pure ⟨.nil, .nil⟩
  | term :: rest => by
    rw [Source.insetsOfAll, sitesOfTerms, outermostOf]
    refine .bind (insets_report base term) fun first hf => ?_
    refine (insetsOfAll_report base rest).returns fun rest' hr => ?_
    rw [nodesIn_collects.insets_append, expressionsIn_collects.insets_append]
    exact ⟨hf.1.append hr.1, List.rel_append hf.2 hr.2⟩
end

end Reading

/-- The script of a source, as it is parsed. -/
def Source.program (source : Source) : Program := (Program.parse? source.text).getD ⟨[]⟩

/-- A script with a site that cannot be read is refused for the first of them. -/
theorem documentOf_refused {source : Source} {program : Program} {diagnostic : Diagnostic}
    (h : program.sites.findSome? source.refusal? = some diagnostic) :
    source.documentOf program = .error diagnostic := by
  have hread := insetsOfAll_report source 0 program.parts []
  rw [Program.sites] at h
  rw [h] at hread
  unfold Source.documentOf
  change ((source.insetsOfAll 0 program.parts) [] >>= _) = _
  rw [hread]
  rfl

/-- Any other script is read as the nodes of its outermost markup, unless there is none. -/
theorem documentOf_read {source : Source} {program : Program}
    (h : program.sites.findSome? source.refusal? = none) :
    ∃ roots, source.Mirrors program.sites (nodesInInsets roots) (expressionsInInsets roots) ∧
      List.Forall₂ (source.ReadAs 0) roots (outermostOf program.parts) ∧
      source.documentOf program =
        if roots.isEmpty then .error (Cause.noMarkup.diagnose source.path .first)
        else .ok (⟨source.path, roots.flatMap Inset.nodes⟩, program.sites.filterMap source.warning?) := by
  have hread := insetsOfAll_report source 0 program.parts []
  rw [Program.sites] at h
  rw [h] at hread
  obtain ⟨roots, ⟨hmirrors, hroots⟩, hok⟩ := hread
  refine ⟨roots, hmirrors, hroots, ?_⟩
  unfold Source.documentOf
  change ((source.insetsOfAll 0 program.parts) [] >>= _) = _
  rw [hok]
  rfl

/-- The roots of a document are the nodes of the markup of its script. -/
theorem documentOf_ok {source : Source} {program : Program} {document : Document}
    {warnings : List Diagnostic} (h : source.documentOf program = .ok (document, warnings)) :
    ∃ roots, (source.insetsOfAll 0 program.parts) [] = .ok (roots, warnings) ∧
      document.nodes = roots.flatMap Inset.nodes := by
  unfold Source.documentOf at h
  cases hr : (source.insetsOfAll 0 program.parts).run [] with
  | error diagnostic =>
    rw [hr] at h
    cases h
  | ok step =>
    obtain ⟨roots, warnings'⟩ := step
    rw [hr] at h
    change (if roots.isEmpty then _ else _) = _ at h
    split at h
    · cases h
    · obtain ⟨rfl, rfl⟩ := Prod.mk.inj (Except.ok.inj h)
      exact ⟨roots, hr, rfl⟩

/-- A document mirrors the sites of its script. -/
theorem documentOf_mirrors {source : Source} {program : Program} {document : Document}
    {warnings : List Diagnostic} (h : source.documentOf program = .ok (document, warnings)) :
    source.Mirrors program.sites (nodesIn document.nodes) (expressionsIn document.nodes) := by
  obtain ⟨roots, hroots, hnodes⟩ := documentOf_ok h
  rw [hnodes, nodesIn_collects.flatMap, expressionsIn_collects.flatMap]
  exact ((insetsOfAll_report source 0 program.parts).gives [] roots warnings hroots).1

end MiniTemplate
