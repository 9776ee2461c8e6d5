import MiniTemplate.Binding
import MiniTemplate.Proofs.Inlining
import MiniTemplate.Proofs.Sessions

/-!
# The outer trees of a document

Only the outer trees of a document have bindings: the elements reached from the roots
through children, without entering expressions. Lifting turns exactly the expression
children found there into references, in document order, and the data keys of all
references of the document, outer or not, are the ones it drew.
-/

namespace MiniTemplate

mutual
/-- The expressions that lifting replaces in the outer trees of nodes, in document order;
`lifts` says whether it replaces those among the nodes themselves. -/
def outerExpressions (dialect : Dialect) (lifts : Bool) : List Node → List Expression
  | [] => []
  | node :: rest => Node.outerExpressions dialect lifts node ++ outerExpressions dialect lifts rest
/-- The expressions that lifting replaces in an outer tree. -/
def Node.outerExpressions (dialect : Dialect) (lifts : Bool) : Node → List Expression
  | .element ⟨tag, _, children, _⟩ => outerExpressions dialect (!dialect.isComponent tag) children
  | .text _ => []
  | .expression script => if lifts then [script] else []
end

mutual
/-- The elements in the outer trees of nodes, in document order. -/
def outerElements : List Node → List Element
  | [] => []
  | node :: rest => Node.outerElements node ++ outerElements rest
/-- The elements in an outer tree. -/
def Node.outerElements : Node → List Element
  | .element ⟨tag, attributes, children, position⟩ =>
    ⟨tag, attributes, children, position⟩ :: outerElements children
  | _ => []
end

theorem outerElements_of_element (element : Element) :
    (Node.element element).outerElements = element :: outerElements element.children := by
  obtain ⟨tag, attributes, children, position⟩ := element
  rw [Node.outerElements]

theorem outerElements_cons_element (element : Element) (rest : List Node) :
    outerElements (.element element :: rest) =
      element :: (outerElements element.children ++ outerElements rest) := by
  rw [outerElements, outerElements_of_element, List.cons_append]

mutual
/-- The references in the outer trees of nodes, in document order. -/
def outerReferences : List Node → List Element
  | [] => []
  | node :: rest => Node.outerReferences node ++ outerReferences rest
/-- The references in an outer tree. -/
def Node.outerReferences : Node → List Element
  | .element ⟨tag, attributes, children, position⟩ =>
    [⟨tag, attributes, children, position⟩].filter Element.isReference ++ outerReferences children
  | _ => []
end

mutual
/-- The expressions that were replaced by elements in the outer trees of nodes, each with the
element that took its place, in document order. -/
def outerReplaced : List Node → List Node → List (Expression × Element)
  | node :: rest, node' :: rest' => Node.outerReplaced node node' ++ outerReplaced rest rest'
  | _, _ => []
termination_by structural nodes => nodes
/-- The expressions that were replaced by elements in an outer tree. -/
def Node.outerReplaced : Node → Node → List (Expression × Element)
  | .element ⟨_, _, children, _⟩, .element parent => outerReplaced children parent.children
  | .expression script, .element parent => [(script, parent)]
  | _, _ => []
termination_by structural node => node
end

/-- The bindings of nodes are those of the references in their outer trees. -/
theorem bindingsOf_eq :
    OuterInduction fun nodes =>
      bindingsOf nodes = (outerReferences nodes).filterMap Element.binding? where
  noNodes := rfl
  element tag attributes children position rest hchildren hrest := by
    rw [bindingsOf, Node.bindings, outerReferences, Node.outerReferences, List.filterMap_append,
      List.filterMap_append, hchildren, hrest]
    cases hr : Element.isReference ⟨tag, attributes, children, position⟩ with
    | false => simp [hr]
    | true =>
      cases hb : Element.binding? ⟨tag, attributes, children, position⟩ <;> simp [hr, hb]
  text run rest hrest := hrest
  expression code insets position rest hrest := hrest

/-- An element that lifting made for an expression: a reference that holds the expression with
its insets lifted. -/
def MadeFor (dialect : Dialect) (script : Expression) (element : Element) : Prop :=
  ∃ ledger key selector inText, element =
    reference
      ⟨script.code, (rewriteInsets (liftStep dialect) script.insets ledger).1, script.position⟩
      key selector inText

/-- What lifting has done to the outer trees of nodes, where it replaced the expressions among
the nodes themselves or did not. -/
structure OuterLifted (dialect : Dialect) (lifts : Bool) (nodes nodes' : List Node) : Prop where
  /-- It replaced the expressions it had to replace, in document order. -/
  expressions : (outerReplaced nodes nodes').map Prod.fst = outerExpressions dialect lifts nodes
  /-- It replaced them by references made for them. -/
  made : ∀ pair ∈ outerReplaced nodes nodes', MadeFor dialect pair.1 pair.2
  /-- There are no other references. -/
  references : outerReferences nodes' = (outerReplaced nodes nodes').map Prod.snd

namespace OuterLifted

variable {dialect : Dialect} {lifts : Bool} {rest rest' : List Node}

theorem nil : OuterLifted dialect lifts [] [] where
  expressions := rfl
  made := by simp [outerReplaced]
  references := rfl

theorem text (run : TextRun) (h : OuterLifted dialect lifts rest rest') :
    OuterLifted dialect lifts (.text run :: rest) (.text run :: rest') where
  expressions := h.expressions
  made := h.made
  references := h.references

/-- An expression that stays. -/
theorem kept (script script' : Expression) (h : OuterLifted dialect false rest rest') :
    OuterLifted dialect false (.expression script :: rest) (.expression script' :: rest') where
  expressions := h.expressions
  made := h.made
  references := h.references

/-- An expression that is replaced. -/
theorem replaced {script : Expression} {element : Element} (hm : MadeFor dialect script element)
    (hr : Node.outerReferences (.element element) = [element])
    (h : OuterLifted dialect true rest rest') :
    OuterLifted dialect true (.expression script :: rest) (.element element :: rest') where
  expressions := congrArg (script :: ·) h.expressions
  made := List.forall_mem_cons.mpr ⟨hm, h.made⟩
  references := by
    rw [outerReferences, hr, h.references]
    rfl

/-- An element that is no reference, with what was done below it. -/
theorem element {tag : String} {attributes : List Attribute} {children : List Node}
    {position : Position} {element : Element} (hr : element.isReference = false)
    (hbelow : OuterLifted dialect (!dialect.isComponent tag) children element.children)
    (h : OuterLifted dialect lifts rest rest') :
    OuterLifted dialect lifts (.element ⟨tag, attributes, children, position⟩ :: rest)
      (.element element :: rest') where
  expressions := by
    rw [outerReplaced, Node.outerReplaced, List.map_append, hbelow.expressions, h.expressions]
    rfl
  made := by
    rw [outerReplaced, Node.outerReplaced]
    exact List.forall_mem_append.mpr ⟨hbelow.made, h.made⟩
  references := by
    obtain ⟨tag', attributes', children', position'⟩ := element
    rw [outerReplaced, Node.outerReplaced, List.map_append, ← hbelow.references, ← h.references,
      outerReferences, Node.outerReferences, List.filter_cons_of_neg (by simp [hr])]
    rfl

end OuterLifted

/-- A reference is the only reference of its outer tree. -/
theorem outerReferences_reference (script : Expression) (key selector : String) (inText : Bool) :
    Node.outerReferences (.element (reference script key selector inText)) =
      [reference script key selector inText] := by
  have hr := isReference_reference script key selector inText
  unfold reference at hr ⊢
  rw [Node.outerReferences, List.filter_cons_of_pos hr]
  rfl

/-- What a pass does to the outer trees of nodes without references: by itself, and together
with the step that lifts the nodes as children. -/
theorem lift_outer (dialect : Dialect) :
    OuterInduction fun nodes => (∀ element ∈ elementsIn nodes, element.isReference = false) →
      ∀ ledger,
        OuterLifted dialect false nodes (rewriteNodes (liftStep dialect) nodes ledger).1 ∧
          ∀ inText selectors keys after,
            Lifts inText selectors keys (rewriteNodes (liftStep dialect) nodes ledger).1 after →
              OuterLifted dialect true nodes after where
  noNodes _ _ := by
    refine ⟨.nil, ?_⟩
    rintro _ _ _ _ ⟨⟩
    exact .nil
  element tag attributes children position rest hchildren hrest hfree ledger := by
    simp only [elementsIn, Node.elements, List.forall_mem_append, List.forall_mem_cons] at hfree
    obtain ⟨⟨hself, -, hfc⟩, hfr⟩ := hfree
    have houtline := (liftStep_keepsOutline dialect).rewritten ledger tag attributes children
    rw [rewriteNodes_element]
    dsimp only
    generalize rewriteAttributes (liftStep dialect) attributes ledger = walked at houtline ⊢
    obtain ⟨hkept, hlifted⟩ := hchildren hfc walked.2
    generalize rewriteNodes (liftStep dialect) children walked.2 = below at hkept hlifted ⊢
    have hr := (Element.isReference_congr (houtline below.1 position below.2)).trans hself
    have hbelow : OuterLifted dialect (!dialect.isComponent tag) children
        (liftStep dialect ⟨tag, walked.1, below.1, position⟩ below.2).1.children := by
      rcases liftStep_cases dialect ⟨tag, walked.1, below.1, position⟩ below.2 with
        ⟨hc, he⟩ | ⟨hc, _, _, _, _, _, he, -, hl⟩
      · rw [he, hc]
        exact hkept
      · rw [he, hc]
        exact hlifted _ _ _ _ hl
    obtain ⟨hrk, hrl⟩ := hrest hfr (liftStep dialect ⟨tag, walked.1, below.1, position⟩ below.2).2
    refine ⟨.element hr hbelow hrk, ?_⟩
    intro inText selectors keys after h
    cases h with
    | element _ h => exact .element hr hbelow (hrl _ _ _ _ h)
  text run rest hrest hfree ledger := by
    obtain ⟨hrk, hrl⟩ := hrest hfree ledger
    refine ⟨.text run hrk, ?_⟩
    intro inText selectors keys after h
    cases h with
    | text _ h => exact .text run (hrl _ _ _ _ h)
  expression code insets position rest hrest hfree ledger := by
    simp only [elementsIn, Node.elements, List.forall_mem_append] at hfree
    rw [rewriteNodes_expression]
    dsimp only
    obtain ⟨hrk, hrl⟩ := hrest hfree.2 (rewriteInsets (liftStep dialect) insets ledger).2
    refine ⟨.kept _ _ hrk, ?_⟩
    intro inText selectors keys after h
    cases h with
    | expression _ key selector _ h =>
      exact .replaced ⟨ledger, key, selector, inText, rfl⟩ (outerReferences_reference _ _ _ _)
        (hrl _ _ _ _ h)

/-- The data keys of the references among elements. -/
def referenceKeys (elements : List Element) : List (Option String) :=
  (elements.filter Element.isReference).map fun element => element.staticText? dataKeyName

/-- The keys of references in two lists of elements. -/
theorem referenceKeys_append (elements elements' : List Element) :
    referenceKeys (elements ++ elements') = referenceKeys elements ++ referenceKeys elements' := by
  unfold referenceKeys
  rw [List.filter_append, List.map_append]

/-- An element that is no reference has no key to list. -/
theorem referenceKeys_cons_of_not {element : Element} (h : element.isReference = false)
    (elements : List Element) : referenceKeys (element :: elements) = referenceKeys elements := by
  unfold referenceKeys
  rw [List.filter_cons_of_neg (by simp [h])]

/-- A reference made by lifting has the key it was made with. -/
theorem referenceKeys_reference (script : Expression) (key selector : String) (inText : Bool)
    (elements : List Element) :
    referenceKeys (reference script key selector inText :: elements) =
      some key :: referenceKeys elements := by
  unfold referenceKeys
  rw [List.filter_cons_of_pos (isReference_reference script key selector inText), List.map_cons,
    staticText?_reference]

/-- Lifting children adds references with the keys it is given. -/
theorem Lifts.referenceKeys_perm {inText : Bool} {selectors keys : List String}
    {before after : List Node} (h : Lifts inText selectors keys before after) :
    (referenceKeys (elementsIn after)).Perm (referenceKeys (elementsIn before) ++ keys.map some) := by
  induction h with
  | nil => exact .nil
  | expression script key selector hs h ih =>
    rw [elementsIn, elementsIn, elements_reference, List.cons_append, referenceKeys_reference,
      referenceKeys_append, referenceKeys_append, List.map_cons]
    have hrest := ih.append_left (referenceKeys (Node.expression script).elements)
    rw [← List.append_assoc] at hrest
    exact (hrest.cons _).trans List.perm_middle.symm
  | element inner h ih =>
    rw [elementsIn, elementsIn, referenceKeys_append, referenceKeys_append, List.append_assoc]
    exact ih.append_left _
  | text run h ih =>
    rw [elementsIn, elementsIn, referenceKeys_append, referenceKeys_append, List.append_assoc]
    exact ih.append_left _

/-- A step adds references with the keys it draws. -/
theorem liftStep_referenceKeys (dialect : Dialect) {element : Element}
    (hr : element.isReference = false) (ledger : Ledger) :
    ∃ keys, ledger.Draws (liftStep dialect element ledger).2 keys ∧
      (referenceKeys (Node.element (liftStep dialect element ledger).1).elements).Perm
        (referenceKeys (elementsInAttributes element.attributes) ++
          referenceKeys (elementsIn element.children) ++ keys) := by
  have hr' := (Element.isReference_congr (liftStep_keepsOutline dialect element ledger)).trans hr
  rcases liftStep_cases dialect element ledger with ⟨-, he⟩ | ⟨-, _, _, s, k, p, he, hg, hl⟩
  · rw [he]
    refine ⟨[], .refl ledger, ?_⟩
    obtain ⟨tag, attributes, children, position⟩ := element
    rw [Node.elements, referenceKeys_cons_of_not hr, referenceKeys_append, List.append_nil]
  · rw [he] at hr' ⊢
    refine ⟨_, ⟨s, k, p, hg, rfl⟩, ?_⟩
    rw [Node.elements, referenceKeys_cons_of_not hr', referenceKeys_append, List.append_assoc]
    exact hl.referenceKeys_perm.append_left _

/-- The references that a pass leaves in nodes without references have the keys it drew. -/
theorem lift_referenceKeys (dialect : Dialect) :
    TreeInduction
      (fun nodes => (∀ element ∈ elementsIn nodes, element.isReference = false) →
        ∀ ledger : Ledger, ∃ keys,
          ledger.Draws (rewriteNodes (liftStep dialect) nodes ledger).2 keys ∧
          (referenceKeys (elementsIn (rewriteNodes (liftStep dialect) nodes ledger).1)).Perm keys)
      (fun attributes => (∀ element ∈ elementsInAttributes attributes, element.isReference = false) →
        ∀ ledger : Ledger, ∃ keys,
          ledger.Draws (rewriteAttributes (liftStep dialect) attributes ledger).2 keys ∧
          (referenceKeys (elementsInAttributes
            (rewriteAttributes (liftStep dialect) attributes ledger).1)).Perm keys)
      (fun insets => (∀ element ∈ elementsInInsets insets, element.isReference = false) →
        ∀ ledger : Ledger, ∃ keys,
          ledger.Draws (rewriteInsets (liftStep dialect) insets ledger).2 keys ∧
          (referenceKeys (elementsInInsets
            (rewriteInsets (liftStep dialect) insets ledger).1)).Perm keys) where
  noNodes _ ledger := ⟨[], .refl ledger, .nil⟩
  element tag attributes children position rest hattributes hchildren hrest hfree ledger := by
    simp only [elementsIn, Node.elements, List.forall_mem_append, List.forall_mem_cons] at hfree
    obtain ⟨⟨hself, hfa, hfc⟩, hfr⟩ := hfree
    have houtline := outline_walked (liftStep dialect) ledger tag attributes children
    rw [rewriteNodes_element]
    dsimp only
    obtain ⟨ka, hda, hpa⟩ := hattributes hfa ledger
    generalize rewriteAttributes (liftStep dialect) attributes ledger = walked at hda hpa houtline ⊢
    obtain ⟨kc, hdc, hpc⟩ := hchildren hfc walked.2
    generalize rewriteNodes (liftStep dialect) children walked.2 = below at hdc hpc ⊢
    have hr := (Element.isReference_congr (houtline below.1 position)).trans hself
    obtain ⟨ks, hds, hps⟩ := liftStep_referenceKeys dialect hr below.2
    obtain ⟨kr, hdr, hpr⟩ :=
      hrest hfr (liftStep dialect ⟨tag, walked.1, below.1, position⟩ below.2).2
    refine ⟨_, ((hda.trans hdc).trans hds).trans hdr, ?_⟩
    rw [elementsIn, referenceKeys_append]
    exact (hps.trans ((hpa.append hpc).append_right ks)).append hpr
  text run rest hrest hfree ledger := hrest hfree ledger
  expression code insets position rest hinsets hrest hfree ledger := by
    simp only [elementsIn, Node.elements, List.forall_mem_append] at hfree
    rw [rewriteNodes_expression]
    obtain ⟨ki, hdi, hpi⟩ := hinsets hfree.1 ledger
    obtain ⟨kr, hdr, hpr⟩ := hrest hfree.2 (rewriteInsets (liftStep dialect) insets ledger).2
    refine ⟨_, hdi.trans hdr, ?_⟩
    rw [elementsIn, Node.elements, referenceKeys_append]
    exact hpi.append hpr
  noAttributes _ ledger := ⟨[], .refl ledger, .nil⟩
  bare name position rest hrest hfree ledger := hrest hfree ledger
  static name text position rest hrest hfree ledger := hrest hfree ledger
  dynamic name code insets place position rest hinsets hrest hfree ledger := by
    simp only [elementsInAttributes, List.forall_mem_append] at hfree
    rw [rewriteAttributes_dynamic]
    obtain ⟨ki, hdi, hpi⟩ := hinsets hfree.1 ledger
    obtain ⟨kr, hdr, hpr⟩ := hrest hfree.2 (rewriteInsets (liftStep dialect) insets ledger).2
    refine ⟨_, hdi.trans hdr, ?_⟩
    rw [elementsInAttributes, referenceKeys_append]
    exact hpi.append hpr
  noInsets _ ledger := ⟨[], .refl ledger, .nil⟩
  inset start stop fragment nodes rest hnodes hrest hfree ledger := by
    simp only [elementsInInsets, List.forall_mem_append] at hfree
    rw [rewriteInsets_cons]
    obtain ⟨kn, hdn, hpn⟩ := hnodes hfree.1 ledger
    obtain ⟨kr, hdr, hpr⟩ := hrest hfree.2 (rewriteNodes (liftStep dialect) nodes ledger).2
    refine ⟨_, hdn.trans hdr, ?_⟩
    rw [elementsInInsets, referenceKeys_append]
    exact hpn.append hpr

/-- The references of outer trees are references among their elements. -/
theorem outerReferences_eq :
    OuterInduction fun nodes =>
      outerReferences nodes = (outerElements nodes).filter Element.isReference where
  noNodes := rfl
  element tag attributes children position rest hchildren hrest := by
    rw [outerReferences, Node.outerReferences, hchildren, hrest, outerElements, Node.outerElements,
      ← List.filter_append, List.singleton_append, ← List.filter_append]
  text run rest hrest := hrest
  expression code insets position rest hrest := hrest

/-- The elements of outer trees are among all elements. -/
theorem outerElements_sublist :
    OuterInduction fun nodes => (outerElements nodes).Sublist (elementsIn nodes) where
  noNodes := .slnil
  element tag attributes children position rest hchildren hrest := by
    rw [outerElements, Node.outerElements, elementsIn, Node.elements]
    have hbelow := hchildren.trans (List.sublist_append_right (elementsInAttributes attributes) _)
    exact (hbelow.cons_cons _).append hrest
  text run rest hrest := hrest
  expression code insets position rest hrest := by
    rw [elementsIn]
    exact hrest.trans (List.sublist_append_right _ _)

/-- The references in the outer trees of nodes are among all the references there are, in the same
order. -/
theorem outerReferences_sublist (nodes : List Node) :
    (outerReferences nodes).Sublist ((elementsIn nodes).filter Element.isReference) := by
  rw [outerReferences_eq.nodes]
  exact (outerElements_sublist.nodes nodes).filter Element.isReference

/-- After lifting nodes without references, no two references have the same data key. -/
theorem nodup_referenceKeys_lifted (dialect : Dialect) {nodes : List Node}
    (hfree : ∀ element ∈ elementsIn nodes, element.isReference = false) (ledger : Ledger) :
    (referenceKeys (elementsIn (rewriteNodes (liftStep dialect) nodes ledger).1)).Nodup := by
  obtain ⟨keys, hd, hp⟩ := (lift_referenceKeys dialect).nodes nodes hfree ledger
  exact hp.nodup_iff.mpr hd.nodup

/-- After lifting nodes without references, references have no children. -/
theorem childless_lifted (dialect : Dialect) {nodes : List Node}
    (hfree : ∀ element ∈ elementsIn nodes, element.isReference = false) (ledger : Ledger) :
    ∀ element ∈ elementsIn (rewriteNodes (liftStep dialect) nodes ledger).1,
      element.isReference = true → element.children = [] := by
  refine (lift_forall_elements dialect ?_ ?_).nodes nodes hfree ledger
  · exact fun _ _ _ _ _ => rfl
  · intro element hr rewritten ho ledger hr'
    have hkeep := (liftStep_keepsOutline dialect rewritten ledger).trans ho
    rw [Element.isReference_congr hkeep, hr] at hr'
    contradiction

end MiniTemplate
