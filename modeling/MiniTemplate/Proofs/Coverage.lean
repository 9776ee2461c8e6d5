import MiniTemplate.Proofs.Acceptance
import Mathlib.Tactic.Abel
import Mathlib.Algebra.Order.Group.Multiset

/-!
# Which references the audit sees

The audit goes by parents: it checks the references among the children of every element,
insets included, and each of them once. References that have no parent are not checked,
neither at a root nor on top of an inset. So a silent audit vouches for the references
below elements, and for all references of a document exactly if those without a parent
agree with them.
-/

namespace MiniTemplate

/-- The elements that stand in a list of nodes themselves. -/
def topElements (nodes : List Node) : List Element := nodes.filterMap Node.element?

/-- The elements at the top of nodes are the nodes that are elements. -/
theorem mem_topElements {nodes : List Node} {element : Element} :
    element ∈ topElements nodes ↔ .element element ∈ nodes := by
  unfold topElements
  rw [List.mem_filterMap]
  constructor
  · rintro ⟨node, hm, he⟩
    cases node with
    | element inner =>
      obtain rfl : inner = element := Option.some.inj he
      exact hm
    | text run => cases he
    | expression script => cases he
  · exact fun hm => ⟨_, hm, rfl⟩

/-- The elements on top of the insets of expressions. -/
def insetTops (scripts : List Expression) : List Element :=
  scripts.flatMap fun script => script.insets.flatMap fun inset => topElements inset.nodes

/-- The elements that are children of elements. -/
def childElements (elements : List Element) : List Element :=
  elements.flatMap fun element => topElements element.children

@[simp] theorem topElements_element (element : Element) (rest : List Node) :
    topElements (.element element :: rest) = element :: topElements rest := rfl

@[simp] theorem topElements_expression (script : Expression) (rest : List Node) :
    topElements (.expression script :: rest) = topElements rest := rfl

@[simp] theorem insetTops_append (scripts scripts' : List Expression) :
    insetTops (scripts ++ scripts') = insetTops scripts ++ insetTops scripts' :=
  List.flatMap_append

@[simp] theorem insetTops_cons (script : Expression) (rest : List Expression) :
    insetTops (script :: rest) =
      (script.insets.flatMap fun inset => topElements inset.nodes) ++ insetTops rest :=
  List.flatMap_cons

@[simp] theorem childElements_append (elements elements' : List Element) :
    childElements (elements ++ elements') = childElements elements ++ childElements elements' :=
  List.flatMap_append

@[simp] theorem childElements_cons (element : Element) (rest : List Element) :
    childElements (element :: rest) = topElements element.children ++ childElements rest :=
  List.flatMap_cons

/-- An element of trees stands among the nodes themselves, on top of an inset, or among the
children of an element. -/
theorem elementsIn_split :
    TreeInduction
      (fun nodes => (elementsIn nodes : Multiset Element) =
        topElements nodes + insetTops (expressionsIn nodes) + childElements (elementsIn nodes))
      (fun attributes => (elementsInAttributes attributes : Multiset Element) =
        insetTops (expressionsInAttributes attributes) +
          childElements (elementsInAttributes attributes))
      (fun insets => (elementsInInsets insets : Multiset Element) =
        (insets.flatMap fun inset => topElements inset.nodes) +
          insetTops (expressionsInInsets insets) + childElements (elementsInInsets insets)) where
  noNodes := by
    simp [elementsIn, topElements, expressionsIn, insetTops, childElements]
  element tag attributes children position rest hattributes hchildren hrest := by
    -- the children change sides: on top of their own list, and children of an element of the whole
    simp only [elementsIn, Node.elements, expressionsIn, Node.expressions, topElements_element,
      insetTops_append, childElements_append, childElements_cons, List.cons_append,
      ← Multiset.cons_coe, ← Multiset.singleton_add, ← Multiset.coe_add]
    rw [hattributes, hchildren, hrest]
    abel
  text run rest hrest := hrest
  expression code insets position rest hinsets hrest := by
    simp only [elementsIn, Node.elements, expressionsIn, Node.expressions, topElements_expression,
      insetTops_append, insetTops_cons, childElements_append, ← Multiset.coe_add]
    rw [hinsets, hrest]
    abel
  noAttributes := by
    simp [elementsInAttributes, expressionsInAttributes, insetTops, childElements]
  bare name position rest hrest := hrest
  static name text position rest hrest := hrest
  dynamic name code insets place position rest hinsets hrest := by
    simp only [elementsInAttributes, expressionsInAttributes, insetTops_append, insetTops_cons,
      childElements_append, ← Multiset.coe_add]
    rw [hinsets, hrest]
    abel
  noInsets := by
    simp [elementsInInsets, expressionsInInsets, insetTops, childElements]
  inset start stop fragment nodes rest hnodes hrest := by
    simp only [elementsInInsets, expressionsInInsets, List.flatMap_cons, insetTops_append,
      childElements_append, ← Multiset.coe_add]
    rw [hnodes, hrest]
    abel

/-- A reference and the element whose child it is. -/
structure Hosted where
  /-- The parent. -/
  host : Element
  /-- The reference. -/
  reference : Element

/-- What the audit knows of a reference with its parent. -/
def Hosted.placed (dialect : Dialect) (hosted : Hosted) : Placed :=
  ⟨hosted.reference, dialect.marksChildren hosted.host⟩

/-- The references that are children of elements, with their parents. -/
def hostedBy (elements : List Element) : List Hosted :=
  elements.flatMap fun host =>
    ((topElements host.children).filter Element.isReference).map (Hosted.mk host)

@[simp] theorem hostedBy_append (elements elements' : List Element) :
    hostedBy (elements ++ elements') = hostedBy elements ++ hostedBy elements' :=
  List.flatMap_append

@[simp] theorem hostedBy_cons (element : Element) (rest : List Element) :
    hostedBy (element :: rest) =
      ((topElements element.children).filter Element.isReference).map (Hosted.mk element) ++
        hostedBy rest :=
  List.flatMap_cons

/-- Without their parents they are the references among the children. -/
theorem hostedBy_reference (elements : List Element) :
    (hostedBy elements).map Hosted.reference =
      (childElements elements).filter Element.isReference := by
  induction elements with
  | nil => rfl
  | cons element rest ih =>
    rw [hostedBy_cons, childElements_cons, List.map_append, List.filter_append, ih, List.map_map]
    exact congrArg (· ++ _) (List.map_id _)

/-- The references among children are the references among the elements there. -/
theorem placedChildren_eq (dialect : Dialect) (host : Element) (nodes : List Node) :
    placedChildren (dialect.marksChildren host) nodes =
      (((topElements nodes).filter Element.isReference).map (Hosted.mk host)).map
        (Hosted.placed dialect) := by
  induction nodes with
  | nil => rfl
  | cons node rest ih =>
    cases node with
    | element inner =>
      rw [placedChildren, topElements_element]
      cases hr : inner.isReference
      · rw [if_neg Bool.false_ne_true, List.filter_cons_of_neg (by simp [hr]), ih]
      · rw [if_pos rfl, List.filter_cons_of_pos hr, List.map_cons, List.map_cons, ih]
        rfl
    | text run => exact ih
    | expression script => exact ih

/-- The audit looks at the references that are children of an element, at each of them once. -/
theorem placedIn_split (dialect : Dialect) :
    TreeInduction
      (fun nodes => (placedIn dialect nodes : Multiset Placed) =
        (hostedBy (elementsIn nodes)).map (Hosted.placed dialect))
      (fun attributes => (placedInAttributes dialect attributes : Multiset Placed) =
        (hostedBy (elementsInAttributes attributes)).map (Hosted.placed dialect))
      (fun insets => (placedInInsets dialect insets : Multiset Placed) =
        (hostedBy (elementsInInsets insets)).map (Hosted.placed dialect)) where
  noNodes := by
    simp [placedIn, elementsIn, hostedBy]
  element tag attributes children position rest hattributes hchildren hrest := by
    simp only [placedIn, elementsIn, Node.elements, hostedBy_append, hostedBy_cons,
      List.cons_append, List.map_append, placedChildren_eq, ← Multiset.coe_add]
    rw [hattributes, hchildren, hrest]
    abel
  text run rest hrest := by
    simpa only [placedIn, elementsIn, Node.elements, List.nil_append] using hrest
  expression code insets position rest hinsets hrest := by
    simp only [placedIn, elementsIn, Node.elements, hostedBy_append, List.map_append,
      ← Multiset.coe_add]
    rw [hinsets, hrest]
  noAttributes := by
    simp [placedInAttributes, elementsInAttributes, hostedBy]
  bare name position rest hrest := by
    simpa only [placedInAttributes, elementsInAttributes] using hrest
  static name text position rest hrest := by
    simpa only [placedInAttributes, elementsInAttributes] using hrest
  dynamic name code insets place position rest hinsets hrest := by
    simp only [placedInAttributes, elementsInAttributes, hostedBy_append, List.map_append,
      ← Multiset.coe_add]
    rw [hinsets, hrest]
  noInsets := by
    simp [placedInInsets, elementsInInsets, hostedBy]
  inset start stop fragment nodes rest hnodes hrest := by
    simp only [placedInInsets, elementsInInsets, hostedBy_append, List.map_append,
      ← Multiset.coe_add]
    rw [hnodes, hrest]

namespace Document

/-- Every reference of a document, at any position. -/
def references (document : Document) : List Element :=
  (elementsIn document.nodes).filter Element.isReference

/-- The references of a document that are children of an element. -/
def childReferences (document : Document) : List Element :=
  (childElements (elementsIn document.nodes)).filter Element.isReference

/-- The references of a document without a parent: at a root, or on top of an inset. -/
def topReferences (document : Document) : List Element :=
  (topElements document.nodes ++ insetTops (expressionsIn document.nodes)).filter Element.isReference

/-- Every reference has no parent element, or is a child of one. -/
theorem references_perm (document : Document) :
    document.references.Perm (document.topReferences ++ document.childReferences) := by
  have h : (elementsIn document.nodes).Perm
      (topElements document.nodes ++ insetTops (expressionsIn document.nodes) ++
        childElements (elementsIn document.nodes)) := by
    rw [← Multiset.coe_eq_coe, ← Multiset.coe_add, ← Multiset.coe_add]
    exact elementsIn_split.nodes document.nodes
  unfold references topReferences childReferences
  rw [← List.filter_append]
  exact h.filter Element.isReference

/-- The references of a document that are children of an element, with their parents. -/
def hosted (document : Document) : List Hosted := hostedBy (elementsIn document.nodes)

/-- The audit looks at the children of elements, each once, in an order of its own. -/
theorem placedIn_perm_hosted (document : Document) (dialect : Dialect) :
    (placedIn dialect document.nodes).Perm (document.hosted.map (Hosted.placed dialect)) :=
  Multiset.coe_eq_coe.mp ((placedIn_split dialect).nodes document.nodes)

/-- So what it looks at are the references that have a parent element. -/
theorem placedIn_perm (document : Document) (dialect : Dialect) :
    ((placedIn dialect document.nodes).map Placed.reference).Perm document.childReferences := by
  have hperm := (document.placedIn_perm_hosted dialect).map Placed.reference
  rw [List.map_map] at hperm
  exact hperm.trans (.of_eq (hostedBy_reference _))

end Document

/-- References with data keys of their own and selectors that are registered. -/
structure Consistent (registered : List String) (references : List Element) : Prop where
  /-- Every reference has a data key. -/
  keyed : ∀ reference ∈ references, (reference.staticText? dataKeyName).isSome = true
  /-- No two references share a data key. -/
  distinct : (references.map fun reference => reference.staticText? dataKeyName).Nodup
  /-- Every selector that is not empty is registered. -/
  selected : ∀ reference ∈ references, ∀ selector ∈ reference.staticText? selectorName,
    selector ≠ "" → selector ∈ registered

namespace Consistent

variable {registered : List String} {references references' : List Element}

instance (registered : List String) (references : List Element) :
    Decidable (Consistent registered references) :=
  decidable_of_iff
    ((∀ reference ∈ references, (reference.staticText? dataKeyName).isSome = true) ∧
      (references.map fun reference => reference.staticText? dataKeyName).Nodup ∧
      ∀ reference ∈ references, ∀ selector ∈ reference.staticText? selectorName,
        selector ≠ "" → selector ∈ registered)
    ⟨fun ⟨hk, hd, hs⟩ => ⟨hk, hd, hs⟩, fun h => ⟨h.keyed, h.distinct, h.selected⟩⟩

/-- The order of references does not matter. -/
theorem perm_iff (hp : references.Perm references') :
    Consistent registered references ↔ Consistent registered references' := by
  have hsome : ∀ {as bs : List Element}, as.Perm bs →
      Consistent registered as → Consistent registered bs := by
    intro as bs hab h
    refine ⟨fun reference hm => h.keyed reference (hab.mem_iff.mpr hm), ?_,
      fun reference hm => h.selected reference (hab.mem_iff.mpr hm)⟩
    exact (hab.map _).nodup_iff.mp h.distinct
  exact ⟨hsome hp, hsome hp.symm⟩

/-- Two lists of references are consistent together if each is and they share no data key. -/
theorem append_iff :
    Consistent registered (references ++ references') ↔
      Consistent registered references ∧ Consistent registered references' ∧
        ∀ reference ∈ references, ∀ reference' ∈ references',
          reference.staticText? dataKeyName ≠ reference'.staticText? dataKeyName := by
  constructor
  · intro h
    have hkeyed := List.forall_mem_append.mp h.keyed
    have hselected := List.forall_mem_append.mp h.selected
    have hdistinct := h.distinct
    rw [List.map_append, List.nodup_append] at hdistinct
    obtain ⟨hleft, hright, hacross⟩ := hdistinct
    refine ⟨⟨hkeyed.1, hleft, hselected.1⟩, ⟨hkeyed.2, hright, hselected.2⟩, ?_⟩
    intro reference hm reference' hm'
    exact hacross _ (List.mem_map_of_mem hm) _ (List.mem_map_of_mem hm')
  · rintro ⟨h, h', hacross⟩
    refine ⟨List.forall_mem_append.mpr ⟨h.keyed, h'.keyed⟩, ?_,
      List.forall_mem_append.mpr ⟨h.selected, h'.selected⟩⟩
    rw [List.map_append, List.nodup_append]
    refine ⟨h.distinct, h'.distinct, ?_⟩
    intro key hk key' hk'
    obtain ⟨reference, hm, rfl⟩ := List.mem_map.mp hk
    obtain ⟨reference', hm', rfl⟩ := List.mem_map.mp hk'
    exact hacross reference hm reference' hm'

end Consistent

/-- References that agree with the registry are consistent. -/
theorem Agreeing.consistent {registered : List String} {placed : List Placed}
    (h : Agreeing registered placed) :
    Consistent registered (placed.map Placed.reference) where
  keyed := List.forall_mem_map.mpr h.keyed
  distinct := by
    rw [List.map_map]
    exact h.nodup
  selected := by
    refine List.forall_mem_map.mpr fun entry hm selector hs hne => ?_
    have hcause := h.selectors entry hm
    simp only [selectorCause?, Option.mem_def.mp hs] at hcause
    by_contra hmem
    simp [hne, hmem] at hcause

/-- If the audit finds nothing wrong, the references below elements are consistent. -/
theorem consistent_childReferences {dialect : Dialect} {registry : Registry} {document : Document}
    (h : document.violations dialect registry = []) :
    Consistent registry.selectors document.childReferences := by
  have hagree := ((violations_eq_nil dialect registry document).mp h).2
  exact (Consistent.perm_iff (document.placedIn_perm dialect)).mp hagree.consistent

/-- A silent audit says that the references below elements are consistent. All references of
the document are so exactly if those without a parent are, and share no data key with the
others: the audit does not look at them. -/
theorem audit_covers_children (dialect : Dialect) (registry : Registry) (document : Document)
    (h : document.violations dialect registry = []) :
    Consistent registry.selectors document.childReferences ∧
      (Consistent registry.selectors document.references ↔
        Consistent registry.selectors document.topReferences ∧
          ∀ top ∈ document.topReferences, ∀ child ∈ document.childReferences,
            top.staticText? dataKeyName ≠ child.staticText? dataKeyName) := by
  have hchildren := consistent_childReferences h
  refine ⟨hchildren, ?_⟩
  rw [Consistent.perm_iff document.references_perm, Consistent.append_iff]
  exact ⟨fun ⟨htop, _, hacross⟩ => ⟨htop, hacross⟩,
    fun ⟨htop, hacross⟩ => ⟨htop, hchildren, hacross⟩⟩

/-- A document with one reference at a root, one below an element and one on top of an inset. -/
def spreadDocument : Document where
  path := "page.jsx"
  nodes := [
    .element ⟨templateTag, [.ofText dataKeyName "first", .ofText selectorName "child0"], [],
      .unknown⟩,
    .element ⟨"view", [],
      [.element ⟨templateTag, [.ofText dataKeyName "second", .ofText selectorName ""], [], .unknown⟩,
        .expression ⟨"<template datakey=\"third\"/>",
          [⟨0, 27, false, [.element ⟨templateTag, [.ofText dataKeyName "third"], [], .unknown⟩]⟩],
          .unknown⟩],
      .unknown⟩]

/-- The references of the spread document are consistent. -/
theorem audit_covers_children_spread :
    spreadDocument.violations .standard ⟨["child0"], []⟩ = [] ∧
      spreadDocument.topReferences.length = 2 ∧
      Consistent ["child0"] spreadDocument.childReferences ∧
      Consistent ["child0"] spreadDocument.references :=
  have h : spreadDocument.violations .standard ⟨["child0"], []⟩ = [] := by decide +kernel
  have hcover := audit_covers_children .standard ⟨["child0"], []⟩ spreadDocument h
  ⟨h, by decide, hcover.1, hcover.2.mpr ⟨by decide, by decide⟩⟩

/-- A document whose references without a parent break every rule: the two at the roots share
a data key and select a template that is not registered, and the one in the inset has no key. -/
def strayReferences : Document where
  path := "page.jsx"
  nodes := [
    .element ⟨templateTag, [.ofText dataKeyName "k", .ofText selectorName "lost"], [], .unknown⟩,
    .element ⟨templateTag, [.ofText dataKeyName "k", .ofText selectorName "lost"], [], .unknown⟩,
    .expression ⟨"<template tempVnode=\x7ba\x7d/>",
      [⟨0, 25, false, [.element ⟨templateTag, [.ofExpression expressionName ⟨"a", [], .unknown⟩], [],
        .unknown⟩]⟩],
      .unknown⟩]

/-- The audit finds nothing wrong with the stray references. -/
theorem audit_misses_strays :
    strayReferences.violations .standard .empty = [] ∧
      (∃ reference ∈ strayReferences.references, reference.staticText? dataKeyName = none) ∧
      ¬ (strayReferences.references.map fun reference => reference.staticText? dataKeyName).Nodup ∧
      (∃ reference ∈ strayReferences.references,
        reference.staticText? selectorName = some "lost" ∧ "lost" ∉ Registry.empty.selectors) := by
  decide +kernel

end MiniTemplate
