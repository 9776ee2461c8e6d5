import MiniTemplate.Proofs.Coverage
import MiniTemplate.Proofs.Idempotence
import Mathlib.Data.List.Flatten

/-!
# When bindings have keys of their own

Bindings are those of the references in the outer trees of a lifted document. The audit
comes later: it looks at the children of elements, and inlining has taken references out of
text containers by then. So two bindings can share a key only if the audit does not see one of
their references, because it stands at a root or was inlined, and the keys of all bindings differ
exactly if the keys of these references come once.
-/

namespace MiniTemplate

/-- An element of outer trees is a root or a child of another one. -/
theorem outerElements_split :
    OuterInduction fun nodes => (outerElements nodes : Multiset Element) =
      topElements nodes + childElements (outerElements nodes) where
  noNodes := by
    simp [outerElements, topElements, childElements]
  element tag attributes children position rest hchildren hrest := by
    simp only [outerElements_cons_element, topElements_element, childElements_cons,
      childElements_append, ← Multiset.cons_coe, ← Multiset.singleton_add, ← Multiset.coe_add]
    rw [hchildren, hrest]
    abel
  text run rest hrest := hrest
  expression code insets position rest hrest := hrest

/-! ### Keys that elements bind -/

/-- The keys that the references among elements bind, in order. -/
def boundKeys (elements : List Element) : List String :=
  (elements.filter Element.isReference).filterMap Element.boundKey?

/-- Elements side by side bind what each of them binds. -/
theorem boundKeys_append (elements elements' : List Element) :
    boundKeys (elements ++ elements') = boundKeys elements ++ boundKeys elements' := by
  unfold boundKeys
  rw [List.filter_append, List.filterMap_append]

/-- The first of the elements binds its key first. -/
theorem boundKeys_cons (element : Element) (elements : List Element) :
    boundKeys (element :: elements) = boundKeys [element] ++ boundKeys elements :=
  boundKeys_append [element] elements

/-- What an element binds shows in its outline. -/
theorem Element.boundKey?_outline (element : Element) :
    element.outline.boundKey? = element.boundKey? := by
  have hexpression : (element.outline.expression? expressionName).isSome =
      (element.expression? expressionName).isSome := by
    unfold expression?
    rw [lookup?_outline]
    rcases element.lookup? expressionName with _ | ⟨_, value, _⟩
    · rfl
    · cases value <;> rfl
  unfold boundKey?
  rw [hexpression, staticText?_outline]

/-- Elements with the same outlines bind the same keys. -/
theorem boundKeys_congr {elements elements' : List Element}
    (h : elements.map Element.outline = elements'.map Element.outline) :
    boundKeys elements = boundKeys elements' := by
  have houtline : ∀ list : List Element, boundKeys (list.map Element.outline) = boundKeys list := by
    intro list
    unfold boundKeys
    rw [List.filter_map, List.filterMap_map]
    simp only [Function.comp_def, Element.isReference_outline, Element.boundKey?_outline]
  rw [← houtline elements, h, houtline]

/-- An element binds what any other with its outline binds. -/
theorem boundKeys_singleton_congr {a b : Element} (h : a.outline = b.outline) :
    boundKeys [a] = boundKeys [b] :=
  boundKeys_congr (congrArg (fun element => [element]) h)

/-- Nodes with the same outlines have elements among them that bind the same keys. -/
theorem boundKeys_topElements {nodes nodes' : List Node}
    (h : nodes.map Node.outline = nodes'.map Node.outline) :
    boundKeys (topElements nodes) = boundKeys (topElements nodes') := by
  have houtline : ∀ list : List Node,
      (topElements list).map Element.outline = topElements (list.map Node.outline) := by
    intro list
    unfold topElements
    rw [List.map_filterMap, List.filterMap_map]
    exact List.filterMap_congr fun node _ => by cases node <;> rfl
  exact boundKeys_congr (by rw [houtline, houtline, h])

/-- A reference that was made binds its data key. -/
theorem boundKeys_reference (script : Expression) (key selector : String) (inText : Bool) :
    boundKeys [reference script key selector inText] = [key] := by
  have hkey : (reference script key selector inText).boundKey? = some key := by
    unfold Element.boundKey?
    rw [expression?_reference, staticText?_reference]
    rfl
  unfold boundKeys
  rw [List.filter_cons_of_pos (isReference_reference script key selector inText), List.filter_nil,
    List.filterMap_cons_some hkey, List.filterMap_nil]

/-- The keys of the bindings of a document are those that the elements of its outer trees bind. -/
theorem bindings_boundKeys (document : Document) :
    document.bindings.map Binding.key = boundKeys (outerElements document.nodes) := by
  rw [bindings_keys, outerReferences_eq.nodes]
  rfl

/-- References bind a key no more often than they have it. -/
theorem count_boundKeys_le (key : String) (elements : List Element) :
    (boundKeys elements).count key ≤ (referenceKeys elements).count (some key) := by
  have hkeys := (keys_sublist (elements.filter Element.isReference)).count_le (some key)
  rw [List.count_map_of_injective _ _ (Option.some_injective _), List.map_filterMap] at hkeys
  simp only [Element.binding?_key] at hkeys
  exact hkeys

/-! ### What the audit does not see -/

/-- The references among nodes, each with all elements of its outer tree. -/
def referenceTrees (nodes : List Node) : List Element :=
  ((topElements nodes).filter Element.isReference).flatMap fun inner =>
    (Node.element inner).outerElements

/-- What goes with the children of an element that inlining replaces, if it is a text container. -/
def Element.inlinedTrees (dialect : Dialect) (element : Element) : List Element :=
  if dialect.isText element then referenceTrees element.children else []

/-- The elements of outer trees that are not among the children of elements when the audit comes:
those at the roots, and those that inlining takes away. -/
def unaudited (dialect : Dialect) (inlines : Bool) (nodes : List Node) : List Element :=
  topElements nodes ++
    if inlines then (outerElements nodes).flatMap (Element.inlinedTrees dialect) else []

/-- A first element brings its outer tree along if it is a reference. -/
theorem referenceTrees_element (inner : Element) (rest : List Node) :
    referenceTrees (.element inner :: rest) =
      (if inner.isReference then (Node.element inner).outerElements else []) ++
        referenceTrees rest := by
  unfold referenceTrees
  rw [topElements_element, List.filter_cons]
  cases inner.isReference
  · rfl
  · exact List.flatMap_cons

/-- If the audit finds nothing wrong, a key that no root binds is bound once at most. -/
theorem audited_count_le_one {dialect : Dialect} {registry : Registry} {document : Document}
    (h : document.violations dialect registry = []) {key : String}
    (hkey : key ∉ boundKeys (topElements document.nodes)) :
    (boundKeys (outerElements document.nodes)).count key ≤ 1 := by
  have hsplit : (outerElements document.nodes).Perm
      (topElements document.nodes ++ childElements (outerElements document.nodes)) := by
    rw [← Multiset.coe_eq_coe, ← Multiset.coe_add]
    exact outerElements_split.nodes document.nodes
  have hperm := (hsplit.filter Element.isReference).filterMap Element.boundKey?
  have hcount : (boundKeys (outerElements document.nodes)).count key =
      (boundKeys (topElements document.nodes)).count key +
        (boundKeys (childElements (outerElements document.nodes))).count key := by
    rw [← List.count_append, ← boundKeys_append]
    exact hperm.count_eq key
  have hsub : ((childElements (outerElements document.nodes)).filter Element.isReference).Sublist
      document.childReferences :=
    ((outerElements_sublist.nodes document.nodes).flatMap _).filter Element.isReference
  have hdistinct := (consistent_childReferences h).distinct.sublist (hsub.map _)
  have hchildren := count_boundKeys_le key (childElements (outerElements document.nodes))
  have hone := List.nodup_iff_count_le_one.mp hdistinct (some key)
  rw [hcount, List.count_eq_zero.mpr hkey, Nat.zero_add]
  exact hchildren.trans hone

/-! ### Keys through inlining -/

section Inlines

variable {path container : String} {before after : List Node} {bindings : List Binding}
  {failure : Option Diagnostic} (h : Inlines path container before after bindings failure)
include h

/-- Inlining children adds no key. -/
theorem Inlines.mem_boundKeys {key : String} (hm : key ∈ boundKeys (outerElements after)) :
    key ∈ boundKeys (outerElements before) := by
  induction h with
  | nil => exact hm
  | shown inner shownKey ht hk h ih =>
    rw [outerElements, boundKeys_append]
    exact List.mem_append_right _ (ih hm)
  | stopped inner ht hk => exact hm
  | element inner ht h ih =>
    rw [outerElements, boundKeys_append, List.mem_append] at hm ⊢
    exact hm.imp_right ih
  | text run h ih => exact ih hm
  | expression script h ih => exact ih hm

/-- Inlining children loses no key that the references among them, and what is below these, do not
bind. -/
theorem Inlines.count_boundKeys_le {key : String} (hkey : key ∉ boundKeys (referenceTrees before)) :
    (boundKeys (outerElements before)).count key ≤ (boundKeys (outerElements after)).count key := by
  induction h with
  | nil => exact le_refl _
  | shown inner shownKey ht hk h ih =>
    rw [referenceTrees_element, Element.isReference_of_key ht hk, if_pos rfl, boundKeys_append,
      List.mem_append, not_or] at hkey
    have hrest := ih hkey.2
    rw [outerElements, boundKeys_append, List.count_append, List.count_eq_zero.mpr hkey.1,
      Nat.zero_add]
    exact hrest
  | stopped inner ht hk => exact le_refl _
  | element inner ht h ih =>
    rw [referenceTrees_element, boundKeys_append, List.mem_append, not_or] at hkey
    have hrest := ih hkey.2
    rw [outerElements, outerElements, boundKeys_append, boundKeys_append, List.count_append,
      List.count_append]
    omega
  | text run h ih => exact ih hkey
  | expression script h ih => exact ih hkey

end Inlines

/-- A step adds no key. -/
theorem inlineStep_mem_boundKeys (dialect : Dialect) (path : String) {key : String}
    {element : Element} {state : Inlined}
    (hm : key ∈ boundKeys (outerElements (inlineStep dialect path element state).1.children)) :
    key ∈ boundKeys (outerElements element.children) := by
  rcases inlineStep_cases dialect path element state with ⟨-, he⟩ | ⟨-, -, _, _, _, he, h⟩
  · rw [he] at hm
    exact hm
  · rw [he] at hm
    exact h.mem_boundKeys hm

/-- A step loses no key that is not bound where it inlines. -/
theorem inlineStep_count_boundKeys_le {dialect : Dialect} (path : String) {key : String}
    {element : Element} (hkey : key ∉ boundKeys (element.inlinedTrees dialect)) (state : Inlined) :
    (boundKeys (outerElements element.children)).count key ≤
      (boundKeys (outerElements (inlineStep dialect path element state).1.children)).count key := by
  rcases inlineStep_cases dialect path element state with ⟨-, he⟩ | ⟨-, ht, _, _, _, he, h⟩
  · rw [he]
  · rw [Element.inlinedTrees, if_pos ht] at hkey
    rw [he]
    exact h.count_boundKeys_le hkey

/-- A pass adds no key to outer trees, nor to the trees of references among nodes. -/
theorem inline_mem_boundKeys (dialect : Dialect) (path key : String) :
    OuterInduction fun nodes => ∀ state,
      (key ∈ boundKeys (outerElements (rewriteNodes (inlineStep dialect path) nodes state).1) →
          key ∈ boundKeys (outerElements nodes)) ∧
        (key ∈ boundKeys (referenceTrees (rewriteNodes (inlineStep dialect path) nodes state).1) →
          key ∈ boundKeys (referenceTrees nodes)) where
  noNodes _ := ⟨id, id⟩
  element tag attributes children position rest hchildren hrest state := by
    have houtline := (inlineStep_keepsOutline dialect path).rewritten state tag attributes children
    rw [rewriteNodes_element]
    dsimp only
    generalize rewriteAttributes (inlineStep dialect path) attributes state = walked at houtline ⊢
    obtain ⟨hbelow, -⟩ := hchildren walked.2
    generalize rewriteNodes (inlineStep dialect path) children walked.2 = below at hbelow ⊢
    have htree : key ∈ boundKeys (Node.element (inlineStep dialect path
          ⟨tag, walked.1, below.1, position⟩ below.2).1).outerElements →
        key ∈ boundKeys (Node.element ⟨tag, attributes, children, position⟩).outerElements := by
      rw [outerElements_of_element, outerElements_of_element, boundKeys_cons, boundKeys_cons _
        (outerElements children), boundKeys_singleton_congr (houtline below.1 position below.2),
        List.mem_append, List.mem_append]
      exact Or.imp_right fun hm => hbelow (inlineStep_mem_boundKeys dialect path hm)
    have hr := Element.isReference_congr (houtline below.1 position below.2)
    generalize inlineStep dialect path ⟨tag, walked.1, below.1, position⟩ below.2 = rewritten
      at htree hr ⊢
    obtain ⟨houter, htrees⟩ := hrest rewritten.2
    refine ⟨?_, ?_⟩
    · rw [outerElements, outerElements, boundKeys_append, boundKeys_append, List.mem_append,
        List.mem_append]
      exact Or.imp htree houter
    · rw [referenceTrees_element, referenceTrees_element, hr, boundKeys_append, boundKeys_append,
        List.mem_append, List.mem_append]
      refine Or.imp ?_ htrees
      split
      · exact htree
      · exact id
  text run rest hrest state := hrest state
  expression code insets position rest hrest state := hrest _

/-- A pass loses no key that is not bound where it inlines. -/
theorem inline_count_boundKeys_le {dialect : Dialect} (hd : dialect.ByTag) (path key : String) :
    OuterInduction fun nodes =>
      (∀ element ∈ outerElements nodes, key ∉ boundKeys (element.inlinedTrees dialect)) →
        ∀ state, (boundKeys (outerElements nodes)).count key ≤
          (boundKeys (outerElements
            (rewriteNodes (inlineStep dialect path) nodes state).1)).count key where
  noNodes _ _ := le_refl _
  element tag attributes children position rest hchildren hrest hkey state := by
    rw [outerElements_cons_element] at hkey
    obtain ⟨hself, hkey⟩ := List.forall_mem_cons.mp hkey
    obtain ⟨hkc, hkr⟩ := List.forall_mem_append.mp hkey
    have houtline := (inlineStep_keepsOutline dialect path).rewritten state tag attributes children
    rw [rewriteNodes_element]
    dsimp only
    generalize rewriteAttributes (inlineStep dialect path) attributes state = walked at houtline ⊢
    have hsecond := hchildren hkc walked.2
    obtain ⟨-, htrees⟩ := (inline_mem_boundKeys dialect path key).nodes children walked.2
    generalize rewriteNodes (inlineStep dialect path) children walked.2 = below at hsecond htrees ⊢
    -- what the container shows was among its children before the pass went below it
    have hshown : key ∉ boundKeys (Element.inlinedTrees dialect
        ⟨tag, walked.1, below.1, position⟩) := by
      rw [Element.inlinedTrees] at hself ⊢
      rw [hd ⟨tag, walked.1, below.1, position⟩ ⟨tag, attributes, children, position⟩ rfl]
      split
      · rename_i ht
        rw [if_pos ht] at hself
        exact fun hm => hself (htrees hm)
      · exact List.not_mem_nil
    have hstep := inlineStep_count_boundKeys_le path hshown below.2
    have ho := houtline below.1 position below.2
    generalize inlineStep dialect path ⟨tag, walked.1, below.1, position⟩ below.2 = rewritten
      at hstep ho ⊢
    have hbehind := hrest hkr rewritten.2
    rw [outerElements_cons_element, outerElements_cons_element, boundKeys_cons,
      boundKeys_cons rewritten.1, boundKeys_singleton_congr ho, boundKeys_append, boundKeys_append]
    simp only [List.count_append]
    dsimp only at hstep
    omega
  text run rest hrest hkey state := hrest hkey state
  expression code insets position rest hrest hkey state := hrest hkey _

/-! ### Keys through lifting -/

/-- What lifting makes of the keys that nodes bind, where it makes references with new keys. -/
structure BindsMore (dialect : Dialect) (nodes nodes' : List Node) (made : List String) : Prop where
  /-- The outer trees bind the new keys and those they bound before. -/
  outer : (boundKeys (outerElements nodes')).Perm (boundKeys (outerElements nodes) ++ made)
  /-- The references among the nodes, and what is below them, bind no other keys. -/
  trees : ∀ key ∈ boundKeys (referenceTrees nodes'),
    key ∈ boundKeys (referenceTrees nodes) ∨ key ∈ made
  /-- Nor does what inlining takes away. -/
  inlined : ∀ key ∈ boundKeys ((outerElements nodes').flatMap (Element.inlinedTrees dialect)),
    key ∈ boundKeys ((outerElements nodes).flatMap (Element.inlinedTrees dialect)) ∨ key ∈ made

namespace BindsMore

variable {dialect : Dialect} {nodes nodes' nodes'' rest rest' : List Node}
  {made made' : List String}

/-- Nodes that stay as they are bind no more. -/
theorem refl (nodes : List Node) : BindsMore dialect nodes nodes [] where
  outer := by rw [List.append_nil]
  trees _ hm := .inl hm
  inlined _ hm := .inl hm

/-- The new keys of two steps come together. -/
theorem trans (h : BindsMore dialect nodes nodes' made)
    (h' : BindsMore dialect nodes' nodes'' made') :
    BindsMore dialect nodes nodes'' (made ++ made') where
  outer := by
    rw [← List.append_assoc]
    exact h'.outer.trans (h.outer.append_right made')
  trees key hm := by
    rw [List.mem_append, ← or_assoc]
    exact (h'.trees key hm).imp_left (h.trees key)
  inlined key hm := by
    rw [List.mem_append, ← or_assoc]
    exact (h'.inlined key hm).imp_left (h.inlined key)

/-- An element that keeps its outline, with what is done below and behind it. -/
theorem element (hd : dialect.ByTag) {old new : Element} (ho : new.outline = old.outline)
    (h : BindsMore dialect old.children new.children made)
    (h' : BindsMore dialect rest rest' made') :
    BindsMore dialect (.element old :: rest) (.element new :: rest') (made ++ made') where
  outer := by
    have hbelow := h.outer
    have hbehind := h'.outer
    rw [outerElements_cons_element, outerElements_cons_element, boundKeys_cons new,
      boundKeys_cons old, boundKeys_singleton_congr ho, boundKeys_append, boundKeys_append]
    rw [← Multiset.coe_eq_coe] at hbelow hbehind ⊢
    simp only [← Multiset.coe_add] at hbelow hbehind ⊢
    rw [hbelow, hbehind]
    abel
  trees key hm := by
    rw [referenceTrees_element, Element.isReference_congr ho, boundKeys_append,
      List.mem_append] at hm
    rw [referenceTrees_element, boundKeys_append, List.mem_append, List.mem_append]
    rcases hm with hm | hm
    · split at hm
      · rename_i hr
        rw [outerElements_of_element, boundKeys_cons, boundKeys_singleton_congr ho, List.mem_append,
          h.outer.mem_iff, List.mem_append] at hm
        rw [if_pos hr, outerElements_of_element, boundKeys_cons, List.mem_append]
        tauto
      · simp [boundKeys] at hm
    · exact (h'.trees key hm).imp .inr .inr
  inlined key hm := by
    have htag : new.tag = old.tag := (Element.mk.inj ho).1
    simp only [outerElements_cons_element, List.flatMap_cons, List.flatMap_append, boundKeys_append,
      List.mem_append] at hm ⊢
    rcases hm with hm | hm | hm
    · rw [Element.inlinedTrees, hd new old htag] at hm
      split at hm
      · rename_i ht
        rw [Element.inlinedTrees, if_pos ht]
        exact (h.trees key hm).imp .inl .inl
      · simp [boundKeys] at hm
    · exact (h.inlined key hm).imp (fun hk => .inr (.inl hk)) .inl
    · exact (h'.inlined key hm).imp (fun hk => .inr (.inr hk)) .inr

end BindsMore

/-- Lifting children makes references with the keys it is given. -/
theorem Lifts.bindsMore {inText : Bool} {selectors keys : List String} {before after : List Node}
    (h : Lifts inText selectors keys before after) {dialect : Dialect} (hd : dialect.ByTag) :
    BindsMore dialect before after keys := by
  induction h with
  | nil => exact .refl []
  | @expression keys before after script key selector hs h ih =>
    have htree : (Node.element (reference script key selector inText)).outerElements =
        [reference script key selector inText] := rfl
    have hnone : (reference script key selector inText).inlinedTrees dialect = [] := by
      unfold Element.inlinedTrees
      split <;> rfl
    refine ⟨?_, ?_, ?_⟩
    · rw [outerElements, htree, boundKeys_append, boundKeys_reference, List.singleton_append]
      exact (ih.outer.cons key).trans List.perm_middle.symm
    · intro name hm
      rw [referenceTrees_element, isReference_reference, if_pos rfl, htree, boundKeys_append,
        boundKeys_reference, List.singleton_append, List.mem_cons] at hm
      rw [List.mem_cons]
      rcases hm with hm | hm
      · exact .inr (.inl hm)
      · exact (ih.trees name hm).imp_right .inr
    · intro name hm
      rw [outerElements, htree, List.singleton_append, List.flatMap_cons, hnone,
        List.nil_append] at hm
      rw [List.mem_cons]
      exact (ih.inlined name hm).imp_right .inr
  | element inner h ih => exact .element hd rfl (.refl inner.children) ih
  | text run h ih => exact ⟨ih.outer, ih.trees, ih.inlined⟩

/-- A step binds the keys it draws, below the element. -/
theorem liftStep_bindsMore {dialect : Dialect} (hd : dialect.ByTag) (element : Element)
    (ledger : Ledger) :
    ∃ keys, ledger.Draws (liftStep dialect element ledger).2 (keys.map some) ∧
      BindsMore dialect element.children (liftStep dialect element ledger).1.children keys := by
  rcases liftStep_cases dialect element ledger with ⟨-, he⟩ | ⟨-, _, _, s, k, p, he, hg, hl⟩
  · rw [he]
    exact ⟨[], .refl ledger, .refl element.children⟩
  · rw [he]
    exact ⟨_, ⟨s, k, p, hg, rfl⟩, hl.bindsMore hd⟩

/-- A pass binds some of the keys it draws in the outer trees of nodes; the others are for
references inside expressions. -/
theorem lift_bindsMore {dialect : Dialect} (hd : dialect.ByTag) :
    OuterInduction fun nodes => ∀ ledger : Ledger, ∃ keys made,
      ledger.Draws (rewriteNodes (liftStep dialect) nodes ledger).2 keys ∧
        (made.map some).Sublist keys ∧
        BindsMore dialect nodes (rewriteNodes (liftStep dialect) nodes ledger).1 made where
  noNodes ledger := ⟨[], [], .refl ledger, .slnil, .refl []⟩
  element tag attributes children position rest hchildren hrest ledger := by
    have houtline := (liftStep_keepsOutline dialect).rewritten ledger tag attributes children
    have hda := ((lift_run dialect).attributes attributes ledger).1.draws
    rw [rewriteNodes_element]
    dsimp only
    generalize rewriteAttributes (liftStep dialect) attributes ledger = walked at houtline hda ⊢
    obtain ⟨kc, mc, hdc, hsc, hbc⟩ := hchildren walked.2
    generalize rewriteNodes (liftStep dialect) children walked.2 = below at hdc hbc ⊢
    have ho := houtline below.1 position below.2
    obtain ⟨ks, hds, hbs⟩ := liftStep_bindsMore hd ⟨tag, walked.1, below.1, position⟩ below.2
    obtain ⟨kr, mr, hdr, hsr, hbr⟩ :=
      hrest (liftStep dialect ⟨tag, walked.1, below.1, position⟩ below.2).2
    refine ⟨_, mc ++ ks ++ mr, ((hda.trans hdc).trans hds).trans hdr, ?_,
      .element hd ho (hbc.trans hbs) hbr⟩
    rw [List.map_append, List.map_append]
    exact ((hsc.trans (List.sublist_append_right _ kc)).append (.refl _)).append hsr
  text run rest hrest ledger := by
    obtain ⟨keys, made, hdraws, hsub, hbinds⟩ := hrest ledger
    exact ⟨keys, made, hdraws, hsub, hbinds.outer, hbinds.trees, hbinds.inlined⟩
  expression code insets position rest hrest ledger := by
    have hdi := ((lift_run dialect).insets insets ledger).1.draws
    rw [rewriteNodes_expression]
    obtain ⟨kr, mr, hdr, hsr, hbr⟩ := hrest (rewriteInsets (liftStep dialect) insets ledger).2
    exact ⟨_, mr, hdi.trans hdr, hsr.trans (List.sublist_append_right _ kr), hbr.outer, hbr.trees,
      hbr.inlined⟩

/-- The data keys drawn from one ledger to a later one. -/
def Ledger.drawnKeys (before after : Ledger) : List String :=
  before.supplies.dataKeys.upcoming
    (after.supplies.dataKeys.issued - before.supplies.dataKeys.issued)

/-- The keys that a pass draws are those drawn between its ledgers. -/
theorem Ledger.Draws.eq_drawnKeys {before after : Ledger} {keys : List (Option String)}
    (h : before.Draws after keys) : keys = (before.drawnKeys after).map some := by
  obtain ⟨s, k, p, hg, rfl⟩ := h
  rw [Ledger.drawnKeys, hg.dataKeys, Supply.issued_advance, Nat.add_sub_cancel_left]

/-! ### Distinct keys -/

section Lowered

variable {dialect : Dialect} {document : Document} {ledger : Ledger} {inlines : Bool} {key : String}

/-- A key that no unaudited reference of the lifted document binds is bound once at most, if the
audit finds nothing wrong in the end. -/
theorem lifted_count_le_one (hd : dialect.ByTag)
    (hsilent : (document.lower dialect inlines ledger).document.violations dialect
      (document.lower dialect inlines ledger).ledger.registry = [])
    (hkey : key ∉ boundKeys
      (unaudited dialect inlines (document.extract dialect ledger).1.nodes)) :
    (boundKeys (outerElements (document.extract dialect ledger).1.nodes)).count key ≤ 1 := by
  rw [unaudited, boundKeys_append, List.mem_append, not_or] at hkey
  obtain ⟨htop, hinlined⟩ := hkey
  rw [lower_document] at hsilent
  generalize (document.extract dialect ledger).1 = lifted at htop hinlined hsilent ⊢
  cases inlines with
  | false => exact audited_count_le_one hsilent htop
  | true =>
    have houtline := (inlineStep_keepsOutline dialect lifted.path).nodes .start lifted.nodes
    have htop' : key ∉ boundKeys (topElements (lifted.inlineText dialect).1.nodes) := by
      rw [inlineText_eq, boundKeys_topElements houtline]
      exact htop
    have hshown : ∀ element ∈ outerElements lifted.nodes,
        key ∉ boundKeys (element.inlinedTrees dialect) := by
      intro element he hm
      refine hinlined ?_
      rw [if_pos rfl]
      unfold boundKeys at hm ⊢
      rw [List.filter_flatMap, List.filterMap_flatMap]
      exact List.mem_flatMap.mpr ⟨element, he, hm⟩
    have hkept := (inline_count_boundKeys_le hd lifted.path key).nodes lifted.nodes hshown .start
    exact hkept.trans (audited_count_le_one hsilent htop')

/-- A key that an unaudited reference of the lifted document binds is bound once, if no unaudited
reference of the document itself binds a key that comes again or is drawn, nor, with inlining, any
reference a key that is drawn. -/
theorem lifted_count_le_one_of_author (hd : dialect.ByTag)
    (hown : ∀ name ∈ boundKeys (unaudited dialect inlines document.nodes),
      (boundKeys (outerElements document.nodes)).count name ≤ 1 ∧
        name ∉ ledger.drawnKeys (document.extract dialect ledger).2)
    (hdrawn : inlines = true → ∀ name ∈ boundKeys (outerElements document.nodes),
      name ∉ ledger.drawnKeys (document.extract dialect ledger).2)
    (hkey : key ∈ boundKeys
      (unaudited dialect inlines (document.extract dialect ledger).1.nodes)) :
    (boundKeys (outerElements (document.extract dialect ledger).1.nodes)).count key ≤ 1 := by
  obtain ⟨keys, made, hdraws, hsub, hbinds⟩ := (lift_bindsMore hd).nodes document.nodes ledger
  rw [extract_eq] at hown hdrawn hkey ⊢
  dsimp only at hown hdrawn hkey ⊢
  have hnodup : made.Nodup := (hdraws.nodup.sublist hsub).of_map some
  have hmem : ∀ name ∈ made, name ∈
      ledger.drawnKeys (rewriteNodes (liftStep dialect) document.nodes ledger).2 := by
    intro name hm
    have hsome := hsub.subset (List.mem_map_of_mem hm)
    rw [hdraws.eq_drawnKeys] at hsome
    obtain ⟨_, hname, ⟨⟩⟩ := List.mem_map.mp hsome
    exact hname
  have hcount := hbinds.outer.count_eq key
  rw [List.count_append] at hcount
  have hone := List.nodup_iff_count_le_one.mp hnodup key
  -- the key is one of an unaudited reference that the author wrote, or of one in a text container
  have hcases : key ∈ boundKeys (unaudited dialect inlines document.nodes) ∨
      inlines = true ∧ key ∈ made := by
    rw [unaudited, boundKeys_append, List.mem_append] at hkey ⊢
    rw [boundKeys_topElements ((liftStep_keepsOutline dialect).nodes ledger document.nodes)] at hkey
    rcases hkey with hkey | hkey
    · exact .inl (.inl hkey)
    · split at hkey
      · rename_i hinlines
        rw [if_pos hinlines]
        exact (hbinds.inlined key hkey).imp .inr fun hm => ⟨hinlines, hm⟩
      · simp [boundKeys] at hkey
  rcases hcases with hauthor | ⟨hinlines, hm⟩
  · obtain ⟨hle, hnot⟩ := hown key hauthor
    have hzero := List.count_eq_zero.mpr fun hm => hnot (hmem key hm)
    omega
  · have hzero : (boundKeys (outerElements document.nodes)).count key = 0 :=
      List.count_eq_zero.mpr fun hb => hdrawn hinlines key hb (hmem key hm)
    omega

end Lowered

/-- When the bindings that lowering gives have different keys: exactly if, in the document as it
was lifted, the references that the audit does not see bind keys that come once, which are those
at the roots and, with inlining, those in text containers; all other repetitions are refused. For
the document itself it is enough that such references bind keys that come once and are not drawn,
and that with inlining no reference binds a key that is drawn. -/
theorem lower_keys_distinct (textTags : List String) (suffix : String) (inlines : Bool)
    (document : Document) (ledger : Ledger) (bindings : List Binding)
    (hok : (document.lower (.ofTags textTags suffix) inlines ledger).outcome = .ok bindings) :
    let dialect := Dialect.ofTags textTags suffix
    let lifted := (document.extract dialect).run ledger
    let drawn := ledger.drawnKeys lifted.2
    ((bindings.map Binding.key).Nodup ↔
      ∀ key ∈ boundKeys (unaudited dialect inlines lifted.1.nodes),
        (lifted.1.bindings.map Binding.key).count key ≤ 1) ∧
    ((∀ key ∈ boundKeys (unaudited dialect inlines document.nodes),
        (document.bindings.map Binding.key).count key ≤ 1 ∧ key ∉ drawn) →
      (inlines = true → ∀ key ∈ document.bindings.map Binding.key, key ∉ drawn) →
      (bindings.map Binding.key).Nodup) := by
  intro dialect lifted drawn
  have hd : dialect.ByTag := Dialect.byTag_ofTags textTags suffix
  obtain ⟨hsettled, hsilent⟩ := lower_ok_iff.mp hok
  have hkeys : bindings.map Binding.key = lifted.1.bindings.map Binding.key := settled_keys hsettled
  have hiff : (bindings.map Binding.key).Nodup ↔
      ∀ key ∈ boundKeys (unaudited dialect inlines lifted.1.nodes),
        (lifted.1.bindings.map Binding.key).count key ≤ 1 := by
    rw [hkeys, bindings_boundKeys, List.nodup_iff_count_le_one]
    refine ⟨fun hone key _ => hone key, fun hown key => ?_⟩
    by_cases hkey : key ∈ boundKeys (unaudited dialect inlines lifted.1.nodes)
    · exact hown key hkey
    · exact lifted_count_le_one hd hsilent hkey
  refine ⟨hiff, fun hown hdrawn => hiff.mpr fun key hkey => ?_⟩
  rw [bindings_boundKeys] at hown hdrawn ⊢
  exact lifted_count_le_one_of_author hd hown hdrawn hkey

/-- A reference as an author writes it. -/
def writtenReference (key code : String) : Node :=
  .element ⟨templateTag, [.ofText dataKeyName key,
    .ofExpression expressionName ⟨code, [], .unknown⟩], [], .unknown⟩

/-- References by the author at a root, below an element under a name that the supply has further
on, and in a text container beside an expression. -/
def authoredDocument : Document where
  path := "page.jsx"
  nodes := [writtenReference "own" "a",
    .element ⟨"view", [], [writtenReference "cd7" "b",
      .element ⟨"text", [], [writtenReference "shown" "c", .expression ⟨"d", [], .unknown⟩],
        .unknown⟩], .unknown⟩]

/-- The bindings of the document have different keys, although the audit sees one of the four
references only. -/
theorem lower_keys_distinct_authored :
    let dialect := Dialect.ofTags defaultTextTags componentSuffix
    let lifted := (authoredDocument.extract dialect).run .fresh
    boundKeys (unaudited dialect true lifted.1.nodes) = ["own", "shown", "cd0"] ∧
      Ledger.fresh.drawnKeys lifted.2 = ["cd0"] ∧
      ∃ bindings, (authoredDocument.lower dialect true .fresh).outcome = .ok bindings ∧
        bindings.map Binding.key = ["own", "cd7", "shown", "cd0"] ∧
        (bindings.map Binding.key).Nodup := by
  intro dialect lifted
  have hok : (authoredDocument.lower dialect true .fresh).outcome =
      .ok [⟨"own", "a", .unknown⟩, ⟨"cd7", "b", .unknown⟩, ⟨"shown", "c", .unknown⟩,
        ⟨"cd0", "d", .unknown⟩] := by decide +kernel
  obtain ⟨-, henough⟩ :=
    lower_keys_distinct defaultTextTags componentSuffix true authoredDocument .fresh _ hok
  refine ⟨by decide, by decide, _, hok, rfl, henough ?_ fun _ => ?_⟩
  · decide
  · decide

/-- Two references with one key at the roots. -/
def rootTwins : Document := ⟨"page.jsx", [writtenReference "k" "a", writtenReference "k" "b"]⟩

/-- Two references with one key in a text container. -/
def textTwins : Document :=
  ⟨"page.jsx", [.element ⟨"text", [], [writtenReference "k" "a", writtenReference "k" "b"],
    .unknown⟩]⟩

/-- A reference with the name that the supply gives to the expression shown beside it. -/
def takenName : Document :=
  ⟨"page.jsx", [.element ⟨"view", [], [writtenReference "cd0" "a",
    .element ⟨"text", [], [.expression ⟨"b", [], .unknown⟩], .unknown⟩], .unknown⟩]⟩

/-- References that the audit does not see bind keys that come twice: two at the roots, two in a
text container, and one in a text container whose key the author took before it was drawn. The code
of the first of the two references is lost where text containers are inlined. -/
theorem lower_repeats_keys :
    (rootTwins.lower .standard false .fresh).outcome =
        .ok [⟨"k", "a", .unknown⟩, ⟨"k", "b", .unknown⟩] ∧
      (rootTwins.lower .standard true .fresh).outcome =
        .ok [⟨"k", "b", .unknown⟩, ⟨"k", "b", .unknown⟩] ∧
      (textTwins.lower .standard true .fresh).outcome =
        .ok [⟨"k", "b", .unknown⟩, ⟨"k", "b", .unknown⟩] ∧
      (takenName.lower .standard true .fresh).outcome =
        .ok [⟨"cd0", "b", .unknown⟩, ⟨"cd0", "b", .unknown⟩] := by
  decide +kernel

end MiniTemplate
