import MiniTemplate.Proofs.OuterTree

/-!
# Bindings through inlining

Inlining takes references out of text containers and keeps their bindings. A pass that
does not stop loses the binding of no reference of an outer tree, and its code is that of
the expression as the pass left it. No pass makes more bindings of a key than there were
references with that key.
-/

namespace MiniTemplate

/-- An expression with the text containers of its insets inlined. -/
def Expression.inlined (dialect : Dialect) (path : String) (script : Expression) : Expression :=
  ⟨script.code, (rewriteInsets (inlineStep dialect path) script.insets .start).1, script.position⟩

/-- The binding of a reference whose expression has been inlined. -/
def Element.inlinedBinding? (dialect : Dialect) (path : String) (element : Element) :
    Option Binding :=
  match element.staticText? dataKeyName, element.expression? expressionName with
  | some key, some script => some ⟨key, (script.inlined dialect path).source, script.position⟩
  | _, _ => none

section Element

variable {element : Element} {key : String} {script : Expression}
  (hk : element.staticText? dataKeyName = some key)
  (he : element.expression? expressionName = some script)
include hk he

/-- A reference with a key and an expression binds the code of the expression to the key. -/
theorem Element.binding?_eq :
    element.binding? = some ⟨key, script.source, script.position⟩ := by
  unfold Element.binding?
  rw [hk, he]

/-- So does the binding that inlining makes of it, for the expression as inlining leaves it. -/
theorem Element.inlinedBinding?_eq (dialect : Dialect) (path : String) :
    element.inlinedBinding? dialect path =
      some ⟨key, (script.inlined dialect path).source, script.position⟩ := by
  unfold Element.inlinedBinding?
  rw [hk, he]

end Element

/-- A pass that does not stop inlines the expression of an attribute. -/
theorem find?_inlined (dialect : Dialect) (path name : String) {attributes : List Attribute}
    {state : Inlined} {found : String} {script : Expression} {position : Position}
    (h : attributes.find? (fun entry => entry.name == name) =
      some ⟨found, .dynamic script, position⟩)
    (hend : (rewriteAttributes (inlineStep dialect path) attributes state).2.failure = none) :
    (rewriteAttributes (inlineStep dialect path) attributes state).1.find?
        (fun entry => entry.name == name) =
      some ⟨found, .dynamic (script.inlined dialect path), position⟩ := by
  induction attributes generalizing state with
  | nil => simp at h
  | cons entry rest ih =>
    obtain ⟨name', value, position'⟩ := entry
    have hstart := ((inline_progress dialect path).attributes _ state).2 hend
    cases hn : name' == name with
    | true =>
      rw [List.find?_cons_of_pos (by exact hn)] at h
      cases h
      obtain ⟨code, insets, place⟩ := script
      rw [rewriteAttributes_dynamic, List.find?_cons_of_pos (by exact hn),
        rewriteInsets_inline_of_running dialect path insets hstart]
      rfl
    | false =>
      have hneg : ¬ (name' == name) = true := by simp [hn]
      rw [List.find?_cons_of_neg (by exact hneg)] at h
      cases value with
      | bare =>
        rw [rewriteAttributes_bare, List.find?_cons_of_neg (by exact hneg)]
        exact ih h hend
      | static text =>
        rw [rewriteAttributes_static, List.find?_cons_of_neg (by exact hneg)]
        exact ih h hend
      | dynamic other =>
        obtain ⟨code, insets, place⟩ := other
        rw [rewriteAttributes_dynamic] at hend ⊢
        rw [List.find?_cons_of_neg (by exact hneg)]
        exact ih h hend

/-- The expression of an attribute is that of the first attribute with the name. -/
theorem expression?_eq_some {element : Element} {name : String} {script : Expression} :
    element.expression? name = some script ↔ ∃ found position,
      element.attributes.find? (fun entry => entry.name == name) =
        some ⟨found, .dynamic script, position⟩ := by
  unfold Element.expression? Element.lookup?
  cases hl : element.attributes.find? (fun entry => entry.name == name) with
  | none => simp
  | some entry =>
    obtain ⟨found, value, position⟩ := entry
    cases value <;> simp

/-- An element whose attributes a pass has gone through, with the outline it had before, has the
binding of the inlined expression. -/
theorem binding?_inlined (dialect : Dialect) (path : String) {element rewritten : Element}
    {state : Inlined} {binding : Binding} (ho : rewritten.outline = element.outline)
    (ha : rewritten.attributes =
      (rewriteAttributes (inlineStep dialect path) element.attributes state).1)
    (hend : (rewriteAttributes (inlineStep dialect path) element.attributes state).2.failure = none)
    (h : element.inlinedBinding? dialect path = some binding) :
    rewritten.binding? = some binding := by
  cases hk : element.staticText? dataKeyName with
  | none => simp [Element.inlinedBinding?, hk] at h
  | some key =>
    cases he : element.expression? expressionName with
    | none => simp [Element.inlinedBinding?, hk, he] at h
    | some script =>
      rw [Element.inlinedBinding?_eq hk he] at h
      obtain rfl := Option.some.inj h
      obtain ⟨found, position, hf⟩ := expression?_eq_some.mp he
      have hkey := (Element.staticText?_congr ho dataKeyName).trans hk
      have hrewritten : rewritten.expression? expressionName =
          some (script.inlined dialect path) := by
        rw [expression?_eq_some, ha]
        exact ⟨found, position, find?_inlined dialect path expressionName hf hend⟩
      exact Element.binding?_eq hkey hrewritten

/-- The bindings at and below an element. -/
theorem Node.bindings_element (element : Element) :
    Node.bindings (.element element) =
      (if element.isReference then element.binding?.toList else []) ++
        bindingsOf element.children := by
  obtain ⟨tag, attributes, children, position⟩ := element
  rfl

theorem Node.bindings_text (run : TextRun) : Node.bindings (.text run) = [] := rfl

theorem Node.bindings_expression (script : Expression) : Node.bindings (.expression script) = [] :=
  rfl

/-- Where references have no children, inlining children that does not stop moves bindings from
the children to those kept and loses none. -/
theorem Inlines.mem_bindings {path container : String} {before after : List Node}
    {kept : List Binding} {failure : Option Diagnostic}
    (h : Inlines path container before after kept failure) (hend : failure = none)
    (hchildless : ∀ inner, .element inner ∈ before → inner.isReference = true → inner.children = [])
    {binding : Binding} (hm : binding ∈ bindingsOf before) :
    binding ∈ bindingsOf after ∨ binding ∈ kept := by
  induction h with
  | nil => exact .inl hm
  | shown inner key ht hk h ih =>
    have hrest := ih hend fun other ho => hchildless other (List.mem_cons_of_mem _ ho)
    have hr := Element.isReference_of_key ht hk
    rw [bindingsOf, Node.bindings_element, hchildless inner List.mem_cons_self hr, hr,
      if_pos rfl] at hm
    simp only [bindingsOf, List.append_nil, List.mem_append] at hm
    rcases hm with hm | hm
    · exact .inr (List.mem_append_left _ hm)
    · rcases hrest hm with hm | hm
      · exact .inl hm
      · exact .inr (List.mem_append_right _ hm)
  | stopped inner ht hk => simp at hend
  | element inner ht h ih =>
    have hrest := ih hend fun other ho => hchildless other (List.mem_cons_of_mem _ ho)
    rw [bindingsOf] at hm
    rcases List.mem_append.mp hm with hm | hm
    · exact .inl (List.mem_append_left _ hm)
    · rcases hrest hm with hm | hm
      · exact .inl (List.mem_append_right _ hm)
      · exact .inr hm
  | text run h ih => exact ih hend (fun other ho => hchildless other (List.mem_cons_of_mem _ ho)) hm
  | expression script h ih =>
    exact ih hend (fun other ho => hchildless other (List.mem_cons_of_mem _ ho)) hm

/-- A step that does not stop moves bindings from below the element to those kept and loses
none. -/
theorem inlineStep_mem_bindings (dialect : Dialect) (path : String) (element : Element)
    (state : Inlined)
    (hchildless : ∀ inner, .element inner ∈ element.children → inner.isReference = true →
      inner.children = [])
    (hend : (inlineStep dialect path element state).2.failure = none) {binding : Binding}
    (hm : binding ∈ bindingsOf element.children ∨ binding ∈ state.bindings) :
    binding ∈ bindingsOf (inlineStep dialect path element state).1.children ∨
      binding ∈ (inlineStep dialect path element state).2.bindings := by
  rcases inlineStep_cases dialect path element state with ⟨-, he⟩ | ⟨-, -, _, _, failure, he, h⟩
  · rw [he]
    exact hm
  · rw [he] at hend ⊢
    rcases hm with hm | hm
    · rcases h.mem_bindings hend hchildless hm with hm | hm
      · exact .inl hm
      · exact .inr (List.mem_append_right _ hm)
    · exact .inr (List.mem_append_left _ hm)

/-- A step leaves an element without children without children. -/
theorem inlineStep_children_nil (dialect : Dialect) (path : String) {element : Element}
    (h : element.children = []) (state : Inlined) :
    (inlineStep dialect path element state).1.children = [] := by
  rcases inlineStep_cases dialect path element state with ⟨-, he⟩ | ⟨-, -, _, _, _, he, hi⟩
  · rw [he]
    exact h
  · rw [he]
    rw [h] at hi
    cases hi
    rfl

/-- A pass leaves references without children without children. -/
theorem inline_childless (dialect : Dialect) (path : String) {nodes : List Node}
    (h : ∀ element, .element element ∈ nodes → element.isReference = true → element.children = [])
    (state : Inlined) :
    ∀ element, .element element ∈ (rewriteNodes (inlineStep dialect path) nodes state).1 →
      element.isReference = true → element.children = [] := by
  induction nodes generalizing state with
  | nil => simp [rewriteNodes_nil]
  | cons node rest ih =>
    have hrest := ih fun element hm => h element (List.mem_cons_of_mem _ hm)
    cases node with
    | text run =>
      rw [rewriteNodes_text]
      intro element hm
      rcases List.mem_cons.mp hm with hm | hm
      · cases hm
      · exact hrest _ element hm
    | expression script =>
      obtain ⟨code, insets, position⟩ := script
      rw [rewriteNodes_expression]
      intro element hm
      rcases List.mem_cons.mp hm with hm | hm
      · cases hm
      · exact hrest _ element hm
    | element inner =>
      obtain ⟨tag, attributes, children, position⟩ := inner
      have houtline := (inlineStep_keepsOutline dialect path).rewritten state tag attributes children
      rw [rewriteNodes_element]
      intro element hm hr
      rcases List.mem_cons.mp hm with hm | hm
      · cases hm
        rw [Element.isReference_congr (houtline _ position _)] at hr
        have hnone : children = [] := h _ List.mem_cons_self hr
        apply inlineStep_children_nil
        rw [hnone]
        rfl
      · exact hrest _ element hm hr

/-- After a pass that does not stop, the binding of every reference of an outer tree, with its
expression inlined, is in the document or among those kept. -/
theorem inline_outer (dialect : Dialect) (path : String) :
    OuterInduction fun nodes =>
      (∀ element ∈ elementsIn nodes, element.isReference = true → element.children = []) →
        ∀ state, (rewriteNodes (inlineStep dialect path) nodes state).2.failure = none →
        ∀ element ∈ outerReferences nodes, ∀ binding,
          element.inlinedBinding? dialect path = some binding →
          binding ∈ bindingsOf (rewriteNodes (inlineStep dialect path) nodes state).1 ∨
            binding ∈ (rewriteNodes (inlineStep dialect path) nodes state).2.bindings where
  noNodes _ _ _ := by simp [outerReferences]
  element tag attributes children position rest hchildren hrest hnone state hend := by
    simp only [elementsIn, Node.elements, List.forall_mem_append, List.forall_mem_cons] at hnone
    obtain ⟨⟨-, -, hnc⟩, hnr⟩ := hnone
    have houtline := (inlineStep_keepsOutline dialect path).rewritten state tag attributes children
    rw [rewriteNodes_element] at hend ⊢
    dsimp only at hend ⊢
    generalize hw : rewriteAttributes (inlineStep dialect path) attributes state = walked
      at houtline hend ⊢
    have hsecond := hchildren hnc walked.2
    have hchildless := inline_childless dialect path
      (fun inner hm => hnc inner (mem_elementsIn hm)) walked.2
    have hwalked := ((inline_progress dialect path).nodes children walked.2).2
    generalize rewriteNodes (inlineStep dialect path) children walked.2 = below
      at hsecond hchildless hwalked hend ⊢
    have hmoved := inlineStep_mem_bindings dialect path ⟨tag, walked.1, below.1, position⟩ below.2
      hchildless
    have hattr := inlineStep_attributes dialect path ⟨tag, walked.1, below.1, position⟩ below.2
    have hbelow := (inlineStep_progress dialect path ⟨tag, walked.1, below.1, position⟩ below.2).2
    have ho := houtline below.1 position below.2
    generalize inlineStep dialect path ⟨tag, walked.1, below.1, position⟩ below.2 = rewritten
      at hmoved hattr hbelow ho hend ⊢
    -- nothing has stopped the pass on its way
    obtain ⟨hkept, hgoes⟩ := (inline_progress dialect path).nodes rest rewritten.2
    have hstep := hgoes hend
    have hend' := hwalked (hbelow hstep)
    intro element hm binding hb
    rw [bindingsOf, Node.bindings_element, List.mem_append, List.mem_append]
    rw [outerReferences, Node.outerReferences, List.mem_append, List.mem_append] at hm
    rcases hm with (hm | hm) | hm
    · obtain ⟨hmem, hr⟩ := List.mem_filter.mp hm
      obtain rfl := List.mem_singleton.mp hmem
      have hhere : rewritten.1.binding? = some binding :=
        binding?_inlined dialect path ho (by rw [hattr, hw]) (by rw [hw]; exact hend') hb
      rw [Element.isReference_congr ho, if_pos hr, hhere]
      exact .inl (.inl (.inl (by simp)))
    · rcases hmoved hstep (hsecond (hbelow hstep) element hm binding hb) with hm | hm
      · exact .inl (.inl (.inr hm))
      · exact .inr (hkept hm)
    · rcases hrest hnr rewritten.2 hend element hm binding hb with hm | hm
      · exact .inl (.inr hm)
      · exact .inr hm
  text run rest hrest hnone state hend := hrest hnone state hend
  expression code insets position rest hrest hnone state hend := by
    simp only [elementsIn, Node.elements, List.forall_mem_append] at hnone
    exact hrest hnone.2 _ hend

/-- How often a key occurs in bindings. -/
def keyCount (key : String) (bindings : List Binding) : Nat := (bindings.map Binding.key).count key

/-- How often a key is bound adds up over lists of bindings. -/
theorem keyCount_append (key : String) (bindings bindings' : List Binding) :
    keyCount key (bindings ++ bindings') = keyCount key bindings + keyCount key bindings' := by
  unfold keyCount
  rw [List.map_append, List.count_append]

/-- The binding of an element has the data key of the element. -/
theorem staticText?_of_binding? {element : Element} {binding : Binding}
    (h : element.binding? = some binding) :
    element.staticText? dataKeyName = some binding.key := by
  cases hk : element.staticText? dataKeyName with
  | none => simp [Element.binding?, hk] at h
  | some key =>
    cases he : element.expression? expressionName with
    | none => simp [Element.binding?, hk, he] at h
    | some script =>
      rw [Element.binding?_eq hk he] at h
      obtain rfl := Option.some.inj h
      rfl

/-- A reference has no more bindings of a key than it has that key. -/
theorem keyCount_binding?_le (key : String) {element element' : Element}
    (ho : element'.outline = element.outline) :
    keyCount key (if element'.isReference then element'.binding?.toList else []) ≤
      (referenceKeys [element]).count (some key) := by
  cases hr : element'.isReference with
  | false => simp [keyCount]
  | true =>
    have hr' : element.isReference = true := (Element.isReference_congr ho).symm.trans hr
    cases hb : element'.binding? with
    | none => simp [keyCount]
    | some binding =>
      have hk := (Element.staticText?_congr ho dataKeyName).symm.trans (staticText?_of_binding? hb)
      simp [keyCount, referenceKeys, hr', hk, List.count_singleton]

/-- Inlining children moves bindings and makes none. -/
theorem Inlines.keyCount_le {path container : String} {before after : List Node}
    {kept : List Binding} {failure : Option Diagnostic} (key : String)
    (h : Inlines path container before after kept failure) :
    keyCount key (bindingsOf after) + keyCount key kept ≤ keyCount key (bindingsOf before) := by
  induction h with
  | nil => exact le_refl _
  | shown inner shownKey ht hk h ih =>
    have hr := Element.isReference_of_key ht hk
    simp only [bindingsOf, Node.bindings_element, Node.bindings_text, hr, if_true,
      keyCount_append, List.nil_append]
    omega
  | stopped inner ht hk => simp [keyCount]
  | element inner ht h ih =>
    simp only [bindingsOf, keyCount_append]
    omega
  | text run h ih => exact ih
  | expression script h ih => exact ih

/-- A step moves bindings and makes none. -/
theorem inlineStep_keyCount_le (dialect : Dialect) (path key : String) (element : Element)
    (state : Inlined) :
    keyCount key (bindingsOf (inlineStep dialect path element state).1.children) +
        keyCount key (inlineStep dialect path element state).2.bindings ≤
      keyCount key (bindingsOf element.children) + keyCount key state.bindings := by
  rcases inlineStep_cases dialect path element state with ⟨-, he⟩ | ⟨-, -, _, _, _, he, h⟩
  · rw [he]
  · have hle := h.keyCount_le key
    rw [he]
    dsimp only
    rw [keyCount_append]
    omega

/-- After a pass, the bindings of a key in the outer trees and among those kept are no more than
the references with that key there were, and the bindings kept before. -/
theorem inline_keyCount_le (dialect : Dialect) (path key : String) :
    TreeInduction
      (fun nodes => ∀ state,
        keyCount key (bindingsOf (rewriteNodes (inlineStep dialect path) nodes state).1) +
            keyCount key (rewriteNodes (inlineStep dialect path) nodes state).2.bindings ≤
          (referenceKeys (elementsIn nodes)).count (some key) + keyCount key state.bindings)
      (fun attributes => ∀ state,
        keyCount key (rewriteAttributes (inlineStep dialect path) attributes state).2.bindings ≤
          (referenceKeys (elementsInAttributes attributes)).count (some key) +
            keyCount key state.bindings)
      (fun insets => ∀ state,
        keyCount key (rewriteInsets (inlineStep dialect path) insets state).2.bindings ≤
          (referenceKeys (elementsInInsets insets)).count (some key) +
            keyCount key state.bindings) where
  noNodes state := by
    rw [rewriteNodes_nil]
    simp [bindingsOf, keyCount]
  element tag attributes children position rest hattributes hchildren hrest state := by
    have houtline := (inlineStep_keepsOutline dialect path).rewritten state tag attributes children
    have hfirst := hattributes state
    rw [rewriteNodes_element]
    dsimp only
    generalize rewriteAttributes (inlineStep dialect path) attributes state = walked
      at houtline hfirst ⊢
    have hsecond := hchildren walked.2
    generalize rewriteNodes (inlineStep dialect path) children walked.2 = below at hsecond ⊢
    have hstep := inlineStep_keyCount_le dialect path key ⟨tag, walked.1, below.1, position⟩ below.2
    have hself := keyCount_binding?_le key (houtline below.1 position below.2)
    generalize inlineStep dialect path ⟨tag, walked.1, below.1, position⟩ below.2 = rewritten
      at hstep hself ⊢
    have hbehind := hrest rewritten.2
    have hkeys : referenceKeys (elementsIn (.element ⟨tag, attributes, children, position⟩ :: rest)) =
        referenceKeys [⟨tag, attributes, children, position⟩] ++
          referenceKeys (elementsInAttributes attributes) ++ referenceKeys (elementsIn children) ++
          referenceKeys (elementsIn rest) := by
      rw [← referenceKeys_append, ← referenceKeys_append, ← referenceKeys_append]
      simp [elementsIn, Node.elements]
    rw [hkeys, bindingsOf, Node.bindings_element]
    simp only [keyCount_append, List.count_append]
    dsimp only at hstep
    omega
  text run rest hrest state := hrest state
  expression code insets position rest hinsets hrest state := by
    have hfirst := hinsets state
    rw [rewriteNodes_expression]
    dsimp only
    have hbehind := hrest (rewriteInsets (inlineStep dialect path) insets state).2
    rw [bindingsOf, Node.bindings_expression, List.nil_append, elementsIn, Node.elements,
      referenceKeys_append, List.count_append]
    omega
  noAttributes state := by
    rw [rewriteAttributes_nil]
    exact Nat.le_add_left _ _
  bare name position rest hrest state := hrest state
  static name text position rest hrest state := hrest state
  dynamic name code insets place position rest hinsets hrest state := by
    have hfirst := hinsets state
    rw [rewriteAttributes_dynamic]
    dsimp only
    have hbehind := hrest (rewriteInsets (inlineStep dialect path) insets state).2
    rw [elementsInAttributes, referenceKeys_append, List.count_append]
    omega
  noInsets state := by
    rw [rewriteInsets_nil]
    exact Nat.le_add_left _ _
  inset start stop fragment nodes rest hnodes hrest state := by
    have hfirst := hnodes state
    rw [rewriteInsets_cons]
    dsimp only
    have hbehind := hrest (rewriteNodes (inlineStep dialect path) nodes state).2
    rw [elementsInInsets, referenceKeys_append, List.count_append]
    omega

end MiniTemplate
