import MiniTemplate.Proofs.Settlement

/-!
# What the passes keep of an expression

Lifting and inlining rewrite the nodes in the insets of an expression, and they move
expressions as a whole. What is left when these nodes are forgotten, the frame of the
expression, stays as it is: its text, the ranges of its insets and its position. So the code
of every binding is that of an expression of the document with other nodes in its insets.
-/

namespace MiniTemplate

/-- An inset without its nodes. -/
def Inset.frame (inset : Inset) : Inset := ⟨inset.start, inset.stop, inset.fragment, []⟩

/-- An expression without the nodes of its insets. -/
def Expression.frame (script : Expression) : Expression :=
  ⟨script.code, script.insets.map Inset.frame, script.position⟩

/-- The frames of expressions. -/
def frames (scripts : List Expression) : List Expression := scripts.map Expression.frame

theorem frames_append (scripts scripts' : List Expression) :
    frames (scripts ++ scripts') = frames scripts ++ frames scripts' := List.map_append

/-- More expressions have more frames. -/
theorem frames_subset {scripts scripts' : List Expression} (h : scripts ⊆ scripts') :
    frames scripts ⊆ frames scripts' := List.map_subset _ h

theorem frames_append_subset {as as' bs bs' : List Expression} (ha : frames as ⊆ frames as')
    (hb : frames bs ⊆ frames bs') : frames (as ++ bs) ⊆ frames (as' ++ bs') := by
  rw [frames_append, frames_append, List.append_subset]
  exact ⟨List.subset_append_of_subset_left _ ha, List.subset_append_of_subset_right _ hb⟩

/-- A pass leaves the frames of insets as they are. -/
theorem rewriteInsets_frame {σ : Type} (step : Element → StateM σ Element) (insets : List Inset)
    (state : σ) :
    (rewriteInsets step insets state).1.map Inset.frame = insets.map Inset.frame := by
  induction insets generalizing state with
  | nil => rfl
  | cons inset rest ih =>
    obtain ⟨start, stop, fragment, nodes⟩ := inset
    rw [rewriteInsets_cons]
    dsimp only
    rw [List.map_cons, List.map_cons, ih]
    rfl

/-- An expression whose insets a pass has gone through has the frame it had. -/
theorem frames_rewritten {σ : Type} (step : Element → StateM σ Element) {insets : List Inset}
    {state : σ} (code : String) (position : Position)
    (h : frames (expressionsInInsets (rewriteInsets step insets state).1) ⊆
      frames (expressionsInInsets insets)) :
    frames (⟨code, (rewriteInsets step insets state).1, position⟩ ::
        expressionsInInsets (rewriteInsets step insets state).1) ⊆
      frames (⟨code, insets, position⟩ :: expressionsInInsets insets) := by
  have hframe : Expression.frame ⟨code, (rewriteInsets step insets state).1, position⟩ =
      Expression.frame ⟨code, insets, position⟩ := by
    unfold Expression.frame
    rw [rewriteInsets_frame]
  unfold frames at h ⊢
  rw [List.map_cons, List.map_cons, hframe]
  exact List.cons_subset_cons _ h

/-- A pass whose step brings in no frames brings in none. -/
theorem rewrite_frames {σ : Type} {step : Element → StateM σ Element}
    (hstep : ∀ element state, frames (Node.element (step element state).1).expressions ⊆
      frames (Node.element element).expressions) :
    TreeInduction
      (fun nodes => ∀ state,
        frames (expressionsIn (rewriteNodes step nodes state).1) ⊆ frames (expressionsIn nodes))
      (fun attributes => ∀ state,
        frames (expressionsInAttributes (rewriteAttributes step attributes state).1) ⊆
          frames (expressionsInAttributes attributes))
      (fun insets => ∀ state,
        frames (expressionsInInsets (rewriteInsets step insets state).1) ⊆
          frames (expressionsInInsets insets)) where
  noNodes _ := List.Subset.refl _
  element tag attributes children position rest hattributes hchildren hrest state := by
    have hfirst := hattributes state
    rw [rewriteNodes_element]
    dsimp only
    generalize rewriteAttributes step attributes state = walked at hfirst ⊢
    have hsecond := hchildren walked.2
    generalize rewriteNodes step children walked.2 = below at hsecond ⊢
    have hhere := hstep ⟨tag, walked.1, below.1, position⟩ below.2
    have hbehind := hrest (step ⟨tag, walked.1, below.1, position⟩ below.2).2
    exact frames_append_subset (List.Subset.trans hhere (frames_append_subset hfirst hsecond)) hbehind
  text run rest hrest state := hrest state
  expression code insets position rest hinsets hrest state := by
    rw [rewriteNodes_expression]
    have hbehind := hrest (rewriteInsets step insets state).2
    exact frames_append_subset (frames_rewritten step code position (hinsets state)) hbehind
  noAttributes _ := List.Subset.refl _
  bare name position rest hrest state := hrest state
  static name text position rest hrest state := hrest state
  dynamic name code insets place position rest hinsets hrest state := by
    rw [rewriteAttributes_dynamic]
    have hbehind := hrest (rewriteInsets step insets state).2
    exact frames_append_subset (frames_rewritten step code place (hinsets state)) hbehind
  noInsets _ := List.Subset.refl _
  inset start stop fragment nodes rest hnodes hrest state := by
    rw [rewriteInsets_cons]
    have hbehind := hrest (rewriteNodes step nodes state).2
    exact frames_append_subset (hnodes state) hbehind

/-- A reference holds the expression it was made for. -/
theorem expressions_reference (script : Expression) (key selector : String) (inText : Bool) :
    (Node.element (reference script key selector inText)).expressions =
      (Node.expression script).expressions := by
  obtain ⟨code, insets, position⟩ := script
  cases inText <;> simp [reference, Node.expressions, expressionsIn, expressionsInAttributes,
    Attribute.ofText, Attribute.ofExpression, Attribute.marker]

/-- Lifting children moves expressions and changes none. -/
theorem Lifts.expressionsIn_eq {inText : Bool} {selectors keys : List String}
    {before after : List Node} (h : Lifts inText selectors keys before after) :
    expressionsIn after = expressionsIn before := by
  induction h with
  | nil => rfl
  | expression script key selector hs h ih =>
    rw [expressionsIn, expressionsIn, expressions_reference, ih]
  | element inner h ih => rw [expressionsIn, expressionsIn, ih]
  | text run h ih => rw [expressionsIn, expressionsIn, ih]

/-- Lifting the children of an element moves their expressions into references and keeps them. -/
theorem liftStep_expressions (dialect : Dialect) (element : Element) (ledger : Ledger) :
    (Node.element (liftStep dialect element ledger).1).expressions =
      (Node.element element).expressions := by
  rw [expressions_element, expressions_element]
  rcases liftStep_cases dialect element ledger with ⟨-, he⟩ | ⟨-, _, _, _, _, _, he, -, hl⟩
  · rw [he]
  · rw [he, hl.expressionsIn_eq]

/-- Inlining children brings in no expressions. -/
theorem Inlines.expressionsIn_subset {path container : String} {before after : List Node}
    {bindings : List Binding} {failure : Option Diagnostic}
    (h : Inlines path container before after bindings failure) :
    expressionsIn after ⊆ expressionsIn before := by
  induction h with
  | nil => exact List.Subset.refl _
  | shown inner key ht hk h ih =>
    rw [expressionsIn, expressionsIn]
    exact List.subset_append_of_subset_right _ ih
  | stopped inner ht hk => exact List.Subset.refl _
  | element inner ht h ih =>
    rw [expressionsIn, expressionsIn, List.append_subset]
    exact ⟨List.subset_append_left _ _, List.subset_append_of_subset_right _ ih⟩
  | text run h ih => exact ih
  | expression script h ih =>
    rw [expressionsIn, expressionsIn, List.append_subset]
    exact ⟨List.subset_append_left _ _, List.subset_append_of_subset_right _ ih⟩

/-- Inlining at an element drops references and brings in no expression. -/
theorem inlineStep_expressions (dialect : Dialect) (path : String) (element : Element)
    (state : Inlined) :
    (Node.element (inlineStep dialect path element state).1).expressions ⊆
      (Node.element element).expressions := by
  rw [expressions_element, expressions_element]
  rcases inlineStep_cases dialect path element state with ⟨-, he⟩ | ⟨-, -, _, _, _, he, h⟩
  · rw [he]
    exact List.Subset.refl _
  · rw [he, List.append_subset]
    exact ⟨List.subset_append_left _ _,
      List.subset_append_of_subset_right _ h.expressionsIn_subset⟩

/-- Lifting brings in no frame. -/
theorem lift_frames (dialect : Dialect) (nodes : List Node) (ledger : Ledger) :
    frames (expressionsIn (rewriteNodes (liftStep dialect) nodes ledger).1) ⊆
      frames (expressionsIn nodes) :=
  (rewrite_frames fun element ledger =>
    (liftStep_expressions dialect element ledger) ▸ List.Subset.refl _).nodes nodes ledger

/-- Nor does inlining. -/
theorem inline_frames (dialect : Dialect) (path : String) (nodes : List Node) (state : Inlined) :
    frames (expressionsIn (rewriteNodes (inlineStep dialect path) nodes state).1) ⊆
      frames (expressionsIn nodes) :=
  (rewrite_frames fun element state =>
    frames_subset (inlineStep_expressions dialect path element state)).nodes nodes state

/-- A binding that was made from an expression with the frame of a given one. -/
def Binding.FramedBy (scripts : List Expression) (binding : Binding) : Prop :=
  ∃ script : Expression, script.frame ∈ frames scripts ∧ binding.code = script.source ∧
    binding.position = script.position

/-- A binding that is framed by expressions is framed by more of them. -/
theorem Binding.FramedBy.mono {scripts scripts' : List Expression} {binding : Binding}
    (h : binding.FramedBy scripts) (hs : frames scripts ⊆ frames scripts') :
    binding.FramedBy scripts' := by
  obtain ⟨script, hm, hbinding⟩ := h
  exact ⟨script, hs hm, hbinding⟩

/-- The expression of an attribute is one of the expressions of the attributes. -/
theorem mem_expressionsInAttributes {attributes : List Attribute} {name found : String}
    {script : Expression} {position : Position}
    (h : attributes.find? (fun entry => entry.name == name) =
      some ⟨found, .dynamic script, position⟩) : script ∈ expressionsInAttributes attributes := by
  have hm := List.mem_of_find?_eq_some h
  clear h
  induction attributes with
  | nil => simp at hm
  | cons entry rest ih =>
    rcases List.mem_cons.mp hm with rfl | hrest
    · obtain ⟨code, insets, place⟩ := script
      rw [expressionsInAttributes]
      exact List.mem_cons_self
    · obtain ⟨other, value, place⟩ := entry
      cases value with
      | bare => exact ih hrest
      | static text => exact ih hrest
      | dynamic other =>
        obtain ⟨code, insets, place⟩ := other
        rw [expressionsInAttributes]
        exact List.mem_cons_of_mem _ (List.mem_append_right _ (ih hrest))

/-- The binding of an element is made from an expression of its attributes. -/
theorem framedBy_of_binding? {element : Element} {binding : Binding}
    (h : element.binding? = some binding) :
    binding.FramedBy (expressionsInAttributes element.attributes) := by
  have hk := staticText?_of_binding? h
  cases he : element.expression? expressionName with
  | none => simp [Element.binding?, hk, he] at h
  | some script =>
    rw [Element.binding?_eq hk he] at h
    obtain ⟨found, position, hf⟩ := expression?_eq_some.mp he
    have hm := List.mem_map_of_mem (f := Expression.frame) (mem_expressionsInAttributes hf)
    exact ⟨script, hm, by rw [← Option.some.inj h], by rw [← Option.some.inj h]⟩

/-- The bindings of trees are made from their expressions. -/
theorem bindingsOf_framed :
    OuterInduction fun nodes =>
      ∀ binding ∈ bindingsOf nodes, binding.FramedBy (expressionsIn nodes) where
  noNodes := by simp [bindingsOf]
  element tag attributes children position rest hchildren hrest := by
    intro binding hm
    have hhere : (Node.element ⟨tag, attributes, children, position⟩).expressions ⊆
        expressionsIn (.element ⟨tag, attributes, children, position⟩ :: rest) :=
      List.subset_append_left _ _
    rw [expressions_element, List.append_subset] at hhere
    rw [bindingsOf, Node.bindings_element, List.mem_append, List.mem_append] at hm
    rcases hm with (hm | hm) | hm
    · split at hm
      · exact (framedBy_of_binding? (Option.mem_toList.mp hm)).mono (frames_subset hhere.1)
      · simp at hm
    · exact (hchildren binding hm).mono (frames_subset hhere.2)
    · exact (hrest binding hm).mono (frames_subset (List.subset_append_right _ _))
  text run rest hrest := hrest
  expression code insets position rest hrest := by
    intro binding hm
    exact (hrest binding hm).mono (frames_subset (List.subset_append_right _ _))

/-- The bindings that inlining children keeps are made from expressions of the children. -/
theorem Inlines.kept_framed {path container : String} {before after : List Node}
    {kept : List Binding} {failure : Option Diagnostic}
    (h : Inlines path container before after kept failure) :
    ∀ binding ∈ kept, binding.FramedBy (expressionsIn before) := by
  induction h with
  | nil => simp
  | shown inner key ht hk h ih =>
    intro binding hm
    rw [expressionsIn, expressions_element]
    rcases List.mem_append.mp hm with hm | hm
    · refine (framedBy_of_binding? (Option.mem_toList.mp hm)).mono (frames_subset ?_)
      rw [List.append_assoc]
      exact List.subset_append_left _ _
    · exact (ih binding hm).mono (frames_subset (List.subset_append_right _ _))
  | stopped inner ht hk => simp
  | element inner ht h ih =>
    intro binding hm
    exact (ih binding hm).mono (frames_subset (List.subset_append_right _ _))
  | text run h ih => exact ih
  | expression script h ih =>
    intro binding hm
    exact (ih binding hm).mono (frames_subset (List.subset_append_right _ _))

/-- The bindings that a step keeps are made from expressions below the element. -/
theorem inlineStep_kept_framed (dialect : Dialect) (path : String) (element : Element)
    (state : Inlined) :
    ∀ binding ∈ (inlineStep dialect path element state).2.bindings,
      binding ∈ state.bindings ∨ binding.FramedBy (expressionsIn element.children) := by
  rcases inlineStep_cases dialect path element state with ⟨-, he⟩ | ⟨-, -, _, _, _, he, h⟩
  · rw [he]
    exact fun binding hm => .inl hm
  · rw [he]
    intro binding hm
    exact (List.mem_append.mp hm).imp_right (h.kept_framed binding)

/-- The bindings that a pass keeps are made from expressions of the trees. -/
theorem inline_kept_framed (dialect : Dialect) (path : String) :
    TreeInduction
      (fun nodes => ∀ state,
        ∀ binding ∈ (rewriteNodes (inlineStep dialect path) nodes state).2.bindings,
          binding ∈ state.bindings ∨ binding.FramedBy (expressionsIn nodes))
      (fun attributes => ∀ state,
        ∀ binding ∈ (rewriteAttributes (inlineStep dialect path) attributes state).2.bindings,
          binding ∈ state.bindings ∨ binding.FramedBy (expressionsInAttributes attributes))
      (fun insets => ∀ state,
        ∀ binding ∈ (rewriteInsets (inlineStep dialect path) insets state).2.bindings,
          binding ∈ state.bindings ∨ binding.FramedBy (expressionsInInsets insets)) where
  noNodes _ _ := .inl
  element tag attributes children position rest hattributes hchildren hrest state := by
    have hhere : (Node.element ⟨tag, attributes, children, position⟩).expressions ⊆
        expressionsIn (.element ⟨tag, attributes, children, position⟩ :: rest) :=
      List.subset_append_left _ _
    rw [expressions_element, List.append_subset] at hhere
    have hfirst := hattributes state
    rw [rewriteNodes_element]
    dsimp only
    generalize rewriteAttributes (inlineStep dialect path) attributes state = walked at hfirst ⊢
    have hsecond := hchildren walked.2
    have hframes := inline_frames dialect path children walked.2
    generalize rewriteNodes (inlineStep dialect path) children walked.2 = below
      at hsecond hframes ⊢
    have hstep := inlineStep_kept_framed dialect path ⟨tag, walked.1, below.1, position⟩ below.2
    have hbehind := hrest (inlineStep dialect path ⟨tag, walked.1, below.1, position⟩ below.2).2
    intro binding hm
    rcases hbehind binding hm with hm | hm
    · rcases hstep binding hm with hm | hm
      · rcases hsecond binding hm with hm | hm
        · exact (hfirst binding hm).imp_right (·.mono (frames_subset hhere.1))
        · exact .inr (hm.mono (frames_subset hhere.2))
      · exact .inr ((hm.mono hframes).mono (frames_subset hhere.2))
    · exact .inr (hm.mono (frames_subset (List.subset_append_right _ _)))
  text run rest hrest state := hrest state
  expression code insets position rest hinsets hrest state := by
    rw [rewriteNodes_expression]
    intro binding hm
    rcases hrest _ binding hm with hm | hm
    · refine (hinsets state binding hm).imp_right (·.mono (frames_subset ?_))
      exact List.subset_append_of_subset_left _ (List.subset_cons_self _ _)
    · exact .inr (hm.mono (frames_subset (List.subset_append_right _ _)))
  noAttributes _ _ := .inl
  bare name position rest hrest state := hrest state
  static name text position rest hrest state := hrest state
  dynamic name code insets place position rest hinsets hrest state := by
    rw [rewriteAttributes_dynamic]
    intro binding hm
    rcases hrest _ binding hm with hm | hm
    · refine (hinsets state binding hm).imp_right (·.mono (frames_subset ?_))
      exact List.subset_append_of_subset_left _ (List.subset_cons_self _ _)
    · exact .inr (hm.mono (frames_subset
        (List.subset_cons_of_subset _ (List.subset_append_right _ _))))
  noInsets _ _ := .inl
  inset start stop fragment nodes rest hnodes hrest state := by
    rw [rewriteInsets_cons]
    intro binding hm
    rcases hrest _ binding hm with hm | hm
    · refine (hnodes state binding hm).imp_right (·.mono (frames_subset ?_))
      exact List.subset_append_left _ _
    · exact .inr (hm.mono (frames_subset (List.subset_append_right _ _)))

/-- Refreshing bindings gives bindings of either list. -/
theorem refresh_mem {current bindings : List Binding} {binding : Binding}
    (h : binding ∈ refresh current bindings) : binding ∈ current ∨ binding ∈ bindings := by
  induction bindings generalizing current with
  | nil => simp [refresh] at h
  | cons first rest ih =>
    rw [refresh] at h
    cases hf : current.find? (fun other => other.key == first.key) with
    | none =>
      rw [hf] at h
      rcases List.mem_cons.mp h with rfl | h
      · exact .inr List.mem_cons_self
      · exact (ih h).imp_right (List.mem_cons_of_mem _)
    | some found =>
      rw [hf] at h
      rcases List.mem_cons.mp h with rfl | h
      · exact .inl (List.mem_of_find?_eq_some hf)
      · exact (ih h).imp (fun hm => (List.mem_filter.mp hm).1) (List.mem_cons_of_mem _)

/-- The bindings that are settled for a document are made from its expressions. -/
theorem settled_framed {dialect : Dialect} {inlines : Bool} {document : Document}
    {bindings : List Binding} (h : (document.settleBindings dialect inlines).2 = .ok bindings) :
    ∀ binding ∈ bindings, binding.FramedBy (expressionsIn document.nodes) := by
  have hown : ∀ binding ∈ document.bindings, binding.FramedBy (expressionsIn document.nodes) :=
    bindingsOf_framed.nodes document.nodes
  cases inlines with
  | false =>
    rw [settleBindings_false] at h
    rw [← Except.ok.inj h]
    exact hown
  | true =>
    rw [settleBindings_true] at h
    cases hfailure : (document.inlineText dialect).2.failure with
    | some failure =>
      rw [hfailure] at h
      cases h
    | none =>
      rw [hfailure] at h
      intro binding hm
      rw [← Except.ok.inj h] at hm
      rcases refresh_mem hm with hm | hm
      · rw [List.mem_reverse, List.mem_append] at hm
        rcases hm with hm | hm
        · have hleft : binding.FramedBy (expressionsIn (document.inlineText dialect).1.nodes) :=
            bindingsOf_framed.nodes _ binding hm
          exact hleft.mono (inline_frames dialect document.path document.nodes .start)
        · have hkept := (inline_kept_framed dialect document.path).nodes document.nodes .start
          rcases hkept binding hm with hm | hm
          · simp [Inlined.start] at hm
          · exact hm
      · exact hown binding hm

/-- The bindings that lowering gives are made from expressions of the document. -/
theorem lower_framed {dialect : Dialect} {inlines : Bool} {document : Document} {ledger : Ledger}
    {bindings : List Binding} (h : (document.lower dialect inlines ledger).outcome = .ok bindings) :
    ∀ binding ∈ bindings, binding.FramedBy (expressionsIn document.nodes) := by
  intro binding hm
  have hlifted := settled_framed (settleBindings_of_lower h) binding hm
  exact hlifted.mono (lift_frames dialect document.nodes ledger)

end MiniTemplate
