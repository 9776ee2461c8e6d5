import MiniTemplate.Proofs.Inlining
import MiniTemplate.Proofs.PostOrder
import Mathlib.Data.List.TakeWhile

/-!
# What inlining shows and where it stops

The templates that stand in text containers are the spots of a document. They are numbered
like the data keys: containers in post-order, and the templates of one container in document
order. Inlining shows them in this order up to the first one that has no data key, where it
stops. `showNodes` says what a tree looks like once the spots with chosen numbers are shown,
and `ShowsUpTo` what a pass over some part of a tree does, whether it finds the pass running
or stopped; parts that are walked one after the other are put together by `ShowsUpTo.seq`.
-/

namespace MiniTemplate

/-- A template in a text container. -/
structure Spot where
  /-- The text container. -/
  container : Element
  /-- The template among its children. -/
  template : Element

/-- The template that a node is. -/
def Node.template? : Node → Option Element
  | .element inner => if inner.tag = templateTag then some inner else none
  | _ => none

/-- The templates among nodes, in order. -/
def templatesAmong (nodes : List Node) : List Element := nodes.filterMap Node.template?

/-- The spots of an element: the templates among its children, if it is a text container. -/
def Element.spots (dialect : Dialect) (element : Element) : List Spot :=
  if dialect.isText element then (templatesAmong element.children).map (Spot.mk element)
  else []

/-- The spots of elements, element by element. -/
def spotsOf (dialect : Dialect) (elements : List Element) : List Spot :=
  elements.flatMap (Element.spots dialect)

/-- The node that shows a template: an interpolation of its data key where it stands. A template
without a data key cannot be shown. -/
def Element.shown (template : Element) : Node :=
  match template.staticText? dataKeyName with
  | some key => .text ⟨interpolation key, template.position⟩
  | none => .element template

/-- Nodes with the templates among them shown whose numbers are chosen; they are numbered from
`start` on. -/
def showAmong (chosen : Nat → Bool) : Nat → List Node → List Node
  | _, [] => []
  | start, .element inner :: rest =>
    if inner.tag = templateTag then
      (if chosen start then inner.shown else .element inner) :: showAmong chosen (start + 1) rest
    else .element inner :: showAmong chosen start rest
  | start, node :: rest => node :: showAmong chosen start rest

/-- Children of an element with the chosen spots of the element itself shown, if it is a text
container. -/
def Element.showOwn (dialect : Dialect) (element : Element) (chosen : Nat → Bool) (start : Nat)
    (children : List Node) : List Node :=
  if dialect.isText element then showAmong chosen start children else children

mutual
/-- Nodes with the spots below them shown whose numbers are chosen. Spots are numbered from `start`
on, in post-order of their containers. -/
def showNodes (dialect : Dialect) (chosen : Nat → Bool) : Nat → List Node → List Node
  | _, [] => []
  | start, node :: rest =>
    Node.showSpots dialect chosen start node ::
      showNodes dialect chosen (start + (spotsOf dialect (Node.postOrder node)).length) rest
/-- A node with the chosen spots at and below it shown. -/
def Node.showSpots (dialect : Dialect) (chosen : Nat → Bool) : Nat → Node → Node
  | start, .element element => .element (Element.showSpots dialect chosen start element)
  | _, .text run => .text run
  | start, .expression ⟨code, insets, position⟩ =>
    .expression ⟨code, showInsets dialect chosen start insets, position⟩
/-- An element with the chosen spots at and below it shown: those in its attributes come first,
then those below its children, then its own. -/
def Element.showSpots (dialect : Dialect) (chosen : Nat → Bool) : Nat → Element → Element
  | start, ⟨tag, attributes, children, position⟩ =>
    let below := start + (spotsOf dialect (attributesPostOrder attributes)).length
    let here := below + (spotsOf dialect (postOrder children)).length
    ⟨tag, showAttributes dialect chosen start attributes,
      Element.showOwn dialect ⟨tag, attributes, children, position⟩ chosen here
        (showNodes dialect chosen below children), position⟩
/-- Attributes with the chosen spots inside their expressions shown. -/
def showAttributes (dialect : Dialect) (chosen : Nat → Bool) :
    Nat → List Attribute → List Attribute
  | _, [] => []
  | start, ⟨name, .dynamic ⟨code, insets, place⟩, position⟩ :: rest =>
    ⟨name, .dynamic ⟨code, showInsets dialect chosen start insets, place⟩, position⟩ ::
      showAttributes dialect chosen (start + (spotsOf dialect (insetsPostOrder insets)).length) rest
  | start, entry :: rest => entry :: showAttributes dialect chosen start rest
/-- Insets with the chosen spots in them shown. -/
def showInsets (dialect : Dialect) (chosen : Nat → Bool) : Nat → List Inset → List Inset
  | _, [] => []
  | start, ⟨first, stop, fragment, nodes⟩ :: rest =>
    ⟨first, stop, fragment, showNodes dialect chosen start nodes⟩ ::
      showInsets dialect chosen (start + (spotsOf dialect (postOrder nodes)).length) rest
end

section Fields

variable (dialect : Dialect) (chosen : Nat → Bool) (start : Nat) (element : Element)

@[simp] theorem Element.tag_showSpots :
    (element.showSpots dialect chosen start).tag = element.tag := by
  cases element
  rfl

@[simp] theorem Element.position_showSpots :
    (element.showSpots dialect chosen start).position = element.position := by
  cases element
  rfl

@[simp] theorem Element.attributes_showSpots :
    (element.showSpots dialect chosen start).attributes =
      showAttributes dialect chosen start element.attributes := by
  cases element
  rfl

end Fields

/-- An expression with all spots in it shown. -/
def Expression.showAll (dialect : Dialect) (script : Expression) : Expression :=
  ⟨script.code, showInsets dialect (fun _ => true) 0 script.insets, script.position⟩

/-- An attribute with all spots in its expression shown. -/
def Attribute.showAll (dialect : Dialect) : Attribute → Attribute
  | ⟨name, .dynamic script, position⟩ => ⟨name, .dynamic (script.showAll dialect), position⟩
  | entry => entry

namespace Spot

/-- The data key of the template. -/
def key? (spot : Spot) : Option String := spot.template.staticText? dataKeyName

/-- Whether the template has a data key, so that it can be shown. -/
def isKeyed (spot : Spot) : Bool := spot.key?.isSome

/-- What is reported where a template cannot be shown. -/
def diagnose (path : String) (spot : Spot) : Diagnostic :=
  (Cause.nothingToInline spot.container.tag).diagnose path spot.template.position

/-- The binding kept for a template that is shown: that of its expression, in which all spots are
shown, if the first attribute for it holds one. -/
def binding? (dialect : Dialect) (spot : Spot) : Option Binding :=
  match spot.key?, spot.template.expression? expressionName with
  | some key, some script => some ⟨key, (script.showAll dialect).source, script.position⟩
  | _, _ => none

end Spot

/-- The spots that are shown: those in front of the first one without a data key. -/
def leading (spots : List Spot) : List Spot := spots.takeWhile Spot.isKeyed

/-- Why showing spots in order stops, if it does. -/
def stop? (path : String) (spots : List Spot) : Option Diagnostic :=
  (spots.find? fun spot => !spot.isKeyed).map (Spot.diagnose path)

/-- Either all spots in front are shown and it goes on behind them, or it stops in front. -/
theorem leading_append_cases (path : String) (spots spots' : List Spot) :
    (leading spots = spots ∧ stop? path spots = none ∧
      leading (spots ++ spots') = spots ++ leading spots' ∧
      stop? path (spots ++ spots') = stop? path spots') ∨
    ((leading spots).length < spots.length ∧ (stop? path spots).isSome = true ∧
      leading (spots ++ spots') = leading spots ∧
      stop? path (spots ++ spots') = stop? path spots) := by
  by_cases hall : ∀ spot ∈ spots, spot.isKeyed = true
  · left
    have hfind : (spots.find? fun spot => !spot.isKeyed) = none := by
      simpa [List.find?_eq_none] using hall
    refine ⟨List.takeWhile_eq_self_iff.mpr hall, ?_, List.takeWhile_append_of_pos hall, ?_⟩
    · rw [stop?, hfind]
      rfl
    · rw [stop?, List.find?_append, hfind]
      rfl
  · right
    have hlength : (leading spots).length < spots.length := by
      refine lt_of_le_of_ne (List.takeWhile_prefix _).length_le fun he => hall ?_
      exact List.takeWhile_eq_self_iff.mp ((List.takeWhile_prefix _).eq_of_length he)
    obtain ⟨found, hfound⟩ : ∃ found, (spots.find? fun spot => !spot.isKeyed) = some found := by
      rw [← Option.isSome_iff_exists, List.find?_isSome]
      simpa using hall
    refine ⟨hlength, ?_, ?_, ?_⟩
    · rw [stop?, hfound]
      rfl
    · rw [leading, List.takeWhile_append]
      exact if_neg (Nat.ne_of_lt hlength)
    · rw [stop?, stop?, List.find?_append, hfound]
      rfl

/-- What a pass over a part of a tree does: found running, it shows the spots of the part up to
the first that has no data key; found stopped, it leaves everything as it is. Which spots are
chosen matters only for the spots of the part, and where none is chosen the part stays. -/
structure ShowsUpTo {α : Type} (dialect : Dialect) (path : String) (spots : List Spot)
    (pass : Inlined → α × Inlined) (display : (Nat → Bool) → Nat → α) (part : α) : Prop where
  /-- A pass that is running. -/
  running : ∀ bindings, pass ⟨bindings, none⟩ =
    (display (fun i => decide (i < (leading spots).length)) 0,
      ⟨bindings ++ (leading spots).filterMap (Spot.binding? dialect), stop? path spots⟩)
  /-- A pass that has stopped. -/
  stopped : ∀ bindings diagnostic, pass ⟨bindings, some diagnostic⟩ =
    (part, ⟨bindings, some diagnostic⟩)
  /-- Spots are told apart by their numbers. -/
  congr : ∀ {chosen chosen' : Nat → Bool} {start start' : Nat},
    (∀ i < spots.length, chosen (start + i) = chosen' (start' + i)) →
      display chosen start = display chosen' start'
  /-- Nothing but spots is changed. -/
  nothing : display (fun _ => false) 0 = part

namespace ShowsUpTo

variable {α β γ : Type} {dialect : Dialect} {path : String} {spots spots' : List Spot}
  {pass : Inlined → α × Inlined} {display : (Nat → Bool) → Nat → α} {part : α}

/-- A part without spots. -/
theorem kept (dialect : Dialect) (path : String) (part : α) :
    ShowsUpTo dialect path [] (fun state => (part, state)) (fun _ _ => part) part where
  running bindings := by simp [leading, stop?]
  stopped _ _ := rfl
  congr _ := rfl
  nothing := rfl

/-- A part that is put into something larger. -/
theorem map (h : ShowsUpTo dialect path spots pass display part) (f : α → β) :
    ShowsUpTo dialect path spots (fun state => (f (pass state).1, (pass state).2))
      (fun chosen start => f (display chosen start)) (f part) where
  running bindings := by rw [h.running]
  stopped bindings diagnostic := by rw [h.stopped]
  congr hc := by rw [h.congr hc]
  nothing := by rw [h.nothing]

/-- All spots are shown if as many are chosen as there are. -/
theorem display_front (h : ShowsUpTo dialect path spots pass display part) {n start : Nat}
    (hn : start + spots.length ≤ n) (start' : Nat) :
    display (fun i => decide (i < n)) start = display (fun _ => true) start' := by
  apply h.congr
  intro i hi
  exact decide_eq_true (by omega)

/-- A part with spots `own` of its own that are reached behind those of `h`. What is done with
them may depend on what became of the part before, but not which of them are shown. -/
theorem andThen (h : ShowsUpTo dialect path spots pass display part) (own : List Spot)
    (step : α → Inlined → β × Inlined) (display' : (Nat → Bool) → Nat → α → β) (embed : α → β)
    (hrunning : ∀ bindings, step (display (fun _ => true) 0) ⟨bindings, none⟩ =
      (display' (fun i => decide (i < (leading own).length)) 0 (display (fun _ => true) 0),
        ⟨bindings ++ (leading own).filterMap (Spot.binding? dialect), stop? path own⟩))
    (hstopped : ∀ x bindings diagnostic, step x ⟨bindings, some diagnostic⟩ =
      (embed x, ⟨bindings, some diagnostic⟩))
    (hcongr : ∀ (shown : Nat → Bool) (first : Nat) {chosen chosen' : Nat → Bool}
      {start start' : Nat}, (∀ i < own.length, chosen (start + i) = chosen' (start' + i)) →
        display' chosen start (display shown first) = display' chosen' start' (display shown first))
    (hnothing : ∀ x, display' (fun _ => false) 0 x = embed x) :
    ShowsUpTo dialect path (spots ++ own) (fun state => step (pass state).1 (pass state).2)
      (fun chosen start => display' chosen (start + spots.length) (display chosen start))
      (embed part) where
  running bindings := by
    rw [h.running]
    dsimp only
    rcases leading_append_cases path spots own with
      ⟨hall, hnone, hleading, hstop⟩ | ⟨hlt, hsome, hleading, hstop⟩
    · -- the pass goes on behind the first spots, all of which are shown
      have hlength : (leading (spots ++ own)).length = spots.length + (leading own).length := by
        rw [hleading, List.length_append]
      have hown :
          display' (fun i => decide (i < (leading own).length)) 0 (display (fun _ => true) 0) =
          display' (fun i => decide (i < spots.length + (leading own).length)) (0 + spots.length)
            (display (fun _ => true) 0) := by
        apply hcongr
        intro i _
        exact decide_eq_decide.mpr (by omega)
      rw [hall, hnone, h.display_front (by omega) 0, hrunning, hown, hstop, hlength, hleading,
        List.filterMap_append, List.append_assoc, h.display_front (by omega) 0]
    · -- it stops in front, and no number behind is chosen
      obtain ⟨diagnostic, hd⟩ := Option.isSome_iff_exists.mp hsome
      rw [hd, hstopped, hstop, hd, hleading, ← hnothing]
      congr 1
      apply hcongr
      intro i _
      exact (decide_eq_false (by omega)).symm
  stopped bindings diagnostic := by rw [h.stopped, hstopped]
  congr := by
    intro chosen chosen' start start' hc
    rw [List.length_append] at hc
    have hfirst : ∀ i < spots.length, chosen (start + i) = chosen' (start' + i) :=
      fun i hi => hc i (by omega)
    rw [h.congr hfirst]
    apply hcongr
    intro i hi
    rw [Nat.add_assoc, Nat.add_assoc]
    exact hc (spots.length + i) (by omega)
  nothing := by
    have hown : display' (fun _ => false) (0 + spots.length) (display (fun _ => false) 0) =
        display' (fun _ => false) 0 (display (fun _ => false) 0) :=
      hcongr _ _ fun _ _ => rfl
    rw [hown, hnothing, h.nothing]

/-- Two parts of which one is walked behind the other. -/
theorem seq {pass' : Inlined → β × Inlined} {display' : (Nat → Bool) → Nat → β} {part' : β}
    (h : ShowsUpTo dialect path spots pass display part)
    (h' : ShowsUpTo dialect path spots' pass' display' part') (f : α → β → γ) :
    ShowsUpTo dialect path (spots ++ spots')
      (fun state => (f (pass state).1 (pass' (pass state).2).1, (pass' (pass state).2).2))
      (fun chosen start => f (display chosen start) (display' chosen (start + spots.length)))
      (f part part') := by
  refine h.andThen spots' (fun x state => (f x (pass' state).1, (pass' state).2))
    (fun chosen start x => f x (display' chosen start)) (fun x => f x part') ?_ ?_ ?_ ?_
  · intro bindings
    rw [h'.running]
  · intro x bindings diagnostic
    rw [h'.stopped]
  · intro shown first chosen chosen' start start' hc
    rw [h'.congr hc]
  · intro x
    rw [h'.nothing]

end ShowsUpTo

/-- A template is among the templates. -/
theorem templatesAmong_template {inner : Element} (ht : inner.tag = templateTag)
    (rest : List Node) :
    templatesAmong (.element inner :: rest) = inner :: templatesAmong rest := by
  simp [templatesAmong, Node.template?, ht]

/-- Another element is not. -/
theorem templatesAmong_element {inner : Element} (ht : inner.tag ≠ templateTag) (rest : List Node) :
    templatesAmong (.element inner :: rest) = templatesAmong rest := by
  simp [templatesAmong, Node.template?, ht]

/-- Templates among nodes are told apart by their numbers. -/
theorem showAmong_congr {chosen chosen' : Nat → Bool} {nodes : List Node} {start start' : Nat}
    (h : ∀ i < (templatesAmong nodes).length, chosen (start + i) = chosen' (start' + i)) :
    showAmong chosen start nodes = showAmong chosen' start' nodes := by
  induction nodes generalizing start start' with
  | nil => rfl
  | cons node rest ih =>
    cases node with
    | text run =>
      rw [showAmong, showAmong, ih h]
      all_goals simp
    | expression script =>
      rw [showAmong, showAmong, ih h]
      all_goals simp
    | element inner =>
      by_cases ht : inner.tag = templateTag
      · rw [templatesAmong_template ht, List.length_cons] at h
        have hfirst : chosen start = chosen' start' := h 0 (Nat.succ_pos _)
        have hrest : showAmong chosen (start + 1) rest = showAmong chosen' (start' + 1) rest := by
          apply ih
          intro i hi
          rw [Nat.add_assoc, Nat.add_assoc, Nat.add_comm 1]
          exact h (i + 1) (Nat.succ_lt_succ hi)
        rw [showAmong, showAmong, if_pos ht, if_pos ht, hfirst, hrest]
      · rw [templatesAmong_element ht] at h
        rw [showAmong, showAmong, if_neg ht, if_neg ht, ih h]

/-- Where no spot is chosen, nothing is shown. -/
theorem showAmong_nothing (start : Nat) (nodes : List Node) :
    showAmong (fun _ => false) start nodes = nodes := by
  fun_induction showAmong (fun _ => false) start nodes <;> simp_all

/-- Where all spots are shown, it does not matter how they are numbered. -/
theorem showAll_start (dialect : Dialect) :
    TreeInduction
      (fun nodes => ∀ start start', showNodes dialect (fun _ => true) start nodes =
        showNodes dialect (fun _ => true) start' nodes)
      (fun attributes => ∀ start start', showAttributes dialect (fun _ => true) start attributes =
        showAttributes dialect (fun _ => true) start' attributes)
      (fun insets => ∀ start start', showInsets dialect (fun _ => true) start insets =
        showInsets dialect (fun _ => true) start' insets) where
  noNodes _ _ := rfl
  element tag attributes children position rest hattributes hchildren hrest start start' := by
    have hown (here : Nat) (nodes : List Node) :
        showAmong (fun _ => true) here nodes = showAmong (fun _ => true) 0 nodes :=
      showAmong_congr fun _ _ => rfl
    simp only [showNodes, Node.showSpots, Element.showSpots, Element.showOwn,
      hattributes start start', hchildren _ 0, hrest _ 0,
      hown _ (showNodes dialect (fun _ => true) 0 children)]
  text run rest hrest start start' := by
    rw [showNodes, showNodes, hrest _ (start' + (spotsOf dialect (Node.text run).postOrder).length)]
    rfl
  expression code insets position rest hinsets hrest start start' := by
    rw [showNodes, showNodes, Node.showSpots, Node.showSpots, hinsets start start',
      hrest _ (start' +
        (spotsOf dialect (Node.expression ⟨code, insets, position⟩).postOrder).length)]
  noAttributes _ _ := rfl
  bare name position rest hrest start start' := by
    simp only [showAttributes, hrest start start']
  static name text position rest hrest start start' := by
    simp only [showAttributes, hrest start start']
  dynamic name code insets place position rest hinsets hrest start start' := by
    rw [showAttributes, showAttributes, hinsets start start',
      hrest _ (start' + (spotsOf dialect (insetsPostOrder insets)).length)]
  noInsets _ _ := rfl
  inset first stop fragment nodes rest hnodes hrest start start' := by
    rw [showInsets, showInsets, hnodes start start',
      hrest _ (start' + (spotsOf dialect (postOrder nodes)).length)]

/-- All spots shown, node by node. -/
theorem showNodes_all (dialect : Dialect) (start : Nat) (nodes : List Node) :
    showNodes dialect (fun _ => true) start nodes =
      nodes.map (Node.showSpots dialect (fun _ => true) 0) := by
  induction nodes generalizing start with
  | nil => rfl
  | cons node rest ih =>
    have hnode := (showAll_start dialect).nodes [node] start 0
    simp only [showNodes, List.cons.injEq, and_true] at hnode
    rw [showNodes, ih, hnode, List.map_cons]

/-- All spots shown, attribute by attribute. -/
theorem showAttributes_all (dialect : Dialect) (start : Nat) (attributes : List Attribute) :
    showAttributes dialect (fun _ => true) start attributes =
      attributes.map (Attribute.showAll dialect) := by
  induction attributes generalizing start with
  | nil => rfl
  | cons entry rest ih =>
    obtain ⟨name, value, position⟩ := entry
    cases value with
    | bare => simp only [showAttributes, ih, List.map_cons, Attribute.showAll]
    | static text => simp only [showAttributes, ih, List.map_cons, Attribute.showAll]
    | dynamic script =>
      obtain ⟨code, insets, place⟩ := script
      rw [showAttributes, ih, (showAll_start dialect).insets insets start 0, List.map_cons]
      rfl

/-- What an element with all spots shown says of itself: an attribute looked up is the one that
stood there. -/
theorem lookup?_showAll (dialect : Dialect) (start : Nat) (element : Element) (name : String) :
    (element.showSpots dialect (fun _ => true) start).lookup? name =
      (element.lookup? name).map (Attribute.showAll dialect) := by
  have hname : (fun entry : Attribute => entry.name == name) ∘ Attribute.showAll dialect =
      fun entry => entry.name == name := by
    funext ⟨_, value, _⟩
    cases value <;> rfl
  unfold Element.lookup?
  rw [Element.attributes_showSpots, showAttributes_all, List.find?_map, hname]

/-- Showing spots keeps the texts of attributes. -/
theorem staticText?_showAll (dialect : Dialect) (start : Nat) (element : Element) (name : String) :
    (element.showSpots dialect (fun _ => true) start).staticText? name =
      element.staticText? name := by
  unfold Element.staticText?
  rw [lookup?_showAll]
  rcases element.lookup? name with _ | ⟨_, _ | _ | _, _⟩ <;> rfl

/-- The expression of an attribute is shown as a whole. -/
theorem expression?_showAll (dialect : Dialect) (start : Nat) (element : Element) (name : String) :
    (element.showSpots dialect (fun _ => true) start).expression? name =
      (element.expression? name).map (Expression.showAll dialect) := by
  unfold Element.expression?
  rw [lookup?_showAll]
  rcases element.lookup? name with _ | ⟨_, _ | _ | _, _⟩ <;> rfl

/-- A spot as the step at its container finds it: all spots below are shown already. -/
def Spot.reached (dialect : Dialect) (parent : Element) (spot : Spot) : Spot :=
  ⟨parent, spot.template.showSpots dialect (fun _ => true) 0⟩

/-- Whether a spot has a key does not change until inlining reaches it. -/
theorem Spot.isKeyed_reached (dialect : Dialect) (parent : Element) (spot : Spot) :
    (spot.reached dialect parent).isKeyed = spot.isKeyed := by
  unfold isKeyed key? reached
  rw [staticText?_showAll]

/-- What a spot binds when inlining reaches it is what it binds with all spots inside shown. -/
theorem Spot.binding?_reached (dialect : Dialect) (parent : Element) (spot : Spot) :
    (spot.reached dialect parent).template.binding? = spot.binding? dialect := by
  unfold Element.binding? Spot.binding? key? reached
  rw [staticText?_showAll, expression?_showAll]
  cases spot.template.staticText? dataKeyName <;>
    cases spot.template.expression? expressionName <;> rfl

/-- What is reported of a spot without a key does not change until inlining reaches it. -/
theorem Spot.diagnose_reached (dialect : Dialect) (path : String) {parent : Element} {spot : Spot}
    (h : parent.tag = spot.container.tag) :
    (spot.reached dialect parent).diagnose path = spot.diagnose path := by
  unfold diagnose reached
  rw [h, Element.position_showSpots]

/-- The spots in front of the first without a key are the same when inlining reaches them. -/
theorem leading_reached (dialect : Dialect) (parent : Element) (spots : List Spot) :
    leading (spots.map (Spot.reached dialect parent)) =
      (leading spots).map (Spot.reached dialect parent) := by
  have hkeyed : Spot.isKeyed ∘ Spot.reached dialect parent = Spot.isKeyed :=
    funext (Spot.isKeyed_reached dialect parent)
  rw [leading, List.takeWhile_map, hkeyed, leading]

/-- So is the complaint at which inlining stops. -/
theorem stop?_reached (dialect : Dialect) (path : String) {parent : Element} {spots : List Spot}
    (h : ∀ spot ∈ spots, parent.tag = spot.container.tag) :
    stop? path (spots.map (Spot.reached dialect parent)) = stop? path spots := by
  induction spots with
  | nil => rfl
  | cons spot rest ih =>
    obtain ⟨hspot, hrest⟩ := List.forall_mem_cons.mp h
    have ih := ih hrest
    unfold stop? at ih ⊢
    rw [List.map_cons, List.find?_cons, List.find?_cons, Spot.isKeyed_reached]
    cases hk : spot.isKeyed with
    | true => exact ih
    | false => exact congrArg some (Spot.diagnose_reached dialect path hspot)

/-- What becomes of the children of a text container. -/
theorem Inlines.shows {path : String} {parent : Element} {before after : List Node}
    {kept : List Binding} {failure : Option Diagnostic}
    (h : Inlines path parent.tag before after kept failure) :
    let spots := (templatesAmong before).map (Spot.mk parent)
    after = showAmong (fun i => decide (i < (leading spots).length)) 0 before ∧
      kept = (leading spots).filterMap (fun spot => spot.template.binding?) ∧
      failure = stop? path spots := by
  generalize hc : parent.tag = container at h
  induction h with
  | nil => exact ⟨rfl, rfl, rfl⟩
  | @shown before _ _ _ inner key ht hk h ih =>
    obtain ⟨hafter, hkept, hfailure⟩ := ih
    have hkeyed : (Spot.mk parent inner).isKeyed = true := by simp [Spot.isKeyed, Spot.key?, hk]
    rw [templatesAmong_template ht, List.map_cons]
    simp only [leading, stop?, List.takeWhile_cons, hkeyed, if_true, List.find?_cons, Bool.not_true,
      List.length_cons] at hafter hkept hfailure ⊢
    refine ⟨?_, ?_, hfailure⟩
    · have hshown : inner.shown = .text ⟨interpolation key, inner.position⟩ := by
        rw [Element.shown, hk]
      rw [showAmong, if_pos ht, hshown, hafter, if_pos (decide_eq_true (Nat.succ_pos _))]
      congr 1
      apply showAmong_congr
      intro i _
      exact decide_eq_decide.mpr (by omega)
    · rw [hkept]
      cases hb : inner.binding? <;> simp [hb]
  | @stopped before inner ht hk =>
    have hkeyed : (Spot.mk parent inner).isKeyed = false := by simp [Spot.isKeyed, Spot.key?, hk]
    have hleading :
        leading (⟨parent, inner⟩ :: (templatesAmong before).map (Spot.mk parent)) = [] :=
      List.takeWhile_cons_of_neg (by simp [hkeyed])
    have hstop : stop? path (⟨parent, inner⟩ :: (templatesAmong before).map (Spot.mk parent)) =
        some ((Spot.mk parent inner).diagnose path) := by
      simp [stop?, hkeyed]
    rw [templatesAmong_template ht, List.map_cons]
    dsimp only
    rw [hleading, hstop, ← hc]
    have hnothing : showAmong (fun i => decide (i < ([] : List Spot).length)) 0
        (.element inner :: before) = showAmong (fun _ => false) 0 (.element inner :: before) := by
      apply showAmong_congr
      intro i _
      exact decide_eq_false (Nat.not_lt_zero _)
    rw [hnothing, showAmong_nothing]
    exact ⟨rfl, rfl, rfl⟩
  | element inner ht h ih =>
    dsimp only at ih ⊢
    rw [templatesAmong_element ht, showAmong, if_neg ht]
    exact ⟨congrArg _ ih.1, ih.2⟩
  | text run h ih => exact ⟨congrArg _ ih.1, ih.2⟩
  | expression script h ih => exact ⟨congrArg _ ih.1, ih.2⟩

/-- With the spots below it shown, a node is a template if it was one, and only then. -/
theorem template?_showSpots (dialect : Dialect) (chosen : Nat → Bool) (start : Nat) (node : Node) :
    (node.showSpots dialect chosen start).template? =
      node.template?.map (Element.showSpots dialect chosen start) := by
  cases node with
  | element inner =>
    by_cases ht : inner.tag = templateTag <;> simp [Node.showSpots, Node.template?, ht]
  | text run => rfl
  | expression script =>
    cases script
    rfl

/-- Showing spots below nodes does not change how many of them are templates. -/
theorem length_templatesAmong_showNodes (dialect : Dialect) (chosen : Nat → Bool) (start : Nat)
    (nodes : List Node) :
    (templatesAmong (showNodes dialect chosen start nodes)).length =
      (templatesAmong nodes).length := by
  induction nodes generalizing start with
  | nil => rfl
  | cons node rest ih =>
    rw [showNodes]
    unfold templatesAmong at ih ⊢
    rw [List.filterMap_cons, List.filterMap_cons, template?_showSpots]
    cases node.template? <;> simp [ih]

/-- The templates among nodes, with all spots inside them shown. -/
theorem templatesAmong_showAll (dialect : Dialect) (start : Nat) (nodes : List Node) :
    templatesAmong (showNodes dialect (fun _ => true) start nodes) =
      (templatesAmong nodes).map (Element.showSpots dialect (fun _ => true) 0) := by
  rw [showNodes_all, templatesAmong, templatesAmong, List.filterMap_map, List.map_filterMap]
  congr 1
  funext node
  exact template?_showSpots dialect _ 0 node

/-- What a step does to an element below which all spots are shown: it shows the element's own up
to the first without a data key. -/
theorem inlineStep_shows {dialect : Dialect} (hd : dialect.ByTag) (path : String)
    (element : Element) (attributes : List Attribute) (start : Nat) (bindings : List Binding) :
    let own := element.spots dialect
    let children := showNodes dialect (fun _ => true) start element.children
    inlineStep dialect path ⟨element.tag, attributes, children, element.position⟩ ⟨bindings, none⟩ =
      (⟨element.tag, attributes,
          element.showOwn dialect (fun i => decide (i < (leading own).length)) 0 children,
          element.position⟩,
        ⟨bindings ++ (leading own).filterMap (Spot.binding? dialect), stop? path own⟩) := by
  intro own children
  let parent : Element := ⟨element.tag, attributes, children, element.position⟩
  have hparent : dialect.isText parent = dialect.isText element := hd _ _ rfl
  change inlineStep dialect path parent _ = _
  cases ht : dialect.isText element with
  | false =>
    have hown : own = [] := by simp [own, Element.spots, ht]
    rw [inlineStep_of_not_text (hparent.trans ht), hown]
    simp [Element.showOwn, ht, leading, stop?, parent]
  | true =>
    obtain ⟨after, kept, failure, he, h⟩ := inlineChildren_spec path parent.tag parent.children
    have hspots : (templatesAmong parent.children).map (Spot.mk parent) =
        own.map (Spot.reached dialect parent) := by
      simp only [own, Element.spots, ht, if_true, parent, children, templatesAmong_showAll,
        List.map_map]
      rfl
    have htags : ∀ spot ∈ own, parent.tag = spot.container.tag := by
      simp [own, Element.spots, ht, parent]
    have hbindings : (fun spot : Spot => spot.template.binding?) ∘ Spot.reached dialect parent =
        Spot.binding? dialect :=
      funext (Spot.binding?_reached dialect parent)
    obtain ⟨hafter, hkept, hfailure⟩ := h.shows
    rw [hspots, leading_reached, List.length_map] at hafter
    rw [hspots, leading_reached, List.filterMap_map, hbindings] at hkept
    rw [hspots, stop?_reached dialect path htags] at hfailure
    rw [inlineStep_of_text (hparent.trans ht), he, hafter, hkept, hfailure, Element.showOwn,
      if_pos ht]

/-- Only the choices for its own spots matter to an element. -/
theorem showOwn_congr {dialect : Dialect} {element : Element} {nodes : List Node}
    {chosen chosen' : Nat → Bool} {start start' : Nat}
    (hn : (templatesAmong nodes).length = (templatesAmong element.children).length)
    (h : ∀ i < (element.spots dialect).length, chosen (start + i) = chosen' (start' + i)) :
    element.showOwn dialect chosen start nodes = element.showOwn dialect chosen' start' nodes := by
  unfold Element.showOwn
  cases ht : dialect.isText element with
  | false => rfl
  | true =>
    rw [Element.spots, if_pos ht, List.length_map, ← hn] at h
    exact showAmong_congr h

/-- Where no spot is chosen, an element keeps its children. -/
theorem showOwn_nothing (dialect : Dialect) (element : Element) (start : Nat) (nodes : List Node) :
    element.showOwn dialect (fun _ => false) start nodes = nodes := by
  unfold Element.showOwn
  rw [showAmong_nothing, ite_self]

/-- The spots of two lists of elements. -/
theorem spotsOf_append (dialect : Dialect) (elements elements' : List Element) :
    spotsOf dialect (elements ++ elements') =
      spotsOf dialect elements ++ spotsOf dialect elements' :=
  List.flatMap_append

/-- An element whose attributes and children are walked before it. -/
theorem ShowsUpTo.element {dialect : Dialect} (hd : dialect.ByTag) {path : String}
    (element : Element)
    (hattributes : ShowsUpTo dialect path (spotsOf dialect (attributesPostOrder element.attributes))
      (rewriteAttributes (inlineStep dialect path) element.attributes)
      (fun chosen start => showAttributes dialect chosen start element.attributes)
      element.attributes)
    (hchildren : ShowsUpTo dialect path (spotsOf dialect (postOrder element.children))
      (rewriteNodes (inlineStep dialect path) element.children)
      (fun chosen start => showNodes dialect chosen start element.children) element.children) :
    ShowsUpTo dialect path (spotsOf dialect (Node.postOrder (.element element)))
      (fun state =>
        let attributes := rewriteAttributes (inlineStep dialect path) element.attributes state
        let children := rewriteNodes (inlineStep dialect path) element.children attributes.2
        inlineStep dialect path ⟨element.tag, attributes.1, children.1, element.position⟩
          children.2)
      (fun chosen start => element.showSpots dialect chosen start) element := by
  have hbelow := hattributes.seq hchildren Prod.mk
  have hall := hbelow.andThen (element.spots dialect)
    (fun parts => inlineStep dialect path ⟨element.tag, parts.1, parts.2, element.position⟩)
    (fun chosen start parts =>
      ⟨element.tag, parts.1, element.showOwn dialect chosen start parts.2, element.position⟩)
    (fun parts => ⟨element.tag, parts.1, parts.2, element.position⟩) ?_ ?_ ?_ ?_
  · have hspots : spotsOf dialect (Node.postOrder (.element element)) =
        spotsOf dialect (attributesPostOrder element.attributes) ++
          spotsOf dialect (postOrder element.children) ++ element.spots dialect := by
      cases element
      rw [Node.postOrder, spotsOf_append, spotsOf_append]
      simp [spotsOf]
    rw [hspots]
    simp only [List.length_append, ← Nat.add_assoc] at hall
    cases element
    exact hall
  · intro bindings
    exact inlineStep_shows hd path element _ _ bindings
  · intro parts bindings diagnostic
    exact inlineStep_stopped dialect path _ bindings diagnostic
  · intro shown first chosen chosen' start start' hc
    rw [showOwn_congr (length_templatesAmong_showNodes dialect shown _ element.children) hc]
  · intro parts
    rw [showOwn_nothing]

/-- A pass shows the spots in post-order, up to the first that has no data key. -/
theorem inline_shows {dialect : Dialect} (hd : dialect.ByTag) (path : String) :
    TreeInduction
      (fun nodes => ShowsUpTo dialect path (spotsOf dialect (postOrder nodes))
        (rewriteNodes (inlineStep dialect path) nodes)
        (fun chosen start => showNodes dialect chosen start nodes) nodes)
      (fun attributes => ShowsUpTo dialect path (spotsOf dialect (attributesPostOrder attributes))
        (rewriteAttributes (inlineStep dialect path) attributes)
        (fun chosen start => showAttributes dialect chosen start attributes) attributes)
      (fun insets => ShowsUpTo dialect path (spotsOf dialect (insetsPostOrder insets))
        (rewriteInsets (inlineStep dialect path) insets)
        (fun chosen start => showInsets dialect chosen start insets) insets) where
  noNodes := .kept dialect path []
  element tag attributes children position rest hattributes hchildren hrest := by
    rw [postOrder, spotsOf_append]
    have hfirst := ShowsUpTo.element hd ⟨tag, attributes, children, position⟩ hattributes hchildren
    exact hfirst.seq hrest fun element rest => .element element :: rest
  text run rest hrest := hrest.map (List.cons (.text run))
  expression code insets position rest hinsets hrest := by
    rw [postOrder, spotsOf_append]
    exact hinsets.seq hrest fun insets rest => .expression ⟨code, insets, position⟩ :: rest
  noAttributes := .kept dialect path []
  bare name position rest hrest := hrest.map (List.cons ⟨name, .bare, position⟩)
  static name text position rest hrest := hrest.map (List.cons ⟨name, .static text, position⟩)
  dynamic name code insets place position rest hinsets hrest := by
    rw [attributesPostOrder, spotsOf_append]
    exact hinsets.seq hrest fun insets rest =>
      ⟨name, .dynamic ⟨code, insets, place⟩, position⟩ :: rest
  noInsets := .kept dialect path []
  inset start stop fragment nodes rest hnodes hrest := by
    rw [insetsPostOrder, spotsOf_append]
    exact hnodes.seq hrest fun nodes rest => ⟨start, stop, fragment, nodes⟩ :: rest

/-- Where nothing stops, all spots are shown. -/
theorem leading_eq_self {path : String} {spots : List Spot} (h : stop? path spots = none) :
    leading spots = spots := by
  apply List.takeWhile_eq_self_iff.mpr
  simpa [stop?] using h

/-- Where something stops, it is the first spot without a data key. -/
theorem exists_stop {path : String} {spots : List Spot} {diagnostic : Diagnostic}
    (h : stop? path spots = some diagnostic) :
    ∃ earlier spot later, spots = earlier ++ spot :: later ∧ leading spots = earlier ∧
      (∀ before ∈ earlier, before.isKeyed = true) ∧ spot.isKeyed = false ∧
      diagnostic = spot.diagnose path := by
  obtain ⟨spot, hfind, rfl⟩ := Option.map_eq_some_iff.mp h
  obtain ⟨hspot, earlier, later, rfl, hearlier⟩ := List.find?_eq_some_iff_append.mp hfind
  have hkeyed : ∀ before ∈ earlier, before.isKeyed = true := by simpa using hearlier
  have hkeyless : spot.isKeyed = false := by simpa using hspot
  refine ⟨earlier, spot, later, rfl, ?_, hkeyed, hkeyless, rfl⟩
  rw [leading, List.takeWhile_append_of_pos hkeyed, List.takeWhile_cons_of_neg (by simp [hkeyless]),
    List.append_nil]

/-- What inlining makes of a document. -/
theorem inlineText_shows {dialect : Dialect} (hd : dialect.ByTag) (document : Document) :
    let spots := spotsOf dialect (postOrder document.nodes)
    document.inlineText dialect =
      (⟨document.path,
          showNodes dialect (fun i => decide (i < (leading spots).length)) 0 document.nodes⟩,
        ⟨(leading spots).filterMap (Spot.binding? dialect), stop? document.path spots⟩) := by
  intro spots
  rw [inlineText_eq, Inlined.start, ((inline_shows hd document.path).nodes document.nodes).running]
  rfl

/-- What inlining makes of a document if nothing stops it. -/
theorem inlineText_showsAll {dialect : Dialect} (hd : dialect.ByTag) {document : Document}
    (h : (document.inlineText dialect).2.failure = none) :
    document.inlineText dialect =
      (⟨document.path, showNodes dialect (fun _ => true) 0 document.nodes⟩,
        ⟨(spotsOf dialect (postOrder document.nodes)).filterMap (Spot.binding? dialect),
          none⟩) := by
  have hshows := (inline_shows hd document.path).nodes document.nodes
  rw [inlineText_shows hd] at h ⊢
  dsimp only at h ⊢
  rw [h, leading_eq_self h, hshows.display_front (Nat.zero_add _).le 0]

/-- An attribute gives no text exactly if the first with the name has none. -/
theorem Element.staticText?_eq_none_iff {element : Element} {name : String} :
    element.staticText? name = none ↔
      ∀ text, (element.lookup? name).map Attribute.value ≠ some (.static text) := by
  unfold staticText?
  rcases element.lookup? name with _ | ⟨_, _ | _ | _, _⟩ <;> simp

/-- An element holds a template without a key exactly if it is a text container and such a template
is among its children. -/
theorem Element.holdsKeyless_iff {dialect : Dialect} {element : Element} :
    element.holdsKeyless dialect = true ↔ dialect.isText element = true ∧
      ∃ child, .element child ∈ element.children ∧ child.tag = templateTag ∧
        child.staticText? dataKeyName = none := by
  unfold holdsKeyless
  rw [Bool.and_eq_true, List.any_eq_true]
  refine and_congr_right fun _ => ⟨?_, ?_⟩
  · rintro ⟨node, hm, hk⟩
    cases node with
    | element child =>
      simp only [Node.isKeyless, Bool.and_eq_true, beq_iff_eq, Option.isNone_iff_eq_none] at hk
      exact ⟨child, hm, hk⟩
    | text run => simp [Node.isKeyless] at hk
    | expression script => simp [Node.isKeyless] at hk
  · rintro ⟨child, hm, ht, hk⟩
    exact ⟨.element child, hm, by simp [Node.isKeyless, ht, hk]⟩

/-- Inlining fails if and only if some text container, anywhere, has a child template whose first
data key is missing or not fixed. If it succeeds, every spot is shown by an interpolation of its
data key, nothing else is changed, and each spot whose template has an expression gives a binding,
in the order of the spots, with code in which all spots inside are shown. If it fails, the spots in
front of the first one without a data key are shown, nothing else is changed, and the failure is
reported where that template stands. -/
theorem inlineText_outcome (textTags : List String) (suffix : String) (document : Document) :
    let dialect := Dialect.ofTags textTags suffix
    let result := document.inlineText dialect
    let spots := spotsOf dialect (postOrder document.nodes)
    (result.2.failure.isSome = true ↔
      ∃ element ∈ elementsIn document.nodes, dialect.isText element = true ∧
        ∃ child, .element child ∈ element.children ∧ child.tag = templateTag ∧
          ∀ text, (child.lookup? dataKeyName).map Attribute.value ≠ some (.static text)) ∧
    (result.2.failure = none →
      result.1 = ⟨document.path, showNodes dialect (fun _ => true) 0 document.nodes⟩ ∧
      result.2.bindings = spots.filterMap (Spot.binding? dialect)) ∧
    ∀ diagnostic, result.2.failure = some diagnostic →
      ∃ earlier spot later, spots = earlier ++ spot :: later ∧
        (∀ before ∈ earlier, before.key?.isSome = true) ∧ spot.key? = none ∧
        diagnostic =
          (Cause.nothingToInline spot.container.tag).diagnose document.path spot.template.position ∧
        result.1 = ⟨document.path,
          showNodes dialect (fun i => decide (i < earlier.length)) 0 document.nodes⟩ := by
  intro dialect result spots
  have hd : dialect.ByTag := Dialect.byTag_ofTags textTags suffix
  refine ⟨?_, ?_, ?_⟩
  · have hfailure := (inline_failure hd document.path).nodes document.nodes .start
    change result.2.failure.isSome = _ at hfailure
    simp only [hfailure, Inlined.start, Option.isSome_none, Bool.false_or, List.any_eq_true,
      Element.holdsKeyless_iff, Element.staticText?_eq_none_iff]
  · intro hnone
    have hall := inlineText_showsAll hd hnone
    exact ⟨congrArg Prod.fst hall, congrArg (·.2.bindings) hall⟩
  · intro diagnostic hsome
    have hresult : result = _ := inlineText_shows hd document
    rw [hresult] at hsome ⊢
    obtain ⟨earlier, spot, later, hspots, hleading, hkeyed, hkeyless, hdiagnostic⟩ :=
      exists_stop hsome
    refine ⟨earlier, spot, later, hspots, hkeyed, ?_, hdiagnostic, ?_⟩
    · simpa [Spot.isKeyed] using hkeyless
    · rw [hleading]

/-- A document with five spots, of which the first stands in an attribute and the third has a bare
data key. -/
def haltedDocument : Document where
  path := "list.jsx"
  nodes := [
    .element ⟨"view",
      [⟨"title", .dynamic ⟨"<text><template datakey=\"t\"/></text>",
        [⟨0, 38, false, [.element ⟨"text", [],
          [.element ⟨templateTag, [.ofText dataKeyName "t"], [], ⟨1, 18⟩⟩], ⟨1, 12⟩⟩]⟩],
        ⟨1, 11⟩⟩, ⟨1, 6⟩⟩],
      [.element ⟨"text", [],
          [.element ⟨templateTag, [.ofText dataKeyName "a"], [], ⟨2, 8⟩⟩,
            .element ⟨templateTag, [.marker dataKeyName], [], ⟨3, 8⟩⟩,
            .element ⟨templateTag, [.ofText dataKeyName "b"], [], ⟨4, 8⟩⟩], ⟨2, 2⟩⟩,
        .element ⟨"text", [],
          [.element ⟨templateTag, [.ofText dataKeyName "c"], [], ⟨5, 8⟩⟩], ⟨5, 2⟩⟩],
      ⟨1, 0⟩⟩]

/-- Inlining the halted document shows two spots and stops at the third; the two behind it stay,
although they have data keys. -/
theorem inlineText_outcome_halted :
    let result := haltedDocument.inlineText .standard
    let diagnostic := (Cause.nothingToInline "text").diagnose "list.jsx" ⟨3, 8⟩
    result.2.failure = some diagnostic ∧
      result.1.markup = "<view title=\"\x7b\x7b<text>\x7b\x7bt\x7d\x7d</text>\x7d\x7d\">" ++
        "<text>\x7b\x7ba\x7d\x7d<template datakey></template>" ++
        "<template datakey=\"b\"></template></text>" ++
        "<text><template datakey=\"c\"></template></text></view>" ∧
      ∃ earlier spot later,
        spotsOf .standard (postOrder haltedDocument.nodes) = earlier ++ spot :: later ∧
          spot.key? = none ∧
          result.1.nodes =
            showNodes .standard (fun i => decide (i < earlier.length)) 0 haltedDocument.nodes := by
  intro result diagnostic
  have hfailure : result.2.failure = some diagnostic := by decide
  obtain ⟨-, -, hstopped⟩ := inlineText_outcome defaultTextTags componentSuffix haltedDocument
  obtain ⟨earlier, spot, later, hspots, -, hkeyless, -, hresult⟩ := hstopped diagnostic hfailure
  exact ⟨hfailure, by decide +kernel, earlier, spot, later, hspots, hkeyless,
    congrArg Document.nodes hresult⟩

end MiniTemplate
