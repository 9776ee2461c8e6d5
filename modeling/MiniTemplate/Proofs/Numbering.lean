import MiniTemplate.Proofs.Inlining
import MiniTemplate.Proofs.Sessions

/-!
# Which data key each expression gets

Elements are lifted in post-order, and the expression children of one element in document
order. The data keys follow that order without a gap: the references that a pass makes,
listed like the expressions they stand for, carry consecutive numbers, and their shape is
known down to the attributes.
-/

namespace MiniTemplate

/-- The expression that a node is. -/
def Node.expression? : Node → Option Expression
  | .expression script => some script
  | _ => none

/-- The expressions among nodes, in order. -/
def scriptsAmong (nodes : List Node) : List Expression := nodes.filterMap Node.expression?

/-- The expression children of an element that lifting replaces: all of them, unless the element
is a component. -/
def Element.liftable (dialect : Dialect) (element : Element) : List Expression :=
  if dialect.isComponent element.tag then [] else scriptsAmong element.children

/-- The expression children that lifting replaces below nodes, each with its parent. Parents come
in post-order, and the children of one parent in document order. -/
def liftableIn (dialect : Dialect) (nodes : List Node) : List (Element × Expression) :=
  (postOrder nodes).flatMap fun parent =>
    (parent.liftable dialect).map fun script => (parent, script)

/-- An expression child that was replaced. -/
structure Replacement where
  /-- The element that has the child. -/
  parent : Element
  /-- What became of that element. -/
  lifted : Element
  /-- The child. -/
  script : Expression
  /-- The element that took its place. -/
  reference : Element

/-- The children of an element that were replaced, in document order. -/
def Element.replacements (old new : Element) : List Replacement :=
  (replacedChildren old.children new.children).map fun pair => ⟨old, new, pair.1, pair.2⟩

/-- The expression children that were replaced below nodes, found by laying these beside the
nodes there are now. -/
def replacementsIn (nodes nodes' : List Node) : List Replacement :=
  (laidBeside nodes nodes').flatMap fun pair => pair.1.replacements pair.2

namespace Selectors

/-- The selector in use for a child that calls a property, or none. -/
def find? (selectors : Selectors) : Option String → Option String
  | .none => selectors.plain
  | some prop => selectors.props.lookup prop

variable (selectors : Selectors) (supplies : Supplies)

/-- The selector chosen for a child is in use for it from then on. -/
theorem find?_choose (call : Option String) :
    (selectors.choose call supplies).2.1.find? call = some (selectors.choose call supplies).1 := by
  cases call with
  | none =>
    rcases selectors.choose_plain_cases supplies with ⟨_, hs, hc⟩ | ⟨-, hc⟩
    · rw [hc]
      exact hs
    · rw [hc]
      rfl
  | some prop =>
    rcases selectors.choose_prop_cases prop supplies with ⟨_, hs, hc⟩ | ⟨hs, hc⟩
    · rw [hc]
      exact hs
    · rw [hc]
      simp [find?, List.lookup_append, hs]

/-- A selector in use stays in use. -/
theorem find?_choose_of_some {call : Option String} {selector : String}
    (h : selectors.find? call = some selector) (call' : Option String) :
    (selectors.choose call' supplies).2.1.find? call = some selector := by
  cases call' with
  | none =>
    rcases selectors.choose_plain_cases supplies with ⟨_, -, hc⟩ | ⟨hs, hc⟩
    · rw [hc]
      exact h
    · rw [hc]
      cases call with
      | none => simp [find?, hs] at h
      | some prop => exact h
  | some prop' =>
    rcases selectors.choose_prop_cases prop' supplies with ⟨_, -, hc⟩ | ⟨-, hc⟩
    · rw [hc]
      exact h
    · rw [hc]
      cases call with
      | none => exact h
      | some prop =>
        have hl : selectors.props.lookup prop = some selector := h
        simp [find?, List.lookup_append, hl]

/-- Choosing a selector draws no data key. -/
theorem dataKeys_choose (call : Option String) :
    (selectors.choose call supplies).2.2.dataKeys = supplies.dataKeys := by
  cases call with
  | none => rcases selectors.choose_plain_cases supplies with ⟨_, -, hc⟩ | ⟨-, hc⟩ <;> rw [hc]
  | some prop =>
    rcases selectors.choose_prop_cases prop supplies with ⟨_, -, hc⟩ | ⟨-, hc⟩ <;> rw [hc]

end Selectors

/-- Lifting an expression and then the nodes behind it. -/
theorem liftChildren_expression (calledProp? : String → Option String) (inText : Bool)
    (script : Expression) (rest : List Node) (selectors : Selectors) (supplies : Supplies) :
    liftChildren calledProp? inText (.expression script :: rest) selectors supplies =
      let chosen := selectors.choose (calledProp? script.code) supplies
      let behind := liftChildren calledProp? inText rest chosen.2.1
        { chosen.2.2 with dataKeys := supplies.dataKeys.advance 1 }
      (.element (reference script (supplies.dataKeys.name supplies.dataKeys.issued) chosen.1
        inText) :: behind.1, behind.2) := by
  simp [liftChildren, selectors.dataKeys_choose, Supply.next_eq]

/-- A selector in use stays in use while children are lifted. -/
theorem find?_liftChildren (calledProp? : String → Option String) (inText : Bool)
    (nodes : List Node) {selectors : Selectors} {call : Option String} {selector : String}
    (h : selectors.find? call = some selector) (supplies : Supplies) :
    (liftChildren calledProp? inText nodes selectors supplies).2.1.find? call = some selector := by
  induction nodes generalizing selectors supplies with
  | nil => exact h
  | cons node rest ih =>
    cases node with
    | element inner => exact ih h supplies
    | text run => exact ih h supplies
    | expression script =>
      rw [liftChildren_expression]
      exact ih (selectors.find?_choose_of_some supplies h _) _

/-- The element that lifting puts in the place of an expression: the reference with the data key
of the given number and the selector in use for what the expression calls. It holds the
expression with its insets lifted. -/
def Takes (dialect : Dialect) (inText : Bool) (selectors : Selectors) (keys : Supply)
    (script : Expression) (element : Element) (number : Nat) : Prop :=
  ∃ ledger selector, selectors.find? (dialect.calledProp? script.code) = some selector ∧
    element = reference
      ⟨script.code, (rewriteInsets (liftStep dialect) script.insets ledger).1, script.position⟩
      (keys.name number) selector inText

/-- Lifting children below which everything is lifted replaces all expressions among them, in
order, and numbers the references consecutively. -/
theorem liftChildren_replaces (dialect : Dialect) (inText : Bool) (children : List Node)
    (ledger : Ledger) (selectors : Selectors) (supplies : Supplies) :
    let seen := (rewriteNodes (liftStep dialect) children ledger).1
    let result := liftChildren dialect.calledProp? inText seen selectors supplies
    let pairs := replacedChildren children result.1
    pairs.map Prod.fst = scriptsAmong children ∧
      (∀ entry ∈ pairs.zipIdx supplies.dataKeys.issued,
        Takes dialect inText result.2.1 supplies.dataKeys entry.1.1 entry.1.2 entry.2) ∧
      result.2.2.dataKeys = supplies.dataKeys.advance (scriptsAmong children).length := by
  induction children generalizing ledger selectors supplies with
  | nil => exact ⟨rfl, by simp [rewriteNodes_nil, liftChildren, replacedChildren], rfl⟩
  | cons node rest ih =>
    cases node with
    | element inner =>
      obtain ⟨tag, attributes, children, position⟩ := inner
      rw [rewriteNodes_element]
      exact ih _ selectors supplies
    | text run => exact ih ledger selectors supplies
    | expression script =>
      obtain ⟨code, insets, position⟩ := script
      rw [rewriteNodes_expression]
      dsimp only
      rw [liftChildren_expression]
      dsimp only
      obtain ⟨hscripts, htakes, hkeys⟩ := ih (rewriteInsets (liftStep dialect) insets ledger).2
        (selectors.choose (dialect.calledProp? code) supplies).2.1
        { (selectors.choose (dialect.calledProp? code) supplies).2.2 with
          dataKeys := supplies.dataKeys.advance 1 }
      have hfirst := find?_liftChildren dialect.calledProp? inText
        (rewriteNodes (liftStep dialect) rest (rewriteInsets (liftStep dialect) insets ledger).2).1
        (selectors.find?_choose supplies (dialect.calledProp? code))
        { (selectors.choose (dialect.calledProp? code) supplies).2.2 with
          dataKeys := supplies.dataKeys.advance 1 }
      rw [replacedChildren, List.map_cons, hscripts, hkeys, List.zipIdx_cons, List.forall_mem_cons]
      refine ⟨rfl, ⟨⟨ledger, _, hfirst, rfl⟩, htakes⟩, ?_⟩
      rw [Supply.advance_advance, Nat.add_comm]
      rfl

/-- The selectors that the children of an element share once they are lifted. -/
def Element.sharedSelectors (dialect : Dialect) (element : Element) (supplies : Supplies) :
    Selectors :=
  if dialect.isComponent element.tag then .none
  else
    (liftChildren dialect.calledProp? (dialect.isText element) element.children .none supplies).2.1

/-- The element that the step is handed has the tag of the one there was. -/
theorem LiftedAt.tag {dialect : Dialect} {before after : Ledger} {old new : Element}
    (h : LiftedAt dialect before old new after) : (old.unlift new).tag = old.tag := by
  obtain ⟨first, second, hbelow⟩ := h.below
  rw [hbelow]

/-- A dialect that goes by tags sees the element that the step is handed like the one there was. -/
theorem LiftedAt.isText {dialect : Dialect} {before after : Ledger} {old new : Element}
    (h : LiftedAt dialect before old new after) (hd : dialect.ByTag) :
    dialect.isText (old.unlift new) = dialect.isText old :=
  hd _ _ h.tag

/-- Everything that lifting can do at an element: nothing if it is a component; else its children
are lifted. -/
theorem LiftedAt.step_cases {dialect : Dialect} {before after : Ledger} {old new : Element}
    (h : LiftedAt dialect before old new after) :
    let seen := old.unlift new
    (dialect.isComponent old.tag = true ∧ seen = new ∧ after = before ∧
      seen.sharedSelectors dialect before.supplies = .none) ∨
    (dialect.isComponent old.tag = false ∧ seen.lift dialect before = (new, after) ∧
      seen.sharedSelectors dialect before.supplies =
        (liftChildren dialect.calledProp? (dialect.isText seen) seen.children .none
          before.supplies).2.1) := by
  intro seen
  have hstep : liftStep dialect seen before = (new, after) := h.step
  have htag : seen.tag = old.tag := h.tag
  rw [liftStep, htag] at hstep
  rw [Element.sharedSelectors, htag]
  cases hc : dialect.isComponent old.tag with
  | true =>
    rw [hc] at hstep
    obtain ⟨hseen, hafter⟩ := Prod.mk.inj hstep
    exact .inl ⟨rfl, hseen, hafter.symm, rfl⟩
  | false =>
    rw [hc] at hstep
    exact .inr ⟨rfl, hstep, rfl⟩

/-- What lifting does to the expression children of an element: those that can be replaced are,
in order, by references that carry the next data keys. The text mark depends on the element that
the step was handed. -/
structure NumberedAt (dialect : Dialect) (before : Ledger) (old new : Element) (after : Ledger) :
    Prop where
  /-- The children replaced are the liftable ones. -/
  scripts : (replacedChildren old.children new.children).map Prod.fst = old.liftable dialect
  /-- Each is replaced by a reference with the next data key. -/
  takes : ∀ entry ∈ (replacedChildren old.children new.children).zipIdx
      before.supplies.dataKeys.issued,
    Takes dialect (dialect.isText (old.unlift new))
      ((old.unlift new).sharedSelectors dialect before.supplies) before.supplies.dataKeys
      entry.1.1 entry.1.2 entry.2
  /-- As many keys have been drawn. -/
  dataKeys : after.supplies.dataKeys =
    before.supplies.dataKeys.advance (old.liftable dialect).length

/-- At each parent of a run the data keys are numbered on. -/
theorem LiftedAt.numbered {dialect : Dialect} {before after : Ledger} {old new : Element}
    (h : LiftedAt dialect before old new after) : NumberedAt dialect before old new after := by
  obtain ⟨first, second, hbelow⟩ := h.below
  have hchildren : (old.unlift new).children =
      (rewriteNodes (liftStep dialect) old.children second).1 := by rw [hbelow]
  rcases h.step_cases with ⟨hc, hseen, rfl, -⟩ | ⟨hc, hlifted, hshared⟩
  · have hnone : replacedChildren old.children new.children = [] := by
      rw [hseen] at hchildren
      rw [hchildren]
      exact replacedChildren_eq_nil
        ((liftStep_keepsOutline dialect).isExpression old.children second)
    refine ⟨?_, ?_, ?_⟩
    · rw [hnone, Element.liftable, if_pos hc]
      rfl
    · rw [hnone]
      simp
    · rw [Element.liftable, if_pos hc]
      rfl
  · obtain ⟨hscripts, htakes, hkeys⟩ := liftChildren_replaces dialect
      (dialect.isText (old.unlift new)) old.children second .none before.supplies
    rw [← hchildren] at hscripts htakes hkeys
    rw [← hshared] at htakes
    have hliftable : old.liftable dialect = scriptsAmong old.children := by
      rw [Element.liftable, hc]
      rfl
    have hnew := congrArg (fun result => result.1.children) hlifted
    have hafter := congrArg (fun result => result.2.supplies.dataKeys) hlifted
    dsimp only [Element.lift] at hnew hafter
    rw [hnew] at hscripts htakes
    exact ⟨hscripts.trans hliftable.symm, htakes, by rw [← hafter, hkeys, hliftable]⟩

/-- Over a whole run the children replaced are the liftable ones of all elements, in order, and
the numbers of their data keys are consecutive. -/
theorem LiftRun.numbered {dialect : Dialect} {before after : Ledger}
    {pairs : List (Element × Element)} (h : LiftRun dialect before pairs after) :
    let changes := pairs.flatMap fun pair => pair.1.replacements pair.2
    changes.map (fun change => (change.parent, change.script)) =
        (pairs.map Prod.fst).flatMap
          (fun parent => (parent.liftable dialect).map fun script => (parent, script)) ∧
      (∀ entry ∈ changes.zipIdx before.supplies.dataKeys.issued, ∃ selectors,
        Takes dialect (dialect.isText (entry.1.parent.unlift entry.1.lifted)) selectors
          before.supplies.dataKeys entry.1.script entry.1.reference entry.2) ∧
      after.supplies.dataKeys = before.supplies.dataKeys.advance changes.length := by
  induction h with
  | nil ledger => exact ⟨rfl, by simp, rfl⟩
  | @cons before middle after old new rest h _ ih =>
    obtain ⟨hscripts, htakes, hkeys⟩ := ih
    have hhere := h.numbered
    have hlength : (old.replacements new).length = (old.liftable dialect).length := by
      rw [← hhere.scripts, Element.replacements, List.length_map, List.length_map]
    dsimp only at hscripts htakes hkeys ⊢
    rw [List.flatMap_cons, List.map_append, List.map_cons, List.flatMap_cons, hscripts,
      List.zipIdx_append, List.forall_mem_append, List.length_append, hlength]
    refine ⟨?_, ⟨?_, ?_⟩, ?_⟩
    · rw [← hhere.scripts, Element.replacements, List.map_map, List.map_map]
      rfl
    · rw [Element.replacements, List.zipIdx_map]
      intro entry hm
      obtain ⟨pair, hpair, rfl⟩ := List.mem_map.mp hm
      exact ⟨_, hhere.takes pair hpair⟩
    · rw [hhere.dataKeys] at htakes
      exact htakes
    · rw [hkeys, hhere.dataKeys, Supply.advance_advance]

/-- Over a run, each element has its liftable children replaced. -/
theorem LiftRun.replaced_scripts {dialect : Dialect} {before after : Ledger}
    {pairs : List (Element × Element)} (h : LiftRun dialect before pairs after) :
    ∀ pair ∈ pairs,
      (pair.1.replacements pair.2).map Replacement.script = pair.1.liftable dialect := by
  induction h with
  | nil ledger => simp
  | cons h _ ih =>
    refine List.forall_mem_cons.mpr ⟨?_, ih⟩
    rw [← h.numbered.scripts, Element.replacements, List.map_map]
    rfl

/-- The dialect's view of the parent of a replaced child. -/
theorem LiftRun.isText {dialect : Dialect} {before after : Ledger}
    {pairs : List (Element × Element)} (h : LiftRun dialect before pairs after)
    (hd : dialect.ByTag) :
    ∀ pair ∈ pairs, dialect.isText (pair.1.unlift pair.2) = dialect.isText pair.1 := by
  induction h with
  | nil ledger => simp
  | cons h _ ih => exact List.forall_mem_cons.mpr ⟨h.isText hd, ih⟩

/-- Data keys are numbered exactly: list the expression children of all elements that are no
components, elements in post-order and the children of one element in document order. Lifting
replaces the children in this list, and the number of each one's data key is its place in the
list, counted from the number of keys handed out before. What takes the place of a child is a
template without children at the child's position with exactly the attributes given here; it
holds the child's expression with its insets lifted, and is marked if the parent, below which
everything has been lifted, is a text container. Dialects that go by tags see the same in the
parent as it was. -/
theorem extract_numbers_keys (dialect : Dialect) (document : Document)
    (selectors propSelectors : Supply) (registry : Registry) (k : Nat) :
    let result := (document.extract dialect).run ⟨⟨selectors, ⟨"cd", k⟩, propSelectors⟩, registry⟩
    let changes := replacementsIn document.nodes result.1.nodes
    changes.map (fun change => (change.parent, change.script)) = liftableIn dialect document.nodes ∧
      (∀ entry ∈ changes.zipIdx k, ∃ selector ledger,
        let change := entry.1
        let key := "cd" ++ toString entry.2
        change.reference =
          ⟨"template",
            [⟨"datakey", .static key, .unknown⟩,
              ⟨"tempVnode", .dynamic ⟨change.script.code,
                (rewriteInsets (liftStep dialect) change.script.insets ledger).1,
                change.script.position⟩, change.script.position⟩,
              ⟨"wx:if", .static ("\x7b\x7b" ++ key ++ "\x7d\x7d !== undefined"), .unknown⟩,
              ⟨"is", .static selector, .unknown⟩,
              ⟨"data", .static ("\x7b\x7bd: " ++ key ++ "\x7d\x7d"), .unknown⟩] ++
              if dialect.isText (change.parent.unlift change.lifted) then
                [⟨"isTextElement", .bare, .unknown⟩] else [],
            [], change.script.position⟩) ∧
      (dialect.ByTag → ∀ change ∈ changes,
        dialect.isText (change.parent.unlift change.lifted) = dialect.isText change.parent) ∧
      result.2.supplies.dataKeys = ⟨"cd", k + (liftableIn dialect document.nodes).length⟩ := by
  intro result changes
  obtain ⟨hrun, hparents⟩ := (lift_run dialect).nodes document.nodes
    ⟨⟨selectors, ⟨"cd", k⟩, propSelectors⟩, registry⟩
  obtain ⟨hscripts, htakes, hkeys⟩ := hrun.numbered
  have hlisted : changes.map (fun change => (change.parent, change.script)) =
      liftableIn dialect document.nodes := by
    rw [liftableIn, ← hparents]
    exact hscripts
  refine ⟨hlisted, ?_, ?_, ?_⟩
  · intro entry hm
    obtain ⟨shared, ledger, selector, -, hreference⟩ := htakes entry hm
    exact ⟨selector, ledger, hreference⟩
  · intro hd change hm
    obtain ⟨pair, hpair, hchange⟩ := List.mem_flatMap.mp hm
    obtain ⟨_, -, rfl⟩ := List.mem_map.mp hchange
    exact hrun.isText hd pair hpair
  · rw [← hlisted, List.length_map]
    exact hkeys

end MiniTemplate
