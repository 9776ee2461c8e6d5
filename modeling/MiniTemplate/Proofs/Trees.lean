import MiniTemplate.Template.Basic

/-!
# Induction over component trees

Nodes, attributes and insets hold each other, so a statement about whole trees
comes as three statements that are proved together. `TreeInduction` lists what has
to be shown, one field for each way a list of parts is built; `OuterInduction` is for
statements that do not look into expressions. The module also lists
every element and every expression of a tree, at any depth, and says what is left of an
element when everything below it is forgotten.
-/

namespace MiniTemplate

/-- What makes three properties hold of all nodes, all attributes and all insets. -/
structure TreeInduction (ofNodes : List Node → Prop) (ofAttributes : List Attribute → Prop)
    (ofInsets : List Inset → Prop) : Prop where
  /-- No nodes. -/
  noNodes : ofNodes []
  /-- An element in front, with its attributes and children. -/
  element (tag : String) (attributes : List Attribute) (children : List Node) (position : Position)
    (rest : List Node) : ofAttributes attributes → ofNodes children → ofNodes rest →
      ofNodes (.element ⟨tag, attributes, children, position⟩ :: rest)
  /-- A run of text in front. -/
  text (run : TextRun) (rest : List Node) : ofNodes rest → ofNodes (.text run :: rest)
  /-- An expression in front, with its insets. -/
  expression (code : String) (insets : List Inset) (position : Position) (rest : List Node) :
    ofInsets insets → ofNodes rest → ofNodes (.expression ⟨code, insets, position⟩ :: rest)
  /-- No attributes. -/
  noAttributes : ofAttributes []
  /-- A bare attribute in front. -/
  bare (name : String) (position : Position) (rest : List Attribute) :
    ofAttributes rest → ofAttributes (⟨name, .bare, position⟩ :: rest)
  /-- A fixed attribute in front. -/
  static (name text : String) (position : Position) (rest : List Attribute) :
    ofAttributes rest → ofAttributes (⟨name, .static text, position⟩ :: rest)
  /-- An attribute with an expression in front. -/
  dynamic (name code : String) (insets : List Inset) (place position : Position)
    (rest : List Attribute) : ofInsets insets → ofAttributes rest →
      ofAttributes (⟨name, .dynamic ⟨code, insets, place⟩, position⟩ :: rest)
  /-- No insets. -/
  noInsets : ofInsets []
  /-- An inset in front, with its nodes. -/
  inset (start stop : UInt32) (fragment : Bool) (nodes : List Node) (rest : List Inset) :
    ofNodes nodes → ofInsets rest → ofInsets (⟨start, stop, fragment, nodes⟩ :: rest)

namespace TreeInduction

variable {ofNodes : List Node → Prop} {ofAttributes : List Attribute → Prop}
  {ofInsets : List Inset → Prop}

mutual
/-- The property of nodes holds of all of them. -/
theorem nodes (h : TreeInduction ofNodes ofAttributes ofInsets) : ∀ nodes, ofNodes nodes
  | [] => h.noNodes
  | .element ⟨tag, attributes, children, position⟩ :: rest =>
    h.element tag attributes children position rest (h.attributes attributes) (h.nodes children)
      (h.nodes rest)
  | .text run :: rest => h.text run rest (h.nodes rest)
  | .expression ⟨code, insets, position⟩ :: rest =>
    h.expression code insets position rest (h.insets insets) (h.nodes rest)
/-- The property of attributes holds of all of them. -/
theorem attributes (h : TreeInduction ofNodes ofAttributes ofInsets) :
    ∀ attributes, ofAttributes attributes
  | [] => h.noAttributes
  | ⟨name, .bare, position⟩ :: rest => h.bare name position rest (h.attributes rest)
  | ⟨name, .static text, position⟩ :: rest => h.static name text position rest (h.attributes rest)
  | ⟨name, .dynamic ⟨code, insets, place⟩, position⟩ :: rest =>
    h.dynamic name code insets place position rest (h.insets insets) (h.attributes rest)
/-- The property of insets holds of all of them. -/
theorem insets (h : TreeInduction ofNodes ofAttributes ofInsets) : ∀ insets, ofInsets insets
  | [] => h.noInsets
  | ⟨start, stop, fragment, nodes⟩ :: rest =>
    h.inset start stop fragment nodes rest (h.nodes nodes) (h.insets rest)
end

end TreeInduction

/-- What makes a property of nodes hold that depends on their outer trees only. -/
structure OuterInduction (ofNodes : List Node → Prop) : Prop where
  /-- No nodes. -/
  noNodes : ofNodes []
  /-- An element in front, with its children. -/
  element (tag : String) (attributes : List Attribute) (children : List Node) (position : Position)
    (rest : List Node) : ofNodes children → ofNodes rest →
      ofNodes (.element ⟨tag, attributes, children, position⟩ :: rest)
  /-- A run of text in front. -/
  text (run : TextRun) (rest : List Node) : ofNodes rest → ofNodes (.text run :: rest)
  /-- An expression in front. -/
  expression (code : String) (insets : List Inset) (position : Position) (rest : List Node) :
    ofNodes rest → ofNodes (.expression ⟨code, insets, position⟩ :: rest)

/-- The property holds of all nodes. -/
theorem OuterInduction.nodes {ofNodes : List Node → Prop} (h : OuterInduction ofNodes) :
    ∀ nodes, ofNodes nodes := by
  have tree : TreeInduction ofNodes (fun _ => True) (fun _ => True) := {
    noNodes := h.noNodes
    element tag attributes children position rest _ := h.element tag attributes children position rest
    text := h.text
    expression code insets position rest _ := h.expression code insets position rest
    noAttributes := trivial
    bare _ _ _ _ := trivial
    static _ _ _ _ _ := trivial
    dynamic _ _ _ _ _ _ _ _ := trivial
    noInsets := trivial
    inset _ _ _ _ _ _ _ := trivial }
  exact tree.nodes

/-- The element that a node is. -/
def Node.element? : Node → Option Element
  | .element inner => some inner
  | _ => none

mutual
/-- Every element of trees: an element comes before those in its attributes, and these
before those below its children. -/
def elementsIn : List Node → List Element
  | [] => []
  | node :: rest => Node.elements node ++ elementsIn rest
/-- Every element of a tree. -/
def Node.elements : Node → List Element
  | .element ⟨tag, attributes, children, position⟩ =>
    ⟨tag, attributes, children, position⟩ :: (elementsInAttributes attributes ++ elementsIn children)
  | .text _ => []
  | .expression ⟨_, insets, _⟩ => elementsInInsets insets
/-- Every element inside the expressions of attributes. -/
def elementsInAttributes : List Attribute → List Element
  | [] => []
  | ⟨_, .bare, _⟩ :: rest => elementsInAttributes rest
  | ⟨_, .static _, _⟩ :: rest => elementsInAttributes rest
  | ⟨_, .dynamic ⟨_, insets, _⟩, _⟩ :: rest => elementsInInsets insets ++ elementsInAttributes rest
/-- Every element of insets. -/
def elementsInInsets : List Inset → List Element
  | [] => []
  | ⟨_, _, _, nodes⟩ :: rest => elementsIn nodes ++ elementsInInsets rest
end

mutual
/-- Every expression of trees, at any depth: an expression comes before those in its insets. -/
def expressionsIn : List Node → List Expression
  | [] => []
  | node :: rest => Node.expressions node ++ expressionsIn rest
/-- Every expression of a tree. -/
def Node.expressions : Node → List Expression
  | .element ⟨_, attributes, children, _⟩ =>
    expressionsInAttributes attributes ++ expressionsIn children
  | .text _ => []
  | .expression ⟨code, insets, position⟩ => ⟨code, insets, position⟩ :: expressionsInInsets insets
/-- Every expression of attributes. -/
def expressionsInAttributes : List Attribute → List Expression
  | [] => []
  | ⟨_, .bare, _⟩ :: rest => expressionsInAttributes rest
  | ⟨_, .static _, _⟩ :: rest => expressionsInAttributes rest
  | ⟨_, .dynamic ⟨code, insets, place⟩, _⟩ :: rest =>
    ⟨code, insets, place⟩ :: (expressionsInInsets insets ++ expressionsInAttributes rest)
/-- Every expression inside insets. -/
def expressionsInInsets : List Inset → List Expression
  | [] => []
  | ⟨_, _, _, nodes⟩ :: rest => expressionsIn nodes ++ expressionsInInsets rest
end

/-- The expressions in an element are those in its attributes and its children. -/
theorem expressions_element (element : Element) :
    (Node.element element).expressions =
      expressionsInAttributes element.attributes ++ expressionsIn element.children := by
  obtain ⟨tag, attributes, children, position⟩ := element
  rw [Node.expressions]

/-- A document is free of references when no element in it, however deep, is one. -/
def Document.ReferenceFree (document : Document) : Prop :=
  ∀ element ∈ elementsIn document.nodes, element.isReference = false

instance (document : Document) : Decidable document.ReferenceFree :=
  inferInstanceAs (Decidable (∀ element ∈ elementsIn document.nodes, element.isReference = false))

/-- A document with expressions in every place they can stand: at the root, below an
element, below a component, in an attribute and inside other expressions. -/
def layeredDocument : Document where
  path := "page.jsx"
  nodes := [
    .element ⟨"view",
      [⟨"footer", .dynamic ⟨"make(<b>\x7bp\x7d</b>)",
        [⟨5, 15, false, [.element ⟨"b", [], [.expression ⟨"p", [], .unknown⟩], .unknown⟩]⟩],
        .unknown⟩, .unknown⟩],
      [.text ⟨"Hello", .unknown⟩,
        .expression ⟨"ok && <text>\x7bname\x7d</text>",
          [⟨6, 25, false, [.element ⟨"text", [], [.expression ⟨"name", [], .unknown⟩], .unknown⟩]⟩],
          .unknown⟩,
        .element ⟨"rowCPT", [], [.expression ⟨"row", [], .unknown⟩], .unknown⟩,
        .expression ⟨"props.render()", [], .unknown⟩],
      .unknown⟩,
    .expression ⟨"late", [], .unknown⟩]

/-- Whether a node is an expression. -/
def Node.isExpression : Node → Bool
  | .expression _ => true
  | _ => false

/-- A value without the insets of its expression. -/
def Value.outline : Value → Value
  | .dynamic expression => .dynamic ⟨expression.code, [], expression.position⟩
  | value => value

/-- An attribute without the insets of its expression. -/
def Attribute.outline (entry : Attribute) : Attribute := { entry with value := entry.value.outline }

namespace Element

/-- An element without anything below it. -/
def outline (element : Element) : Element :=
  ⟨element.tag, element.attributes.map Attribute.outline, [], element.position⟩

/-- An attribute is looked up in an outline by name, as in the element. -/
theorem lookup?_outline (element : Element) (name : String) :
    element.outline.lookup? name = (element.lookup? name).map Attribute.outline := by
  unfold lookup? outline
  rw [List.find?_map]
  rfl

@[simp] theorem hasAttribute_outline (element : Element) (name : String) :
    element.outline.hasAttribute name = element.hasAttribute name := by
  unfold hasAttribute
  rw [lookup?_outline, Option.isSome_map]

@[simp] theorem staticText?_outline (element : Element) (name : String) :
    element.outline.staticText? name = element.staticText? name := by
  unfold staticText?
  rw [lookup?_outline]
  rcases element.lookup? name with _ | ⟨_, value, _⟩
  · rfl
  · cases value <;> rfl

@[simp] theorem isReference_outline (element : Element) :
    element.outline.isReference = element.isReference := by
  unfold isReference
  rw [hasAttribute_outline, hasAttribute_outline]
  rfl

/-- Elements with one outline have the same texts. -/
theorem staticText?_congr {a b : Element} (h : a.outline = b.outline) (name : String) :
    a.staticText? name = b.staticText? name := by
  rw [← staticText?_outline a, h, staticText?_outline]

/-- Elements with one outline are references or not together. -/
theorem isReference_congr {a b : Element} (h : a.outline = b.outline) :
    a.isReference = b.isReference := by
  rw [← isReference_outline a, h, isReference_outline]

/-- A template with a fixed data key is a reference. -/
theorem isReference_of_key {element : Element} {key : String} (ht : element.tag = templateTag)
    (hk : element.staticText? dataKeyName = some key) : element.isReference = true := by
  have hl : element.hasAttribute dataKeyName = true := by
    unfold staticText? at hk
    unfold hasAttribute
    cases hf : element.lookup? dataKeyName with
    | none => simp [hf] at hk
    | some entry => rfl
  simp [isReference, ht, hl]

/-- A template that is no reference has no data key. -/
theorem staticText?_of_not_reference {element : Element} (ht : element.tag = templateTag)
    (hr : element.isReference = false) : element.staticText? dataKeyName = none := by
  cases hk : element.staticText? dataKeyName with
  | none => rfl
  | some key =>
    rw [isReference_of_key ht hk] at hr
    contradiction

end Element

/-- A node without anything below it. -/
def Node.outline : Node → Node
  | .element parent => .element parent.outline
  | .text run => .text run
  | .expression script => .expression ⟨script.code, [], script.position⟩

/-- Nodes with the same outlines hold the same elements, as seen from the list. -/
theorem exists_element_of_outline {nodes nodes' : List Node} {element : Element}
    (h : nodes.map Node.outline = nodes'.map Node.outline) (hm : .element element ∈ nodes) :
    ∃ element', .element element' ∈ nodes' ∧ element'.outline = element.outline := by
  have ho : Node.element element.outline ∈ nodes'.map Node.outline :=
    h ▸ List.mem_map_of_mem hm
  obtain ⟨node, hn, he⟩ := List.mem_map.mp ho
  cases node with
  | element element' => exact ⟨element', hn, Node.element.inj he⟩
  | text run => simp [Node.outline] at he
  | expression script => simp [Node.outline] at he

/-- The elements in a list of nodes are elements of its trees. -/
theorem mem_elementsIn {nodes : List Node} {element : Element} (h : .element element ∈ nodes) :
    element ∈ elementsIn nodes := by
  induction nodes with
  | nil => simp at h
  | cons node rest ih =>
    rw [elementsIn]
    rcases List.mem_cons.mp h with rfl | h
    · obtain ⟨tag, attributes, children, position⟩ := element
      simp [Node.elements]
    · exact List.mem_append_right _ (ih h)

end MiniTemplate
