import MiniTemplate.Template.Basic
import MiniTemplate.Script.PropCall

/-!
# Dialects of component trees

What a tree means to the compiler: which elements are components that keep their
children to themselves, which are containers that hold text only, and which pieces
of code do nothing but call a property.
-/

namespace MiniTemplate

/-- What the elements of a tree mean, and the code in it. -/
structure Dialect where
  /-- Whether a tag names a component, whose children are left alone. -/
  isComponent : String → Bool
  /-- Whether an element may hold text only. -/
  isText : Element → Bool
  /-- The property that a piece of code calls. -/
  calledProp? : String → Option String

/-- The tags of text containers unless others are given. -/
def defaultTextTags : List String := ["text", "Text", "label"]

/-- The suffix that names of components have unless another is given, and that names of
components passed as properties always have. -/
def componentSuffix : String := "CPT"

/-- Whether a tag ends in a suffix and is longer than it; no tag ends in an empty suffix. -/
def hasSuffix (suffix tag : String) : Bool :=
  suffix != "" && tag != suffix && suffix.toList.isSuffixOf tag.toList

/-- The dialect given by the tags of text containers and the suffix of components. Code is read
as a script. -/
def Dialect.ofTags (textTags : List String) (suffix : String) : Dialect where
  isComponent tag := hasSuffix suffix tag
  isText element := textTags.contains element.tag
  calledProp? := Script.calledProp?

/-- The dialect used unless another is given. -/
def Dialect.standard : Dialect := .ofTags defaultTextTags componentSuffix

end MiniTemplate
