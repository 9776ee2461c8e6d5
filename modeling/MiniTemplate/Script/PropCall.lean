import MiniTemplate.Script.Program

/-!
# Calls of a property

A script that does nothing but call a property of `props` or of `this.props`.
-/

namespace MiniTemplate.Script

/-- Whether a term is `props` or `this.props`. -/
def Term.isProps : Term → Bool
  | .name text => text == "props"
  | .member .this property => property == "props"
  | _ => false

/-- The property that a term calls, looking through parentheses around the call. -/
def Term.calledProp? : Term → Option String
  | .group inner => inner.calledProp?
  | .call (.member object property) _ => if object.isProps then some property else none
  | _ => none

/-- The property that a script calls, if that is its only statement behind directives. -/
def Program.calledProp? (program : Program) : Option String :=
  match program.body with
  | [.expression term] => term.calledProp?
  | _ => none

/-- The property that a piece of code calls, if it is such a script. -/
def calledProp? (code : String) : Option String :=
  (Program.parse? code.toList).bind Program.calledProp?

end MiniTemplate.Script
