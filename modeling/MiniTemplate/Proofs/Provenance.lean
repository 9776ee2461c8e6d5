import MiniTemplate.Compiler
import MiniTemplate.Proofs.Frames
import MiniTemplate.Proofs.Sites
import MiniTemplate.Proofs.Slices

/-!
# Where the code of bindings comes from

Every expression of a document that is read from a source carries a piece of the source text.
The passes keep these pieces, so the code of a binding is a piece of the source with its
insets written anew, and the piece itself where there are none. Written anew, an expression
stands between its braces without the blanks at its ends; where its last line ends in a
comment, the comment then takes in the brace.
-/

namespace MiniTemplate

open Script Text

/-- An expression whose text is a piece of the source. -/
def Source.Holds (source : Source) (script : Expression) : Prop :=
  script.code.toList <:+: source.text

/-- The trimmed text of a span is a piece of the source. -/
theorem Source.trimmed_piece (source : Source) (span : Span) :
    (source.trimmed span).1.toList <:+: source.text := by
  unfold trimmed
  dsimp only
  rw [String.toList_ofList]
  exact (trim_piece _).trans (slice_piece _ _ _)

/-- The expressions of a document that is read from a source are pieces of the source. -/
theorem document_holds {source : Source} {document : Document} {warnings : List Diagnostic}
    (h : source.document = .ok (document, warnings)) :
    ∀ script ∈ expressionsIn document.nodes, source.Holds script := by
  unfold Source.document at h
  cases hp : Program.parse? source.text with
  | none =>
    rw [hp] at h
    cases h
  | some program =>
    rw [hp] at h
    have hquotes := (documentOf_mirrors h).quotes
    have hholds : ∀ script quote, source.Quotes script quote →
        source.Holds script ∧ source.Quotes script quote := by
      intro script quote hquote
      refine ⟨?_, hquote⟩
      unfold Source.Holds
      rw [hquote.code]
      exact source.trimmed_piece quote.span
    exact ((List.forall₂_and_left _ _).mp (hquotes.imp hholds)).1

/-- Compiling reads a document and lowers it. -/
theorem compile_ok {options : Options} {text : String} {output : Output}
    (h : options.compile text = .ok output) :
    ∃ document warnings, (Source.mk options.path text.toList).document = .ok (document, warnings) ∧
      (document.lower options.dialect options.inlines .fresh).outcome = .ok output.bindings := by
  unfold Options.compile at h
  cases hd : (Source.mk options.path text.toList).document with
  | error diagnostic =>
    rw [hd] at h
    cases h
  | ok step =>
    obtain ⟨document, warnings⟩ := step
    rw [hd] at h
    dsimp only [bind, Except.bind] at h
    cases ho : (document.lower options.dialect options.inlines .fresh).outcome with
    | error diagnostic =>
      rw [ho] at h
      cases h
    | ok bindings =>
      rw [ho] at h
      refine ⟨document, warnings, rfl, ?_⟩
      rw [ho, ← Except.ok.inj h]

/-- The code of an expression without insets is its text. -/
theorem source_of_no_insets (script : Expression) (h : script.insets = []) :
    script.source = script.code := by
  unfold Expression.source
  rw [h, insetPatches, splice, sliceFrom, dropBytes?]
  exact String.ofList_toList

/-- The code of a binding is a piece of the source text, the text of an expression that was read
there, in which only the insets are written anew, each at its place. Without insets the piece is
kept as it stands. -/
theorem compile_code_from_source (options : Options) (text : String) (output : Output)
    (hok : options.compile text = .ok output) :
    ∃ document warnings, (Source.mk options.path text.toList).document = .ok (document, warnings) ∧
      ∀ binding ∈ output.bindings, ∃ script ∈ expressionsIn document.nodes,
        script.code.toList <:+: text.toList ∧ binding.position = script.position ∧
          (∃ insets : List Inset, insets.map Inset.frame = script.insets.map Inset.frame ∧
            binding.code = Expression.source ⟨script.code, insets, script.position⟩) ∧
          (script.insets = [] → binding.code = script.code) := by
  obtain ⟨document, warnings, hread, hlower⟩ := compile_ok hok
  refine ⟨document, warnings, hread, fun binding hm => ?_⟩
  obtain ⟨⟨code, insets, position⟩, hframe, hcode, hposition⟩ := lower_framed hlower binding hm
  obtain ⟨script, hs, he⟩ := List.mem_map.mp hframe
  obtain ⟨hsame, hinsets, hplace⟩ := Expression.mk.inj he
  dsimp only at hsame hinsets hplace hposition
  subst hsame hplace
  refine ⟨script, hs, document_holds hread script hs, hposition, ⟨insets, hinsets.symm, hcode⟩, ?_⟩
  intro hnone
  have hempty : insets = [] := by
    rw [hnone, List.map_nil] at hinsets
    exact List.map_eq_nil_iff.mp hinsets.symm
  rw [hcode, source_of_no_insets _ hempty]

/-- A source with an expression inside another one and one that stands alone. -/
def greetingSource : String :=
  "<view>\x7bok && <text>\x7b name \x7d</text>\x7d\x7b late \x7d</view>"

example : (({} : Options).compile greetingSource).toOption.map
    (fun output => output.bindings.map Binding.code) =
      some ["ok && <text>\x7b\x7bcd0\x7d\x7d</text>", "late"] := by
  decide +kernel

/-- A source in which a comment ends the last line of an expression. -/
def commentedSource : String :=
  "<view>\x7bok && <view>\x7ba // c\n\x7d</view>\x7d</view>"

/-- The code of its binding, for a text behind the expression that has the comment. -/
def commentedCode (behind : String) : String :=
  "ok && <view><template datakey=\"cd0\" tempVnode=\x7ba // c" ++ behind ++
    "\x7d wx:if=\"\x7b\x7bcd0\x7d\x7d !== undefined\" is=\"child0\" data=\"\x7b\x7bd: cd0\x7d\x7d\" /></view>"

/-- Markup that shows an expression. -/
def shownCode (code : String) : Source :=
  ⟨"test.jsx", ("<v>\x7b" ++ code ++ "\n\x7d</v>").toList⟩

/-- The code of a binding need not be an expression again: the brace that is written behind an
expression falls into its last comment. With a line break between them it would be one. -/
theorem compile_code_unreadable :
    (({} : Options).compile commentedSource).toOption.map
        (fun output => output.bindings.map Binding.code) = some [commentedCode ""] ∧
      (shownCode (commentedCode "")).document =
        .error (Cause.malformed.diagnose "test.jsx" .first) ∧
      (shownCode (commentedCode "\n")).document.toOption.isSome = true := by
  have hnone : (Program.parse? (shownCode (commentedCode "")).text).isNone = true := by
    decide +kernel
  refine ⟨by decide +kernel, ?_, by decide +kernel⟩
  unfold Source.document
  rw [Option.isNone_iff_eq_none.mp hnone]
  rfl

end MiniTemplate
