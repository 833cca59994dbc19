import PatternAlgebra.Construction
import PatternAlgebra.Proofs.Pattern.Combination
import PatternAlgebra.Proofs.Pattern.Quantified

/-!
# What operations do to texts

An operation on a pattern that succeeds rewrites its text and its names in a
way that depends on nothing else.  What every rewriting of a text preserves is
therefore preserved by all operations.
-/

namespace PatternAlgebra.Transform

open Text

/-- How an operation rewrites a text and the names that are kept beside it. -/
inductive Rewrites (text : List Char) (names : List String) :
    Transform → List Char → List String → Prop where
  | toCaptureGroup :
      Rewrites text names toCaptureGroup (Opening.capture.enclose (core text)) names
  | toNonCaptureGroup : Rewrites text names toNonCaptureGroup (atom text) names
  | toNamedCaptureGroup {name : String} : isGroupName name.toList = true → name ∉ names →
      Rewrites text names (toNamedCaptureGroup name)
        ((Opening.named name.toList).enclose (core text)) (names ++ [name])
  | toLookaround (side : Lookaround) :
      Rewrites text names (toLookaround side) ((Opening.look side).enclose text) names
  | quantify {quantifier : Quantifier} : ¬ EndsInRepetition text → quantifier.IsOrdered →
      Rewrites text names (quantify quantifier) (atom text ++ quantifier.suffix.toList) names
  | lazily : EndsInRepetition text → ¬ EndsInLazyMark text →
      Rewrites text names lazily (text ++ ['?']) names
  | append (tail : Constant) :
      Rewrites text names (append tail) (text ++ tail.text.toList) names

theorem rewrites_of_apply {operation : Transform} {before pattern : Pattern}
    (result : operation.apply before = .ok pattern) :
    operation.Rewrites before.chars before.names pattern.chars pattern.names := by
  cases operation with
  | toCaptureGroup =>
      obtain ⟨charsEq, namesEq⟩ := Pattern.toCaptureGroup_eq_ok result
      rw [charsEq, namesEq]
      exact .toCaptureGroup
  | toNonCaptureGroup =>
      obtain ⟨charsEq, namesEq⟩ := Pattern.toNonCaptureGroup_eq_ok result
      rw [charsEq, namesEq]
      exact .toNonCaptureGroup
  | toNamedCaptureGroup name =>
      obtain ⟨isName, fresh, charsEq, namesEq⟩ := Pattern.toNamedCaptureGroup_eq_ok result
      rw [charsEq, namesEq]
      exact .toNamedCaptureGroup isName fresh
  | toLookaround side =>
      obtain rfl := Except.ok.inj result
      rw [Pattern.chars_toLookaround, Pattern.names_toLookaround]
      exact .toLookaround side
  | quantify quantifier =>
      obtain ⟨notRepeating, ordered, charsEq, namesEq⟩ := Pattern.quantify_eq_ok result
      rw [charsEq, namesEq]
      exact .quantify notRepeating ordered
  | lazily =>
      obtain ⟨repeating, notLazy, charsEq, namesEq⟩ := Pattern.lazily_eq_ok result
      rw [charsEq, namesEq]
      exact .lazily repeating notLazy
  | append tail =>
      obtain rfl := Except.ok.inj result
      rw [Pattern.chars_append, Pattern.names_append]
      exact .append tail

end PatternAlgebra.Transform
