import PatternAlgebra.Pattern.Combination
import PatternAlgebra.Proofs.Pattern.Grouping

/-!
# What combining does to the text

Concatenation puts texts and names one after the other.  Alternation puts a
bar between the arms of its sides and a plain group around them, and there are
no names on either side.
-/

namespace PatternAlgebra.Pattern

open Text

variable {pattern whole : Pattern} {other : Operand}

theorem concat_eq_ok (result : pattern.concat other = .ok whole) :
    whole.chars = pattern.chars ++ other.toPattern.chars ∧
      whole.names = pattern.names ++ other.toPattern.names ∧
      ∀ name ∈ pattern.names, name ∉ other.toPattern.names := by
  simp only [concat] at result
  split at result
  · cases result
  · rename_i noCollision
    cases result
    have disjoint : ∀ name ∈ pattern.names, name ∉ other.toPattern.names := by
      intro name member
      simpa [hasName] using List.find?_eq_none.mp noCollision name member
    exact ⟨by simp [chars, text], rfl, disjoint⟩

/-- Operands without a common name are concatenated. -/
theorem exists_concat (disjoint : ∀ name ∈ pattern.names, name ∉ other.toPattern.names) :
    ∃ whole, pattern.concat other = .ok whole := by
  have noCollision : pattern.names.find? other.toPattern.hasName = none := by
    rw [List.find?_eq_none]
    intro name member
    simpa [hasName] using disjoint name member
  rw [concat, noCollision]
  exact ⟨_, rfl⟩

theorem chars_branch (pattern : Pattern) : (pattern.branch).text.toList = arm pattern.chars := by
  unfold branch arm
  rw [shape_eq]
  split
  · rw [Rope.text_single, inside, String.toList_ofList]
    rfl
  · rfl

theorem alternate_eq_ok (result : pattern.alternate other = .ok whole) :
    whole.chars = Opening.plain.enclose (arm pattern.chars ++ '|' :: arm other.toPattern.chars) ∧
      whole.names = [] ∧ pattern.names = [] ∧ other.toPattern.names = [] := by
  simp only [alternate] at result
  split_ifs at result with noNames
  cases result
  have namesEmpty := List.append_eq_nil_iff.mp (List.isEmpty_iff.mp noNames)
  constructor
  · rw [← chars_branch, ← chars_branch]
    simp [chars, text, Opening.enclose, Opening.mark, parenthesized]
  · exact ⟨rfl, namesEmpty.1, namesEmpty.2⟩

theorem chars_append (pattern : Pattern) (tail : Constant) :
    (pattern.append tail).chars = pattern.chars ++ tail.text.toList := by
  have tailText : tail.pattern.rope.text = tail.text := Rope.text_single tail.text
  simp [append, mapRope, chars, text, tailText]

theorem names_append (pattern : Pattern) (tail : Constant) :
    (pattern.append tail).names = pattern.names :=
  rfl

end PatternAlgebra.Pattern
