import PatternAlgebra.Proofs.Construction.Run
import PatternAlgebra.Proofs.Rope.Measured

/-!
# Constructions measure their ropes

Every value that a construction produces holds a rope whose nodes record the
true numbers.  Equality of such patterns, which compares the recorded numbers
first, is therefore equality of their texts.
-/

namespace PatternAlgebra

namespace Pattern

/-- The rope of the pattern is measured. -/
def IsMeasured (pattern : Pattern) : Prop :=
  pattern.rope.IsMeasured

theorem beq_iff {first second : Pattern} (firstMeasured : first.IsMeasured)
    (secondMeasured : second.IsMeasured) : (first == second) = true ↔ first.text = second.text := by
  have unfolded : (first == second) =
      (first.rope.byteLength == second.rope.byteLength && first.text == second.text) := rfl
  rw [unfolded, Bool.and_eq_true, beq_iff_eq, beq_iff_eq, firstMeasured.byteLength_eq,
    secondMeasured.byteLength_eq]
  constructor
  · exact And.right
  · intro sameText
    exact ⟨congrArg (fun text => text.utf8ByteSize % UInt64.size) sameText, sameText⟩

/-! ## Operations -/

theorem isMeasured_literal (text : String) : (literal text).IsMeasured :=
  Rope.isMeasured_single text

theorem isMeasured_regroup (pattern : Pattern) (opening body : String) :
    (pattern.regroup opening body).IsMeasured :=
  (Rope.isMeasured_single body).surround opening ")"

theorem isMeasured_bracket (opening : String) (members : List (List Char)) :
    (bracket opening members).IsMeasured :=
  ((Rope.isMeasured_single opening).foldl_push
    (fun member => String.ofList (memberText member)) members).push "]"

namespace IsMeasured

variable {pattern result : Pattern}

theorem enclose (measured : pattern.IsMeasured) (opening : String) :
    (pattern.enclose opening).IsMeasured :=
  Rope.IsMeasured.surround measured opening ")"

theorem branch (measured : pattern.IsMeasured) : pattern.branch.IsMeasured := by
  unfold Pattern.branch
  split
  · exact Rope.isMeasured_single _
  · exact measured

theorem toCaptureGroup (measured : pattern.IsMeasured)
    (accepted : pattern.toCaptureGroup = .ok result) : result.IsMeasured := by
  unfold Pattern.toCaptureGroup at accepted
  split at accepted <;> cases accepted
  · exact measured
  · exact isMeasured_regroup pattern _ _
  · exact measured.enclose _

theorem toNonCaptureGroup (measured : pattern.IsMeasured)
    (accepted : pattern.toNonCaptureGroup = .ok result) : result.IsMeasured := by
  unfold Pattern.toNonCaptureGroup at accepted
  split at accepted <;> cases accepted
  · exact measured
  · exact measured
  · exact measured
  · exact isMeasured_regroup pattern _ _
  · exact measured.enclose _

theorem toNamedCaptureGroup (measured : pattern.IsMeasured) {name : String}
    (accepted : pattern.toNamedCaptureGroup name = .ok result) : result.IsMeasured := by
  unfold Pattern.toNamedCaptureGroup at accepted
  split_ifs at accepted
  cases accepted
  simp only [Pattern.IsMeasured]
  split
  · exact isMeasured_regroup pattern _ _
  · exact isMeasured_regroup pattern _ _
  · exact measured.enclose _

theorem quantify (measured : pattern.IsMeasured) {quantifier : Quantifier}
    (accepted : pattern.quantify quantifier = .ok result) : result.IsMeasured := by
  unfold Pattern.quantify at accepted
  split at accepted
  · cases accepted
  · split at accepted
    · cases accepted
    · cases accepted
      exact Rope.IsMeasured.push (measured.toNonCaptureGroup ‹_›) _

theorem lazily (measured : pattern.IsMeasured) (accepted : pattern.lazily = .ok result) :
    result.IsMeasured := by
  unfold Pattern.lazily at accepted
  split_ifs at accepted
  cases accepted
  exact Rope.IsMeasured.push measured "?"

theorem apply (measured : pattern.IsMeasured) {operation : Transform}
    (accepted : operation.apply pattern = .ok result) : result.IsMeasured := by
  cases operation with
  | toCaptureGroup => exact measured.toCaptureGroup accepted
  | toNonCaptureGroup => exact measured.toNonCaptureGroup accepted
  | toNamedCaptureGroup name => exact measured.toNamedCaptureGroup accepted
  | toLookaround side =>
      cases accepted
      exact measured.enclose side.opening
  | quantify quantifier => exact measured.quantify accepted
  | lazily => exact measured.lazily accepted
  | append tail =>
      cases accepted
      exact Rope.IsMeasured.join measured (Rope.isMeasured_single tail.text)

theorem alternate (measured : pattern.IsMeasured) {other : Operand}
    (otherMeasured : other.toPattern.IsMeasured) (accepted : pattern.alternate other = .ok result) :
    result.IsMeasured := by
  simp only [Pattern.alternate] at accepted
  split_ifs at accepted
  cases accepted
  exact ((Rope.IsMeasured.push measured.branch "|").join otherMeasured.branch).surround "(?:" ")"

theorem concat (measured : pattern.IsMeasured) {other : Operand}
    (otherMeasured : other.toPattern.IsMeasured) (accepted : pattern.concat other = .ok result) :
    result.IsMeasured := by
  simp only [Pattern.concat] at accepted
  split at accepted
  · cases accepted
  · cases accepted
    exact Rope.IsMeasured.join measured otherMeasured

end IsMeasured

theorem isMeasured_anyOf {items : List Operand} {set : Pattern} (accepted : anyOf items = .ok set) :
    set.IsMeasured := by
  unfold anyOf at accepted
  split at accepted <;> cases accepted
  · exact isMeasured_literal _
  · exact isMeasured_bracket _ _

theorem isMeasured_noneOf {items : List Operand} {set : Pattern}
    (accepted : noneOf items = .ok set) : set.IsMeasured := by
  unfold noneOf at accepted
  split at accepted <;> cases accepted
  exact isMeasured_bracket _ _

end Pattern

/-! ## Constructions -/

theorem Call.isMeasured_run {results : Results} {call : Call} {pattern : Pattern}
    (measured : results.All Pattern.IsMeasured) (result : call.run results = .ok pattern) :
    pattern.IsMeasured := by
  have operand {source : Source} {operand : Operand}
      (found : results.operand source = .ok operand) : operand.toPattern.IsMeasured := by
    have anyText : source.HasText fun _ => True := by cases source <;> trivial
    exact measured.operand anyText (fun text _ => Pattern.isMeasured_literal text) found
  cases makes_of_run result with
  | empty => exact Rope.isMeasured_empty
  | literal text => exact Pattern.isMeasured_literal text
  | escaped text => exact Pattern.isMeasured_literal _
  | constant value => exact Pattern.isMeasured_literal value.text
  | operand found => exact operand found
  | anyOf _ made => exact Pattern.isMeasured_anyOf made
  | noneOf _ made => exact Pattern.isMeasured_noneOf made
  | transform found made => exact (measured.pattern found).apply made
  | concatenate leftFound rightFound made => exact (operand leftFound).concat (operand rightFound) made
  | alternate leftFound rightFound made =>
      exact (operand leftFound).alternate (operand rightFound) made

/-- Whatever a construction produces is measured. -/
theorem Produces.isMeasured {calls : List Call} {call : Call} {pattern : Pattern}
    (produced : Produces calls call pattern) : pattern.IsMeasured := by
  have step (results : Results) (call : Call) (pattern : Pattern)
      (all : results.All Pattern.IsMeasured) (_ : True)
      (result : call.run results = .ok pattern) : pattern.IsMeasured :=
    Call.isMeasured_run all result
  obtain ⟨results, measured, _, result⟩ := produced.exists_results step fun _ _ _ => trivial
  exact Call.isMeasured_run measured result

end PatternAlgebra
