import Mathlib.Data.List.Forall2
import PatternAlgebra.Proofs.Construction.Measured
import PatternAlgebra.Proofs.Pattern.Bracketing
import PatternAlgebra.Proofs.Pattern.Combination

/-!
# Nested alternations

Alternatives may be put together in any order of calls.  Each call recognizes
the group that an earlier one has written and gives its arms a place beside
the others, so that all ways to bracket the same operands write the same text:
one plain group around the arms of the operands, with bars between them.
-/

namespace PatternAlgebra

open Text

namespace Text

/-- What stands for a text beside a bar: the inside of a plain group that is
the whole text, and otherwise the text. -/
inductive HasArm : List Char → List Char → Prop where
  | plain {body : List Char} : Balanced body → HasArm (Opening.plain.enclose body) body
  | itself {text : List Char} : ¬ Shape.nonCaptureGroup.Covers text → HasArm text text

theorem hasArm_arm (text : List Char) : HasArm text (arm text) := by
  by_cases plain : Shape.nonCaptureGroup.Covers text
  · cases plain with
    | plain balanced =>
        rw [arm_plain balanced]
        exact .plain balanced
  · have notPlain : Shape.ofChars text ≠ .nonCaptureGroup := by
      rwa [Ne, Shape.ofChars_eq_iff (by decide)]
    rw [arm, if_neg notPlain]
    exact .itself plain

theorem balanced_arm {text : List Char} (balanced : Balanced text) : Balanced (arm text) := by
  apply Peels.arm ?_ balanced
  intro opening body sort fits inner _
  exact inner

/-- Texts with bars between them. -/
def barred (texts : List (List Char)) : List Char :=
  ['|'].intercalate texts

theorem barred_append {first second : List (List Char)} (firstNonempty : first ≠ [])
    (secondNonempty : second ≠ []) :
    barred (first ++ second) = barred first ++ '|' :: barred second := by
  induction first with
  | nil => exact absurd rfl firstNonempty
  | cons text rest inductionHypothesis =>
      cases rest with
      | nil =>
          obtain ⟨next, others, rfl⟩ := List.exists_cons_of_ne_nil secondNonempty
          simp [barred, List.intercalate]
      | cons next others =>
          have tail := inductionHypothesis (List.cons_ne_nil next others)
          simp only [barred, List.cons_append] at tail ⊢
          rw [List.intercalate_cons_cons, tail, List.intercalate_cons_cons]
          simp

end Text

/-! ## Alternatives -/

namespace Operand

/-- The text of the operand. -/
def chars (operand : Operand) : List Char :=
  operand.toPattern.chars

/-- The operand has no names, a balanced text and a rope that is measured. -/
structure IsAlternative (operand : Operand) : Prop where
  names_eq_nil : operand.toPattern.names = []
  balanced : Balanced operand.chars
  isMeasured : operand.toPattern.IsMeasured

theorem isAlternative_literal {text : String} (balanced : Balanced text.toList) :
    (literal text).IsAlternative := by
  constructor
  · rfl
  · rwa [chars, toPattern, Pattern.chars_literal]
  · exact Pattern.isMeasured_literal text

/-- Values without names that a construction produces are alternatives. -/
theorem isAlternative_of_produces {calls : List Call} {call : Call} {pattern : Pattern}
    (produced : Produces calls call pattern) (noNames : pattern.names = [])
    (balanced : Balanced pattern.chars) : (built pattern).IsAlternative :=
  ⟨noNames, balanced, produced.isMeasured⟩

end Operand

theorem Pattern.exists_alternate {pattern : Pattern} {other : Operand}
    (noNames : pattern.names = []) (otherNoNames : other.toPattern.names = []) :
    ∃ whole, pattern.alternate other = .ok whole := by
  simp only [alternate, noNames, otherNoNames]
  exact ⟨_, rfl⟩

/-! ## Trees of calls -/

namespace Bracketing

/-- The arms of the operands from left to right. -/
def arms (bracketing : Bracketing) : List (List Char) :=
  bracketing.operands.map fun operand => arm operand.chars

/-- Two alternatives make one, which writes their arms with a bar between
them. -/
theorem exists_call_alternate {first second : Bracketing} {left right : Operand}
    (leftBuilt : first.build Spelling.alternate = .ok left) (leftAlternative : left.IsAlternative)
    (leftArm : arm left.chars = barred first.arms)
    (rightBuilt : second.build Spelling.alternate = .ok right)
    (rightAlternative : right.IsAlternative) (rightArm : arm right.chars = barred second.arms)
    (spelling : Spelling) :
    ∃ whole, (call spelling first second).build Spelling.alternate = .ok (.built whole) ∧
      (Operand.built whole).IsAlternative ∧
      Balanced (barred (call spelling first second).arms) ∧
      whole.chars = Opening.plain.enclose (barred (call spelling first second).arms) := by
  have joined : barred (call spelling first second).arms =
      arm left.chars ++ '|' :: arm right.chars := by
    rw [leftArm, rightArm, ← barred_append]
    · rw [arms, operands, List.map_append]
      rfl
    · simp [arms, operands_ne_nil]
    · simp [arms, operands_ne_nil]
  have balanced : Balanced (arm left.chars ++ '|' :: arm right.chars) := by
    apply (balanced_arm leftAlternative.balanced).append
    exact (balanced_cons_iff (by rfl)).mpr (balanced_arm rightAlternative.balanced)
  obtain ⟨whole, accepted⟩ := Pattern.exists_alternate leftAlternative.names_eq_nil
    rightAlternative.names_eq_nil
  obtain ⟨charsEq, noNames, _, _⟩ := Pattern.alternate_eq_ok accepted
  have built := build_call_of_build leftBuilt rightBuilt
    ((spelling.alternate_eq left right).trans accepted)
  have alternative : (Operand.built whole).IsAlternative := by
    constructor
    · exact noNames
    · rw [Operand.chars, Operand.toPattern, charsEq]
      exact Opening.isValid_plain.balanced_enclose balanced
    · exact leftAlternative.isMeasured.alternate rightAlternative.isMeasured accepted
  rw [joined]
  exact ⟨whole, built, alternative, balanced, charsEq⟩

theorem exists_build_alternate {bracketing : Bracketing}
    (alternatives : ∀ operand ∈ bracketing.operands, operand.IsAlternative) :
    ∃ result, bracketing.build Spelling.alternate = .ok result ∧ result.IsAlternative ∧
      arm result.chars = barred bracketing.arms := by
  induction bracketing with
  | operand value =>
      have alternative := alternatives value List.mem_cons_self
      exact ⟨value, rfl, alternative, by simp [arms, operands, barred, List.intercalate]⟩
  | call spelling first second firstHypothesis secondHypothesis =>
      obtain ⟨left, leftBuilt, leftAlternative, leftArm⟩ := firstHypothesis fun operand member =>
        alternatives operand (List.mem_append_left _ member)
      obtain ⟨right, rightBuilt, rightAlternative, rightArm⟩ := secondHypothesis
        fun operand member => alternatives operand (List.mem_append_right _ member)
      obtain ⟨whole, built, alternative, balanced, charsEq⟩ := exists_call_alternate leftBuilt
        leftAlternative leftArm rightBuilt rightAlternative rightArm spelling
      refine ⟨.built whole, built, alternative, ?_⟩
      rw [Operand.chars, Operand.toPattern, charsEq, arm_plain balanced]

/-- With at least two operands the result is a value, and its whole text is one
plain group around the arms. -/
theorem exists_alternate_of_several {bracketing : Bracketing}
    (several : 2 ≤ bracketing.operands.length)
    (alternatives : ∀ operand ∈ bracketing.operands, operand.IsAlternative) :
    ∃ whole, bracketing.build Spelling.alternate = .ok (.built whole) ∧
      (Operand.built whole).IsAlternative ∧
      Balanced (barred bracketing.arms) ∧
      whole.chars = Opening.plain.enclose (barred bracketing.arms) := by
  cases bracketing with
  | operand value => exact absurd several (by simp [operands])
  | call spelling first second =>
      obtain ⟨left, leftBuilt, leftAlternative, leftArm⟩ := exists_build_alternate
        fun operand member => alternatives operand (List.mem_append_left _ member)
      obtain ⟨right, rightBuilt, rightAlternative, rightArm⟩ := exists_build_alternate
        fun operand member => alternatives operand (List.mem_append_right _ member)
      exact exists_call_alternate leftBuilt leftAlternative leftArm rightBuilt
        rightAlternative rightArm spelling

/-- The value is the flat alternation of the operands: it has no names, its
text is one plain group around what stands for each operand, and it needs no
further grouping. -/
structure Flattens (operands : List Operand) (value : Pattern) : Prop where
  names_eq_nil : value.names = []
  chars_eq : ∃ arms, List.Forall₂ HasArm (operands.map Operand.chars) arms ∧
    value.chars = Opening.plain.enclose (barred arms)
  toNonCaptureGroup : value.toNonCaptureGroup = .ok value

/-- Every bracketing of the same operands into alternations succeeds with the
flat alternation, and any two of them give equal values. -/
theorem build_flattens {bracketing : Bracketing} (several : 2 ≤ bracketing.operands.length)
    (alternatives : ∀ operand ∈ bracketing.operands, operand.IsAlternative) :
    ∃ value, bracketing.build Spelling.alternate = .ok (.built value) ∧
      Flattens bracketing.operands value ∧
      ∀ other : Bracketing, other.operands = bracketing.operands →
        ∃ same, other.build Spelling.alternate = .ok (.built same) ∧ (same == value) = true := by
  obtain ⟨value, built, alternative, balanced, charsEq⟩ :=
    exists_alternate_of_several several alternatives
  have armsEq : List.Forall₂ HasArm (bracketing.operands.map Operand.chars) bracketing.arms := by
    rw [arms, List.forall₂_map_left_iff, List.forall₂_map_right_iff, List.forall₂_same]
    intro operand _
    exact hasArm_arm operand.chars
  have shape : value.shape = .nonCaptureGroup := by
    rw [Pattern.shape_eq, charsEq]
    exact Shape.ofChars_of_covers (.plain balanced)
  have ungrouped : value.toNonCaptureGroup = .ok value := by
    rw [Pattern.toNonCaptureGroup, shape]
  refine ⟨value, built, ⟨alternative.names_eq_nil, ⟨_, armsEq, charsEq⟩, ungrouped⟩, ?_⟩
  intro other sameOperands
  rw [← sameOperands] at several alternatives
  obtain ⟨same, sameBuilt, sameAlternative, _, sameChars⟩ :=
    exists_alternate_of_several several alternatives
  refine ⟨same, sameBuilt, ?_⟩
  apply (Pattern.beq_iff sameAlternative.isMeasured alternative.isMeasured).mpr
  apply String.toList_inj.mp
  change same.chars = value.chars
  rw [sameChars, charsEq, arms, sameOperands]
  rfl

/-- Two groups side by side, a class that holds a bar, and a built group whose
inside goes between the bars. -/
theorem build_flattens_of_three :
    ∃ group, Produces [.literal "a|[)]", .transform .toNonCaptureGroup 0]
        (.transform .toNonCaptureGroup 0) group ∧
      ∃ value, (call .operator (.operand (.literal "(?:a)(?:b)"))
          (call .method (.operand (.built group)) (.operand (.literal "[|]")))).build
            Spelling.alternate = .ok (.built value) ∧
        Flattens [.literal "(?:a)(?:b)", .built group, .literal "[|]"] value := by
  have produced : Produces [.literal "a|[)]", .transform .toNonCaptureGroup 0]
      (.transform .toNonCaptureGroup 0) _ := ⟨[.literal "a|[)]"], by decide, rfl⟩
  refine ⟨_, produced, ?_⟩
  have alternatives : ∀ operand ∈ (call .operator (.operand (.literal "(?:a)(?:b)"))
      (call .method (.operand (.built ((Pattern.literal "a|[)]").enclose "(?:")))
        (.operand (.literal "[|]")))).operands, operand.IsAlternative := by
    rintro value (_ | ⟨_, _ | ⟨_, _ | ⟨_, ⟨⟩⟩⟩⟩)
    · exact Operand.isAlternative_literal (by decide)
    · exact Operand.isAlternative_of_produces produced rfl (by decide)
    · exact Operand.isAlternative_literal (by decide)
  obtain ⟨value, built, flattens, _⟩ := build_flattens (by decide) alternatives
  exact ⟨value, built, flattens⟩

end Bracketing

end PatternAlgebra
