import PatternAlgebra.Pattern.Combination

/-!
# Trees of calls

Two operands may be combined by a function, a method or an operator, and what
a call makes is an operand again.  A bracketing is a tree of such calls over
operands; which combination they call for, alternation or concatenation, is a
parameter of building it.
-/

namespace PatternAlgebra

/-! ## Single calls -/

/-- A way to call for a combination of two operands. -/
inductive Spelling where
  | function
  | method
  | operator
  deriving DecidableEq, Repr

namespace Spelling

/-- Call for an alternation. -/
def alternate : Spelling → Operand → Operand → Except BuildError Pattern
  | function, first, second => first.alternate second
  | method, first, second => first.toPattern.alternate second
  | operator, first, second => first ||| second

/-- Call for a concatenation. -/
def concatenate : Spelling → Operand → Operand → Except BuildError Pattern
  | function, first, second => first.concatenate second
  | method, first, second => first.toPattern.concat second
  | operator, first, second => first + second

variable (spelling : Spelling) (first second : Operand)

/-- All spellings mean the same. -/
theorem alternate_eq : spelling.alternate first second = first.toPattern.alternate second := by
  cases spelling <;> rfl

theorem concatenate_eq : spelling.concatenate first second = first.toPattern.concat second := by
  cases spelling <;> rfl

end Spelling

/-! ## Trees -/

/-- Operands in the order in which they are bracketed into calls. -/
inductive Bracketing where
  | operand (value : Operand)
  | call (spelling : Spelling) (first second : Bracketing)

namespace Bracketing

/-- The operands from left to right. -/
def operands : Bracketing → List Operand
  | operand value => [value]
  | call _ first second => first.operands ++ second.operands

theorem operands_ne_nil (bracketing : Bracketing) : bracketing.operands ≠ [] := by
  induction bracketing with
  | operand value => simp [operands]
  | call spelling first second firstHypothesis _ => simp [operands, firstHypothesis]

/-- Make the calls from the inside out. -/
def build (combine : Spelling → Operand → Operand → Except BuildError Pattern) :
    Bracketing → Except BuildError Operand
  | operand value => .ok value
  | call spelling first second => do
      let left ← first.build combine
      let right ← second.build combine
      let result ← combine spelling left right
      return .built result

variable {combine : Spelling → Operand → Operand → Except BuildError Pattern}

/-- The sides are built first, the left one before the right one. -/
theorem build_call (spelling : Spelling) (first second : Bracketing) :
    (call spelling first second).build combine =
      (first.build combine).bind fun left =>
        (second.build combine).bind fun right => (combine spelling left right).map .built := by
  rw [build]
  cases first.build combine with
  | error error => rfl
  | ok left =>
      cases second.build combine with
      | error error => rfl
      | ok right =>
          change (combine spelling left right >>= fun result => Except.ok (Operand.built result)) =
            (combine spelling left right).map .built
          cases combine spelling left right <;> rfl

theorem build_call_of_build {first second : Bracketing} {left right : Operand} {whole : Pattern}
    {spelling : Spelling} (leftBuilt : first.build combine = .ok left)
    (rightBuilt : second.build combine = .ok right)
    (accepted : combine spelling left right = .ok whole) :
    (call spelling first second).build combine = .ok (.built whole) := by
  rw [build_call, leftBuilt, rightBuilt]
  change (combine spelling left right).map Operand.built = _
  rw [accepted]
  rfl

end Bracketing

end PatternAlgebra
