import Mathlib.Tactic.SplitIfs
import PatternAlgebra.Proofs.Text.Lexing
import PatternAlgebra.Text.Nesting

/-!
# Runs of the nesting scan

A run reads all tokens of a text and tells where the scan stands after them.
How many groups there are around it changes nothing, except that inside a
group one more closing parenthesis can be read.
-/

namespace PatternAlgebra.Text

namespace Nesting

/-- Where the scan stands after all these tokens. -/
def run : Nesting → List Token → Option Nesting
  | nesting, [] => some nesting
  | nesting, token :: rest => (nesting.step token).bind fun next => next.run rest

@[simp]
theorem run_nil (nesting : Nesting) : nesting.run [] = some nesting :=
  rfl

theorem run_cons (nesting : Nesting) (token : Token) (rest : List Token) :
    nesting.run (token :: rest) = (nesting.step token).bind fun next => next.run rest :=
  rfl

theorem run_append (nesting : Nesting) (first second : List Token) :
    nesting.run (first ++ second) = (nesting.run first).bind fun next => next.run second := by
  induction first generalizing nesting with
  | nil => rfl
  | cons token rest inductionHypothesis =>
      rw [List.cons_append, run_cons, run_cons, Option.bind_assoc]
      congr 1
      funext next
      exact inductionHypothesis next

/-! ## One more group around -/

/-- The same position inside one more group. -/
def raised (nesting : Nesting) : Nesting :=
  { nesting with groups := nesting.groups + 1 }

@[simp]
theorem isOuter_raised (nesting : Nesting) : nesting.raised.isOuter = false := by
  simp [isOuter, raised]

/-- A step does not depend on how many groups there are around. -/
theorem step_raised {nesting next : Nesting} {token : Token}
    (step : nesting.step token = some next) : nesting.raised.step token = some next.raised := by
  rcases nesting with ⟨classes, groups, edge⟩
  cases token with
  | escape c => cases step; rfl
  | dangling => cases step; rfl
  | plain c =>
      simp only [Nesting.step, plain, raised] at step ⊢
      split_ifs at step ⊢ <;> simp_all
      all_goals
        subst step
        simp
      omega

/-- Inside one more group there is one step more: to close that group. -/
theorem step_of_step_raised {nesting next : Nesting} {token : Token}
    (step : nesting.raised.step token = some next) :
    (∃ lower, nesting.step token = some lower ∧ next = lower.raised) ∨
      (token = .plain ')' ∧ nesting.classes = 0 ∧ nesting.groups = 0 ∧
        next = { nesting with edge := .inside }) := by
  cases lowerStep : nesting.step token with
  | some lower =>
      rw [step_raised lowerStep] at step
      exact .inl ⟨lower, rfl, (Option.some.inj step).symm⟩
  | none =>
      right
      cases token with
      | escape c => cases lowerStep
      | dangling => cases lowerStep
      | plain c =>
          simp only [Nesting.step, plain, raised] at step lowerStep
          split_ifs at lowerStep
          simp_all

/-- A run does not depend on how many groups there are around. -/
theorem run_raised {nesting next : Nesting} {tokens : List Token}
    (run : nesting.run tokens = some next) : nesting.raised.run tokens = some next.raised := by
  induction tokens generalizing nesting with
  | nil => cases run; rfl
  | cons token rest inductionHypothesis =>
      rw [run_cons] at run ⊢
      rcases Option.bind_eq_some_iff.mp run with ⟨middle, step, runRest⟩
      rw [step_raised step]
      exact inductionHypothesis runRest

/-! ## Positions that a run can reach -/

/-- Outside every class there is no edge to remember. -/
def IsSettled (nesting : Nesting) : Prop :=
  nesting.classes = 0 → nesting.edge = .inside

theorem isSettled_start : start.IsSettled :=
  fun _ => rfl

theorem isSettled_step {nesting next : Nesting} {token : Token} (settled : nesting.IsSettled)
    (step : nesting.step token = some next) : next.IsSettled := by
  cases token with
  | escape c => cases step; exact fun _ => rfl
  | dangling => cases step; exact fun _ => rfl
  | plain c =>
      simp only [Nesting.step, plain, IsSettled] at step settled ⊢
      split_ifs at step <;> cases step <;> simp_all

theorem isSettled_run {nesting next : Nesting} {tokens : List Token}
    (settled : nesting.IsSettled) (run : nesting.run tokens = some next) : next.IsSettled := by
  induction tokens generalizing nesting with
  | nil => cases run; exact settled
  | cons token rest inductionHypothesis =>
      rcases Option.bind_eq_some_iff.mp run with ⟨middle, step, runRest⟩
      exact inductionHypothesis (isSettled_step settled step) runRest

/-- The only settled position on the outside is the start. -/
theorem eq_start_of_isOuter {nesting : Nesting} (settled : nesting.IsSettled)
    (outer : nesting.isOuter = true) : nesting = start := by
  rcases nesting with ⟨classes, groups, edge⟩
  simp only [isOuter, Bool.and_eq_true, beq_iff_eq] at outer
  rcases outer with ⟨rfl, rfl⟩
  rw [show edge = .inside from settled rfl]
  rfl

end Nesting

end PatternAlgebra.Text
