import Mathlib.Data.Option.Defs

/-!
# Results that share a fate

Two computations share a fate when both fail for the same reason or both have
a value and the values belong together.  Whatever is done next with values
that belong together, and does not tell them apart, again shares a fate.
-/

namespace PatternAlgebra

/-- Two results are the same error, or both are values and belong together. -/
inductive SameFate {ε α β : Type} (related : α → β → Prop) : Except ε α → Except ε β → Prop where
  | ok {one : α} {two : β} (belong : related one two) : SameFate related (.ok one) (.ok two)
  | error (reason : ε) : SameFate related (.error reason) (.error reason)

namespace SameFate

variable {ε δ α β γ η : Type} {related : α → β → Prop} {others : γ → η → Prop}
  {first : Except ε α} {second : Except ε β}

theorem refl {related : α → α → Prop} (reflexive : ∀ value, related value value)
    (result : Except ε α) : SameFate related result result := by
  cases result with
  | error reason => exact .error reason
  | ok value => exact .ok (reflexive value)

/-- Where one result is a value, so is the other. -/
theorem exists_right {one : α} (same : SameFate related (.ok one) second) :
    ∃ two, second = .ok two ∧ related one two := by
  cases same with
  | ok belong => exact ⟨_, rfl, belong⟩

theorem exists_left {two : β} (same : SameFate related first (.ok two)) :
    ∃ one, first = .ok one ∧ related one two := by
  cases same with
  | ok belong => exact ⟨_, rfl, belong⟩

theorem mono {weaker : α → β → Prop} (same : SameFate related first second)
    (weaken : ∀ one two, related one two → weaker one two) : SameFate weaker first second := by
  cases same with
  | ok belong => exact .ok (weaken _ _ belong)
  | error reason => exact .error reason

theorem bind (same : SameFate related first second) {next : α → Except ε γ}
    {otherNext : β → Except ε η}
    (continues : ∀ one two, related one two → SameFate others (next one) (otherNext two)) :
    SameFate others (first >>= next) (second >>= otherNext) := by
  cases same with
  | ok belong => exact continues _ _ belong
  | error reason => exact .error reason

theorem map (same : SameFate related first second) {change : α → γ} {otherChange : β → η}
    (keeps : ∀ one two, related one two → others (change one) (otherChange two)) :
    SameFate others (first.map change) (second.map otherChange) := by
  cases same with
  | ok belong => exact .ok (keeps _ _ belong)
  | error reason => exact .error reason

theorem mapError (same : SameFate related first second) (change : ε → δ) :
    SameFate related (first.mapError change) (second.mapError change) := by
  cases same with
  | ok belong => exact .ok belong
  | error reason => exact .error (change reason)

/-- What is left when the reasons are dropped. -/
theorem toOption (same : SameFate related first second) :
    Option.Rel related first.toOption second.toOption := by
  cases same with
  | ok belong => exact .some belong
  | error reason => exact .none

end SameFate

end PatternAlgebra
