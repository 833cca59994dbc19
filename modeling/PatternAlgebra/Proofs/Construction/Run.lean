import Mathlib.Data.List.Induction
import PatternAlgebra.Construction

/-!
# What a construction produces

A call that has a result takes its operands from results before it.  What
every call preserves therefore holds of every value that a construction
produces, however long it is and whichever calls in between fail.
-/

namespace PatternAlgebra

/-! ## Calls that have a result -/

section Inversion

variable {ε δ α β : Type}

theorem bind_eq_ok {action : Except ε α} {next : α → Except ε β} {value : β}
    (accepted : action >>= next = .ok value) :
    ∃ first, action = .ok first ∧ next first = .ok value := by
  cases action with
  | error error => cases accepted
  | ok first => exact ⟨first, rfl, accepted⟩

theorem eq_ok_of_mapError {action : Except ε α} {change : ε → δ} {value : α}
    (accepted : action.mapError change = .ok value) : action = .ok value := by
  cases action with
  | error error => cases accepted
  | ok first =>
      cases accepted
      rfl

end Inversion

namespace Call

/-- How a call comes to its result from the operands that it takes. -/
inductive Makes (results : Results) : Call → Pattern → Prop where
  | empty : Makes results .empty .empty
  | literal (text : String) : Makes results (.literal text) (.literal text)
  | escaped (text : String) : Makes results (.escaped text) (.escaped text)
  | constant (value : Constant) : Makes results (.constant value) value.pattern
  | operand {source : Source} {operand : Operand} : results.operand source = .ok operand →
      Makes results (.operand source) operand.toPattern
  | anyOf {members : List Source} {operands : List Operand} {pattern : Pattern} :
      results.operands members = .ok operands → Pattern.anyOf operands = .ok pattern →
      Makes results (.anyOf members) pattern
  | noneOf {members : List Source} {operands : List Operand} {pattern : Pattern} :
      results.operands members = .ok operands → Pattern.noneOf operands = .ok pattern →
      Makes results (.noneOf members) pattern
  | transform {operation : Transform} {index : Nat} {before pattern : Pattern} :
      results.pattern index = .ok before → operation.apply before = .ok pattern →
      Makes results (.transform operation index) pattern
  | concatenate {first second : Source} {left right : Operand} {pattern : Pattern} :
      results.operand first = .ok left → results.operand second = .ok right →
      left.concatenate right = .ok pattern → Makes results (.concatenate first second) pattern
  | alternate {first second : Source} {left right : Operand} {pattern : Pattern} :
      results.operand first = .ok left → results.operand second = .ok right →
      left.alternate right = .ok pattern → Makes results (.alternate first second) pattern

theorem makes_of_run {results : Results} {call : Call} {pattern : Pattern}
    (result : call.run results = .ok pattern) : call.Makes results pattern := by
  cases call with
  | empty => cases result; exact .empty
  | literal text => cases result; exact .literal text
  | escaped text => cases result; exact .escaped text
  | constant value => cases result; exact .constant value
  | operand source =>
      obtain ⟨operand, found, made⟩ := bind_eq_ok result
      cases made
      exact .operand found
  | anyOf members =>
      obtain ⟨operands, found, made⟩ := bind_eq_ok result
      exact .anyOf found (eq_ok_of_mapError made)
  | noneOf members =>
      obtain ⟨operands, found, made⟩ := bind_eq_ok result
      exact .noneOf found (eq_ok_of_mapError made)
  | transform operation index =>
      obtain ⟨before, found, made⟩ := bind_eq_ok result
      exact .transform found (eq_ok_of_mapError made)
  | concatenate first second =>
      obtain ⟨left, leftFound, rest⟩ := bind_eq_ok result
      obtain ⟨right, rightFound, made⟩ := bind_eq_ok rest
      exact .concatenate leftFound rightFound (eq_ok_of_mapError made)
  | alternate first second =>
      obtain ⟨left, leftFound, rest⟩ := bind_eq_ok result
      obtain ⟨right, rightFound, made⟩ := bind_eq_ok rest
      exact .alternate leftFound rightFound (eq_ok_of_mapError made)

end Call

/-! ## Raw text -/

/-- A raw text among the operands is such a text. -/
def Source.HasText (isText : List Char → Prop) : Source → Prop
  | .result _ => True
  | .raw text => isText text.toList

/-- The raw texts of the call are such texts, and the raw members of its set
are such members. -/
def Call.HasTexts (isText isMember : List Char → Prop) : Call → Prop
  | .literal text => isText text.toList
  | .operand source => source.HasText isText
  | .anyOf members | .noneOf members => ∀ member ∈ members, member.HasText isMember
  | .concatenate first second | .alternate first second =>
      first.HasText isText ∧ second.HasText isText
  | _ => True

instance {isText : List Char → Prop} [DecidablePred isText] :
    (source : Source) → Decidable (source.HasText isText)
  | .result _ => inferInstanceAs (Decidable True)
  | .raw text => inferInstanceAs (Decidable (isText text.toList))

instance {isText isMember : List Char → Prop} [DecidablePred isText] [DecidablePred isMember] :
    (call : Call) → Decidable (call.HasTexts isText isMember)
  | .literal text => inferInstanceAs (Decidable (isText text.toList))
  | .operand source => inferInstanceAs (Decidable (source.HasText isText))
  | .anyOf members | .noneOf members =>
      inferInstanceAs (Decidable (∀ member ∈ members, member.HasText isMember))
  | .concatenate first second | .alternate first second =>
      inferInstanceAs (Decidable (first.HasText isText ∧ second.HasText isText))
  | .empty | .escaped _ | .constant _ | .transform _ _ => inferInstanceAs (Decidable True)

namespace Results

/-- Every result there is has the property. -/
def All (P : Pattern → Prop) (results : Results) : Prop :=
  ∀ pattern, some pattern ∈ results → P pattern

variable {P : Pattern → Prop} {results : Results}

theorem all_nil : All P [] :=
  fun _ member => by cases member

theorem All.pattern (all : results.All P) {index : Nat} {pattern : Pattern}
    (found : results.pattern index = .ok pattern) : P pattern := by
  unfold Results.pattern at found
  split at found
  · rename_i earlier stands
    cases found
    exact all pattern (List.mem_of_getElem? stands)
  · cases found

/-- An operand is an earlier result or a raw text. -/
theorem All.operand (all : results.All P) {isText : List Char → Prop} {source : Source}
    (hasText : source.HasText isText)
    (literal : ∀ text : String, isText text.toList → P (.literal text)) {operand : Operand}
    (found : results.operand source = .ok operand) : P operand.toPattern := by
  cases source with
  | result index =>
      rw [Results.operand] at found
      cases stands : results.pattern index with
      | error error =>
          rw [stands] at found
          cases found
      | ok pattern =>
          rw [stands] at found
          cases found
          exact all.pattern stands
  | raw text =>
      cases found
      exact literal text hasText

theorem exists_source_of_mem_operands {members : List Source} {operands : List Operand}
    (found : results.operands members = .ok operands) {operand : Operand}
    (member : operand ∈ operands) : ∃ source ∈ members, results.operand source = .ok operand := by
  induction members generalizing operands with
  | nil =>
      cases found
      cases member
  | cons source rest inductionHypothesis =>
      obtain ⟨first, firstFound, found⟩ := bind_eq_ok found
      obtain ⟨others, othersFound, made⟩ := bind_eq_ok found
      cases made
      rcases List.mem_cons.mp member with rfl | inOthers
      · exact ⟨source, List.mem_cons_self, firstFound⟩
      · obtain ⟨later, inRest, laterFound⟩ := inductionHypothesis othersFound inOthers
        exact ⟨later, List.mem_cons_of_mem source inRest, laterFound⟩

/-! ## Runs -/

theorem after_append (results : Results) (first second : List Call) :
    results.after (first ++ second) = (results.after first).after second := by
  induction first generalizing results with
  | nil => rfl
  | cons call rest inductionHypothesis => exact inductionHypothesis _

theorem after_concat (results : Results) (calls : List Call) (call : Call) :
    results.after (calls ++ [call]) =
      results.after calls ++ [(call.run (results.after calls)).toOption] := by
  rw [after_append]
  rfl

end Results

/-- The construction makes this call, and its result is the pattern. -/
def Produces (calls : List Call) (call : Call) (pattern : Pattern) : Prop :=
  ∃ earlier, earlier ++ [call] <+: calls ∧ call.run (Results.after [] earlier) = .ok pattern

theorem mem_of_isPrefix {calls earlier : List Call} {call : Call}
    (isPrefix : earlier ++ [call] <+: calls) : call ∈ calls := by
  apply isPrefix.subset
  rw [List.mem_append]
  exact .inr List.mem_cons_self

/-- What one call preserves holds of all results. -/
theorem Results.all_after {P : Pattern → Prop} {Allowed : Results → Call → Prop}
    (step : ∀ results call pattern, Results.All P results → Allowed results call →
      call.run results = .ok pattern → P pattern)
    {calls : List Call}
    (allowed : ∀ earlier call, earlier ++ [call] <+: calls →
      Allowed (Results.after [] earlier) call) :
    (Results.after [] calls).All P := by
  induction calls using List.reverseRecOn with
  | nil => exact all_nil
  | append_singleton earlier call inductionHypothesis =>
      have earlierAll : Results.All P (Results.after [] earlier) := by
        apply inductionHypothesis
        intro before other isPrefix
        exact allowed before other (isPrefix.trans (List.prefix_append earlier [call]))
      intro pattern member
      rw [after_concat, List.mem_append, List.mem_singleton] at member
      rcases member with before | last
      · exact earlierAll pattern before
      · apply step _ call pattern earlierAll (allowed earlier call (List.prefix_refl _))
        cases made : call.run (Results.after [] earlier) with
        | error error =>
            rw [made] at last
            cases last
        | ok value =>
            rw [made] at last
            cases last
            rfl

/-- A call of a construction is made with results of which everything holds
that one call preserves. -/
theorem Produces.exists_results {P : Pattern → Prop} {Allowed : Results → Call → Prop}
    (step : ∀ results call pattern, Results.All P results → Allowed results call →
      call.run results = .ok pattern → P pattern)
    {calls : List Call}
    (allowed : ∀ earlier call, earlier ++ [call] <+: calls →
      Allowed (Results.after [] earlier) call)
    {call : Call} {pattern : Pattern} (produced : Produces calls call pattern) :
    ∃ results, Results.All P results ∧ Allowed results call ∧ call.run results = .ok pattern := by
  obtain ⟨earlier, isPrefix, result⟩ := produced
  have earlierAll : (Results.after [] earlier).All P := by
    apply Results.all_after step
    intro before other beforePrefix
    apply allowed before other
    exact beforePrefix.trans ((List.prefix_append earlier [call]).trans isPrefix)
  exact ⟨Results.after [] earlier, earlierAll, allowed earlier call isPrefix, result⟩

end PatternAlgebra
