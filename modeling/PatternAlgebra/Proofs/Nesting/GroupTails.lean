import PatternAlgebra.Proofs.Nesting.CharClass

/-!
# Where groups open

A group opens at each opening parenthesis outside escapes and classes.  What
stands after it, up to the end of the text, is a tail of the text; the tails
of a balanced text are kept, but for what is put behind them, by everything
that is put around the text.
-/

namespace PatternAlgebra.Text

open Token

namespace Nesting

/-- What stands after each opening parenthesis outside escapes and classes. -/
def groupTails : Nesting → List Token → List (List Token)
  | _, [] => []
  | nesting, token :: rest =>
      match nesting.step token with
      | none => []
      | some next =>
          if token = .plain '(' ∧ nesting.classes = 0 then rest :: next.groupTails rest
          else next.groupTails rest

theorem groupTails_cons {nesting next : Nesting} {token : Token}
    (step : nesting.step token = some next) (rest : List Token) :
    nesting.groupTails (token :: rest) =
      if token = .plain '(' ∧ nesting.classes = 0 then rest :: next.groupTails rest
      else next.groupTails rest := by
  rw [groupTails, step]

theorem groupTails_cons_of_ne {nesting next : Nesting} {token : Token}
    (step : nesting.step token = some next) (notOpening : token ≠ .plain '(')
    (rest : List Token) :
    nesting.groupTails (token :: rest) = next.groupTails rest := by
  rw [groupTails_cons step, if_neg fun opening => notOpening opening.1]

theorem groupTails_append {nesting next : Nesting} {first : List Token}
    (run : nesting.run first = some next) (second : List Token) :
    nesting.groupTails (first ++ second) =
      (nesting.groupTails first).map (· ++ second) ++ next.groupTails second := by
  induction first generalizing nesting with
  | nil => cases run; rfl
  | cons token rest inductionHypothesis =>
      rcases Option.bind_eq_some_iff.mp run with ⟨middle, step, runRest⟩
      rw [List.cons_append, groupTails_cons step, groupTails_cons step,
        inductionHypothesis runRest]
      split <;> rfl

theorem groupTails_raised {nesting next : Nesting} {tokens : List Token}
    (run : nesting.run tokens = some next) :
    nesting.raised.groupTails tokens = nesting.groupTails tokens := by
  induction tokens generalizing nesting with
  | nil => rfl
  | cons token rest inductionHypothesis =>
      rcases Option.bind_eq_some_iff.mp run with ⟨middle, step, runRest⟩
      rw [groupTails_cons step, groupTails_cons (step_raised step), inductionHypothesis runRest]
      rfl

/-- Without a closing parenthesis no group is left. -/
theorem groups_le_of_run {nesting last : Nesting} {tokens : List Token}
    (run : nesting.run tokens = some last) (noClosing : .plain ')' ∉ tokens) :
    nesting.groups ≤ last.groups := by
  induction tokens generalizing nesting with
  | nil => cases run; exact Nat.le_refl _
  | cons token rest inductionHypothesis =>
      rcases Option.bind_eq_some_iff.mp run with ⟨middle, step, runRest⟩
      rw [List.mem_cons, not_or] at noClosing
      have stepLe : nesting.groups ≤ middle.groups := by
        cases token with
        | escape c => cases step; exact Nat.le_refl _
        | dangling => cases step; exact Nat.le_refl _
        | plain c =>
            have notClosing : c ≠ ')' := by
              rintro rfl
              exact noClosing.1 rfl
            simp only [Nesting.step, plain, notClosing, false_and, if_false] at step
            split_ifs at step <;> cases step <;> simp
      exact Nat.le_trans stepLe (inductionHypothesis runRest noClosing.2)

/-- A group that opens in a text that leaves all groups is closed in its tail. -/
theorem closing_mem_of_mem_groupTails {nesting last : Nesting} {tokens tail : List Token}
    (run : nesting.run tokens = some last) (left : last.groups = 0)
    (member : tail ∈ nesting.groupTails tokens) : .plain ')' ∈ tail := by
  induction tokens generalizing nesting with
  | nil => cases member
  | cons token rest inductionHypothesis =>
      rcases Option.bind_eq_some_iff.mp run with ⟨middle, step, runRest⟩
      rw [groupTails_cons step] at member
      split_ifs at member with opening
      · rcases List.mem_cons.mp member with rfl | member
        · rcases opening with ⟨rfl, noClass⟩
          have middleEq : middle.groups = nesting.groups + 1 := by
            simp only [Nesting.step, plain, noClass] at step
            cases step
            rfl
          apply Classical.byContradiction
          intro noClosing
          have noneLeft := groups_le_of_run runRest noClosing
          omega
        · exact inductionHypothesis runRest member
      · exact inductionHypothesis runRest member

/-- Inside a class no group opens. -/
theorem groupTails_of_closesAtEnd {nesting : Nesting} {tokens : List Token}
    (inClass : nesting.isOuter = false) (noGroup : nesting.groups = 0)
    (closes : nesting.closesAtEnd tokens = true) : nesting.groupTails tokens = [] := by
  induction tokens generalizing nesting with
  | nil => rfl
  | cons token rest inductionHypothesis =>
      have classes_ne : nesting.classes ≠ 0 := by
        intro noClass
        simp [isOuter, noClass, noGroup] at inClass
      cases step : nesting.step token with
      | none => rw [groupTails, step]
      | some next =>
          rw [groupTails_cons step, if_neg fun opening => classes_ne opening.2]
          rw [closesAtEnd_cons step, inClass] at closes
          have nextGroups : next.groups = 0 := by
            cases token with
            | escape c => cases step; exact noGroup
            | dangling => cases step; exact noGroup
            | plain c =>
                simp only [Nesting.step, plain, classes_ne, and_false, if_false] at step
                split_ifs at step <;> cases step <;> exact noGroup
          cases outside : next.isOuter with
          | true =>
              simp only [outside, Bool.not_false, Bool.and_self, if_true, List.isEmpty_iff] at closes
              rw [closes]
              rfl
          | false =>
              simp only [outside, Bool.false_and, Bool.false_eq_true, if_false] at closes
              exact inductionHypothesis outside nextGroups closes

end Nesting

/-- What stands after each parenthesis of a text that opens a group. -/
def groupTails (text : List Char) : List (List Token) :=
  Nesting.start.groupTails (lex text)

@[simp]
theorem groupTails_nil : groupTails [] = [] :=
  rfl

theorem groupTails_append {first : List Char} (balanced : Balanced first) (second : List Char) :
    groupTails (first ++ second) =
      (groupTails first).map (· ++ lex second) ++ groupTails second := by
  rw [groupTails, lex_append balanced.isComplete, Nesting.groupTails_append balanced.run_eq]
  rfl

theorem groupTails_parenthesized {body : List Char} (balanced : Balanced body) :
    groupTails (parenthesized body) =
      (lex body ++ [.plain ')']) :: (groupTails body).map (· ++ [.plain ')']) := by
  have opened : groupTails (parenthesized body) =
      (lex body ++ [.plain ')']) ::
        Nesting.start.raised.groupTails (lex body ++ [.plain ')']) := by
    rw [groupTails, lex_parenthesized balanced.isComplete]
    rfl
  rw [opened, Nesting.groupTails_append (Nesting.run_raised balanced.run_eq),
    Nesting.groupTails_raised balanced.run_eq]
  exact congrArg _ (List.append_nil _)

/-- Every group that a balanced text opens is closed behind its opening. -/
theorem closing_mem_of_mem_groupTails {text : List Char} (balanced : Balanced text)
    {tail : List Token} (member : tail ∈ groupTails text) : .plain ')' ∈ tail :=
  Nesting.closing_mem_of_mem_groupTails balanced.run_eq rfl member

/-- A text without parentheses opens no group. -/
theorem groupTails_of_not_mem {text : List Char} (noOpening : '(' ∉ text) :
    groupTails text = [] := by
  have noToken : ∀ (nesting : Nesting), nesting.groupTails (lex text) = [] := by
    induction text using lex_induction with
    | nil => exact fun _ => rfl
    | dangling => exact fun _ => rfl
    | escape c rest inductionHypothesis =>
        simp only [List.mem_cons, not_or] at noOpening
        exact fun nesting => inductionHypothesis noOpening.2.2 _
    | plain c rest notBackslash inductionHypothesis =>
        intro nesting
        simp only [List.mem_cons, not_or] at noOpening
        rw [lex_plain notBackslash]
        cases step : nesting.step (.plain c) with
        | none => rw [Nesting.groupTails, step]
        | some next =>
            rw [Nesting.groupTails_cons_of_ne step (by simpa using Ne.symm noOpening.1)]
            exact inductionHypothesis noOpening.2 next
  exact noToken _

theorem groupTails_of_noDelimiter {text : List Char}
    (noDelimiter : ∀ c ∈ text, isDelimiter c = false) : groupTails text = [] := by
  apply groupTails_of_not_mem
  intro member
  cases noDelimiter _ member

theorem groupTails_escape (c : Char) (rest : List Char) :
    groupTails ('\\' :: c :: rest) = groupTails rest :=
  rfl

/-- Parentheses in a class open no group. -/
theorem IsClass.groupTails {text : List Char} (grammar : IsClass text) : groupTails text = [] := by
  have closes := grammar.closesAtEnd
  obtain ⟨lead, body, _, _, rfl⟩ := grammar
  rw [Text.closesAtEnd, lex_plain (by decide), Nesting.start, Nesting.closesAtEnd_openBracket]
    at closes
  rw [Text.groupTails, lex_plain (by decide)]
  change Nesting.groupTails ⟨1, 0, .opened⟩ _ = []
  exact Nesting.groupTails_of_closesAtEnd rfl rfl closes

end PatternAlgebra.Text
