import PatternAlgebra.Proofs.Nesting.CharClass

/-!
# A grammar of balanced texts

A text is nested when it is a sequence of ordinary characters, escapes, whole
classes and parentheses around nested texts.  The grammar generates exactly
the balanced texts: where a balanced text opens a group or a class, it goes on
until the scan first comes back to the outside, and what it has read by then
is one whole group or one whole class.
-/

namespace PatternAlgebra.Text

open Token

/-- Texts in which every group and class that opens is closed, generated from
left to right. -/
inductive Nested : List Char → Prop where
  | nil : Nested []
  | ordinary {c : Char} {rest : List Char} : c ∉ ['\\', '(', ')', '['] → Nested rest →
      Nested (c :: rest)
  | escape (c : Char) {rest : List Char} : Nested rest → Nested ('\\' :: c :: rest)
  | charClass {text rest : List Char} : IsClass text → Nested rest → Nested (text ++ rest)
  | group {body rest : List Char} : Nested body → Nested rest →
      Nested (parenthesized body ++ rest)

theorem isDelimiter_eq_false_iff {c : Char} :
    isDelimiter c = false ↔ c ∉ ['\\', '(', ')', '['] := by
  simp [isDelimiter, and_assoc]

theorem Nested.balanced {text : List Char} (nested : Nested text) : Balanced text := by
  induction nested with
  | nil => exact balanced_nil
  | ordinary noDelimiter _ inductionHypothesis =>
      exact (balanced_cons_iff (isDelimiter_eq_false_iff.mpr noDelimiter)).mpr inductionHypothesis
  | escape c _ inductionHypothesis => exact (balanced_escape c).append inductionHypothesis
  | charClass grammar _ inductionHypothesis => exact grammar.balanced.append inductionHypothesis
  | group _ _ bodyHypothesis restHypothesis =>
      exact bodyHypothesis.parenthesized.append restHypothesis

/-! ## The first return to the outside -/

namespace Nesting

/-- A run that ends on the outside comes there for the first time after some
front of the text. -/
theorem exists_front_of_run {nesting last : Nesting} {text : List Char}
    (inner : nesting.isOuter = false) (complete : IsComplete text)
    (run : nesting.run (lex text) = some last) (outer : last.isOuter = true) :
    ∃ front rest, text = front ++ rest ∧ IsComplete front ∧
      nesting.closesAtEnd (lex front) = true := by
  induction text using lex_induction generalizing nesting with
  | nil =>
      cases run
      rw [inner] at outer
      cases outer
  | dangling => exact absurd complete not_isComplete_dangling
  | escape c rest inductionHypothesis =>
      have step : nesting.step (.escape c) = some { nesting with edge := .inside } := rfl
      have stillInner : isOuter { nesting with edge := .inside } = false := inner
      rw [lex_escape, run_cons, step, Option.bind_some] at run
      obtain ⟨front, after, rfl, frontComplete, closes⟩ :=
        inductionHypothesis stillInner (isComplete_escape.mp complete) run
      refine ⟨'\\' :: c :: front, after, rfl, isComplete_escape.mpr frontComplete, ?_⟩
      rw [lex_escape, closesAtEnd_cons_of_inner step stillInner]
      exact closes
  | plain c rest notBackslash inductionHypothesis =>
      rw [lex_plain notBackslash, run_cons] at run
      obtain ⟨next, step, runRest⟩ := Option.bind_eq_some_iff.mp run
      by_cases outside : next.isOuter = true
      · refine ⟨[c], rest, rfl, (isComplete_plain notBackslash).mpr isComplete_nil, ?_⟩
        rw [lex_plain notBackslash, closesAtEnd_cons step, outside, inner]
        rfl
      · rw [Bool.not_eq_true] at outside
        obtain ⟨front, after, rfl, frontComplete, closes⟩ :=
          inductionHypothesis outside ((isComplete_plain notBackslash).mp complete) runRest
        refine ⟨c :: front, after, rfl, (isComplete_plain notBackslash).mpr frontComplete, ?_⟩
        rw [lex_plain notBackslash, closesAtEnd_cons_of_inner step outside]
        exact closes

/-- From inside a group the scan comes to the outside by a parenthesis. -/
theorem exists_concat_of_closesAtEnd_raised {nesting : Nesting} {text : List Char}
    (closes : nesting.raised.closesAtEnd (lex text) = true) : ∃ body, text = body ++ [')'] := by
  induction text using lex_induction generalizing nesting with
  | nil => cases closes
  | dangling => simp [closesAtEnd, Nesting.step, isOuter, raised] at closes
  | escape c rest inductionHypothesis =>
      have step : nesting.raised.step (.escape c) =
          some ({ nesting with edge := .inside } : Nesting).raised := rfl
      rw [lex_escape, closesAtEnd_cons_of_inner step (isOuter_raised _)] at closes
      obtain ⟨body, rfl⟩ := inductionHypothesis closes
      exact ⟨'\\' :: c :: body, rfl⟩
  | plain c rest notBackslash inductionHypothesis =>
      rw [lex_plain notBackslash] at closes
      cases raisedStep : nesting.raised.step (Token.plain c) with
      | none => simp [closesAtEnd, raisedStep] at closes
      | some next =>
          rcases step_of_step_raised raisedStep with
            ⟨lower, _, rfl⟩ | ⟨isClosing, noClass, noGroup, rfl⟩
          · rw [closesAtEnd_cons_of_inner raisedStep (isOuter_raised lower)] at closes
            obtain ⟨body, rfl⟩ := inductionHypothesis closes
            exact ⟨c :: body, rfl⟩
          · cases isClosing
            have outer : isOuter { nesting with edge := .inside } = true := by
              simp [isOuter, noClass, noGroup]
            rw [closesAtEnd_cons raisedStep, outer, isOuter_raised, Bool.not_false,
              Bool.and_self, if_pos rfl, List.isEmpty_iff] at closes
            have noTokens := flatMap_chars_lex rest
            rw [closes] at noTokens
            subst noTokens
            exact ⟨[], rfl⟩

end Nesting

/-! ## From the run to the grammar -/

/-- Where a balanced text opens something, it starts with what the scan accepts
as one whole. -/
theorem Balanced.exists_front {c : Char} {text : List Char} (balanced : Balanced (c :: text))
    (delimited : c = '(' ∨ c = '[') :
    ∃ front rest, text = front ++ rest ∧ IsComplete (c :: front) ∧
      closesAtEnd (c :: front) = true ∧ Balanced rest := by
  have opened : c ≠ '\\' ∧ ∃ next, Nesting.start.step (plain c) = some next ∧
      next.isOuter = false := by
    rcases delimited with rfl | rfl <;> exact ⟨by decide, _, rfl, rfl⟩
  obtain ⟨notBackslash, next, step, inner⟩ := opened
  have run := balanced.run_eq
  rw [lex_plain notBackslash, Nesting.run_cons, step, Option.bind_some] at run
  have complete := (isComplete_plain notBackslash).mp balanced.isComplete
  obtain ⟨front, rest, rfl, frontComplete, closes⟩ :=
    Nesting.exists_front_of_run inner complete run rfl
  have wholeComplete : IsComplete (c :: front) := (isComplete_plain notBackslash).mpr frontComplete
  have wholeCloses : closesAtEnd (c :: front) = true := by
    rw [closesAtEnd, lex_plain notBackslash, Nesting.closesAtEnd_cons_of_inner step inner]
    exact closes
  refine ⟨front, rest, rfl, wholeComplete, wholeCloses, ?_⟩
  rw [← List.cons_append] at balanced
  exact (balanced_of_closesAtEnd wholeComplete wholeCloses).append_iff.mp balanced

/-- A whole group is a pair of parentheses around a balanced text. -/
theorem exists_body_of_closesAtEnd_group {text : List Char}
    (closes : closesAtEnd ('(' :: text) = true) : ∃ body, Balanced body ∧ text = body ++ [')'] := by
  have raised : Nesting.start.raised.closesAtEnd (lex text) = true := by
    rw [closesAtEnd, lex_plain (by decide)] at closes
    exact closes
  obtain ⟨body, rfl⟩ := Nesting.exists_concat_of_closesAtEnd_raised raised
  exact ⟨body, closesAtEnd_parenthesized_iff.mp closes, rfl⟩

theorem not_balanced_closing (text : List Char) : ¬ Balanced (')' :: text) := by
  intro balanced
  have run := balanced.run_eq
  rw [lex_plain (by decide), Nesting.run_cons] at run
  cases run

theorem Balanced.nested {text : List Char} (balanced : Balanced text) : Nested text := by
  induction bound : text.length using Nat.strongRecOn generalizing text with
  | ind length inductionHypothesis =>
      subst bound
      cases text using lex_induction with
      | nil => exact .nil
      | dangling => exact absurd balanced.isComplete not_isComplete_dangling
      | escape c rest =>
          have restBalanced : Balanced rest := (balanced_escape c).append_iff.mp balanced
          have shorter : rest.length < ('\\' :: c :: rest).length := by
            rw [List.length_cons, List.length_cons]
            omega
          exact .escape c (inductionHypothesis _ shorter restBalanced rfl)
      | plain c rest notBackslash =>
          by_cases delimited : c = '(' ∨ c = '['
          · obtain ⟨front, after, rfl, complete, closes, afterBalanced⟩ :=
              balanced.exists_front delimited
            have afterShorter : after.length < (c :: (front ++ after)).length := by
              rw [List.length_cons, List.length_append]
              omega
            have afterNested := inductionHypothesis _ afterShorter afterBalanced rfl
            rcases delimited with rfl | rfl
            · obtain ⟨body, bodyBalanced, rfl⟩ := exists_body_of_closesAtEnd_group closes
              have bodyShorter : body.length < ('(' :: (body ++ [')'] ++ after)).length := by
                rw [List.length_cons, List.length_append, List.length_append]
                omega
              have bodyNested := inductionHypothesis _ bodyShorter bodyBalanced rfl
              exact .group bodyNested afterNested
            · exact .charClass (isClass_iff_closesAtEnd.mpr ⟨rfl, closes⟩) afterNested
          · have notClosing : c ≠ ')' := by
              rintro rfl
              exact not_balanced_closing rest balanced
            have ordinary : c ∉ ['\\', '(', ')', '['] := by
              rw [not_or] at delimited
              simp [notBackslash, notClosing, delimited]
            have restBalanced : Balanced rest :=
              (balanced_cons_iff (isDelimiter_eq_false_iff.mpr ordinary)).mp balanced
            have shorter : rest.length < (c :: rest).length := Nat.lt_succ_self _
            exact .ordinary ordinary (inductionHypothesis _ shorter restBalanced rfl)

/-- The grammar generates the balanced texts. -/
theorem nested_iff_balanced {text : List Char} : Nested text ↔ Balanced text :=
  ⟨Nested.balanced, Balanced.nested⟩

end PatternAlgebra.Text
