import PatternAlgebra.Proofs.Nesting.Run

/-!
# Balanced texts

A text is balanced when a run over its tokens comes back to where it started
and no backslash dangles: every group and every class that the text opens it
closes, and it closes no group that it did not open.

Balanced texts are closed under concatenation and under enclosing in
parentheses.  Conversely, `closesAtEnd` accepts a text between parentheses
exactly when the text between them is balanced, and the parenthesis that
closes the first group of a text is determined by the text.
-/

namespace PatternAlgebra.Text

open Token

/-- Read from left to right, the text closes what it opens and nothing else,
and no backslash dangles at its end. -/
structure Balanced (text : List Char) : Prop where
  isComplete : IsComplete text
  run_eq : Nesting.start.run (lex text) = some Nesting.start

instance (text : List Char) : Decidable (Balanced text) :=
  decidable_of_iff (IsComplete text ∧ Nesting.start.run (lex text) = some Nesting.start)
    ⟨fun both => ⟨both.1, both.2⟩, fun balanced => ⟨balanced.1, balanced.2⟩⟩

/-! ## Small balanced texts -/

theorem balanced_nil : Balanced [] :=
  ⟨isComplete_nil, rfl⟩

theorem balanced_escape (c : Char) : Balanced ['\\', c] :=
  ⟨by simp, rfl⟩

/-- Outside every group and class only three characters open or close. -/
def isDelimiter (c : Char) : Bool :=
  c == '\\' || c == '(' || c == ')' || c == '['

/-- A property that no delimiter has tells that a character is none. -/
theorem isDelimiter_eq_false_of (P : Char → Prop) {c : Char} (holds : P c)
    (refused : ¬ P '\\' ∧ ¬ P '(' ∧ ¬ P ')' ∧ ¬ P '[') : isDelimiter c = false := by
  obtain ⟨noBackslash, noOpening, noClosing, noBracket⟩ := refused
  cases delimiter : isDelimiter c with
  | false => rfl
  | true =>
      simp only [isDelimiter, Bool.or_eq_true, beq_iff_eq] at delimiter
      rcases delimiter with ((rfl | rfl) | rfl) | rfl <;> contradiction

theorem step_start_plain {c : Char} (noDelimiter : isDelimiter c = false) :
    Nesting.start.step (plain c) = some Nesting.start := by
  simp only [isDelimiter, Bool.or_eq_false_iff, beq_eq_false_iff_ne] at noDelimiter
  rcases noDelimiter with ⟨⟨⟨_, noOpening⟩, noClosing⟩, noBracket⟩
  simp [Nesting.step, Nesting.plain, Nesting.start, noOpening, noClosing, noBracket]

theorem ne_backslash_of_isDelimiter {c : Char} (noDelimiter : isDelimiter c = false) :
    c ≠ '\\' := by
  rintro rfl
  simp [isDelimiter] at noDelimiter

theorem balanced_cons_iff {c : Char} (noDelimiter : isDelimiter c = false) {rest : List Char} :
    Balanced (c :: rest) ↔ Balanced rest := by
  have notBackslash := ne_backslash_of_isDelimiter noDelimiter
  have run_eq : Nesting.start.run (lex (c :: rest)) = Nesting.start.run (lex rest) := by
    rw [lex_plain notBackslash, Nesting.run_cons, step_start_plain noDelimiter, Option.bind_some]
  constructor
  · intro balanced
    exact ⟨(isComplete_plain notBackslash).mp balanced.isComplete, run_eq ▸ balanced.run_eq⟩
  · intro balanced
    exact ⟨(isComplete_plain notBackslash).mpr balanced.isComplete,
      run_eq.trans balanced.run_eq⟩

/-- A text without delimiters in front of another changes nothing. -/
theorem balanced_append_iff_of_noDelimiter {text : List Char}
    (noDelimiter : ∀ c ∈ text, isDelimiter c = false) {rest : List Char} :
    Balanced (text ++ rest) ↔ Balanced rest := by
  induction text with
  | nil => rfl
  | cons c before inductionHypothesis =>
      rw [List.cons_append, balanced_cons_iff (noDelimiter c List.mem_cons_self)]
      exact inductionHypothesis fun d member => noDelimiter d (List.mem_cons_of_mem c member)

theorem balanced_of_noDelimiter {text : List Char}
    (noDelimiter : ∀ c ∈ text, isDelimiter c = false) : Balanced text := by
  have balanced := (balanced_append_iff_of_noDelimiter noDelimiter).mpr balanced_nil
  rwa [List.append_nil] at balanced

/-! ## Putting texts together -/

theorem Balanced.run_append {text : List Char} (balanced : Balanced text) (rest : List Char) :
    Nesting.start.run (lex (text ++ rest)) = Nesting.start.run (lex rest) := by
  rw [lex_append balanced.isComplete, Nesting.run_append, balanced.run_eq, Option.bind_some]

theorem Balanced.append_iff {text : List Char} (balanced : Balanced text) {rest : List Char} :
    Balanced (text ++ rest) ↔ Balanced rest := by
  constructor
  · intro whole
    exact ⟨(isComplete_append balanced.isComplete).mp whole.isComplete,
      balanced.run_append rest ▸ whole.run_eq⟩
  · intro restBalanced
    exact ⟨(isComplete_append balanced.isComplete).mpr restBalanced.isComplete,
      (balanced.run_append rest).trans restBalanced.run_eq⟩

theorem Balanced.append {first second : List Char} (firstBalanced : Balanced first)
    (secondBalanced : Balanced second) : Balanced (first ++ second) :=
  firstBalanced.append_iff.mpr secondBalanced

/-- A text in parentheses. -/
def parenthesized (body : List Char) : List Char :=
  '(' :: (body ++ [')'])

theorem lex_parenthesized {body : List Char} (complete : IsComplete body) :
    lex (parenthesized body) = plain '(' :: (lex body ++ [plain ')']) := by
  rw [parenthesized, lex_plain (by decide), lex_append_plain complete (by decide)]

theorem Balanced.parenthesized {body : List Char} (balanced : Balanced body) :
    Balanced (parenthesized body) := by
  constructor
  · rw [Text.parenthesized, isComplete_plain (by decide), isComplete_append balanced.isComplete,
      isComplete_plain (by decide)]
    exact isComplete_nil
  · rw [lex_parenthesized balanced.isComplete, Nesting.run_cons]
    change Nesting.start.raised.run (lex body ++ [plain ')']) = _
    rw [Nesting.run_append, Nesting.run_raised balanced.run_eq]
    rfl

/-! ## Whole groups -/

namespace Nesting

theorem closesAtEnd_cons {nesting next : Nesting} {token : Token}
    (step : nesting.step token = some next) (rest : List Token) :
    nesting.closesAtEnd (token :: rest) =
      if next.isOuter && !nesting.isOuter then rest.isEmpty else next.closesAtEnd rest := by
  rw [closesAtEnd, step]

/-- As long as the scan is inside a group or class it goes on. -/
theorem closesAtEnd_cons_of_inner {nesting next : Nesting} {token : Token}
    (step : nesting.step token = some next) (inner : next.isOuter = false) (rest : List Token) :
    nesting.closesAtEnd (token :: rest) = next.closesAtEnd rest := by
  simp [closesAtEnd_cons step, inner]

/-- Inside a group the scan comes to no end while it reads balanced text. -/
theorem closesAtEnd_raised_append {nesting next : Nesting} {tokens : List Token}
    (run : nesting.run tokens = some next) (rest : List Token) :
    nesting.raised.closesAtEnd (tokens ++ rest) = next.raised.closesAtEnd rest := by
  induction tokens generalizing nesting with
  | nil => cases run; rfl
  | cons token before inductionHypothesis =>
      rcases Option.bind_eq_some_iff.mp run with ⟨middle, step, runBefore⟩
      rw [List.cons_append, closesAtEnd_cons_of_inner (step_raised step) (isOuter_raised middle)]
      exact inductionHypothesis runBefore

/-- If the last character is the parenthesis that closes the group, the run
over the text before it comes back to the position at the group's start. -/
theorem run_of_closesAtEnd_raised {nesting : Nesting} {body : List Char}
    (settled : nesting.IsSettled)
    (closes : nesting.raised.closesAtEnd (lex (body ++ [')'])) = true) :
    IsComplete body ∧ nesting.run (lex body) = some start := by
  induction body using lex_induction generalizing nesting with
  | nil =>
      constructor
      · exact isComplete_nil
      · rcases nesting with ⟨classes, groups, edge⟩
        simp only [List.nil_append, lex_plain (show ')' ≠ '\\' by decide), lex_nil, closesAtEnd,
          Nesting.step, plain, raised] at closes
        split_ifs at closes <;> simp_all [isOuter, IsSettled, start]
  | dangling =>
      simp [lex, closesAtEnd, Nesting.step, isOuter, raised] at closes
  | escape c rest inductionHypothesis =>
      have next : nesting.raised.step (.escape c) =
          some ({ nesting with edge := .inside } : Nesting).raised := rfl
      rw [List.cons_append, List.cons_append, lex_escape,
        closesAtEnd_cons_of_inner next (isOuter_raised _)] at closes
      obtain ⟨complete, run⟩ := inductionHypothesis (fun _ => rfl) closes
      exact ⟨isComplete_escape.mpr complete, run⟩
  | plain c rest notBackslash inductionHypothesis =>
      rw [List.cons_append, lex_plain notBackslash] at closes
      cases raisedStep : nesting.raised.step (Token.plain c) with
      | none => simp [closesAtEnd, raisedStep] at closes
      | some next =>
          rcases step_of_step_raised raisedStep with ⟨lower, step, rfl⟩ | ⟨_, noClass, noGroup, rfl⟩
          · rw [closesAtEnd_cons_of_inner raisedStep (isOuter_raised lower)] at closes
            obtain ⟨complete, run⟩ := inductionHypothesis (isSettled_step settled step) closes
            constructor
            · exact (isComplete_plain notBackslash).mpr complete
            · rw [lex_plain notBackslash, run_cons, step]
              exact run
          · -- The group is closed here, before the last character.
            have outer : isOuter { nesting with edge := .inside } = true := by
              simp [isOuter, noClass, noGroup]
            simp only [closesAtEnd_cons raisedStep, outer, isOuter_raised, Bool.not_false,
              Bool.and_self, if_true, List.isEmpty_iff] at closes
            have noTokens := flatMap_chars_lex (rest ++ [')'])
            rw [closes] at noTokens
            simp at noTokens

end Nesting

/-- The first parenthesis of a text is closed by the last one exactly when the
text between them is balanced. -/
theorem closesAtEnd_parenthesized_iff {body : List Char} :
    closesAtEnd (parenthesized body) = true ↔ Balanced body := by
  have opened : closesAtEnd (parenthesized body) =
      Nesting.start.raised.closesAtEnd (lex (body ++ [')'])) := by
    rw [closesAtEnd, parenthesized, lex_plain (by decide), Nesting.closesAtEnd]
    rfl
  rw [opened]
  constructor
  · intro closes
    obtain ⟨complete, run⟩ := Nesting.run_of_closesAtEnd_raised Nesting.isSettled_start closes
    exact ⟨complete, run⟩
  · intro balanced
    rw [lex_append_plain balanced.isComplete (by decide),
      Nesting.closesAtEnd_raised_append balanced.run_eq]
    rfl

/-! ## The end of the first group or class -/

namespace Nesting

/-- An accepting scan ends on the outside. -/
theorem exists_run_of_closesAtEnd {nesting : Nesting} {tokens : List Token}
    (closes : nesting.closesAtEnd tokens = true) :
    ∃ last, nesting.run tokens = some last ∧ last.isOuter = true := by
  induction tokens generalizing nesting with
  | nil => cases closes
  | cons token rest inductionHypothesis =>
      cases step : nesting.step token with
      | none => simp [closesAtEnd, step] at closes
      | some next =>
          rw [closesAtEnd_cons step] at closes
          rw [run_cons, step, Option.bind_some]
          split_ifs at closes with outside
          · rw [List.isEmpty_iff.mp closes]
            exact ⟨next, rfl, (Bool.and_eq_true_iff.mp outside).1⟩
          · exact inductionHypothesis closes

/-- A scan that comes to the outside has read the whole of an accepted text. -/
theorem eq_nil_of_run {nesting last : Nesting} {tokens rest : List Token}
    (inner : nesting.isOuter = false) (run : nesting.run tokens = some last)
    (outer : last.isOuter = true) (whole : nesting.closesAtEnd (tokens ++ rest) = true) :
    rest = [] := by
  induction tokens generalizing nesting with
  | nil =>
      cases run
      rw [inner] at outer
      cases outer
  | cons token before inductionHypothesis =>
      rcases Option.bind_eq_some_iff.mp run with ⟨next, step, runBefore⟩
      rw [List.cons_append, closesAtEnd_cons step] at whole
      split_ifs at whole with outside
      · rw [List.isEmpty_iff, List.append_eq_nil_iff] at whole
        exact whole.2
      · rw [inner, Bool.not_false, Bool.and_true, Bool.not_eq_true] at outside
        exact inductionHypothesis outside runBefore whole

/-- No accepted text continues another one. -/
theorem eq_nil_of_closesAtEnd_append {nesting : Nesting} {tokens rest : List Token}
    (closes : nesting.closesAtEnd tokens = true)
    (whole : nesting.closesAtEnd (tokens ++ rest) = true) : rest = [] := by
  induction tokens generalizing nesting with
  | nil => cases closes
  | cons token before inductionHypothesis =>
      cases step : nesting.step token with
      | none => simp [closesAtEnd, step] at closes
      | some next =>
          rw [closesAtEnd_cons step] at closes
          rw [List.cons_append, closesAtEnd_cons step] at whole
          split_ifs at closes whole
          · rw [List.isEmpty_iff, List.append_eq_nil_iff] at whole
            exact whole.2
          · exact inductionHypothesis closes whole

end Nesting

/-- A text that is one whole group or class is balanced. -/
theorem balanced_of_closesAtEnd {text : List Char} (complete : IsComplete text)
    (closes : closesAtEnd text = true) : Balanced text := by
  obtain ⟨last, run, outer⟩ := Nesting.exists_run_of_closesAtEnd closes
  have settled := Nesting.isSettled_run Nesting.isSettled_start run
  exact ⟨complete, Nesting.eq_start_of_isOuter settled outer ▸ run⟩

/-- A text that starts with a whole group or class and is one has nothing
after it. -/
theorem eq_nil_of_closesAtEnd_append {text rest : List Char} (complete : IsComplete text)
    (closes : closesAtEnd text = true) (whole : closesAtEnd (text ++ rest) = true) :
    rest = [] := by
  rw [closesAtEnd, lex_append complete] at whole
  have noTokens := Nesting.eq_nil_of_closesAtEnd_append closes whole
  rw [← flatMap_chars_lex rest, noTokens]
  rfl

/-- A single item: a balanced text that cannot be cut in two. -/
structure IsItem (text : List Char) : Prop where
  nonempty : text ≠ []
  balanced : Balanced text
  whole : ∀ front rest, text = front ++ rest → Balanced front → front = [] ∨ rest = []

/-- A text that is closed at its end comes back to the outside only there. -/
theorem eq_nil_of_closesAtEnd_delimited {c : Char} {before rest : List Char}
    (delimited : c = '(' ∨ c = '[') (balanced : Balanced (c :: before))
    (closes : closesAtEnd (c :: before ++ rest) = true) : rest = [] := by
  have opened : c ≠ '\\' ∧ ∃ next, Nesting.start.step (plain c) = some next ∧
      next.isOuter = false := by
    rcases delimited with rfl | rfl <;> exact ⟨by decide, _, rfl, rfl⟩
  obtain ⟨notBackslash, next, step, inner⟩ := opened
  have run := balanced.run_eq
  rw [lex_plain notBackslash, Nesting.run_cons, step, Option.bind_some] at run
  rw [closesAtEnd, lex_append balanced.isComplete, lex_plain notBackslash, List.cons_append,
    Nesting.closesAtEnd_cons_of_inner step inner] at closes
  have noTokens := Nesting.eq_nil_of_run inner run rfl closes
  rw [← flatMap_chars_lex rest, noTokens]
  rfl

/-- A whole group or class is a single item. -/
theorem isItem_of_closesAtEnd {text : List Char} (complete : IsComplete text)
    (delimited : text.head? = some '(' ∨ text.head? = some '[')
    (closes : closesAtEnd text = true) : IsItem text := by
  constructor
  · rintro rfl
    cases closes
  · exact balanced_of_closesAtEnd complete closes
  · rintro front rest rfl frontBalanced
    cases front with
    | nil => exact .inl rfl
    | cons c before =>
        have opening : c = '(' ∨ c = '[' := by simpa using delimited
        exact .inr (eq_nil_of_closesAtEnd_delimited opening frontBalanced closes)

/-- The parenthesis that closes the first group is determined by the text. -/
theorem parenthesized_append_inj {first second rest : List Char} (firstBalanced : Balanced first)
    (secondBalanced : Balanced second)
    (equal : parenthesized first ++ rest = parenthesized second) : first = second ∧ rest = [] := by
  have restEmpty : rest = [] := by
    apply eq_nil_of_closesAtEnd_append firstBalanced.parenthesized.isComplete
    · exact closesAtEnd_parenthesized_iff.mpr firstBalanced
    · rw [equal]
      exact closesAtEnd_parenthesized_iff.mpr secondBalanced
  subst restEmpty
  simpa [parenthesized] using equal

end PatternAlgebra.Text
