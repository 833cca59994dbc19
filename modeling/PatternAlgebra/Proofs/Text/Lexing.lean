import PatternAlgebra.Text.Token

/-!
# Reading joined texts in tokens

A text is complete when no backslash dangles at its end.  Only then may
another text be put after it without changing how it is read, and the tokens
of the whole are the tokens of its parts.
-/

namespace PatternAlgebra.Text.Token

/-- Induction on a text along its tokens. -/
@[elab_as_elim]
theorem lex_induction {motive : List Char → Prop} (text : List Char)
    (nil : motive [])
    (dangling : motive ['\\'])
    (escape : ∀ c rest, motive rest → motive ('\\' :: c :: rest))
    (plain : ∀ c rest, c ≠ '\\' → motive rest → motive (c :: rest)) : motive text := by
  fun_induction lex text with
  | case1 => exact nil
  | case2 => exact dangling
  | case3 c rest inductionHypothesis => exact escape c rest inductionHypothesis
  | case4 c rest notLast notEscape inductionHypothesis =>
      have notBackslash : c ≠ '\\' := by
        rintro rfl
        cases rest with
        | nil => exact notLast rfl rfl
        | cons d tail => exact notEscape d tail rfl rfl
      exact plain c rest notBackslash inductionHypothesis

/-- No backslash dangles at the end of the text. -/
def IsComplete (text : List Char) : Prop :=
  dangling ∉ lex text

instance (text : List Char) : Decidable (IsComplete text) :=
  inferInstanceAs (Decidable (dangling ∉ lex text))

@[simp]
theorem isComplete_nil : IsComplete [] := by
  simp [IsComplete]

@[simp]
theorem not_isComplete_dangling : ¬ IsComplete ['\\'] := by
  simp [IsComplete]

@[simp]
theorem isComplete_escape {c : Char} {rest : List Char} :
    IsComplete ('\\' :: c :: rest) ↔ IsComplete rest := by
  simp [IsComplete]

theorem isComplete_plain {c : Char} (notBackslash : c ≠ '\\') {rest : List Char} :
    IsComplete (c :: rest) ↔ IsComplete rest := by
  simp [IsComplete, lex_plain notBackslash]

/-- What follows a complete text is read as if it stood alone. -/
theorem lex_append {text : List Char} (complete : IsComplete text) (rest : List Char) :
    lex (text ++ rest) = lex text ++ lex rest := by
  induction text using lex_induction with
  | nil => rfl
  | dangling => exact absurd complete not_isComplete_dangling
  | escape c before inductionHypothesis =>
      simpa using inductionHypothesis (isComplete_escape.mp complete)
  | plain c before notBackslash inductionHypothesis =>
      rw [List.cons_append, lex_plain notBackslash, lex_plain notBackslash, List.cons_append,
        inductionHypothesis ((isComplete_plain notBackslash).mp complete)]

theorem isComplete_append {text : List Char} (complete : IsComplete text) {rest : List Char} :
    IsComplete (text ++ rest) ↔ IsComplete rest := by
  rw [IsComplete, lex_append complete, List.mem_append, not_or]
  exact and_iff_right complete

/-- A text without backslashes has one token for each character. -/
theorem lex_eq_map_plain {text : List Char} (noBackslash : '\\' ∉ text) :
    lex text = text.map plain := by
  induction text with
  | nil => rfl
  | cons c rest inductionHypothesis =>
      simp only [List.mem_cons, not_or] at noBackslash
      rw [lex_plain (Ne.symm noBackslash.1), inductionHypothesis noBackslash.2, List.map_cons]

theorem isComplete_of_not_mem {text : List Char} (noBackslash : '\\' ∉ text) :
    IsComplete text := by
  simp [IsComplete, lex_eq_map_plain noBackslash]

/-- One more character at the end of a complete text is one more token. -/
theorem lex_append_plain {text : List Char} (complete : IsComplete text) {c : Char}
    (notBackslash : c ≠ '\\') : lex (text ++ [c]) = lex text ++ [plain c] := by
  rw [lex_append complete, lex_plain notBackslash, lex_nil]

end PatternAlgebra.Text.Token
