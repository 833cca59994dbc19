import PatternAlgebra.Proofs.Nesting.Balanced

/-!
# Character classes

The grammar of a class in brackets: the opening bracket takes a caret and then
a closing bracket with it if they come next, the inside is a sequence of
characters, escapes and nested classes, and a closing bracket ends it.  The
scan agrees with the grammar: a text that opens with a bracket is one whole
class exactly when `closesAtEnd` accepts it.
-/

namespace PatternAlgebra.Text

open Token

/-- What an opening bracket takes with it, in front of the given inside: a
caret if one comes next and then a closing bracket if one comes next. -/
inductive IsClassLead : List Char → List Char → Prop where
  | none {body : List Char} : body ≠ [] → body.head? ≠ some '^' → IsClassLead [] body
  | bracket {body : List Char} : IsClassLead [']'] body
  | caret {body : List Char} : body ≠ [] → IsClassLead ['^'] body
  | caretBracket {body : List Char} : IsClassLead ['^', ']'] body

/-- The inside of a class: characters, escapes and nested classes. -/
inductive IsClassBody : List Char → Prop where
  | nil : IsClassBody []
  | member {c : Char} {rest : List Char} : c ≠ '\\' → c ≠ '[' → c ≠ ']' → IsClassBody rest →
      IsClassBody (c :: rest)
  | escape {c : Char} {rest : List Char} : IsClassBody rest → IsClassBody ('\\' :: c :: rest)
  | nested {lead body rest : List Char} : IsClassLead lead body → IsClassBody body →
      IsClassBody rest → IsClassBody ('[' :: (lead ++ body ++ ']' :: rest))

/-- One whole class. -/
def IsClass (text : List Char) : Prop :=
  ∃ lead body, IsClassLead lead body ∧ IsClassBody body ∧ text = '[' :: (lead ++ body ++ [']'])

/-- The first character inside a class is not a closing bracket. -/
theorem IsClassBody.head?_ne {body : List Char} (grammar : IsClassBody body) :
    body.head? ≠ some ']' := by
  cases grammar with
  | nil => simp
  | member _ _ notClosing _ => simpa using notClosing
  | escape _ => simp
  | nested _ _ _ => simp

theorem IsClassLead.isComplete_append {lead body : List Char} (grammar : IsClassLead lead body)
    {rest : List Char} : IsComplete (lead ++ rest) ↔ IsComplete rest := by
  apply Token.isComplete_append
  cases grammar <;> decide

theorem IsClassBody.isComplete {body : List Char} (grammar : IsClassBody body) :
    IsComplete body := by
  induction grammar with
  | nil => exact isComplete_nil
  | member notBackslash _ _ _ inductionHypothesis =>
      exact (isComplete_plain notBackslash).mpr inductionHypothesis
  | escape _ inductionHypothesis => exact isComplete_escape.mpr inductionHypothesis
  | nested lead _ _ bodyHypothesis restHypothesis =>
      rw [isComplete_plain (by decide), List.append_assoc, lead.isComplete_append,
        isComplete_append bodyHypothesis, isComplete_plain (by decide)]
      exact restHypothesis

theorem IsClass.isComplete {text : List Char} (grammar : IsClass text) : IsComplete text := by
  obtain ⟨lead, body, isLead, isBody, rfl⟩ := grammar
  rw [isComplete_plain (by decide), List.append_assoc, isLead.isComplete_append,
    isComplete_append isBody.isComplete, isComplete_plain (by decide)]
  exact isComplete_nil

/-! ## From the grammar to the scan -/

namespace Nesting

theorem closesAtEnd_openBracket (classes groups : Nat) (edge : Edge) (rest : List Token) :
    closesAtEnd ⟨classes, groups, edge⟩ (.plain '[' :: rest) =
      closesAtEnd ⟨classes + 1, groups, .opened⟩ rest :=
  closesAtEnd_cons_of_inner rfl rfl rest

theorem closesAtEnd_closeBracket (classes groups : Nat) (rest : List Token) :
    closesAtEnd ⟨classes + 2, groups, .inside⟩ (.plain ']' :: rest) =
      closesAtEnd ⟨classes + 1, groups, .inside⟩ rest :=
  closesAtEnd_cons_of_inner rfl rfl rest

theorem closesAtEnd_member {classes groups : Nat} {c : Char} (notOpening : c ≠ '[')
    (notClosing : c ≠ ']') (rest : List Token) :
    closesAtEnd ⟨classes + 1, groups, .inside⟩ (.plain c :: rest) =
      closesAtEnd ⟨classes + 1, groups, .inside⟩ rest := by
  apply closesAtEnd_cons_of_inner
  · simp [Nesting.step, Nesting.plain, notOpening, notClosing]
  · rfl

/-- After a caret that negates, only a closing bracket is read in its own way. -/
theorem closesAtEnd_negated {classes groups : Nat} {text : List Char}
    (noBracket : text.head? ≠ some ']') :
    closesAtEnd ⟨classes, groups, .negated⟩ (lex text) =
      closesAtEnd ⟨classes, groups, .inside⟩ (lex text) := by
  cases text using lex_induction with
  | nil => rfl
  | dangling => rfl
  | escape c rest => rfl
  | plain c rest notBackslash =>
      have notClosing : c ≠ ']' := by simpa using noBracket
      simp [lex_plain notBackslash, closesAtEnd, Nesting.step, Nesting.plain, notClosing, isOuter]

/-- After an opening bracket, a caret and a closing bracket are read in their
own way. -/
theorem closesAtEnd_opened {classes groups : Nat} {text : List Char}
    (noBracket : text.head? ≠ some ']') (noCaret : text.head? ≠ some '^') :
    closesAtEnd ⟨classes, groups, .opened⟩ (lex text) =
      closesAtEnd ⟨classes, groups, .inside⟩ (lex text) := by
  cases text using lex_induction with
  | nil => rfl
  | dangling => rfl
  | escape c rest => rfl
  | plain c rest notBackslash =>
      have notClosing : c ≠ ']' := by simpa using noBracket
      have notCaret : c ≠ '^' := by simpa using noCaret
      simp [lex_plain notBackslash, closesAtEnd, Nesting.step, Nesting.plain, notClosing, notCaret,
        isOuter]

theorem closesAtEnd_lead {classes groups : Nat} {lead body : List Char}
    (grammar : IsClassLead lead body) (isBody : IsClassBody body) (rest : List Char) :
    closesAtEnd ⟨classes + 1, groups, .opened⟩ (lex (lead ++ (body ++ rest))) =
      closesAtEnd ⟨classes + 1, groups, .inside⟩ (lex (body ++ rest)) := by
  have noBracket : body ≠ [] → (body ++ rest).head? ≠ some ']' := by
    intro nonempty
    obtain ⟨c, tail, rfl⟩ := List.exists_cons_of_ne_nil nonempty
    exact isBody.head?_ne
  cases grammar with
  | none nonempty noCaret =>
      obtain ⟨c, tail, rfl⟩ := List.exists_cons_of_ne_nil nonempty
      exact closesAtEnd_opened (noBracket nonempty) noCaret
  | bracket => rfl
  | caret nonempty => exact closesAtEnd_negated (noBracket nonempty)
  | caretBracket => rfl

/-- The scan passes over the inside of a class. -/
theorem closesAtEnd_body {classes groups : Nat} {body : List Char} (grammar : IsClassBody body)
    (rest : List Char) :
    closesAtEnd ⟨classes + 1, groups, .inside⟩ (lex (body ++ rest)) =
      closesAtEnd ⟨classes + 1, groups, .inside⟩ (lex rest) := by
  induction grammar generalizing classes rest with
  | nil => rfl
  | member notBackslash notOpening notClosing _ inductionHypothesis =>
      rw [List.cons_append, lex_plain notBackslash, closesAtEnd_member notOpening notClosing]
      exact inductionHypothesis rest
  | escape _ inductionHypothesis =>
      rw [List.cons_append, List.cons_append, lex_escape]
      exact inductionHypothesis rest
  | @nested lead body after isLead isBody _ bodyHypothesis afterHypothesis =>
      rw [List.cons_append, lex_plain (by decide), closesAtEnd_openBracket]
      simp only [List.append_assoc, List.cons_append]
      rw [closesAtEnd_lead isLead isBody, bodyHypothesis, lex_plain (by decide),
        closesAtEnd_closeBracket]
      exact afterHypothesis rest

end Nesting

/-- A class is closed by its last character and not before. -/
theorem IsClass.closesAtEnd {text : List Char} (grammar : IsClass text) :
    closesAtEnd text = true := by
  obtain ⟨lead, body, isLead, isBody, rfl⟩ := grammar
  rw [Text.closesAtEnd, lex_plain (by decide), Nesting.start, Nesting.closesAtEnd_openBracket,
    List.append_assoc, Nesting.closesAtEnd_lead isLead isBody, Nesting.closesAtEnd_body isBody]
  rfl

/-! ## From the scan to the grammar -/

namespace Nesting

/-- What the scan takes with an opening bracket. -/
theorem exists_lead_of_closesAtEnd {classes : Nat} {text : List Char}
    (closes : closesAtEnd ⟨classes + 1, 0, .opened⟩ (lex text) = true) :
    ∃ lead rest, text = lead ++ rest ∧
      closesAtEnd ⟨classes + 1, 0, .inside⟩ (lex rest) = true ∧
      ∀ body after, IsClassBody body → rest = body ++ ']' :: after → IsClassLead lead body := by
  by_cases bracket : text.head? = some ']'
  · obtain ⟨rest, rfl⟩ := List.head?_eq_some_iff.mp bracket
    exact ⟨[']'], rest, rfl, closes, fun _ _ _ _ => .bracket⟩
  by_cases caret : text.head? = some '^'
  · obtain ⟨rest, rfl⟩ := List.head?_eq_some_iff.mp caret
    by_cases caretBracket : rest.head? = some ']'
    · obtain ⟨rest, rfl⟩ := List.head?_eq_some_iff.mp caretBracket
      exact ⟨['^', ']'], rest, rfl, closes, fun _ _ _ _ => .caretBracket⟩
    · have isLead : ∀ body after, IsClassBody body → rest = body ++ ']' :: after →
          IsClassLead ['^'] body := by
        rintro body after _ rfl
        apply IsClassLead.caret
        rintro rfl
        exact caretBracket rfl
      exact ⟨['^'], rest, rfl, (closesAtEnd_negated caretBracket).symm.trans closes, isLead⟩
  · have isLead : ∀ body after, IsClassBody body → text = body ++ ']' :: after →
        IsClassLead [] body := by
      rintro body after _ rfl
      cases body with
      | nil => exact absurd rfl bracket
      | cons c tail => exact .none (List.cons_ne_nil c tail) caret
    exact ⟨[], text, rfl, (closesAtEnd_opened bracket caret).symm.trans closes, isLead⟩

/-- A closing bracket leaves one class. -/
theorem leaves_of_closesAtEnd_closeBracket {classes : Nat} {rest : List Char}
    (closes : closesAtEnd ⟨classes + 1, 0, .inside⟩ (.plain ']' :: lex rest) = true) :
    if classes = 0 then rest = [] else closesAtEnd ⟨classes, 0, .inside⟩ (lex rest) = true := by
  have step : Nesting.step ⟨classes + 1, 0, .inside⟩ (.plain ']') =
      some ⟨classes, 0, .inside⟩ := rfl
  rw [closesAtEnd_cons step] at closes
  split_ifs with outside
  · subst outside
    have noTokens : lex rest = [] := by simpa [isOuter] using closes
    rw [← flatMap_chars_lex rest, noTokens]
    rfl
  · simpa [isOuter, outside] using closes

/-- A scan that comes to the outside leaves the innermost class first. -/
theorem exists_body_of_closesAtEnd (classes : Nat) (text : List Char)
    (closes : closesAtEnd ⟨classes + 1, 0, .inside⟩ (lex text) = true) :
    ∃ body rest, IsClassBody body ∧ text = body ++ ']' :: rest ∧
      if classes = 0 then rest = [] else closesAtEnd ⟨classes, 0, .inside⟩ (lex rest) = true := by
  induction bound : text.length using Nat.strongRecOn generalizing classes text with
  | ind length inductionHypothesis =>
      subst bound
      cases text using lex_induction with
      | nil => cases closes
      | dangling => cases closes
      | escape c rest =>
          obtain ⟨body, after, isBody, rfl, leaves⟩ :=
            inductionHypothesis _ (by simp only [List.length_cons]; omega) classes rest closes rfl
          exact ⟨'\\' :: c :: body, after, .escape isBody, rfl, leaves⟩
      | plain c rest notBackslash =>
          rw [lex_plain notBackslash] at closes
          by_cases closing : c = ']'
          · subst closing
            exact ⟨[], rest, .nil, rfl, leaves_of_closesAtEnd_closeBracket closes⟩
          by_cases opening : c = '['
          · -- A nested class takes up the text to its closing bracket; the rest of
            -- the inside comes after it.
            subst opening
            rw [closesAtEnd_openBracket] at closes
            obtain ⟨lead, inner, rfl, innerCloses, isLead⟩ := exists_lead_of_closesAtEnd closes
            have innerShorter : inner.length < ('[' :: (lead ++ inner)).length := by
              rw [List.length_cons, List.length_append]
              omega
            obtain ⟨body, after, isBody, rfl, innerLeaves⟩ :=
              inductionHypothesis _ innerShorter (classes + 1) inner innerCloses rfl
            rw [if_neg (Nat.succ_ne_zero classes)] at innerLeaves
            have afterShorter : after.length < ('[' :: (lead ++ (body ++ ']' :: after))).length := by
              rw [List.length_cons, List.length_append, List.length_append, List.length_cons]
              omega
            obtain ⟨outerBody, rest, isOuterBody, rfl, leaves⟩ :=
              inductionHypothesis _ afterShorter classes after innerLeaves rfl
            have isWhole := IsClassBody.nested (isLead body _ isBody rfl) isBody isOuterBody
            exact ⟨'[' :: (lead ++ body ++ ']' :: outerBody), rest, isWhole, by simp, leaves⟩
          · rw [closesAtEnd_member opening closing] at closes
            obtain ⟨body, after, isBody, rfl, leaves⟩ :=
              inductionHypothesis _ (by simp) classes rest closes rfl
            exact ⟨c :: body, after, .member notBackslash opening closing isBody, rfl, leaves⟩

end Nesting

/-- A text is one whole class exactly when it starts with a bracket that its
last character closes. -/
theorem isClass_iff_closesAtEnd {text : List Char} :
    IsClass text ↔ text.head? = some '[' ∧ closesAtEnd text = true := by
  constructor
  · intro grammar
    constructor
    · obtain ⟨lead, body, _, _, rfl⟩ := grammar
      rfl
    · exact grammar.closesAtEnd
  · rintro ⟨opening, closes⟩
    obtain ⟨rest, rfl⟩ := List.head?_eq_some_iff.mp opening
    rw [closesAtEnd, lex_plain (by decide), Nesting.start, Nesting.closesAtEnd_openBracket]
      at closes
    obtain ⟨lead, inner, rfl, innerCloses, isLead⟩ := Nesting.exists_lead_of_closesAtEnd closes
    obtain ⟨body, after, isBody, rfl, leaves⟩ :=
      Nesting.exists_body_of_closesAtEnd 0 inner innerCloses
    rw [if_pos rfl] at leaves
    subst leaves
    exact ⟨lead, body, isLead body [] isBody rfl, isBody, by simp⟩

instance (text : List Char) : Decidable (IsClass text) :=
  decidable_of_iff _ isClass_iff_closesAtEnd.symm

theorem IsClass.balanced {text : List Char} (grammar : IsClass text) : Balanced text :=
  balanced_of_closesAtEnd grammar.isComplete grammar.closesAtEnd

end PatternAlgebra.Text
