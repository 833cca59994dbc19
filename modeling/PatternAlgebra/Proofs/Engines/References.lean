import Mathlib.Data.List.Basic

/-!
# References by number

A text may refer to a group by its number, in a reference or in the condition of a
group.  Whether it does is judged by the text alone and with caution: what stands in
a class or a comment counts too, and a comment in a group at the beginning of a group
is taken for one that hides a condition.

A pattern that is put between others goes on to refer to what it has referred to, and
one of the few characters that may be put after it adds no reference.
-/

namespace PatternAlgebra.Reader

/-- A name begins here, in angle brackets or quotes. -/
def givesName : List Char → Bool
  | mark :: first :: _ => (mark == '<' || mark == '\'') && (first.isAlpha || first == '_')
  | _ => false

/-- What follows an opening parenthesis makes the group depend on another one that is
given by its number, be it after blanks and comments; the flag says that a comment is
open.  A comment in a group is taken for one that hides such a condition. -/
def opensCondition : Bool → List Char → Bool
  | _, [] => false
  | true, c :: rest => opensCondition (c != '\n') rest
  | false, '#' :: rest => opensCondition true rest
  | false, '(' :: '?' :: '#' :: _ => true
  | false, '?' :: '(' :: rest => !(givesName rest || rest.head? == some '?')
  | false, c :: rest => c.isWhitespace && opensCondition false rest

/-- The text refers to a group by its number: with a backslash and a digit, with a
reference that gives no name, or in a condition. -/
def refersByNumber : List Char → Bool
  | [] => false
  | '\\' :: c :: rest =>
      c.isDigit || (c == 'k' || c == 'g') && !givesName rest || refersByNumber rest
  | '(' :: rest => opensCondition false rest || refersByNumber rest
  | _ :: rest => refersByNumber rest

variable {text tail : List Char}

/-! ## What is put after a text -/

/-- The characters that may stand after a pattern and are in no reference. -/
abbrev separators : List Char :=
  [')', '|', '\n']

variable {between : Char} (separates : between ∈ separators)

/-- A separator decides nothing about what begins at the end of a text. -/
theorem givesName_append (separates : between ∈ separators) :
    givesName (text ++ between :: tail) = givesName text := by
  simp only [List.mem_cons, List.not_mem_nil, or_false] at separates
  match text with
  | [] => rcases separates with rfl | rfl | rfl <;> cases tail <;> rfl
  | [mark] => rcases separates with rfl | rfl | rfl <;> simp [givesName]
  | _ :: _ :: _ => rfl

theorem head?_append_eq_mark (separates : between ∈ separators) :
    ((text ++ between :: tail).head? == some '?') = (text.head? == some '?') := by
  cases text with
  | nil =>
      have other : between ≠ '?' := by
        rintro rfl
        exact absurd separates (by decide)
      simp [other]
  | cons c rest => rfl

theorem opensCondition_blank {c : Char} (blank : c.isWhitespace = true) :
    opensCondition false (c :: text) = opensCondition false text := by
  rw [opensCondition, blank, Bool.true_and]
  · rintro rfl
    cases blank
  · rintro _ rfl
    cases blank
  · rintro _ rfl
    cases blank

/-- What comes later does not undo a condition. -/
theorem opensCondition_append {between : Char} (separates : between ∈ separators)
    {comment : Bool} (opens : opensCondition comment text = true) :
    opensCondition comment (text ++ between :: tail) = true := by
  fun_induction opensCondition comment text with
  | case1 => cases opens
  | case2 c rest inductionHypothesis => exact inductionHypothesis opens
  | case3 rest inductionHypothesis => exact inductionHypothesis opens
  | case4 => rfl
  | case5 rest =>
      rw [← givesName_append separates, ← head?_append_eq_mark separates] at opens
      exact opens
  | case6 c rest _ _ _ inductionHypothesis =>
      obtain ⟨blank, later⟩ := (Bool.and_eq_true _ _).mp opens
      rw [List.cons_append, opensCondition_blank blank]
      exact inductionHypothesis later

theorem isPrefix_of_concat {between : Char} (front : List Char)
    (separates : between ∈ separators) (other : ∀ c ∈ separators, c ∉ front)
    (starts : front <+: text ++ [between]) : front <+: text := by
  refine (List.prefix_concat_iff.mp starts).resolve_left ?_
  rintro rfl
  exact other between separates (by simp)

/-- No condition begins with such a character. -/
theorem opensCondition_concat {between : Char} (separates : between ∈ separators)
    {comment : Bool} (opens : opensCondition comment (text ++ [between]) = true) :
    opensCondition comment text = true := by
  fun_induction opensCondition comment text with
  | case1 comment =>
      simp only [List.mem_cons, List.not_mem_nil, or_false] at separates
      rcases separates with rfl | rfl | rfl <;> cases comment <;> cases opens
  | case2 c rest inductionHypothesis => exact inductionHypothesis opens
  | case3 rest inductionHypothesis => exact inductionHypothesis opens
  | case4 => rfl
  | case5 rest =>
      rw [← givesName_append separates, ← head?_append_eq_mark separates]
      exact opens
  | case6 c rest noComment noGroup noCondition inductionHypothesis =>
      have unfolded : opensCondition false (c :: (rest ++ [between])) =
          (c.isWhitespace && opensCondition false (rest ++ [between])) := by
        rw [opensCondition]
        · exact noComment
        · rintro others rfl split
          obtain ⟨after, rfl⟩ := isPrefix_of_concat ['?', '#'] separates (by simp)
            ⟨others, split.symm⟩
          exact noGroup after rfl rfl
        · rintro others rfl split
          obtain ⟨after, rfl⟩ := isPrefix_of_concat ['('] separates (by simp)
            ⟨others, split.symm⟩
          exact noCondition after rfl rfl
      rw [List.cons_append, unfolded] at opens
      obtain ⟨blank, later⟩ := (Bool.and_eq_true _ _).mp opens
      exact (Bool.and_eq_true _ _).mpr ⟨blank, inductionHypothesis later⟩

theorem refersByNumber_cons {c : Char} (noEscape : c ≠ '\\') (noOpening : c ≠ '(') :
    refersByNumber (c :: text) = refersByNumber text := by
  rw [refersByNumber]
  · exact fun _ _ escape => absurd escape noEscape
  · exact noOpening

theorem refersByNumber_separator (separates : between ∈ separators) :
    refersByNumber (between :: tail) = refersByNumber tail :=
  refersByNumber_cons (ne_of_mem_of_not_mem separates (by decide))
    (ne_of_mem_of_not_mem separates (by decide))

/-- Texts with a separator between them refer to what each of them refers to. -/
theorem refersByNumber_append (separates : between ∈ separators)
    (refers : refersByNumber text = true ∨ refersByNumber tail = true) :
    refersByNumber (text ++ between :: tail) = true := by
  fun_induction refersByNumber text with
  | case1 =>
      rw [List.nil_append, refersByNumber_separator separates]
      exact refers.resolve_left Bool.false_ne_true
  | case2 c rest inductionHypothesis =>
      simp only [List.cons_append, refersByNumber, givesName_append separates, Bool.or_eq_true]
        at refers ⊢
      rcases refers with (here | later) | inTail
      · exact .inl here
      · exact .inr (inductionHypothesis (.inl later))
      · exact .inr (inductionHypothesis (.inr inTail))
  | case3 rest inductionHypothesis =>
      simp only [List.cons_append, refersByNumber, Bool.or_eq_true] at refers ⊢
      rcases refers with (here | later) | inTail
      · exact .inl (opensCondition_append separates here)
      · exact .inr (inductionHypothesis (.inl later))
      · exact .inr (inductionHypothesis (.inr inTail))
  | case4 c rest notEscape notOpening inductionHypothesis =>
      by_cases escape : c = '\\'
      · -- The separator is what the backslash escapes.
        cases rest with
        | nil =>
            simp only [escape, List.singleton_append, refersByNumber, Bool.or_eq_true]
            exact .inr (refers.resolve_left Bool.false_ne_true)
        | cons d others => exact (notEscape d others escape rfl).elim
      · rw [List.cons_append, refersByNumber_cons escape notOpening]
        exact inductionHypothesis refers

/-- If nothing refers by number in two texts with a separator between them, nothing
does in either. -/
theorem refersByNumber_sides (separates : between ∈ separators)
    (unnumbered : refersByNumber (text ++ between :: tail) = false) :
    refersByNumber text = false ∧ refersByNumber tail = false := by
  rw [← Bool.not_eq_true, ← Bool.not_eq_true, ← not_or]
  intro refers
  cases unnumbered.symm.trans (refersByNumber_append separates refers)

/-- A separator after a text adds no reference. -/
theorem refersByNumber_concat (separates : between ∈ separators) :
    refersByNumber (text ++ [between]) = refersByNumber text := by
  refine Bool.eq_iff_iff.mpr ⟨fun refers => ?_, fun refers =>
    refersByNumber_append separates (.inl refers)⟩
  fun_induction refersByNumber text with
  | case1 => rwa [List.nil_append, refersByNumber_separator separates] at refers
  | case2 c rest inductionHypothesis =>
      simp only [List.cons_append, refersByNumber, givesName_append separates, Bool.or_eq_true]
        at refers ⊢
      exact refers.imp_right inductionHypothesis
  | case3 rest inductionHypothesis =>
      simp only [List.cons_append, refersByNumber, Bool.or_eq_true] at refers ⊢
      exact refers.imp (opensCondition_concat separates) inductionHypothesis
  | case4 c rest notEscape notOpening inductionHypothesis =>
      by_cases escape : c = '\\'
      · cases rest with
        | nil =>
            rw [escape] at refers
            simp only [List.mem_cons, List.not_mem_nil, or_false] at separates
            rcases separates with rfl | rfl | rfl <;> cases refers
        | cons d others => exact (notEscape d others escape rfl).elim
      · rw [List.cons_append, refersByNumber_cons escape notOpening] at refers
        exact inductionHypothesis refers

end PatternAlgebra.Reader
