import PatternAlgebra.Proofs.Nesting.CharClass
import PatternAlgebra.Proofs.Pattern.Quantified

/-!
# The grammar of patterns

A pattern is a sequence of branches with bars between them, a branch a
sequence of atoms, each with a quantifier behind it or not, and an atom a
character, an escape, a class or a group around a pattern.  So a quantifier
always has an atom to repeat.

Texts of the grammar are balanced, they can be put one after the other, and
what a group of the grammar holds is of the grammar.
-/

namespace PatternAlgebra.Text

open Token

/-- A quantifier that repeats as often or as seldom as it can, or none. -/
inductive IsSuffix : List Char → Prop where
  | none : IsSuffix []
  | greedy {suffix : List Char} : IsQuantifier suffix → IsSuffix suffix
  | lazy {suffix : List Char} : IsQuantifier suffix → IsSuffix (suffix ++ ['?'])

/-- The sorts of texts that the grammar generates. -/
inductive Part where
  | pattern
  | branch
  | atom
  deriving DecidableEq, Repr

/-- The characters that stand for something else than themselves outside
classes.  A brace or a bracket that closes is not among them. -/
def operators : List Char :=
  ['\\', '(', ')', '[', '|', '*', '+', '?', '{']

/-- The characters that the argument of an escape cannot hold. -/
def delimiters : List Char :=
  ['\\', '(', ')', '[', '{', '}']

/-- The grammar of patterns. -/
inductive Generates : Part → List Char → Prop where
  | single {branch : List Char} : Generates .branch branch → Generates .pattern branch
  | bar {branch rest : List Char} : Generates .branch branch → Generates .pattern rest →
      Generates .pattern (branch ++ '|' :: rest)
  | nil : Generates .branch []
  | item {atom suffix rest : List Char} : Generates .atom atom → IsSuffix suffix →
      Generates .branch rest → Generates .branch (atom ++ (suffix ++ rest))
  | character {c : Char} : c ∉ operators → Generates .atom [c]
  | escape {c : Char} : c ∉ argumentLetters → Generates .atom ['\\', c]
  | argument {letter : Char} {argument : List Char} : letter ∈ argumentLetters → argument ≠ [] →
      (∀ c ∈ argument, c ∉ delimiters) →
      Generates .atom ('\\' :: letter :: '{' :: (argument ++ ['}']))
  | charClass {text : List Char} : IsClass text → Generates .atom text
  | group {opening : Opening} {body : List Char} : opening.IsValid → Generates .pattern body →
      Generates .atom (opening.enclose body)

/-- The text is a pattern of the grammar. -/
def IsPattern (text : List Char) : Prop :=
  Generates .pattern text

/-! ## Texts of the grammar are balanced -/

theorem IsSuffix.isDelimiter_eq_false {suffix : List Char} (grammar : IsSuffix suffix) :
    ∀ c ∈ suffix, isDelimiter c = false := by
  cases grammar with
  | none => nofun
  | greedy quantifier => exact quantifier.isDelimiter_eq_false
  | lazy quantifier =>
      rw [List.forall_mem_append]
      exact ⟨quantifier.isDelimiter_eq_false, by simp [isDelimiter]⟩

theorem IsSuffix.balanced {suffix : List Char} (grammar : IsSuffix suffix) : Balanced suffix :=
  balanced_of_noDelimiter grammar.isDelimiter_eq_false

theorem Generates.balanced {part : Part} {text : List Char} (generated : Generates part text) :
    Balanced text := by
  induction generated with
  | single _ inductionHypothesis => exact inductionHypothesis
  | bar _ _ branchBalanced restBalanced =>
      exact branchBalanced.append ((balanced_cons_iff rfl).mpr restBalanced)
  | nil => exact balanced_nil
  | item _ suffix _ atomBalanced restBalanced =>
      exact atomBalanced.append (suffix.balanced.append restBalanced)
  | @character c ordinary =>
      have noDelimiter : isDelimiter c = false :=
        isDelimiter_eq_false_of (· ∉ operators) ordinary (by decide)
      exact (balanced_cons_iff noDelimiter).mpr balanced_nil
  | @escape c _ => exact balanced_escape c
  | @argument letter argument _ _ ordinary =>
      have inner : ∀ c ∈ argument, isDelimiter c = false := by
        intro c member
        exact isDelimiter_eq_false_of (· ∉ delimiters) (ordinary c member) (by decide)
      have braces : ∀ c ∈ '{' :: (argument ++ ['}']), isDelimiter c = false := by
        simp only [List.forall_mem_cons, List.forall_mem_append]
        exact ⟨rfl, inner, by simp [isDelimiter]⟩
      exact (balanced_escape letter).append (balanced_of_noDelimiter braces)
  | charClass grammar => exact grammar.balanced
  | group valid _ bodyBalanced => exact valid.balanced_enclose bodyBalanced

/-! ## How texts of the grammar start -/

/-- The characters that need an atom before them. -/
def signs : List Char :=
  ['?', '*', '+', '{']

theorem Generates.exists_head_of_atom {atom : List Char} (generated : Generates .atom atom) :
    ∃ c rest, atom = c :: rest ∧ c ∉ signs ∧ c ≠ '|' := by
  cases generated with
  | @character c ordinary =>
      have signsAmong : ∀ d ∈ signs, d ∈ operators := by simp [signs, operators]
      have notBar : c ≠ '|' := by
        rintro rfl
        exact ordinary (by decide)
      exact ⟨c, [], rfl, fun isSign => ordinary (signsAmong c isSign), notBar⟩
  | escape => exact ⟨_, _, rfl, by decide, by decide⟩
  | argument => exact ⟨_, _, rfl, by decide, by decide⟩
  | charClass grammar =>
      obtain ⟨lead, body, _, _, rfl⟩ := grammar
      exact ⟨_, _, rfl, by decide, by decide⟩
  | group => exact ⟨_, _, rfl, by decide, by decide⟩

/-- A pattern that is not empty starts with a bar or with an atom. -/
theorem IsPattern.start_cases {text : List Char} (isPattern : IsPattern text) :
    text = [] ∨ (∃ rest, IsPattern rest ∧ text = '|' :: rest) ∨
      ∃ atom rest, Generates .atom atom ∧ text = atom ++ rest := by
  cases isPattern with
  | single branch =>
      cases branch with
      | nil => exact .inl rfl
      | @item atom suffix rest isAtom _ _ => exact .inr (.inr ⟨atom, suffix ++ rest, isAtom, rfl⟩)
  | @bar branch rest isBranch isRest =>
      cases isBranch with
      | nil => exact .inr (.inl ⟨rest, isRest, rfl⟩)
      | @item atom suffix after isAtom _ _ =>
          exact .inr (.inr ⟨atom, suffix ++ after ++ '|' :: rest, isAtom, by simp⟩)

/-- A pattern does not start with a sign. -/
theorem IsPattern.head?_ne {text : List Char} (isPattern : IsPattern text) {sign : Char}
    (isSign : sign ∈ signs) : text.head? ≠ some sign := by
  rcases isPattern.start_cases with rfl | ⟨rest, _, rfl⟩ | ⟨atom, rest, isAtom, rfl⟩
  · simp
  · intro equal
    cases equal
    exact absurd isSign (by decide)
  · obtain ⟨c, after, rfl, notSign, _⟩ := isAtom.exists_head_of_atom
    intro equal
    cases equal
    exact notSign isSign

/-! ## Putting patterns together -/

theorem Generates.append_branch {part : Part} {first second : List Char}
    (firstBranch : Generates part first) (isBranch : part = .branch)
    (secondBranch : Generates .branch second) : Generates .branch (first ++ second) := by
  induction firstBranch with
  | nil => exact secondBranch
  | item atom suffix _ _ inductionHypothesis =>
      simpa using Generates.item atom suffix (inductionHypothesis isBranch)
  | _ => cases isBranch

theorem Generates.append_pattern {part : Part} {first second : List Char}
    (firstPattern : Generates part first) (isPattern : part = .pattern)
    (secondPattern : Generates .pattern second) : Generates .pattern (first ++ second) := by
  induction firstPattern with
  | single firstBranch _ =>
      cases secondPattern with
      | single secondBranch => exact .single (firstBranch.append_branch rfl secondBranch)
      | bar secondBranch rest =>
          rw [← List.append_assoc]
          exact .bar (firstBranch.append_branch rfl secondBranch) rest
  | bar branch _ _ inductionHypothesis =>
      simpa using Generates.bar branch (inductionHypothesis isPattern)
  | _ => cases isPattern

theorem IsPattern.append {first second : List Char} (firstPattern : IsPattern first)
    (secondPattern : IsPattern second) : IsPattern (first ++ second) :=
  Generates.append_pattern firstPattern rfl secondPattern

theorem isPattern_nil : IsPattern [] :=
  .single .nil

/-- A bar can stand between any patterns. -/
theorem IsPattern.append_bar {first second : List Char} (firstPattern : IsPattern first)
    (secondPattern : IsPattern second) : IsPattern (first ++ '|' :: second) :=
  firstPattern.append (.bar .nil secondPattern)

/-- An atom is a pattern, with a quantifier behind it or not. -/
theorem isPattern_of_atom {atom suffix : List Char} (isAtom : Generates .atom atom)
    (isSuffix : IsSuffix suffix) : IsPattern (atom ++ suffix) := by
  have branch := Generates.item isAtom isSuffix .nil
  rw [List.append_nil] at branch
  exact .single branch

/-! ## What groups hold -/

theorem IsPattern.balanced {text : List Char} (isPattern : IsPattern text) : Balanced text :=
  Generates.balanced isPattern

theorem IsPattern.fits {body : List Char} (isPattern : IsPattern body) {opening : Opening}
    (valid : opening.IsValid) : opening.Fits body :=
  ⟨valid, fun _ => isPattern.head?_ne (by decide)⟩

/-- A pattern that starts with a whole group starts with an atom that is this
group, and what the group holds is a pattern. -/
theorem IsPattern.of_enclose {opening : Opening} {body : List Char}
    (isPattern : IsPattern (opening.enclose body)) (fits : opening.Fits body)
    (balanced : Balanced body) : IsPattern body := by
  have whole := fits.1.balanced_iff.mpr balanced
  rcases isPattern.start_cases with empty | ⟨rest, _, equal⟩ | ⟨atom, rest, isAtom, equal⟩
  · cases empty
  · cases equal
  cases isAtom with
  | character ordinary =>
      cases equal
      exact absurd (by decide) ordinary
  | escape => cases equal
  | argument => cases equal
  | charClass grammar =>
      obtain ⟨lead, inner, _, _, rfl⟩ := grammar
      cases equal
  | @group innerOpening innerBody valid innerPattern =>
      have innerWhole := valid.balanced_iff.mpr innerPattern.balanced
      obtain ⟨same, _⟩ := parenthesized_append_inj innerWhole whole equal.symm
      obtain ⟨_, rfl⟩ := (IsPattern.fits innerPattern valid).mark_append_inj fits same
      exact innerPattern

theorem peels_isPattern : Peels IsPattern := by
  intro opening body _ fits balanced enclosed
  exact enclosed.of_enclose fits balanced

/-- A group around a pattern is a pattern. -/
theorem IsPattern.enclose {body : List Char} (isPattern : IsPattern body) {opening : Opening}
    (valid : opening.IsValid) : IsPattern (opening.enclose body) := by
  have enclosed := isPattern_of_atom (.group valid isPattern) .none
  rwa [List.append_nil] at enclosed

/-! ## Atoms -/

theorem generates_character {c : Char} (isPattern : IsPattern [c]) (notBar : c ≠ '|') :
    Generates .atom [c] := by
  rcases isPattern.start_cases with empty | ⟨rest, _, equal⟩ | ⟨atom, rest, isAtom, equal⟩
  · cases empty
  · cases equal
    exact absurd rfl notBar
  · obtain ⟨d, after, rfl, _, _⟩ := isAtom.exists_head_of_atom
    obtain ⟨rfl, noRest⟩ := List.cons.inj equal
    obtain ⟨rfl, rfl⟩ := List.append_eq_nil_iff.mp noRest.symm
    exact isAtom

theorem not_mem_argumentLetters {c : Char} (isPattern : IsPattern ['\\', c]) :
    c ∉ argumentLetters := by
  rcases isPattern.start_cases with empty | ⟨rest, _, equal⟩ | ⟨atom, rest, isAtom, equal⟩
  · cases empty
  · cases equal
  cases isAtom with
  | character ordinary =>
      cases equal
      exact absurd (by decide) ordinary
  | escape notLetter =>
      cases equal
      exact notLetter
  | argument => simp at equal
  | charClass grammar =>
      obtain ⟨lead, inner, _, _, rfl⟩ := grammar
      cases equal
  | group => cases equal

/-- What stands for a pattern in front of a suffix is an atom, unless the
pattern is a lone bar. -/
theorem BindsAs.generates {text item : List Char} (binds : BindsAs text item)
    (isPattern : IsPattern text) (notBar : text ≠ ['|']) : Generates .atom item := by
  have enclosed {body : List Char} (bodyPattern : IsPattern body) :
      Generates .atom (Opening.plain.enclose body) :=
    .group Opening.isValid_plain bodyPattern
  cases binds with
  | character c =>
      apply generates_character isPattern
      rintro rfl
      exact notBar rfl
  | escape c => exact .escape (not_mem_argumentLetters isPattern)
  | charClass grammar => exact .charClass grammar
  | plain balanced => exact enclosed (isPattern.of_enclose (Opening.fits_plain _) balanced)
  | capture balanced noQuestion =>
      exact enclosed (isPattern.of_enclose (Opening.fits_capture noQuestion) balanced)
  | other _ => exact enclosed isPattern

end PatternAlgebra.Text
