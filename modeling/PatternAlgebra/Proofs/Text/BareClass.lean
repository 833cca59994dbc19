import PatternAlgebra.Text.Metacharacter
import PatternAlgebra.Text.Token

/-!
# Classes without bare signs

More than single characters can stand between the brackets of a class: a hyphen
makes a range of its neighbours, a bracket opens another class or a class that
has a name, and a sign that is doubled is an operation on sets.  All of these
need a sign that no backslash precedes.  A class without bare signs is
therefore read in one way only, token by token.
-/

namespace PatternAlgebra

open Text Text.Token

namespace Text

/-! ## What could be read -/

/-- One part of what stands between the brackets of a class. -/
inductive ClassPart where
  /-- A token that stands for itself. -/
  | single (token : Token)
  | range (first last : Token)
  /-- A class inside the class. -/
  | nested (negated : Bool) (parts : List ClassPart)
  /-- A class that has a name, such as `[:alpha:]`. -/
  | named (name : List Char)
  /-- A sign that stands twice, which is an operation on sets. -/
  | operation (sign : Char)

/-- The tokens that open a class. -/
def classOpening : Bool → List Token
  | false => [plain '[']
  | true => [plain '[', plain '^']

/-- Tokens may be read as parts of a class.  The grammar is generous: it knows
the parts of any dialect, and every token may stand for itself too. -/
inductive HasParts : List Token → List ClassPart → Prop where
  | nil : HasParts [] []
  | single {token : Token} {rest : List Token} {parts : List ClassPart} :
      HasParts rest parts → HasParts (token :: rest) (.single token :: parts)
  | range {first last : Token} {rest : List Token} {parts : List ClassPart} :
      HasParts rest parts →
      HasParts (first :: plain '-' :: last :: rest) (.range first last :: parts)
  | nested {negated : Bool} {inner rest : List Token} {innerParts parts : List ClassPart} :
      HasParts inner innerParts → HasParts rest parts →
      HasParts (classOpening negated ++ (inner ++ plain ']' :: rest))
        (.nested negated innerParts :: parts)
  | named {name : List Char} {rest : List Token} {parts : List ClassPart} :
      HasParts rest parts →
      HasParts (plain '[' :: plain ':' :: (name.map plain ++ plain ':' :: plain ']' :: rest))
        (.named name :: parts)
  | operation {sign : Char} {rest : List Token} {parts : List ClassPart} :
      sign ∈ ['&', '-', '~'] → HasParts rest parts →
      HasParts (plain sign :: plain sign :: rest) (.operation sign :: parts)

/-- Tokens may be read as a whole class of these parts.  A caret after the
opening bracket always negates. -/
inductive IsClassOf : List Token → Bool → List ClassPart → Prop where
  | intro {negated : Bool} {body : List Token} {parts : List ClassPart} :
      (negated = false → body.head? ≠ some (plain '^')) → HasParts body parts →
      IsClassOf (classOpening negated ++ (body ++ [plain ']'])) negated parts

/-- No token is a character that could mean something in a class. -/
def NoBareSign (tokens : List Token) : Prop :=
  ∀ sign ∈ classMetacharacters, plain sign ∉ tokens

theorem NoBareSign.tail {token : Token} {rest : List Token} (noSign : NoBareSign (token :: rest)) :
    NoBareSign rest := by
  intro sign isSign inRest
  exact noSign sign isSign (List.mem_cons_of_mem token inRest)

theorem hasParts_single (tokens : List Token) : HasParts tokens (tokens.map .single) := by
  induction tokens with
  | nil => exact .nil
  | cons token rest inductionHypothesis => exact .single inductionHypothesis

/-- Every part but a single token has a bare sign. -/
theorem HasParts.eq_single {tokens : List Token} {parts : List ClassPart}
    (hasParts : HasParts tokens parts) (noSign : NoBareSign tokens) :
    parts = tokens.map .single := by
  induction hasParts with
  | nil => rfl
  | single _ inductionHypothesis =>
      rw [List.map_cons, inductionHypothesis noSign.tail]
  | range _ _ => exact absurd (by simp) (noSign '-' (by decide))
  | @nested negated _ _ _ _ _ _ _ _ =>
      exact absurd (by cases negated <;> simp [classOpening]) (noSign '[' (by decide))
  | named _ _ => exact absurd (by simp) (noSign '[' (by decide))
  | @operation sign _ _ isSign _ _ =>
      have among : ∀ c ∈ ['&', '-', '~'], c ∈ classMetacharacters := by
        simp [classMetacharacters]
      exact absurd List.mem_cons_self (noSign sign (among sign isSign))

theorem head?_of_append_closing {body rest : List Token}
    (equal : body ++ [plain ']'] = plain '^' :: rest) : body.head? = some (plain '^') := by
  cases body with
  | nil => cases equal
  | cons first others =>
      rw [List.cons_append] at equal
      rw [List.head?_cons, (List.cons.inj equal).1]

/-- The text of a class tells whether it is negated and what its inside is. -/
theorem classOpening_append_inj {negated other : Bool} {tokens body : List Token}
    (noCaret : negated = false → tokens.head? ≠ some (plain '^'))
    (otherNoCaret : other = false → body.head? ≠ some (plain '^'))
    (equal : classOpening negated ++ (tokens ++ [plain ']']) =
      classOpening other ++ (body ++ [plain ']'])) :
    negated = other ∧ tokens = body := by
  cases negated <;> cases other
  case false.false => exact ⟨rfl, List.append_cancel_right (List.cons.inj equal).2⟩
  case false.true => exact absurd (head?_of_append_closing (List.cons.inj equal).2) (noCaret rfl)
  case true.false =>
    exact absurd (head?_of_append_closing (List.cons.inj equal).2.symm) (otherNoCaret rfl)
  case true.true =>
    exact ⟨rfl, List.append_cancel_right (List.cons.inj (List.cons.inj equal).2).2⟩

/-- A class without bare signs has one reading. -/
theorem isClassOf_iff {negated other : Bool} {tokens : List Token} {parts : List ClassPart}
    (noSign : NoBareSign tokens) :
    IsClassOf (classOpening negated ++ (tokens ++ [plain ']'])) other parts ↔
      other = negated ∧ parts = tokens.map .single := by
  have noCaret : tokens.head? ≠ some (plain '^') := by
    intro caret
    exact noSign '^' (by decide) (List.mem_of_head? caret)
  constructor
  · generalize whole : classOpening negated ++ (tokens ++ [plain ']']) = text
    intro isClass
    cases isClass with
    | intro otherNoCaret hasParts =>
        obtain ⟨rfl, rfl⟩ := classOpening_append_inj (fun _ => noCaret) otherNoCaret whole
        exact ⟨rfl, hasParts.eq_single noSign⟩
  · rintro ⟨rfl, rfl⟩
    exact .intro (fun _ => noCaret) (hasParts_single tokens)

end Text

end PatternAlgebra
