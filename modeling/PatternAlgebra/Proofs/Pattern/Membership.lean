import PatternAlgebra.Proofs.Pattern.CharacterSet
import PatternAlgebra.Proofs.Pattern.Escaped
import PatternAlgebra.Proofs.Text.BareClass

/-!
# Sets are read as they were given

Every member of a set becomes one token between the brackets, and no such token
is a bare sign.  Whatever members stand side by side, the class is therefore
read as the set of its members and of nothing else: they cannot make a range, a
negation, an inner class or an operation.  A member that is alone needs no
brackets, and a quantifier repeats a set of any size as it is written.
-/

namespace PatternAlgebra

open Text Text.Token

/-! ## Members -/

/-- The token that a member of a set becomes between brackets. -/
inductive IsMemberToken : List Char → Token → Prop where
  | character (c : Char) : IsMemberToken [c]
      (if c ∈ ['[', ']', '^', '-', '\\', '&', '~'] then .escape c else .plain c)
  | escape (c : Char) : IsMemberToken ['\\', c] (.escape c)

theorem IsMemberToken.ne_plain {member : List Char} {token : Token}
    (isToken : IsMemberToken member token) {sign : Char} (isSign : sign ∈ classMetacharacters) :
    plain sign ≠ token := by
  cases isToken with
  | character c =>
      split_ifs with escaped
      · simp
      · rintro ⟨⟩
        exact escaped isSign
  | escape c => simp

theorem noBareSign_of_members {members : List (List Char)} {tokens : List Token}
    (areTokens : List.Forall₂ IsMemberToken members tokens) : NoBareSign tokens := by
  intro sign isSign
  induction areTokens with
  | nil => exact List.not_mem_nil
  | cons isToken _ inductionHypothesis =>
      rw [List.mem_cons, not_or]
      exact ⟨isToken.ne_plain isSign, inductionHypothesis⟩

namespace Pattern

/-- However a member is followed between brackets, it is one token. -/
theorem lex_memberText_append {member : List Char} (single : isSingleChar member = true) :
    ∃ token, IsMemberToken member token ∧
      ∀ rest, lex (memberText member ++ rest) = token :: lex rest := by
  cases Shape.covers_of_isSingleChar single with
  | character c =>
      refine ⟨_, .character c, ?_⟩
      intro rest
      have table : isClassMetacharacter c = true ↔ c ∈ ['[', ']', '^', '-', '\\', '&', '~'] :=
        List.contains_iff_mem
      by_cases sign : c ∈ ['[', ']', '^', '-', '\\', '&', '~']
      · rw [memberText, if_pos (table.mpr sign), if_pos sign]
        exact lex_escape c rest
      · have notBackslash : c ≠ '\\' := by
          rintro rfl
          exact sign (by decide)
        rw [memberText, if_neg (mt table.mp sign), if_neg sign]
        exact lex_plain notBackslash rest
  | escape c => exact ⟨_, .escape c, fun rest => rfl⟩

/-- The members have one token each. -/
theorem lex_flatMap_memberText_append {members : List (List Char)}
    (single : ∀ member ∈ members, isSingleChar member = true) :
    ∃ tokens, List.Forall₂ IsMemberToken members tokens ∧
      ∀ rest, lex (members.flatMap memberText ++ rest) = tokens ++ lex rest := by
  induction members with
  | nil => exact ⟨[], .nil, fun rest => rfl⟩
  | cons member others inductionHypothesis =>
      rw [List.forall_mem_cons] at single
      obtain ⟨token, isToken, first⟩ := lex_memberText_append single.1
      obtain ⟨tokens, areTokens, remaining⟩ := inductionHypothesis single.2
      refine ⟨token :: tokens, .cons isToken areTokens, ?_⟩
      intro rest
      rw [List.flatMap_cons, List.append_assoc, first, remaining, List.cons_append]

/-! ## Classes -/

/-- The text is a class of the members and of nothing else, and these are its
tokens between the brackets. -/
structure IsClassOfMembers (negated : Bool) (members : List (List Char)) (tokens : List Token)
    (text : List Char) : Prop where
  lex_eq : lex text = classOpening negated ++ (tokens ++ [plain ']'])
  /-- There is one token for each member, in their order. -/
  areTokens : List.Forall₂ IsMemberToken members tokens
  noBareSign : ∀ sign ∈ ['^', '-', '[', ']', '&', '~'], plain sign ∉ tokens
  /-- No part of the class is made of anything but one member. -/
  isClassOf_iff : ∀ (other : Bool) (parts : List ClassPart),
    IsClassOf (lex text) other parts ↔ other = negated ∧ parts = tokens.map .single

/-- The bracket that opens a class. -/
def classBracket : Bool → String
  | false => "["
  | true => "[^"

theorem lex_bracket (negated : Bool) {members : List (List Char)} {tokens : List Token}
    (body : ∀ rest, lex (members.flatMap memberText ++ rest) = tokens ++ lex rest) :
    lex (bracket (classBracket negated) members).chars =
      classOpening negated ++ (tokens ++ [plain ']']) := by
  have inside : lex (members.flatMap memberText ++ [']']) = tokens ++ [plain ']'] := body [']']
  rw [chars_bracket]
  cases negated with
  | false => exact congrArg (plain '[' :: ·) inside
  | true => exact congrArg (plain '[' :: plain '^' :: ·) inside

theorem isClassOfMembers_bracket (negated : Bool) {members : List (List Char)}
    (single : ∀ member ∈ members, isSingleChar member = true) :
    ∃ tokens,
      IsClassOfMembers negated members tokens (bracket (classBracket negated) members).chars := by
  obtain ⟨tokens, areTokens, body⟩ := lex_flatMap_memberText_append single
  have noSign : NoBareSign tokens := noBareSign_of_members areTokens
  have tokensEq := lex_bracket negated body
  refine ⟨tokens, ?_⟩
  constructor
  case lex_eq => exact tokensEq
  case areTokens => exact areTokens
  case noBareSign =>
    have among : ∀ c ∈ ['^', '-', '[', ']', '&', '~'], c ∈ classMetacharacters := by
      simp [classMetacharacters]
    exact fun sign isSign => noSign sign (among sign isSign)
  case isClassOf_iff =>
    intro other parts
    rw [tokensEq]
    exact Text.isClassOf_iff noSign

/-! ## Sets -/

/-- What a member is written as when it is alone: with a backslash before it if
it is one character that has a meaning outside of brackets. -/
structure IsAlone (member text : List Char) : Prop where
  eq_or_eq : text = member ∨ text = '\\' :: member
  eq_escaped_iff : text = '\\' :: member ↔ ∃ c ∈ ['\\', '.', '+', '*', '?', '(', ')', '|', '[', ']',
    '{', '}', '^', '$', '#', '&', '-', '~'], member = [c]

/-- What a set of these members is written as. -/
inductive WritesSet : Bool → List (List Char) → List Char → Prop where
  | alone {member text : List Char} : IsAlone member text → WritesSet false [member] text
  | charClass {negated : Bool} {members : List (List Char)} {tokens : List Token}
      {text : List Char} : (negated = false → 2 ≤ members.length) →
      IsClassOfMembers negated members tokens text → WritesSet negated members text

/-- The pattern is a set of these members, and a quantifier repeats it as it is
written. -/
structure IsSetOf (set : Pattern) (negated : Bool) (members : List (List Char)) : Prop where
  text : WritesSet negated members set.chars
  names : set.names = []
  shape : set.shape = .singleChar ∨ set.shape = .charClass
  isRepeating : isRepeating set.text = false
  quantify : ∀ quantifier : Quantifier, quantifier.IsOrdered →
    ∃ repeated, set.quantify quantifier = .ok repeated ∧ repeated.names = [] ∧
      repeated.chars = set.chars ++ quantifier.suffix.toList

theorem isSetOf_of_writesSet {set : Pattern} {negated : Bool} {members : List (List Char)}
    (text : WritesSet negated members set.chars) (names : set.names = [])
    (shape : set.shape = .singleChar ∨ set.shape = .charClass)
    (notRepeating : ¬ EndsInRepetition set.chars) : set.IsSetOf negated members := by
  constructor
  case text => exact text
  case names => exact names
  case shape => exact shape
  case isRepeating => exact (isRepeating_eq_false_iff set.text).mpr notRepeating
  case quantify =>
    intro quantifier ordered
    have isAtom : set.shape.isAtom = true := by
      rcases shape with shape | shape <;> rw [shape] <;> rfl
    obtain ⟨repeated, accepted, charsEq, namesEq⟩ :=
      quantify_of_isAtom isAtom notRepeating ordered
    exact ⟨repeated, accepted, namesEq.trans names, charsEq⟩

theorem isSetOf_bracket {negated : Bool} {members : List (List Char)} (nonempty : members ≠ [])
    (single : ∀ member ∈ members, isSingleChar member = true)
    (several : negated = false → 2 ≤ members.length) :
    (bracket (classBracket negated) members).IsSetOf negated members := by
  obtain ⟨tokens, isClassOf⟩ := isClassOfMembers_bracket negated single
  have isClass : IsClass (bracket (classBracket negated) members).chars := by
    cases negated
    · exact isClass_bracket nonempty single
    · exact isClass_bracket_negated nonempty single
  apply isSetOf_of_writesSet (.charClass several isClassOf) rfl
  · exact .inr (Shape.ofChars_of_isClass isClass)
  · rw [chars_bracket, ← List.append_assoc]
    exact not_endsInRepetition_closed (by decide) _

theorem isAlone_atomText {member : List Char} (single : isSingleChar member = true) :
    IsAlone member (atomText member) := by
  have notLonger (text : List Char) : text ≠ '\\' :: text := by simp
  cases Shape.covers_of_isSingleChar single with
  | character c =>
      have table : isMetacharacter c = true ↔ c ∈ metacharacters := List.contains_iff_mem
      by_cases metacharacter : isMetacharacter c = true
      · have written : atomText [c] = '\\' :: [c] := if_pos metacharacter
        exact ⟨.inr written, iff_of_true written ⟨c, table.mp metacharacter, rfl⟩⟩
      · have written : atomText [c] = [c] := if_neg metacharacter
        constructor
        · exact .inl written
        · rw [written]
          apply iff_of_false (notLonger [c])
          rintro ⟨d, among, ⟨⟩⟩
          exact metacharacter (table.mpr among)
  | escape c =>
      constructor
      · exact .inl rfl
      · apply iff_of_false (notLonger ['\\', c])
        rintro ⟨d, _, equal⟩
        cases equal

theorem not_endsInRepetition_atomText {member : List Char}
    (single : isSingleChar member = true) : ¬ EndsInRepetition (atomText member) := by
  cases Shape.covers_of_isSingleChar single with
  | character c =>
      have written : atomText [c] = Text.escape [c] := by simp [atomText, Text.escape]
      rw [written]
      exact not_endsInRepetition_escape_text [c]
  | escape c => exact not_endsInRepetition_escape isComplete_nil c

theorem isSetOf_literal {member : List Char} (single : isSingleChar member = true) :
    (literal (String.ofList (atomText member))).IsSetOf false [member] := by
  have charsEq : (literal (String.ofList (atomText member))).chars = atomText member := by simp
  apply isSetOf_of_writesSet
  · rw [charsEq]
    exact .alone (isAlone_atomText single)
  · rfl
  · left
    rw [shape_eq, charsEq]
    exact Shape.ofChars_of_covers (Shape.covers_of_isSingleChar (isSingleChar_atomText single))
  · rw [charsEq]
    exact not_endsInRepetition_atomText single

theorem setMembers_of_single {items : List Operand}
    (single : ∀ item ∈ items, isSingleChar item.toPattern.chars = true) :
    setMembers items = .ok (items.map fun item => item.toPattern.chars) := by
  induction items with
  | nil => rfl
  | cons item rest inductionHypothesis =>
      rw [List.forall_mem_cons] at single
      have first : isSingleChar item.toPattern.text.toList = true := single.1
      rw [setMembers, if_pos first, inductionHypothesis single.2]
      rfl

theorem nonemptySetMembers_of_single {items : List Operand} (nonempty : items ≠ [])
    (single : ∀ item ∈ items, isSingleChar item.toPattern.chars = true) :
    nonemptySetMembers items = .ok (items.map fun item => item.toPattern.chars) := by
  obtain ⟨item, rest, rfl⟩ := List.exists_cons_of_ne_nil nonempty
  rw [nonemptySetMembers, setMembers_of_single single]
  rfl

theorem noneOf_of_members {items : List Operand} {members : List (List Char)}
    (found : nonemptySetMembers items = .ok members) :
    noneOf items = .ok (bracket (classBracket true) members) := by
  rw [noneOf, found]
  rfl

theorem exists_anyOf_of_members {items : List Operand} {members : List (List Char)}
    (found : nonemptySetMembers items = .ok members) (nonempty : members ≠ [])
    (single : ∀ member ∈ members, isSingleChar member = true) :
    ∃ set, anyOf items = .ok set ∧ set.IsSetOf false members := by
  rcases members with _ | ⟨member, _ | ⟨other, others⟩⟩
  · exact absurd rfl nonempty
  · refine ⟨literal (String.ofList (atomText member)), ?_, ?_⟩
    · rw [anyOf, found]
    · exact isSetOf_literal (single member List.mem_cons_self)
  · refine ⟨bracket (classBracket false) (member :: other :: others), ?_, ?_⟩
    · rw [anyOf, found]
      rfl
    · exact isSetOf_bracket nonempty single fun _ => by simp

/-- Any characters and escapes make a set of exactly these members, whether
they are excluded or chosen from. -/
theorem exists_noneOf_and_anyOf_isSetOf {items : List Operand} (nonempty : items ≠ [])
    (single : ∀ item ∈ items, isSingleChar item.toPattern.chars = true) :
    (∃ set, noneOf items = .ok set ∧
        set.IsSetOf true (items.map fun item => item.toPattern.chars)) ∧
      ∃ set, anyOf items = .ok set ∧
        set.IsSetOf false (items.map fun item => item.toPattern.chars) := by
  have found := nonemptySetMembers_of_single nonempty single
  have someMember : (items.map fun item => item.toPattern.chars) ≠ [] :=
    mt List.map_eq_nil_iff.mp nonempty
  have membersSingle : ∀ member ∈ items.map fun item => item.toPattern.chars,
      isSingleChar member = true := List.forall_mem_map.mpr single
  constructor
  · exact ⟨_, noneOf_of_members found, isSetOf_bracket someMember membersSingle nofun⟩
  · exact exists_anyOf_of_members found someMember membersSingle

/-- Signs that could stand for more than themselves between brackets. -/
theorem exists_noneOf_and_anyOf_isSetOf_of_signs :
    (∃ set, noneOf ["^", "-", "]", "\\d"] = .ok set ∧
        set.IsSetOf true [['^'], ['-'], [']'], ['\\', 'd']]) ∧
      ∃ set, anyOf ["^", "-", "]", "\\d"] = .ok set ∧
        set.IsSetOf false [['^'], ['-'], [']'], ['\\', 'd']] := by
  have single : ∀ item ∈ [("^" : Operand), "-", "]", "\\d"],
      isSingleChar item.toPattern.chars = true := by decide
  exact exists_noneOf_and_anyOf_isSetOf (List.cons_ne_nil _ _) single

end Pattern

end PatternAlgebra
