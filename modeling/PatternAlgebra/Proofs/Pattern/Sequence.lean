import PatternAlgebra.Proofs.Pattern.Alternation
import PatternAlgebra.Proofs.Pattern.Regrouping
import PatternAlgebra.Proofs.Pattern.Repetition
import PatternAlgebra.Proofs.Shape.Grammar

/-!
# Sequences

A sequence is what concatenation makes of several operands, in whatever order
the calls are made.  Its text may start and end with matching delimiters and
still they do not belong together: where the first operand ends, the scan is
back on the outside.  So a sequence is neither an atom nor a group, and every
operation on it takes its whole text.
-/

namespace PatternAlgebra

open Text

namespace Shape

theorem Covers.isItem {shape : Shape} {text : List Char} (covers : shape.Covers text)
    (balanced : Balanced text) : IsItem text := by
  cases covers with
  | character c => exact isItem_character balanced
  | escape c => exact isItem_escape c
  | charClass grammar => exact grammar.isItem
  | capture bodyBalanced _ => exact isItem_enclose Opening.isValid_capture bodyBalanced
  | plain bodyBalanced => exact isItem_enclose Opening.isValid_plain bodyBalanced
  | look side bodyBalanced => exact isItem_enclose (Opening.isValid_look side) bodyBalanced
  | named _ _ restBalanced =>
      apply isItem_parenthesized
      rw [balanced_cons_iff rfl, balanced_cons_iff rfl]
      exact restBalanced

/-- Two balanced texts side by side are neither an atom nor a group, since each
of these is a single item. -/
theorem ofChars_append {first second : List Char} (firstBalanced : Balanced first)
    (secondBalanced : Balanced second) (firstNonempty : first ≠ []) (secondNonempty : second ≠ []) :
    ofChars (first ++ second) = .other := by
  rcases covers_ofChars (first ++ second) with other | covers
  · exact other
  · have item := covers.isItem (firstBalanced.append secondBalanced)
    rcases item.whole first second rfl firstBalanced with empty | empty
    · exact absurd empty firstNonempty
    · exact absurd empty secondNonempty

theorem IsGroup.exists_concat {text : List Char} (isGroup : IsGroup text) :
    ∃ front, text = front ++ [')'] := by
  obtain ⟨body, _, rfl⟩ := isGroup
  exact ⟨'(' :: body, rfl⟩

end Shape

namespace Pattern

/-! ## Patterns of the last shape -/

/-- The result is one group around the whole text. -/
def Encloses (pattern : Pattern) (opening : Opening) (names : List String)
    (result : Except BuildError Pattern) : Prop :=
  ∃ grouped, result = .ok grouped ∧ grouped.chars = opening.enclose pattern.chars ∧
    grouped.names = names

/-- The operations on the pattern take its whole text, without a character
less: groupings put one new pair of delimiters around it, an alternation has
it as one of its branches, and a quantifier repeats it in a plain group unless
it ends in a repetition. -/
structure IsTakenWhole (pattern : Pattern) : Prop where
  toCaptureGroup : pattern.Encloses .capture pattern.names pattern.toCaptureGroup
  toNonCaptureGroup : pattern.Encloses .plain pattern.names pattern.toNonCaptureGroup
  toNamedCaptureGroup : ∀ name : String, isGroupName name.toList = true → name ∉ pattern.names →
    pattern.Encloses (.named name.toList) (pattern.names ++ [name])
      (pattern.toNamedCaptureGroup name)
  alternate : pattern.names = [] → ∀ other : Operand, other.toPattern.names = [] →
    ∃ branch whole, HasArm other.toPattern.chars branch ∧ pattern.alternate other = .ok whole ∧
      whole.chars = Opening.plain.enclose (pattern.chars ++ '|' :: branch)
  alternate_behind : pattern.names = [] → ∀ other : Operand, other.toPattern.names = [] →
    ∃ branch whole, HasArm other.toPattern.chars branch ∧
      other.alternate (.built pattern) = .ok whole ∧
      whole.chars = Opening.plain.enclose (branch ++ '|' :: pattern.chars)
  quantify : ∀ quantifier : Quantifier, quantifier.IsOrdered →
    EndsInRepetition pattern.chars ∧
        pattern.quantify quantifier = .error (.alreadyRepeating pattern.text) ∨
      ¬ EndsInRepetition pattern.chars ∧ ∃ repeated, pattern.quantify quantifier = .ok repeated ∧
        repeated.chars = Opening.plain.enclose pattern.chars ++ quantifier.suffix.toList ∧
        repeated.names = pattern.names

variable {pattern : Pattern} (shape : pattern.shape = .other)

include shape

theorem core_of_other : core pattern.chars = pattern.chars := by
  rw [shape_eq] at shape
  apply core_eq_self <;> simp [shape]

theorem arm_of_other : arm pattern.chars = pattern.chars := by
  rw [shape_eq] at shape
  rw [arm, if_neg (by simp [shape])]

theorem atom_of_other : atom pattern.chars = Opening.plain.enclose pattern.chars := by
  have sameCore := core_of_other shape
  rw [shape_eq] at shape
  rw [atom_eq_enclose (by rw [shape]; rfl), sameCore]

theorem quantify_of_other {quantifier : Quantifier} (ordered : quantifier.IsOrdered)
    (notRepeating : ¬ EndsInRepetition pattern.chars) :
    ∃ repeated, pattern.quantify quantifier = .ok repeated ∧
      repeated.chars = Opening.plain.enclose pattern.chars ++ quantifier.suffix.toList ∧
      repeated.names = pattern.names := by
  obtain ⟨repeated, accepted⟩ := exists_quantify notRepeating ordered (by simp [shape])
    (by simp [shape])
  obtain ⟨_, _, charsEq, namesEq⟩ := quantify_eq_ok accepted
  rw [atom_of_other shape] at charsEq
  exact ⟨repeated, accepted, charsEq, namesEq⟩

/-- A pattern that is neither an atom nor a group is taken whole. -/
theorem isTakenWhole_of_other : pattern.IsTakenWhole := by
  have notNamed : pattern.shape ≠ .namedCaptureGroup := by simp [shape]
  constructor
  case toCaptureGroup =>
    obtain ⟨grouped, accepted⟩ := exists_toCaptureGroup notNamed
    obtain ⟨charsEq, namesEq⟩ := toCaptureGroup_eq_ok accepted
    rw [core_of_other shape] at charsEq
    exact ⟨grouped, accepted, charsEq, namesEq⟩
  case toNonCaptureGroup =>
    rcases toNonCaptureGroup_eq pattern with ⟨named, _⟩ | ⟨_, grouped, accepted, charsEq, namesEq⟩
    · exact absurd named notNamed
    · rw [atom_of_other shape] at charsEq
      exact ⟨grouped, accepted, charsEq, namesEq⟩
  case toNamedCaptureGroup =>
    intro name isName fresh
    obtain ⟨grouped, accepted⟩ := exists_toNamedCaptureGroup notNamed isName fresh
    obtain ⟨_, _, charsEq, namesEq⟩ := toNamedCaptureGroup_eq_ok accepted
    rw [core_of_other shape] at charsEq
    exact ⟨grouped, accepted, charsEq, namesEq⟩
  case alternate =>
    intro noNames other otherNoNames
    obtain ⟨whole, accepted⟩ := exists_alternate noNames otherNoNames
    obtain ⟨charsEq, _⟩ := alternate_eq_ok accepted
    rw [arm_of_other shape] at charsEq
    exact ⟨_, whole, hasArm_arm other.toPattern.chars, accepted, charsEq⟩
  case alternate_behind =>
    intro noNames other otherNoNames
    have branchNoNames : (Operand.built pattern).toPattern.names = [] := noNames
    obtain ⟨whole, accepted⟩ := exists_alternate otherNoNames branchNoNames
    obtain ⟨charsEq, _⟩ := alternate_eq_ok accepted
    rw [Operand.toPattern, arm_of_other shape] at charsEq
    exact ⟨_, whole, hasArm_arm other.toPattern.chars, accepted, charsEq⟩
  case quantify =>
    intro quantifier ordered
    by_cases repeating : EndsInRepetition pattern.chars
    · exact .inl ⟨repeating, quantify_of_endsInRepetition repeating quantifier⟩
    · exact .inr ⟨repeating, quantify_of_other shape ordered repeating⟩

end Pattern

/-! ## Operands -/

namespace Operand

/-- The names that the operand brings with it. -/
def names (operand : Operand) : List String :=
  operand.toPattern.names

@[simp] theorem names_literal (text : String) : (literal text).names = [] :=
  rfl

/-- The operand is what a quantifier that is written as a sign makes of a
balanced pattern. -/
def IsSigned (operand : Operand) : Prop :=
  ∃ (pattern repeated : Pattern) (quantifier : Quantifier),
    quantifier ∈ [.zeroOrMore, .oneOrMore, .optional] ∧ Balanced pattern.chars ∧
      pattern.quantify quantifier = .ok repeated ∧ operand = .built repeated

/-- The whole operand is a class, or a group or lookaround of any sort. -/
def IsDelimited (operand : Operand) : Prop :=
  IsClass operand.chars ∨ Shape.IsGroup operand.chars

variable {operand : Operand} {before : List Char}

/-- The sign is found behind a complete text too. -/
theorem IsSigned.endsInRepetition (signed : operand.IsSigned) (balanced : Balanced before) :
    EndsInRepetition (before ++ operand.chars) := by
  obtain ⟨pattern, repeated, quantifier, isSign, patternBalanced, accepted, rfl⟩ := signed
  obtain ⟨_, _, charsEq, _⟩ := Pattern.quantify_eq_ok accepted
  have complete : Token.IsComplete (before ++ atom pattern.chars) :=
    (balanced.append (balanced_atom patternBalanced)).isComplete
  have written : ∃ sign ∈ ['?', '*', '+'], quantifier.suffix.toList = [sign] := by
    simp only [List.mem_cons, List.not_mem_nil, or_false] at isSign
    rcases isSign with rfl | rfl | rfl
    · exact ⟨'*', by decide, rfl⟩
    · exact ⟨'+', by decide, rfl⟩
    · exact ⟨'?', by decide, rfl⟩
  obtain ⟨sign, isSuffix, suffixEq⟩ := written
  rw [Operand.chars, toPattern, charsEq, suffixEq, ← List.append_assoc]
  exact (endsInRepetition_sign_iff isSuffix).mpr complete

theorem IsDelimited.not_endsInRepetition (delimited : operand.IsDelimited) :
    ¬ EndsInRepetition (before ++ operand.chars) := by
  rcases delimited with grammar | isGroup
  · obtain ⟨front, written⟩ := grammar.exists_concat
    rw [written, ← List.append_assoc]
    exact not_endsInRepetition_closed (by decide) (before ++ front)
  · obtain ⟨front, written⟩ := isGroup.exists_concat
    rw [written, ← List.append_assoc]
    exact not_endsInRepetition_closed (by decide) (before ++ front)

end Operand

/-! ## Trees of calls -/

namespace Bracketing

/-- No two of the operands share a name. -/
def Disjoint (operands : List Operand) : Prop :=
  operands.Pairwise fun first second => ∀ name ∈ first.names, name ∉ second.names

/-- The value writes the operands one after another and keeps their names. -/
structure Writes (operands : List Operand) (value : Operand) : Prop where
  chars_eq : value.chars = operands.flatMap Operand.chars
  names_eq : value.names = operands.flatMap Operand.names

theorem Writes.concat {first second : List Operand} {left right : Operand} {whole : Pattern}
    (leftWrites : Writes first left) (rightWrites : Writes second right)
    (accepted : left.toPattern.concat right = .ok whole) :
    Writes (first ++ second) (.built whole) := by
  obtain ⟨charsEq, namesEq, _⟩ := Pattern.concat_eq_ok accepted
  constructor
  · rw [List.flatMap_append, ← leftWrites.chars_eq, ← rightWrites.chars_eq]
    exact charsEq
  · rw [List.flatMap_append, ← leftWrites.names_eq, ← rightWrites.names_eq]
    exact namesEq

/-- Operands without common names are concatenated, however the calls are
bracketed. -/
theorem exists_build_concatenate {bracketing : Bracketing}
    (disjoint : Disjoint bracketing.operands) :
    ∃ value, bracketing.build Spelling.concatenate = .ok value ∧
      Writes bracketing.operands value ∧
      (2 ≤ bracketing.operands.length → ∃ pattern, value = .built pattern) := by
  induction bracketing with
  | operand value =>
      refine ⟨value, rfl, ⟨by simp [operands], by simp [operands]⟩, ?_⟩
      intro several
      exact absurd several (by simp [operands])
  | call spelling first second firstHypothesis secondHypothesis =>
      obtain ⟨firstDisjoint, secondDisjoint, across⟩ := List.pairwise_append.mp disjoint
      obtain ⟨left, leftBuilt, leftWrites, _⟩ := firstHypothesis firstDisjoint
      obtain ⟨right, rightBuilt, rightWrites, _⟩ := secondHypothesis secondDisjoint
      have noCommonName : ∀ name ∈ left.toPattern.names, name ∉ right.toPattern.names := by
        change ∀ name ∈ left.names, name ∉ right.names
        rw [leftWrites.names_eq, rightWrites.names_eq]
        intro name inFirst inSecond
        obtain ⟨giver, giverMember, given⟩ := List.mem_flatMap.mp inFirst
        obtain ⟨taker, takerMember, taken⟩ := List.mem_flatMap.mp inSecond
        exact across giver giverMember taker takerMember name given taken
      obtain ⟨whole, accepted⟩ := Pattern.exists_concat noCommonName
      have built := build_call_of_build leftBuilt rightBuilt
        ((spelling.concatenate_eq left right).trans accepted)
      exact ⟨.built whole, built, leftWrites.concat rightWrites accepted, fun _ => ⟨whole, rfl⟩⟩

theorem balanced_flatMap {operands : List Operand}
    (balanced : ∀ operand ∈ operands, Balanced operand.chars) :
    Balanced (operands.flatMap Operand.chars) := by
  induction operands with
  | nil => exact balanced_nil
  | cons first rest inductionHypothesis =>
      rw [List.forall_mem_cons] at balanced
      exact balanced.1.append (inductionHypothesis balanced.2)

theorem flatMap_ne_nil {operands : List Operand} (several : operands ≠ [])
    (nonempty : ∀ operand ∈ operands, operand.chars ≠ []) :
    operands.flatMap Operand.chars ≠ [] := by
  obtain ⟨first, rest, rfl⟩ := List.exists_cons_of_ne_nil several
  rw [List.flatMap_cons]
  exact List.append_ne_nil_of_left_ne_nil (nonempty first List.mem_cons_self) _

/-- The text of two operands or more, none of them empty, has the last shape. -/
theorem ofChars_flatMap {operands : List Operand} (several : 2 ≤ operands.length)
    (nonempty : ∀ operand ∈ operands, operand.chars ≠ [])
    (balanced : ∀ operand ∈ operands, Balanced operand.chars) :
    Shape.ofChars (operands.flatMap Operand.chars) = .other := by
  rcases operands with _ | ⟨first, rest⟩
  · exact absurd several (by decide)
  · rw [List.forall_mem_cons] at nonempty balanced
    have restNonempty : rest ≠ [] := by
      rintro rfl
      exact absurd several (by simp)
    exact Shape.ofChars_append balanced.1 (balanced_flatMap balanced.2) nonempty.1
      (flatMap_ne_nil restNonempty nonempty.2)

/-- A concatenation of two operands or more, balanced and not empty, is never
taken for an atom or a group.  Whether it can be repeated depends on the end of
the last operand alone: it cannot be when a sign stands there, and it can be
when a delimiter closes there. -/
theorem build_isTakenWhole (bracketing : Bracketing)
    (several : 2 ≤ bracketing.operands.length)
    (disjoint : Disjoint bracketing.operands)
    (nonempty : ∀ operand ∈ bracketing.operands, operand.chars ≠ [])
    (balanced : ∀ operand ∈ bracketing.operands, Balanced operand.chars) :
    ∃ value, bracketing.build Spelling.concatenate = .ok (.built value) ∧
      Writes bracketing.operands (.built value) ∧ value.shape = .other ∧ value.IsTakenWhole ∧
      ∀ front last, bracketing.operands = front ++ [last] →
        (last.IsSigned → ∀ quantifier : Quantifier,
          value.quantify quantifier = .error (.alreadyRepeating value.text)) ∧
        (last.IsDelimited → ∀ quantifier : Quantifier, quantifier.IsOrdered →
          ∃ repeated, value.quantify quantifier = .ok repeated ∧
            repeated.chars = Opening.plain.enclose value.chars ++ quantifier.suffix.toList) := by
  obtain ⟨result, built, writes, isBuilt⟩ := exists_build_concatenate disjoint
  obtain ⟨value, rfl⟩ := isBuilt several
  have charsEq : value.chars = bracketing.operands.flatMap Operand.chars := writes.chars_eq
  have shape : value.shape = .other := by
    rw [Pattern.shape_eq, charsEq]
    exact ofChars_flatMap several nonempty balanced
  refine ⟨value, built, writes, shape, Pattern.isTakenWhole_of_other shape, ?_⟩
  intro front last split
  have endEq : value.chars = front.flatMap Operand.chars ++ last.chars := by
    rw [charsEq, split, List.flatMap_append, List.flatMap_singleton]
  constructor
  · intro signed
    apply Pattern.quantify_of_endsInRepetition
    rw [endEq]
    apply signed.endsInRepetition
    rw [split, List.forall_mem_append] at balanced
    exact balanced_flatMap balanced.1
  · intro delimited quantifier ordered
    have notRepeating : ¬ EndsInRepetition value.chars := by
      rw [endEq]
      exact delimited.not_endsInRepetition
    obtain ⟨repeated, accepted, repeatedEq, _⟩ :=
      Pattern.quantify_of_other shape ordered notRepeating
    exact ⟨repeated, accepted, repeatedEq⟩

/-- Two groups and a class, of which the last is repeated. -/
theorem build_isTakenWhole_of_groups_and_class :
    ∃ repeated, (Pattern.literal "[)]").quantify .oneOrMore = .ok repeated ∧
      ∃ value, (call .operator (.operand (.literal "(?:a)"))
          (call .method (.operand (.literal "(b)")) (.operand (.built repeated)))).build
            Spelling.concatenate = .ok (.built value) ∧
        value.shape = .other ∧ value.IsTakenWhole ∧
        ∀ quantifier : Quantifier,
          value.quantify quantifier = .error (.alreadyRepeating value.text) := by
  have repeatable : ¬ EndsInRepetition (Pattern.literal "[)]").chars :=
    mt (isRepeating_iff "[)]").mpr (by decide)
  obtain ⟨repeated, accepted⟩ := Pattern.exists_quantify repeatable
    (show Quantifier.oneOrMore.IsOrdered from trivial) (by decide) (by decide)
  obtain ⟨_, _, charsEq, namesEq⟩ := Pattern.quantify_eq_ok accepted
  have written : (Operand.built repeated).chars = "[)]+".toList := by
    rw [Operand.chars, Operand.toPattern, charsEq]
    decide
  have unnamed : (Operand.built repeated).names = [] := namesEq
  have items : ∀ operand ∈ [Operand.literal "(?:a)", .literal "(b)", .built repeated],
      operand.chars ≠ [] ∧ Balanced operand.chars := by
    simp only [List.forall_mem_cons, written]
    decide
  have disjoint : Disjoint [.literal "(?:a)", .literal "(b)", .built repeated] := by
    simp [Disjoint, unnamed]
  obtain ⟨value, built, _, shape, whole, ends⟩ := build_isTakenWhole
    (call .operator (.operand (.literal "(?:a)"))
      (call .method (.operand (.literal "(b)")) (.operand (.built repeated))))
    (Nat.le_succ 2) disjoint (fun operand member => (items operand member).1)
    (fun operand member => (items operand member).2)
  refine ⟨repeated, accepted, value, built, shape, whole, ?_⟩
  exact (ends [.literal "(?:a)", .literal "(b)"] (.built repeated) rfl).1
    ⟨.literal "[)]", repeated, .oneOrMore, by decide, by decide, accepted, rfl⟩

end Bracketing

end PatternAlgebra
