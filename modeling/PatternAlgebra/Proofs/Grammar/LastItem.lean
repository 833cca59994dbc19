import PatternAlgebra.Proofs.Grammar.Generates

/-!
# The end of a pattern

A pattern ends in a bar or in an item, and the item's suffix can be exchanged
for another.  A pattern that ends in a repetition suffix ends in the suffix of
its last item, never in a part of an atom, so a lazy mark can follow it.
-/

namespace PatternAlgebra.Text

open Token

/-! ## Braces in patterns -/

/-- A brace that is not escaped is closed later, or it is a member of a class
that is closed later. -/
def ClosesBraces (text : List Char) : Prop :=
  ∀ before inner, text = before ++ '{' :: inner → IsComplete before → ']' ∈ inner ∨ '}' ∈ inner

theorem closesBraces_of_not_mem {text : List Char} (absent : '{' ∉ text) : ClosesBraces text := by
  rintro before inner rfl _
  exact absurd (by simp) absent

theorem ClosesBraces.append {first second : List Char} (complete : IsComplete first)
    (firstCloses : ClosesBraces first) (secondCloses : ClosesBraces second) :
    ClosesBraces (first ++ second) := by
  intro before inner equal beforeComplete
  rcases List.append_eq_append_iff.mp equal with ⟨between, rfl, secondEq⟩ | ⟨between, rfl, innerEq⟩
  · exact secondCloses between inner secondEq ((isComplete_append complete).mp beforeComplete)
  · cases between with
    | nil => exact secondCloses [] inner innerEq.symm isComplete_nil
    | cons c after =>
        obtain ⟨rfl, rfl⟩ := List.cons.inj innerEq
        rcases firstCloses before after rfl beforeComplete with bracket | brace
        · exact .inl (List.mem_append_left second bracket)
        · exact .inr (List.mem_append_left second brace)

/-- A text that closes a brace or a class at its end closes all its braces. -/
theorem closesBraces_concat {last : Char} (closing : last = ']' ∨ last = '}') (text : List Char) :
    ClosesBraces (text ++ [last]) := by
  intro before inner equal _
  rcases List.eq_nil_or_concat inner with rfl | ⟨front, c, rfl⟩
  · obtain ⟨_, same⟩ := List.append_inj' equal rfl
    cases same
    rcases closing with closing | closing <;> cases closing
  · have equal : text ++ [last] = (before ++ '{' :: front) ++ [c] := by simpa using equal
    obtain ⟨_, same⟩ := List.append_inj' equal rfl
    cases same
    rcases closing with rfl | rfl <;> simp

theorem IsQuantifier.closesBraces {suffix : List Char} (grammar : IsQuantifier suffix) :
    ClosesBraces suffix := by
  cases grammar with
  | zeroOrMore | oneOrMore | optional => exact closesBraces_of_not_mem (by decide)
  | @exactly digits _ _ => exact closesBraces_concat (.inr rfl) ('{' :: digits)
  | @atLeast digits _ _ =>
      simpa using closesBraces_concat (.inr rfl) ('{' :: (digits ++ [',']))
  | @between lowerDigits upperDigits _ _ _ _ _ =>
      simpa using closesBraces_concat (.inr rfl) ('{' :: (lowerDigits ++ ',' :: upperDigits))

theorem IsQuantifier.balanced {suffix : List Char} (grammar : IsQuantifier suffix) :
    Balanced suffix :=
  balanced_of_noDelimiter grammar.isDelimiter_eq_false

theorem IsSuffix.closesBraces {suffix : List Char} (grammar : IsSuffix suffix) :
    ClosesBraces suffix := by
  cases grammar with
  | none => exact closesBraces_of_not_mem (by decide)
  | greedy quantifier => exact quantifier.closesBraces
  | lazy quantifier =>
      exact quantifier.closesBraces.append quantifier.balanced.isComplete
        (closesBraces_of_not_mem (by decide))

theorem openBrace_not_mem_mark {opening : Opening} (valid : opening.IsValid) :
    '{' ∉ opening.mark := by
  cases opening with
  | capture | plain => decide
  | look side => cases side <;> decide
  | named name =>
      have absent : '{' ∉ name := Opening.not_mem_of_isGroupName valid (by decide)
      simp [Opening.mark, absent]

theorem Generates.closesBraces {part : Part} {text : List Char} (generated : Generates part text) :
    ClosesBraces text := by
  induction generated with
  | single _ inductionHypothesis => exact inductionHypothesis
  | bar branch _ branchCloses restCloses =>
      have bar : ClosesBraces ['|'] := closesBraces_of_not_mem (by decide)
      exact branchCloses.append branch.balanced.isComplete (bar.append (by decide) restCloses)
  | nil => exact closesBraces_of_not_mem (by decide)
  | item atom suffix _ atomCloses restCloses =>
      exact atomCloses.append atom.balanced.isComplete
        (suffix.closesBraces.append suffix.balanced.isComplete restCloses)
  | @character c ordinary =>
      apply closesBraces_of_not_mem
      rw [List.mem_singleton]
      rintro rfl
      exact ordinary (by decide)
  | escape =>
      intro before inner equal complete
      rcases before with _ | ⟨first, _ | ⟨second, rest⟩⟩
      · cases equal
      · cases equal
        exact absurd complete not_isComplete_dangling
      · simp at equal
  | @argument letter argument _ _ _ =>
      exact closesBraces_concat (.inr rfl) ('\\' :: letter :: '{' :: argument)
  | charClass grammar =>
      obtain ⟨lead, body, _, _, rfl⟩ := grammar
      exact closesBraces_concat (.inl rfl) ('[' :: (lead ++ body))
  | @group opening body valid isPattern bodyCloses =>
      have marked : ClosesBraces ('(' :: opening.mark) := by
        apply closesBraces_of_not_mem
        simp [openBrace_not_mem_mark valid]
      have markBalanced := balanced_of_noDelimiter valid.noDelimiter
      have markComplete : IsComplete ('(' :: opening.mark) :=
        (isComplete_plain (by decide)).mpr markBalanced.isComplete
      have closing : ClosesBraces [')'] := closesBraces_of_not_mem (by decide)
      have pieces := marked.append markComplete (bodyCloses.append isPattern.balanced.isComplete closing)
      simpa [Opening.enclose, parenthesized] using pieces

/-! ## The last item -/

/-- The text is a text of the grammar with an item at its end, whatever suffix
the item has. -/
def EndsInItem (part : Part) (text : List Char) : Prop :=
  ∃ front atom suffix, Generates part front ∧ Generates .atom atom ∧ IsSuffix suffix ∧
    text = front ++ (atom ++ suffix) ∧
    ∀ other, IsSuffix other → Generates part (front ++ (atom ++ other))

theorem endsInItem_of_branch {part : Part} {text : List Char} (generated : Generates part text)
    (isBranch : part = .branch) : text = [] ∨ EndsInItem .branch text := by
  induction generated with
  | nil => exact .inl rfl
  | @item atom suffix rest isAtom isSuffix isRest _ restHypothesis =>
      right
      rcases restHypothesis isBranch with rfl | ⟨front, last, lastSuffix, isFront, isLast,
        isLastSuffix, rfl, exchange⟩
      · have exchange : ∀ other, IsSuffix other → Generates .branch ([] ++ (atom ++ other)) := by
          intro other isOther
          simpa using Generates.item isAtom isOther .nil
        exact ⟨[], atom, suffix, .nil, isAtom, isSuffix, by simp, exchange⟩
      · have exchangeLast : ∀ other, IsSuffix other →
            Generates .branch (atom ++ (suffix ++ front) ++ (last ++ other)) := by
          intro other isOther
          simpa using Generates.item isAtom isSuffix (exchange other isOther)
        exact ⟨atom ++ (suffix ++ front), last, lastSuffix, .item isAtom isSuffix isFront, isLast,
          isLastSuffix, by simp, exchangeLast⟩
  | _ => cases isBranch

/-- A pattern that is not empty ends in a bar or in an item. -/
theorem endsInItem_of_pattern {part : Part} {text : List Char} (generated : Generates part text)
    (isPattern : part = .pattern) :
    text = [] ∨ (∃ front, text = front ++ ['|']) ∨ EndsInItem .pattern text := by
  induction generated with
  | single branch _ =>
      rcases endsInItem_of_branch branch rfl with empty | ⟨front, atom, suffix, isFront, isAtom,
        isSuffix, equal, exchange⟩
      · exact .inl empty
      · exact .inr (.inr ⟨front, atom, suffix, .single isFront, isAtom, isSuffix, equal,
          fun other isOther => .single (exchange other isOther)⟩)
  | @bar branch rest isBranch isRest _ restHypothesis =>
      right
      rcases restHypothesis isPattern with rfl | ⟨front, rfl⟩ | ⟨front, last, lastSuffix, isFront,
        isLast, isLastSuffix, rfl, exchange⟩
      · exact .inl ⟨branch, rfl⟩
      · exact .inl ⟨branch ++ '|' :: front, by simp⟩
      · have exchangeLast : ∀ other, IsSuffix other →
            Generates .pattern (branch ++ '|' :: front ++ (last ++ other)) := by
          intro other isOther
          simpa using Generates.bar isBranch (exchange other isOther)
        exact .inr ⟨branch ++ '|' :: front, last, lastSuffix, .bar isBranch isFront, isLast,
          isLastSuffix, by simp, exchangeLast⟩
  | _ => cases isPattern

/-! ## Suffixes behind the last item -/

theorem IsClass.exists_concat {text : List Char} (grammar : IsClass text) :
    ∃ front, text = front ++ [']'] := by
  obtain ⟨lead, body, _, _, rfl⟩ := grammar
  exact ⟨'[' :: (lead ++ body), rfl⟩

/-- An atom is one character, an escape with or without an argument, or closed
by a bracket or a parenthesis. -/
theorem Generates.atom_cases {atom : List Char} (generated : Generates .atom atom) :
    (∃ c, c ∉ operators ∧ atom = [c]) ∨ (∃ c, c ∉ argumentLetters ∧ atom = ['\\', c]) ∨
      (∃ letter argument, letter ∈ argumentLetters ∧ '{' ∉ argument ∧
        atom = '\\' :: letter :: '{' :: (argument ++ ['}'])) ∨
      ∃ front last, last ∈ [']', ')'] ∧ atom = front ++ [last] := by
  cases generated with
  | @character c ordinary => exact .inl ⟨c, ordinary, rfl⟩
  | @escape c notLetter => exact .inr (.inl ⟨c, notLetter, rfl⟩)
  | @argument letter argument isLetter _ ordinary =>
      have noBrace : '{' ∉ argument := fun member => ordinary '{' member (by decide)
      exact .inr (.inr (.inl ⟨letter, argument, isLetter, noBrace, rfl⟩))
  | charClass grammar =>
      obtain ⟨front, rfl⟩ := grammar.exists_concat
      exact .inr (.inr (.inr ⟨front, ']', by decide, rfl⟩))
  | @group opening body _ _ =>
      exact .inr (.inr (.inr ⟨'(' :: (opening.mark ++ body), ')', by decide, rfl⟩))

/-- An atom is no escape that waits for its argument. -/
theorem not_endsInArgumentEscape_atom {front atom : List Char} (complete : IsComplete front)
    (generated : Generates .atom atom) : ¬ EndsInArgumentEscape (front ++ atom) := by
  rcases generated.atom_cases with ⟨c, _, rfl⟩ | ⟨c, notLetter, rfl⟩ |
    ⟨letter, argument, _, _, rfl⟩ | ⟨inner, last, isLast, rfl⟩
  · simp [endsInArgumentEscape_concat, complete]
  · have split : front ++ ['\\', c] = (front ++ ['\\']) ++ [c] := by simp
    rw [split, endsInArgumentEscape_concat]
    exact fun escape => notLetter escape.1
  · have split : front ++ ('\\' :: letter :: '{' :: (argument ++ ['}'])) =
        (front ++ ('\\' :: letter :: '{' :: argument)) ++ ['}'] := by simp
    rw [split, endsInArgumentEscape_concat]
    exact fun escape => absurd escape.1 (by decide)
  · rw [← List.append_assoc, endsInArgumentEscape_concat]
    have disjoint : ∀ c ∈ [']', ')'], c ∉ argumentLetters := by simp [argumentLetters]
    exact fun escape => disjoint last isLast escape.1

/-- Only a brace that closes nothing could be taken for bounds. -/
theorem not_endsInRepetition_character {front : List Char} (closes : ClosesBraces front) {c : Char}
    (ordinary : c ∉ operators) : ¬ EndsInRepetition (front ++ [c]) := by
  rw [endsInRepetition_concat]
  rintro (⟨isSign, _⟩ | ⟨_, before, inner, rfl, beforeComplete, _, bounds⟩)
  · have signsAmong : ∀ d ∈ ['?', '*', '+'], d ∈ operators := by simp [operators]
    exact ordinary (signsAmong c isSign)
  · rcases closes before inner rfl beforeComplete with bracket | brace
    · exact bounds.not_mem rfl (by decide) bracket
    · exact bounds.not_mem rfl (by decide) brace

theorem not_endsInRepetition_escape {front : List Char} (complete : IsComplete front) (c : Char) :
    ¬ EndsInRepetition (front ++ ['\\', c]) := by
  have split : front ++ ['\\', c] = (front ++ ['\\']) ++ [c] := by simp
  rw [split, endsInRepetition_concat, isComplete_concat_backslash]
  rintro (⟨_, incomplete⟩ | ⟨_, before, inner, equal, _, _, bounds⟩)
  · exact incomplete complete
  · have backslash : '\\' ∈ '{' :: inner := by
      have last : (before ++ '{' :: inner).getLast? = some '\\' := by simp [← equal]
      rw [List.getLast?_append_of_ne_nil _ (List.cons_ne_nil '{' inner)] at last
      exact List.mem_of_getLast? last
    rcases List.mem_cons.mp backslash with equal | member
    · cases equal
    · exact bounds.not_mem rfl (by decide) member

/-- The braces of an argument belong to its escape. -/
theorem not_endsInRepetition_argument {front argument : List Char} (complete : IsComplete front)
    {letter : Char} (isLetter : letter ∈ argumentLetters) (noBrace : '{' ∉ argument) :
    ¬ EndsInRepetition (front ++ '\\' :: letter :: '{' :: (argument ++ ['}'])) := by
  have split : front ++ '\\' :: letter :: '{' :: (argument ++ ['}']) =
      (front ++ '\\' :: letter :: '{' :: argument) ++ ['}'] := by simp
  rw [split, endsInRepetition_concat]
  rintro (⟨isSign, _⟩ | ⟨_, before, inner, equal, _, notArgument, bounds⟩)
  · exact absurd isSign (by decide)
  · have equal : (front ++ ['\\', letter]) ++ '{' :: argument = before ++ '{' :: inner := by
      simpa using equal
    obtain ⟨rfl, _⟩ := append_cons_inj_last noBrace (bounds.not_mem rfl (by decide)) equal
    exact notArgument ⟨front, letter, isLetter, complete, rfl⟩

theorem not_endsInRepetition_closed {last : Char} (closing : last ∈ [']', ')'])
    (front : List Char) : ¬ EndsInRepetition (front ++ [last]) := by
  rw [endsInRepetition_concat]
  rintro (⟨isSign, _⟩ | ⟨rfl, _⟩)
  · have disjoint : ∀ d ∈ ['?', '*', '+'], d ∉ [']', ')'] := by simp
    exact disjoint last isSign closing
  · exact absurd closing (by decide)

/-- A part of an atom is no repetition suffix. -/
theorem not_endsInRepetition_atom {front atom : List Char} (isFront : Generates .pattern front)
    (generated : Generates .atom atom) : ¬ EndsInRepetition (front ++ atom) := by
  have complete := isFront.balanced.isComplete
  rcases generated.atom_cases with ⟨c, ordinary, rfl⟩ | ⟨c, _, rfl⟩ |
    ⟨letter, argument, isLetter, noBrace, rfl⟩ | ⟨inner, last, closing, rfl⟩
  · exact not_endsInRepetition_character isFront.closesBraces ordinary
  · exact not_endsInRepetition_escape complete c
  · exact not_endsInRepetition_argument complete isLetter noBrace
  · rw [← List.append_assoc]
    exact not_endsInRepetition_closed closing (front ++ inner)

/-- A lazy mark can follow a pattern that ends in a repetition suffix which is
not lazy already. -/
theorem IsPattern.append_lazy {text : List Char} (isPattern : IsPattern text)
    (repeating : EndsInRepetition text)
    (greedy : ¬ EndsInLazyMark text) :
    IsPattern (text ++ ['?']) := by
  rcases endsInItem_of_pattern isPattern rfl with rfl | ⟨front, rfl⟩ |
    ⟨front, atom, suffix, isFront, isAtom, isSuffix, rfl, exchange⟩
  · exact absurd repeating (by decide)
  · rw [endsInRepetition_concat] at repeating
    rcases repeating with ⟨isSign, _⟩ | ⟨isBrace, _⟩
    · exact absurd isSign (by decide)
    · cases isBrace
  cases isSuffix with
  | none =>
      rw [List.append_nil] at repeating
      exact absurd repeating (not_endsInRepetition_atom isFront isAtom)
  | greedy quantifier =>
      rw [List.append_assoc, List.append_assoc]
      exact exchange _ (.lazy quantifier)
  | @lazy suffix quantifier =>
      have complete := isFront.balanced.append isAtom.balanced
      have notArgument := not_endsInArgumentEscape_atom isFront.balanced.isComplete isAtom
      have isLazy := quantifier.endsInRepetition complete.isComplete notArgument
      have before := (complete.append quantifier.balanced).isComplete
      exact absurd ⟨_, by simp, before, isLazy⟩ greedy

end PatternAlgebra.Text
