import PatternAlgebra.Json.Reader

/-!
# The grammar of JSON

A JSON text spells a value.  White space may stand around every value, every
key and every delimiter; a character in a string literal may stand for itself
or be written as an escape; and an object may repeat its keys.  The grammar
says which texts spell which values, and the reader reads each of them.
-/

namespace PatternAlgebra.Json

/-! ## Literals -/

/-- The text is one unit of a string literal. -/
inductive SpellsUnit : Unit16 → List Char → Prop where
  | plain {c : Char} : 32 ≤ c.toNat → c ≠ '"' → c ≠ '\\' → SpellsUnit (.char c) [c]
  | letter {letter c : Char} : escapeLetter? letter = some c →
      SpellsUnit (.char c) ['\\', letter]
  | hexadecimal {digits : List Char} {unit : Unit16} : digits.length = 4 →
      hexUnit? digits = some unit → SpellsUnit unit ('\\' :: 'u' :: digits)

/-- The text stands between the quotes of a string literal. -/
inductive SpellsUnits : List Unit16 → List Char → Prop where
  | nil : SpellsUnits [] []
  | cons {unit : Unit16} {units : List Unit16} {text more : List Char} : SpellsUnit unit text →
      SpellsUnits units more → SpellsUnits (unit :: units) (text ++ more)

/-- The text is a string literal.  Its value is missing when half a surrogate
pair stands in it. -/
inductive SpellsLiteral : Option String → List Char → Prop where
  | quoted {units : List Unit16} {inner : List Char} : SpellsUnits units inner →
      SpellsLiteral ((joinUnits units).map String.ofList) ('"' :: (inner ++ ['"']))

/-! ## Numbers -/

/-- The text is digits and nothing else. -/
def IsDigits (text : List Char) : Prop :=
  text ≠ [] ∧ ∀ c ∈ text, c.isDigit = true

/-- The text is digits of which the first is zero only if it is the only
one. -/
inductive IsInteger : List Char → Prop where
  | zero : IsInteger ['0']
  | digits {digits : List Char} : IsDigits digits → digits.head? ≠ some '0' → IsInteger digits

/-- The text is empty or a mark with digits behind it, which may have a sign
where signs are allowed. -/
inductive IsMarked (isMark : Char → Bool) (signed : Bool) : List Char → Prop where
  | absent : IsMarked isMark signed []
  | present {mark : Char} {sign digits : List Char} : isMark mark = true →
      sign = [] ∨ signed = true ∧ (sign = ['+'] ∨ sign = ['-']) → IsDigits digits →
      IsMarked isMark signed (mark :: (sign ++ digits))

/-- The mark of a fraction. -/
def isPoint (c : Char) : Bool :=
  c == '.'

/-- The mark of an exponent. -/
def isExponentMark (c : Char) : Bool :=
  c == 'e' || c == 'E'

/-! ## Values -/

/-- The text has no characters but white space. -/
def IsSpace (text : List Char) : Prop :=
  ∀ c ∈ text, isSpace c = true

/-- What a part of a JSON text stands for. -/
inductive Phrase where
  | value (value : Json)
  /-- The items between the brackets of an array. -/
  | items (items : List Json)
  /-- The entries between the braces of an object, in which a key may have no
  text. -/
  | entries (entries : List (Option String × Json))

/-- The texts of the phrases.  Those of a value include the white space
around it. -/
inductive Spells : Phrase → List Char → Prop where
  | before {value : Json} {space : Char} {text : List Char} : isSpace space = true →
      Spells (.value value) text → Spells (.value value) (space :: text)
  | after {value : Json} {space : Char} {text : List Char} : isSpace space = true →
      Spells (.value value) text → Spells (.value value) (text ++ [space])
  | null : Spells (.value null) ['n', 'u', 'l', 'l']
  | trueWord : Spells (.value (bool true)) ['t', 'r', 'u', 'e']
  | falseWord : Spells (.value (bool false)) ['f', 'a', 'l', 's', 'e']
  | natural {digits : List Char} {value : Nat} : IsInteger digits →
      Text.decimal? digits = some value → Spells (.value (natural value)) digits
  | number {sign integer fraction exponent : List Char} : sign = [] ∨ sign = ['-'] →
      IsInteger integer → IsMarked isPoint false fraction → IsMarked isExponentMark true exponent →
      sign ++ fraction ++ exponent ≠ [] →
      Spells (.value (number (String.ofList (sign ++ integer ++ fraction ++ exponent))))
        (sign ++ integer ++ fraction ++ exponent)
  | string {value : String} {text : List Char} : SpellsLiteral (some value) text →
      Spells (.value (string value)) text
  | unpaired {text : List Char} : SpellsLiteral none text → Spells (.value unpaired) text
  | emptyArray {space : List Char} : IsSpace space →
      Spells (.value (array [])) ('[' :: (space ++ [']']))
  | array {items : List Json} {text : List Char} : Spells (.items items) text →
      Spells (.value (array items)) ('[' :: (text ++ [']']))
  | emptyObject {space : List Char} : IsSpace space →
      Spells (.value (object [])) ('{' :: (space ++ ['}']))
  | object {entries : List (Option String × Json)} {text : List Char} :
      Spells (.entries entries) text →
      Spells (.value (ofEntries entries.reverse)) ('{' :: (text ++ ['}']))
  | item {value : Json} {text : List Char} : Spells (.value value) text →
      Spells (.items [value]) text
  | moreItems {value : Json} {items : List Json} {text more : List Char} :
      Spells (.value value) text → Spells (.items items) more →
      Spells (.items (value :: items)) (text ++ ',' :: more)
  | entry {key : Option String} {value : Json} {before keyText after text : List Char} :
      IsSpace before → SpellsLiteral key keyText → IsSpace after → Spells (.value value) text →
      Spells (.entries [(key, value)]) (before ++ (keyText ++ (after ++ ':' :: text)))
  | moreEntries {key : Option String} {value : Json} {entries : List (Option String × Json)}
      {before keyText after text more : List Char} : IsSpace before → SpellsLiteral key keyText →
      IsSpace after → Spells (.value value) text → Spells (.entries entries) more →
      Spells (.entries ((key, value) :: entries))
        (before ++ (keyText ++ (after ++ ':' :: (text ++ ',' :: more))))

/-! ## White space -/

theorem dropSpace_cons {c : Char} (space : isSpace c = true) (rest : List Char) :
    dropSpace (c :: rest) = dropSpace rest := by
  rw [dropSpace, List.dropWhile_cons_of_pos space, dropSpace]

theorem dropSpace_cons_of_not {c : Char} (notSpace : isSpace c = false) (rest : List Char) :
    dropSpace (c :: rest) = c :: rest := by
  rw [dropSpace, List.dropWhile_cons_of_neg (by simp [notSpace])]

theorem IsSpace.dropSpace_append {space : List Char} (isSpace : IsSpace space)
    (rest : List Char) : dropSpace (space ++ rest) = dropSpace rest := by
  induction space with
  | nil => rfl
  | cons c more inductionHypothesis =>
      rw [IsSpace, List.forall_mem_cons] at isSpace
      rw [List.cons_append, dropSpace_cons isSpace.1]
      exact inductionHypothesis isSpace.2

/-! ## Reading literals -/

theorem SpellsUnit.readUnits {unit : Unit16} {text : List Char} (spells : SpellsUnit unit text)
    (read : List Unit16) (rest : List Char) :
    readUnits read (text ++ rest) = Json.readUnits (unit :: read) rest := by
  cases spells with
  | @plain c printable notQuote notBackslash =>
      have notControl : ¬ c.toNat < 32 := Nat.not_lt.mpr printable
      simp [Json.readUnits, notBackslash, notControl]
  | @letter letter c escape =>
      have notU : letter ≠ 'u' := by
        rintro rfl
        cases escape
      simp [Json.readUnits, notU, escape]
  | @hexadecimal digits unit four hex =>
      match digits, four with
      | [a, b, c, d], _ => simp [Json.readUnits, hex]

theorem SpellsUnits.readUnits {units : List Unit16} {text : List Char}
    (spells : SpellsUnits units text) (read : List Unit16) (rest : List Char) :
    readUnits read (text ++ '"' :: rest) = some (read.reverse ++ units, rest) := by
  induction spells generalizing read with
  | nil => simp [Json.readUnits]
  | cons first _ inductionHypothesis =>
      rw [List.append_assoc, first.readUnits, inductionHypothesis]
      simp

/-- A literal is read up to its closing quote. -/
theorem SpellsLiteral.readLiteral {value : Option String} {text : List Char}
    (spells : SpellsLiteral value text) :
    ∃ inner, text = '"' :: inner ∧ ∀ rest, readLiteral (inner ++ rest) = some (value, rest) := by
  cases spells with
  | @quoted units inner written =>
      refine ⟨inner ++ ['"'], rfl, ?_⟩
      intro rest
      have read := written.readUnits [] rest
      rw [List.reverse_nil, List.nil_append] at read
      rw [List.append_assoc, List.singleton_append, Json.readLiteral, read]

/-! ## Reading numbers -/

theorem IsDigits.startsWithDigit {digits : List Char} (isDigits : IsDigits digits)
    (rest : List Char) : startsWithDigit (digits ++ rest) = true := by
  obtain ⟨nonempty, allDigits⟩ := isDigits
  obtain ⟨first, more, rfl⟩ := List.exists_cons_of_ne_nil nonempty
  exact allDigits first List.mem_cons_self

theorem IsDigits.takeWhile {digits : List Char} (isDigits : IsDigits digits) {rest : List Char}
    (ends : ∀ c ∈ rest.head?, c.isDigit = false) :
    (digits ++ rest).takeWhile Char.isDigit = digits ∧
      (digits ++ rest).dropWhile Char.isDigit = rest := by
  rw [List.takeWhile_append_of_pos isDigits.2, List.dropWhile_append_of_pos isDigits.2]
  cases rest with
  | nil => simp
  | cons c more =>
      have notDigit : ¬ c.isDigit = true := by simp [ends c rfl]
      rw [List.takeWhile_cons_of_neg notDigit, List.dropWhile_cons_of_neg notDigit]
      simp

theorem isDigit_eq_false_of_isPoint (c : Char) (point : isPoint c = true) :
    c.isDigit = false := by
  rw [isPoint, beq_iff_eq] at point
  subst point
  rfl

theorem not_digit_or_point_of_isExponentMark (c : Char) (mark : isExponentMark c = true) :
    c.isDigit = false ∧ isPoint c = false := by
  rw [isExponentMark, Bool.or_eq_true, beq_iff_eq, beq_iff_eq] at mark
  rcases mark with rfl | rfl <;> exact ⟨rfl, rfl⟩

theorem not_sign_of_isDigit (c : Char) (isDigit : c.isDigit = true) :
    (c == '+' || c == '-') = false := by
  rw [Bool.or_eq_false_iff, beq_eq_false_iff_ne, beq_eq_false_iff_ne]
  constructor
  · rintro rfl
    cases isDigit
  · rintro rfl
    cases isDigit

/-- A sign before digits is found by looking at one character. -/
theorem IsDigits.filter_sign {isSign : Char → Bool} {sign digits : List Char}
    (isDigits : IsDigits digits) (noDigit : ∀ c, c.isDigit = true → isSign c = false)
    (signs : sign = [] ∨ ∃ c, isSign c = true ∧ sign = [c]) (rest : List Char) :
    ((sign ++ digits ++ rest).take 1).filter isSign = sign := by
  rcases signs with rfl | ⟨c, accepted, rfl⟩
  · obtain ⟨nonempty, allDigits⟩ := isDigits
    obtain ⟨first, more, rfl⟩ := List.exists_cons_of_ne_nil nonempty
    have refused := noDigit first (allDigits first List.mem_cons_self)
    simp [refused]
  · simp [accepted]

/-- What stands behind a part of a number does not continue it. -/
theorem IsMarked.readMarked {isMark : Char → Bool} {signed : Bool} {text rest : List Char}
    (isMarked : IsMarked isMark signed text) (ends : ∀ c ∈ rest.head?, c.isDigit = false)
    (noMark : ∀ c ∈ rest.head?, isMark c = false) :
    readMarked isMark signed (text ++ rest) = some (text, rest) := by
  cases isMarked with
  | absent =>
      cases rest with
      | nil => rfl
      | cons c more =>
          have notMark : isMark c = false := noMark c rfl
          simp [Json.readMarked, notMark]
  | @present mark sign digits marks isSign isDigits =>
      have signRead : (if signed then
          ((sign ++ digits ++ rest).take 1).filter (fun c => c == '+' || c == '-') else []) =
            sign := by
        rcases isSign with rfl | ⟨rfl, isSign⟩
        · rw [isDigits.filter_sign not_sign_of_isDigit (.inl rfl), ite_self]
        · rw [if_pos rfl]
          apply isDigits.filter_sign not_sign_of_isDigit
          rcases isSign with rfl | rfl <;> exact .inr ⟨_, rfl, rfl⟩
      obtain ⟨digitsRead, restRead⟩ := isDigits.takeWhile ends
      have starts := isDigits.startsWithDigit rest
      rw [List.cons_append, Json.readMarked, if_pos marks]
      simp only [signRead]
      simp [starts, digitsRead, restRead]

theorem IsMarked.forall_mem_head? {isMark : Char → Bool} {signed : Bool} {text rest : List Char}
    (isMarked : IsMarked isMark signed text) {P : Char → Prop}
    (marks : ∀ c, isMark c = true → P c) (ends : ∀ c ∈ rest.head?, P c) :
    ∀ c ∈ (text ++ rest).head?, P c := by
  cases isMarked with
  | absent => exact ends
  | @present mark sign digits isMark _ _ =>
      rintro c ⟨⟩
      exact marks mark isMark

theorem IsInteger.isDigits {integer : List Char} (isInteger : IsInteger integer) :
    IsDigits integer := by
  cases isInteger with
  | zero => exact ⟨List.cons_ne_nil _ _, List.forall_mem_singleton.mpr rfl⟩
  | digits isDigits _ => exact isDigits

/-- An integer ends with its digits, and a zero at its start is the whole of
it. -/
theorem IsInteger.read {integer : List Char} (isInteger : IsInteger integer) {rest : List Char}
    (ends : ∀ c ∈ rest.head?, c.isDigit = false) :
    (if (integer ++ rest).head? = some '0' then ['0']
      else (integer ++ rest).takeWhile Char.isDigit) = integer := by
  cases isInteger with
  | zero => rfl
  | digits isDigits noZero =>
      have notZero : ¬ (integer ++ rest).head? = some '0' := by
        obtain ⟨first, more, rfl⟩ := List.exists_cons_of_ne_nil isDigits.1
        exact noZero
      rw [if_neg notZero, (isDigits.takeWhile ends).1]

/-- No character at the start of the text continues a number. -/
def EndsNumber (text : List Char) : Prop :=
  ∀ c ∈ text.head?, c.isDigit = false ∧ isPoint c = false ∧ isExponentMark c = false

theorem readNumber_append {sign integer fraction exponent rest : List Char}
    (isSign : sign = [] ∨ sign = ['-']) (isInteger : IsInteger integer)
    (isFraction : IsMarked isPoint false fraction)
    (isExponent : IsMarked isExponentMark true exponent) (ends : EndsNumber rest) :
    readNumber (sign ++ integer ++ fraction ++ exponent ++ rest) =
      if sign.isEmpty && fraction.isEmpty && exponent.isEmpty then
        (Text.decimal? integer).map fun value => (natural value, rest)
      else some (number (String.ofList (sign ++ integer ++ fraction ++ exponent)), rest) := by
  have behindFraction : ∀ c ∈ (exponent ++ rest).head?, c.isDigit = false ∧ isPoint c = false :=
    isExponent.forall_mem_head? not_digit_or_point_of_isExponentMark fun c head =>
      ⟨(ends c head).1, (ends c head).2.1⟩
  have behindInteger : ∀ c ∈ (fraction ++ (exponent ++ rest)).head?, c.isDigit = false :=
    isFraction.forall_mem_head? isDigit_eq_false_of_isPoint fun c head => (behindFraction c head).1
  have exponentRead : readMarked (fun c => c == 'e' || c == 'E') true (exponent ++ rest) =
      some (exponent, rest) :=
    isExponent.readMarked (fun c head => (ends c head).1) fun c head => (ends c head).2.2
  have fractionRead : readMarked (· == '.') false (fraction ++ (exponent ++ rest)) =
      some (fraction, exponent ++ rest) :=
    isFraction.readMarked (fun c head => (behindFraction c head).1)
      fun c head => (behindFraction c head).2
  have integerRead := isInteger.read behindInteger
  have starts := isInteger.isDigits.startsWithDigit (fraction ++ (exponent ++ rest))
  have signRead : ((sign ++ integer ++ (fraction ++ (exponent ++ rest))).take 1).filter (· == '-') =
      sign := by
    apply isInteger.isDigits.filter_sign
    · intro c isDigit
      exact (Bool.or_eq_false_iff.mp (not_sign_of_isDigit c isDigit)).2
    · exact isSign.imp_right fun minus => ⟨'-', rfl, minus⟩
  have split : sign ++ integer ++ fraction ++ exponent ++ rest =
      sign ++ integer ++ (fraction ++ (exponent ++ rest)) := by simp
  have unsigned : (sign ++ integer ++ (fraction ++ (exponent ++ rest))).drop sign.length =
      integer ++ (fraction ++ (exponent ++ rest)) := by simp
  have unread : (integer ++ (fraction ++ (exponent ++ rest))).drop integer.length =
      fraction ++ (exponent ++ rest) := by simp
  rw [split, readNumber]
  simp only [signRead, unsigned, starts, if_true, integerRead, unread, fractionRead,
    exponentRead]

end PatternAlgebra.Json
