import PatternAlgebra.Proofs.Json.Grammar

/-!
# The reader reads the grammar

Whatever text spells a value, the reader reads that value from it.  The proof
is by induction on the grammar: each phrase is read in front of every rest at
which it can end, in a number of steps that its length bounds.
-/

namespace PatternAlgebra.Json

/-! ## One step of the reader -/

theorem readValue_space {c : Char} (space : isSpace c = true) (bound : Nat) (rest : List Char) :
    readValue bound (c :: rest) = readValue bound rest := by
  cases bound with
  | zero => rfl
  | succ bound => rw [readValue, readValue, dropSpace_cons space]

theorem readValue_quote {value : Option String} {text rest : List Char}
    (read : readLiteral text = some (value, rest)) (bound : Nat) :
    readValue (bound + 1) ('"' :: text) = some (value.elim unpaired string, rest) := by
  rw [readValue, dropSpace_cons_of_not rfl]
  cases value <;> simp [read]

/-- White space, the closing delimiters and the characters with which values
other than numbers start. -/
def startsNoNumber : List Char :=
  ['"', '[', '{', 'n', 't', 'f', ' ', '\t', '\n', '\r', ']', '}']

theorem isSpace_eq_false_of {c : Char} (starts : c ∉ startsNoNumber) : isSpace c = false := by
  simp only [startsNoNumber, List.mem_cons, List.not_mem_nil, or_false, not_or] at starts
  simp [isSpace, starts]

theorem readValue_number {c : Char} (starts : c ∉ startsNoNumber) (bound : Nat)
    (rest : List Char) : readValue (bound + 1) (c :: rest) = readNumber (c :: rest) := by
  rw [readValue, dropSpace_cons_of_not (isSpace_eq_false_of starts)]
  simp only [startsNoNumber, List.mem_cons, List.not_mem_nil, or_false, not_or] at starts
  simp [starts]

/-- A number starts with a minus sign or a digit. -/
theorem exists_start_of_number {sign integer : List Char} (isSign : sign = [] ∨ sign = ['-'])
    (isInteger : IsInteger integer) (rest : List Char) :
    ∃ c more, sign ++ integer ++ rest = c :: more ∧ c ∉ startsNoNumber := by
  rcases isSign with rfl | rfl
  · obtain ⟨nonempty, allDigits⟩ := isInteger.isDigits
    obtain ⟨first, more, rfl⟩ := List.exists_cons_of_ne_nil nonempty
    refine ⟨first, more ++ rest, rfl, ?_⟩
    intro member
    have noDigit : ∀ c ∈ startsNoNumber, c.isDigit = false := by simp [startsNoNumber]
    have isDigit := allDigits first List.mem_cons_self
    rw [noDigit first member] at isDigit
    cases isDigit
  · exact ⟨'-', integer ++ rest, rfl, by decide⟩

theorem readValue_bracket {c : Char} {text after : List Char}
    (starts : dropSpace text = c :: after) (notClosing : c ∉ [']', '}']) (bound : Nat) :
    readValue (bound + 1) ('[' :: text) = readItems bound [] text := by
  have notBracket : c ≠ ']' := List.ne_of_not_mem_cons notClosing
  rw [readValue, dropSpace_cons_of_not rfl]
  simp [starts, notBracket]

theorem readValue_brace {c : Char} {text after : List Char}
    (starts : dropSpace text = c :: after) (notClosing : c ∉ [']', '}']) (bound : Nat) :
    readValue (bound + 1) ('{' :: text) = readEntries bound [] text := by
  have notBrace : c ≠ '}' := List.ne_of_not_mem_cons (List.not_mem_of_not_mem_cons notClosing)
  rw [readValue, dropSpace_cons_of_not rfl]
  simp [starts, notBrace]

theorem readValue_emptyArray {space : List Char} (isSpace : IsSpace space) (bound : Nat)
    (rest : List Char) :
    readValue (bound + 1) ('[' :: (space ++ [']']) ++ rest) = some (array [], rest) := by
  have closed : dropSpace (space ++ ']' :: rest) = ']' :: rest := isSpace.dropSpace_append _
  rw [List.cons_append, List.append_assoc, readValue, dropSpace_cons_of_not rfl]
  simp [closed]

theorem readValue_emptyObject {space : List Char} (isSpace : IsSpace space) (bound : Nat)
    (rest : List Char) :
    readValue (bound + 1) ('{' :: (space ++ ['}']) ++ rest) = some (object [], rest) := by
  have closed : dropSpace (space ++ '}' :: rest) = '}' :: rest := isSpace.dropSpace_append _
  rw [List.cons_append, List.append_assoc, readValue, dropSpace_cons_of_not rfl]
  simp [closed]

/-- What the reader does behind an entry depends on the delimiter there. -/
theorem readEntries_of_value {key : Option String} {value : Json}
    {before keyText after text left : List Char} {bound : Nat} (isSpace : IsSpace before)
    (literal : SpellsLiteral key keyText) (isSpaceAfter : IsSpace after)
    (valueRead : readValue bound text = some (value, left)) (read : List (Option String × Json)) :
    (∀ rest, dropSpace left = ',' :: rest →
      readEntries (bound + 1) read (before ++ (keyText ++ (after ++ ':' :: text))) =
        readEntries bound ((key, value) :: read) rest) ∧
      ∀ rest, dropSpace left = '}' :: rest →
        readEntries (bound + 1) read (before ++ (keyText ++ (after ++ ':' :: text))) =
          some (ofEntries ((key, value) :: read), rest) := by
  obtain ⟨inner, rfl, keyRead⟩ := literal.readLiteral
  have colon : dropSpace (after ++ ':' :: text) = ':' :: text := by
    rw [isSpaceAfter.dropSpace_append, dropSpace_cons_of_not rfl]
  rw [readEntries, isSpace.dropSpace_append, List.cons_append, dropSpace_cons_of_not rfl]
  constructor
  · intro rest comma
    simp [keyRead, colon, valueRead, comma]
  · intro rest brace
    simp [keyRead, colon, valueRead, brace]

/-! ## Starts and ends of phrases -/

theorem endsNumber_cons {c : Char} (ends : c ∈ [' ', '\t', '\n', '\r', ',', ']', '}'])
    (rest : List Char) : EndsNumber (c :: rest) := by
  rintro d ⟨⟩
  have noPart : ∀ c ∈ [' ', '\t', '\n', '\r', ',', ']', '}'],
      c.isDigit = false ∧ isPoint c = false ∧ isExponentMark c = false := by
    simp [isPoint, isExponentMark]
  exact noPart c ends

theorem mem_of_isSpace {c : Char} (space : isSpace c = true) : c ∈ [' ', '\t', '\n', '\r'] := by
  simpa [isSpace, or_assoc] using space

theorem mem_startsNoNumber_of_closing {c : Char} (closes : c ∈ [']', '}']) :
    c ∈ startsNoNumber := by
  have among : ∀ c ∈ [']', '}'], c ∈ startsNoNumber := by simp [startsNoNumber]
  exact among c closes

/-- Behind its white space a phrase starts with a character that closes
nothing. -/
theorem Spells.exists_start {phrase : Phrase} {text : List Char} (spells : Spells phrase text)
    (rest : List Char) : ∃ c after, dropSpace (text ++ rest) = c :: after ∧ c ∉ [']', '}'] := by
  induction spells generalizing rest with
  | @before value space text isSpace _ inductionHypothesis =>
      rw [List.cons_append, dropSpace_cons isSpace]
      exact inductionHypothesis rest
  | after _ _ inductionHypothesis =>
      rw [List.append_assoc]
      exact inductionHypothesis _
  | null | trueWord | falseWord => exact ⟨_, _, dropSpace_cons_of_not rfl _, by decide⟩
  | natural isInteger _ =>
      obtain ⟨c, more, split, starts⟩ := exists_start_of_number (.inl rfl) isInteger rest
      rw [List.nil_append] at split
      rw [split, dropSpace_cons_of_not (isSpace_eq_false_of starts)]
      exact ⟨c, more, rfl, fun closes => starts (mem_startsNoNumber_of_closing closes)⟩
  | @number sign integer fraction exponent isSign isInteger _ _ _ =>
      obtain ⟨c, more, split, starts⟩ :=
        exists_start_of_number isSign isInteger (fraction ++ (exponent ++ rest))
      rw [List.append_assoc, List.append_assoc, split,
        dropSpace_cons_of_not (isSpace_eq_false_of starts)]
      exact ⟨c, more, rfl, fun closes => starts (mem_startsNoNumber_of_closing closes)⟩
  | string literal | unpaired literal =>
      obtain ⟨inner, rfl, _⟩ := literal.readLiteral
      exact ⟨_, _, dropSpace_cons_of_not rfl _, by decide⟩
  | emptyArray _ | array _ _ | emptyObject _ | object _ _ =>
      exact ⟨_, _, dropSpace_cons_of_not rfl _, by decide⟩
  | item _ inductionHypothesis => exact inductionHypothesis rest
  | moreItems _ _ inductionHypothesis _ =>
      rw [List.append_assoc]
      exact inductionHypothesis _
  | entry isSpace literal _ _ _ =>
      obtain ⟨inner, rfl, _⟩ := literal.readLiteral
      rw [List.append_assoc, isSpace.dropSpace_append]
      exact ⟨_, _, dropSpace_cons_of_not rfl _, by decide⟩
  | moreEntries isSpace literal _ _ _ _ _ =>
      obtain ⟨inner, rfl, _⟩ := literal.readLiteral
      rw [List.append_assoc, isSpace.dropSpace_append]
      exact ⟨_, _, dropSpace_cons_of_not rfl _, by decide⟩

/-! ## Phrases -/

/-- What the reader makes of the text of a phrase in front of a rest: a value
ends where no number goes on, and only white space is lost of the rest; items
and entries end at the closing delimiter. -/
def Phrase.IsReadFrom : Phrase → List Char → Prop
  | .value whole, text => ∀ bound rest, 2 * text.length ≤ bound → EndsNumber rest →
      ∃ left, readValue bound (text ++ rest) = some (whole, left) ∧ dropSpace left = dropSpace rest
  | .items all, text => ∀ bound read rest, 2 * text.length + 1 ≤ bound →
      readItems bound read (text ++ ']' :: rest) = some (array (read.reverse ++ all), rest)
  | .entries all, text => ∀ bound read rest, 2 * text.length + 1 ≤ bound →
      readEntries bound read (text ++ '}' :: rest) = some (ofEntries (all.reverse ++ read), rest)

/-- A value that takes one step of the reader, whatever follows. -/
theorem isReadFrom_of_readValue {value : Json} {text : List Char} (nonempty : text ≠ [])
    (read : ∀ bound rest, EndsNumber rest →
      readValue (bound + 1) (text ++ rest) = some (value, rest)) :
    (Phrase.value value).IsReadFrom text := by
  intro bound rest enough ends
  cases bound with
  | zero =>
      have positive := List.length_pos_iff.mpr nonempty
      omega
  | succ bound => exact ⟨rest, read bound rest ends, rfl⟩

/-- A number in front of a rest that does not continue it. -/
theorem readValue_of_number {sign integer fraction exponent : List Char}
    (isSign : sign = [] ∨ sign = ['-']) (isInteger : IsInteger integer)
    (isFraction : IsMarked isPoint false fraction)
    (isExponent : IsMarked isExponentMark true exponent) (bound : Nat) {rest : List Char}
    (ends : EndsNumber rest) :
    readValue (bound + 1) (sign ++ integer ++ fraction ++ exponent ++ rest) =
      if sign.isEmpty && fraction.isEmpty && exponent.isEmpty then
        (Text.decimal? integer).map fun value => (natural value, rest)
      else some (number (String.ofList (sign ++ integer ++ fraction ++ exponent)), rest) := by
  obtain ⟨c, more, split, starts⟩ :=
    exists_start_of_number isSign isInteger (fraction ++ (exponent ++ rest))
  have text : sign ++ integer ++ fraction ++ exponent ++ rest = c :: more := by
    rw [← split]
    simp
  rw [text, readValue_number starts, ← text,
    readNumber_append isSign isInteger isFraction isExponent ends]

section

variable {value : Json} {text : List Char} (isRead : (Phrase.value value).IsReadFrom text)

include isRead

theorem isReadFrom_before {space : Char} (isSpace : isSpace space = true) :
    (Phrase.value value).IsReadFrom (space :: text) := by
  intro bound rest enough ends
  rw [List.length_cons] at enough
  rw [List.cons_append, readValue_space isSpace]
  exact isRead bound rest (by omega) ends

theorem isReadFrom_after {space : Char} (isSpace : isSpace space = true) :
    (Phrase.value value).IsReadFrom (text ++ [space]) := by
  intro bound rest enough ends
  have endsAtSpace : EndsNumber (space :: rest) :=
    endsNumber_cons (List.mem_append_left _ (mem_of_isSpace isSpace)) rest
  rw [List.length_append] at enough
  obtain ⟨left, read, same⟩ := isRead bound (space :: rest) (by omega) endsAtSpace
  rw [dropSpace_cons isSpace] at same
  rw [List.append_assoc]
  exact ⟨left, read, same⟩

/-- Inside an array or an object a value is read up to the next delimiter. -/
theorem exists_left_of_isReadFrom {bound : Nat} (enough : 2 * text.length ≤ bound)
    (delimiter : Char) (among : delimiter ∈ [',', ']', '}']) (rest : List Char) :
    ∃ left, readValue bound (text ++ delimiter :: rest) = some (value, left) ∧
      dropSpace left = delimiter :: rest := by
  have notSpace : Json.isSpace delimiter = false := by
    have noSpace : ∀ c ∈ [',', ']', '}'], Json.isSpace c = false := by simp [Json.isSpace]
    exact noSpace delimiter among
  have endsHere : EndsNumber (delimiter :: rest) :=
    endsNumber_cons (List.mem_append_right [' ', '\t', '\n', '\r'] among) rest
  obtain ⟨left, read, same⟩ := isRead bound (delimiter :: rest) enough endsHere
  rw [dropSpace_cons_of_not notSpace] at same
  exact ⟨left, read, same⟩

theorem isReadFrom_item : (Phrase.items [value]).IsReadFrom text := by
  intro bound read rest enough
  cases bound with
  | zero => simp at enough
  | succ bound =>
      obtain ⟨left, valueRead, closes⟩ :=
        exists_left_of_isReadFrom isRead (Nat.le_of_succ_le_succ enough) ']' (by decide) rest
      rw [readItems, valueRead]
      simp [closes]

theorem isReadFrom_moreItems {items : List Json} {more : List Char}
    (moreRead : (Phrase.items items).IsReadFrom more) :
    (Phrase.items (value :: items)).IsReadFrom (text ++ ',' :: more) := by
  intro bound read rest enough
  cases bound with
  | zero => simp at enough
  | succ bound =>
      rw [List.length_append, List.length_cons] at enough
      have enoughHere : 2 * text.length ≤ bound := by omega
      obtain ⟨left, valueRead, goesOn⟩ :=
        exists_left_of_isReadFrom isRead enoughHere ',' (by decide) (more ++ ']' :: rest)
      have others := moreRead bound (value :: read) rest (by omega)
      rw [List.append_assoc, List.cons_append, readItems, valueRead]
      simp [goesOn, others]

variable {key : Option String} {before keyText after : List Char} (isSpace : IsSpace before)
  (literal : SpellsLiteral key keyText) (isSpaceAfter : IsSpace after)

include isSpace literal isSpaceAfter

theorem isReadFrom_entry :
    (Phrase.entries [(key, value)]).IsReadFrom (before ++ (keyText ++ (after ++ ':' :: text))) := by
  intro bound read rest enough
  cases bound with
  | zero => simp at enough
  | succ bound =>
      simp only [List.length_append, List.length_cons] at enough
      have enoughHere : 2 * text.length ≤ bound := by omega
      obtain ⟨left, valueRead, closes⟩ :=
        exists_left_of_isReadFrom isRead enoughHere '}' (by decide) rest
      simp only [List.append_assoc, List.cons_append]
      exact (readEntries_of_value isSpace literal isSpaceAfter valueRead read).2 rest closes

theorem isReadFrom_moreEntries {entries : List (Option String × Json)} {more : List Char}
    (moreRead : (Phrase.entries entries).IsReadFrom more) :
    (Phrase.entries ((key, value) :: entries)).IsReadFrom
      (before ++ (keyText ++ (after ++ ':' :: (text ++ ',' :: more)))) := by
  intro bound read rest enough
  cases bound with
  | zero => simp at enough
  | succ bound =>
      simp only [List.length_append, List.length_cons] at enough
      have enoughHere : 2 * text.length ≤ bound := by omega
      obtain ⟨left, valueRead, goesOn⟩ :=
        exists_left_of_isReadFrom isRead enoughHere ',' (by decide) (more ++ '}' :: rest)
      have others := moreRead bound ((key, value) :: read) rest (by omega)
      simp only [List.append_assoc, List.cons_append]
      rw [(readEntries_of_value isSpace literal isSpaceAfter valueRead read).1 _ goesOn, others]
      simp

end

/-- Opening a bracket takes one step more than reading the items. -/
theorem isReadFrom_array {items : List Json} {text : List Char}
    (spells : Spells (.items items) text) (isRead : (Phrase.items items).IsReadFrom text) :
    (Phrase.value (array items)).IsReadFrom ('[' :: (text ++ [']'])) := by
  intro bound rest enough _
  cases bound with
  | zero => simp at enough
  | succ bound =>
      obtain ⟨c, after, starts, notClosing⟩ := spells.exists_start (']' :: rest)
      simp only [List.length_cons, List.length_append, List.length_nil] at enough
      rw [List.cons_append, List.append_assoc, List.singleton_append,
        readValue_bracket starts notClosing, isRead bound [] rest (by omega)]
      exact ⟨rest, rfl, rfl⟩

theorem isReadFrom_object {entries : List (Option String × Json)} {text : List Char}
    (spells : Spells (.entries entries) text) (isRead : (Phrase.entries entries).IsReadFrom text) :
    (Phrase.value (ofEntries entries.reverse)).IsReadFrom ('{' :: (text ++ ['}'])) := by
  intro bound rest enough _
  cases bound with
  | zero => simp at enough
  | succ bound =>
      obtain ⟨c, after, starts, notClosing⟩ := spells.exists_start ('}' :: rest)
      simp only [List.length_cons, List.length_append, List.length_nil] at enough
      rw [List.cons_append, List.append_assoc, List.singleton_append,
        readValue_brace starts notClosing, isRead bound [] rest (by omega), List.append_nil]
      exact ⟨rest, rfl, rfl⟩

/-- Every phrase of the grammar is read. -/
theorem Spells.isReadFrom {phrase : Phrase} {text : List Char} (spells : Spells phrase text) :
    phrase.IsReadFrom text := by
  induction spells with
  | before isSpace _ inductionHypothesis => exact isReadFrom_before inductionHypothesis isSpace
  | after isSpace _ inductionHypothesis => exact isReadFrom_after inductionHypothesis isSpace
  | null | trueWord | falseWord =>
      apply isReadFrom_of_readValue (List.cons_ne_nil _ _)
      intro bound rest _
      rfl
  | @natural digits value isInteger read =>
      apply isReadFrom_of_readValue isInteger.isDigits.1
      intro bound rest ends
      have whole := readValue_of_number (.inl rfl) isInteger .absent .absent bound ends
      simpa [read] using whole
  | @number sign integer fraction exponent isSign isInteger isFraction isExponent notNatural =>
      apply isReadFrom_of_readValue
      · simp [isInteger.isDigits.1]
      · intro bound rest ends
        have notEmpty : ¬ (sign.isEmpty && fraction.isEmpty && exponent.isEmpty) = true := by
          simpa [and_assoc] using notNatural
        rw [readValue_of_number isSign isInteger isFraction isExponent bound ends, if_neg notEmpty]
  | string literal | unpaired literal =>
      obtain ⟨inner, rfl, read⟩ := literal.readLiteral
      apply isReadFrom_of_readValue (List.cons_ne_nil _ _)
      intro bound rest _
      exact readValue_quote (read rest) bound
  | emptyArray isSpace =>
      apply isReadFrom_of_readValue (List.cons_ne_nil _ _)
      intro bound rest _
      exact readValue_emptyArray isSpace bound rest
  | array spells inductionHypothesis => exact isReadFrom_array spells inductionHypothesis
  | emptyObject isSpace =>
      apply isReadFrom_of_readValue (List.cons_ne_nil _ _)
      intro bound rest _
      exact readValue_emptyObject isSpace bound rest
  | object spells inductionHypothesis => exact isReadFrom_object spells inductionHypothesis
  | item _ inductionHypothesis => exact isReadFrom_item inductionHypothesis
  | moreItems _ _ valueHypothesis restHypothesis =>
      exact isReadFrom_moreItems valueHypothesis restHypothesis
  | entry isSpace literal isSpaceAfter _ inductionHypothesis =>
      exact isReadFrom_entry inductionHypothesis isSpace literal isSpaceAfter
  | moreEntries isSpace literal isSpaceAfter _ _ valueHypothesis restHypothesis =>
      exact isReadFrom_moreEntries valueHypothesis isSpace literal isSpaceAfter restHypothesis

/-- Every text that spells a value is read as that value. -/
theorem parse?_of_spells {value : Json} {source : String}
    (spells : Spells (.value value) source.toList) : parse? source = some value := by
  have enough : 2 * source.toList.length ≤ 2 * source.toList.length + 2 := Nat.le_add_right _ 2
  obtain ⟨left, read, same⟩ := spells.isReadFrom _ [] enough nofun
  rw [List.append_nil] at read
  have nothingLeft : dropSpace left = [] := same
  simp [parse?, read, nothingLeft]

end PatternAlgebra.Json
