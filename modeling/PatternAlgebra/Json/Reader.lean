import PatternAlgebra.Json

/-!
# Reading JSON

A reader takes the characters from which it reads and returns a value with
the characters after it, or nothing when no value starts there.  `parse?`
reads a whole text: white space may stand around the value and nothing else.

The nested readers take a bound on the number of steps.  Every second step at
least consumes a character, so twice the length of the text is always enough,
and `parse?` starts with that bound.
-/

namespace PatternAlgebra.Json

/-- The four characters that may stand between tokens. -/
def isSpace (c : Char) : Bool :=
  c == ' ' || c == '\t' || c == '\n' || c == '\r'

/-- The text from its first character that is no space. -/
def dropSpace (text : List Char) : List Char :=
  text.dropWhile isSpace

/-! ## String literals -/

/-- What one character or one escape inside a string literal stands for. -/
inductive Unit16 where
  | char (c : Char)
  /-- One half of a surrogate pair. -/
  | surrogate (code : Nat)

/-- The unit that four hexadecimal digits stand for. -/
def hexUnit? (digits : List Char) : Option Unit16 :=
  match Text.hexadecimal? digits with
  | none => none
  | some code =>
      if 0xD800 ≤ code ∧ code < 0xE000 then some (.surrogate code)
      else some (.char (Char.ofNat code))

/-- The character that a letter after a backslash stands for. -/
def escapeLetter? (letter : Char) : Option Char :=
  if letter = '"' ∨ letter = '\\' ∨ letter = '/' then some letter
  else if letter = 'b' then some (Char.ofNat 8)
  else if letter = 'f' then some (Char.ofNat 12)
  else if letter = 'n' then some '\n'
  else if letter = 'r' then some '\r'
  else if letter = 't' then some '\t'
  else none

/-- Read the units of a string literal whose opening quote has been read, and
its closing quote.  The units read so far are given in reversed order. -/
def readUnits (read : List Unit16) : List Char → Option (List Unit16 × List Char)
  | [] => none
  | '"' :: rest => some (read.reverse, rest)
  | '\\' :: 'u' :: a :: b :: c :: d :: rest =>
      match hexUnit? [a, b, c, d] with
      | none => none
      | some unit => readUnits (unit :: read) rest
  | '\\' :: letter :: rest =>
      match escapeLetter? letter with
      | none => none
      | some c => readUnits (.char c :: read) rest
  | c :: rest =>
      if c.toNat < 32 ∨ c = '\\' then none else readUnits (.char c :: read) rest

/-- Join surrogate pairs; half a pair has no text. -/
def joinUnits : List Unit16 → Option (List Char)
  | [] => some []
  | .char c :: rest => (joinUnits rest).map (c :: ·)
  | .surrogate high :: .surrogate low :: rest =>
      if high < 0xDC00 ∧ 0xDC00 ≤ low then
        (joinUnits rest).map
          (Char.ofNat (0x10000 + (high - 0xD800) * 0x400 + (low - 0xDC00)) :: ·)
      else none
  | .surrogate _ :: _ => none

/-- Read a string literal whose opening quote has been read.  The text is
missing when half a surrogate pair stands in it. -/
def readLiteral (text : List Char) : Option (Option String × List Char) :=
  match readUnits [] text with
  | none => none
  | some (units, rest) => some ((joinUnits units).map String.ofList, rest)

/-! ## Numbers -/

/-- The text starts with a digit. -/
def startsWithDigit : List Char → Bool
  | c :: _ => c.isDigit
  | [] => false

/-- Split off the part of a number after a mark: the mark, what may follow it,
and at least one digit.  Nothing is split off where the mark does not stand. -/
def readMarked (isMark : Char → Bool) (signed : Bool) (text : List Char) :
    Option (List Char × List Char) :=
  match text with
  | [] => some ([], [])
  | mark :: rest =>
      if isMark mark then
        let sign := if signed then (rest.take 1).filter (fun c => c == '+' || c == '-') else []
        let digits := rest.drop sign.length
        if startsWithDigit digits then
          some (mark :: sign ++ digits.takeWhile Char.isDigit, digits.dropWhile Char.isDigit)
        else none
      else some ([], text)

/-- Read a number: an optional minus sign, digits without a leading zero, and
optionally a fraction and an exponent. -/
def readNumber (text : List Char) : Option (Json × List Char) :=
  let sign := (text.take 1).filter (· == '-')
  let unsigned := text.drop sign.length
  if startsWithDigit unsigned then
    let digits :=
      if unsigned.head? = some '0' then ['0'] else unsigned.takeWhile Char.isDigit
    match readMarked (· == '.') false (unsigned.drop digits.length) with
    | none => none
    | some (fraction, afterFraction) =>
        match readMarked (fun c => c == 'e' || c == 'E') true afterFraction with
        | none => none
        | some (exponent, rest) =>
            if sign.isEmpty && fraction.isEmpty && exponent.isEmpty then
              (Text.decimal? digits).map fun value => (natural value, rest)
            else
              some (number (String.ofList (sign ++ digits ++ fraction ++ exponent)), rest)
  else none

/-! ## Values -/

/-- Take a word off the front of a text. -/
def dropWord? : (word text : List Char) → Option (List Char)
  | [], text => some text
  | _ :: _, [] => none
  | w :: word, c :: text => if w = c then dropWord? word text else none

/-- The object with these entries, given in reversed order.  A key without a
text leaves no object. -/
def ofEntries (entries : List (Option String × Json)) : Json :=
  match entries.reverse.mapM fun entry => entry.1.map fun key => (key, entry.2) with
  | some complete => object complete
  | none => unpaired

mutual

/-- Read a value. -/
def readValue : Nat → List Char → Option (Json × List Char)
  | 0, _ => none
  | bound + 1, text =>
      match dropSpace text with
      | [] => none
      | '"' :: rest =>
          match readLiteral rest with
          | none => none
          | some (none, after) => some (unpaired, after)
          | some (some value, after) => some (string value, after)
      | '[' :: rest =>
          match dropSpace rest with
          | ']' :: after => some (array [], after)
          | _ => readItems bound [] rest
      | '{' :: rest =>
          match dropSpace rest with
          | '}' :: after => some (object [], after)
          | _ => readEntries bound [] rest
      | 'n' :: rest => (dropWord? ['u', 'l', 'l'] rest).map fun after => (null, after)
      | 't' :: rest => (dropWord? ['r', 'u', 'e'] rest).map fun after => (bool true, after)
      | 'f' :: rest =>
          (dropWord? ['a', 'l', 's', 'e'] rest).map fun after => (bool false, after)
      | c :: rest => readNumber (c :: rest)

/-- Read the remaining items of an array, of which there is at least one. -/
def readItems : Nat → List Json → List Char → Option (Json × List Char)
  | 0, _, _ => none
  | bound + 1, items, text =>
      match readValue bound text with
      | none => none
      | some (item, rest) =>
          match dropSpace rest with
          | ',' :: after => readItems bound (item :: items) after
          | ']' :: after => some (array (item :: items).reverse, after)
          | _ => none

/-- Read the remaining entries of an object, of which there is at least one. -/
def readEntries : Nat → List (Option String × Json) → List Char → Option (Json × List Char)
  | 0, _, _ => none
  | bound + 1, entries, text =>
      match dropSpace text with
      | '"' :: rest =>
          match readLiteral rest with
          | none => none
          | some (key, afterKey) =>
              match dropSpace afterKey with
              | ':' :: valueText =>
                  match readValue bound valueText with
                  | none => none
                  | some (value, afterValue) =>
                      match dropSpace afterValue with
                      | ',' :: after => readEntries bound ((key, value) :: entries) after
                      | '}' :: after => some (ofEntries ((key, value) :: entries), after)
                      | _ => none
              | _ => none
      | _ => none

end

/-- Read a text that holds one value and nothing else. -/
def parse? (source : String) : Option Json :=
  let text := source.toList
  match readValue (2 * text.length + 2) text with
  | none => none
  | some (value, rest) => if (dropSpace rest).isEmpty then some value else none

end PatternAlgebra.Json
