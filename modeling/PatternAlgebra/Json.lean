import PatternAlgebra.Text.Numeral

/-!
# JSON values

The values that configuration texts hold.  A number is kept as a natural
number when it is written as one; of any other number only the literal is
kept, since nothing here asks for its value.  A string literal in which the
escape of one half of a surrogate pair stands alone denotes no text; it becomes
a value of its own, and so does an object that has it for a key.

Objects keep their entries in the order in which they are written, repeated
keys included, so a reader of objects decides what a repeated key means.
-/

namespace PatternAlgebra

/-- A JSON value. -/
inductive Json where
  | null
  | bool (value : Bool)
  /-- A number written with digits alone. -/
  | natural (value : Nat)
  /-- A number written with a sign, a fraction or an exponent. -/
  | number (literal : String)
  | string (value : String)
  /-- A string literal with half a surrogate pair, or an object with such a
  key. -/
  | unpaired
  | array (items : List Json)
  | object (entries : List (String × Json))
  deriving Repr

namespace Json

/-- A character as it is written inside a string literal. -/
def escapedChar (c : Char) : String :=
  if c = '"' then "\\\""
  else if c = '\\' then "\\\\"
  else if c = '\n' then "\\n"
  else if c = '\r' then "\\r"
  else if c = '\t' then "\\t"
  else if c.toNat = 8 then "\\b"
  else if c.toNat = 12 then "\\f"
  else if c.toNat < 16 then "\\u000" ++ Text.hexadecimal c.toNat
  else if c.toNat < 32 then "\\u00" ++ Text.hexadecimal c.toNat
  else c.toString

/-- A text as a string literal. -/
def literal (text : String) : String :=
  "\"" ++ String.join (text.toList.map escapedChar) ++ "\""

mutual

/-- The compact text of a value. -/
def render : Json → String
  | null => "null"
  | bool true => "true"
  | bool false => "false"
  | natural value => Text.decimal value
  | number digits => digits
  | string value => literal value
  | unpaired => "\"\\ud800\""
  | array items => "[" ++ renderItems items ++ "]"
  | object entries => "\x7b" ++ renderEntries entries ++ "\x7d"

/-- The items of an array, separated by commas. -/
def renderItems : List Json → String
  | [] => ""
  | [item] => render item
  | item :: rest => render item ++ "," ++ renderItems rest

/-- The entries of an object, separated by commas. -/
def renderEntries : List (String × Json) → String
  | [] => ""
  | [(key, value)] => literal key ++ ":" ++ render value
  | (key, value) :: rest =>
      literal key ++ ":" ++ render value ++ "," ++ renderEntries rest

end

end Json

end PatternAlgebra
