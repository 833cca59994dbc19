import PatternAlgebra.Text.Blank
import PatternAlgebra.Text.Numeral

/-!
# Matching flags

A set of flags is eight bits, of which four have a meaning.  The other bits
are kept as they are: they have no letter and no name, and change nothing
about how a pattern matches.

As text, a set is the names of its flags joined by bars; bits without a name
follow as one hexadecimal number, and a blank text is the empty set.  Inside a
pattern, a set is a directive made of the flags' letters.
-/

namespace PatternAlgebra

/-- A flag that has a meaning. -/
inductive Flag where
  /-- Letters match in either case. -/
  | caseInsensitive
  /-- The line assertions also hold at line breaks within the text. -/
  | multiLine
  /-- The dot also matches a line break. -/
  | dotMatchesNewLine
  /-- White space and comments in the pattern are ignored. -/
  | ignoreWhitespace
  deriving DecidableEq, Repr

namespace Flag

/-- The flags in the order of their bits. -/
def all : List Flag :=
  [caseInsensitive, multiLine, dotMatchesNewLine, ignoreWhitespace]

/-- The bit of a flag. -/
def bit : Flag → UInt8
  | caseInsensitive => 1
  | multiLine => 2
  | dotMatchesNewLine => 4
  | ignoreWhitespace => 8

/-- The letter of a flag in a directive. -/
def letter : Flag → Char
  | caseInsensitive => 'i'
  | multiLine => 'm'
  | dotMatchesNewLine => 's'
  | ignoreWhitespace => 'x'

/-- The name of a flag in a text. -/
def name : Flag → String
  | caseInsensitive => "CASE_INSENSITIVE"
  | multiLine => "MULTI_LINE"
  | dotMatchesNewLine => "DOT_MATCHES_NEW_LINE"
  | ignoreWhitespace => "IGNORE_WHITESPACE"

end Flag

/-- A set of flags, with any bits that have no meaning. -/
structure Flags where
  bits : UInt8
  deriving DecidableEq, Repr

namespace Flags

/-- No bit is set. -/
def none : Flags :=
  ⟨0⟩

/-- The flag is in the set. -/
def has (flags : Flags) (flag : Flag) : Bool :=
  flags.bits &&& flag.bit != 0

/-- Only the bits that have a meaning. -/
def known (flags : Flags) : Flags :=
  ⟨flags.bits &&& 15⟩

/-- The bits that have no meaning. -/
def unknownBits (flags : Flags) : UInt8 :=
  flags.bits &&& 240

/-- The members of a set, in the order of their bits. -/
def members (flags : Flags) : List Flag :=
  Flag.all.filter flags.has

/-- The directive that sets these flags from the start of a pattern.  Any bit
calls for a directive, so bits without a letter give one without letters. -/
def directive (flags : Flags) : String :=
  if flags.bits = 0 then ""
  else "(?" ++ String.ofList (flags.members.map Flag.letter) ++ ")"

/-! ## Text -/

/-- The text of a set: names, then what is left as one number. -/
def render (flags : Flags) : String :=
  let rest :=
    if flags.unknownBits = 0 then []
    else ["0x" ++ Text.hexadecimal flags.unknownBits.toNat]
  " | ".intercalate (flags.members.map Flag.name ++ rest)

/-- Read a hexadecimal number of at most eight bits; a plus sign may stand
before it. -/
def readBits? (digits : List Char) : Option UInt8 :=
  let unsigned := if digits.head? = some '+' then digits.drop 1 else digits
  match Text.hexadecimal? unsigned with
  | some value => if value < 256 then some (UInt8.ofNat value) else Option.none
  | Option.none => Option.none

/-- Read one part of a text: a number after `0x`, or the name of a flag. -/
def readPart? (part : List Char) : Option UInt8 :=
  match part with
  | '0' :: 'x' :: digits => readBits? digits
  | _ => (Flag.all.find? fun flag => flag.name.toList = part).map Flag.bit

/-- The parts of a text between bars. -/
def splitAtBars : List Char → List (List Char)
  | [] => [[]]
  | c :: rest =>
      if c = '|' then [] :: splitAtBars rest
      else
        match splitAtBars rest with
        | [] => [[c]]
        | part :: parts => (c :: part) :: parts

/-- Add up the parts of a text. -/
def readParts? : List (List Char) → Option UInt8
  | [] => some 0
  | part :: rest =>
      match readPart? (Text.trim part), readParts? rest with
      | some bits, some others => some (bits ||| others)
      | _, _ => Option.none

/-- Read the text of a set.  A part may not be empty, but the whole text may. -/
def parse? (text : String) : Option Flags :=
  if (Text.trim text.toList).isEmpty then some Flags.none
  else (readParts? (splitAtBars text.toList)).map Flags.mk

end Flags

end PatternAlgebra
