import PatternAlgebra.StandIn.Syntax.CharTest
import PatternAlgebra.StandIn.Syntax.Dialect

/-!
# Classes in brackets

A class may open with hyphens, or with a closing bracket, and these stand for
themselves.  What follows are atoms: characters as they stand, escaped
characters, and kinds.  A hyphen between two atoms makes a range of them, but
an escaped hyphen never does, nor does one that follows a range or the opening
of the class.

Nested classes and set operations do not belong to the syntax, and a class
that would use them is refused.
-/

namespace PatternAlgebra.StandIn.Syntax

/-- An atom of a class. -/
inductive ClassAtom where
  /-- A character as it stands. -/
  | raw (c : Char)
  /-- A character given by an escape. -/
  | quoted (c : Char)
  | kind (members : CharKind) (negated : Bool)
  deriving DecidableEq, Repr

/-- The control characters that a letter stands for after a backslash. -/
def controls : List (Char × Char) :=
  [('a', '\x07'), ('f', '\x0c'), ('n', '\n'), ('r', '\r'), ('t', '\t'), ('v', '\x0b')]

/-- The kinds that a letter stands for after a backslash. -/
def kinds : List (Char × ClassAtom) :=
  [('d', .kind .digit false), ('D', .kind .digit true), ('s', .kind .blank false),
    ('S', .kind .blank true), ('w', .kind .word false), ('W', .kind .word true)]

/-- What a backslash before this character stands for, inside a class or
outside of one. -/
def escapeAtom? (dialect : Dialect) (c : Char) : Option ClassAtom :=
  match kinds.lookup c, controls.lookup c with
  | some atom, _ => some atom
  | none, some control => some (.quoted control)
  | none, none =>
      if c = 'e' ∧ dialect.isExtended then some (.quoted '\x1b')
      else if c.isAlphanum || c = '<' || c = '>' then none
      else if c.toNat < 128 || dialect.isExtended then some (.quoted c)
      else none

/-- What a backslash before this character stands for in a class.  The
backtracking dialect makes members of the letters that ask about positions
outside of a class. -/
def classEscape? (dialect : Dialect) (c : Char) : Option ClassAtom :=
  if dialect.isExtended then
    if c = 'b' then some (.quoted '\x08')
    else if ['k', 'A', 'z', 'B', 'K', 'G', '<', '>'].contains c then some (.quoted c)
    else escapeAtom? dialect c
  else escapeAtom? dialect c

namespace ClassAtom

/-- The character an atom stands for, if it stands for one. -/
def char? : ClassAtom → Option Char
  | raw c => some c
  | quoted c => some c
  | kind _ _ => none

/-- The item an atom makes on its own. -/
def item : ClassAtom → ClassItem
  | raw c => .range c c
  | quoted c => .range c c
  | kind members negated => .kind members negated

/-- The range from one atom to another. -/
def rangeTo? (first last : ClassAtom) : Option ClassItem :=
  match first.char?, last.char? with
  | some c, some d => if c ≤ d then some (.range c d) else none
  | _, _ => none

end ClassAtom

/-- Where the reading of a class stands. -/
inductive ClassPhase where
  /-- Directly after the opening bracket. -/
  | bracket
  /-- Among the characters that open the class. -/
  | opening
  | body
  /-- Directly after a backslash. -/
  | escape
  /-- In a comment, which lasts to the end of the line. -/
  | comment (resume : ClassPhase)
  deriving DecidableEq, Repr

/-- A class that is being read. -/
structure ClassDraft where
  negated : Bool
  /-- The items so far, the latest first. -/
  items : List ClassItem
  /-- An atom that may still start a range. -/
  held : Option ClassAtom
  /-- A hyphen has followed that atom. -/
  hyphen : Bool
  phase : ClassPhase
  deriving DecidableEq, Repr

namespace ClassDraft

/-- The class after its opening bracket. -/
def start : ClassDraft :=
  ⟨false, [], none, false, .bracket⟩

/-- What a character makes of a class. -/
inductive Progress where
  /-- The class goes on. -/
  | more (draft : ClassDraft)
  /-- The class is complete. -/
  | done (test : CharTest)

/-- Add a character to those that open the class. -/
def openWith (draft : ClassDraft) (c : Char) (phase : ClassPhase) : ClassDraft :=
  { draft with items := .range c c :: draft.items, phase }

/-- The items together with the atom that starts no range. -/
def settled (draft : ClassDraft) : List ClassItem :=
  match draft.held with
  | none => draft.items
  | some atom => atom.item :: draft.items

/-- Add an atom, which ends a range after a hyphen. -/
def add? (draft : ClassDraft) (atom : ClassAtom) : Option ClassDraft :=
  match draft.held, draft.hyphen with
  | some first, true =>
      (first.rangeTo? atom).map fun range =>
        { draft with items := range :: draft.items, held := none, hyphen := false, phase := .body }
  | _, _ => some { draft with items := draft.settled, held := some atom, phase := .body }

/-- Add a hyphen as it stands.  Two of them would be a set operation. -/
def addHyphen? (draft : ClassDraft) : Option ClassDraft :=
  match draft.held, draft.hyphen with
  | _, true => none
  | none, false => some { draft with held := some (.raw '-') }
  | some atom, false => if atom = .raw '-' then none else some { draft with hyphen := true }

/-- The class at its closing bracket, where a hyphen stands for itself. -/
def close (draft : ClassDraft) : CharTest :=
  let items := if draft.hyphen then .range '-' '-' :: draft.settled else draft.settled
  .oneOf draft.negated items.reverse

/-- Read a character that stands in the body of a class unescaped.  In the
standard dialect an opening bracket may end a range. -/
def readBody? (dialect : Dialect) (draft : ClassDraft) (c : Char) : Option Progress :=
  if c = '\\' then some (.more { draft with phase := .escape })
  else if c = ']' then some (.done draft.close)
  else if c = '-' then draft.addHyphen?.map .more
  else if c = '[' then
    if draft.hyphen && !dialect.isExtended then (draft.add? (.raw c)).map .more else none
  else if (c = '&' ∨ c = '~') ∧ draft.held = some (.raw c) ∧ !draft.hyphen then none
  else (draft.add? (.raw c)).map .more

/-- Read a character that may belong to the opening of a class.  A closing
bracket does while the class has no members. -/
def readOpening? (dialect : Dialect) (draft : ClassDraft) (c : Char) : Option Progress :=
  if c = '-' then some (.more (draft.openWith '-' .opening))
  else if c = ']' ∧ draft.items.isEmpty then some (.more (draft.openWith ']' .body))
  else draft.readBody? dialect c

/-- Read one character of a class.  In a verbose pattern of the standard
dialect blanks and comments do not count inside a class either. -/
def read? (dialect : Dialect) (verbose : Bool) (draft : ClassDraft) (c : Char) :
    Option Progress :=
  let skips := verbose && !dialect.isExtended
  match draft.phase with
  | .escape => (classEscape? dialect c).bind fun atom => (draft.add? atom).map .more
  | .comment resume =>
      some (.more (if c = '\n' then { draft with phase := resume } else draft))
  | .bracket =>
      if skips && dialect.isLayout c then some (.more draft)
      else if skips && c = '#' then some (.more { draft with phase := .comment .bracket })
      else if c = '^' ∧ !draft.negated then some (.more { draft with negated := true })
      else draft.readOpening? dialect c
  | .opening =>
      if skips && dialect.isLayout c then some (.more draft)
      else if skips && c = '#' then some (.more { draft with phase := .comment .opening })
      else draft.readOpening? dialect c
  | .body =>
      if skips && dialect.isLayout c then some (.more draft)
      else if skips && c = '#' then some (.more { draft with phase := .comment .body })
      else draft.readBody? dialect c

end ClassDraft

end PatternAlgebra.StandIn.Syntax
