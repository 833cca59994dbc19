import PatternAlgebra.Text.Token

/-!
# Nesting of groups and classes

A scan over the tokens of a pattern counts the character classes and the
groups that are open.  Brackets nest inside a class; parentheses count only
outside every class, where they are members and open nothing.  A `]` directly
after `[` or `[^` is a member of the class that was just opened, so the scan
also remembers whether it stands at such an edge.

The main function, `closesAtEnd`, answers whether the delimiter that is open
first is closed by the last token of the text: only then is a text one whole
group or one whole class, from which the delimiters may be taken off.
-/

namespace PatternAlgebra.Text

/-- Where a scan stands with respect to the class that was opened last. -/
inductive Edge where
  /-- A `]` here closes the innermost class. -/
  | inside
  /-- Directly after `[`, where a caret negates and a `]` is a member. -/
  | opened
  /-- Directly after `[^`, where a `]` is a member. -/
  | negated
  deriving DecidableEq, Repr

/-- How many classes and groups a scan has open, and where it stands. -/
structure Nesting where
  classes : Nat
  groups : Nat
  edge : Edge
  deriving DecidableEq, Repr

namespace Nesting

/-- The position before the first token: nothing is open. -/
def start : Nesting :=
  ⟨0, 0, .inside⟩

/-- Nothing is open here. -/
def isOuter (nesting : Nesting) : Bool :=
  nesting.classes == 0 && nesting.groups == 0

/-- Read a character that is not escaped.  A closing parenthesis outside every
group and class is refused. -/
def plain (nesting : Nesting) (c : Char) : Option Nesting :=
  if c = '[' then
    some { nesting with classes := nesting.classes + 1, edge := .opened }
  else if c = '^' ∧ nesting.edge = .opened then
    some { nesting with edge := .negated }
  else if c = ']' ∧ nesting.edge ≠ .inside then
    some { nesting with edge := .inside }
  else if c = ']' then
    some { nesting with classes := nesting.classes - 1, edge := .inside }
  else if c = '(' ∧ nesting.classes = 0 then
    some { nesting with groups := nesting.groups + 1, edge := .inside }
  else if c = ')' ∧ nesting.classes = 0 then
    if nesting.groups = 0 then none
    else some { nesting with groups := nesting.groups - 1, edge := .inside }
  else
    some { nesting with edge := .inside }

/-- Read one token.  Escapes open and close nothing. -/
def step (nesting : Nesting) : Token → Option Nesting
  | .plain c => nesting.plain c
  | .escape _ => some { nesting with edge := .inside }
  | .dangling => some { nesting with edge := .inside }

/-- The first return to the outside happens at the last of these tokens. -/
def closesAtEnd : Nesting → List Token → Bool
  | _, [] => false
  | nesting, token :: rest =>
      match nesting.step token with
      | none => false
      | some next =>
          if next.isOuter && !nesting.isOuter then rest.isEmpty
          else closesAtEnd next rest

end Nesting

/-- The first delimiter that a text opens is closed by its last character. -/
def closesAtEnd (text : List Char) : Bool :=
  Nesting.start.closesAtEnd (Token.lex text)

end PatternAlgebra.Text
