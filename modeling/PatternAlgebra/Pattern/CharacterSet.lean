import PatternAlgebra.Operand

/-!
# Character sets

A set of characters becomes a class.  Its members are single characters and
escapes of two characters; whatever else would have a meaning between brackets
is escaped, so that no two members can combine into a range, a negation or an
operation.  A set of one member needs no brackets.
-/

namespace PatternAlgebra.Pattern

/-- The texts of the members of a set, each of which must be one character or
one escape. -/
def setMembers : List Operand → Except BuildError (List (List Char))
  | [] => .ok []
  | item :: rest =>
      let text := item.toPattern.text
      if isSingleChar text.toList then
        (setMembers rest).map (text.toList :: ·)
      else
        .error (.notACharacter text)

/-- The members of a set that has some. -/
def nonemptySetMembers (items : List Operand) : Except BuildError (List (List Char)) :=
  match setMembers items with
  | .error error => .error error
  | .ok [] => .error (.invalidArgument .emptyCharacterSet)
  | .ok members => .ok members

/-- A member as it stands outside brackets. -/
def atomText : List Char → List Char
  | [c] => Text.escapeChar c
  | member => member

/-- A member as it stands between brackets. -/
def memberText : List Char → List Char
  | [c] => if Text.isClassMetacharacter c then ['\\', c] else [c]
  | member => member

/-- A class with the given opening bracket. -/
def bracket (opening : String) (members : List (List Char)) : Pattern :=
  let rope :=
    members.foldl (fun rope member => rope.push (String.ofList (memberText member)))
      (Rope.single opening)
  ⟨rope.push "]", []⟩

/-- Any one of the given characters. -/
def anyOf (items : List Operand) : Except BuildError Pattern :=
  match nonemptySetMembers items with
  | .error error => .error error
  | .ok [member] => .ok (literal (String.ofList (atomText member)))
  | .ok members => .ok (bracket "[" members)

/-- Any one character but the given ones. -/
def noneOf (items : List Operand) : Except BuildError Pattern :=
  match nonemptySetMembers items with
  | .error error => .error error
  | .ok members => .ok (bracket "[^" members)

end PatternAlgebra.Pattern
