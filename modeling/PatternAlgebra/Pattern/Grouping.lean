import PatternAlgebra.BuildError
import PatternAlgebra.Pattern

/-!
# Grouping

Putting a pattern into a group never puts a group around a group when the
inner one can be changed instead: a text that is one whole plain or capturing
group gets new delimiters, and only other texts are enclosed.  A named group
is final, since its name would be lost or doubled.

Lookarounds always enclose.  They assert and consume nothing, so whatever is
inside keeps its own delimiters.
-/

namespace PatternAlgebra

/-- A group name is a letter or an underscore, then letters, digits and
underscores, all of them ASCII. -/
def isGroupName (name : List Char) : Bool :=
  match name with
  | [] => false
  | first :: rest =>
      (first.isAlpha || first == '_') && rest.all fun c => c.isAlphanum || c == '_'

/-- The four assertions about the text around a position. -/
inductive Lookaround where
  | ahead
  | behind
  | notAhead
  | notBehind
  deriving DecidableEq, Repr

namespace Lookaround

/-- The opening delimiter. -/
def opening : Lookaround → String
  | ahead => "(?="
  | behind => "(?<="
  | notAhead => "(?!"
  | notBehind => "(?<!"

end Lookaround

namespace Pattern

/-- The text without as many characters at its start and without its last
character: the inside of a group whose opening delimiter has that length. -/
def inside (text : String) (opening : Nat) : String :=
  String.ofList (text.toList.drop opening).dropLast

/-- Replace the whole text by a group around the given one. -/
def regroup (pattern : Pattern) (opening body : String) : Pattern :=
  pattern.mapRope fun _ => (Rope.single body).surround opening ")"

/-- Enclose the text in a group. -/
def enclose (pattern : Pattern) (opening : String) : Pattern :=
  pattern.mapRope fun rope => rope.surround opening ")"

/-- Make the pattern one group that captures under a number. -/
def toCaptureGroup (pattern : Pattern) : Except BuildError Pattern :=
  match pattern.shape with
  | .namedCaptureGroup => .error (.alreadyCaptured pattern.text)
  | .captureGroup => .ok pattern
  | .nonCaptureGroup => .ok (pattern.regroup "(" (inside pattern.text 3))
  | _ => .ok (pattern.enclose "(")

/-- Make the pattern one atom that captures nothing.  One character and one
class are atoms already. -/
def toNonCaptureGroup (pattern : Pattern) : Except BuildError Pattern :=
  match pattern.shape with
  | .singleChar | .charClass | .nonCaptureGroup => .ok pattern
  | .namedCaptureGroup => .error (.alreadyCaptured pattern.text)
  | .captureGroup => .ok (pattern.regroup "(?:" (inside pattern.text 1))
  | _ => .ok (pattern.enclose "(?:")

/-- Make the pattern one group that captures under the given name. -/
def toNamedCaptureGroup (pattern : Pattern) (name : String) : Except BuildError Pattern :=
  if !isGroupName name.toList then
    .error (.invalidArgument (.groupName name))
  else if pattern.shape = .namedCaptureGroup then
    .error (.alreadyCaptured pattern.text)
  else if pattern.hasName name then
    .error (.nameCollision name)
  else
    let opening := "(?<" ++ name ++ ">"
    let grouped :=
      match pattern.shape with
      | .nonCaptureGroup => pattern.regroup opening (inside pattern.text 3)
      | .captureGroup => pattern.regroup opening (inside pattern.text 1)
      | _ => pattern.enclose opening
    .ok { grouped with names := pattern.names ++ [name] }

/-- Assert the pattern instead of matching it. -/
def toLookaround (pattern : Pattern) (side : Lookaround) : Pattern :=
  pattern.enclose side.opening

end Pattern

end PatternAlgebra
