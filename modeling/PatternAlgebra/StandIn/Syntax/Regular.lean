import PatternAlgebra.StandIn.Syntax.Bounds
import PatternAlgebra.StandIn.Syntax.Node

/-!
# Regular patterns

A pattern without lookaround, backreferences and atomic groups is regular: how
a match goes on depends on the position alone, and not on the way to it.  The
trees of regular patterns are a type of their own, which has nothing but what
such a pattern needs.

Repetitions are put into a simple form on the way.  What is repeated no times
is left out together with the groups inside it, and what matches no text needs
no second repetition.

Alternatives that all begin alike are taken apart: what they share comes first,
and only then the choice between the rests.  Text is shared in whole runs of
characters, so two words with a common first letter share nothing.  The shared
beginning is thus matched in the way that it prefers itself, whichever
alternative follows.
-/

namespace PatternAlgebra.StandIn.Syntax

/-- The tree of a regular pattern. -/
inductive Regular where
  | empty
  /-- One character; `fold` ignores its case. -/
  | char (test : CharTest) (fold : Bool)
  | assertion (kind : Assertion)
  | seq (first second : Regular)
  /-- One of two, the first one preferred. -/
  | alt (first second : Regular)
  /-- Repetition, as often as possible if greedy and else as seldom. -/
  | repeated (body : Regular) (lower : Nat) (upper : Option Nat) (greedy : Bool)
  /-- Capture what the body matches under a number. -/
  | group (index : Nat) (body : Regular)
  deriving DecidableEq, Repr

namespace Regular

/-- No match of the tree consumes anything. -/
def isHollow : Regular → Bool
  | empty => true
  | char _ _ => false
  | assertion _ => true
  | seq first second => first.isHollow && second.isHollow
  | alt first second => first.isHollow && second.isHollow
  | repeated body _ upper _ => body.isHollow || upper = some 0
  | group _ body => body.isHollow

/-- Repetition between two bounds. -/
def repetition (body : Regular) (lower : Nat) (upper : Option Nat) (greedy : Bool) : Regular :=
  if upper = some 0 then empty
  else if body.isHollow then if lower = 0 then repeated body 0 (some 1) greedy else body
  else if lower = 1 ∧ upper = some 1 then body
  else repeated body lower upper greedy

/-- Trees one after another. -/
def sequence : List Regular → Regular
  | [] => empty
  | [tree] => tree
  | tree :: rest => seq tree (sequence rest)

/-- Trees in order of preference. -/
def alternatives : List Regular → Regular
  | [] => empty
  | [tree] => tree
  | tree :: rest => alt tree (alternatives rest)

/-! ## Alternatives that begin alike -/

/-- The tree is one given character. -/
def isLiteral : Regular → Bool
  | char (.literal c) fold => !(fold && c.isAlpha)
  | _ => false

/-- The items of a sequence. -/
def items : Regular → List Regular
  | empty => []
  | seq first second => first.items ++ second.items
  | tree => [tree]

/-- The items of a sequence, with each run of characters taken together. -/
def pieces (tree : Regular) : List (List Regular) :=
  tree.items.splitBy fun first second => first.isLiteral && second.isLiteral

/-- The alternatives of a tree. -/
def branches : Regular → List Regular
  | alt first second => first.branches ++ second.branches
  | tree => [tree]

/-- What two lists begin with in common. -/
def common : List (List Regular) → List (List Regular) → List (List Regular)
  | first :: firsts, second :: seconds =>
      if first = second then first :: common firsts seconds else []
  | _, _ => []

/-- What all alternatives begin with.  An alternative of one piece shares
nothing. -/
def shared : List (List (List Regular)) → List (List Regular)
  | [] => []
  | first :: rest =>
      if (first :: rest).all fun pieces => 2 ≤ pieces.length then rest.foldl common first else []

/-- A choice between trees, after what they share. -/
def choice (trees : List Regular) : Regular :=
  let split := trees.map pieces
  match shared split with
  | [] => alternatives trees
  | start =>
      sequence
        (start.flatten ++
          [alternatives (split.map fun pieces => sequence (pieces.drop start.length).flatten)])

/-- The tree of a list of alternatives. -/
def ofBranches : List Regular → Regular
  | [tree] => tree
  | trees => choice (trees.flatMap branches)

/-! ## Groups -/

/-- The numbers of the capturing groups. -/
def groups : Regular → List Nat
  | empty => []
  | char _ _ => []
  | assertion _ => []
  | seq first second => first.groups ++ second.groups
  | alt first second => first.groups ++ second.groups
  | repeated body _ _ _ => body.groups
  | group index body => index :: body.groups

end Regular

/-- The bounds are in order, and small enough for a regular pattern. -/
def isRegularBounds (lower : Nat) (upper : Option Nat) : Bool :=
  lower ≤ maxBound && upper.all fun upper => lower ≤ upper && upper ≤ maxBound

namespace Node

/-- The regular patterns of the alternatives of a tree, if the tree is
regular. -/
def regularBranches? : Node → Option (List Regular)
  | empty => some [.empty]
  | char test fold => some [.char test fold]
  | assertion kind => some [.assertion kind]
  | seq first second =>
      match first.regularBranches?, second.regularBranches? with
      | some first, some second => some [.seq (.ofBranches first) (.ofBranches second)]
      | _, _ => none
  | alt first second =>
      match first.regularBranches?, second.regularBranches? with
      | some first, some second => some (first ++ second)
      | _, _ => none
  | plain body => body.regularBranches?.map fun trees => [.ofBranches trees]
  | repeated body lower upper greedy =>
      if isRegularBounds lower upper then
        body.regularBranches?.map fun trees =>
          [(Regular.ofBranches trees).repetition lower upper greedy]
      else none
  | group index body => body.regularBranches?.map fun trees => [.group index (.ofBranches trees)]
  | atomic _ => none
  | ahead _ _ => none
  | behind _ _ => none
  | backreference _ => none

/-- The regular pattern of a tree, if the tree is one. -/
def regular? (node : Node) : Option Regular :=
  node.regularBranches?.map Regular.ofBranches

end Node

end PatternAlgebra.StandIn.Syntax
