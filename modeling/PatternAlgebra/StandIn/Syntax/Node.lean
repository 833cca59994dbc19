import PatternAlgebra.StandIn.Syntax.CharTest

/-!
# Pattern trees

The meaning of pattern text is a tree in which every flag has been resolved:
a character test knows whether it ignores case, and a line assertion is told
apart from a text assertion.  A sequence of three or more items is a chain of
sequences, and so are alternatives; a plain group in the text is a node of its
own, so the tree still shows where one chain ends and another begins.

Besides the tree this module holds three things that are read off it: its
height, which the standard dialect limits; the constant number of characters
that it matches, if there is one, which a lookbehind needs; and a simpler tree
without the parts that do not matter to a match.
-/

namespace PatternAlgebra.StandIn.Syntax

/-- What an assertion asks of a position. -/
inductive Assertion where
  | textStart
  | textEnd
  | lineStart
  | lineEnd
  | wordBoundary
  | noWordBoundary
  | wordStart
  | wordEnd
  deriving DecidableEq, Repr

/-- A pattern tree. -/
inductive Node where
  | empty
  /-- One character; `fold` ignores its case. -/
  | char (test : CharTest) (fold : Bool)
  | assertion (kind : Assertion)
  | seq (first second : Node)
  /-- One of two, the first one preferred. -/
  | alt (first second : Node)
  /-- A group that captures nothing. -/
  | plain (body : Node)
  /-- Repetition, as often as possible if greedy and else as seldom. -/
  | repeated (body : Node) (lower : Nat) (upper : Option Nat) (greedy : Bool)
  /-- Capture what the body matches under a number. -/
  | group (index : Nat) (body : Node)
  /-- The body in the way it prefers to match, and in no other way. -/
  | atomic (body : Node)
  /-- The body matches here, or does not, without being consumed. -/
  | ahead (negated : Bool) (body : Node)
  /-- The body matches the characters before this position, or does not. -/
  | behind (negated : Bool) (body : Node)
  /-- The text that a group has captured. -/
  | backreference (index : Nat)
  deriving DecidableEq, Repr

namespace Node

/-- Nodes one after another. -/
def sequence : List Node → Node
  | [] => empty
  | [node] => node
  | node :: rest => seq node (sequence rest)

/-- Nodes in order of preference. -/
def alternatives : List Node → Node
  | [] => empty
  | [node] => node
  | node :: rest => alt node (alternatives rest)

/-! ## Height -/

/-- The chain that a node continues. -/
inductive Chain where
  | none
  | sequence
  | alternatives
  deriving DecidableEq, Repr

/-- The levels of brackets in a test: a class is one, and the list of its
items is another. -/
def testHeight : CharTest → Nat
  | .oneOf _ items => if items.length ≤ 1 then 1 else 2
  | _ => 0

/-- The height of a tree in which a whole chain counts as one level. -/
def heightWithin : Chain → Node → Nat
  | _, empty => 0
  | _, char test _ => testHeight test
  | _, assertion _ => 0
  | chain, seq first second =>
      (if chain = .sequence then 0 else 1) +
        max (first.heightWithin .none) (second.heightWithin .sequence)
  | chain, alt first second =>
      (if chain = .alternatives then 0 else 1) +
        max (first.heightWithin .none) (second.heightWithin .alternatives)
  | _, plain body => body.heightWithin .none + 1
  | _, repeated body _ _ _ => body.heightWithin .none + 1
  | _, group _ body => body.heightWithin .none + 1
  | _, atomic body => body.heightWithin .none + 1
  | _, ahead _ body => body.heightWithin .none + 1
  | _, behind _ body => body.heightWithin .none + 1
  | _, backreference _ => 0

/-- The height of a tree. -/
def height (node : Node) : Nat :=
  node.heightWithin .none

/-! ## Width -/

/-- The number of characters that every match consumes, if it is known to be
always the same. -/
def width? : Node → Option Nat
  | empty => some 0
  | char _ _ => some 1
  | assertion _ => some 0
  | seq first second =>
      match first.width?, second.width? with
      | some m, some n => some (m + n)
      | _, _ => none
  | alt first second =>
      match first.width?, second.width? with
      | some m, some n => if m = n then some m else none
      | _, _ => none
  | plain body => body.width?
  | repeated body lower upper _ =>
      if upper = some lower then body.width?.map (· * lower) else none
  | group _ body => body.width?
  | atomic body => body.width?
  | ahead _ _ => some 0
  | behind _ _ => some 0
  | backreference _ => none

/-! ## Simpler trees -/

/-- A node and what follows it, without what is empty. -/
def join : Node → Node → Node
  | empty, second => second
  | first, empty => first
  | first, second => seq first second

/-- Keep a group only around a chain, which it sets apart from other chains. -/
def enclose : Node → Node
  | seq first second => plain (seq first second)
  | alt first second => plain (alt first second)
  | node => node

/-- Take off a group that stands around the whole node. -/
def disclose : Node → Node
  | plain body => body
  | node => node

/-- The tree without empty items, and without groups that set nothing apart. -/
def simplify : Node → Node
  | seq first second => join first.simplify second.simplify
  | alt first second => alt first.simplify second.simplify
  | plain body => enclose body.simplify
  | repeated body lower upper greedy => repeated body.simplify lower upper greedy
  | group index body => group index body.simplify
  | atomic body => atomic body.simplify
  | ahead negated body => ahead negated body.simplify
  | behind negated body => behind negated body.simplify.disclose
  | node => node

/-- The node is more than nothing and more than a question about a position. -/
def isSubstantial : Node → Bool
  | empty => false
  | assertion _ => false
  | ahead _ _ => false
  | behind _ _ => false
  | _ => true

/-- The groups whose text is referred to. -/
def references : Node → List Nat
  | seq first second => first.references ++ second.references
  | alt first second => first.references ++ second.references
  | plain body => body.references
  | repeated body _ _ _ => body.references
  | group _ body => body.references
  | atomic body => body.references
  | ahead _ body => body.references
  | behind _ body => body.references
  | backreference index => [index]
  | _ => []

end Node

end PatternAlgebra.StandIn.Syntax
