/-!
# Ropes of text pieces

A pattern keeps its text as a sequence of pieces, and deriving one pattern
from another joins sequences over and over.  A rope makes a join one node that
shares both sides: the pieces stand at the leaves of a binary tree, and each
inner node records how many pieces and how many bytes of UTF-8 lie below it,
so that neither count ever walks the tree.  Both counts are machine words.

The empty sequence has no tree at all, and an empty text never becomes a leaf.
The pieces in order, `Rope.toList`, are the view of a rope that everything
else is stated in.
-/

namespace PatternAlgebra

/-- A nonempty sequence of pieces. -/
inductive Rope.Node where
  | leaf (piece : String)
  /-- Two sequences, with the number of pieces and of bytes below this node. -/
  | join (left right : Node) (count size : UInt64)

/-- A sequence of text pieces. -/
structure Rope where
  root : Option Rope.Node

namespace Rope

namespace Node

/-- The number of pieces. -/
def count : Node → UInt64
  | leaf _ => 1
  | join _ _ count _ => count

/-- The length of the text in bytes of UTF-8. -/
def size : Node → UInt64
  | leaf piece => .ofNat piece.utf8ByteSize
  | join _ _ _ size => size

/-- Two sequences, one after the other. -/
def append (left right : Node) : Node :=
  join left right (left.count + right.count) (left.size + right.size)

/-- The pieces in order, in front of the pieces already given. -/
def piecesOnto : Node → List String → List String
  | leaf piece, after => piece :: after
  | join left right _ _, after => left.piecesOnto (right.piecesOnto after)

end Node

/-! ## Building -/

/-- The sequence without pieces. -/
def empty : Rope :=
  ⟨none⟩

/-- One piece; the empty text is no piece. -/
def single (text : String) : Rope :=
  if text.isEmpty then empty else ⟨some (.leaf text)⟩

/-- One sequence after another.  Nothing is copied. -/
def join (first second : Rope) : Rope :=
  match first.root, second.root with
  | none, _ => second
  | _, none => first
  | some left, some right => ⟨some (left.append right)⟩

/-- Put a text after a sequence. -/
def push (rope : Rope) (text : String) : Rope :=
  rope.join (single text)

/-- Put a text before a sequence. -/
def prepend (rope : Rope) (text : String) : Rope :=
  (single text).join rope

/-- Put a text on either side of a sequence. -/
def surround (rope : Rope) (opening closing : String) : Rope :=
  (rope.prepend opening).push closing

/-- The texts of a list, in order. -/
def ofList (texts : List String) : Rope :=
  texts.foldl push empty

/-! ## Reading -/

/-- The number of pieces. -/
def length (rope : Rope) : Nat :=
  (rope.root.elim 0 Node.count).toNat

/-- The length of the text in bytes of UTF-8. -/
def byteLength (rope : Rope) : Nat :=
  (rope.root.elim 0 Node.size).toNat

/-- There is no piece. -/
def isEmpty (rope : Rope) : Bool :=
  rope.root.isNone

/-- The pieces in order. -/
def toList (rope : Rope) : List String :=
  match rope.root with
  | none => []
  | some node => node.piecesOnto []

/-- The whole text: all pieces, one after another. -/
def text (rope : Rope) : String :=
  String.join rope.toList

/-- Ropes are equal when they hold the same pieces, whatever their trees. -/
instance : BEq Rope where
  beq first second := first.toList == second.toList

end Rope

end PatternAlgebra
