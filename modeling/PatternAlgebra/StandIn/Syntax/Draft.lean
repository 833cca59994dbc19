import PatternAlgebra.Modes
import PatternAlgebra.StandIn.Syntax.Dialect
import PatternAlgebra.StandIn.Syntax.Node

/-!
# Trees under construction

While pattern text is read from left to right, the groups that are open form a
stack of frames.  A frame keeps the branches that a bar has completed and the
items of the branch that is being read.  This module has one operation for
each thing that pattern text can say: add an item, start a branch, open and
close a group, repeat the last item, and change flags up to the end of the
innermost group.

None of the operations looks at frames below the innermost one, except that
closing a group puts it into the frame that was waiting for it.
-/

namespace PatternAlgebra.StandIn.Syntax

/-! ## Frames -/

/-- What an item is, as far as a repetition after it is concerned. -/
inductive Standing where
  /-- It may be repeated. -/
  | atom
  /-- By its form it matches no text. -/
  | hollow
  /-- It has been repeated. -/
  | repeated
  /-- A change of flags, which is nothing to repeat. -/
  | directive
  deriving DecidableEq, Repr

/-- An item of a branch. -/
structure Item where
  node : Node
  standing : Standing
  deriving DecidableEq, Repr

/-- What a frame becomes when it is closed. -/
inductive Enclosure where
  /-- The whole pattern, which no parenthesis closes. -/
  | whole
  | plain
  | capture (index : Nat)
  | atomic
  | ahead (negated : Bool)
  | behind (negated : Bool)
  deriving DecidableEq, Repr

/-- An open group.  Branches and items are kept with the latest first. -/
structure Frame where
  enclosure : Enclosure
  /-- The flags to return to when the group is closed. -/
  resume : Modes
  branches : List Node
  items : List Item
  deriving DecidableEq, Repr

namespace Frame

/-- The branch that is being read. -/
def branch (frame : Frame) : Node :=
  Node.sequence (frame.items.reverse.map Item.node)

/-- All branches. -/
def body (frame : Frame) : Node :=
  Node.alternatives (frame.branch :: frame.branches).reverse

/-- The item that a frame becomes when it is closed.  A plain group may be
repeated as its contents may. -/
def item? (frame : Frame) : Option Item :=
  match frame.enclosure with
  | .whole => none
  | .plain =>
      some ⟨.plain frame.body, if frame.body.simplify.isSubstantial then .atom else .hollow⟩
  | .capture index => some ⟨.group index frame.body, .atom⟩
  | .atomic => some ⟨.atomic frame.body, .atom⟩
  | .ahead negated => some ⟨.ahead negated frame.body, .hollow⟩
  | .behind negated => some ⟨.behind negated frame.body, .hollow⟩

end Frame

/-! ## Drafts -/

/-- What has been read of a pattern. -/
structure Draft where
  modes : Modes
  /-- The innermost open group. -/
  frame : Frame
  /-- The groups around it, the innermost first. -/
  outer : List Frame
  /-- How many capturing groups have been opened. -/
  captures : Nat
  /-- The named groups, in the order of their openings. -/
  names : List (String × Nat)
  /-- A backreference by number has been read. -/
  numbered : Bool
  deriving DecidableEq, Repr

namespace Draft

/-- Nothing has been read, and these flags are in force. -/
def start (modes : Modes) : Draft :=
  ⟨modes, ⟨.whole, modes, [], []⟩, [], 0, [], false⟩

/-- Replace the items of the branch that is being read. -/
def withItems (draft : Draft) (items : List Item) : Draft :=
  { draft with frame := { draft.frame with items } }

/-- Add an item to the branch that is being read. -/
def add (draft : Draft) (node : Node) (standing : Standing) : Draft :=
  draft.withItems (⟨node, standing⟩ :: draft.frame.items)

/-- Add a test of one character. -/
def addChar (draft : Draft) (test : CharTest) : Draft :=
  draft.add (.char test draft.modes.fold) .atom

/-- Add an assertion. -/
def addAssertion (draft : Draft) (kind : Assertion) : Draft :=
  draft.add (.assertion kind) .hollow

/-- Add a reference to the text of a group, which must have been opened.  The
text of number zero is the whole match, which is never complete. -/
def addReference? (draft : Draft) (index : Nat) : Option Draft :=
  if index ≤ draft.captures then some (draft.add (.backreference index) .atom) else none

/-- Start another branch. -/
def bar (draft : Draft) : Draft :=
  { draft with
    frame := { draft.frame with
      branches := draft.frame.branch :: draft.frame.branches
      items := [] } }

/-- Change flags up to the end of the innermost group. -/
def direct (draft : Draft) (edits : List (Flag × Bool)) : Draft :=
  { draft.add .empty .directive with modes := draft.modes.edit edits }

/-! ## Groups -/

/-- Open a group, with some flags changed inside it. -/
def openGroup (draft : Draft) (enclosure : Enclosure) (edits : List (Flag × Bool)) : Draft :=
  { draft with
    modes := draft.modes.edit edits
    frame := ⟨enclosure, draft.modes, [], []⟩
    outer := draft.frame :: draft.outer }

/-- Open a group that captures under the next number. -/
def openCapture (draft : Draft) : Draft :=
  { draft.openGroup (.capture (draft.captures + 1)) [] with captures := draft.captures + 1 }

/-- Open a group that captures under a name.  Where names may come twice, the
later group has the name. -/
def openNamed? (dialect : Dialect) (draft : Draft) (name : String) : Option Draft :=
  let others := draft.names.filter fun entry => entry.1 != name
  if others.length < draft.names.length && !dialect.isExtended then none
  else some { draft.openCapture with names := others ++ [(name, draft.captures + 1)] }

/-- A backreference by number stands beside a named group.  This goes unseen
in a group that has branches. -/
def mixesReferences (draft : Draft) : Bool :=
  draft.numbered && !draft.names.isEmpty && draft.frame.branches.isEmpty

/-- The flags after the innermost group.  In the backtracking dialect only a
plain group keeps a change of flags to itself. -/
def modesAfter (dialect : Dialect) (draft : Draft) : Modes :=
  if dialect.isExtended && draft.frame.enclosure ≠ .plain then draft.modes
  else draft.frame.resume

/-- Close the innermost group. -/
def close? (dialect : Dialect) (draft : Draft) : Option Draft :=
  match draft.outer, draft.frame.item? with
  | parent :: rest, some item =>
      if draft.mixesReferences then none
      else
        some { draft with
          modes := draft.modesAfter dialect
          frame := { parent with items := item :: parent.items }
          outer := rest }
  | _, _ => none

/-! ## Repetition -/

/-- An item of this standing may be repeated in the dialect. -/
def isRepeatable (dialect : Dialect) : Standing → Bool
  | .atom => true
  | .hollow => !dialect.isExtended
  | .repeated => !dialect.isExtended
  | .directive => false

/-- Repeat the last item. -/
def repeat? (dialect : Dialect) (draft : Draft) (lower : Nat) (upper : Option Nat) :
    Option Draft :=
  match draft.frame.items with
  | [] => none
  | item :: rest =>
      if isRepeatable dialect item.standing then
        some (draft.withItems (⟨.repeated item.node lower upper true, .repeated⟩ :: rest))
      else none

/-- Make the last repetition lazy. -/
def makeLazy (draft : Draft) : Draft :=
  match draft.frame.items with
  | ⟨.repeated body lower upper _, standing⟩ :: rest =>
      draft.withItems (⟨.repeated body lower upper false, standing⟩ :: rest)
  | _ => draft

/-- Make the last repetition atomic. -/
def makeAtomic (draft : Draft) : Draft :=
  match draft.frame.items with
  | item :: rest => draft.withItems (⟨.atomic item.node, item.standing⟩ :: rest)
  | [] => draft

/-- There is nothing before a brace that it could repeat, or what there is
has been repeated already. -/
def hasNoOperand (draft : Draft) : Bool :=
  match draft.frame.items with
  | [] => true
  | item :: _ => item.standing = .repeated

end Draft

end PatternAlgebra.StandIn.Syntax
