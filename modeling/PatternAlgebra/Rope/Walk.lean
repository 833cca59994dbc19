import PatternAlgebra.Rope

/-!
# Walking through a rope

A walk visits the pieces of a rope one at a time.  It keeps a stack of the
subtrees that are still to be visited; a step goes down the left side of the
topmost subtree to its first leaf and leaves the right sides it passes on the
stack.  The number of nodes on the stack falls with every step, so a walk
ends.
-/

namespace PatternAlgebra.Rope

/-- A position between the pieces of a rope: the subtrees still to visit. -/
structure Walk where
  pending : List Node

/-- The number of leaves and inner nodes. -/
def Node.weight : Node → Nat
  | leaf _ => 1
  | join left right _ _ => left.weight + right.weight + 1

/-- The position before the first piece. -/
def walk (rope : Rope) : Walk :=
  ⟨rope.root.toList⟩

namespace Walk

/-- The number of nodes still to visit. -/
def weight (position : Walk) : Nat :=
  position.pending.foldr (fun node rest => node.weight + rest) 0

/-- Go down to the first piece of a subtree. -/
def descend : Node → List Node → String × Walk
  | .leaf piece, pending => (piece, ⟨pending⟩)
  | .join left right _ _, pending => descend left (right :: pending)

/-- The next piece and the position after it, if there is one. -/
def next? (position : Walk) : Option (String × Walk) :=
  match position.pending with
  | [] => none
  | node :: rest => some (descend node rest)

theorem weight_descend_lt (node : Node) (pending : List Node) :
    (descend node pending).2.weight < node.weight + (Walk.mk pending).weight := by
  induction node generalizing pending with
  | leaf piece =>
      simp only [descend, Node.weight]
      omega
  | join left right count size leftHypothesis _ =>
      have bound := leftHypothesis (right :: pending)
      simp only [weight, List.foldr_cons] at bound ⊢
      simp only [descend, Node.weight]
      omega

/-- Every step leaves fewer nodes to visit. -/
theorem weight_next?_lt {position after : Walk} {piece : String}
    (step : position.next? = some (piece, after)) : after.weight < position.weight := by
  obtain ⟨pending⟩ := position
  cases pending with
  | nil => simp [next?] at step
  | cons node rest =>
      have bound := weight_descend_lt node rest
      simp only [next?, Option.some.injEq] at step
      rw [step] at bound
      exact bound

/-- All pieces from this position on. -/
def toList (position : Walk) : List String :=
  match _step : position.next? with
  | none => []
  | some (piece, after) => piece :: after.toList
termination_by position.weight
decreasing_by exact weight_next?_lt _step

end Walk

end PatternAlgebra.Rope
