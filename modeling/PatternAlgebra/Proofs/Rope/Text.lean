import PatternAlgebra.Rope

/-!
# The text of a rope

Every operation on ropes is an operation on the list of their pieces, and
every text of a rope is the pieces put end to end.  What is said about the
text of a pattern elsewhere follows from the equations of this file, whatever
trees hold the pieces.
-/

namespace PatternAlgebra.Rope

/-- The pieces in front of others are the pieces, then the others. -/
theorem Node.piecesOnto_eq_append (node : Node) (after : List String) :
    node.piecesOnto after = node.piecesOnto [] ++ after := by
  induction node generalizing after with
  | leaf piece => rfl
  | join left right count size leftHypothesis rightHypothesis =>
      simp only [piecesOnto]
      rw [leftHypothesis, rightHypothesis, leftHypothesis (right.piecesOnto []),
        List.append_assoc]

/-! ## Pieces -/

@[simp]
theorem toList_empty : empty.toList = [] :=
  rfl

/-- A join holds the pieces of the first rope and then those of the second. -/
@[simp]
theorem toList_join (first second : Rope) :
    (first.join second).toList = first.toList ++ second.toList := by
  rcases first with ⟨_ | left⟩
  · simp [join, toList]
  · rcases second with ⟨_ | right⟩
    · simp [join, toList]
    · change left.piecesOnto (right.piecesOnto []) = left.piecesOnto [] ++ right.piecesOnto []
      exact left.piecesOnto_eq_append _

theorem toList_single (text : String) :
    (single text).toList = if text.isEmpty then [] else [text] := by
  unfold single
  split <;> rfl

theorem join_empty (rope : Rope) : rope.join empty = rope := by
  rcases rope with ⟨_ | node⟩ <;> rfl

/-! ## Text -/

@[simp]
theorem text_empty : empty.text = "" :=
  rfl

@[simp]
theorem text_single (text : String) : (single text).text = text := by
  rw [Rope.text, toList_single]
  split
  · rename_i isEmpty
    rw [String.isEmpty_iff.mp isEmpty]
    rfl
  · simp

@[simp]
theorem text_join (first second : Rope) :
    (first.join second).text = first.text ++ second.text := by
  rw [Rope.text, toList_join, String.join_append]
  rfl

@[simp]
theorem text_push (rope : Rope) (text : String) : (rope.push text).text = rope.text ++ text := by
  rw [push, text_join, text_single]

@[simp]
theorem text_prepend (rope : Rope) (text : String) :
    (rope.prepend text).text = text ++ rope.text := by
  rw [prepend, text_join, text_single]

@[simp]
theorem text_surround (rope : Rope) (opening closing : String) :
    (rope.surround opening closing).text = opening ++ rope.text ++ closing := by
  rw [surround, text_push, text_prepend]

end PatternAlgebra.Rope
