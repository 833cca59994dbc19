import PatternAlgebra.Proofs.Rope.Text

/-!
# Ropes that are measured

An inner node of a rope records how many pieces and bytes lie below it, and
every way to build a rope records the true numbers, as far as a machine word can
hold them.  Of such ropes the length of the text in bytes is known without the
text.
-/

namespace PatternAlgebra.Rope

/-- Every inner node records the sums of its sides. -/
def Node.IsMeasured : Node → Prop
  | leaf _ => True
  | join left right count size =>
      left.IsMeasured ∧ right.IsMeasured ∧ count = left.count + right.count ∧
        size = left.size + right.size

theorem Node.size_eq {node : Node} (measured : node.IsMeasured) :
    node.size = .ofNat (String.join (node.piecesOnto [])).utf8ByteSize := by
  induction node with
  | leaf piece => simp [size, piecesOnto]
  | join left right count size leftHypothesis rightHypothesis =>
      obtain ⟨leftMeasured, rightMeasured, _, sizeEq⟩ := measured
      rw [piecesOnto, piecesOnto_eq_append, String.join_append, String.utf8ByteSize_append,
        UInt64.ofNat_add, ← leftHypothesis leftMeasured, ← rightHypothesis rightMeasured]
      exact sizeEq

/-- What is recorded is added up, also where the records of the sides are not
true. -/
theorem elim_root_join {record : Node → UInt64}
    (adds : ∀ left right : Node, record (left.append right) = record left + record right)
    (first second : Rope) : (first.join second).root.elim 0 record =
      first.root.elim 0 record + second.root.elim 0 record := by
  rcases first with ⟨_ | left⟩
  · exact (UInt64.zero_add _).symm
  · rcases second with ⟨_ | right⟩
    · exact (UInt64.add_zero _).symm
    · exact adds left right

theorem length_join (first second : Rope) :
    (first.join second).length = (first.length + second.length) % UInt64.size := by
  rw [length, elim_root_join fun _ _ => rfl, UInt64.toNat_add]
  rfl

theorem byteLength_join (first second : Rope) :
    (first.join second).byteLength = (first.byteLength + second.byteLength) % UInt64.size := by
  rw [byteLength, elim_root_join fun _ _ => rfl, UInt64.toNat_add]
  rfl

/-- All nodes of the rope are measured. -/
def IsMeasured (rope : Rope) : Prop :=
  ∀ node, rope.root = some node → node.IsMeasured

theorem isMeasured_empty : empty.IsMeasured :=
  nofun

theorem isMeasured_single (text : String) : (single text).IsMeasured := by
  unfold single
  split
  · exact isMeasured_empty
  · rintro node ⟨⟩
    trivial

namespace IsMeasured

variable {rope first second : Rope}

theorem join (firstMeasured : first.IsMeasured) (secondMeasured : second.IsMeasured) :
    (first.join second).IsMeasured := by
  rcases first with ⟨_ | left⟩
  · exact secondMeasured
  · rcases second with ⟨_ | right⟩
    · exact firstMeasured
    · rintro node ⟨⟩
      exact ⟨firstMeasured left rfl, secondMeasured right rfl, rfl, rfl⟩

theorem push (measured : rope.IsMeasured) (text : String) : (rope.push text).IsMeasured :=
  measured.join (isMeasured_single text)

theorem prepend (measured : rope.IsMeasured) (text : String) : (rope.prepend text).IsMeasured :=
  (isMeasured_single text).join measured

theorem surround (measured : rope.IsMeasured) (opening closing : String) :
    (rope.surround opening closing).IsMeasured :=
  (measured.prepend opening).push closing

theorem foldl_push {α : Type} (measured : rope.IsMeasured) (piece : α → String)
    (items : List α) :
    (items.foldl (fun rope item => rope.push (piece item)) rope).IsMeasured := by
  induction items generalizing rope with
  | nil => exact measured
  | cons item rest inductionHypothesis => exact inductionHypothesis (measured.push (piece item))

/-- The recorded number of bytes is that of the text, as a machine word. -/
theorem byteLength_eq (measured : rope.IsMeasured) :
    rope.byteLength = rope.text.utf8ByteSize % UInt64.size := by
  rcases rope with ⟨_ | node⟩
  · rfl
  · exact congrArg UInt64.toNat (Node.size_eq (measured node rfl))

end IsMeasured

end PatternAlgebra.Rope
