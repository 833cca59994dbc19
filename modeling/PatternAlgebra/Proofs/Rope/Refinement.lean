import PatternAlgebra.Proofs.Construction.Measured
import PatternAlgebra.Rope.Walk

/-!
# Ropes refine lists

However a rope comes about, it stands for the list of the nonempty texts that
went into it, from left to right.  What is recorded in its nodes, what a walk
through it yields and what equality compares are all functions of that list,
and no reading of a rope depends on the shape of its tree.
-/

namespace PatternAlgebra

namespace Rope

/-! ## The loop of a walk -/

namespace Walk

/-- One turn of the loop that looks for pieces.  A leaf on top of the stack is the
next piece; an inner node gives way to its sides, the left one on top. -/
inductive Turn : Walk → Option String → Walk → Prop where
  | leaf (piece : String) (rest : List Node) : Turn ⟨.leaf piece :: rest⟩ (some piece) ⟨rest⟩
  | join (left right : Node) (count size : UInt64) (rest : List Node) :
      Turn ⟨.join left right count size :: rest⟩ none ⟨left :: right :: rest⟩

/-- From a position the loop takes so many turns until its stack is empty, and
yields these pieces on the way. -/
inductive Yields : Walk → List String → Prop where
  | stop : Yields ⟨[]⟩ []
  | pass {position after : Walk} {pieces : List String} : Turn position none after →
      Yields after pieces → Yields position pieces
  | piece {position after : Walk} {piece : String} {pieces : List String} :
      Turn position (some piece) after → Yields after pieces → Yields position (piece :: pieces)

variable {position after : Walk} {piece : String} {pieces : List String}

/-- An inner node on top makes no difference to what comes next. -/
theorem Turn.next?_eq_of_none (turn : Turn position none after) :
    position.next? = after.next? := by
  cases turn
  rfl

theorem Turn.next?_eq_of_some (turn : Turn position (some piece) after) :
    position.next? = some (piece, after) := by
  cases turn
  rfl

/-- The node on top yields its pieces before anything below it does. -/
theorem Yields.cons {rest : List Node} (yields : Yields ⟨rest⟩ pieces) (node : Node) :
    Yields ⟨node :: rest⟩ (node.piecesOnto pieces) := by
  induction node generalizing rest pieces with
  | leaf piece => exact .piece (.leaf piece rest) yields
  | join left right count size leftHypothesis rightHypothesis =>
      exact .pass (.join left right count size rest) (leftHypothesis (rightHypothesis yields))

theorem toList_of_next?_eq_none (ends : position.next? = none) : position.toList = [] := by
  rw [toList]
  split
  next => rfl
  next step => cases ends.symm.trans step

theorem toList_of_next?_eq_some (step : position.next? = some (piece, after)) :
    position.toList = piece :: after.toList := by
  rw [toList]
  split
  next ends => cases ends.symm.trans step
  next other => cases step.symm.trans other; rfl

theorem toList_congr (same : position.next? = after.next?) : position.toList = after.toList := by
  cases step : after.next? with
  | none => rw [toList_of_next?_eq_none (same.trans step), toList_of_next?_eq_none step]
  | some found => rw [toList_of_next?_eq_some (same.trans step), toList_of_next?_eq_some step]

/-- Step by step a walk gives what the loop yields. -/
theorem Yields.toList_eq (yields : Yields position pieces) : position.toList = pieces := by
  induction yields with
  | stop => exact toList_of_next?_eq_none rfl
  | pass turn _ inductionHypothesis =>
      exact (toList_congr turn.next?_eq_of_none).trans inductionHypothesis
  | piece turn _ inductionHypothesis =>
      rw [toList_of_next?_eq_some turn.next?_eq_of_some, inductionHypothesis]

end Walk

/-- The loop of a walk through a rope ends, and yields the pieces in order. -/
theorem yields_walk (rope : Rope) : rope.walk.Yields rope.toList := by
  rcases rope with ⟨_ | node⟩
  · exact .stop
  · exact Walk.Yields.stop.cons node

/-! ## What is recorded -/

theorem Node.count_eq {node : Node} (measured : node.IsMeasured) :
    node.count = .ofNat (node.piecesOnto []).length := by
  induction node with
  | leaf piece => rfl
  | join left right count size leftHypothesis rightHypothesis =>
      obtain ⟨leftMeasured, rightMeasured, countEq, _⟩ := measured
      rw [piecesOnto, piecesOnto_eq_append, List.length_append, UInt64.ofNat_add,
        ← leftHypothesis leftMeasured, ← rightHypothesis rightMeasured]
      exact countEq

theorem Node.piecesOnto_ne_nil (node : Node) (after : List String) :
    node.piecesOnto after ≠ [] := by
  induction node generalizing after with
  | leaf piece => exact List.cons_ne_nil piece after
  | join left right count size leftHypothesis _ => exact leftHypothesis (right.piecesOnto after)

/-- The recorded number of pieces is the true one, as a machine word. -/
theorem IsMeasured.length_eq {rope : Rope} (measured : rope.IsMeasured) :
    rope.length = rope.toList.length % UInt64.size := by
  rcases rope with ⟨_ | node⟩
  · rfl
  · exact congrArg UInt64.toNat (Node.count_eq (measured node rfl))

/-- No piece is empty, so there are no more pieces than bytes. -/
theorem length_toList_le {rope : Rope} (nonempty : ∀ piece ∈ rope.toList, piece ≠ "") :
    rope.toList.length ≤ rope.text.utf8ByteSize := by
  rw [text]
  generalize rope.toList = pieces at nonempty
  induction pieces with
  | nil => exact Nat.zero_le _
  | cons piece rest inductionHypothesis =>
      rw [List.forall_mem_cons] at nonempty
      have pieceBytes : 0 < piece.utf8ByteSize :=
        Nat.pos_of_ne_zero (mt String.utf8ByteSize_eq_zero_iff.mp nonempty.1)
      have restBytes := inductionHypothesis nonempty.2
      rw [String.join_cons, String.utf8ByteSize_append, List.length_cons]
      omega

/-- Only the rope without a tree has no pieces. -/
theorem isEmpty_iff (rope : Rope) : rope.isEmpty = true ↔ rope.toList = [] := by
  rcases rope with ⟨_ | node⟩
  · exact ⟨fun _ => rfl, fun _ => rfl⟩
  · constructor
    · intro isEmpty
      cases isEmpty
    · intro noPieces
      exact absurd noPieces (node.piecesOnto_ne_nil [])

theorem text_eq_empty_iff {rope : Rope} (nonempty : ∀ piece ∈ rope.toList, piece ≠ "") :
    rope.text = "" ↔ rope.toList = [] := by
  unfold text
  cases pieces : rope.toList with
  | nil => simp
  | cons piece rest =>
      have pieceNonempty : piece ≠ "" := by
        apply nonempty
        rw [pieces]
        exact List.mem_cons_self
      simp [pieceNonempty]

/-- All readings of a rope agree with a list of pieces.  The numbers that are
recorded are those of the list as long as a machine word can hold the number of
bytes, which is never less than the number of pieces. -/
structure Refines (rope : Rope) (pieces : List String) : Prop where
  /-- The loop of a walk ends, and yields the pieces. -/
  yields : rope.walk.Yields pieces
  walk_toList : rope.walk.toList = pieces
  toList : rope.toList = pieces
  nonempty : ∀ piece ∈ pieces, piece ≠ ""
  length_mod : rope.length = pieces.length % UInt64.size
  byteLength_mod : rope.byteLength = rope.text.utf8ByteSize % UInt64.size
  length : rope.text.utf8ByteSize < UInt64.size → rope.length = pieces.length
  byteLength : rope.text.utf8ByteSize < UInt64.size → rope.byteLength = rope.text.utf8ByteSize
  text : rope.text = String.join pieces
  isEmpty_length : rope.text.utf8ByteSize < UInt64.size → (rope.isEmpty = true ↔ rope.length = 0)
  isEmpty_text : rope.isEmpty = true ↔ rope.text = ""

/-- The numbers in the nodes and the absence of empty leaves are all that the
readings rely on. -/
theorem IsMeasured.refines {rope : Rope} (measured : rope.IsMeasured)
    (nonempty : ∀ piece ∈ rope.toList, piece ≠ "") : rope.Refines rope.toList := by
  have length (fits : rope.text.utf8ByteSize < UInt64.size) : rope.length = rope.toList.length := by
    rw [measured.length_eq,
      Nat.mod_eq_of_lt (Nat.lt_of_le_of_lt (length_toList_le nonempty) fits)]
  constructor
  case yields => exact rope.yields_walk
  case walk_toList => exact rope.yields_walk.toList_eq
  case toList => rfl
  case nonempty => exact nonempty
  case length_mod => exact measured.length_eq
  case byteLength_mod => exact measured.byteLength_eq
  case length => exact length
  case byteLength => exact fun fits => measured.byteLength_eq.trans (Nat.mod_eq_of_lt fits)
  case text => rfl
  case isEmpty_length =>
    intro fits
    rw [isEmpty_iff, length fits, List.length_eq_zero_iff]
  case isEmpty_text => rw [isEmpty_iff, text_eq_empty_iff nonempty]

/-! ## Recipes -/

/-- How a rope comes about.  Ropes never change, so that one may take part in
several others; a recipe then holds its recipe as often. -/
inductive Recipe where
  | empty
  | single (text : String)
  | ofList (texts : List String)
  | join (first second : Recipe)
  | push (before : Recipe) (text : String)
  | prepend (after : Recipe) (text : String)
  | surround (between : Recipe) (opening closing : String)
  deriving Repr

namespace Recipe

/-- The rope that a recipe makes. -/
def rope : Recipe → Rope
  | empty => .empty
  | single text => .single text
  | ofList texts => .ofList texts
  | join first second => first.rope.join second.rope
  | push before text => before.rope.push text
  | prepend after text => after.rope.prepend text
  | surround between opening closing => between.rope.surround opening closing

/-- The texts that go into a recipe, from left to right. -/
def texts : Recipe → List String
  | empty => []
  | single text => [text]
  | ofList texts => texts
  | join first second => first.texts ++ second.texts
  | push before text => before.texts ++ [text]
  | prepend after text => text :: after.texts
  | surround between opening closing => opening :: between.texts ++ [closing]

/-- The texts that become pieces. -/
def pieces (recipe : Recipe) : List String :=
  recipe.texts.filter fun text => !text.isEmpty

theorem ne_empty_of_mem_pieces {recipe : Recipe} {piece : String}
    (member : piece ∈ recipe.pieces) : piece ≠ "" := by
  rintro rfl
  simp [pieces] at member

end Recipe

/-- Singling out a text is filtering the list of it. -/
theorem toList_single_eq_filter (text : String) :
    (single text).toList = [text].filter fun text => !text.isEmpty := by
  rw [toList_single]
  cases isEmpty : text.isEmpty <;> simp [isEmpty]

theorem toList_foldl_push (rope : Rope) (texts : List String) :
    (texts.foldl push rope).toList = rope.toList ++ texts.filter fun text => !text.isEmpty := by
  induction texts generalizing rope with
  | nil => simp
  | cons text rest inductionHypothesis =>
      rw [List.foldl_cons, inductionHypothesis, push, toList_join, toList_single_eq_filter,
        List.append_assoc, ← List.filter_append, List.singleton_append]

namespace Recipe

/-- The pieces of a rope are the nonempty texts of its recipe. -/
theorem toList_rope (recipe : Recipe) : recipe.rope.toList = recipe.pieces := by
  induction recipe with
  | empty => rfl
  | single text => exact toList_single_eq_filter text
  | ofList texts => exact toList_foldl_push .empty texts
  | join first second firstHypothesis secondHypothesis =>
      rw [rope, toList_join, firstHypothesis, secondHypothesis, pieces, pieces,
        ← List.filter_append]
      rfl
  | push before text inductionHypothesis =>
      rw [rope, Rope.push, toList_join, inductionHypothesis, toList_single_eq_filter, pieces,
        ← List.filter_append]
      rfl
  | prepend after text inductionHypothesis =>
      rw [rope, Rope.prepend, toList_join, inductionHypothesis, toList_single_eq_filter, pieces,
        ← List.filter_append]
      rfl
  | surround between opening closing inductionHypothesis =>
      rw [rope, Rope.surround, Rope.push, Rope.prepend, toList_join, toList_join,
        inductionHypothesis, toList_single_eq_filter, toList_single_eq_filter, pieces,
        ← List.filter_append, ← List.filter_append]
      rfl

theorem isMeasured_rope (recipe : Recipe) : recipe.rope.IsMeasured := by
  induction recipe with
  | empty => exact isMeasured_empty
  | single text => exact isMeasured_single text
  | ofList texts => exact isMeasured_empty.foldl_push id texts
  | join first second firstHypothesis secondHypothesis =>
      exact firstHypothesis.join secondHypothesis
  | push before text inductionHypothesis => exact inductionHypothesis.push text
  | prepend after text inductionHypothesis => exact inductionHypothesis.prepend text
  | surround between opening closing inductionHypothesis =>
      exact inductionHypothesis.surround opening closing

theorem refines_pieces (recipe : Recipe) : recipe.rope.Refines recipe.pieces := by
  rw [← toList_rope]
  apply recipe.isMeasured_rope.refines
  intro piece member
  rw [toList_rope] at member
  exact ne_empty_of_mem_pieces member

end Recipe

theorem beq_iff (first second : Rope) :
    (first == second) = true ↔ first.toList = second.toList :=
  beq_iff_eq (a := first.toList)

end Rope

open Rope (Recipe)

/-- A rope stands for the list of the nonempty texts that went into it: every
reading of it is the same reading of that list, ropes are equal when their
lists are, and patterns over them are equal when their texts are. -/
theorem Rope.Recipe.refines_list (first second : Recipe) (firstNames secondNames : List String) :
    first.rope.Refines first.pieces ∧
      ((first.rope == second.rope) = true ↔ first.pieces = second.pieces) ∧
      (((⟨first.rope, firstNames⟩ : Pattern) == ⟨second.rope, secondNames⟩) = true ↔
        first.rope.text = second.rope.text) := by
  refine ⟨first.refines_pieces, ?_, ?_⟩
  · rw [Rope.beq_iff, first.toList_rope, second.toList_rope]
  · have firstMeasured : (⟨first.rope, firstNames⟩ : Pattern).IsMeasured := first.isMeasured_rope
    have secondMeasured : (⟨second.rope, secondNames⟩ : Pattern).IsMeasured :=
      second.isMeasured_rope
    exact Pattern.beq_iff firstMeasured secondMeasured

/-- Other trees, other pieces, the same text. -/
example :
    let first : Recipe := .surround (.ofList ["a", "", "b"]) "(?:" ")"
    let second : Recipe := .join (.push .empty "(?:a") (.single "b)")
    (first.pieces = ["(?:", "a", "b", ")"] ∧ second.pieces = ["(?:a", "b)"]) ∧
      (first.rope == second.rope) = false ∧
      ((⟨first.rope, []⟩ : Pattern) == ⟨second.rope, []⟩) = true := by
  decide +kernel

end PatternAlgebra
