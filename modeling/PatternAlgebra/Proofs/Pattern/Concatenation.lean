import Mathlib.Algebra.GroupWithZero.Nat
import PatternAlgebra.Proofs.Pattern.Sequence

/-!
# The algebra of concatenation

Concatenation is defined where no name stands on both sides, and there it puts
texts, pieces and names one after another.  Whether a tree of calls succeeds is
therefore a question about its operands alone, and so is the result: brackets
make no difference.  The empty pattern is neutral on either side.
-/

namespace PatternAlgebra

/-! ## One call -/

/-- The name is the first of these names that stands among the others too. -/
def IsFirstShared (names others : List String) (name : String) : Prop :=
  ∃ before after, names = before ++ name :: after ∧ name ∈ others ∧
    ∀ earlier ∈ before, earlier ∉ others

namespace Pattern

variable {pattern : Pattern} {other : Operand}

theorem find?_hasName_eq_some_iff {names : List String} {name : String} :
    names.find? pattern.hasName = some name ↔ IsFirstShared names pattern.names name := by
  rw [List.find?_eq_some_iff_append]
  constructor
  · rintro ⟨shared, before, after, split, fresh⟩
    refine ⟨before, after, split, by simpa [hasName] using shared, ?_⟩
    intro earlier member
    simpa [hasName] using fresh earlier member
  · rintro ⟨before, after, split, shared, fresh⟩
    refine ⟨by simpa [hasName] using shared, before, after, split, ?_⟩
    intro earlier member
    simpa [hasName] using fresh earlier member

/-- A call is refused for the first name of the left side that stands on the
right side too, and for nothing else. -/
theorem concat_eq_error_iff {error : BuildError} :
    pattern.concat other = .error error ↔
      ∃ name, IsFirstShared pattern.names other.toPattern.names name ∧
        error = .nameCollision name := by
  simp only [concat]
  split
  · rename_i name found
    rw [find?_hasName_eq_some_iff] at found
    constructor
    · intro refused
      cases refused
      exact ⟨name, found, rfl⟩
    · rintro ⟨collision, isFirst, rfl⟩
      have same : some name = some collision :=
        (find?_hasName_eq_some_iff.mpr found).symm.trans (find?_hasName_eq_some_iff.mpr isFirst)
      cases same
      rfl
  · rename_i noCollision
    constructor
    · intro refused
      cases refused
    · rintro ⟨collision, isFirst, _⟩
      rw [find?_hasName_eq_some_iff.mpr isFirst] at noCollision
      cases noCollision

theorem rope_of_concat {whole : Pattern} (accepted : pattern.concat other = .ok whole) :
    whole.rope = pattern.rope.join other.toPattern.rope := by
  simp only [concat] at accepted
  split at accepted <;> cases accepted
  rfl

theorem empty_concat (other : Operand) : empty.concat other = .ok other.toPattern :=
  rfl

theorem concat_empty (pattern : Pattern) : pattern.concat (.built empty) = .ok pattern := by
  have noCollision : pattern.names.find? (Operand.built empty).toPattern.hasName = none := by
    rw [List.find?_eq_none]
    intro name _
    simp [Operand.toPattern, hasName, empty]
  rw [concat, noCollision]
  simp [Operand.toPattern, empty, Rope.join_empty]

end Pattern

/-- What one call makes of its operands depends on the patterns that they stand
for, not on how they are given or how the call is spelled. -/
structure Spelling.IsUniform (spelling : Spelling) (first second : Operand) : Prop where
  eq_concat : spelling.concatenate first second =
    first.toPattern.concat (.built second.toPattern)
  eq_error_iff : ∀ error, spelling.concatenate first second = .error error ↔
    ∃ name, IsFirstShared first.names second.names name ∧ error = .nameCollision name
  empty_left : spelling.concatenate (.built .empty) second = .ok second.toPattern
  empty_right : spelling.concatenate first (.built .empty) = .ok first.toPattern

theorem Spelling.isUniform (spelling : Spelling) (first second : Operand) :
    spelling.IsUniform first second := by
  constructor
  case eq_concat =>
    rw [concatenate_eq]
    rfl
  case eq_error_iff =>
    intro error
    rw [concatenate_eq]
    exact Pattern.concat_eq_error_iff
  case empty_left =>
    rw [concatenate_eq]
    exact Pattern.empty_concat second
  case empty_right =>
    rw [concatenate_eq]
    exact Pattern.concat_empty first.toPattern

/-! ## Trees of calls -/

namespace Bracketing

/-- Two of the operands have the name. -/
def IsShared (operands : List Operand) (name : String) : Prop :=
  ∃ first second, [first, second].Sublist operands ∧ name ∈ first.names ∧ name ∈ second.names

theorem disjoint_iff (operands : List Operand) :
    Disjoint operands ↔ ∀ name, ¬ IsShared operands name := by
  rw [Disjoint, List.pairwise_iff_forall_sublist]
  constructor
  · rintro disjoint name ⟨first, second, sublist, inFirst, inSecond⟩
    exact disjoint sublist name inFirst inSecond
  · intro noneShared first second sublist name inFirst inSecond
    exact noneShared name ⟨first, second, sublist, inFirst, inSecond⟩

theorem IsShared.mono {operands others : List Operand} {name : String}
    (shared : IsShared operands name) (sublist : operands.Sublist others) :
    IsShared others name := by
  obtain ⟨first, second, pair, inFirst, inSecond⟩ := shared
  exact ⟨first, second, pair.trans sublist, inFirst, inSecond⟩

/-- The value is the operands one after another, piece by piece and name by
name.  What it records is what they record, added up as machine words. -/
structure Joins (operands : List Operand) (value : Operand) : Prop
    extends Writes operands value where
  pieces_eq : value.toPattern.rope.toList =
    operands.flatMap fun operand => operand.toPattern.rope.toList
  length_eq : value.toPattern.rope.length =
    (operands.map fun operand => operand.toPattern.rope.length).sum % UInt64.size
  byteLength_eq : value.toPattern.rope.byteLength =
    (operands.map fun operand => operand.toPattern.rope.byteLength).sum % UInt64.size

namespace Joins

variable {operands first second : List Operand} {value other left right : Operand}
  {whole : Pattern}

theorem operand (value : Operand) : Joins [value] value := by
  constructor
  case toWrites => constructor <;> simp
  case pieces_eq => simp
  case length_eq =>
    rw [List.map_singleton, List.sum_singleton]
    exact (Nat.mod_eq_of_lt (UInt64.toNat_lt _)).symm
  case byteLength_eq =>
    rw [List.map_singleton, List.sum_singleton]
    exact (Nat.mod_eq_of_lt (UInt64.toNat_lt _)).symm

theorem concat (leftJoins : Joins first left) (rightJoins : Joins second right)
    (accepted : left.toPattern.concat right = .ok whole) :
    Joins (first ++ second) (.built whole) := by
  have rope : (Operand.built whole).toPattern.rope =
      left.toPattern.rope.join right.toPattern.rope := Pattern.rope_of_concat accepted
  constructor
  case toWrites => exact leftJoins.toWrites.concat rightJoins.toWrites accepted
  case pieces_eq =>
    rw [rope, Rope.toList_join, leftJoins.pieces_eq, rightJoins.pieces_eq, List.flatMap_append]
  case length_eq =>
    rw [rope, Rope.length_join, leftJoins.length_eq, rightJoins.length_eq, List.map_append,
      List.sum_append, ← Nat.add_mod]
  case byteLength_eq =>
    rw [rope, Rope.byteLength_join, leftJoins.byteLength_eq, rightJoins.byteLength_eq,
      List.map_append, List.sum_append, ← Nat.add_mod]

theorem text_eq (joins : Joins operands value) (sameJoins : Joins operands other) :
    value.toPattern.text = other.toPattern.text := by
  rw [Pattern.text, Pattern.text, Rope.text, Rope.text, joins.pieces_eq, sameJoins.pieces_eq]

/-- The operands leave nothing open about the value. -/
theorem beq (joins : Joins operands value) (sameJoins : Joins operands other) :
    (value.toPattern == other.toPattern) = true := by
  have sameBytes : value.toPattern.rope.byteLength = other.toPattern.rope.byteLength := by
    rw [joins.byteLength_eq, sameJoins.byteLength_eq]
  have unfolded : (value.toPattern == other.toPattern) =
      (value.toPattern.rope.byteLength == other.toPattern.rope.byteLength &&
        value.toPattern.text == other.toPattern.text) := rfl
  rw [unfolded, sameBytes, joins.text_eq sameJoins]
  simp

end Joins

/-- How a tree over these operands can end. -/
inductive Ends (operands : List Operand) : Except BuildError Operand → Prop where
  | joined {value : Operand} : Disjoint operands → Joins operands value →
      Ends operands (.ok value)
  | collided {name : String} : IsShared operands name →
      Ends operands (.error (.nameCollision name))

/-- Two values joined by one call: it is refused only for a name that an
operand on the left shares with one on the right. -/
theorem Ends.concat {first second : List Operand} {left right : Operand}
    (firstDisjoint : Disjoint first) (leftJoins : Joins first left)
    (secondDisjoint : Disjoint second) (rightJoins : Joins second right) :
    Ends (first ++ second) ((left.toPattern.concat right).map .built) := by
  cases called : left.toPattern.concat right with
  | error error =>
      obtain ⟨name, ⟨before, after, split, inRight, _⟩, rfl⟩ :=
        Pattern.concat_eq_error_iff.mp called
      have inLeft : name ∈ left.names := by
        change name ∈ left.toPattern.names
        simp [split]
      change name ∈ right.names at inRight
      rw [leftJoins.names_eq] at inLeft
      rw [rightJoins.names_eq] at inRight
      obtain ⟨giver, giverMember, given⟩ := List.mem_flatMap.mp inLeft
      obtain ⟨taker, takerMember, taken⟩ := List.mem_flatMap.mp inRight
      have pair : [giver, taker].Sublist (first ++ second) :=
        (List.singleton_sublist.mpr giverMember).append (List.singleton_sublist.mpr takerMember)
      exact .collided ⟨giver, taker, pair, given, taken⟩
  | ok whole =>
      have noCommonName := (Pattern.concat_eq_ok called).2.2
      apply Ends.joined
      · rw [Disjoint, List.pairwise_append]
        refine ⟨firstDisjoint, secondDisjoint, ?_⟩
        intro giver giverMember taker takerMember name given taken
        apply noCommonName name
        · change name ∈ left.names
          rw [leftJoins.names_eq]
          exact List.mem_flatMap.mpr ⟨giver, giverMember, given⟩
        · change name ∈ right.names
          rw [rightJoins.names_eq]
          exact List.mem_flatMap.mpr ⟨taker, takerMember, taken⟩
      · exact leftJoins.concat rightJoins called

theorem ends_build (bracketing : Bracketing) :
    Ends bracketing.operands (bracketing.build Spelling.concatenate) := by
  induction bracketing with
  | operand value => exact .joined (List.pairwise_singleton _ value) (.operand value)
  | call spelling first second firstHypothesis secondHypothesis =>
      simp only [build_call, Spelling.concatenate_eq, operands]
      generalize first.build Spelling.concatenate = firstBuilt at firstHypothesis
      generalize second.build Spelling.concatenate = secondBuilt at secondHypothesis
      cases firstHypothesis with
      | collided shared => exact .collided (shared.mono (List.sublist_append_left _ _))
      | joined firstDisjoint leftJoins =>
          cases secondHypothesis with
          | collided shared => exact .collided (shared.mono (List.sublist_append_right _ _))
          | joined secondDisjoint rightJoins =>
              exact .concat firstDisjoint leftJoins secondDisjoint rightJoins

/-- A tree of calls does what its operands, in order, determine. -/
structure IsDetermined (bracketing : Bracketing) : Prop where
  /-- It succeeds exactly when no two operands share a name. -/
  exists_iff : (∃ value, bracketing.build Spelling.concatenate = .ok value) ↔
    Disjoint bracketing.operands
  joins : ∀ value, bracketing.build Spelling.concatenate = .ok value →
    Joins bracketing.operands value
  /-- It fails for a name that two of the operands share. -/
  collides : ∀ error, bracketing.build Spelling.concatenate = .error error →
    ∃ name, IsShared bracketing.operands name ∧ error = .nameCollision name
  /-- Other brackets around the same operands make no difference. -/
  rebracket : ∀ (other : Bracketing) (value : Operand), other.operands = bracketing.operands →
    bracketing.build Spelling.concatenate = .ok value →
      ∃ same, other.build Spelling.concatenate = .ok same ∧
      (same.toPattern == value.toPattern) = true ∧
      same.toPattern.rope.toList = value.toPattern.rope.toList ∧ same.names = value.names

theorem exists_build_iff (bracketing : Bracketing) :
    (∃ value, bracketing.build Spelling.concatenate = .ok value) ↔
      Disjoint bracketing.operands := by
  have ends := bracketing.ends_build
  generalize bracketing.build Spelling.concatenate = built at ends
  cases ends with
  | joined disjoint _ => exact iff_of_true ⟨_, rfl⟩ disjoint
  | collided shared =>
      have notDisjoint : ¬ Disjoint bracketing.operands := by
        rw [disjoint_iff]
        exact fun noneShared => noneShared _ shared
      exact iff_of_false nofun notDisjoint

theorem joins_of_build {bracketing : Bracketing} {value : Operand}
    (built : bracketing.build Spelling.concatenate = .ok value) :
    Joins bracketing.operands value := by
  have ends := bracketing.ends_build
  rw [built] at ends
  cases ends with
  | joined _ joins => exact joins

theorem isDetermined (bracketing : Bracketing) : bracketing.IsDetermined := by
  constructor
  case exists_iff => exact bracketing.exists_build_iff
  case joins => exact fun value => joins_of_build
  case collides =>
    intro error refused
    have ends := bracketing.ends_build
    rw [refused] at ends
    cases ends with
    | collided shared => exact ⟨_, shared, rfl⟩
  case rebracket =>
    intro other value sameOperands built
    have disjoint := bracketing.exists_build_iff.mp ⟨value, built⟩
    rw [← sameOperands] at disjoint
    obtain ⟨same, sameBuilt⟩ := other.exists_build_iff.mpr disjoint
    have joins := joins_of_build built
    have sameJoins := joins_of_build sameBuilt
    rw [sameOperands] at sameJoins
    refine ⟨same, sameBuilt, sameJoins.beq joins, ?_, ?_⟩
    · rw [sameJoins.pieces_eq, joins.pieces_eq]
    · rw [sameJoins.names_eq, joins.names_eq]

/-- Concatenation is a partial monoid on texts, pieces and names: what a tree of
calls does is determined by its operands in order, and every single call does
the same, however it is spelled, with the empty pattern as its unit. -/
theorem build_isDetermined_and_isUniform (bracketing : Bracketing) (spelling : Spelling)
    (first second : Operand) :
    bracketing.IsDetermined ∧ spelling.IsUniform first second :=
  ⟨bracketing.isDetermined, spelling.isUniform first second⟩

end Bracketing

end PatternAlgebra
