import Mathlib.Data.List.Forall2
import PatternAlgebra.Cache
import PatternAlgebra.Proofs.Construction.Measured
import PatternAlgebra.Proofs.Construction.SameFate

/-!
# Pieces make no difference

Two patterns agree when they have the same text and know the same names,
however their ropes are cut into pieces.  Every operation treats agreeing
patterns alike: it refuses both for the same reason or has results that agree
again.  Constructions that start from agreeing values therefore agree at every
call, and so does everything that is compiled from their results.
-/

namespace PatternAlgebra

namespace Pattern

/-- The patterns have the same text and know the same names. -/
structure Agrees (first second : Pattern) : Prop where
  text : first.text = second.text
  names : first.names = second.names

namespace Agrees

variable {first second : Pattern}

theorem refl (pattern : Pattern) : pattern.Agrees pattern :=
  ⟨rfl, rfl⟩

theorem shape (agree : first.Agrees second) : first.shape = second.shape :=
  congrArg Shape.of agree.text

theorem hasName (agree : first.Agrees second) : first.hasName = second.hasName := by
  unfold Pattern.hasName
  rw [agree.names]

theorem withNames (agree : first.Agrees second) (names : List String) :
    Agrees { first with names := names } { second with names := names } :=
  ⟨agree.text, rfl⟩

/-! ## Operations -/

theorem enclose (agree : first.Agrees second) (opening : String) :
    (first.enclose opening).Agrees (second.enclose opening) := by
  refine ⟨?_, agree.names⟩
  have sameText : first.rope.text = second.rope.text := agree.text
  simp only [Pattern.text, Pattern.enclose, mapRope, Rope.text_surround, sameText]

theorem regroup (agree : first.Agrees second) (opening : String) (cut : Nat) :
    (first.regroup opening (inside first.text cut)).Agrees
      (second.regroup opening (inside second.text cut)) := by
  rw [agree.text]
  exact ⟨rfl, agree.names⟩

theorem push (agree : first.Agrees second) (suffix : String) :
    (first.mapRope fun rope => rope.push suffix).Agrees
      (second.mapRope fun rope => rope.push suffix) := by
  refine ⟨?_, agree.names⟩
  have sameText : first.rope.text = second.rope.text := agree.text
  simp only [Pattern.text, mapRope, Rope.text_push, sameText]

theorem text_branch (agree : first.Agrees second) : first.branch.text = second.branch.text := by
  unfold Pattern.branch
  rw [agree.shape, agree.text]
  split
  · rfl
  · exact agree.text

theorem toCaptureGroup (agree : first.Agrees second) :
    SameFate Agrees first.toCaptureGroup second.toCaptureGroup := by
  unfold Pattern.toCaptureGroup
  rw [agree.shape]
  split
  · rw [agree.text]
    exact .error _
  · exact .ok agree
  · exact .ok (agree.regroup _ _)
  · exact .ok (agree.enclose _)

theorem toNonCaptureGroup (agree : first.Agrees second) :
    SameFate Agrees first.toNonCaptureGroup second.toNonCaptureGroup := by
  unfold Pattern.toNonCaptureGroup
  rw [agree.shape]
  split
  · exact .ok agree
  · exact .ok agree
  · exact .ok agree
  · rw [agree.text]
    exact .error _
  · exact .ok (agree.regroup _ _)
  · exact .ok (agree.enclose _)

theorem toNamedCaptureGroup (agree : first.Agrees second) (name : String) :
    SameFate Agrees (first.toNamedCaptureGroup name) (second.toNamedCaptureGroup name) := by
  unfold Pattern.toNamedCaptureGroup
  rw [agree.shape, agree.hasName, agree.names]
  split_ifs
  · exact .error _
  · rw [agree.text]
    exact .error _
  · exact .error _
  · refine .ok (withNames ?_ (second.names ++ [name]))
    split
    · exact agree.regroup _ 3
    · exact agree.regroup _ 1
    · exact agree.enclose _

theorem quantify (agree : first.Agrees second) (quantifier : Quantifier) :
    SameFate Agrees (first.quantify quantifier) (second.quantify quantifier) := by
  have sameFault : first.quantifierFault? quantifier = second.quantifierFault? quantifier := by
    unfold quantifierFault?
    rw [agree.text, agree.shape]
  unfold Pattern.quantify
  rw [sameFault]
  split
  · exact .error _
  · have grouped := agree.toNonCaptureGroup
    generalize first.toNonCaptureGroup = one, second.toNonCaptureGroup = two at grouped ⊢
    cases grouped with
    | ok groupsAgree => exact .ok (groupsAgree.push _)
    | error reason => exact .error reason

theorem lazily (agree : first.Agrees second) : SameFate Agrees first.lazily second.lazily := by
  unfold Pattern.lazily
  rw [agree.text]
  split_ifs
  · exact .error _
  · exact .ok (agree.push "?")

theorem append (agree : first.Agrees second) (tail : Constant) :
    (first.append tail).Agrees (second.append tail) := by
  refine ⟨?_, agree.names⟩
  have sameText : first.rope.text = second.rope.text := agree.text
  simp only [Pattern.text, Pattern.append, mapRope, Rope.text_join, sameText]

/-- One operation on two patterns that agree. -/
theorem apply (agree : first.Agrees second) (operation : Transform) :
    SameFate Agrees (operation.apply first) (operation.apply second) := by
  cases operation with
  | toCaptureGroup => exact agree.toCaptureGroup
  | toNonCaptureGroup => exact agree.toNonCaptureGroup
  | toNamedCaptureGroup name => exact agree.toNamedCaptureGroup name
  | toLookaround side => exact .ok (agree.enclose side.opening)
  | quantify quantifier => exact agree.quantify quantifier
  | lazily => exact agree.lazily
  | append tail => exact .ok (agree.append tail)

end Agrees

end Pattern

open Pattern (Agrees)

/-! ## Operands -/

/-- The operands stand for patterns that agree. -/
def Operand.Agrees (first second : Operand) : Prop :=
  first.toPattern.Agrees second.toPattern

namespace Operand.Agrees

variable {first second other otherSecond : Operand}

theorem concatenate (agree : first.Agrees second) (othersAgree : other.Agrees otherSecond) :
    SameFate Pattern.Agrees (first.concatenate other) (second.concatenate otherSecond) := by
  simp only [Operand.concatenate, Pattern.concat]
  rw [agree.names, othersAgree.hasName]
  split
  · exact .error _
  · have texts := congrArg₂ (· ++ ·) agree.text othersAgree.text
    refine .ok ⟨?_, congrArg (second.toPattern.names ++ ·) othersAgree.names⟩
    simp only [Pattern.text, Rope.text_join]
    exact texts

theorem alternate (agree : first.Agrees second) (othersAgree : other.Agrees otherSecond) :
    SameFate Pattern.Agrees (first.alternate other) (second.alternate otherSecond) := by
  simp only [Operand.alternate, Pattern.alternate]
  rw [agree.names, othersAgree.names]
  split_ifs
  · refine .ok ⟨?_, rfl⟩
    simp only [Pattern.text, Rope.text_surround, Rope.text_join, Rope.text_push, agree.text_branch,
      othersAgree.text_branch]
  · exact .error _

end Operand.Agrees

/-- The members of a set are read from the texts of the operands. -/
theorem Pattern.setMembers_congr {first second : List Operand}
    (agree : List.Forall₂ Operand.Agrees first second) :
    setMembers first = setMembers second := by
  induction agree with
  | nil => rfl
  | cons itemsAgree _ inductionHypothesis =>
      rw [setMembers, setMembers, itemsAgree.text, inductionHypothesis]

/-! ## Calls -/

namespace Results

/-- The results agree pairwise. -/
abbrev Agree : Results → Results → Prop :=
  List.Forall₂ (Option.Rel Agrees)

namespace Agree

variable {first second : Results}

theorem pattern (agree : first.Agree second) (index : Nat) :
    SameFate Agrees (first.pattern index) (second.pattern index) := by
  unfold Results.pattern
  induction agree generalizing index with
  | nil => exact .error _
  | cons together _ inductionHypothesis =>
      cases index with
      | zero =>
          cases together with
          | none => exact .error _
          | some agree => exact .ok agree
      | succ index => exact inductionHypothesis index

theorem operand (agree : first.Agree second) (source : Source) :
    SameFate Operand.Agrees (first.operand source) (second.operand source) := by
  cases source with
  | result index => exact (agree.pattern index).map fun _ _ patternsAgree => patternsAgree
  | raw text => exact .ok (Agrees.refl _)

theorem operands (agree : first.Agree second) (sources : List Source) :
    SameFate (List.Forall₂ Operand.Agrees) (first.operands sources) (second.operands sources) := by
  induction sources with
  | nil => exact .ok .nil
  | cons source rest inductionHypothesis =>
      apply (agree.operand source).bind
      intro one two oneAgrees
      apply inductionHypothesis.bind
      intro ones twos othersAgree
      exact .ok (.cons oneAgrees othersAgree)

/-- One call with results that agree. -/
theorem run (agree : first.Agree second) (call : Call) :
    SameFate Agrees (call.run first) (call.run second) := by
  cases call with
  | empty | literal | escaped | constant => exact .ok (Agrees.refl _)
  | operand source =>
      apply (agree.operand source).bind
      intro one two operandsAgree
      exact .ok operandsAgree
  | anyOf members =>
      apply (agree.operands members).bind
      intro ones twos membersAgree
      rw [Pattern.anyOf, Pattern.nonemptySetMembers, Pattern.setMembers_congr membersAgree]
      exact .refl Agrees.refl _
  | noneOf members =>
      apply (agree.operands members).bind
      intro ones twos membersAgree
      rw [Pattern.noneOf, Pattern.nonemptySetMembers, Pattern.setMembers_congr membersAgree]
      exact .refl Agrees.refl _
  | transform operation index =>
      apply (agree.pattern index).bind
      intro one two patternsAgree
      exact (patternsAgree.apply operation).mapError _
  | concatenate left right =>
      apply (agree.operand left).bind
      intro one two leftAgree
      apply (agree.operand right).bind
      intro other otherTwo rightAgree
      exact (leftAgree.concatenate rightAgree).mapError _
  | alternate left right =>
      apply (agree.operand left).bind
      intro one two leftAgree
      apply (agree.operand right).bind
      intro other otherTwo rightAgree
      exact (leftAgree.alternate rightAgree).mapError _

/-- What the calls of a construction leave agrees when its start does. -/
theorem after (agree : first.Agree second) (calls : List Call) :
    (first.after calls).Agree (second.after calls) := by
  induction calls generalizing first second with
  | nil => exact agree
  | cons call rest inductionHypothesis =>
      apply inductionHypothesis
      exact List.rel_append agree (.cons (agree.run call).toOption .nil)

end Agree

end Results

/-! ## Whatever is asked of the results -/

/-- Nothing tells the patterns apart but the pieces that they are made of, whatever
the engines are. -/
structure Pattern.Alike (first second : Pattern) : Prop where
  text : first.text = second.text
  shape : first.shape = second.shape
  names : first.names = second.names
  beq : first.IsMeasured → second.IsMeasured → (first == second) = true
  hash : Hashable.hash first = Hashable.hash second
  compileWith : ∀ [Engines], first.compileWith = second.compileWith
  getOrCompile : ∀ [Engines] (cache : Cache), cache.getOrCompile first = cache.getOrCompile second

theorem Pattern.Agrees.alike {first second : Pattern} (agree : first.Agrees second) :
    first.Alike second where
  text := agree.text
  shape := agree.shape
  names := agree.names
  beq firstMeasured secondMeasured := (beq_iff firstMeasured secondMeasured).mpr agree.text
  hash := congrArg (fun text : String => Hashable.hash text) agree.text
  compileWith := by
    intro _
    funext options
    rw [Pattern.compileWith, Pattern.compileWith, agree.text]
  getOrCompile := by
    intro _ cache
    funext options
    rw [Cache.getOrCompile, Cache.getOrCompile, agree.text]

/-- Constructions that make the same calls from values that agree share the
fate of every call: it fails in both with the same error, or has results that
nothing tells apart. -/
theorem Results.sameFate_of_agree {first second : List Pattern}
    (agree : List.Forall₂ Agrees first second) (calls : List Call) (call : Call) :
    SameFate Pattern.Alike (call.run (Results.after (first.map some) calls))
      (call.run (Results.after (second.map some) calls)) := by
  have start : Results.Agree (first.map some) (second.map some) := by
    rw [Results.Agree, List.forall₂_map_left_iff, List.forall₂_map_right_iff]
    exact agree.imp fun _ _ => Option.Rel.some
  exact ((start.after calls).run call).mono fun _ _ => Agrees.alike

/-- A group in one piece, and the same group in four. -/
theorem Results.sameFate_of_agree_pieces :
    let run (start : Pattern) : Except CallError Pattern :=
      Call.run (Results.after [some start]
        [.transform .toCaptureGroup 0, .concatenate (.result 1) (.raw "c")])
        (.transform (.quantify .zeroOrMore) 2)
    (run ⟨.single "(?:a|b)", ["n"]⟩).toOption.map Pattern.text = some "(?:(a|b)c)*" ∧
      SameFate Pattern.Alike (run ⟨.single "(?:a|b)", ["n"]⟩)
        (run ⟨.ofList ["(?", ":a", "|", "b)"], ["n"]⟩) := by
  have agree : List.Forall₂ Agrees [⟨.single "(?:a|b)", ["n"]⟩]
      [⟨.ofList ["(?", ":a", "|", "b)"], ["n"]⟩] :=
    .cons ⟨by decide +kernel, rfl⟩ .nil
  exact ⟨by decide +kernel, Results.sameFate_of_agree agree _ _⟩

end PatternAlgebra
