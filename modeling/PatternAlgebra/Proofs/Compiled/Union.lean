import PatternAlgebra.Proofs.Compiled.Anchoring
import PatternAlgebra.Proofs.Pattern.Alternation

/-!
# Alternation is union

An alternation matches what one of its operands matches.  The text between the
bars is not the operand but its arm, which has lost the delimiters of a plain
group, so this takes more than two patterns that are accepted: nothing in one
arm may reach into the other, neither with a parenthesis nor with a comment nor
with a directive, and a group may not be referred to by a number that depends on
the other arm.
-/

namespace PatternAlgebra

open Reader Text

variable {reader : Reader} {opened : Nat} {text : List Char} {whole : Reading}

/-! ## Arms -/

namespace Reader

theorem refersByNumber_plainGroup (unnumbered : refersByNumber text = false) :
    refersByNumber (plainGroup text) = false := by
  have inside : refersByNumber (plainGroup text) = refersByNumber (text ++ [')']) := rfl
  rwa [inside, refersByNumber_concat (by decide)]

/-- An operand between the ends of the haystack is read as its arm is. -/
theorem exists_alone_arm (groups : reader.ReadsGroups) (assertions : reader.ReadsAssertions)
    (closesNothing : reader.ClosesNothing .plain (arm text))
    (unnumbered : refersByNumber (arm text) = false)
    (read : reader.read .plain opened (betweenEnds text) = some whole) :
    ∃ reading, reader.Alone .plain opened (arm text) reading ∧
      whole = reading.betweenEnds .plain := by
  have hasArm := hasArm_arm text
  generalize arm text = inside at closesNothing unnumbered hasArm
  cases hasArm with
  | itself =>
      obtain ⟨reading, alone⟩ := assertions.exists_alone closesNothing read
      exact ⟨reading, alone, Option.some.inj
        (read.symm.trans (assertions.read_betweenEnds groups alone (.inl unnumbered)))⟩
  | plain =>
      obtain ⟨grouped, outer⟩ := assertions.exists_alone (closesNothing.plainGroup groups) read
      obtain ⟨reading, alone⟩ := groups.exists_alone closesNothing outer.read
      have same : grouped = { reading with modes := .plain } :=
        Option.some.inj (outer.read.symm.trans (groups.plain alone (.inl unnumbered)).read)
      rw [same] at outer
      have enclosed := assertions.read_betweenEnds groups outer
        (.inl (refersByNumber_plainGroup unnumbered))
      exact ⟨reading, alone, Option.some.inj (read.symm.trans enclosed)⟩

theorem read_betweenEnds_plainGroup (groups : reader.ReadsGroups)
    (assertions : reader.ReadsAssertions) {reading : Reading}
    (alone : reader.Alone .plain opened text reading)
    (unnumbered : refersByNumber text = false) :
    reader.read .plain opened (betweenEnds (plainGroup text)) =
      some (reading.betweenEnds .plain) := by
  have read := assertions.read_betweenEnds groups (groups.plain alone (.inl unnumbered))
    (.inl (refersByNumber_plainGroup unnumbered))
  exact read

/-- An operand is read between the ends of the haystack if its arm is alone. -/
theorem read_of_alone_arm (groups : reader.ReadsGroups) (assertions : reader.ReadsAssertions)
    {reading : Reading} (alone : reader.Alone .plain opened (arm text) reading)
    (unnumbered : refersByNumber (arm text) = false) :
    reader.read .plain opened (betweenEnds text) = some (reading.betweenEnds .plain) := by
  have hasArm := hasArm_arm text
  generalize arm text = inside at alone unnumbered hasArm
  cases hasArm with
  | itself => exact assertions.read_betweenEnds groups alone (.inl unnumbered)
  | plain => exact read_betweenEnds_plainGroup groups assertions alone unnumbered

/-- Two texts can stand on the two sides of a bar.  With the bar between them they
close nothing that they have not opened, and they are no pattern unless each of
them is one by itself, outside of any comment.  The first one leaves the flags as
they were, and no group of the second one has a name of the first. -/
structure AreBranches (reader : Reader) (first second : List Char) : Prop where
  closesNothing : reader.ClosesNothing .plain (first ++ '|' :: second)
  secondClosesNothing : reader.ClosesNothing .plain second
  divides : ∀ reading, reader.Alone .plain 0 (first ++ '|' :: second) reading →
    (∃ one, reader.Alone .plain 0 first one) ∧ ∃ two, reader.Alone .plain 0 second two
  leavesFlags : ∀ reading, reader.read .plain 0 first = some reading → reading.modes = .plain
  namesApart : ∀ one two, reader.Alone .plain 0 first one → reader.Alone .plain 0 second two →
    one.names.Disjoint two.names

namespace AreBranches

variable {first second : List Char} (branches : reader.AreBranches first second)

include branches

theorem firstClosesNothing : reader.ClosesNothing .plain first := by
  rintro opened front rest reading rfl
  exact branches.closesNothing opened front (rest ++ '|' :: second) reading (by simp)

/-- The group around the branches is read by no engine that cannot read both of
them. -/
theorem exists_alone_of_read (groups : reader.ReadsGroups) (assertions : reader.ReadsAssertions)
    (read : reader.read .plain 0 (betweenEnds (plainGroup (first ++ '|' :: second))) = some whole) :
    (∃ one, reader.Alone .plain 0 first one) ∧ ∃ two, reader.Alone .plain 0 second two := by
  obtain ⟨_, outer⟩ := assertions.exists_alone (branches.closesNothing.plainGroup groups) read
  obtain ⟨_, inner⟩ := groups.exists_alone branches.closesNothing outer.read
  exact branches.divides _ inner

omit branches in
/-- Between the ends the group around two branches is read as either of them. -/
theorem read_union {readers : Dialect → Reader} {dialect : Dialect}
    (branches : (readers dialect).AreBranches first second) (groups : (readers dialect).ReadsGroups)
    (assertions : (readers dialect).ReadsAssertions) (bars : (readers dialect).ReadsBars)
    (counts : CountsGroups readers) (unnumbered : refersByNumber (first ++ '|' :: second) = false)
    {one two : Reading}
    (aloneFirst : (readers dialect).Alone .plain 0 first one)
    (aloneSecond : (readers dialect).Alone .plain 0 second two) :
    (readers dialect).read .plain 0 (betweenEnds (plainGroup (first ++ '|' :: second))) =
      some ((one.or two).betweenEnds .plain) := by
  have secondUnnumbered := (refersByNumber_sides (by decide) unnumbered).2
  have unflagged : one.modes = .plain := branches.leavesFlags one aloneFirst.read
  have later : (readers dialect).Alone one.modes (0 + one.groups) second two := by
    rw [unflagged]
    exact counts.alone (.inr secondUnnumbered) aloneSecond _
  have joined := bars.bar aloneFirst later (branches.namesApart one two aloneFirst aloneSecond)
    (.inl unnumbered)
  exact read_betweenEnds_plainGroup groups assertions joined unnumbered

end AreBranches

end Reader

namespace Pattern

variable {readers : Dialect → Reader} {options : Options}

theorem reading?_anchored (anchored : options.anchored = true) (unflagged : options.flags = .none)
    (dialect : Dialect) (text : String) :
    reading? readers options dialect (anchoredText text options).toList =
      (readers dialect).read .plain 0 (betweenEnds text.toList) := by
  have noGuard : guard (.ofFlags .none) = [] := rfl
  rw [toList_anchoredText anchored, unflagged, noGuard, List.append_nil]
  cases dialect <;> rw [reading?, unflagged] <;> rfl

/-- The engine is the first of those that are asked for which the text is alone. -/
structure AloneFirst (readers : Dialect → Reader) (options : Options) (text : List Char)
    (dialect : Dialect) (reading : Reading) : Prop where
  asked : dialect ∈ options.dialects
  alone : (readers dialect).Alone .plain 0 text reading
  standardNot : dialect = .backtracking → .standard ∈ options.dialects →
    ∀ other, ¬ (readers .standard).Alone .plain 0 text other

/-- The engine for two arms is the standard one if it is the engine of both, and
otherwise the backtracking one. -/
theorem AloneFirst.exists_dialect {left right : List Char} {one two : Reading}
    {first second : Dialect} (leftFirst : AloneFirst readers options left first one)
    (rightFirst : AloneFirst readers options right second two)
    (alike : first ≠ second → ∀ text ∈ [left, right], ∀ reading,
      (readers .standard).Alone .plain 0 text reading →
        (readers .backtracking).Alone .plain 0 text reading) :
    ∃ dialect ∈ options.dialects, (readers dialect).Alone .plain 0 left one ∧
      (readers dialect).Alone .plain 0 right two ∧
      (dialect = .backtracking → .standard ∈ options.dialects →
        (∀ reading, ¬ (readers .standard).Alone .plain 0 left reading) ∨
          ∀ reading, ¬ (readers .standard).Alone .plain 0 right reading) := by
  simp only [List.forall_mem_cons, List.not_mem_nil, false_implies, implies_true, and_true] at alike
  cases first with
  | standard =>
      cases second with
      | standard =>
          exact ⟨.standard, leftFirst.asked, leftFirst.alone, rightFirst.alone, nofun⟩
      | backtracking =>
          exact ⟨.backtracking, rightFirst.asked, (alike nofun).1 one leftFirst.alone,
            rightFirst.alone, fun _ standard => .inr (rightFirst.standardNot rfl standard)⟩
  | backtracking =>
      refine ⟨.backtracking, leftFirst.asked, leftFirst.alone, ?_,
        fun _ standard => .inl (leftFirst.standardNot rfl standard)⟩
      cases second with
      | standard => exact (alike nofun).2 two rightFirst.alone
      | backtracking => exact rightFirst.alone

variable [engines : Engines] (follow : engines.Follow readers)
  (groups : ∀ dialect, (readers dialect).ReadsGroups)
  (assertions : ∀ dialect, (readers dialect).ReadsAssertions) (anchored : options.anchored = true)
  (unflagged : options.flags = .none)

include follow groups assertions anchored unflagged

/-- The engine that compiles an operand is the first one for which the arm is alone. -/
theorem exists_aloneFirst {pattern : Pattern}
    (room : HasRoom readers options (anchoredText pattern.text options)) {compiled : Compiled}
    (made : pattern.compileWith options = .ok compiled)
    (closesNothing : ∀ dialect ∈ options.dialects,
      (readers dialect).ClosesNothing .plain (arm pattern.chars))
    (unnumbered : refersByNumber (arm pattern.chars) = false) :
    ∃ reading, AloneFirst readers options (arm pattern.chars) compiled.engine reading ∧
      compiled.Answers (reading.betweenEnds .plain) := by
  obtain ⟨whole, ⟨asked, read, unread⟩, answers⟩ := follow.exists_readsFirst room made
  rw [reading?_anchored anchored unflagged] at read
  obtain ⟨reading, alone, rfl⟩ :=
    exists_alone_arm (groups _) (assertions _) (closesNothing _ asked) unnumbered read
  refine ⟨reading, ⟨asked, alone, ?_⟩, answers⟩
  intro backtracking standard other aloneStandard
  have none := unread backtracking standard
  rw [reading?_anchored anchored unflagged] at none
  cases none.symm.trans (read_of_alone_arm (groups _) (assertions _) aloneStandard unnumbered)

end Pattern

/-- The two sides of a bar where the second one looks ahead. -/
theorem Sample.areBranches_of_lookahead (dialect : Dialect) :
    (Sample.reader dialect).AreBranches "a|ab".toList "(?=b)b".toList := by
  have leavesFlags : ∀ reading, (Sample.reader dialect).read .plain 0 "a|ab".toList = some reading →
      reading.modes = .plain := by
    intro reading read
    have evaluated : ((Sample.reader dialect).read .plain 0 "a|ab".toList).map Reading.modes =
      some .plain := by cases dialect <;> rfl
    rw [read] at evaluated
    exact Option.some.inj evaluated
  have namesApart : ∀ one two, (Sample.reader dialect).Alone .plain 0 "a|ab".toList one →
      (Sample.reader dialect).Alone .plain 0 "(?=b)b".toList two →
        one.names.Disjoint two.names := by
    intro one two alone _
    rw [(Sample.keepsStart_and_names alone.read).2]
    exact List.disjoint_nil_left _
  cases dialect with
  | standard =>
      have refused : (Sample.reader .standard).read .plain 0 "a|ab|(?=b)b".toList = none := rfl
      -- Neither text is read as far as its parenthesis.
      have both : (Sample.reader .standard).ClosesNothing .plain
          ("a|ab|(?=".toList ++ "b)b".toList) :=
        Sample.closesNothing_of_run_eq_none rfl (by decide)
      have second : (Sample.reader .standard).ClosesNothing .plain
          ("(?=".toList ++ "b)b".toList) :=
        Sample.closesNothing_of_run_eq_none rfl (by decide)
      refine ⟨both, second, fun reading alone => ?_, leavesFlags, namesApart⟩
      cases refused.symm.trans alone.read
  | backtracking =>
      refine ⟨Sample.closesNothing_of_read (by decide), Sample.closesNothing_of_read (by decide),
        fun _ _ => ⟨?_, ?_⟩, leavesFlags, namesApart⟩
      · exact Sample.exists_alone (by decide) (by decide)
      · exact Sample.exists_alone (by decide) (by decide)

end PatternAlgebra
