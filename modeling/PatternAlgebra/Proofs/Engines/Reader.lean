import PatternAlgebra.Engine
import PatternAlgebra.Proofs.Engines.Reading
import PatternAlgebra.Proofs.Engines.References
import PatternAlgebra.Text.Metacharacter

/-!
# How pattern text is read

A reader is the grammar of an engine with its meaning: what a text is read as
where certain flags are in force and a number of groups have been opened before
it.  It knows no limits, which are a matter of the engine.

The engines follow the syntax of Perl, and what this says is put here into laws,
one structure for each construct: groups, the two ends of the haystack, bars,
line breaks in verbose patterns, directives, references by number and characters
that stand for themselves.  None of the laws holds of a text as such.  They are
about what happens to a text that is a pattern of its own when something is put
around it or after it.  A text that refers to groups by number where groups have
names is left out of them: an engine need not accept the mixture everywhere.
-/

namespace PatternAlgebra

open Text (escape isMetacharacter)

/-- How an engine reads pattern text. -/
structure Reader where
  /-- What a text is read as, under these flags and after this number of groups;
  nothing if it is no pattern. -/
  read : Modes → Nat → List Char → Option Reading
  /-- The first character matches the second one where case is ignored. -/
  alike : Char → Char → Bool
  /-- The character is ignored in a verbose pattern. -/
  isLayout : Char → Bool

namespace Reader

variable {reader : Reader} {modes : Modes} {opened : Nat} {text front rest tail : List Char}
  {reading other : Reading}

/-- The text is a pattern of its own that does not end in a comment: a
parenthesis after it has nothing to close. -/
structure Alone (reader : Reader) (modes : Modes) (opened : Nat) (text : List Char)
    (reading : Reading) : Prop where
  read : reader.read modes opened text = some reading
  refuses : reader.read modes opened (text ++ [')']) = none

/-- No group is referred to by its number where groups have names. -/
def Unmixed (text : List Char) (reading : Reading) : Prop :=
  refersByNumber text = false ∨ reading.names = []

/-! ## The syntax of Perl -/

/-- A pattern in parentheses. -/
def group (text : List Char) : List Char :=
  '(' :: (text ++ [')'])

/-- A pattern in a group that captures nothing. -/
def plainGroup (text : List Char) : List Char :=
  group ('?' :: ':' :: text)

/-- A pattern in a group between the two ends of the haystack. -/
def betweenEnds (text : List Char) : List Char :=
  '\\' :: 'A' :: (plainGroup text ++ ['\\', 'z'])

/-- A comment in a group stands at the beginning of the text, and so what is behind it
may be taken for a part of what is put before the text. -/
abbrev BeginsWithComment (text : List Char) : Prop :=
  ['(', '?', '#'] <+: text

/-- A group is a pattern in parentheses: the first parenthesis closes it that
does not close a group inside.  A group matches what the pattern in it matches.
It captures if no question mark follows the parenthesis, and then it is counted
where it opens.  No pattern begins with a question mark, which would have nothing
to repeat. -/
structure ReadsGroups (reader : Reader) : Prop where
  mark : ∀ {modes opened text}, reader.read modes opened ('?' :: text) = none
  plain : ∀ {modes opened text reading}, reader.Alone modes opened text reading →
    Unmixed text reading → reader.Alone modes opened (plainGroup text) { reading with modes }
  capture : ∀ {modes opened text reading}, reader.Alone modes (opened + 1) text reading →
    Unmixed text reading → ∃ after, reader.read modes opened (group text) =
      some { reading with groups := reading.groups + 1, modes := after }
  of_plain : ∀ {modes opened text whole},
    reader.read modes opened ('(' :: '?' :: ':' :: text) = some whole →
      ∃ front rest reading, text = front ++ ')' :: rest ∧ reader.Alone modes opened front reading
  of_capture : ∀ {modes opened text whole}, modes.verbose = false → text.head? ≠ some '?' →
    ¬ BeginsWithComment text → reader.read modes opened ('(' :: text) = some whole →
      ∃ front rest reading,
        text = front ++ ')' :: rest ∧ reader.Alone modes (opened + 1) front reading

/-- The assertion `\A` before a group holds at the start of the haystack only, and the
assertion `\z` behind it at the end.  The group is closed as it is without them. -/
structure ReadsAssertions (reader : Reader) : Prop where
  start : ∀ {modes opened text reading grouped}, reader.Alone modes opened text reading →
    reader.Alone modes opened (plainGroup text) grouped →
      reader.Alone modes opened ('\\' :: 'A' :: plainGroup text) grouped.fromStart
  stop : ∀ {modes opened text reading whole}, reader.Alone modes opened text reading →
    reader.Alone modes opened ('\\' :: 'A' :: plainGroup text) whole →
      reader.read modes opened (betweenEnds text) = some whole.toEnd
  of_start : ∀ {modes opened text whole},
    reader.read modes opened ('\\' :: 'A' :: '(' :: '?' :: ':' :: text) = some whole →
      ∃ front rest reading, text = front ++ ')' :: rest ∧ reader.Alone modes opened front reading

/-- A bar between two patterns prefers the first one.  The groups of the second
one are counted on from the first, and what the first one does to the flags
holds across the bar.  No name may stand on both sides. -/
structure ReadsBars (reader : Reader) : Prop where
  bar : ∀ {modes opened first second one two}, reader.Alone modes opened first one →
    reader.Alone one.modes (opened + one.groups) second two → one.names.Disjoint two.names →
      Unmixed (first ++ '|' :: second) (one.or two) →
        reader.Alone modes opened (first ++ '|' :: second) (one.or two)

/-- In a verbose pattern a line break ends a comment and is ignored otherwise.
What is ignored has no other meaning. -/
structure IgnoresLayout (reader : Reader) : Prop where
  lineBreak : ∀ {modes opened text reading}, reader.read modes opened text = some reading →
    reading.modes.verbose = true → reader.Alone modes opened (text ++ ['\n']) reading
  isMetacharacter : ∀ {c}, isMetacharacter c = true → reader.isLayout c = false

/-- What is left of a text after blanks and comments; the flag says that a
comment is open. -/
def afterLayout (reader : Reader) : Bool → List Char → List Char
  | _, [] => []
  | true, c :: rest => reader.afterLayout (c != '\n') rest
  | false, c :: rest =>
      if c = '#' then reader.afterLayout true rest
      else if reader.isLayout c then reader.afterLayout false rest
      else c :: rest

/-- A brace stands at the beginning of the text, where it would repeat what is
put before it, or may stand there behind a comment in a group. -/
def BeginsWithBrace (reader : Reader) (modes : Modes) (text : List Char) : Prop :=
  let rest := if modes.verbose then reader.afterLayout false text else text
  rest.head? = some '{' ∨ BeginsWithComment rest

/-- A directive with letters puts flags in force up to the end of the pattern,
and a directive without letters is none. -/
structure ReadsDirectives (reader : Reader) : Prop where
  directive : ∀ {flags : List Flag} {text}, flags ≠ [] → flags.Nodup →
    ¬ reader.BeginsWithBrace (Modes.plain.edit (flags.map (·, true))) text →
      reader.read .plain 0 ('(' :: '?' :: (flags.map Flag.letter ++ ')' :: text)) =
        reader.read (Modes.plain.edit (flags.map (·, true))) 0 text
  empty : ∀ {opened text}, reader.read .plain opened ('(' :: '?' :: ')' :: text) = none

/-- The meaning of the text does not depend on the number of groups before it. -/
def IgnoresCount (reader : Reader) (text : List Char) : Prop :=
  ∀ modes opened, reader.read modes (opened + 1) text = reader.read modes opened text

/-- A character is matched by itself, or by what is alike where case is
ignored. -/
def test (reader : Reader) (modes : Modes) (c : Char) : Char → Bool :=
  if modes.fold then reader.alike c else (· == c)

/-- A character without a meaning of its own stands for itself, unless it is
ignored in a verbose pattern, and so does any other one after a backslash.  No
such text opens anything that a parenthesis could close. -/
structure ReadsLiterals (reader : Reader) : Prop where
  nothing : ∀ {modes opened}, reader.read modes opened [] = some (.nothing modes)
  character : ∀ {modes opened text c}, isMetacharacter c = false →
    reader.read modes opened (escape text ++ [c]) =
      (reader.read modes opened (escape text)).map fun reading =>
        if modes.verbose && reader.isLayout c then reading
        else reading.followedBy (reader.test modes c)
  escaped : ∀ {modes opened text c}, isMetacharacter c = true →
    reader.read modes opened (escape text ++ ['\\', c]) =
      (reader.read modes opened (escape text)).map (·.followedBy (reader.test modes c))
  closing : ∀ {modes opened text}, reader.read modes opened (escape text ++ [')']) = none

/-- Where case is ignored, a character is alike to itself, and characters of ASCII
are alike if they are the same letter. -/
structure FoldsCase (reader : Reader) : Prop where
  itself : ∀ c, reader.alike c c = true
  ascii : ∀ c d : Char, c.toNat < 128 → d.toNat < 128 →
    (reader.alike c d = true ↔ c.toLower = d.toLower)

/-! ## Counting groups -/

theorem IgnoresCount.read_eq (ignores : reader.IgnoresCount text) (modes : Modes) (opened : Nat) :
    reader.read modes opened text = reader.read modes 0 text := by
  induction opened with
  | zero => rfl
  | succ opened inductionHypothesis => exact (ignores modes opened).trans inductionHypothesis

/-- Groups are numbered by their openings, so only a text that refers to one by its
number depends on what stands before it.  The standard dialect has nothing that
refers to a group. -/
structure CountsGroups (readers : Dialect → Reader) : Prop where
  standard : ∀ text, (readers .standard).IgnoresCount text
  backtracking : ∀ {text}, refersByNumber text = false →
    (readers .backtracking).IgnoresCount text

namespace CountsGroups

variable {readers : Dialect → Reader} {dialect : Dialect}

theorem ignoresCount (counts : CountsGroups readers)
    (unnumbered : dialect = .standard ∨ refersByNumber text = false) :
    (readers dialect).IgnoresCount text := by
  cases dialect with
  | standard => exact counts.standard text
  | backtracking => exact counts.backtracking (unnumbered.resolve_left nofun)

theorem ignoresCount_closed (counts : CountsGroups readers)
    (unnumbered : dialect = .standard ∨ refersByNumber text = false) :
    (readers dialect).IgnoresCount (text ++ [')']) :=
  counts.ignoresCount (unnumbered.imp_right (refersByNumber_concat (by decide)).trans)

/-- A text that is alone at the beginning is alone after any groups. -/
theorem alone (counts : CountsGroups readers)
    (unnumbered : dialect = .standard ∨ refersByNumber text = false)
    (alone : (readers dialect).Alone modes 0 text reading) (opened : Nat) :
    (readers dialect).Alone modes opened text reading where
  read := ((counts.ignoresCount unnumbered).read_eq modes opened).trans alone.read
  refuses := ((counts.ignoresCount_closed unnumbered).read_eq modes opened).trans alone.refuses

end CountsGroups

/-! ## Texts that keep to themselves -/

/-- No parenthesis in the text closes a group that the text has not opened. -/
def ClosesNothing (reader : Reader) (modes : Modes) (text : List Char) : Prop :=
  ∀ opened front rest reading, text = front ++ ')' :: rest →
    ¬ reader.Alone modes opened front reading

namespace ClosesNothing

/-- A group around the text is closed by the parenthesis that has been put
there. -/
theorem eq_of_split (closesNothing : reader.ClosesNothing modes text)
    (alone : reader.Alone modes opened front reading) (noOther : ')' ∉ tail)
    (split : text ++ ')' :: tail = front ++ ')' :: rest) : front = text := by
  rcases List.append_eq_append_iff.mp split with ⟨between, rfl, right⟩ | ⟨between, rfl, right⟩
  · cases between with
    | nil => exact List.append_nil text
    | cons c between =>
        obtain ⟨-, inTail⟩ := List.cons.inj right
        exact absurd (by simp [inTail]) noOther
  · cases between with
    | nil => exact (List.append_nil front).symm
    | cons c between =>
        obtain ⟨rfl, -⟩ := List.cons.inj right
        exact absurd alone (closesNothing _ _ _ _ rfl)

/-- A character after the text that is no parenthesis closes nothing either. -/
theorem append_singleton (closesNothing : reader.ClosesNothing modes text) {c : Char}
    (other : c ≠ ')') : reader.ClosesNothing modes (text ++ [c]) := by
  intro opened front rest reading split
  rcases List.append_eq_append_iff.mp split with ⟨between, rfl, right⟩ | ⟨between, rfl, right⟩
  · cases between with
    | nil => exact absurd (List.cons.inj right).1 other
    | cons d between => simp at right
  · cases between with
    | nil => exact absurd (List.cons.inj right).1.symm other
    | cons d between =>
        obtain ⟨rfl, -⟩ := List.cons.inj right
        exact closesNothing _ _ _ _ rfl

/-- A group around such a text closes nothing either. -/
theorem plainGroup (closesNothing : reader.ClosesNothing modes text)
    (groups : reader.ReadsGroups) : reader.ClosesNothing modes (plainGroup text) := by
  rintro opened front rest reading split alone
  match front, split with
  | [], split => simp [Reader.plainGroup, group] at split
  | [_], split => simp [Reader.plainGroup, group] at split
  | [_, _], split => simp [Reader.plainGroup, group] at split
  | _ :: _ :: _ :: inner, split =>
      obtain ⟨rfl, rfl, rfl, inside⟩ : _ ∧ _ ∧ _ ∧ text ++ [')'] = inner ++ ')' :: rest := by
        simpa [Reader.plainGroup, group] using split
      -- The group would have to be closed inside what stands before the last parenthesis.
      obtain ⟨first, others, found, rfl, aloneFirst⟩ := groups.of_plain alone.read
      have equal : first = text := by
        apply closesNothing.eq_of_split aloneFirst List.not_mem_nil
        rw [inside, List.append_assoc, List.cons_append]
      rw [equal, List.append_assoc, List.append_right_inj] at inside
      simp at inside

end ClosesNothing

/-- What is put around the text does not change how it is read, nor does the text
hide it: no parenthesis in it closes what it has not opened, it does not end in a
comment, and it does not refer to groups by number where groups have names.  In a
verbose pattern, where a line break is put after the text as well, the text leaves
verbose mode on and is not completed by the line break. -/
structure IsSelfContained (reader : Reader) (modes : Modes) (text : List Char) : Prop where
  closesNothing : reader.ClosesNothing modes text
  unmixed : ∀ opened reading, reader.read modes opened text = some reading → Unmixed text reading
  endsOutside : modes.verbose = false → ∀ opened reading,
    reader.read modes opened text = some reading → reader.read modes opened (text ++ [')']) = none
  endsVerbose : modes.verbose = true → ∀ opened reading,
    reader.read modes opened text = some reading → reading.modes.verbose = true
  isComplete : modes.verbose = true → ∀ opened,
    reader.read modes opened text = none → reader.read modes opened (text ++ ['\n']) = none

/-- What is put after a text in parentheses, so that a comment ends before the
parenthesis. -/
def guard (modes : Modes) : List Char :=
  if modes.verbose then ['\n'] else []

namespace IsSelfContained

theorem alone (contained : reader.IsSelfContained modes text) (notVerbose : modes.verbose = false)
    (read : reader.read modes opened text = some reading) :
    reader.Alone modes opened text reading :=
  ⟨read, contained.endsOutside notVerbose opened reading read⟩

/-- With the line break where it is needed, the text is alone as soon as it is
read, and is read as it is without. -/
theorem alone_guard_iff (contained : reader.IsSelfContained modes text)
    (layout : reader.IgnoresLayout) :
    reader.Alone modes opened (text ++ guard modes) reading ↔
      reader.read modes opened text = some reading := by
  cases verbose : modes.verbose with
  | false =>
      rw [guard, verbose, if_neg Bool.false_ne_true, List.append_nil]
      exact ⟨Alone.read, contained.alone verbose⟩
  | true =>
      rw [guard, verbose, if_pos rfl]
      have kept {reading : Reading} (read : reader.read modes opened text = some reading) :
          reader.Alone modes opened (text ++ ['\n']) reading :=
        layout.lineBreak read (contained.endsVerbose verbose opened reading read)
      refine ⟨fun alone => ?_, kept⟩
      cases read : reader.read modes opened text with
      | none => exact absurd alone.read (by simp [contained.isComplete verbose opened read])
      | some other => exact (kept read).read.symm.trans alone.read

theorem unmixed_guard (contained : reader.IsSelfContained modes text)
    (read : reader.read modes opened text = some reading) :
    Unmixed (text ++ guard modes) reading := by
  refine (contained.unmixed opened reading read).imp_left fun unnumbered => ?_
  rw [guard]
  split
  · rwa [refersByNumber_concat (by decide)]
  · rwa [List.append_nil]

theorem closesNothing_guard (contained : reader.IsSelfContained modes text) :
    reader.ClosesNothing modes (text ++ guard modes) := by
  rw [guard]
  split
  · exact contained.closesNothing.append_singleton (by decide)
  · rw [List.append_nil]
    exact contained.closesNothing

end IsSelfContained

/-! ## What is put around a text -/

/-- A text is alone if its group is read. -/
theorem ReadsGroups.exists_alone (groups : reader.ReadsGroups)
    (closesNothing : reader.ClosesNothing modes text)
    (read : reader.read modes opened (plainGroup text) = some other) :
    ∃ reading, reader.Alone modes opened text reading := by
  obtain ⟨front, rest, reading, split, alone⟩ := groups.of_plain read
  obtain rfl := closesNothing.eq_of_split alone List.not_mem_nil split
  exact ⟨reading, alone⟩

/-- A pattern between the ends of the haystack matches what goes from one to the
other. -/
theorem ReadsAssertions.read_betweenEnds (assertions : reader.ReadsAssertions)
    (groups : reader.ReadsGroups) (alone : reader.Alone modes opened text reading)
    (unmixed : Unmixed text reading) :
    reader.read modes opened (betweenEnds text) = some (reading.betweenEnds modes) :=
  assertions.stop alone (assertions.start alone (groups.plain alone unmixed))

theorem ReadsAssertions.exists_alone (assertions : reader.ReadsAssertions)
    (closesNothing : reader.ClosesNothing modes text)
    (read : reader.read modes opened (betweenEnds text) = some other) :
    ∃ reading, reader.Alone modes opened text reading := by
  have asserted : betweenEnds text = '\\' :: 'A' :: '(' :: '?' :: ':' ::
      (text ++ [')', '\\', 'z']) := by
    simp [betweenEnds, plainGroup, group]
  rw [asserted] at read
  obtain ⟨front, rest, reading, split, alone⟩ := assertions.of_start read
  obtain rfl := closesNothing.eq_of_split alone (by decide) split
  exact ⟨reading, alone⟩

/-- Between the ends a text is read if and only if it is read by itself. -/
theorem IsSelfContained.read_betweenEnds (contained : reader.IsSelfContained modes text)
    (groups : reader.ReadsGroups) (assertions : reader.ReadsAssertions)
    (layout : reader.IgnoresLayout) :
    reader.read modes opened (betweenEnds (text ++ guard modes)) =
      (reader.read modes opened text).map (·.betweenEnds modes) := by
  cases read : reader.read modes opened text with
  | some reading =>
      exact assertions.read_betweenEnds groups ((contained.alone_guard_iff layout).mpr read)
        (contained.unmixed_guard read)
  | none =>
      rw [Option.map_none, Option.eq_none_iff_forall_ne_some]
      intro whole found
      obtain ⟨reading, alone⟩ := assertions.exists_alone contained.closesNothing_guard found
      cases read.symm.trans ((contained.alone_guard_iff layout).mp alone)

/-- A group that captures nothing matches as its text does. -/
theorem IsSelfContained.spans_plainGroup (contained : reader.IsSelfContained modes text)
    (notVerbose : modes.verbose = false) (groups : reader.ReadsGroups) :
    (reader.read modes opened (plainGroup text)).map Reading.spans =
      (reader.read modes opened text).map Reading.spans := by
  cases read : reader.read modes opened text with
  | some reading =>
      have grouped := groups.plain (contained.alone notVerbose read) (contained.unmixed _ _ read)
      rw [grouped.read]
      rfl
  | none =>
      rw [Option.map_none, Option.map_eq_none_iff, Option.eq_none_iff_forall_ne_some]
      intro whole found
      obtain ⟨reading, alone⟩ := groups.exists_alone contained.closesNothing found
      cases read.symm.trans alone.read

/-- A group that captures matches as its text does after one more group. -/
theorem IsSelfContained.spans_group (contained : reader.IsSelfContained modes text)
    (notVerbose : modes.verbose = false) (noMark : text.head? ≠ some '?')
    (uncommented : ¬ BeginsWithComment text) (groups : reader.ReadsGroups) :
    (reader.read modes opened (group text)).map Reading.spans =
      (reader.read modes (opened + 1) text).map Reading.spans := by
  cases read : reader.read modes (opened + 1) text with
  | some reading =>
      obtain ⟨after, grouped⟩ :=
        groups.capture (contained.alone notVerbose read) (contained.unmixed _ _ read)
      rw [grouped]
      rfl
  | none =>
      rw [Option.map_none, Option.map_eq_none_iff, Option.eq_none_iff_forall_ne_some]
      intro whole found
      have noMarkAfter : (text ++ [')']).head? ≠ some '?' := by
        cases text with
        | nil => decide
        | cons c rest => exact noMark
      have uncommentedAfter : ¬ BeginsWithComment (text ++ [')']) :=
        mt (isPrefix_of_concat ['(', '?', '#'] (by decide) (by simp)) uncommented
      obtain ⟨front, rest, reading, split, alone⟩ :=
        groups.of_capture notVerbose noMarkAfter uncommentedAfter found
      obtain rfl := contained.closesNothing.eq_of_split alone List.not_mem_nil split
      cases read.symm.trans alone.read

end Reader

end PatternAlgebra
