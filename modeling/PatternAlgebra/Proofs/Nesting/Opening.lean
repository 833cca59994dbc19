import Mathlib.Data.List.Basic
import PatternAlgebra.Pattern.Grouping
import PatternAlgebra.Proofs.Nesting.GroupTails

/-!
# Openings of groups

A group opens with a parenthesis and a mark that tells its sort.  Reading the
mark from the tail behind the parenthesis finds exactly what writing it puts
there, and it never looks past the parenthesis that closes the group; so the
openings of a text are found again in every text that contains it.
-/

namespace PatternAlgebra

open Text Token

/-- How a group opens. -/
inductive Opening where
  | capture
  /-- A group that captures nothing. -/
  | plain
  | look (side : Lookaround)
  | named (name : List Char)
  deriving DecidableEq, Repr

namespace Opening

/-- What stands between the parenthesis and the inside of the group. -/
def mark : Opening → List Char
  | capture => []
  | plain => ['?', ':']
  | look .ahead => ['?', '=']
  | look .behind => ['?', '<', '=']
  | look .notAhead => ['?', '!']
  | look .notBehind => ['?', '<', '!']
  | named name => '?' :: '<' :: (name ++ ['>'])

/-- The group can have its name, if it has one. -/
def IsValid : Opening → Prop
  | named name => isGroupName name = true
  | _ => True

instance : (opening : Opening) → Decidable opening.IsValid
  | named name => inferInstanceAs (Decidable (isGroupName name = true))
  | capture | plain | look _ => inferInstanceAs (Decidable True)

theorem isValid_capture : capture.IsValid :=
  trivial

theorem isValid_plain : plain.IsValid :=
  trivial

theorem isValid_look (side : Lookaround) : (look side).IsValid :=
  trivial

theorem isValid_named {name : List Char} (isName : isGroupName name = true) :
    (named name).IsValid :=
  isName

/-- A group around a text. -/
def enclose (opening : Opening) (body : List Char) : List Char :=
  parenthesized (opening.mark ++ body)

/-! ## Names -/

theorem isNameChar_of_isGroupName {name : List Char} (isName : isGroupName name = true) :
    ∀ c ∈ name, (c.isAlphanum || c == '_') = true := by
  cases name with
  | nil => cases isName
  | cons first rest =>
      simp only [isGroupName, Bool.and_eq_true, List.all_eq_true] at isName
      intro c member
      rcases List.mem_cons.mp member with rfl | member
      · rcases Bool.or_eq_true_iff.mp isName.1 with letter | underscore
        · simp [Char.isAlphanum, letter]
        · simp [underscore]
      · exact isName.2 c member

theorem not_mem_of_isGroupName {name : List Char} (isName : isGroupName name = true) {c : Char}
    (notNameChar : (c.isAlphanum || c == '_') = false) : c ∉ name := by
  intro member
  rw [isNameChar_of_isGroupName isName c member] at notNameChar
  cases notNameChar

/-- A mark neither opens nor closes anything. -/
theorem IsValid.noDelimiter {opening : Opening} (valid : opening.IsValid) :
    ∀ c ∈ opening.mark, isDelimiter c = false := by
  cases opening with
  | capture => simp [mark]
  | plain => simp [mark, isDelimiter]
  | look side => cases side <;> simp [mark, isDelimiter]
  | named name =>
      intro c member
      simp only [mark, List.mem_cons, List.mem_append, List.not_mem_nil, or_false] at member
      rcases member with rfl | rfl | member | rfl
      · rfl
      · rfl
      · have nameChar : (c.isAlphanum || c == '_') = true :=
          isNameChar_of_isGroupName valid c member
        exact isDelimiter_eq_false_of (fun d => (d.isAlphanum || d == '_') = true) nameChar (by decide)
      · rfl

theorem IsValid.balanced_iff {opening : Opening} (valid : opening.IsValid) {body : List Char} :
    Balanced (opening.mark ++ body) ↔ Balanced body :=
  balanced_append_iff_of_noDelimiter valid.noDelimiter

theorem IsValid.lex_mark {opening : Opening} (valid : opening.IsValid) (rest : List Char) :
    lex (opening.mark ++ rest) = opening.mark.map .plain ++ lex rest := by
  have noBackslash : '\\' ∉ opening.mark := by
    intro member
    cases valid.noDelimiter _ member
  rw [lex_append (isComplete_of_not_mem noBackslash), lex_eq_map_plain noBackslash]

theorem IsValid.balanced_enclose {opening : Opening} (valid : opening.IsValid) {body : List Char}
    (balanced : Balanced body) : Balanced (opening.enclose body) :=
  (valid.balanced_iff.mpr balanced).parenthesized

/-! ## Reading a mark -/

/-- Read a name up to the angle bracket that ends it. -/
def readName : List Token → Option (List Char × List Token)
  | .plain '>' :: body => some ([], body)
  | .plain c :: rest => (readName rest).map fun read => (c :: read.1, read.2)
  | _ => none

/-- Read a mark that starts with a question mark, from the character after it. -/
def readMark : List Token → Option (Opening × List Token)
  | .plain ':' :: body => some (.plain, body)
  | .plain '=' :: body => some (.look .ahead, body)
  | .plain '!' :: body => some (.look .notAhead, body)
  | .plain '<' :: .plain '=' :: body => some (.look .behind, body)
  | .plain '<' :: .plain '!' :: body => some (.look .notBehind, body)
  | .plain '<' :: rest =>
      match readName rest with
      | some (name, body) => if isGroupName name then some (.named name, body) else none
      | none => none
  | _ => none

/-- Read how a group opens from what stands after its parenthesis, and give
what stands after the mark. -/
def read? : List Token → Option (Opening × List Token)
  | .plain '?' :: rest => readMark rest
  | body => some (.capture, body)

theorem readName_written {name : List Char} (noAngle : '>' ∉ name) (body : List Token) :
    readName (name.map .plain ++ .plain '>' :: body) = some (name, body) := by
  induction name with
  | nil => rfl
  | cons c rest inductionHypothesis =>
      rw [List.mem_cons, not_or] at noAngle
      rw [List.map_cons, List.cons_append, readName, inductionHypothesis noAngle.2]
      · rfl
      · rintro rfl
        exact absurd rfl noAngle.1

theorem eq_written_of_readName {tail body : List Token} {name : List Char}
    (read : readName tail = some (name, body)) :
    '>' ∉ name ∧ tail = name.map .plain ++ .plain '>' :: body := by
  fun_induction readName tail generalizing name with
  | case1 after => cases read; simp
  | case2 c rest notEnd inductionHypothesis =>
      rcases Option.map_eq_some_iff.mp read with ⟨⟨restName, after⟩, readRest, equal⟩
      cases equal
      obtain ⟨noAngle, rfl⟩ := inductionHypothesis readRest
      constructor
      · rw [List.mem_cons, not_or]
        exact ⟨Ne.symm notEnd, noAngle⟩
      · rfl
  | case3 => cases read

/-- The mark of a group and what may stand after it: after the bare
parenthesis of a capturing group no question mark stands. -/
def Precedes (opening : Opening) (body : List Token) : Prop :=
  opening.IsValid ∧ (opening = capture → body.head? ≠ some (.plain '?'))

theorem read?_written {opening : Opening} {body : List Token} (precedes : opening.Precedes body) :
    read? (opening.mark.map .plain ++ body) = some (opening, body) := by
  cases opening with
  | capture =>
      rw [mark, List.map_nil, List.nil_append, read?]
      rintro rest rfl
      exact precedes.2 rfl rfl
  | plain => rfl
  | look side => cases side <;> rfl
  | named name =>
      have isName : isGroupName name = true := precedes.1
      have noAngle : '>' ∉ name := not_mem_of_isGroupName isName (by decide)
      have noEquals : '=' ∉ name := not_mem_of_isGroupName isName (by decide)
      have noBang : '!' ∉ name := not_mem_of_isGroupName isName (by decide)
      have tail_eq : (named name).mark.map .plain ++ body =
          .plain '?' :: .plain '<' :: (name.map .plain ++ .plain '>' :: body) := by
        simp [mark]
      rw [tail_eq, read?, readMark, readName_written noAngle]
      · simp [isName]
      all_goals
        intro after equal
        cases name with
        | nil => cases isName
        | cons first rest =>
            cases equal
            simp at noEquals noBang

theorem eq_written_of_read? {opening : Opening} {tail body : List Token}
    (read : read? tail = some (opening, body)) :
    tail = opening.mark.map .plain ++ body ∧ opening.Precedes body := by
  have notCapture {other : Opening} (ne : other ≠ capture) (valid : other.IsValid) :
      other.Precedes body := by
    constructor
    · exact valid
    · intro equal
      exact absurd equal ne
  unfold read? at read
  split at read
  · unfold readMark at read
    split at read
    case h_6 rest _ _ =>
      split at read
      · rename_i name after readRest
        split_ifs at read with isName
        cases read
        obtain ⟨_, rfl⟩ := eq_written_of_readName readRest
        exact ⟨by simp [mark], notCapture (by simp) isName⟩
      · cases read
    all_goals cases read
    all_goals exact ⟨rfl, notCapture (by simp) trivial⟩
  · rename_i notQuestion
    cases read
    have noQuestion : tail.head? ≠ some (.plain '?') := by
      intro question
      obtain ⟨rest, rfl⟩ := List.head?_eq_some_iff.mp question
      exact notQuestion rest rfl
    exact ⟨rfl, isValid_capture, fun _ => noQuestion⟩

/-- Reading finds exactly what is written. -/
theorem read?_eq_some_iff {opening : Opening} {tail body : List Token} :
    read? tail = some (opening, body) ↔
      tail = opening.mark.map .plain ++ body ∧ opening.Precedes body := by
  constructor
  · exact eq_written_of_read?
  · rintro ⟨rfl, precedes⟩
    exact read?_written precedes

/-- A group with this opening can have this inside: the name is one, and the
inside of a capturing group does not start with a question mark. -/
def Fits (opening : Opening) (body : List Char) : Prop :=
  opening.IsValid ∧ (opening = capture → body.head? ≠ some '?')

theorem fits_plain (body : List Char) : plain.Fits body :=
  ⟨isValid_plain, nofun⟩

theorem fits_capture {body : List Char} (noQuestion : body.head? ≠ some '?') :
    capture.Fits body :=
  ⟨isValid_capture, fun _ => noQuestion⟩

theorem Fits.precedes {opening : Opening} {body : List Char} (fits : opening.Fits body) :
    opening.Precedes (lex body ++ [.plain ')']) := by
  constructor
  · exact fits.1
  intro isCapture
  have noQuestion := fits.2 isCapture
  cases body using lex_induction with
  | nil => simp
  | dangling => simp
  | escape c rest => simp
  | plain c rest notBackslash => simpa [lex_plain notBackslash] using noQuestion

/-- A group is opened in one way and holds one text. -/
theorem Fits.mark_append_inj {first second : Opening} {firstBody secondBody : List Char}
    (firstFits : first.Fits firstBody) (secondFits : second.Fits secondBody)
    (equal : first.mark ++ firstBody = second.mark ++ secondBody) :
    first = second ∧ firstBody = secondBody := by
  have firstRead := read?_written firstFits.precedes
  have secondRead := read?_written secondFits.precedes
  have tokens := congrArg lex equal
  rw [firstFits.1.lex_mark, secondFits.1.lex_mark] at tokens
  rw [← List.append_assoc, tokens, List.append_assoc, secondRead] at firstRead
  simp only [Option.some.injEq, Prod.mk.injEq, List.append_cancel_right_eq] at firstRead
  obtain ⟨rfl, bodyTokens⟩ := firstRead
  rw [← flatMap_chars_lex firstBody, ← bodyTokens, flatMap_chars_lex]
  exact ⟨rfl, rfl⟩

/-! ## Reading in a longer text -/

theorem IsValid.closing_not_mem {opening : Opening} (valid : opening.IsValid) :
    .plain ')' ∉ opening.mark.map Token.plain := by
  intro member
  rcases List.mem_map.mp member with ⟨c, inMark, equal⟩
  cases equal
  cases valid.noDelimiter _ inMark

/-- The mark of a group that is closed is read in the same way whatever comes
after the group. -/
theorem read?_append {tail : List Token} (closed : .plain ')' ∈ tail) (rest : List Token) :
    read? (tail ++ rest) = (read? tail).map fun read => (read.1, read.2 ++ rest) := by
  apply Option.ext
  rintro ⟨opening, body⟩
  rw [read?_eq_some_iff, Option.map_eq_some_iff]
  constructor
  · rintro ⟨equal, valid, noQuestion⟩
    rcases List.append_eq_append_iff.mp equal with ⟨between, markEq, _⟩ | ⟨between, tailEq, rfl⟩
    · -- The mark would hold the closing parenthesis.
      have inMark : .plain ')' ∈ opening.mark.map Token.plain := by
        rw [markEq]
        exact List.mem_append_left between closed
      exact absurd inMark valid.closing_not_mem
    · have nonempty : between ≠ [] := by
        rintro rfl
        rw [tailEq, List.append_nil] at closed
        exact valid.closing_not_mem closed
      rw [List.head?_append_of_ne_nil _ nonempty] at noQuestion
      exact ⟨(opening, between), read?_eq_some_iff.mpr ⟨tailEq, valid, noQuestion⟩, rfl⟩
  · rintro ⟨⟨readOpening, before⟩, read, equal⟩
    cases equal
    obtain ⟨rfl, valid, noQuestion⟩ := read?_eq_some_iff.mp read
    have nonempty : before ≠ [] := by
      rintro rfl
      rw [List.append_nil] at closed
      exact valid.closing_not_mem closed
    rw [← List.head?_append_of_ne_nil _ nonempty] at noQuestion
    exact ⟨List.append_assoc _ _ _, valid, noQuestion⟩

end Opening

end PatternAlgebra
