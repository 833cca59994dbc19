import PatternAlgebra.Proofs.Nesting.Clean

/-!
# Names that a text gives to its groups

A scan from left to right meets the names of a text at the parentheses that it
opens.  The names are those of the whole once the text is put together from
parts, because a name is read to its end before its group is closed.
-/

namespace PatternAlgebra

open Text

namespace Text

open Token

/-- What stands after a parenthesis starts to name its group, unless it is the
mark of a lookbehind. -/
def opensName (tail : List Token) : Bool :=
  tail.take 2 == [.plain '?', .plain '<'] &&
    tail[2]? != some (.plain '=') && tail[2]? != some (.plain '!')

/-- The name that a group gets by what stands after its parenthesis. -/
def groupName? (tail : List Token) : Option String :=
  if opensName tail then
    (Opening.readName (tail.drop 2)).map fun read => String.ofList read.1
  else none

/-- The names that a scan of the text from left to right meets. -/
def groupNames (text : List Char) : List String :=
  (groupTails text).filterMap groupName?

/-- What starts to name a group here is a name that a group can have. -/
def IsNamedWell (tail : List Token) : Prop :=
  opensName tail = true → ∃ name body, Opening.read? tail = some (.named name, body)

/-- What the text starts to name it names well. -/
def HasNamedWell (text : List Char) : Prop :=
  ∀ tail ∈ groupTails text, IsNamedWell tail

/-- No group of the text has a name. -/
def HasNoName (text : List Char) : Prop :=
  ∀ tail ∈ groupTails text, opensName tail = false

instance (text : List Char) : Decidable (HasNoName text) :=
  inferInstanceAs (Decidable (∀ tail ∈ groupTails text, opensName tail = false))

/-! ## Single openings -/

theorem opensName_append {tail : List Token} (closed : .plain ')' ∈ tail) (rest : List Token) :
    opensName (tail ++ rest) = opensName tail := by
  rcases tail with _ | ⟨first, _ | ⟨second, _ | ⟨third, after⟩⟩⟩
  · cases closed
  · rw [List.mem_singleton] at closed
    subst closed
    rfl
  · rcases List.mem_cons.mp closed with rfl | closed
    · rfl
    · rw [List.mem_singleton] at closed
      subst closed
      have notAngle : (plain ')' == plain '<') = false := rfl
      simp [opensName, notAngle]
  · simp [opensName]

theorem opensName_iff {tail : List Token} :
    opensName tail = true ↔ ∃ rest, tail = .plain '?' :: .plain '<' :: rest ∧
      rest.head? ≠ some (.plain '=') ∧ rest.head? ≠ some (.plain '!') := by
  rcases tail with _ | ⟨first, _ | ⟨second, rest⟩⟩
  · simp [opensName]
  · simp [opensName]
  · simp [opensName, and_assoc, List.head?_eq_getElem?]

/-- A valid name opens as one. -/
theorem opensName_of_read? {tail body : List Token} {name : List Char}
    (read : Opening.read? tail = some (.named name, body)) : opensName tail = true := by
  obtain ⟨rfl, valid, _⟩ := Opening.read?_eq_some_iff.mp read
  have isName : isGroupName name = true := valid
  cases name with
  | nil => cases isName
  | cons first rest =>
      have noEquals : '=' ∉ first :: rest := Opening.not_mem_of_isGroupName isName (by decide)
      have noBang : '!' ∉ first :: rest := Opening.not_mem_of_isGroupName isName (by decide)
      rw [List.mem_cons, not_or] at noEquals noBang
      rw [opensName_iff]
      exact ⟨_, rfl, by simpa using Ne.symm noEquals.1, by simpa using Ne.symm noBang.1⟩

theorem exists_name_of_opensName {tail body : List Token} {opening : Opening}
    (opens : opensName tail = true) (read : Opening.read? tail = some (opening, body)) :
    ∃ name, opening = .named name := by
  obtain ⟨rfl, _, noQuestion⟩ := Opening.read?_eq_some_iff.mp read
  obtain ⟨rest, tailEq, noEquals, noBang⟩ := opensName_iff.mp opens
  cases opening with
  | capture =>
      rw [Opening.mark, List.map_nil, List.nil_append] at tailEq
      rw [tailEq] at noQuestion
      exact absurd rfl (noQuestion rfl)
  | plain => cases tailEq
  | look side => cases side <;> cases tailEq <;> simp at noEquals noBang
  | named name => exact ⟨name, rfl⟩

theorem groupName?_of_read? {tail body : List Token} {name : List Char}
    (read : Opening.read? tail = some (.named name, body)) :
    groupName? tail = some (String.ofList name) := by
  have opens := opensName_of_read? read
  obtain ⟨rfl, valid, _⟩ := Opening.read?_eq_some_iff.mp read
  have noAngle : '>' ∉ name := Opening.not_mem_of_isGroupName valid (by decide)
  have written : ((Opening.named name).mark.map Token.plain ++ body).drop 2 =
      name.map .plain ++ .plain '>' :: body := by
    simp [Opening.mark]
  rw [groupName?, if_pos opens, written, Opening.readName_written noAngle]
  rfl

end Text

/-- The name of an opening, if it has one. -/
def Opening.name? : Opening → Option String
  | named name => some (String.ofList name)
  | _ => none

namespace Text

/-- A name that is good is found by reading the opening. -/
theorem groupName?_eq {tail : List Token} (namedWell : IsNamedWell tail) :
    groupName? tail = (Opening.read? tail).bind fun opened => opened.1.name? := by
  cases opens : opensName tail with
  | true =>
      obtain ⟨name, body, read⟩ := namedWell opens
      rw [groupName?_of_read? read, read]
      rfl
  | false =>
      rw [groupName?, opens, if_neg (by decide)]
      cases read : Opening.read? tail with
      | none => rfl
      | some opened =>
          obtain ⟨opening, body⟩ := opened
          cases opening with
          | named name =>
              rw [opensName_of_read? read] at opens
              cases opens
          | _ => rfl

theorem isNamedWell_append {tail : List Token} (closed : .plain ')' ∈ tail) {rest : List Token} :
    IsNamedWell (tail ++ rest) ↔ IsNamedWell tail := by
  have same : (∃ name body, Opening.read? (tail ++ rest) = some (.named name, body)) ↔
      ∃ name body, Opening.read? tail = some (.named name, body) := by
    rw [Opening.read?_append closed]
    rcases Opening.read? tail with _ | ⟨opening, body⟩
    · simp
    · simp
  rw [IsNamedWell, IsNamedWell, opensName_append closed, same]

theorem isNamedWell_of_opensName_eq_false {tail : List Token} (silent : opensName tail = false) :
    IsNamedWell tail := by
  intro opens
  rw [silent] at opens
  cases opens

/-! ## Names of whole texts -/

/-- The names that the openings of the text have. -/
theorem groupNames_eq {text : List Char} (namedWell : HasNamedWell text) :
    groupNames text = (openings text).filterMap fun opened => opened.1.name? := by
  rw [groupNames, openings, List.filterMap_filterMap]
  apply List.filterMap_congr
  intro tail member
  exact groupName?_eq (namedWell tail member)

theorem HasNoName.hasNamedWell {text : List Char} (noName : HasNoName text) :
    HasNamedWell text := by
  intro tail member
  exact isNamedWell_of_opensName_eq_false (noName tail member)

theorem HasNoName.groupNames_eq_nil {text : List Char} (noName : HasNoName text) :
    groupNames text = [] := by
  rw [groupNames, List.filterMap_eq_nil_iff]
  intro tail member
  rw [groupName?, noName tail member, if_neg (by decide)]

theorem hasNoName_of_groupTails_eq_nil {text : List Char} (noTails : groupTails text = []) :
    HasNoName text := by
  intro tail member
  rw [noTails] at member
  cases member

/-! ## Putting texts together -/

theorem HasNamedWell.append {first second : List Char} (balanced : Balanced first)
    (firstWell : HasNamedWell first) (secondWell : HasNamedWell second) :
    HasNamedWell (first ++ second) := by
  intro tail member
  rw [groupTails_append balanced, List.mem_append, List.mem_map] at member
  rcases member with ⟨before, beforeMember, rfl⟩ | member
  · have closed := closing_mem_of_mem_groupTails balanced beforeMember
    exact (isNamedWell_append closed).mpr (firstWell before beforeMember)
  · exact secondWell tail member

theorem filterMap_name?_map_extend (opened : List (Opening × List Token)) (rest : List Token) :
    ((opened.map (extend rest)).filterMap fun opened => opened.1.name?) =
      opened.filterMap fun opened => opened.1.name? := by
  rw [List.filterMap_map]
  rfl

theorem groupNames_append {first second : List Char} (balanced : Balanced first)
    (firstWell : HasNamedWell first) (secondWell : HasNamedWell second) :
    groupNames (first ++ second) = groupNames first ++ groupNames second := by
  rw [groupNames_eq (firstWell.append balanced secondWell), groupNames_eq firstWell,
    groupNames_eq secondWell, openings_append balanced, List.filterMap_append,
    filterMap_name?_map_extend]

end Text

namespace Opening

variable {opening : Opening} {body : List Char}

/-- A group is named well if what it holds is. -/
theorem Fits.hasNamedWell_enclose (fits : opening.Fits body) (balanced : Balanced body) :
    HasNamedWell (opening.enclose body) ↔ HasNamedWell body := by
  have outer : IsNamedWell (opening.mark.map .plain ++ (Token.lex body ++ [.plain ')'])) := by
    intro opens
    have read := read?_written fits.precedes
    obtain ⟨name, rfl⟩ := exists_name_of_opensName opens read
    exact ⟨name, _, read⟩
  rw [HasNamedWell, fits.1.groupTails_enclose balanced, List.forall_mem_cons, List.forall_mem_map]
  constructor
  · intro all tail member
    have closed := closing_mem_of_mem_groupTails balanced member
    exact (isNamedWell_append closed).mp (all.2 tail member)
  · intro namedWell
    constructor
    · exact outer
    · intro tail member
      have closed := closing_mem_of_mem_groupTails balanced member
      exact (isNamedWell_append closed).mpr (namedWell tail member)

theorem Fits.groupNames_enclose (fits : opening.Fits body) (balanced : Balanced body)
    (namedWell : HasNamedWell body) :
    groupNames (opening.enclose body) = opening.name?.toList ++ groupNames body := by
  rw [groupNames_eq ((fits.hasNamedWell_enclose balanced).mpr namedWell), groupNames_eq namedWell,
    fits.openings_enclose balanced, List.filterMap_cons, filterMap_name?_map_extend]
  cases opening.name? <;> rfl

end Opening

end PatternAlgebra
