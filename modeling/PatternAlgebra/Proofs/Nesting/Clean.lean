import PatternAlgebra.Proofs.Nesting.Opening

/-!
# Clean texts

A question mark at the start of a text, or directly after the opening of a
group, would become part of a mark once the text is enclosed or the opening is
taken off.  A clean text is balanced and has no such question mark.  Clean
texts are closed under concatenation and under enclosing in groups of all
sorts, and the inside of a group that is clean is clean.
-/

namespace PatternAlgebra

open Text

/-- The groups that a text opens, each with what stands after its mark. -/
def openings (text : List Char) : List (Opening × List Token) :=
  (groupTails text).filterMap Opening.read?

/-- An opening with more text behind it. -/
def extend (rest : List Token) (opened : Opening × List Token) : Opening × List Token :=
  (opened.1, opened.2 ++ rest)

theorem openings_of_groupTails_eq_nil {text : List Char} (noTails : groupTails text = []) :
    openings text = [] := by
  rw [openings, noTails, List.filterMap_nil]

/-- Text behind groups that are closed changes no opening. -/
theorem filterMap_read?_map_append {tails : List (List Token)}
    (closed : ∀ tail ∈ tails, .plain ')' ∈ tail) (rest : List Token) :
    (tails.map (· ++ rest)).filterMap Opening.read? =
      (tails.filterMap Opening.read?).map (extend rest) := by
  rw [List.filterMap_map, List.map_filterMap]
  apply List.filterMap_congr
  intro tail member
  exact Opening.read?_append (closed tail member) rest

theorem openings_append {first : List Char} (balanced : Balanced first) (second : List Char) :
    openings (first ++ second) =
      (openings first).map (extend (Token.lex second)) ++ openings second := by
  rw [openings, groupTails_append balanced, List.filterMap_append,
    filterMap_read?_map_append fun tail => closing_mem_of_mem_groupTails balanced]
  rfl

namespace Opening

theorem IsValid.groupTails_enclose {opening : Opening} (valid : opening.IsValid)
    {body : List Char} (balanced : Balanced body) :
    groupTails (opening.enclose body) =
      (opening.mark.map .plain ++ (Token.lex body ++ [.plain ')'])) ::
        (groupTails body).map (· ++ [.plain ')']) := by
  have noTails := groupTails_of_noDelimiter valid.noDelimiter
  rw [enclose, groupTails_parenthesized (valid.balanced_iff.mpr balanced), valid.lex_mark,
    groupTails_append (balanced_of_noDelimiter valid.noDelimiter), noTails, List.append_assoc]
  rfl

theorem Fits.openings_enclose {opening : Opening} {body : List Char} (fits : opening.Fits body)
    (balanced : Balanced body) :
    openings (opening.enclose body) =
      (opening, Token.lex body ++ [.plain ')']) :: (openings body).map (extend [.plain ')']) := by
  rw [openings, fits.1.groupTails_enclose balanced,
    List.filterMap_cons_some (read?_written fits.precedes),
    filterMap_read?_map_append fun tail => closing_mem_of_mem_groupTails balanced]
  rfl

end Opening

/-- The inside of a group is not over before the group is closed. -/
theorem inside_ne_nil_of_mem_openings {text : List Char} (balanced : Balanced text)
    {opened : Opening × List Token} (member : opened ∈ openings text) : opened.2 ≠ [] := by
  obtain ⟨tail, inTails, read⟩ := List.mem_filterMap.mp member
  obtain ⟨rfl, valid, _⟩ := Opening.read?_eq_some_iff.mp read
  have closed := closing_mem_of_mem_groupTails balanced inTails
  intro empty
  rw [empty, List.append_nil] at closed
  exact valid.closing_not_mem closed

/-- No group of the text has a question mark at the start of its inside. -/
def HasFreshGroups (text : List Char) : Prop :=
  ∀ opened ∈ openings text, opened.2.head? ≠ some (.plain '?')

instance (text : List Char) : Decidable (HasFreshGroups text) :=
  inferInstanceAs (Decidable (∀ opened ∈ openings text, opened.2.head? ≠ some (.plain '?')))

/-- A balanced text without a question mark at its start or at the start of
the inside of a group. -/
structure Clean (text : List Char) : Prop where
  balanced : Balanced text
  head?_ne : text.head? ≠ some '?'
  groups : HasFreshGroups text

instance (text : List Char) : Decidable (Clean text) :=
  decidable_of_iff (Balanced text ∧ text.head? ≠ some '?' ∧ HasFreshGroups text)
    ⟨fun all => ⟨all.1, all.2.1, all.2.2⟩, fun clean => ⟨clean.1, clean.2, clean.3⟩⟩

/-! ## Texts without groups -/

theorem hasFreshGroups_of_groupTails_eq_nil {text : List Char} (noTails : groupTails text = []) :
    HasFreshGroups text := by
  intro opened member
  rw [openings_of_groupTails_eq_nil noTails] at member
  cases member

theorem clean_of_groupTails_eq_nil {text : List Char} (balanced : Balanced text)
    (noQuestion : text.head? ≠ some '?') (noTails : groupTails text = []) : Clean text :=
  ⟨balanced, noQuestion, hasFreshGroups_of_groupTails_eq_nil noTails⟩

theorem clean_nil : Clean [] :=
  clean_of_groupTails_eq_nil balanced_nil (by simp) groupTails_nil

/-- One whole class is clean, whatever its members are. -/
theorem Text.IsClass.clean {text : List Char} (grammar : IsClass text) : Clean text := by
  have noQuestion : text.head? ≠ some '?' := by
    obtain ⟨lead, body, _, _, rfl⟩ := grammar
    simp
  exact clean_of_groupTails_eq_nil grammar.balanced noQuestion grammar.groupTails

/-! ## Putting texts together -/

theorem head?_extend {text : List Char} (balanced : Balanced text) {opened : Opening × List Token}
    (member : opened ∈ openings text) (rest : List Token) :
    (extend rest opened).2.head? = opened.2.head? :=
  List.head?_append_of_ne_nil _ (inside_ne_nil_of_mem_openings balanced member)

theorem HasFreshGroups.append {first second : List Char} (firstBalanced : Balanced first)
    (firstFresh : HasFreshGroups first) (secondFresh : HasFreshGroups second) :
    HasFreshGroups (first ++ second) := by
  intro opened member
  rw [openings_append firstBalanced, List.mem_append, List.mem_map] at member
  rcases member with ⟨before, beforeMember, rfl⟩ | member
  · rw [head?_extend firstBalanced beforeMember]
    exact firstFresh before beforeMember
  · exact secondFresh opened member

/-- What is put after a clean text may start with a question mark. -/
theorem Clean.append_suffix {text suffix : List Char} (clean : Clean text) (nonempty : text ≠ [])
    (suffixBalanced : Balanced suffix) (suffixFresh : HasFreshGroups suffix) :
    Clean (text ++ suffix) := by
  constructor
  · exact clean.balanced.append suffixBalanced
  · rw [List.head?_append_of_ne_nil _ nonempty]
    exact clean.head?_ne
  · exact clean.groups.append clean.balanced suffixFresh

theorem Clean.append {first second : List Char} (firstClean : Clean first)
    (secondClean : Clean second) : Clean (first ++ second) := by
  by_cases empty : first = []
  · subst empty
    exact secondClean
  · exact firstClean.append_suffix empty secondClean.balanced secondClean.groups

theorem Clean.fits {body : List Char} (clean : Clean body) {opening : Opening}
    (valid : opening.IsValid) : opening.Fits body :=
  ⟨valid, fun _ => clean.head?_ne⟩

/-- A group around a clean text is clean. -/
theorem Clean.enclose {body : List Char} (clean : Clean body) {opening : Opening}
    (valid : opening.IsValid) : Clean (opening.enclose body) := by
  constructor
  · exact valid.balanced_enclose clean.balanced
  · simp [Opening.enclose, parenthesized]
  · intro opened member
    rw [(clean.fits valid).openings_enclose clean.balanced] at member
    rcases List.mem_cons.mp member with rfl | member
    · exact (Opening.fits_capture clean.head?_ne).precedes.2 rfl
    · obtain ⟨before, beforeMember, rfl⟩ := List.mem_map.mp member
      rw [head?_extend clean.balanced beforeMember]
      exact clean.groups before beforeMember

/-- The inside of a clean group is clean. -/
theorem Clean.of_enclose {opening : Opening} {body : List Char}
    (clean : Clean (opening.enclose body)) (balanced : Balanced body)
    (fits : opening.Fits body) : Clean body := by
  have opened := fits.openings_enclose balanced
  constructor
  · exact balanced
  · intro question
    obtain ⟨rest, rfl⟩ := List.head?_eq_some_iff.mp question
    have noQuestion := clean.groups (opening, _) (opened ▸ List.mem_cons_self)
    rw [Token.lex_plain (by decide)] at noQuestion
    exact noQuestion rfl
  · intro before member
    rw [← head?_extend balanced member [.plain ')']]
    exact clean.groups _ (opened ▸ List.mem_cons_of_mem _ (List.mem_map_of_mem member))

end PatternAlgebra
