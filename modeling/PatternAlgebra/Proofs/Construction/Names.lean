import Mathlib.Data.List.Nodup
import PatternAlgebra.Proofs.Construction.Clean
import PatternAlgebra.Proofs.Nesting.GroupNames

/-!
# Names of constructed patterns

A pattern keeps the names that were given to its groups beside its text.  From
raw texts that name no group every construction keeps exactly the names that
are in the text, each of them once.
-/

namespace PatternAlgebra

open Text

namespace Text

/-- These are the names that the text gives to its groups, and they are given
once. -/
structure Registers (names : List String) (text : List Char) : Prop where
  clean : Clean text
  namedWell : HasNamedWell text
  nodup : names.Nodup
  isName : ∀ name ∈ names, isGroupName name.toList = true
  perm : names.Perm (groupNames text)

variable {names otherNames : List String} {text other : List Char}

/-- A clean text that names no group. -/
def IsUnnamed (text : List Char) : Prop :=
  Clean text ∧ HasNoName text

instance (text : List Char) : Decidable (IsUnnamed text) :=
  inferInstanceAs (Decidable (Clean text ∧ HasNoName text))

/-- A clean text that names no group registers nothing. -/
theorem registers_nil (clean : Clean text) (noName : HasNoName text) : Registers [] text := by
  constructor
  · exact clean
  · exact noName.hasNamedWell
  · exact .nil
  · nofun
  · rw [noName.groupNames_eq_nil]

namespace Registers

theorem append (first : Registers names text) (second : Registers otherNames other)
    (disjoint : ∀ name ∈ names, name ∉ otherNames) :
    Registers (names ++ otherNames) (text ++ other) := by
  constructor
  · exact first.clean.append second.clean
  · exact first.namedWell.append first.clean.balanced second.namedWell
  · apply List.Nodup.append first.nodup second.nodup
    intro name inFirst inSecond
    exact disjoint name inFirst inSecond
  · rw [List.forall_mem_append]
    exact ⟨first.isName, second.isName⟩
  · rw [groupNames_append first.clean.balanced first.namedWell second.namedWell]
    exact first.perm.append second.perm

/-- A suffix without groups changes no name. -/
theorem append_suffix (registers : Registers names text) {suffix : List Char}
    (clean : Clean (text ++ suffix)) (noTails : groupTails suffix = []) :
    Registers names (text ++ suffix) := by
  have noName := hasNoName_of_groupTails_eq_nil noTails
  have balanced := registers.clean.balanced
  constructor
  · exact clean
  · exact registers.namedWell.append balanced noName.hasNamedWell
  · exact registers.nodup
  · exact registers.isName
  · rw [groupNames_append balanced registers.namedWell noName.hasNamedWell,
      noName.groupNames_eq_nil, List.append_nil]
    exact registers.perm

/-- A group without a name around the text changes no name. -/
theorem enclose (registers : Registers names text) {opening : Opening} (valid : opening.IsValid)
    (unnamed : opening.name? = none) : Registers names (opening.enclose text) := by
  have fits := registers.clean.fits valid
  have balanced := registers.clean.balanced
  constructor
  · exact registers.clean.enclose valid
  · exact (fits.hasNamedWell_enclose balanced).mpr registers.namedWell
  · exact registers.nodup
  · exact registers.isName
  · rw [fits.groupNames_enclose balanced registers.namedWell, unnamed]
    exact registers.perm

/-- A group with a new name adds the name. -/
theorem encloseNamed (registers : Registers names text) {name : String}
    (isName : isGroupName name.toList = true) (fresh : name ∉ names) :
    Registers (names ++ [name]) ((Opening.named name.toList).enclose text) := by
  have valid := Opening.isValid_named isName
  have fits := registers.clean.fits valid
  have balanced := registers.clean.balanced
  constructor
  · exact registers.clean.enclose valid
  · exact (fits.hasNamedWell_enclose balanced).mpr registers.namedWell
  · apply List.Nodup.append registers.nodup (List.nodup_singleton name)
    intro other inNames isLast
    rw [List.mem_singleton] at isLast
    subst isLast
    exact fresh inNames
  · rw [List.forall_mem_append, List.forall_mem_singleton]
    exact ⟨registers.isName, isName⟩
  · have nameEq : (Opening.named name.toList).name?.toList = [name] := by
      simp [Opening.name?]
    rw [fits.groupNames_enclose balanced registers.namedWell, nameEq]
    exact (List.perm_append_singleton name names).trans (registers.perm.cons name)

/-- What a plain or a capturing group holds has the names of the group. -/
theorem peels (names : List String) : Peels (Registers names) := by
  intro opening body bare fits balanced enclosed
  have unnamed : opening.name? = none := by rcases bare with rfl | rfl <;> rfl
  have namedWell := (fits.hasNamedWell_enclose balanced).mp enclosed.namedWell
  constructor
  · exact enclosed.clean.of_enclose balanced fits
  · exact namedWell
  · exact enclosed.nodup
  · exact enclosed.isName
  · have perm := enclosed.perm
    rwa [fits.groupNames_enclose balanced namedWell, unnamed] at perm

theorem atom (registers : Registers names text) : Registers names (Text.atom text) := by
  unfold Text.atom
  split_ifs
  · exact registers
  · exact ((peels names).core registers).enclose Opening.isValid_plain rfl

end Registers

theorem registers_of_groupTails_eq_nil (clean : Clean text) (noTails : groupTails text = []) :
    Registers [] text :=
  registers_nil clean (hasNoName_of_groupTails_eq_nil noTails)

end Text

theorem Constant.registers_text (constant : Constant) : Registers [] constant.text.toList := by
  apply registers_nil constant.clean_text
  cases constant <;> decide

/-! ## Names of results -/

namespace Pattern

/-- The names that the pattern keeps are those in its text. -/
def HasExactNames (pattern : Pattern) : Prop :=
  Registers pattern.names pattern.chars

theorem hasExactNames_literal {text : String} (registers : Registers [] text.toList) :
    (literal text).HasExactNames := by
  rwa [HasExactNames, chars_literal]

theorem hasExactNames_anyOf {items : List Operand} {set : Pattern}
    (result : anyOf items = .ok set) : set.HasExactNames := by
  obtain ⟨noNames, ⟨item, _, _, single, setChars⟩ | ⟨_, isClass⟩⟩ := anyOf_eq_ok result
  · rw [HasExactNames, noNames, setChars]
    exact registers_of_groupTails_eq_nil (clean_atomText single) (groupTails_atomText single)
  · rw [HasExactNames, noNames]
    exact registers_of_groupTails_eq_nil isClass.clean isClass.groupTails

end Pattern

/-- Every operation on one pattern keeps its names exact. -/
theorem Transform.Rewrites.registers {operation : Transform} {text after : List Char}
    {names afterNames : List String} (rewrites : operation.Rewrites text names after afterNames)
    (registers : Registers names text) : Registers afterNames after := by
  have clean := rewrites.clean registers.clean
  have core := (Registers.peels names).core registers
  cases rewrites with
  | toCaptureGroup => exact core.enclose Opening.isValid_capture rfl
  | toNonCaptureGroup => exact registers.atom
  | toNamedCaptureGroup isName fresh => exact core.encloseNamed isName fresh
  | toLookaround side => exact registers.enclose (Opening.isValid_look side) rfl
  | quantify _ ordered =>
      have suffix := Quantifier.isQuantifier_suffix ordered
      exact registers.atom.append_suffix clean
        (groupTails_of_noDelimiter suffix.isDelimiter_eq_false)
  | lazily =>
      exact registers.append_suffix clean
        (groupTails_of_noDelimiter IsQuantifier.optional.isDelimiter_eq_false)
  | append tail =>
      have both := registers.append tail.registers_text fun _ _ => List.not_mem_nil
      rwa [List.append_nil] at both

/-- Every call keeps all names exact. -/
theorem Call.hasExactNames_run {results : Results} {call : Call} {pattern : Pattern}
    (exact : results.All Pattern.HasExactNames)
    (raw : call.HasTexts IsUnnamed fun _ => True)
    (result : call.run results = .ok pattern) : pattern.HasExactNames := by
  have literal : ∀ text : String, IsUnnamed text.toList →
      (Pattern.literal text).HasExactNames := by
    intro text unnamed
    exact Pattern.hasExactNames_literal (registers_nil unnamed.1 unnamed.2)
  cases makes_of_run result with
  | empty => exact registers_of_groupTails_eq_nil clean_nil groupTails_nil
  | literal text => exact literal text raw
  | escaped text =>
      apply Pattern.hasExactNames_literal
      rw [String.toList_ofList]
      exact registers_of_groupTails_eq_nil (clean_escape _) (groupTails_escape_text _)
  | constant value => exact Pattern.hasExactNames_literal value.registers_text
  | operand found => exact exact.operand raw literal found
  | anyOf _ made => exact Pattern.hasExactNames_anyOf made
  | noneOf _ made =>
      obtain ⟨isClass, noNames⟩ := Pattern.noneOf_eq_ok made
      rw [Pattern.HasExactNames, noNames]
      exact registers_of_groupTails_eq_nil isClass.clean isClass.groupTails
  | transform found made => exact (Transform.rewrites_of_apply made).registers (exact.pattern found)
  | concatenate leftFound rightFound made =>
      have leftExact := exact.operand raw.1 literal leftFound
      have rightExact := exact.operand raw.2 literal rightFound
      obtain ⟨charsEq, namesEq, disjoint⟩ := Pattern.concat_eq_ok made
      rw [Pattern.HasExactNames, charsEq, namesEq]
      exact leftExact.append rightExact disjoint
  | alternate leftFound rightFound made =>
      have leftExact := exact.operand raw.1 literal leftFound
      have rightExact := exact.operand raw.2 literal rightFound
      obtain ⟨charsEq, namesEq, leftNames, rightNames⟩ := Pattern.alternate_eq_ok made
      unfold Pattern.HasExactNames at leftExact rightExact ⊢
      rw [leftNames] at leftExact
      rw [rightNames] at rightExact
      rw [charsEq, namesEq]
      have bar : Registers [] ['|'] :=
        registers_of_groupTails_eq_nil (by decide) (by decide)
      have leftArm := (Registers.peels []).arm leftExact
      have rightArm := (Registers.peels []).arm rightExact
      have arms := leftArm.append (bar.append rightArm nofun) nofun
      exact arms.enclose Opening.isValid_plain rfl

/-- From clean raw texts that name no group every construction produces
patterns that keep exactly the names in their texts: each is a name that a group
can have, no name is kept twice, and the scan of the text meets the same
names. -/
theorem names_perm_groupNames_of_produces {calls : List Call}
    (raw : ∀ call ∈ calls, call.HasTexts IsUnnamed fun _ => True)
    {call : Call} {pattern : Pattern} (produced : Produces calls call pattern) :
    pattern.names.Nodup ∧ (∀ name ∈ pattern.names, isGroupName name.toList = true) ∧
      pattern.names.Perm (groupNames pattern.chars) := by
  have allowed : ∀ earlier call, earlier ++ [call] <+: calls →
      call.HasTexts IsUnnamed fun _ => True := by
    intro earlier call isPrefix
    exact raw call (mem_of_isPrefix isPrefix)
  obtain ⟨results, exact, callRaw, result⟩ :=
    produced.exists_results (fun _ _ _ => Call.hasExactNames_run) allowed
  have registers := Call.hasExactNames_run exact callRaw result
  exact ⟨registers.nodup, registers.isName, registers.perm⟩

/-- A name around one text that follows a name around another. -/
theorem names_perm_groupNames_of_two_names :
    ∃ pattern,
      Produces [.literal "(?:a)", .transform (.toNamedCaptureGroup "x") 0,
        .transform (.toNamedCaptureGroup "y") 0, .concatenate (.result 2) (.result 1)]
        (.concatenate (.result 2) (.result 1)) pattern ∧
      pattern.names.Nodup ∧ (∀ name ∈ pattern.names, isGroupName name.toList = true) ∧
      pattern.names.Perm (groupNames pattern.chars) := by
  have produced : Produces [.literal "(?:a)", .transform (.toNamedCaptureGroup "x") 0,
      .transform (.toNamedCaptureGroup "y") 0, .concatenate (.result 2) (.result 1)]
      (.concatenate (.result 2) (.result 1)) _ :=
    ⟨[.literal "(?:a)", .transform (.toNamedCaptureGroup "x") 0,
      .transform (.toNamedCaptureGroup "y") 0], by decide, rfl⟩
  exact ⟨_, produced, names_perm_groupNames_of_produces (by decide) produced⟩

end PatternAlgebra
