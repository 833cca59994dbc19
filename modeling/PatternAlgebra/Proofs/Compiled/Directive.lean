import PatternAlgebra.Proofs.Compiled.Engines

/-!
# Flags as a directive

The backtracking engine takes the flags as a directive in front of the text.  It
carries the flags that have a meaning and no other bits.  Where bits are set but
none of them has a meaning, the directive is not left out, though it has no
letters.
-/

namespace PatternAlgebra

namespace Flags

variable {flags first second : Flags}

/-- Some bits are set, but none that has a meaning. -/
def IsMeaningless (flags : Flags) : Prop :=
  flags.known = none ∧ flags ≠ none

instance (flags : Flags) : Decidable flags.IsMeaningless :=
  inferInstanceAs (Decidable (_ ∧ _))

theorem has_known (flags : Flags) : flags.known.has = flags.has := by
  funext flag
  cases flag <;> simp only [has, known, UInt8.and_assoc] <;> rfl

theorem has_eq_of_known_eq (same : first.known = second.known) : first.has = second.has := by
  rw [← has_known first, same, has_known]

theorem members_eq_of_known_eq (same : first.known = second.known) :
    first.members = second.members := by
  rw [members, has_eq_of_known_eq same, members]

theorem ofFlags_eq_of_known_eq (same : first.known = second.known) :
    Modes.ofFlags first = Modes.ofFlags second := by
  rw [Modes.ofFlags, has_eq_of_known_eq same, Modes.ofFlags]

theorem directive_of_ne_none (some : flags ≠ none) :
    flags.directive = "(?" ++ String.ofList (flags.members.map Flag.letter) ++ ")" :=
  if_neg fun unset => some (congrArg Flags.mk unset)

/-- The directive of bits without a meaning has no letters. -/
theorem directive_of_isMeaningless (meaningless : flags.IsMeaningless) :
    flags.directive = "(?)" := by
  have members : flags.members = none.members := members_eq_of_known_eq meaningless.1
  rw [directive_of_ne_none meaningless.2, members]
  rfl

theorem directive_eq_of_known_eq (same : first.known = second.known)
    (alike : first.IsMeaningless ↔ second.IsMeaningless) : first.directive = second.directive := by
  by_cases meaningless : first.IsMeaningless
  · rw [directive_of_isMeaningless meaningless, directive_of_isMeaningless (alike.mp meaningless)]
  have others : ¬ second.IsMeaningless := fun set => meaningless (alike.mpr set)
  -- Apart from meaningless bits, a set is empty if its known part is.
  have empty_iff {flags : Flags} (known : ¬ flags.IsMeaningless) :
      flags.known = none ↔ flags = none :=
    ⟨fun unset => Classical.not_not.mp fun some => known ⟨unset, some⟩, fun empty => by
      rw [empty]
      rfl⟩
  by_cases unset : first.known = none
  · rw [(empty_iff meaningless).mp unset, (empty_iff others).mp (same.symm.trans unset)]
  · rw [directive_of_ne_none fun none => unset ((empty_iff meaningless).mpr none),
      directive_of_ne_none fun none => unset (same.trans ((empty_iff others).mpr none)),
      members_eq_of_known_eq same]

/-- A set without members has no bit with a meaning. -/
theorem known_eq_none_of_members (noMember : flags.members = []) : flags.known = none := by
  have unset : ∀ flag : Flag, flags.bits &&& flag.bit = 0 := by
    intro flag
    have isFlag : flag ∈ Flag.all := by cases flag <;> decide
    simpa [has] using List.filter_eq_nil_iff.mp noMember flag isFlag
  have meant : (15 : UInt8) = Flag.bit .caseInsensitive ||| Flag.bit .multiLine |||
      Flag.bit .dotMatchesNewLine ||| Flag.bit .ignoreWhitespace := rfl
  have distributes (a b c : UInt8) : a &&& (b ||| c) = a &&& b ||| a &&& c :=
    UInt8.toBitVec_inj.mp BitVec.and_or_distrib_left
  rw [known, none, meant]
  simp only [distributes, unset, UInt8.or_self]

/-- Switching the members on puts the flags of the set in force. -/
theorem edit_members (flags : Flags) :
    Modes.plain.edit (flags.members.map (·, true)) = Modes.ofFlags flags := by
  rw [members, Modes.ofFlags]
  cases caseInsensitive : flags.has .caseInsensitive <;> cases multiLine : flags.has .multiLine <;>
    cases dotAll : flags.has .dotMatchesNewLine <;> cases verbose : flags.has .ignoreWhitespace <;>
    simp [Flag.all, caseInsensitive, multiLine, dotAll, verbose, Modes.edit, Modes.set, Modes.plain]

end Flags

/-! ## What is read after a directive -/

variable {readers : Dialect → Reader} {options : Options} {text : List Char}

/-- After a directive without letters nothing is read. -/
theorem reading?_of_isMeaningless (directives : (readers .backtracking).ReadsDirectives)
    (meaningless : options.flags.IsMeaningless) :
    reading? readers options .backtracking text = none := by
  rw [reading?, Flags.directive_of_isMeaningless meaningless]
  exact directives.empty

/-- After the directive a text is read under the flags. -/
theorem reading?_backtracking (directives : (readers .backtracking).ReadsDirectives)
    (meaningful : ¬ options.flags.IsMeaningless)
    (noBrace : options.flags ≠ .none →
      ¬ (readers .backtracking).BeginsWithBrace (.ofFlags options.flags) text) :
    reading? readers options .backtracking text =
      (readers .backtracking).read (.ofFlags options.flags) 0 text := by
  rw [reading?]
  by_cases unset : options.flags = .none
  · rw [unset]
    rfl
  have someMember : options.flags.members ≠ [] := fun noMember =>
    meaningful ⟨Flags.known_eq_none_of_members noMember, unset⟩
  rw [← Flags.edit_members] at noBrace
  have distinct : options.flags.members.Nodup := .filter _ (by decide)
  rw [← Flags.edit_members, ← directives.directive someMember distinct (noBrace unset),
    Flags.directive_of_ne_none unset]
  simp

end PatternAlgebra
