import Mathlib.Data.List.Forall2
import Mathlib.Data.List.TakeWhile
import Mathlib.Data.Nat.Bitwise
import PatternAlgebra.Flags
import PatternAlgebra.Proofs.Text.Numeral

/-!
# Flags are read back

The text of a set of flags is read as the same set.  Between the bars each part
of the text is found again, and it is read as the bits for which it was
written; together these are all bits of the set, those with a meaning by the
names and the others by the number.
-/

namespace PatternAlgebra

namespace Text

/-! ## Trimming -/

theorem dropWhile_isBlank_of_forall {text : List Char} (noBlank : ∀ c ∈ text, isBlank c = false) :
    text.dropWhile isBlank = text := by
  cases text with
  | nil => rfl
  | cons c rest =>
      have notBlank : ¬ isBlank c = true := by simp [noBlank c List.mem_cons_self]
      exact List.dropWhile_cons_of_neg notBlank

theorem trim_of_forall {text : List Char} (noBlank : ∀ c ∈ text, isBlank c = false) :
    trim text = text := by
  have reversed : ∀ c ∈ text.reverse, isBlank c = false := by
    simpa only [List.mem_reverse] using noBlank
  rw [trim, dropWhile_isBlank_of_forall noBlank, dropWhile_isBlank_of_forall reversed,
    List.reverse_reverse]

theorem trim_cons {c : Char} (blank : isBlank c = true) (text : List Char) :
    trim (c :: text) = trim text := by
  rw [trim, List.dropWhile_cons_of_pos blank, trim]

theorem trim_concat {c : Char} (blank : isBlank c = true) (text : List Char) :
    trim (text ++ [c]) = trim text := by
  have last : [c].dropWhile isBlank = [] := by simp [blank]
  rw [trim, List.dropWhile_append, last, trim]
  split_ifs with empty
  · rw [List.isEmpty_iff.mp empty]
  · rw [List.reverse_concat, List.dropWhile_cons_of_pos blank]

theorem trim_ne_nil {text : List Char} {c : Char} (member : c ∈ text)
    (notBlank : isBlank c = false) : trim text ≠ [] := by
  intro empty
  rw [trim, List.reverse_eq_nil_iff, List.dropWhile_eq_nil_iff] at empty
  have blank : isBlank c = true := by
    rw [← List.takeWhile_append_dropWhile (p := isBlank) (l := text), List.mem_append] at member
    rcases member with inFront | behind
    · exact List.mem_takeWhile_imp inFront
    · exact empty c (List.mem_reverse.mpr behind)
  rw [notBlank] at blank
  cases blank

end Text

namespace Flags

open Text

/-! ## Parts -/

/-- The text can stand between two bars and keeps all its characters there. -/
def IsPart (part : List Char) : Prop :=
  part ≠ [] ∧ ∀ c ∈ part, c ≠ '|' ∧ isBlank c = false

theorem IsPart.not_mem_bar {part : List Char} (isPart : IsPart part) : '|' ∉ part :=
  fun member => (isPart.2 '|' member).1 rfl

theorem IsPart.trim_eq {part : List Char} (isPart : IsPart part) : trim part = part :=
  trim_of_forall fun c member => (isPart.2 c member).2

theorem splitAtBars_ne_nil (text : List Char) : splitAtBars text ≠ [] := by
  cases text with
  | nil => nofun
  | cons c rest =>
      rw [splitAtBars]
      split
      · nofun
      · split <;> nofun

theorem splitAtBars_cons {c : Char} (notBar : c ≠ '|') (text : List Char) :
    ∃ part parts, splitAtBars text = part :: parts ∧
      splitAtBars (c :: text) = (c :: part) :: parts := by
  obtain ⟨part, parts, split⟩ := List.exists_cons_of_ne_nil (splitAtBars_ne_nil text)
  refine ⟨part, parts, split, ?_⟩
  rw [splitAtBars, if_neg notBar, split]

theorem splitAtBars_of_not_mem {part : List Char} (noBar : '|' ∉ part) :
    splitAtBars part = [part] := by
  induction part with
  | nil => rfl
  | cons c rest inductionHypothesis =>
      rw [List.mem_cons, not_or] at noBar
      rw [splitAtBars, if_neg (Ne.symm noBar.1), inductionHypothesis noBar.2]

theorem splitAtBars_append_bar {part : List Char} (noBar : '|' ∉ part) (rest : List Char) :
    splitAtBars (part ++ '|' :: rest) = part :: splitAtBars rest := by
  induction part with
  | nil => rfl
  | cons c more inductionHypothesis =>
      rw [List.mem_cons, not_or] at noBar
      rw [List.cons_append, splitAtBars, if_neg (Ne.symm noBar.1), inductionHypothesis noBar.2]

/-- A blank at the start is taken off the first part again. -/
theorem map_trim_splitAtBars_cons {c : Char} (notBar : c ≠ '|') (blank : isBlank c = true)
    (text : List Char) :
    (splitAtBars (c :: text)).map trim = (splitAtBars text).map trim := by
  obtain ⟨part, parts, split, splitMore⟩ := splitAtBars_cons notBar text
  rw [split, splitMore, List.map_cons, List.map_cons, trim_cons blank]

/-- Parts that are joined by bars between blanks are found again. -/
theorem map_trim_splitAtBars {part : List Char} {parts : List (List Char)}
    (areParts : ∀ text ∈ part :: parts, IsPart text) :
    (splitAtBars ([' ', '|', ' '].intercalate (part :: parts))).map trim = part :: parts := by
  induction parts generalizing part with
  | nil =>
      have isPart := areParts part List.mem_cons_self
      rw [List.intercalate_singleton, splitAtBars_of_not_mem isPart.not_mem_bar, List.map_singleton,
        isPart.trim_eq]
  | cons next others inductionHypothesis =>
      rw [List.forall_mem_cons] at areParts
      have noBar : '|' ∉ part ++ [' '] := by simp [areParts.1.not_mem_bar]
      have joined : [' ', '|', ' '].intercalate (part :: next :: others) =
          (part ++ [' ']) ++ '|' :: ' ' :: [' ', '|', ' '].intercalate (next :: others) := by
        rw [List.intercalate_cons_cons]
        simp
      rw [joined, splitAtBars_append_bar noBar, List.map_cons, trim_concat rfl,
        areParts.1.trim_eq, map_trim_splitAtBars_cons (by decide) rfl,
        inductionHypothesis areParts.2]

/-- The bits of several sets together. -/
def union (sets : List UInt8) : UInt8 :=
  sets.foldr (· ||| ·) 0

/-- A list of parts is read part by part. -/
theorem readParts?_of_forall₂ {parts : List (List Char)} {sets : List UInt8}
    (read : List.Forall₂ (fun part bits => readPart? part = some bits) (parts.map trim) sets) :
    readParts? parts = some (union sets) := by
  induction parts generalizing sets with
  | nil =>
      cases read
      rfl
  | cons part rest inductionHypothesis =>
      cases read with
      | cons first others =>
          rw [readParts?, first, inductionHypothesis others]
          rfl

/-! ## Bits -/

theorem and_or_distrib (bits first second : UInt8) :
    bits &&& (first ||| second) = bits &&& first ||| bits &&& second := by
  rw [← UInt8.toBitVec_inj]
  exact BitVec.and_or_distrib_left

/-- A flag is one bit, so a set has all of it or nothing. -/
theorem and_bit_eq (flags : Flags) (flag : Flag) :
    flags.bits &&& flag.bit = if flags.has flag then flag.bit else 0 := by
  have isPower : ∃ place, flag.bit.toNat = 2 ^ place := by
    cases flag
    · exact ⟨0, rfl⟩
    · exact ⟨1, rfl⟩
    · exact ⟨2, rfl⟩
    · exact ⟨3, rfl⟩
  obtain ⟨place, power⟩ := isPower
  have masked : (flags.bits &&& flag.bit).toNat =
      (flags.bits.toNat.testBit place).toNat * flag.bit.toNat := by
    rw [UInt8.toNat_and, power, Nat.and_two_pow]
  cases tested : flags.bits.toNat.testBit place with
  | false =>
      have nothing : flags.bits &&& flag.bit = 0 := by
        rw [← UInt8.toNat_inj, masked, tested]
        simp
      have absent : flags.has flag = false := by simp [has, nothing]
      rw [nothing, absent, if_neg (by decide)]
  | true =>
      have whole : flags.bits &&& flag.bit = flag.bit := by
        rw [← UInt8.toNat_inj, masked, tested, Bool.toNat_true, Nat.one_mul]
      have present : flags.has flag = true := by
        rw [has, whole]
        cases flag <;> rfl
      rw [whole, present, if_pos rfl]

theorem union_append (first second : List UInt8) :
    union (first ++ second) = union first ||| union second := by
  induction first with
  | nil => exact UInt8.zero_or.symm
  | cons bits rest inductionHypothesis =>
      change bits ||| union (rest ++ second) = bits ||| union rest ||| union second
      rw [inductionHypothesis, UInt8.or_assoc]

/-- The members among some flags have the bits that the set shares with
them. -/
theorem union_filter_has (flags : Flags) (among : List Flag) :
    union ((among.filter flags.has).map Flag.bit) = flags.bits &&& union (among.map Flag.bit) := by
  induction among with
  | nil => exact UInt8.and_zero.symm
  | cons flag rest inductionHypothesis =>
      have split : flags.bits &&& union ((flag :: rest).map Flag.bit) =
          flags.bits &&& flag.bit ||| flags.bits &&& union (rest.map Flag.bit) :=
        and_or_distrib flags.bits flag.bit (union (rest.map Flag.bit))
      rw [split, and_bit_eq, ← inductionHypothesis]
      by_cases member : flags.has flag = true
      · rw [if_pos member, List.filter_cons_of_pos member]
        rfl
      · rw [if_neg member, List.filter_cons_of_neg member, UInt8.zero_or]

theorem union_members (flags : Flags) :
    union (flags.members.map Flag.bit) ||| flags.unknownBits = flags.bits := by
  have known : union (Flag.all.map Flag.bit) = 15 := rfl
  rw [members, union_filter_has, known, unknownBits, ← and_or_distrib]
  exact UInt8.and_neg_one

/-! ## The parts of a set -/

/-- The texts of the parts. -/
def partTexts (flags : Flags) : List String :=
  flags.members.map Flag.name ++
    if flags.unknownBits = 0 then [] else ["0x" ++ hexadecimal flags.unknownBits.toNat]

/-- The bits for which the parts stand. -/
def partBits (flags : Flags) : List UInt8 :=
  flags.members.map Flag.bit ++ if flags.unknownBits = 0 then [] else [flags.unknownBits]

theorem union_partBits (flags : Flags) : union flags.partBits = flags.bits := by
  rw [partBits, union_append]
  split_ifs with noRest
  · have all := union_members flags
    rwa [noRest] at all
  · have single : union [flags.unknownBits] = flags.unknownBits := UInt8.or_zero
    rw [single, union_members]

theorem isPart_of_all {part : List Char} (nonempty : part ≠ [])
    (all : (part.all fun c => c != '|' && !isBlank c) = true) : IsPart part := by
  constructor
  · exact nonempty
  · intro c member
    simpa using List.all_eq_true.mp all c member

theorem isPart_name (flag : Flag) : IsPart flag.name.toList := by
  cases flag <;> exact isPart_of_all (List.cons_ne_nil _ _) rfl

theorem readPart?_name (flag : Flag) : readPart? flag.name.toList = some flag.bit := by
  cases flag <;> rfl

theorem isBlank_of_hexDigit? {c : Char} {digit : Nat} (read : hexDigit? c = some digit) :
    isBlank c = false := by
  have visible : 48 ≤ c.toNat ∧ c.toNat ≤ 102 := by
    unfold hexDigit? at read
    split_ifs at read with decimal lower upper
    · exact ⟨decimal.1, Nat.le_trans decimal.2 (by decide)⟩
    · exact ⟨Nat.le_trans (by decide) lower.1, lower.2⟩
    · exact ⟨Nat.le_trans (by decide) upper.1, Nat.le_trans upper.2 (by decide)⟩
  simp [isBlank]
  omega

theorem isPart_hexadecimal (number : Nat) : IsPart ("0x" ++ hexadecimal number).toList := by
  have start : IsPart "0x".toList := isPart_of_all (List.cons_ne_nil _ _) rfl
  rw [String.toList_append]
  constructor
  · exact List.append_ne_nil_of_left_ne_nil start.1 _
  · rw [List.forall_mem_append]
    constructor
    · exact start.2
    · intro c member
      obtain ⟨digit, read⟩ := exists_digit_of_mem_hexadecimal number c member
      constructor
      · rintro rfl
        cases read
      · exact isBlank_of_hexDigit? read

theorem readPart?_hexadecimal (bits : UInt8) :
    readPart? ("0x" ++ hexadecimal bits.toNat).toList = some bits := by
  have noSign : (hexadecimal bits.toNat).toList.head? ≠ some '+' := by
    intro plus
    obtain ⟨digit, read⟩ :=
      exists_digit_of_mem_hexadecimal bits.toNat '+' (List.mem_of_head? plus)
    cases read
  rw [String.toList_append]
  change readBits? (hexadecimal bits.toNat).toList = some bits
  rw [readBits?, if_neg noSign, hexadecimal?_hexadecimal]
  simp [bits.toNat_lt]

theorem isPart_of_mem_partTexts {flags : Flags} {part : String}
    (member : part ∈ flags.partTexts) : IsPart part.toList := by
  rw [partTexts, List.mem_append] at member
  rcases member with named | numbered
  · obtain ⟨flag, _, rfl⟩ := List.mem_map.mp named
    exact isPart_name flag
  · split_ifs at numbered with noRest
    · cases numbered
    · rw [List.mem_singleton.mp numbered]
      exact isPart_hexadecimal _

theorem forall₂_partTexts (flags : Flags) :
    List.Forall₂ (fun part bits => readPart? part = some bits)
      (flags.partTexts.map String.toList) flags.partBits := by
  rw [partTexts, partBits, List.map_append]
  apply List.rel_append
  · rw [List.map_map, List.forall₂_map_left_iff, List.forall₂_map_right_iff, List.forall₂_same]
    intro flag _
    exact readPart?_name flag
  · split_ifs with noRest
    · exact .nil
    · exact .cons (readPart?_hexadecimal flags.unknownBits) .nil

/-- Parts that are joined by bars between blanks are read one by one. -/
theorem parse?_of_parts {text : String} {part : List Char} {parts : List (List Char)}
    {sets : List UInt8} (written : text.toList = [' ', '|', ' '].intercalate (part :: parts))
    (areParts : ∀ text ∈ part :: parts, IsPart text)
    (read : List.Forall₂ (fun part bits => readPart? part = some bits) (part :: parts) sets) :
    parse? text = some ⟨union sets⟩ := by
  have notBlank : (trim text.toList).isEmpty = false := by
    obtain ⟨nonempty, visible⟩ := areParts part List.mem_cons_self
    obtain ⟨first, rest, rfl⟩ := List.exists_cons_of_ne_nil nonempty
    have starts : first ∈ text.toList := by
      rw [written]
      cases parts <;> simp [List.intercalate]
    simpa using trim_ne_nil starts (visible first List.mem_cons_self).2
  rw [← map_trim_splitAtBars areParts, ← written] at read
  rw [parse?, notBlank, if_neg (by decide), readParts?_of_forall₂ read]
  rfl

/-- The text of a set is read as the set. -/
theorem parse?_render (flags : Flags) : parse? flags.render = some flags := by
  have written : flags.render.toList =
      [' ', '|', ' '].intercalate (flags.partTexts.map String.toList) :=
    String.toList_intercalate
  have read := forall₂_partTexts flags
  have areParts : ∀ text ∈ flags.partTexts.map String.toList, IsPart text := by
    rw [List.forall_mem_map]
    exact fun part member => isPart_of_mem_partTexts member
  have all : (⟨union flags.partBits⟩ : Flags) = flags := by rw [union_partBits]
  cases texts : flags.partTexts.map String.toList with
  | nil =>
      -- The empty set is written as the empty text.
      rw [texts] at written read
      rw [List.forall₂_nil_left_iff.mp read] at all
      rw [parse?, written, if_pos (by rfl), ← all]
      rfl
  | cons part parts =>
      rw [texts] at written areParts read
      rw [parse?_of_parts written areParts read, all]

end Flags

end PatternAlgebra
