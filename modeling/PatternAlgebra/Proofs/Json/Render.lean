import PatternAlgebra.Proofs.Json.Reading
import PatternAlgebra.Proofs.Text.Numeral

/-!
# Compact texts

The compact text of a value is one of the texts that spell it, so the reader
gives the value back.  Of a number that is more than digits a value keeps the
literal, which has to be one of the grammar.
-/

namespace PatternAlgebra.Json

open Text

/-! ## Literals -/

/-- A character below the surrogates is written by its code point. -/
theorem spellsUnit_hexadecimal {zeros : List Char} {c : Char}
    (zero : readDigits 16 hexDigit? 0 zeros = some 0)
    (four : (zeros ++ Nat.toDigits 16 c.toNat).length = 4) (small : c.toNat < 0xD800) :
    SpellsUnit (.char c) ('\\' :: 'u' :: (zeros ++ Nat.toDigits 16 c.toNat)) := by
  apply SpellsUnit.hexadecimal four
  have nonempty : (zeros ++ Nat.toDigits 16 c.toNat).isEmpty = false := by
    simp [Nat.toDigits_ne_nil]
  have read : hexadecimal? (zeros ++ Nat.toDigits 16 c.toNat) = some c.toNat := by
    rw [hexadecimal?, nonempty, if_neg (by decide), readDigits_append, zero, Option.bind_some]
    exact readDigits_hexadecimal c.toNat
  have notSurrogate : ¬ (0xD800 ≤ c.toNat ∧ c.toNat < 0xE000) := by omega
  simp [hexUnit?, read, notSurrogate]

theorem spellsUnit_escapedChar (c : Char) : SpellsUnit (.char c) (escapedChar c).toList := by
  have ofCode {code : Nat} (same : c.toNat = code) : c = Char.ofNat code := by
    rw [← same, Char.ofNat_toNat]
  unfold escapedChar
  split_ifs with quote backslash newline carriage tab backspace feed oneDigit twoDigits
  · subst quote
    exact .letter rfl
  · subst backslash
    exact .letter rfl
  · subst newline
    exact .letter rfl
  · subst carriage
    exact .letter rfl
  · subst tab
    exact .letter rfl
  · obtain rfl := ofCode backspace
    exact .letter rfl
  · obtain rfl := ofCode feed
    exact .letter rfl
  · have digits : (['0', '0', '0'] ++ Nat.toDigits 16 c.toNat).length = 4 := by
      rw [Nat.toDigits_of_lt_base oneDigit]
      rfl
    simpa [hexadecimal] using spellsUnit_hexadecimal rfl digits (by omega)
  · have digits : (['0', '0'] ++ Nat.toDigits 16 c.toNat).length = 4 := by
      rw [Nat.toDigits_of_base_le (by decide) (by omega), Nat.toDigits_of_lt_base (by omega)]
      rfl
    simpa [hexadecimal] using spellsUnit_hexadecimal rfl digits (by omega)
  · simpa using SpellsUnit.plain (Nat.not_lt.mp twoDigits) quote backslash

theorem spellsUnits_escaped (text : List Char) :
    SpellsUnits (text.map .char) (text.flatMap fun c => (escapedChar c).toList) := by
  induction text with
  | nil => exact .nil
  | cons c rest inductionHypothesis =>
      rw [List.map_cons, List.flatMap_cons]
      exact .cons (spellsUnit_escapedChar c) inductionHypothesis

theorem joinUnits_map_char (text : List Char) : joinUnits (text.map .char) = some text := by
  induction text with
  | nil => rfl
  | cons c rest inductionHypothesis =>
      rw [List.map_cons, joinUnits, inductionHypothesis]
      rfl

theorem spellsLiteral_literal (text : String) :
    SpellsLiteral (some text) (literal text).toList := by
  have spells := SpellsLiteral.quoted (spellsUnits_escaped text.toList)
  rw [joinUnits_map_char, Option.map_some, String.ofList_toList] at spells
  have written : (literal text).toList =
      '"' :: ((text.toList.flatMap fun c => (escapedChar c).toList) ++ ['"']) := by
    simp [literal, List.flatMap, Function.comp_def]
  rw [written]
  exact spells

/-! ## Values -/

theorem isInteger_toDigits (number : Nat) : IsInteger (Nat.toDigits 10 number) := by
  rcases Nat.eq_zero_or_pos number with rfl | positive
  · exact .zero
  · apply IsInteger.digits
    · constructor
      · exact Nat.toDigits_ne_nil
      · intro c member
        exact Nat.isDigit_of_mem_toDigits (by decide) (by decide) member
    · exact head?_toDigits_ne positive

theorem spells_natural (value : Nat) : Spells (.value (natural value)) (decimal value).toList := by
  have read := decimal?_decimal value
  rw [decimal, String.toList_ofList] at read ⊢
  exact .natural (isInteger_toDigits value) read

/-- An entry whose key has a text. -/
def named (entry : String × Json) : Option String × Json :=
  (some entry.1, entry.2)

theorem ofEntries_named (entries : List (String × Json)) :
    ofEntries (entries.map named).reverse = object entries := by
  have complete : ((entries.map named).mapM fun entry => entry.1.map fun key => (key, entry.2)) =
      some entries := by
    induction entries with
    | nil => rfl
    | cons entry rest inductionHypothesis =>
        rw [List.map_cons, List.mapM_cons, inductionHypothesis]
        rfl
  rw [ofEntries, List.reverse_reverse, complete]

theorem spells_renderItems {items : List Json} (nonempty : items ≠ [])
    (spells : ∀ item ∈ items, Spells (.value item) item.render.toList) :
    Spells (.items items) (renderItems items).toList := by
  induction items with
  | nil => exact absurd rfl nonempty
  | cons item rest inductionHypothesis =>
      rw [List.forall_mem_cons] at spells
      cases rest with
      | nil => exact .item spells.1
      | cons next others =>
          have more := inductionHypothesis (List.cons_ne_nil next others) spells.2
          rw [renderItems, String.toList_append, String.toList_append, List.append_assoc]
          · exact .moreItems spells.1 more
          · nofun

theorem spells_renderEntries {entries : List (String × Json)} (nonempty : entries ≠ [])
    (spells : ∀ entry ∈ entries, Spells (.value entry.2) entry.2.render.toList) :
    Spells (.entries (entries.map named)) (renderEntries entries).toList := by
  have noSpace : IsSpace [] := nofun
  induction entries with
  | nil => exact absurd rfl nonempty
  | cons entry rest inductionHypothesis =>
      obtain ⟨key, value⟩ := entry
      rw [List.forall_mem_cons] at spells
      cases rest with
      | nil =>
          have single := Spells.entry noSpace (spellsLiteral_literal key) noSpace spells.1
          simpa [renderEntries, named] using single
      | cons next others =>
          have more := inductionHypothesis (List.cons_ne_nil next others) spells.2
          have several := Spells.moreEntries noSpace (spellsLiteral_literal key) noSpace spells.1
            more
          simpa [renderEntries, named] using several

/-- The value holds no number whose literal is not one of the grammar. -/
inductive IsWritable : Json → Prop where
  | null : IsWritable null
  | bool (value : Bool) : IsWritable (bool value)
  | natural (value : Nat) : IsWritable (natural value)
  | number {literal : String} : Spells (.value (number literal)) literal.toList →
      IsWritable (number literal)
  | string (value : String) : IsWritable (string value)
  | unpaired : IsWritable unpaired
  | array {items : List Json} : (∀ item ∈ items, IsWritable item) → IsWritable (array items)
  | object {entries : List (String × Json)} : (∀ entry ∈ entries, IsWritable entry.2) →
      IsWritable (object entries)

theorem spells_unpaired : Spells (.value unpaired) unpaired.render.toList := by
  have half : SpellsUnit (.surrogate 0xD800) ['\\', 'u', 'd', '8', '0', '0'] :=
    .hexadecimal rfl rfl
  exact .unpaired (.quoted (.cons half .nil))

theorem IsWritable.spells {value : Json} (writable : value.IsWritable) :
    Spells (.value value) value.render.toList := by
  have noSpace : IsSpace [] := nofun
  induction writable with
  | null => exact .null
  | bool value =>
      cases value with
      | true => exact .trueWord
      | false => exact .falseWord
  | natural value => exact spells_natural value
  | number spells => exact spells
  | string value => exact .string (spellsLiteral_literal value)
  | unpaired => exact spells_unpaired
  | @array items _ inductionHypothesis =>
      by_cases empty : items = []
      · subst empty
        exact .emptyArray noSpace
      · have whole := Spells.array (spells_renderItems empty inductionHypothesis)
        simpa [render] using whole
  | @object entries _ inductionHypothesis =>
      by_cases empty : entries = []
      · subst empty
        exact .emptyObject noSpace
      · have whole := Spells.object (spells_renderEntries empty inductionHypothesis)
        rw [ofEntries_named] at whole
        simpa [render] using whole

/-- What is written compactly is read again. -/
theorem parse?_render {value : Json} (writable : value.IsWritable) :
    parse? value.render = some value :=
  parse?_of_spells writable.spells

end PatternAlgebra.Json
