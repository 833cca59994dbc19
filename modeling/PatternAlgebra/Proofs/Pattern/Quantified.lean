import PatternAlgebra.Pattern.Quantified
import PatternAlgebra.Proofs.Pattern.Grouping
import PatternAlgebra.Proofs.Repetition.Quantifier

/-!
# What quantifiers repeat

A quantifier looks for a suffix at the end of the text, then at its bounds,
then for a lookaround and a named group around the whole text, and refuses the
text for the first of them that it finds.  Otherwise its suffix is put behind
a single item, so that it repeats all of the text.
-/

namespace PatternAlgebra

open Text

namespace Text

/-- A text and the item that stands for it in front of a suffix. -/
inductive BindsAs : List Char → List Char → Prop where
  | character (c : Char) : BindsAs [c] [c]
  | escape (c : Char) : BindsAs ['\\', c] ['\\', c]
  | charClass {text : List Char} : IsClass text → BindsAs text text
  | plain {body : List Char} : Balanced body →
      BindsAs (Opening.plain.enclose body) (Opening.plain.enclose body)
  | capture {body : List Char} : Balanced body → body.head? ≠ some '?' →
      BindsAs (Opening.capture.enclose body) (Opening.plain.enclose body)
  | other {text : List Char} :
      (∀ shape ∈ [Shape.singleChar, .charClass, .nonCaptureGroup, .captureGroup],
        ¬ shape.Covers text) →
      BindsAs text (Opening.plain.enclose text)

theorem atom_eq_self {text : List Char} (isAtom : (Shape.ofChars text).isAtom = true) :
    atom text = text := by
  rw [atom, if_pos isAtom]

theorem atom_eq_enclose {text : List Char} (notAtom : (Shape.ofChars text).isAtom = false) :
    atom text = Opening.plain.enclose (core text) := by
  rw [atom, notAtom]
  rfl

/-- Texts of the other shapes are enclosed as they are. -/
theorem bindsAs_enclose {text : List Char}
    (otherwise : Shape.ofChars text ∉
      [Shape.singleChar, .charClass, .nonCaptureGroup, .captureGroup]) :
    BindsAs text (atom text) := by
  have notAtom : (Shape.ofChars text).isAtom = false := by
    cases shape : Shape.ofChars text <;> simp_all [Shape.isAtom]
  have itself : core text = text :=
    core_eq_self (fun shape => otherwise (by simp [shape])) fun shape => otherwise (by simp [shape])
  rw [atom_eq_enclose notAtom, itself]
  apply BindsAs.other
  intro shape member covers
  apply otherwise
  rw [Shape.ofChars_of_covers covers]
  exact member

theorem bindsAs_atom (text : List Char) : BindsAs text (atom text) := by
  by_cases other : Shape.ofChars text = .other
  · exact bindsAs_enclose (by simp [other])
  have covers := (Shape.covers_ofChars text).resolve_left other
  cases shape : Shape.ofChars text with
  | singleChar =>
      rw [atom_eq_self (by rw [shape]; rfl)]
      rw [shape] at covers
      cases covers with
      | character c => exact .character c
      | escape c => exact .escape c
  | charClass =>
      rw [atom_eq_self (by rw [shape]; rfl)]
      rw [shape] at covers
      cases covers with
      | charClass grammar => exact .charClass grammar
  | nonCaptureGroup =>
      rw [atom_eq_self (by rw [shape]; rfl)]
      rw [shape] at covers
      cases covers with
      | plain balanced => exact .plain balanced
  | captureGroup =>
      rw [atom_eq_enclose (by rw [shape]; rfl)]
      rw [shape] at covers
      cases covers with
      | capture balanced noQuestion =>
          rw [core_capture balanced noQuestion]
          exact .capture balanced noQuestion
  | _ => exact bindsAs_enclose (by simp [shape])

/-! ## Single items -/

theorem isItem_character {c : Char} (balanced : Balanced [c]) : IsItem [c] := by
  constructor
  · simp
  · exact balanced
  · intro front rest equal _
    rcases List.append_eq_singleton_iff.mp equal.symm with ⟨empty, _⟩ | ⟨_, empty⟩
    · exact .inl empty
    · exact .inr empty

theorem isItem_escape (c : Char) : IsItem ['\\', c] := by
  constructor
  · simp
  · exact balanced_escape c
  · intro front rest equal balanced
    rcases front with _ | ⟨first, _ | ⟨second, after⟩⟩
    · exact .inl rfl
    · cases equal
      exact absurd balanced.isComplete Token.not_isComplete_dangling
    · right
      simp at equal
      exact equal.2.2.2

theorem IsClass.isItem {text : List Char} (grammar : IsClass text) : IsItem text := by
  have closes := isClass_iff_closesAtEnd.mp grammar
  exact isItem_of_closesAtEnd grammar.isComplete (.inr closes.1) closes.2

theorem isItem_parenthesized {body : List Char} (balanced : Balanced body) :
    IsItem (parenthesized body) :=
  isItem_of_closesAtEnd balanced.parenthesized.isComplete (.inl rfl)
    (closesAtEnd_parenthesized_iff.mpr balanced)

theorem isItem_enclose {opening : Opening} (valid : opening.IsValid)
    {body : List Char} (balanced : Balanced body) : IsItem (opening.enclose body) :=
  isItem_parenthesized (valid.balanced_iff.mpr balanced)

/-- The suffix repeats the whole of one item. -/
theorem BindsAs.isItem {text item : List Char} (binds : BindsAs text item)
    (balanced : Balanced text) : IsItem item := by
  have plainItem {body : List Char} (bodyBalanced : Balanced body) :
      IsItem (Opening.plain.enclose body) :=
    isItem_enclose Opening.isValid_plain bodyBalanced
  cases binds with
  | character c => exact isItem_character balanced
  | escape c => exact isItem_escape c
  | charClass grammar => exact grammar.isItem
  | plain bodyBalanced => exact plainItem bodyBalanced
  | capture bodyBalanced _ => exact plainItem bodyBalanced
  | other _ => exact plainItem balanced

theorem balanced_atom {text : List Char} (balanced : Balanced text) : Balanced (atom text) :=
  ((bindsAs_atom text).isItem balanced).balanced

end Text

namespace Pattern

/-! ## The order of the checks -/

/-- What a quantifier does to a pattern: the first of these that applies. -/
inductive Quantifies (pattern : Pattern) (quantifier : Quantifier) :
    Except BuildError Pattern → Prop where
  | repeating : EndsInRepetition pattern.chars →
      Quantifies pattern quantifier (.error (.alreadyRepeating pattern.text))
  | reversed {lower upper : Nat} : ¬ EndsInRepetition pattern.chars →
      quantifier = .between lower upper → upper < lower →
      Quantifies pattern quantifier (.error (.invalidArgument (.reversedBounds lower upper)))
  | lookaround : ¬ EndsInRepetition pattern.chars → quantifier.IsOrdered →
      Shape.lookaround.Covers pattern.chars →
      Quantifies pattern quantifier (.error (.invalidArgument (.repeatedLookaround pattern.text)))
  | named : ¬ EndsInRepetition pattern.chars → quantifier.IsOrdered →
      ¬ Shape.lookaround.Covers pattern.chars → Shape.namedCaptureGroup.Covers pattern.chars →
      Quantifies pattern quantifier (.error (.alreadyCaptured pattern.text))
  | repeated {result : Pattern} {item : List Char} : ¬ EndsInRepetition pattern.chars →
      quantifier.IsOrdered → ¬ Shape.lookaround.Covers pattern.chars →
      ¬ Shape.namedCaptureGroup.Covers pattern.chars →
      BindsAs pattern.chars item → IsItem item → result.names = pattern.names →
      result.chars = item ++ quantifier.suffix.toList →
      Quantifies pattern quantifier (.ok result)

theorem quantify_of_endsInRepetition {pattern : Pattern}
    (repeating : EndsInRepetition pattern.chars) (quantifier : Quantifier) :
    pattern.quantify quantifier = .error (.alreadyRepeating pattern.text) := by
  have test : isRepeating pattern.text = true := (isRepeating_iff pattern.text).mpr repeating
  unfold quantify quantifierFault?
  rw [if_pos test]

variable {pattern : Pattern} (notRepeating : ¬ EndsInRepetition pattern.chars)

include notRepeating

theorem quantify_of_reversed {lower upper : Nat} (reversed : upper < lower) :
    pattern.quantify (.between lower upper) =
      .error (.invalidArgument (.reversedBounds lower upper)) := by
  have test : ¬ isRepeating pattern.text = true :=
    fun repeating => notRepeating ((isRepeating_iff pattern.text).mp repeating)
  simp [quantify, quantifierFault?, if_neg test, reversed]

theorem quantify_of_isOrdered {quantifier : Quantifier} (ordered : quantifier.IsOrdered) :
    pattern.quantify quantifier =
      if pattern.shape = .lookaround then
        .error (.invalidArgument (.repeatedLookaround pattern.text))
      else
        pattern.toNonCaptureGroup.map fun grouped =>
          grouped.mapRope fun rope => rope.push quantifier.suffix := by
  have test : ¬ isRepeating pattern.text = true :=
    fun repeating => notRepeating ((isRepeating_iff pattern.text).mp repeating)
  have fault : pattern.quantifierFault? quantifier =
      if pattern.shape = .lookaround then
        some (.invalidArgument (.repeatedLookaround pattern.text))
      else none := by
    cases quantifier with
    | between lower upper =>
        have notReversed : ¬ upper < lower := Nat.not_lt.mpr ordered
        unfold quantifierFault?
        rw [if_neg test]
        simp only [if_neg notReversed]
    | _ =>
        unfold quantifierFault?
        rw [if_neg test]
  rw [quantify, fault]
  split_ifs
  · rfl
  · cases pattern.toNonCaptureGroup <;> rfl

omit notRepeating

theorem chars_push (pattern : Pattern) (suffix : String) :
    (pattern.mapRope fun rope => rope.push suffix).chars = pattern.chars ++ suffix.toList := by
  simp [mapRope, chars, text]

/-- A quantifier puts its suffix behind the atom of the text. -/
theorem quantify_eq_ok {result : Pattern} {quantifier : Quantifier}
    (accepted : pattern.quantify quantifier = .ok result) :
    ¬ EndsInRepetition pattern.chars ∧ quantifier.IsOrdered ∧
      result.chars = atom pattern.chars ++ quantifier.suffix.toList ∧
      result.names = pattern.names := by
  by_cases repeating : EndsInRepetition pattern.chars
  · rw [quantify_of_endsInRepetition repeating] at accepted
    cases accepted
  by_cases ordered : quantifier.IsOrdered
  · rw [quantify_of_isOrdered repeating ordered] at accepted
    split_ifs at accepted
    cases grouping : pattern.toNonCaptureGroup with
    | error error =>
        rw [grouping] at accepted
        cases accepted
    | ok grouped =>
        rw [grouping] at accepted
        obtain rfl := Except.ok.inj accepted
        obtain ⟨charsEq, namesEq⟩ := toNonCaptureGroup_eq_ok grouping
        exact ⟨repeating, ordered, by rw [chars_push, charsEq], namesEq⟩
  · obtain ⟨lower, upper, rfl, reversed⟩ := Quantifier.exists_reversed_of_not_isOrdered ordered
    rw [quantify_of_reversed repeating reversed] at accepted
    cases accepted

/-- A text without a suffix at its end is repeated, unless it is one whole
lookaround or named group. -/
theorem exists_quantify (notRepeating : ¬ EndsInRepetition pattern.chars)
    {quantifier : Quantifier} (ordered : quantifier.IsOrdered)
    (notLookaround : pattern.shape ≠ .lookaround) (notNamed : pattern.shape ≠ .namedCaptureGroup) :
    ∃ result, pattern.quantify quantifier = .ok result := by
  rw [quantify_of_isOrdered notRepeating ordered, if_neg notLookaround]
  rcases toNonCaptureGroup_eq pattern with ⟨named, _⟩ | ⟨_, grouped, grouping, _⟩
  · exact absurd named notNamed
  · rw [grouping]
    exact ⟨_, rfl⟩

/-- An atom is repeated as it stands. -/
theorem quantify_of_isAtom (isAtom : pattern.shape.isAtom = true)
    (notRepeating : ¬ EndsInRepetition pattern.chars) {quantifier : Quantifier}
    (ordered : quantifier.IsOrdered) :
    ∃ repeated, pattern.quantify quantifier = .ok repeated ∧
      repeated.chars = pattern.chars ++ quantifier.suffix.toList ∧
      repeated.names = pattern.names := by
  have notLookaround : pattern.shape ≠ .lookaround := by
    intro shape
    rw [shape] at isAtom
    cases isAtom
  have notNamed : pattern.shape ≠ .namedCaptureGroup := by
    intro shape
    rw [shape] at isAtom
    cases isAtom
  obtain ⟨repeated, accepted⟩ := exists_quantify notRepeating ordered notLookaround notNamed
  obtain ⟨_, _, charsEq, namesEq⟩ := quantify_eq_ok accepted
  rw [shape_eq] at isAtom
  rw [atom_eq_self isAtom] at charsEq
  exact ⟨repeated, accepted, charsEq, namesEq⟩

/-- A suffix is made lazy by a question mark behind it. -/
theorem lazily_eq_ok {result : Pattern} (accepted : pattern.lazily = .ok result) :
    EndsInRepetition pattern.chars ∧ ¬ EndsInLazyMark pattern.chars ∧
      result.chars = pattern.chars ++ ['?'] ∧ result.names = pattern.names := by
  unfold lazily at accepted
  split_ifs at accepted with refused
  obtain rfl := Except.ok.inj accepted
  simp only [Bool.or_eq_true, Bool.not_eq_true', not_or, Bool.not_eq_false,
    Bool.not_eq_true] at refused
  have repeating := (isRepeating_iff pattern.text).mp refused.1
  have notLazy : ¬ EndsInLazyMark pattern.chars := by
    intro marked
    rw [(isLazy_iff pattern.text).mpr marked] at refused
    cases refused.2
  exact ⟨repeating, notLazy, chars_push pattern "?", rfl⟩

/-- A quantifier on a balanced text does the first of the things it can do,
and what it repeats is a single item. -/
theorem quantifies_quantify (balanced : Balanced pattern.chars) (quantifier : Quantifier) :
    Quantifies pattern quantifier (pattern.quantify quantifier) := by
  by_cases repeating : EndsInRepetition pattern.chars
  · rw [quantify_of_endsInRepetition repeating]
    exact .repeating repeating
  by_cases ordered : quantifier.IsOrdered
  · rw [quantify_of_isOrdered repeating ordered]
    have isLookaround : pattern.shape = .lookaround ↔ Shape.lookaround.Covers pattern.chars :=
      Shape.ofChars_eq_iff (by decide)
    have isNamed : pattern.shape = .namedCaptureGroup ↔
        Shape.namedCaptureGroup.Covers pattern.chars :=
      Shape.ofChars_eq_iff (by decide)
    split_ifs with lookaround
    · exact .lookaround repeating ordered (isLookaround.mp lookaround)
    rw [isLookaround] at lookaround
    rcases toNonCaptureGroup_eq pattern with
      ⟨named, refused⟩ | ⟨notNamed, grouped, grouping, charsEq, namesEq⟩
    · rw [refused]
      exact .named repeating ordered lookaround (isNamed.mp named)
    · rw [grouping]
      have binds := bindsAs_atom pattern.chars
      rw [Ne, isNamed] at notNamed
      exact .repeated repeating ordered lookaround notNamed binds (binds.isItem balanced) namesEq
        (by rw [chars_push, charsEq])
  · obtain ⟨lower, upper, rfl, reversed⟩ := Quantifier.exists_reversed_of_not_isOrdered ordered
    rw [quantify_of_reversed repeating reversed]
    exact .reversed repeating rfl reversed

/-- Two groups, one after the other. -/
theorem quantifies_quantify_two_groups :
    Balanced (literal "(?:a)(b)").chars ∧
      Quantifies (literal "(?:a)(b)") (.between 2 3)
        ((literal "(?:a)(b)").quantify (.between 2 3)) := by
  have balanced : Balanced (literal "(?:a)(b)").chars := by decide
  exact ⟨balanced, quantifies_quantify balanced (.between 2 3)⟩

end Pattern

end PatternAlgebra
