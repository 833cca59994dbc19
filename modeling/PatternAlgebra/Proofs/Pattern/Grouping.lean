import PatternAlgebra.Pattern.Grouping
import PatternAlgebra.Proofs.Rope.Text
import PatternAlgebra.Proofs.Shape.Classification

/-!
# What grouping does to the text

Every grouping that succeeds encloses the core of the text: the inside of a
plain or capturing group that is the whole text, and otherwise the text
itself.  The equations of this file say so, so that nothing else looks at the
delimiters that are cut off and put on.
-/

namespace PatternAlgebra

open Text

namespace Pattern

/-- The pattern text as characters. -/
def chars (pattern : Pattern) : List Char :=
  pattern.text.toList

theorem shape_eq (pattern : Pattern) : pattern.shape = Shape.ofChars pattern.chars :=
  rfl

@[simp]
theorem chars_literal (text : String) : (literal text).chars = text.toList := by
  rw [chars, Pattern.text, literal, Rope.text_single]

@[simp]
theorem chars_empty : empty.chars = [] :=
  rfl

/-! ## Delimiters -/

/-- A delimiter put before the text opens a group around it. -/
theorem chars_enclose {delimiter : String} (opening : Opening)
    (written : delimiter.toList = '(' :: opening.mark) (pattern : Pattern) :
    (pattern.enclose delimiter).chars = opening.enclose pattern.chars := by
  simp [enclose, mapRope, chars, text, written, Opening.enclose, parenthesized]

/-- New delimiters around the inside of the text. -/
theorem chars_regroup {delimiter : String} (opening : Opening)
    (written : delimiter.toList = '(' :: opening.mark) (pattern : Pattern) (cut : Nat) :
    (pattern.regroup delimiter (inside pattern.text cut)).chars =
      opening.enclose (pattern.chars.drop cut).dropLast := by
  simp [regroup, inside, mapRope, chars, text, written, Opening.enclose, parenthesized]

theorem chars_withNames (pattern : Pattern) (names : List String) :
    ({ pattern with names := names } : Pattern).chars = pattern.chars :=
  rfl

@[simp]
theorem names_enclose (pattern : Pattern) (delimiter : String) :
    (pattern.enclose delimiter).names = pattern.names :=
  rfl

@[simp]
theorem names_regroup (pattern : Pattern) (delimiter body : String) :
    (pattern.regroup delimiter body).names = pattern.names :=
  rfl

end Pattern

theorem Opening.toList_capture : "(".toList = '(' :: capture.mark :=
  rfl

theorem Opening.toList_plain : "(?:".toList = '(' :: plain.mark :=
  rfl

theorem Lookaround.toList_opening (side : Lookaround) :
    side.opening.toList = '(' :: (Opening.look side).mark := by
  cases side <;> rfl

theorem Opening.toList_named (name : String) :
    ("(?<" ++ name ++ ">").toList = '(' :: (Opening.named name.toList).mark := by
  simp [Opening.mark]

/-! ## Cores, arms and atoms -/

namespace Text

/-- The text without the delimiters of a plain group around the whole of it. -/
def arm (text : List Char) : List Char :=
  if Shape.ofChars text = .nonCaptureGroup then (text.drop 3).dropLast else text

/-- The text without the delimiters of a plain or capturing group around the
whole of it. -/
def core (text : List Char) : List Char :=
  match Shape.ofChars text with
  | .captureGroup => (text.drop 1).dropLast
  | .nonCaptureGroup => (text.drop 3).dropLast
  | _ => text

/-- The text as one item that captures nothing. -/
def atom (text : List Char) : List Char :=
  if (Shape.ofChars text).isAtom then text else Opening.plain.enclose (core text)

theorem arm_plain {body : List Char} (balanced : Balanced body) :
    arm (Opening.plain.enclose body) = body := by
  rw [arm, if_pos (Shape.ofChars_of_covers (.plain balanced))]
  simp [Opening.enclose, Opening.mark, parenthesized]

theorem core_plain {body : List Char} (balanced : Balanced body) :
    core (Opening.plain.enclose body) = body := by
  rw [core, Shape.ofChars_of_covers (.plain balanced)]
  simp [Opening.enclose, Opening.mark, parenthesized]

theorem core_capture {body : List Char} (balanced : Balanced body)
    (noQuestion : body.head? ≠ some '?') : core (Opening.capture.enclose body) = body := by
  rw [core, Shape.ofChars_of_covers (.capture balanced noQuestion)]
  simp [Opening.enclose, Opening.mark, parenthesized]

theorem core_of_captureGroup {text : List Char} (shape : Shape.ofChars text = .captureGroup) :
    core text = (text.drop 1).dropLast := by
  rw [core, shape]

theorem core_of_nonCaptureGroup {text : List Char}
    (shape : Shape.ofChars text = .nonCaptureGroup) : core text = (text.drop 3).dropLast := by
  rw [core, shape]

theorem core_eq_self {text : List Char} (notCapture : Shape.ofChars text ≠ .captureGroup)
    (notPlain : Shape.ofChars text ≠ .nonCaptureGroup) : core text = text := by
  unfold core
  split
  · exact absurd ‹_› notCapture
  · exact absurd ‹_› notPlain
  · rfl

/-- The property passes from a plain or a capturing group to its inside. -/
def Peels (P : List Char → Prop) : Prop :=
  ∀ (opening : Opening) (body : List Char), opening = .capture ∨ opening = .plain →
    opening.Fits body → Balanced body → P (opening.enclose body) → P body

/-- Taking off the delimiters of a plain group keeps such properties. -/
theorem Peels.arm {P : List Char → Prop} (peels : Peels P) {text : List Char} (holds : P text) :
    P (Text.arm text) := by
  by_cases shape : Shape.ofChars text = .nonCaptureGroup
  · have covers := (Shape.ofChars_eq_iff (by decide)).mp shape
    cases covers with
    | @plain body balanced =>
        rw [arm_plain balanced]
        exact peels .plain body (.inr rfl) (Opening.fits_plain body) balanced holds
  · rw [Text.arm, if_neg shape]
    exact holds

/-- The core is the text or what a group around the whole of it holds. -/
theorem Peels.core {P : List Char → Prop} (peels : Peels P) {text : List Char} (holds : P text) :
    P (Text.core text) := by
  cases shape : Shape.ofChars text with
  | captureGroup =>
      have covers := (Shape.ofChars_eq_iff (by decide)).mp shape
      cases covers with
      | @capture body balanced noQuestion =>
          rw [core_capture balanced noQuestion]
          exact peels .capture body (.inl rfl) (Opening.fits_capture noQuestion) balanced holds
  | nonCaptureGroup =>
      have covers := (Shape.ofChars_eq_iff (by decide)).mp shape
      cases covers with
      | @plain body balanced =>
          rw [core_plain balanced]
          exact peels .plain body (.inr rfl) (Opening.fits_plain body) balanced holds
  | _ =>
      rw [Text.core, shape]
      exact holds

end Text

/-! ## Groupings -/

namespace Pattern

variable {pattern grouped : Pattern}

/-- A text that is a capturing group already is one around its core. -/
theorem enclose_core_of_captureGroup {text : List Char}
    (shape : Shape.ofChars text = .captureGroup) :
    Opening.capture.enclose (core text) = text := by
  have covers := (Shape.ofChars_eq_iff (by decide)).mp shape
  cases covers with
  | capture balanced noQuestion => rw [core_capture balanced noQuestion]

/-- A capturing group holds the core. -/
theorem toCaptureGroup_eq_ok (result : pattern.toCaptureGroup = .ok grouped) :
    grouped.chars = Opening.capture.enclose (core pattern.chars) ∧
      grouped.names = pattern.names := by
  unfold toCaptureGroup at result
  rw [shape_eq] at result
  split at result
  case h_1 => cases result
  case h_2 shape =>
      obtain rfl := Except.ok.inj result
      exact ⟨(enclose_core_of_captureGroup shape).symm, rfl⟩
  case h_3 shape =>
      obtain rfl := Except.ok.inj result
      rw [core_of_nonCaptureGroup shape]
      exact ⟨chars_regroup _ Opening.toList_capture pattern 3, names_regroup _ _ _⟩
  case h_4 notNamed notCapture notPlain =>
      obtain rfl := Except.ok.inj result
      rw [core_eq_self notCapture notPlain]
      exact ⟨chars_enclose _ Opening.toList_capture pattern, names_enclose _ _⟩

/-- A named group is refused, and everything else becomes one atom. -/
theorem toNonCaptureGroup_eq (pattern : Pattern) :
    pattern.shape = .namedCaptureGroup ∧
        pattern.toNonCaptureGroup = .error (.alreadyCaptured pattern.text) ∨
      pattern.shape ≠ .namedCaptureGroup ∧ ∃ grouped, pattern.toNonCaptureGroup = .ok grouped ∧
        grouped.chars = atom pattern.chars ∧ grouped.names = pattern.names := by
  unfold toNonCaptureGroup
  rw [shape_eq]
  split
  case h_1 shape | h_2 shape | h_3 shape =>
      exact .inr ⟨by simp [shape], pattern, rfl, by simp [atom, shape, Shape.isAtom], rfl⟩
  case h_4 shape => exact .inl ⟨shape, rfl⟩
  case h_5 shape =>
      have regrouped : (pattern.regroup "(?:" (inside pattern.text 1)).chars =
          atom pattern.chars := by
        rw [atom, shape, core_of_captureGroup shape]
        exact chars_regroup _ Opening.toList_plain pattern 1
      exact .inr ⟨by simp [shape], _, rfl, regrouped, names_regroup _ _ _⟩
  case h_6 notChar notClass notPlain notNamed notCapture =>
      have notAtom : (Shape.ofChars pattern.chars).isAtom = false := by
        cases shape : Shape.ofChars pattern.chars <;> simp_all [Shape.isAtom]
      have enclosed : (pattern.enclose "(?:").chars = atom pattern.chars := by
        rw [atom, notAtom, core_eq_self notCapture notPlain]
        exact chars_enclose _ Opening.toList_plain pattern
      exact .inr ⟨notNamed, _, rfl, enclosed, names_enclose _ _⟩

theorem toNonCaptureGroup_eq_ok (result : pattern.toNonCaptureGroup = .ok grouped) :
    grouped.chars = atom pattern.chars ∧ grouped.names = pattern.names := by
  rcases toNonCaptureGroup_eq pattern with ⟨_, refused⟩ | ⟨_, atomized, accepted, same⟩
  · rw [refused] at result
    cases result
  · rw [accepted] at result
    cases result
    exact same

/-- A named group holds the core, and its name comes after the others. -/
theorem toNamedCaptureGroup_eq_ok {name : String}
    (result : pattern.toNamedCaptureGroup name = .ok grouped) :
    isGroupName name.toList = true ∧ name ∉ pattern.names ∧
      grouped.chars = (Opening.named name.toList).enclose (core pattern.chars) ∧
      grouped.names = pattern.names ++ [name] := by
  have written := Opening.toList_named name
  unfold toNamedCaptureGroup at result
  split_ifs at result with notName named known
  obtain rfl := Except.ok.inj result
  constructor
  · simpa using notName
  constructor
  · simpa [hasName] using known
  constructor
  · rw [chars_withNames, shape_eq]
    split
    case h_1 shape =>
        rw [core_of_nonCaptureGroup shape]
        exact chars_regroup _ written pattern 3
    case h_2 shape =>
        rw [core_of_captureGroup shape]
        exact chars_regroup _ written pattern 1
    case h_3 notPlain notCapture =>
        rw [core_eq_self notCapture notPlain]
        exact chars_enclose _ written pattern
  · rfl

/-- A lookaround holds the whole text. -/
theorem chars_toLookaround (pattern : Pattern) (side : Lookaround) :
    (pattern.toLookaround side).chars = (Opening.look side).enclose pattern.chars :=
  chars_enclose _ side.toList_opening pattern

theorem names_toLookaround (pattern : Pattern) (side : Lookaround) :
    (pattern.toLookaround side).names = pattern.names :=
  rfl

end Pattern

end PatternAlgebra
