import PatternAlgebra.Proofs.Pattern.Sequence

/-!
# Escaped texts

A text is escaped character by character, and every character becomes one
token: itself if it has no meaning of its own, and otherwise an escape.  Hence
nothing that the characters would mean side by side is left.  The escaped text
is balanced and never ends in a repetition, it is one item only when it stands
for one character, and what it stands for is read off its tokens.
-/

namespace PatternAlgebra

open Text

namespace Text

open Token

/-! ## Tokens of escaped texts -/

/-- The characters that a token stands for: an escape without its backslash,
and everything else as it is. -/
def Token.unescaped : Token → List Char
  | plain c => [c]
  | escape c => [c]
  | dangling => ['\\']

/-- The text without the backslashes that escape something. -/
def unescape (text : List Char) : List Char :=
  (lex text).flatMap Token.unescaped

/-- The token that a character becomes. -/
def escapedToken (c : Char) : Token :=
  if isMetacharacter c then .escape c else .plain c

theorem unescaped_escapedToken (c : Char) : (escapedToken c).unescaped = [c] := by
  unfold escapedToken
  split_ifs <;> rfl

/-- However an escaped character is followed, it is one token. -/
theorem lex_escapeChar_append (c : Char) (rest : List Char) :
    lex (escapeChar c ++ rest) = escapedToken c :: lex rest := by
  unfold escapeChar escapedToken
  split_ifs with metacharacter
  · exact lex_escape c rest
  · have notBackslash : c ≠ '\\' := by
      rintro rfl
      exact metacharacter rfl
    exact lex_plain notBackslash rest

/-- An escaped text has one token for each character. -/
theorem lex_escape_text (text : List Char) : lex (Text.escape text) = text.map escapedToken := by
  induction text with
  | nil => rfl
  | cons c rest inductionHypothesis =>
      change lex (escapeChar c ++ Text.escape rest) = _
      rw [lex_escapeChar_append, inductionHypothesis, List.map_cons]

/-- What has been escaped is found again. -/
theorem unescape_escape (text : List Char) : unescape (Text.escape text) = text := by
  rw [unescape, lex_escape_text]
  induction text with
  | nil => rfl
  | cons c rest inductionHypothesis =>
      rw [List.map_cons, List.flatMap_cons, unescaped_escapedToken, inductionHypothesis]
      rfl

theorem escape_injective : Function.Injective Text.escape :=
  Function.LeftInverse.injective unescape_escape

theorem escape_append (first second : List Char) :
    Text.escape (first ++ second) = Text.escape first ++ Text.escape second :=
  List.flatMap_append

theorem balanced_escape_text (text : List Char) : Balanced (Text.escape text) :=
  (clean_escape text).balanced

/-- The last character of an escaped text is no sign that counts: as a
metacharacter it is escaped, and nothing else ends a repetition. -/
theorem not_endsInRepetition_escape_text (text : List Char) :
    ¬ EndsInRepetition (Text.escape text) := by
  rcases List.eq_nil_or_concat' text with rfl | ⟨front, c, rfl⟩
  · exact fun repeating => repeating.ne_nil rfl
  have split : Text.escape (front ++ [c]) = Text.escape front ++ escapeChar c := by
    rw [escape_append]
    simp [Text.escape]
  rw [split]
  unfold escapeChar
  split_ifs with metacharacter
  · exact not_endsInRepetition_escape (balanced_escape_text front).isComplete c
  · rw [endsInRepetition_concat]
    rintro (⟨isSign, _⟩ | ⟨rfl, _⟩)
    · have signsAmong : ∀ d ∈ ['?', '*', '+'], isMetacharacter d = true := by
        simp [isMetacharacter, metacharacters]
      exact metacharacter (signsAmong c isSign)
    · exact metacharacter rfl

end Text

/-! ## Patterns of exactly one text -/

namespace Pattern

variable (text : String)

theorem chars_escaped : (escaped text).chars = Text.escape text.toList := by
  simp [escaped]

theorem shape_escaped :
    (escaped text).shape = if text.length = 1 then .singleChar else .other := by
  rw [shape_eq, chars_escaped, Shape.ofChars_escape, String.length_toList]

theorem isMeasured_escaped : (escaped text).IsMeasured :=
  isMeasured_literal (String.ofList (Text.escape text.toList))

theorem not_endsInRepetition_escaped : ¬ EndsInRepetition (escaped text).chars := by
  rw [chars_escaped]
  exact not_endsInRepetition_escape_text text.toList

/-- The builder finds nothing in the pattern but the characters of this text:
no delimiter, no suffix and no name, and no item unless the text is a single
character. -/
structure IsOpaque (pattern : Pattern) : Prop where
  unescape : unescape pattern.chars = text.toList
  names : pattern.names = []
  balanced : Balanced pattern.chars
  shape : pattern.shape = if text.length = 1 then .singleChar else .other
  isRepeating : isRepeating pattern.text = false
  lazily : pattern.lazily = .error (.invalidArgument (.notGreedy pattern.text))
  quantify : ∀ quantifier : Quantifier, quantifier.IsOrdered →
    ∃ repeated, pattern.quantify quantifier = .ok repeated ∧ repeated.names = [] ∧
      repeated.chars =
        (if text.length = 1 then pattern.chars else Opening.plain.enclose pattern.chars) ++
          quantifier.suffix.toList

theorem exists_quantify_escaped {quantifier : Quantifier} (ordered : quantifier.IsOrdered) :
    ∃ repeated, (escaped text).quantify quantifier = .ok repeated ∧ repeated.names = [] ∧
      repeated.chars =
        (if text.length = 1 then (escaped text).chars
          else Opening.plain.enclose (escaped text).chars) ++ quantifier.suffix.toList := by
  have shape := shape_escaped text
  have notRepeating := not_endsInRepetition_escaped text
  split_ifs at shape ⊢ with single
  · have isAtom : (escaped text).shape.isAtom = true := by
      rw [shape]
      rfl
    obtain ⟨repeated, accepted, charsEq, namesEq⟩ :=
      quantify_of_isAtom isAtom notRepeating ordered
    exact ⟨repeated, accepted, namesEq, charsEq⟩
  · obtain ⟨repeated, accepted, charsEq, namesEq⟩ := quantify_of_other shape ordered notRepeating
    exact ⟨repeated, accepted, namesEq, charsEq⟩

theorem isOpaque_escaped : (escaped text).IsOpaque text := by
  have notRepeating : isRepeating (escaped text).text = false :=
    (isRepeating_eq_false_iff (escaped text).text).mpr (not_endsInRepetition_escaped text)
  constructor
  case unescape =>
    rw [chars_escaped]
    exact unescape_escape text.toList
  case names => rfl
  case balanced =>
    rw [chars_escaped]
    exact balanced_escape_text text.toList
  case shape => exact shape_escaped text
  case isRepeating => exact notRepeating
  case lazily =>
    rw [Pattern.lazily, notRepeating]
    rfl
  case quantify =>
    intro quantifier ordered
    exact exists_quantify_escaped text ordered

/-- Escaping makes a text opaque and loses nothing of it, and it does not
matter whether texts are put together before they are escaped or after. -/
theorem escaped_isOpaque_injective_append (first second : String) :
    (escaped first).IsOpaque first ∧
      ((escaped first == escaped second) = true ↔ first = second) ∧
      ∃ whole, (escaped first).concat (.built (escaped second)) = .ok whole ∧
        whole.names = [] ∧ (whole == escaped (first ++ second)) = true := by
  have firstMeasured := isMeasured_escaped first
  have secondMeasured := isMeasured_escaped second
  refine ⟨isOpaque_escaped first, ?_, ?_⟩
  · rw [beq_iff firstMeasured secondMeasured, ← String.toList_inj]
    change (escaped first).chars = (escaped second).chars ↔ _
    rw [chars_escaped, chars_escaped, escape_injective.eq_iff, String.toList_inj]
  · have other : (Operand.built (escaped second)).toPattern = escaped second := rfl
    have disjoint : ∀ name ∈ (escaped first).names,
        name ∉ (Operand.built (escaped second)).toPattern.names := nofun
    obtain ⟨whole, accepted⟩ := exists_concat disjoint
    obtain ⟨charsEq, namesEq, _⟩ := concat_eq_ok accepted
    rw [← other] at secondMeasured
    have wholeMeasured : whole.IsMeasured := firstMeasured.concat secondMeasured accepted
    refine ⟨whole, accepted, namesEq, ?_⟩
    rw [beq_iff wholeMeasured (isMeasured_escaped (first ++ second)), ← String.toList_inj]
    change whole.chars = (escaped (first ++ second)).chars
    rw [charsEq, other, chars_escaped, chars_escaped, chars_escaped, String.toList_append,
      escape_append]

/-- Signs of groups and of repetitions, and a backslash before one. -/
example : (escaped "(a)\\?").text = "\\(a\\)\\\\\\?" := by decide

end Pattern

end PatternAlgebra
