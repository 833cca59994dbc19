import Mathlib.Data.List.Induction
import PatternAlgebra.Proofs.Grammar.LastItem

/-!
# Runs of groupings

However often a pattern is grouped, its groups never nest.  Every run of
groupings without a name ends in the core of the text with the delimiters of
the last grouping around it; only a text that is an atom without delimiters
stays as it is as long as nothing captures it.  A grouping with a name replaces
the delimiters once more, and after it nothing groups or repeats the pattern
again.
-/

namespace PatternAlgebra

open Text

/-! ## Cores -/

namespace Text

/-- What a group around the whole text holds, if it is a plain or a capturing
one, and otherwise the text. -/
inductive HasCore : List Char → List Char → Prop where
  | capture {body : List Char} : Balanced body → body.head? ≠ some '?' →
      HasCore (Opening.capture.enclose body) body
  | plain {body : List Char} : Balanced body → HasCore (Opening.plain.enclose body) body
  | itself {text : List Char} :
      (∀ shape ∈ [Shape.captureGroup, .nonCaptureGroup], ¬ shape.Covers text) → HasCore text text

/-- One character, one escape or one class. -/
def IsBare (text : List Char) : Prop :=
  Shape.singleChar.Covers text ∨ Shape.charClass.Covers text

theorem HasCore.core_eq {text body : List Char} (hasCore : HasCore text body) :
    core text = body := by
  cases hasCore with
  | capture balanced noQuestion => exact core_capture balanced noQuestion
  | plain balanced => exact core_plain balanced
  | itself bare =>
      apply core_eq_self
      · intro shape
        exact bare .captureGroup (by decide) ((Shape.ofChars_eq_iff (by decide)).mp shape)
      · intro shape
        exact bare .nonCaptureGroup (by decide) ((Shape.ofChars_eq_iff (by decide)).mp shape)

theorem hasCore_core (text : List Char) : HasCore text (core text) := by
  by_cases shape : Shape.ofChars text ∈ [Shape.captureGroup, .nonCaptureGroup]
  · have covers : (Shape.ofChars text).Covers text := by
      apply (Shape.covers_ofChars text).resolve_left
      intro other
      rw [other] at shape
      exact absurd shape (by decide)
    generalize Shape.ofChars text = found at shape covers
    cases covers with
    | capture balanced noQuestion =>
        rw [core_capture balanced noQuestion]
        exact .capture balanced noQuestion
    | plain balanced =>
        rw [core_plain balanced]
        exact .plain balanced
    | _ => exact absurd shape (by decide)
  · have bare : ∀ sort ∈ [Shape.captureGroup, .nonCaptureGroup], ¬ sort.Covers text := by
      intro sort member covers
      rw [Shape.ofChars_of_covers covers] at shape
      exact shape member
    have itself := HasCore.itself bare
    rwa [itself.core_eq]

theorem balanced_core {text : List Char} (balanced : Balanced text) : Balanced (core text) := by
  apply Peels.core ?_ balanced
  intro opening body sort fits inner _
  exact inner

/-- The core of a text starts with a question mark only if the text does, or a
plain group around it. -/
theorem head?_core_ne {text : List Char} (noMark : text.head? ≠ some '?')
    (noInnerMark : ¬ ['(', '?', ':', '?'] <+: text) : (core text).head? ≠ some '?' := by
  have hasCore := hasCore_core text
  generalize core text = body at hasCore
  cases hasCore with
  | capture _ noQuestion => exact noQuestion
  | itself _ => exact noMark
  | plain _ =>
      intro question
      obtain ⟨rest, rfl⟩ := List.head?_eq_some_iff.mp question
      exact noInnerMark ⟨rest ++ [')'], rfl⟩

theorem isBare_iff_shape {text : List Char} :
    IsBare text ↔ Shape.ofChars text = .singleChar ∨ Shape.ofChars text = .charClass := by
  rw [IsBare, Shape.ofChars_eq_iff (by decide), Shape.ofChars_eq_iff (by decide)]

theorem not_isBare_of_covers {shape : Shape} {text : List Char} (covers : shape.Covers text)
    (group : shape ≠ .singleChar ∧ shape ≠ .charClass) : ¬ IsBare text := by
  rw [isBare_iff_shape, Shape.ofChars_of_covers covers]
  rintro (rfl | rfl)
  · exact group.1 rfl
  · exact group.2 rfl

/-- As an atom, a text without delimiters stays as it is, and any other one has
those of a plain group around its core. -/
theorem atom_of_isBare {text : List Char} (bare : IsBare text) : atom text = text := by
  apply atom_eq_self
  rcases isBare_iff_shape.mp bare with shape | shape <;> rw [shape] <;> rfl

theorem atom_of_not_isBare {text : List Char} (notBare : ¬ IsBare text) :
    atom text = Opening.plain.enclose (core text) := by
  by_cases plain : Shape.ofChars text = .nonCaptureGroup
  · have covers := (Shape.ofChars_eq_iff (by decide)).mp plain
    rw [atom_eq_self (by rw [plain]; rfl)]
    cases covers with
    | plain balanced => rw [core_plain balanced]
  · apply atom_eq_enclose
    rw [isBare_iff_shape, not_or] at notBare
    cases shape : Shape.ofChars text <;> simp_all [Shape.isAtom]

end Text

/-! ## Groupings that succeed -/

namespace Pattern

theorem exists_toCaptureGroup {pattern : Pattern} (notNamed : pattern.shape ≠ .namedCaptureGroup) :
    ∃ grouped, pattern.toCaptureGroup = .ok grouped := by
  unfold toCaptureGroup
  split
  · exact absurd ‹_› notNamed
  · exact ⟨_, rfl⟩
  · exact ⟨_, rfl⟩
  · exact ⟨_, rfl⟩

theorem exists_toNamedCaptureGroup {pattern : Pattern}
    (notNamed : pattern.shape ≠ .namedCaptureGroup) {name : String}
    (isName : isGroupName name.toList = true) (fresh : name ∉ pattern.names) :
    ∃ grouped, pattern.toNamedCaptureGroup name = .ok grouped := by
  have unknown : ¬ pattern.hasName name = true := by simpa [hasName] using fresh
  unfold toNamedCaptureGroup
  rw [isName, if_neg (by simp), if_neg notNamed, if_neg unknown]
  exact ⟨_, rfl⟩

/-- Nothing groups or repeats the pattern again. -/
structure IsFinal (pattern : Pattern) : Prop where
  toCaptureGroup : pattern.toCaptureGroup = .error (.alreadyCaptured pattern.text)
  toNonCaptureGroup : pattern.toNonCaptureGroup = .error (.alreadyCaptured pattern.text)
  toNamedCaptureGroup : ∀ name : String, isGroupName name.toList = true →
    pattern.toNamedCaptureGroup name = .error (.alreadyCaptured pattern.text)
  quantify : ∀ quantifier : Quantifier, quantifier.IsOrdered →
    pattern.quantify quantifier = .error (.alreadyCaptured pattern.text)

theorem isFinal_of_named {pattern : Pattern} {name : List Char} {body : List Char}
    (isName : isGroupName name = true) (balanced : Balanced body)
    (written : pattern.chars = (Opening.named name).enclose body) : pattern.IsFinal := by
  have valid := Opening.isValid_named isName
  have shape : pattern.shape = .namedCaptureGroup := by
    rw [shape_eq, written]
    exact Shape.ofChars_of_covers (Shape.covers_enclose ⟨valid, nofun⟩ balanced)
  have plainRefused : pattern.toNonCaptureGroup = .error (.alreadyCaptured pattern.text) := by
    rw [Pattern.toNonCaptureGroup, shape]
  constructor
  · rw [Pattern.toCaptureGroup, shape]
  · exact plainRefused
  · intro other otherIsName
    rw [Pattern.toNamedCaptureGroup, otherIsName, if_neg (by simp), if_pos shape]
  · intro quantifier ordered
    have notRepeating : ¬ EndsInRepetition pattern.chars := by
      rw [written]
      exact not_endsInRepetition_closed (by decide) ('(' :: ((Opening.named name).mark ++ body))
    rw [quantify_of_isOrdered notRepeating ordered, shape, if_neg (by decide), plainRefused]
    rfl

end Pattern

/-! ## Runs -/

/-- A grouping without a name. -/
inductive Regrouping where
  | capture
  | plain
  deriving DecidableEq, Repr

namespace Regrouping

/-- Group a pattern. -/
def apply : Regrouping → Pattern → Except BuildError Pattern
  | capture, pattern => pattern.toCaptureGroup
  | plain, pattern => pattern.toNonCaptureGroup

/-- Group a pattern by one grouping after another. -/
def applyAll (groupings : List Regrouping) (pattern : Pattern) : Except BuildError Pattern :=
  groupings.foldlM (fun current grouping => grouping.apply current) pattern

/-- What a run of groupings makes of a text with this core. -/
inductive Writes (text body : List Char) : List Regrouping → List Char → Prop where
  | nothing : Writes text body [] text
  | capture (before : List Regrouping) :
      Writes text body (before ++ [.capture]) (Opening.capture.enclose body)
  | bare {before : List Regrouping} : IsBare text → .capture ∉ before →
      Writes text body (before ++ [.plain]) text
  | plain {before : List Regrouping} : ¬ (IsBare text ∧ .capture ∉ before) →
      Writes text body (before ++ [.plain]) (Opening.plain.enclose body)

variable {text body current : List Char} {groupings : List Regrouping}

theorem Writes.covers (writes : Writes text body groupings current) (balanced : Balanced body)
    (noQuestion : body.head? ≠ some '?') :
    current = text ∨ Shape.captureGroup.Covers current ∨ Shape.nonCaptureGroup.Covers current := by
  cases writes with
  | nothing => exact .inl rfl
  | capture before => exact .inr (.inl (.capture balanced noQuestion))
  | bare _ _ => exact .inl rfl
  | plain _ => exact .inr (.inr (.plain balanced))

/-- The core stays the same. -/
theorem Writes.hasCore (writes : Writes text body groupings current) (hasCore : HasCore text body)
    (balanced : Balanced body) (noQuestion : body.head? ≠ some '?') : HasCore current body := by
  cases writes with
  | nothing => exact hasCore
  | capture before => exact .capture balanced noQuestion
  | bare _ _ => exact hasCore
  | plain _ => exact .plain balanced

/-- A text without delimiters gets some from the first grouping that captures,
and keeps some from then on. -/
theorem Writes.isBare_iff (writes : Writes text body groupings current) (balanced : Balanced body)
    (noQuestion : body.head? ≠ some '?') :
    IsBare current ↔ IsBare text ∧ .capture ∉ groupings := by
  cases writes with
  | nothing => simp
  | capture before =>
      have notBare := not_isBare_of_covers (.capture balanced noQuestion) (by decide)
      simp [notBare]
  | bare isBare noCapture => simp [isBare, noCapture]
  | plain otherwise =>
      have notBare := not_isBare_of_covers (.plain balanced) (by decide)
      simpa [notBare] using otherwise

/-- One more grouping succeeds, and writes what it would have to write at the
end of the run. -/
theorem Writes.apply {pattern : Pattern} (writes : Writes text body groupings pattern.chars)
    (hasCore : HasCore text body) (balanced : Balanced body) (noQuestion : body.head? ≠ some '?')
    (notNamed : pattern.shape ≠ .namedCaptureGroup) (grouping : Regrouping) :
    ∃ result, grouping.apply pattern = .ok result ∧ result.names = pattern.names ∧
      Writes text body (groupings ++ [grouping]) result.chars := by
  have coreEq := (writes.hasCore hasCore balanced noQuestion).core_eq
  cases grouping with
  | capture =>
      obtain ⟨result, accepted⟩ := Pattern.exists_toCaptureGroup notNamed
      obtain ⟨charsEq, namesEq⟩ := Pattern.toCaptureGroup_eq_ok accepted
      rw [coreEq] at charsEq
      exact ⟨result, accepted, namesEq, charsEq ▸ .capture groupings⟩
  | plain =>
      rcases Pattern.toNonCaptureGroup_eq pattern with
        ⟨named, _⟩ | ⟨_, result, accepted, charsEq, namesEq⟩
      · exact absurd named notNamed
      refine ⟨result, accepted, namesEq, ?_⟩
      have bareIff := writes.isBare_iff balanced noQuestion
      by_cases isBare : IsBare pattern.chars
      · obtain ⟨textBare, noCapture⟩ := bareIff.mp isBare
        have unchanged : pattern.chars = text := by
          rcases writes.covers balanced noQuestion with same | covers | covers
          · exact same
          · exact absurd isBare (not_isBare_of_covers covers (by decide))
          · exact absurd isBare (not_isBare_of_covers covers (by decide))
        rw [charsEq, atom_of_isBare isBare, unchanged]
        exact .bare textBare noCapture
      · rw [charsEq, atom_of_not_isBare isBare, coreEq]
        exact .plain (bareIff.not.mp isBare)

/-- Every run of groupings succeeds, keeps the names, and writes the core with
the delimiters of its last grouping. -/
theorem exists_applyAll {pattern : Pattern} (hasCore : HasCore pattern.chars body)
    (balanced : Balanced body) (noQuestion : body.head? ≠ some '?')
    (notNamed : pattern.shape ≠ .namedCaptureGroup) (groupings : List Regrouping) :
    ∃ result, applyAll groupings pattern = .ok result ∧ result.names = pattern.names ∧
      result.shape ≠ .namedCaptureGroup ∧ Writes pattern.chars body groupings result.chars := by
  induction groupings using List.reverseRecOn with
  | nil => exact ⟨pattern, rfl, rfl, notNamed, .nothing⟩
  | append_singleton before grouping inductionHypothesis =>
      obtain ⟨middle, ran, middleNames, middleNotNamed, middleWrites⟩ := inductionHypothesis
      obtain ⟨result, accepted, resultNames, writes⟩ :=
        middleWrites.apply hasCore balanced noQuestion middleNotNamed grouping
      have appended : applyAll (before ++ [grouping]) pattern = .ok result := by
        unfold applyAll at ran ⊢
        rw [List.foldlM_append, ran]
        exact (bind_pure _).trans accepted
      refine ⟨result, appended, resultNames.trans middleNames, ?_, writes⟩
      rcases writes.covers balanced noQuestion with same | covers | covers
      · rwa [Pattern.shape_eq, same]
      · rw [Pattern.shape_eq, Shape.ofChars_of_covers covers]
        decide
      · rw [Pattern.shape_eq, Shape.ofChars_of_covers covers]
        decide

/-- Every run of groupings succeeds, keeps the names and writes this core with
the delimiters of its last grouping; after any run a new name can be given to
the core, and then nothing groups or repeats it again. -/
def GroupsAround (pattern : Pattern) (body : List Char) : Prop :=
  ∀ groupings : List Regrouping, ∃ result, applyAll groupings pattern = .ok result ∧
    result.names = pattern.names ∧ Writes pattern.chars body groupings result.chars ∧
    ∀ name : String, isGroupName name.toList = true → name ∉ pattern.names →
      ∃ named, result.toNamedCaptureGroup name = .ok named ∧
        named.chars = (Opening.named name.toList).enclose body ∧
        named.names = pattern.names ++ [name] ∧ named.IsFinal

/-- Groupings of a balanced text have a normal form, unless a mark would come
to stand directly after a delimiter. -/
theorem exists_groupsAround {pattern : Pattern} (balanced : Balanced pattern.chars)
    (noMark : pattern.chars.head? ≠ some '?')
    (noInnerMark : ¬ ['(', '?', ':', '?'] <+: pattern.chars)
    (notNamed : ¬ Shape.namedCaptureGroup.Covers pattern.chars) :
    ∃ body, HasCore pattern.chars body ∧ GroupsAround pattern body := by
  have hasCore := hasCore_core pattern.chars
  have coreBalanced := balanced_core balanced
  have noQuestion := head?_core_ne noMark noInnerMark
  rw [← Shape.ofChars_eq_iff (by decide)] at notNamed
  refine ⟨core pattern.chars, hasCore, ?_⟩
  intro groupings
  obtain ⟨result, ran, namesEq, stillNotNamed, writes⟩ :=
    exists_applyAll hasCore coreBalanced noQuestion notNamed groupings
  refine ⟨result, ran, namesEq, writes, ?_⟩
  intro name isName fresh
  obtain ⟨named, accepted⟩ :=
    Pattern.exists_toNamedCaptureGroup stillNotNamed isName (namesEq ▸ fresh)
  obtain ⟨_, _, charsEq, namedNames⟩ := Pattern.toNamedCaptureGroup_eq_ok accepted
  rw [(writes.hasCore hasCore coreBalanced noQuestion).core_eq] at charsEq
  exact ⟨named, accepted, charsEq, namesEq ▸ namedNames,
    Pattern.isFinal_of_named isName coreBalanced charsEq⟩

/-- A capturing group that holds a class of parentheses and another group. -/
theorem exists_groupsAround_of_captured_class :
    let pattern := Pattern.literal "([)(]|(?:a))"
    Balanced pattern.chars ∧ pattern.chars.head? ≠ some '?' ∧
      ¬ ['(', '?', ':', '?'] <+: pattern.chars ∧
      ¬ Shape.namedCaptureGroup.Covers pattern.chars ∧
      ∃ body, HasCore pattern.chars body ∧ GroupsAround pattern body := by
  intro pattern
  have balanced : Balanced pattern.chars := by decide
  have notNamed : ¬ Shape.namedCaptureGroup.Covers pattern.chars := by
    rw [← Shape.ofChars_eq_iff (by decide)]
    decide
  exact ⟨balanced, by decide, by decide, notNamed,
    exists_groupsAround balanced (by decide) (by decide) notNamed⟩

end Regrouping

end PatternAlgebra
