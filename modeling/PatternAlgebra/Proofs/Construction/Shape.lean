import PatternAlgebra.Proofs.Construction.Clean

/-!
# The shapes that calls promise

What a call puts around or behind a clean text decides the shape of its
result.
-/

namespace PatternAlgebra

open Text

/-! ## Texts of the last shape -/

namespace Shape

theorem isSingleChar_concat {text : List Char} (nonempty : text ≠ [])
    (complete : Token.IsComplete text) (last : Char) : isSingleChar (text ++ [last]) = false := by
  rcases text with _ | ⟨c, _ | ⟨d, rest⟩⟩
  · exact absurd rfl nonempty
  · have notBackslash : c ≠ '\\' := by
      rintro rfl
      exact Token.not_isComplete_dangling complete
    simp [isSingleChar, notBackslash]
  · simp [isSingleChar]

/-- A text that goes on with anything but a closing delimiter is of the last
shape. -/
theorem ofChars_concat {text : List Char} (nonempty : text ≠ [])
    (complete : Token.IsComplete text) {last : Char} (notBracket : last ≠ ']')
    (notParenthesis : last ≠ ')') : ofChars (text ++ [last]) = .other := by
  apply ofChars_eq_other (isSingleChar_concat nonempty complete last)
  · simp [notBracket]
  · simp [notParenthesis]

theorem isSingleChar_escapeChar (c : Char) : isSingleChar (escapeChar c) = true := by
  unfold escapeChar
  split_ifs <;> rfl

theorem escapeChar_append_cases (c : Char) (rest : List Char) :
    escapeChar c ++ rest = '\\' :: c :: rest ∨
      isMetacharacter c = false ∧ escapeChar c ++ rest = c :: rest := by
  unfold escapeChar
  split_ifs with metacharacter
  · exact .inl rfl
  · exact .inr ⟨by simpa using metacharacter, rfl⟩

theorem ofChars_escapeChar_append (c : Char) {rest : List Char} (nonempty : rest ≠ []) :
    ofChars (escapeChar c ++ rest) = .other := by
  obtain ⟨d, tail, rfl⟩ := List.exists_cons_of_ne_nil nonempty
  rcases escapeChar_append_cases c (d :: tail) with escaped | ⟨ordinary, bare⟩
  · rw [escaped]
    exact ofChars_eq_other rfl (by simp) (by simp)
  · rw [bare]
    have notMetacharacter : ∀ d, isMetacharacter d = true → c ≠ d := by
      rintro d metacharacter rfl
      rw [ordinary] at metacharacter
      cases metacharacter
    apply ofChars_eq_other
    · simp [isSingleChar, notMetacharacter '\\' (by decide)]
    · simp [notMetacharacter '[' (by decide)]
    · simp [notMetacharacter '(' (by decide)]

/-- An escaped text is one character or of the last shape. -/
theorem ofChars_escape (text : List Char) :
    ofChars (escape text) = if text.length = 1 then .singleChar else .other := by
  rcases text with _ | ⟨c, _ | ⟨d, rest⟩⟩
  · rfl
  · have single := ofChars_of_covers (covers_of_isSingleChar (isSingleChar_escapeChar c))
    simpa [escape] using single
  · have nonempty : escape (d :: rest) ≠ [] := by
      have startNonempty : escapeChar d ≠ [] := by
        intro empty
        have single := isSingleChar_escapeChar d
        rw [empty] at single
        cases single
      exact List.append_ne_nil_of_left_ne_nil startNonempty (escape rest)
    exact ofChars_escapeChar_append c nonempty

end Shape

/-! ## Promises -/

/-- The shape that belongs to the results of an operation. -/
def Transform.Promises : Transform → Shape → Prop
  | toCaptureGroup, shape => shape = .captureGroup
  | toNonCaptureGroup, shape =>
      shape = .singleChar ∨ shape = .charClass ∨ shape = .nonCaptureGroup
  | toNamedCaptureGroup _, shape => shape = .namedCaptureGroup
  | toLookaround _, shape => shape = .lookaround
  | quantify _, shape | lazily, shape => shape = .other
  | append tail, shape =>
      tail ∈ [Constant.anything, .anyWhitespace, .anyNewlines] → shape = .other

/-- The shape that belongs to the results of a call.  Raw text, constants and
concatenations can have any. -/
def Call.Promises : Call → Shape → Prop
  | empty, shape => shape = .other
  | escaped text, shape => shape = if text.length = 1 then .singleChar else .other
  | anyOf members, shape => shape = if members.length = 1 then .singleChar else .charClass
  | noneOf _, shape => shape = .charClass
  | transform operation _, shape => operation.Promises shape
  | alternate _ _, shape => shape = .nonCaptureGroup
  | _, _ => True

namespace Shape

/-- A group of any sort around a clean text has the shape of its sort. -/
theorem ofChars_enclose {opening : Opening} (valid : opening.IsValid) {body : List Char}
    (clean : Clean body) : ofChars (opening.enclose body) = opening.shape :=
  ofChars_of_covers (covers_enclose (clean.fits valid) clean.balanced)

theorem ofChars_atom {text : List Char} (clean : Clean text) :
    ofChars (atom text) = .singleChar ∨ ofChars (atom text) = .charClass ∨
      ofChars (atom text) = .nonCaptureGroup := by
  unfold atom
  split_ifs with isAtom
  · cases shape : ofChars text <;> simp_all [Shape.isAtom]
  · exact .inr (.inr (ofChars_enclose Opening.isValid_plain (peels_clean.core clean)))

/-- A clean text with a suffix behind it is of the last shape. -/
theorem ofChars_append_suffix {text suffix : List Char} (clean : Clean text)
    (nonempty : text ≠ []) (grammar : IsQuantifier suffix) :
    ofChars (text ++ suffix) = .other := by
  have noDelimiter := grammar.isDelimiter_eq_false
  obtain ⟨front, last, rfl, isLast⟩ := grammar.exists_last
  have frontBalanced : Balanced front :=
    balanced_of_noDelimiter fun c member => noDelimiter c (List.mem_append_left _ member)
  rw [← List.append_assoc]
  apply ofChars_concat (List.append_ne_nil_of_left_ne_nil nonempty front)
    (clean.balanced.append frontBalanced).isComplete
  · rintro rfl
    exact absurd isLast (by decide)
  · rintro rfl
    exact absurd isLast (by decide)

/-- The tails that repeat without an end are of the last shape with any text
before them. -/
theorem ofChars_append_tail {text : List Char} (clean : Clean text) {tail : Constant}
    (endless : tail ∈ [Constant.anything, .anyWhitespace, .anyNewlines]) :
    ofChars (text ++ tail.text.toList) = .other := by
  have repeated : ∃ front, tail.text.toList = front ++ ['*'] ∧ front ≠ [] ∧ Balanced front := by
    simp only [List.mem_cons, List.not_mem_nil, or_false] at endless
    rcases endless with rfl | rfl | rfl
    · exact ⟨['.'], rfl, by decide, by decide⟩
    · exact ⟨['\\', 's'], rfl, by decide, by decide⟩
    · exact ⟨Constant.newline.text.toList, rfl, by decide, by decide⟩
  obtain ⟨front, tailEq, nonempty, balanced⟩ := repeated
  rw [tailEq, ← List.append_assoc]
  exact ofChars_concat (List.append_ne_nil_of_right_ne_nil text nonempty)
    (clean.balanced.append balanced).isComplete (by decide) (by decide)

end Shape

theorem Transform.Rewrites.promises {operation : Transform} {text after : List Char}
    {names afterNames : List String} (rewrites : operation.Rewrites text names after afterNames)
    (clean : Clean text) : operation.Promises (Shape.ofChars after) := by
  cases rewrites with
  | toCaptureGroup =>
      exact Shape.ofChars_enclose Opening.isValid_capture (peels_clean.core clean)
  | toNonCaptureGroup => exact Shape.ofChars_atom clean
  | toNamedCaptureGroup isName _ =>
      exact Shape.ofChars_enclose (Opening.isValid_named isName) (peels_clean.core clean)
  | toLookaround side => exact Shape.ofChars_enclose (Opening.isValid_look side) clean
  | quantify _ ordered =>
      exact Shape.ofChars_append_suffix (clean_atom clean) (atom_ne_nil text)
        (Quantifier.isQuantifier_suffix ordered)
  | lazily repeating _ => exact Shape.ofChars_append_suffix clean repeating.ne_nil .optional
  | append tail => exact Shape.ofChars_append_tail clean

theorem Results.length_operands {results : Results} {members : List Source}
    {operands : List Operand} (found : results.operands members = .ok operands) :
    operands.length = members.length := by
  induction members generalizing operands with
  | nil =>
      cases found
      rfl
  | cons source rest inductionHypothesis =>
      obtain ⟨first, _, found⟩ := bind_eq_ok found
      obtain ⟨others, othersFound, made⟩ := bind_eq_ok found
      cases made
      rw [List.length_cons, List.length_cons, inductionHypothesis othersFound]

theorem Pattern.isSingleChar_atomText {member : List Char} (single : isSingleChar member = true) :
    isSingleChar (atomText member) = true := by
  cases Shape.covers_of_isSingleChar single with
  | character c => exact Shape.isSingleChar_escapeChar c
  | escape c => rfl

theorem Pattern.shape_anyOf {items : List Operand} {set : Pattern}
    (result : anyOf items = .ok set) :
    set.shape = if items.length = 1 then .singleChar else .charClass := by
  obtain ⟨_, ⟨item, _, one, single, setChars⟩ | ⟨several, isClass⟩⟩ := anyOf_eq_ok result
  · rw [if_pos one, shape_eq, setChars]
    exact Shape.ofChars_of_covers (Shape.covers_of_isSingleChar (isSingleChar_atomText single))
  · rw [if_neg several]
    exact Shape.ofChars_of_isClass isClass

/-- A call on clean texts keeps its promise. -/
theorem Call.promises_run {results : Results} {call : Call} {pattern : Pattern}
    (clean : results.All Pattern.IsClean) (raw : call.HasTexts Clean fun _ => True)
    (result : call.run results = .ok pattern) : call.Promises pattern.shape := by
  cases makes_of_run result with
  | empty => exact rfl
  | escaped text =>
      rw [Pattern.shape_eq, Pattern.escaped, Pattern.chars_literal, String.toList_ofList]
      exact Shape.ofChars_escape text.toList
  | anyOf found made =>
      rw [Call.Promises, ← Results.length_operands found]
      exact Pattern.shape_anyOf made
  | noneOf _ made => exact Shape.ofChars_of_isClass (Pattern.noneOf_eq_ok made).1
  | transform found made => exact (Transform.rewrites_of_apply made).promises (clean.pattern found)
  | alternate leftFound rightFound made =>
      have literal : ∀ text : String, Clean text.toList → (Pattern.literal text).IsClean :=
        fun _ => Pattern.isClean_literal
      have leftClean := clean.operand raw.1 literal leftFound
      have rightClean := clean.operand raw.2 literal rightFound
      rw [Call.Promises, Pattern.shape_eq, (Pattern.alternate_eq_ok made).1]
      exact Shape.ofChars_enclose Opening.isValid_plain (clean_arms leftClean rightClean)
  | literal | constant | operand | concatenate => trivial

/-- From clean raw texts every construction produces clean texts, each of the
shape that its call promises. -/
theorem isClean_and_promises_of_produces {calls : List Call}
    (raw : ∀ call ∈ calls, call.HasTexts Clean fun _ => True) {call : Call} {pattern : Pattern}
    (produced : Produces calls call pattern) :
    Clean pattern.chars ∧ call.Promises pattern.shape := by
  have allowed : ∀ earlier call, earlier ++ [call] <+: calls →
      call.HasTexts Clean fun _ => True := by
    intro earlier call isPrefix
    exact raw call (mem_of_isPrefix isPrefix)
  obtain ⟨results, clean, callRaw, result⟩ :=
    produced.exists_results (fun _ _ _ => Call.isClean_run) allowed
  exact ⟨Call.isClean_run clean callRaw result, Call.promises_run clean callRaw result⟩

/-- A plain group whose inside goes into an alternative that is then captured. -/
theorem isClean_and_promises_of_captured_alternative :
    ∃ pattern,
      Produces [.literal "(?:a|[)])", .alternate (.result 0) (.raw "b"),
        .transform .toCaptureGroup 1] (.transform .toCaptureGroup 1) pattern ∧
      Clean pattern.chars ∧ pattern.shape = .captureGroup := by
  have produced : Produces [.literal "(?:a|[)])", .alternate (.result 0) (.raw "b"),
      .transform .toCaptureGroup 1] (.transform .toCaptureGroup 1) _ :=
    ⟨[.literal "(?:a|[)])", .alternate (.result 0) (.raw "b")], by decide, rfl⟩
  exact ⟨_, produced, isClean_and_promises_of_produces (by decide) produced⟩

end PatternAlgebra
