import PatternAlgebra.Proofs.Nesting.Opening

/-!
# What the shapes stand for

Each shape but the last stands for texts of one form: one character or escape,
one class of the grammar, or one whole group with a balanced inside, whose
mark tells the sort.  Classification finds a shape exactly when the text has
the form.
-/

namespace PatternAlgebra

open Text

/-- The shape of a whole group that opens in this way. -/
def Opening.shape : Opening → Shape
  | capture => .captureGroup
  | plain => .nonCaptureGroup
  | look _ => .lookaround
  | named _ => .namedCaptureGroup

namespace Shape

/-- The texts that a shape stands for.  What follows `(?<` in a named group
need not be a name. -/
inductive Covers : Shape → List Char → Prop where
  | character (c : Char) : Covers .singleChar [c]
  | escape (c : Char) : Covers .singleChar ['\\', c]
  | charClass {text : List Char} : IsClass text → Covers .charClass text
  | capture {body : List Char} : Balanced body → body.head? ≠ some '?' →
      Covers .captureGroup (Opening.capture.enclose body)
  | plain {body : List Char} : Balanced body →
      Covers .nonCaptureGroup (Opening.plain.enclose body)
  | look (side : Lookaround) {body : List Char} : Balanced body →
      Covers .lookaround ((Opening.look side).enclose body)
  | named {c : Char} {rest : List Char} : c ≠ '=' → c ≠ '!' → Balanced (c :: rest) →
      Covers .namedCaptureGroup (parenthesized ('?' :: '<' :: c :: rest))

/-! ## From the form to the shape -/

theorem isSingleChar_delimited {opening closing : Char} (notBackslash : opening ≠ '\\')
    (body : List Char) : isSingleChar (opening :: (body ++ [closing])) = false := by
  rcases body with _ | ⟨c, _ | ⟨d, rest⟩⟩ <;> simp [isSingleChar, notBackslash]

theorem ofChars_of_isClass {text : List Char} (grammar : IsClass text) :
    ofChars text = .charClass := by
  have closes := grammar.closesAtEnd
  obtain ⟨lead, body, _, _, rfl⟩ := grammar
  have notSingle : isSingleChar ('[' :: (lead ++ body ++ [']'])) = false :=
    isSingleChar_delimited (by decide) (lead ++ body)
  have last : ('[' :: (lead ++ body ++ [']'])).getLast? = some ']' := by
    rw [← List.cons_append, List.getLast?_concat]
  rw [ofChars, notSingle, if_neg (by decide), if_pos ⟨rfl, last⟩, if_pos closes]

/-- A whole group is told apart by what stands after its parenthesis. -/
theorem ofChars_parenthesized {body : List Char} (balanced : Balanced body) :
    ofChars (parenthesized body) = ofGroup (parenthesized body) := by
  have closes := closesAtEnd_parenthesized_iff.mpr balanced
  have notSingle : isSingleChar (parenthesized body) = false :=
    isSingleChar_delimited (by decide) body
  have last : (parenthesized body).getLast? = some ')' := by
    rw [parenthesized, ← List.cons_append, List.getLast?_concat]
  have noBracket : ¬ ((parenthesized body).head? = some '[' ∧
      (parenthesized body).getLast? = some ']') := by
    simp [last]
  rw [ofChars, notSingle, if_neg (by decide), if_neg noBracket, if_pos ⟨rfl, last, closes⟩]

theorem ofGroup_of_head?_ne {body : List Char} (noQuestion : body.head? ≠ some '?') :
    ofGroup (parenthesized body) = .captureGroup := by
  cases body with
  | nil => rfl
  | cons c rest =>
      have notQuestion : c ≠ '?' := by simpa using noQuestion
      simp [ofGroup, parenthesized, notQuestion]

theorem ofGroup_angle (c : Char) (rest : List Char) :
    ofGroup (parenthesized ('?' :: '<' :: c :: rest)) =
      if c = '=' ∨ c = '!' then .lookaround else .namedCaptureGroup := by
  by_cases lookbehind : c = '=' ∨ c = '!'
  · rcases lookbehind with rfl | rfl <;> simp [ofGroup, parenthesized]
  · rw [not_or] at lookbehind
    simp [ofGroup, parenthesized, lookbehind]

theorem ofGroup_question {c : Char} (notAngle : c ≠ '<') (rest : List Char) :
    ofGroup (parenthesized ('?' :: c :: rest)) =
      if c = ':' then .nonCaptureGroup
      else if c = '=' ∨ c = '!' then .lookaround
      else .other := by
  simp [ofGroup, parenthesized, notAngle]

theorem ofChars_of_covers {shape : Shape} {text : List Char} (covers : shape.Covers text) :
    ofChars text = shape := by
  cases covers with
  | character c => rfl
  | escape c => rfl
  | charClass grammar => exact ofChars_of_isClass grammar
  | capture balanced noQuestion =>
      rw [Opening.enclose, Opening.mark, List.nil_append, ofChars_parenthesized balanced]
      exact ofGroup_of_head?_ne noQuestion
  | plain balanced =>
      exact ofChars_parenthesized (Opening.isValid_plain.balanced_iff.mpr balanced)
  | look side balanced =>
      have valid := Opening.isValid_look side
      rw [Opening.enclose, ofChars_parenthesized (valid.balanced_iff.mpr balanced)]
      cases side with
      | ahead => rfl
      | behind => exact ofGroup_angle '=' _
      | notAhead => rfl
      | notBehind => exact ofGroup_angle '!' _
  | named notEquals notBang balanced =>
      have whole := (balanced_cons_iff (c := '?') rfl).mpr
        ((balanced_cons_iff (c := '<') rfl).mpr balanced)
      rw [ofChars_parenthesized whole, ofGroup_angle, if_neg (by simp [notEquals, notBang])]

/-- A group of any sort has the shape of its sort. -/
theorem covers_enclose {opening : Opening} {body : List Char} (fits : opening.Fits body)
    (balanced : Balanced body) : opening.shape.Covers (opening.enclose body) := by
  cases opening with
  | capture => exact .capture balanced (fits.2 rfl)
  | plain => exact .plain balanced
  | look side => exact .look side balanced
  | named name =>
      have isName : isGroupName name = true := fits.1
      cases name with
      | nil => cases isName
      | cons first rest =>
          have noEquals : '=' ∉ first :: rest :=
            Opening.not_mem_of_isGroupName isName (by decide)
          have noBang : '!' ∉ first :: rest :=
            Opening.not_mem_of_isGroupName isName (by decide)
          rw [List.mem_cons, not_or] at noEquals noBang
          have inner : Balanced (first :: (rest ++ '>' :: body)) := by
            have whole := fits.1.balanced_iff.mpr balanced
            rw [Opening.mark, List.cons_append, List.cons_append, balanced_cons_iff rfl,
              balanced_cons_iff rfl] at whole
            simpa using whole
          have covers := Covers.named (Ne.symm noEquals.1) (Ne.symm noBang.1) inner
          simpa [Opening.enclose, Opening.mark, Opening.shape] using covers

/-! ## From the shape to the form -/

theorem covers_of_isSingleChar {text : List Char} (single : isSingleChar text = true) :
    Covers .singleChar text := by
  unfold isSingleChar at single
  split at single
  · exact .character _
  · exact .escape _
  · cases single

/-- A text that starts and ends as a group and closes at its end is a group. -/
theorem exists_body_of_closesAtEnd {text : List Char} (opening : text.head? = some '(')
    (closing : text.getLast? = some ')') (closes : closesAtEnd text = true) :
    ∃ body, Balanced body ∧ text = parenthesized body := by
  obtain ⟨rest, rfl⟩ := List.head?_eq_some_iff.mp opening
  rcases List.eq_nil_or_concat rest with rfl | ⟨body, last, rfl⟩
  · simp at closing
  · rw [List.concat_eq_append, ← List.cons_append, List.getLast?_concat] at closing
    cases closing
    rw [List.concat_eq_append] at closes ⊢
    exact ⟨body, closesAtEnd_parenthesized_iff.mp closes, rfl⟩

/-- The forms of whole groups. -/
theorem covers_parenthesized {body : List Char} (balanced : Balanced body) :
    ofGroup (parenthesized body) = .other ∨
      (ofGroup (parenthesized body)).Covers (parenthesized body) := by
  by_cases noQuestion : body.head? ≠ some '?'
  · rw [ofGroup_of_head?_ne noQuestion]
    exact .inr (.capture balanced noQuestion)
  obtain ⟨rest, rfl⟩ := List.head?_eq_some_iff.mp (Classical.not_not.mp noQuestion)
  rw [balanced_cons_iff rfl] at balanced
  rcases rest with _ | ⟨c, rest⟩
  · exact .inl rfl
  by_cases angle : c = '<'
  · subst angle
    rw [balanced_cons_iff rfl] at balanced
    rcases rest with _ | ⟨d, rest⟩
    · exact .inl rfl
    right
    rw [ofGroup_angle]
    split_ifs with lookbehind
    · rcases lookbehind with rfl | rfl
      · exact .look .behind ((balanced_cons_iff rfl).mp balanced)
      · exact .look .notBehind ((balanced_cons_iff rfl).mp balanced)
    · rw [not_or] at lookbehind
      exact .named lookbehind.1 lookbehind.2 balanced
  · rw [ofGroup_question angle]
    split_ifs with colon lookahead
    · subst colon
      exact .inr (.plain ((balanced_cons_iff rfl).mp balanced))
    · right
      rcases lookahead with rfl | rfl
      · exact .look .ahead ((balanced_cons_iff rfl).mp balanced)
      · exact .look .notAhead ((balanced_cons_iff rfl).mp balanced)
    · exact .inl rfl

/-- A text is of the last shape or has the form of its shape. -/
theorem covers_ofChars (text : List Char) :
    ofChars text = .other ∨ (ofChars text).Covers text := by
  by_cases single : isSingleChar text = true
  · rw [ofChars, if_pos single]
    exact .inr (covers_of_isSingleChar single)
  by_cases bracket : text.head? = some '[' ∧ text.getLast? = some ']'
  · rw [ofChars, if_neg single, if_pos bracket]
    split_ifs with closes
    · exact .inr (.charClass (isClass_iff_closesAtEnd.mpr ⟨bracket.1, closes⟩))
    · exact .inl rfl
  by_cases group : text.head? = some '(' ∧ text.getLast? = some ')' ∧ closesAtEnd text = true
  · obtain ⟨body, balanced, rfl⟩ := exists_body_of_closesAtEnd group.1 group.2.1 group.2.2
    rw [ofChars_parenthesized balanced]
    exact covers_parenthesized balanced
  · rw [ofChars, if_neg single, if_neg bracket, if_neg group]
    exact .inl rfl

/-- Classification finds a shape exactly when the text has its form. -/
theorem ofChars_eq_iff {shape : Shape} (notOther : shape ≠ .other) {text : List Char} :
    ofChars text = shape ↔ shape.Covers text := by
  constructor
  · rintro rfl
    exact (covers_ofChars text).resolve_left notOther
  · exact ofChars_of_covers

/-- A longer text that no pair of delimiters stands around is of the last
shape. -/
theorem ofChars_eq_other {text : List Char} (notSingle : isSingleChar text = false)
    (notBracket : ¬ (text.head? = some '[' ∧ text.getLast? = some ']'))
    (notParenthesis : ¬ (text.head? = some '(' ∧ text.getLast? = some ')')) :
    ofChars text = .other := by
  rw [ofChars, notSingle, if_neg (by decide), if_neg notBracket,
    if_neg fun group => notParenthesis ⟨group.1, group.2.1⟩]

end Shape

end PatternAlgebra
