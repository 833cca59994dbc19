import PatternAlgebra.Pattern.CharacterSet
import PatternAlgebra.Proofs.Pattern.Grouping

/-!
# What character sets are written as

The members of a set are the texts of its items, each one character or one
escape.  Between brackets they are the inside of a class whatever they are,
because every character that could open, close or negate is escaped.
-/

namespace PatternAlgebra.Pattern

open Text

/-- The members are the texts of the items, all of them single. -/
theorem setMembers_eq_ok {items : List Operand} {members : List (List Char)}
    (result : setMembers items = .ok members) :
    members = items.map (fun item => item.toPattern.chars) ∧
      ∀ member ∈ members, isSingleChar member = true := by
  induction items generalizing members with
  | nil =>
      cases result
      exact ⟨rfl, nofun⟩
  | cons item rest inductionHypothesis =>
      rw [setMembers] at result
      split_ifs at result with single
      cases restResult : setMembers rest with
      | error error =>
          rw [restResult] at result
          cases result
      | ok others =>
          rw [restResult] at result
          obtain rfl := Except.ok.inj result
          obtain ⟨othersEq, othersSingle⟩ := inductionHypothesis restResult
          constructor
          · rw [othersEq]
            rfl
          · rw [List.forall_mem_cons]
            exact ⟨single, othersSingle⟩

theorem nonemptySetMembers_eq_ok {items : List Operand} {members : List (List Char)}
    (result : nonemptySetMembers items = .ok members) :
    setMembers items = .ok members ∧ members ≠ [] := by
  unfold nonemptySetMembers at result
  split at result
  · cases result
  · cases result
  · rename_i found nonempty membersEq
    obtain rfl := Except.ok.inj result
    exact ⟨membersEq, nonempty⟩

/-! ## Classes -/

theorem chars_bracket (opening : String) (members : List (List Char)) :
    (bracket opening members).chars =
      opening.toList ++ (members.flatMap memberText ++ [']']) := by
  have pushed (rope : Rope) :
      (members.foldl (fun rope member => rope.push (String.ofList (memberText member)))
        rope).text.toList = rope.text.toList ++ members.flatMap memberText := by
    induction members generalizing rope with
    | nil => simp
    | cons member rest inductionHypothesis => simp [inductionHypothesis]
  simp [bracket, chars, text, pushed]

/-- A member between brackets is a plain member of the class or an escape. -/
theorem memberText_cases {member : List Char} (single : isSingleChar member = true) :
    (∃ c, isClassMetacharacter c = false ∧ memberText member = [c]) ∨
      ∃ c, memberText member = ['\\', c] := by
  cases Shape.covers_of_isSingleChar single with
  | character c =>
      cases metacharacter : isClassMetacharacter c with
      | false => exact .inl ⟨c, metacharacter, by simp [memberText, metacharacter]⟩
      | true => exact .inr ⟨c, by simp [memberText, metacharacter]⟩
  | escape c => exact .inr ⟨c, rfl⟩

theorem isClassBody_flatMap_memberText {members : List (List Char)}
    (single : ∀ member ∈ members, isSingleChar member = true) :
    IsClassBody (members.flatMap memberText) := by
  induction members with
  | nil => exact .nil
  | cons member rest inductionHypothesis =>
      have restBody := inductionHypothesis fun other inRest =>
        single other (List.mem_cons_of_mem member inRest)
      rw [List.flatMap_cons]
      rcases memberText_cases (single member List.mem_cons_self) with
        ⟨c, ordinary, written⟩ | ⟨c, written⟩
      · rw [written]
        apply IsClassBody.member _ _ _ restBody <;> rintro rfl <;> cases ordinary
      · rw [written]
        exact .escape restBody

/-- The first member does not negate the class. -/
theorem flatMap_memberText_start {members : List (List Char)} (nonempty : members ≠ [])
    (single : ∀ member ∈ members, isSingleChar member = true) :
    members.flatMap memberText ≠ [] ∧ (members.flatMap memberText).head? ≠ some '^' := by
  obtain ⟨member, rest, rfl⟩ := List.exists_cons_of_ne_nil nonempty
  rw [List.flatMap_cons]
  rcases memberText_cases (single member List.mem_cons_self) with
    ⟨c, ordinary, written⟩ | ⟨c, written⟩
  · rw [written]
    constructor
    · simp
    · intro equal
      cases equal
      cases ordinary
  · rw [written]
    simp

theorem isClass_bracket {members : List (List Char)} (nonempty : members ≠ [])
    (single : ∀ member ∈ members, isSingleChar member = true) :
    IsClass (bracket "[" members).chars := by
  have start := flatMap_memberText_start nonempty single
  have isBody := isClassBody_flatMap_memberText single
  exact ⟨[], members.flatMap memberText, .none start.1 start.2, isBody, chars_bracket "[" members⟩

theorem isClass_bracket_negated {members : List (List Char)} (nonempty : members ≠ [])
    (single : ∀ member ∈ members, isSingleChar member = true) :
    IsClass (bracket "[^" members).chars := by
  have start := flatMap_memberText_start nonempty single
  have isBody := isClassBody_flatMap_memberText single
  exact ⟨['^'], members.flatMap memberText, .caret start.1, isBody, chars_bracket "[^" members⟩

/-! ## Sets -/

/-- Exclusion is a class. -/
theorem noneOf_eq_ok {items : List Operand} {set : Pattern} (result : noneOf items = .ok set) :
    IsClass set.chars ∧ set.names = [] := by
  unfold noneOf at result
  split at result
  · cases result
  · rename_i members membersEq
    obtain rfl := Except.ok.inj result
    obtain ⟨found, nonempty⟩ := nonemptySetMembers_eq_ok membersEq
    exact ⟨isClass_bracket_negated nonempty (setMembers_eq_ok found).2, rfl⟩

/-- Choice is a class, or one item is chosen and stands for itself. -/
theorem anyOf_eq_ok {items : List Operand} {set : Pattern} (result : anyOf items = .ok set) :
    set.names = [] ∧
      ((∃ item ∈ items, items.length = 1 ∧ isSingleChar item.toPattern.chars = true ∧
          set.chars = atomText item.toPattern.chars) ∨
        items.length ≠ 1 ∧ IsClass set.chars) := by
  unfold anyOf at result
  split at result
  · cases result
  · rename_i member membersEq
    obtain rfl := Except.ok.inj result
    obtain ⟨found, _⟩ := nonemptySetMembers_eq_ok membersEq
    obtain ⟨membersEq, single⟩ := setMembers_eq_ok found
    obtain ⟨item, rfl, rfl⟩ := List.map_eq_singleton_iff.mp membersEq.symm
    have isSingle := single _ List.mem_cons_self
    exact ⟨rfl, .inl ⟨item, List.mem_singleton_self item, rfl, isSingle, by simp⟩⟩
  · rename_i members several membersEq
    obtain rfl := Except.ok.inj result
    obtain ⟨found, nonempty⟩ := nonemptySetMembers_eq_ok membersEq
    obtain ⟨membersEq, single⟩ := setMembers_eq_ok found
    have notOne : items.length ≠ 1 := by
      intro one
      have oneMember : members.length = 1 := by rw [membersEq, List.length_map, one]
      obtain ⟨member, rfl⟩ := List.length_eq_one_iff.mp oneMember
      exact several member rfl
    exact ⟨rfl, .inr ⟨notOne, isClass_bracket nonempty single⟩⟩

end PatternAlgebra.Pattern
