import Mathlib.Data.Finset.Card
import Mathlib.Data.Finset.Dedup
import Mathlib.Data.List.Induction
import PatternAlgebra.Cache
import PatternAlgebra.Proofs.Compiled.Sample

/-!
# The cache is transparent

Whoever asks a cache cannot tell it from compiling anew, except by asking how
much it keeps.  That number is no more of a secret: a cache keeps exactly what
has been compiled since it was cleared last, each pair of a text and options
once.  So every reply is a function of the requests alone, and the cache
implements that function.
-/

namespace PatternAlgebra.Cache

section

variable [engines : Engines]

/-! ## Requests and replies -/

/-- What a cache is asked. -/
inductive Request where
  | getOrCompile (pattern : Pattern) (options : Options)
  | clear
  | size
  | isEmpty

/-- What a cache replies. -/
inductive Reply where
  | outcome (result : Except CompileError Compiled)
  | cleared
  | size (number : Nat)
  | isEmpty (answer : Bool)

/-- Put a request to a cache. -/
def answer (cache : Cache) : Request → Reply × Cache
  | .getOrCompile pattern options =>
      let (result, after) := cache.getOrCompile pattern options
      (.outcome result, after)
  | .clear => (.cleared, cache.clear)
  | .size => (.size cache.size, cache)
  | .isEmpty => (.isEmpty cache.isEmpty, cache)

/-- Put requests one after another. -/
def after (cache : Cache) (requests : List Request) : Cache :=
  requests.foldl (fun cache request => (cache.answer request).2) cache

/-! ## What the requests alone say -/

namespace Request

/-- The request is to drop everything. -/
def isClear : Request → Bool
  | clear => true
  | _ => false

/-- The text and the options that the request compiles with success. -/
def compiledKey? : Request → Option (String × Options)
  | getOrCompile pattern options =>
      if (pattern.compileWith options).isOk then some (pattern.text, options) else none
  | _ => none

end Request

/-- The requests since everything was dropped last, the latest first. -/
def sinceClear (history : List Request) : List Request :=
  history.reverse.takeWhile fun request => !request.isClear

/-- What has been compiled since everything was dropped last. -/
def compiledKeys (history : List Request) : Finset (String × Options) :=
  ((sinceClear history).filterMap Request.compiledKey?).toFinset

/-- The reply that a request deserves after others, without any cache. -/
def expectedReply (history : List Request) : Request → Reply
  | .getOrCompile pattern options => .outcome (pattern.compileWith options)
  | .clear => .cleared
  | .size => .size (compiledKeys history).card
  | .isEmpty => .isEmpty (decide ((compiledKeys history).card = 0))

variable {history : List Request} {request : Request} {key : String × Options}

omit engines in
theorem sinceClear_concat : sinceClear (history ++ [request]) =
    if request.isClear then [] else request :: sinceClear history := by
  rw [sinceClear, List.reverse_append, List.reverse_singleton, List.singleton_append,
    List.takeWhile_cons]
  cases request.isClear <;> rfl

theorem compiledKeys_concat_clear : compiledKeys (history ++ [.clear]) = ∅ := by
  rw [compiledKeys, sinceClear_concat]
  rfl

/-- A request that compiles nothing leaves what has been compiled. -/
theorem compiledKeys_concat_of_none (noClear : request.isClear = false)
    (noKey : request.compiledKey? = none) :
    compiledKeys (history ++ [request]) = compiledKeys history := by
  rw [compiledKeys, sinceClear_concat, noClear, compiledKeys]
  simp only [Bool.false_eq_true, ↓reduceIte, List.filterMap_cons, noKey]

theorem compiledKeys_concat_of_some (compiles : request.compiledKey? = some key) :
    compiledKeys (history ++ [request]) = insert key (compiledKeys history) := by
  have noClear : request.isClear = false := by
    cases request with
    | clear => cases compiles
    | _ => rfl
  rw [compiledKeys, sinceClear_concat, noClear, compiledKeys]
  simp only [Bool.false_eq_true, ↓reduceIte, List.filterMap_cons, compiles, List.toFinset_cons]

/-! ## What a cache keeps -/

/-- The cache keeps these keys, each once and with what compiling gives. -/
structure Keeps (cache : Cache) (keys : Finset (String × Options)) : Prop where
  nodup : (cache.entries.map Prod.fst).Nodup
  keys_eq : (cache.entries.map Prod.fst).toFinset = keys
  compiles : ∀ key compiled, (key, compiled) ∈ cache.entries →
    compileText key.1 key.2 = .ok compiled

variable {cache : Cache} {keys : Finset (String × Options)} {text : String} {options : Options}

theorem keeps_empty : Keeps empty ∅ :=
  ⟨List.nodup_nil, rfl, fun _ _ member => absurd member List.not_mem_nil⟩

namespace Keeps

theorem size_eq (keeps : cache.Keeps keys) : cache.size = keys.card := by
  rw [← keeps.keys_eq, List.toFinset_card_of_nodup keeps.nodup, List.length_map]
  rfl

theorem isEmpty_eq (keeps : cache.Keeps keys) : cache.isEmpty = decide (keys.card = 0) := by
  rw [← keeps.size_eq, Bool.eq_iff_iff, decide_eq_true_iff]
  exact List.isEmpty_iff_length_eq_zero

/-- What is kept is what compiling gives. -/
theorem compileText_of_get? (keeps : cache.Keeps keys) {compiled : Compiled}
    (found : cache.get? text options = some compiled) :
    compileText text options = .ok compiled ∧ (text, options) ∈ keys := by
  obtain ⟨before, rest, entries, _⟩ := List.lookup_eq_some_iff.mp found
  have member : ((text, options), compiled) ∈ cache.entries := by
    rw [entries]
    exact List.mem_append_right before List.mem_cons_self
  constructor
  · exact keeps.compiles (text, options) compiled member
  · rw [← keeps.keys_eq, List.mem_toFinset]
    exact List.mem_map_of_mem member

theorem notMem_of_get? (keeps : cache.Keeps keys) (absent : cache.get? text options = none) :
    (text, options) ∉ keys := by
  rw [← keeps.keys_eq, List.mem_toFinset, List.mem_map]
  rintro ⟨entry, member, sameKey⟩
  have otherKey := List.lookup_eq_none_iff.mp absent entry member
  rw [sameKey] at otherKey
  simp at otherKey

/-- A result under a new key is kept beside the others. -/
theorem insert (keeps : cache.Keeps keys) (fresh : (text, options) ∉ keys) {compiled : Compiled}
    (compiles : compileText text options = .ok compiled) :
    Keeps ⟨((text, options), compiled) :: cache.entries⟩ (Insert.insert (text, options) keys) where
  nodup := by
    rw [List.map_cons, List.nodup_cons]
    refine ⟨?_, keeps.nodup⟩
    rwa [← List.mem_toFinset, keeps.keys_eq]
  keys_eq := by rw [List.map_cons, List.toFinset_cons, keeps.keys_eq]
  compiles key other member := by
    rcases List.mem_cons.mp member with isNew | isOld
    · cases isNew
      exact compiles
    · exact keeps.compiles key other isOld

/-- A cache answers as compiling does, and keeps the key from then on if there
is a result. -/
theorem getOrCompile (keeps : cache.Keeps keys) (pattern : Pattern) (options : Options) :
    (cache.getOrCompile pattern options).1 = pattern.compileWith options ∧
      (cache.getOrCompile pattern options).2.Keeps
        (if (pattern.compileWith options).isOk then Insert.insert (pattern.text, options) keys
          else keys) := by
  unfold Cache.getOrCompile Pattern.compileWith
  cases found : cache.get? pattern.text options with
  | some compiled =>
      obtain ⟨compiles, member⟩ := keeps.compileText_of_get? found
      rw [compiles]
      refine ⟨rfl, ?_⟩
      simpa only [Except.isOk, Except.toBool, ↓reduceIte, Finset.insert_eq_self.mpr member] using keeps
  | none =>
      cases compiles : compileText pattern.text options with
      | error error => exact ⟨rfl, keeps⟩
      | ok compiled => exact ⟨rfl, keeps.insert (keeps.notMem_of_get? found) compiles⟩

/-- One request keeps a cache in step with the requests so far, and is replied
to as they say. -/
theorem answer (keeps : cache.Keeps (compiledKeys history)) (request : Request) :
    (cache.answer request).1 = expectedReply history request ∧
      (cache.answer request).2.Keeps (compiledKeys (history ++ [request])) := by
  cases request with
  | getOrCompile pattern options =>
      obtain ⟨sameOutcome, keepsAfter⟩ := keeps.getOrCompile pattern options
      refine ⟨congrArg Reply.outcome sameOutcome, ?_⟩
      have key : (Request.getOrCompile pattern options).compiledKey? =
          if (pattern.compileWith options).isOk then some (pattern.text, options) else none := rfl
      split_ifs at key keepsAfter with compiles
      · rw [compiledKeys_concat_of_some key]
        exact keepsAfter
      · rw [compiledKeys_concat_of_none rfl key]
        exact keepsAfter
  | clear =>
      rw [compiledKeys_concat_clear]
      exact ⟨rfl, keeps_empty⟩
  | size =>
      rw [compiledKeys_concat_of_none rfl rfl]
      exact ⟨congrArg Reply.size keeps.size_eq, keeps⟩
  | isEmpty =>
      rw [compiledKeys_concat_of_none rfl rfl]
      exact ⟨congrArg Reply.isEmpty keeps.isEmpty_eq, keeps⟩

end Keeps

theorem keeps_after (history : List Request) : (empty.after history).Keeps (compiledKeys history) := by
  induction history using List.reverseRecOn with
  | nil => exact keeps_empty
  | append_singleton earlier request inductionHypothesis =>
      rw [after, List.foldl_append]
      exact (inductionHypothesis.answer request).2

/-- A request that is refused changes nothing. -/
theorem answer_eq_of_error {pattern : Pattern} {error : CompileError}
    (refused : (cache.getOrCompile pattern options).1 = .error error) :
    (cache.getOrCompile pattern options).2 = cache := by
  unfold Cache.getOrCompile at refused ⊢
  split at refused
  · cases refused
  · cases compiles : compileText pattern.text options with
    | error _ => rfl
    | ok compiled =>
        rw [compiles] at refused
        cases refused

/-- Whatever a new cache has been asked, it replies to the next request as the
requests alone say: with what compiling gives, with the number of different
texts and options that have compiled since it was cleared, and that it is empty
exactly when this number is zero.  What does not compile leaves it unchanged. -/
theorem reply_eq_expectedReply (history : List Request) (request : Request) :
    ((empty.after history).answer request).1 = expectedReply history request ∧
      ∀ error, ((empty.after history).answer request).1 = .outcome (.error error) →
        ((empty.after history).answer request).2 = empty.after history := by
  refine ⟨((keeps_after history).answer request).1, ?_⟩
  intro error refused
  cases request with
  | getOrCompile pattern options => exact answer_eq_of_error (Reply.outcome.inj refused)
  | clear | size | isEmpty => cases refused

end

theorem reply_eq_expectedReply_unopened :
    let engines : Engines := Sample.engines
    let opened : @Cache engines := empty.after [.getOrCompile (.literal "a") {}]
    (opened.answer (.getOrCompile (.literal ")") {})).1 = .outcome (.error .backtracking) ∧
      (opened.answer (.getOrCompile (.literal ")") {})).2 = opened ∧
      (opened.answer .size).1 = .size 1 := by
  intro engines opened
  have refused : (Pattern.literal ")").compileWith {} = .error .backtracking := rfl
  have kept : (compiledKeys [.getOrCompile (.literal "a") {}]).card = 1 := by decide +kernel
  obtain ⟨reply, unchanged⟩ :=
    reply_eq_expectedReply [.getOrCompile (.literal "a") {}] (.getOrCompile (.literal ")") {})
  rw [expectedReply, refused] at reply
  refine ⟨reply, unchanged .backtracking reply, ?_⟩
  rw [(reply_eq_expectedReply _ .size).1, expectedReply, kept]

/-- The pieces of a pattern and the names it knows are no part of a key. -/
example : @compiledKeys Sample.engines [.clear,
    .getOrCompile ⟨.ofList ["a", "b"], ["n"]⟩ {}, .size, .getOrCompile (.literal "ab") {},
    .getOrCompile (.literal "(") {}] = {("ab", {})} := by
  decide +kernel

end PatternAlgebra.Cache
