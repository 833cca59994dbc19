import PatternAlgebra.Options
import PatternAlgebra.Proofs.Json.Render
import PatternAlgebra.Proofs.Options.Flags

/-!
# Options are read back

Options are read from any object that says what they are: from the text that
they are written as, and from every text whose object has the same entries in
some order, with foreign entries between them and without entries that only
repeat a default.

Each option is written under a key of its own and read from that key alone, so
one lemma about a key serves all five.
-/

namespace PatternAlgebra

theorem EngineChoice.ofJson?_name (choice : EngineChoice) :
    ofJson? (.string choice.name) = some choice := by
  cases choice <;> rfl

namespace Options

theorem limitOfJson?_limitToJson (limit : Option UInt64) :
    limitOfJson? (limitToJson limit) = some limit := by
  cases limit with
  | none => rfl
  | some value =>
      have small : value.toNat < UInt64.size := value.toNat_lt
      rw [limitToJson, limitOfJson?, if_pos small, UInt64.ofNat_toNat]

/-! ## Objects that give options -/

/-- The entries that options are written with. -/
def entries (options : Options) : List (String × Json) :=
  [("engine", .string options.engine.name),
    ("flags", .string options.flags.render),
    ("anchored", .bool options.anchored),
    ("size-limit", limitToJson options.sizeLimit),
    ("backtrack-limit", limitToJson options.backtrackLimit)]

/-- An object with these entries says what the options are: under the known
keys it has, in some order, the entries that the options are written with,
though some may be left out with which the default options are written too. -/
def Gives (options : Options) (given : List (String × Json)) : Prop :=
  ∃ kept, kept.Sublist options.entries ∧
    (∀ entry ∈ options.entries, entry ∈ kept ∨ entry ∈ entries {}) ∧
    (given.filter fun entry => entry.1 ∈ keys).Perm kept

variable {options : Options} {given : List (String × Json)}

/-- Under a key stands what is written there, or nothing if that is the
default. -/
theorem Gives.valuesAt (gives : options.Gives given) {key : String} {value : Json}
    (known : key ∈ keys)
    (written : (options.entries.filter fun entry => entry.1 = key) = [(key, value)]) :
    Options.valuesAt given key = [value] ∨
      Options.valuesAt given key = [] ∧ (key, value) ∈ entries {} := by
  obtain ⟨kept, sublist, complete, perm⟩ := gives
  have amongKnown : ((given.filter fun entry => entry.1 ∈ keys).filter fun entry => entry.1 = key) =
      given.filter fun entry => entry.1 = key := by
    rw [List.filter_filter]
    apply List.filter_congr
    intro entry _
    by_cases atKey : entry.1 = key
    · simp [atKey, known]
    · simp [atKey]
  have atKey := perm.filter fun entry => entry.1 = key
  have atMostOne := sublist.filter fun entry => entry.1 = key
  rw [amongKnown] at atKey
  rw [written, List.sublist_singleton] at atMostOne
  rcases atMostOne with nothing | single
  · rw [nothing, List.perm_nil] at atKey
    right
    constructor
    · rw [Options.valuesAt, atKey]
      rfl
    · have isWritten : (key, value) ∈ options.entries := by
        apply List.mem_of_mem_filter
        rw [written]
        exact List.mem_singleton_self _
      apply (complete _ isWritten).resolve_left
      intro isKept
      have remains : (key, value) ∈ kept.filter fun entry => entry.1 = key :=
        List.mem_filter.mpr ⟨isKept, decide_eq_true rfl⟩
      rw [nothing] at remains
      cases remains
  · rw [single, List.perm_singleton] at atKey
    left
    rw [Options.valuesAt, atKey]
    rfl

/-- An option that is written under a key of its own and read back from what
is written there is read from every object that gives the options. -/
theorem Gives.single? {α : Type} (gives : options.Gives given) (key : String)
    (write : Options → Json) (read : Json → Option α) (field : Options → α) (known : key ∈ keys)
    (written : ∀ options : Options,
      (options.entries.filter fun entry => entry.1 = key) = [(key, write options)])
    (reads : ∀ options, read (write options) = some (field options)) :
    Options.single? (field {}) read (Options.valuesAt given key) = some (field options) := by
  rcases gives.valuesAt known (written options) with single | ⟨nothing, isDefault⟩
  · rw [single, Options.single?, reads]
  · have same : write options = write {} := by
      have atKey : (key, write options) ∈ (entries {}).filter fun entry => entry.1 = key :=
        List.mem_filter.mpr ⟨isDefault, decide_eq_true rfl⟩
      rw [written, List.mem_singleton] at atKey
      exact congrArg Prod.snd atKey
    have fieldEq := reads options
    rw [same, reads] at fieldEq
    rw [nothing, Options.single?, fieldEq]

theorem Gives.ofJson? (gives : options.Gives given) :
    Options.ofJson? (.object given) = some options := by
  have engine := gives.single? "engine" (fun options => .string options.engine.name)
    EngineChoice.ofJson? Options.engine (by decide) (fun _ => rfl)
    fun options => EngineChoice.ofJson?_name options.engine
  have flags := gives.single? "flags" (fun options => .string options.flags.render)
    flagsOfJson? Options.flags (by decide) (fun _ => rfl)
    fun options => Flags.parse?_render options.flags
  have anchored := gives.single? "anchored" (fun options => .bool options.anchored)
    boolOfJson? Options.anchored (by decide) (fun _ => rfl) fun _ => rfl
  have sizeLimit := gives.single? "size-limit" (fun options => limitToJson options.sizeLimit)
    limitOfJson? Options.sizeLimit (by decide) (fun _ => rfl)
    fun options => limitOfJson?_limitToJson options.sizeLimit
  have backtrackLimit := gives.single? "backtrack-limit"
    (fun options => limitToJson options.backtrackLimit) limitOfJson? Options.backtrackLimit
    (by decide) (fun _ => rfl) fun options => limitOfJson?_limitToJson options.backtrackLimit
  simp [Options.ofJson?, ofValues?, engine, flags, anchored, sizeLimit, backtrackLimit]

/-! ## Texts that give options -/

theorem gives_entries (options : Options) : options.Gives options.entries := by
  have allKnown : (options.entries.filter fun entry => entry.1 ∈ keys) = options.entries := by
    rw [List.filter_eq_self]
    simp [entries, keys]
  refine ⟨options.entries, .refl _, fun _ member => .inl member, ?_⟩
  rw [allKnown]

theorem isWritable_toJson (options : Options) : options.toJson.IsWritable := by
  have limit (limit : Option UInt64) : (limitToJson limit).IsWritable := by
    cases limit with
    | none => exact .null
    | some value => exact .natural value.toNat
  apply Json.IsWritable.object
  simp only [List.forall_mem_cons]
  exact ⟨.string _, .string _, .bool _, limit _, limit _, nofun⟩

/-- Options are read from the text that they are written as, and from every
text that spells an object with the same entries, whatever the order, the
white space and the foreign entries, and whichever defaults are left out. -/
theorem parse?_of_gives (options : Options) :
    parse? options.render = some options ∧
      ∀ (given : List (String × Json)) (source : String), options.Gives given →
        Json.Spells (.value (.object given)) source.toList → parse? source = some options := by
  have read {given : List (String × Json)} {source : String} (gives : options.Gives given)
      (parsed : Json.parse? source = some (.object given)) : parse? source = some options := by
    rw [parse?, parsed, Option.bind_some]
    exact gives.ofJson?
  constructor
  · have written : Json.parse? options.render = some (.object options.entries) :=
      Json.parse?_render (isWritable_toJson options)
    exact read (gives_entries options) written
  · intro given source gives spells
    exact read gives (Json.parse?_of_spells spells)

/-- Foreign entries, one of them repeated, an order of its own, a bit without a
name, the largest limit, and two defaults that are left out. -/
theorem parse?_of_gives_with_foreign_entries :
    Gives { engine := .standard, flags := ⟨0x12⟩, sizeLimit := some 18446744073709551615 }
        [("note", .array [.null, .natural 7]), ("size-limit", .natural 18446744073709551615),
          ("note", .bool true), ("flags", .string "MULTI_LINE | 0x10"),
          ("engine", .string "standard")] ∧
      parse? ("\x7b\"note\":[null,7],\"size-limit\":18446744073709551615,\"note\":true," ++
          "\"flags\":\"MULTI_LINE | 0x10\",\"engine\":\"standard\"\x7d") =
        some { engine := .standard, flags := ⟨0x12⟩, sizeLimit := some 18446744073709551615 } := by
  have gives : Gives
      { engine := .standard, flags := ⟨0x12⟩, sizeLimit := some 18446744073709551615 }
      [("note", .array [.null, .natural 7]), ("size-limit", .natural 18446744073709551615),
        ("note", .bool true), ("flags", .string "MULTI_LINE | 0x10"),
        ("engine", .string "standard")] := by
    refine ⟨[("engine", .string "standard"), ("flags", .string "MULTI_LINE | 0x10"),
      ("size-limit", .natural 18446744073709551615)], ?_, ?_, List.reverse_perm [_, _, _]⟩
    · exact .cons_cons _ (.cons_cons _ (.cons _ (.cons_cons _ (.cons _ .slnil))))
    · have written : Flags.render ⟨0x12⟩ = "MULTI_LINE | 0x10" := rfl
      simp [entries, EngineChoice.name, limitToJson, written]
  have writable : (Json.object
      [("note", .array [.null, .natural 7]), ("size-limit", .natural 18446744073709551615),
        ("note", .bool true), ("flags", .string "MULTI_LINE | 0x10"),
        ("engine", .string "standard")]).IsWritable := by
    apply Json.IsWritable.object
    simp only [List.forall_mem_cons]
    exact ⟨.array (by simpa using ⟨.null, .natural 7⟩), .natural _, .bool _, .string _, .string _,
      nofun⟩
  exact ⟨gives, (parse?_of_gives _).2 _ _ gives writable.spells⟩

end Options

end PatternAlgebra
