import PatternAlgebra.Flags
import PatternAlgebra.Json.Reader

/-!
# Options for compiling a pattern

Options say which engine compiles a pattern, under which flags, whether only
the whole haystack may match, and within which limits.  As JSON they are an
object with one entry per option; an entry that is left out means the default,
an entry under an unknown key is ignored, and an option may not be given
twice.  An array gives the same options by position.
-/

namespace PatternAlgebra

/-- Which engine is asked to compile a pattern. -/
inductive EngineChoice where
  /-- The standard engine, or the backtracking one for syntax that the
  standard engine refuses. -/
  | auto
  /-- The engine without lookaround, which never gives up. -/
  | standard
  /-- The engine with lookaround and backreferences, which may give up. -/
  | backtracking
  deriving DecidableEq, Repr

namespace EngineChoice

/-- The choices, the default first. -/
def all : List EngineChoice :=
  [auto, standard, backtracking]

/-- The name of a choice. -/
def name : EngineChoice → String
  | auto => "auto"
  | standard => "standard"
  | backtracking => "backtracking"

/-- The choice of this name. -/
def ofName? (name : String) : Option EngineChoice :=
  all.find? fun choice => choice.name = name

/-- Read a choice: its name, or an object whose only key is its name. -/
def ofJson? : Json → Option EngineChoice
  | .string name => ofName? name
  | .object [(name, .null)] => ofName? name
  | _ => none

end EngineChoice

/-- Options for compiling a pattern. -/
structure Options where
  engine : EngineChoice := .auto
  flags : Flags := Flags.none
  /-- Only the whole haystack may match. -/
  anchored : Bool := false
  /-- The approximate size a compiled pattern may have, in bytes. -/
  sizeLimit : Option UInt64 := none
  /-- The number of times a search may backtrack. -/
  backtrackLimit : Option UInt64 := none
  deriving DecidableEq, Repr

namespace Options

/-! ## Writing -/

/-- A limit as JSON. -/
def limitToJson : Option UInt64 → Json
  | none => .null
  | some limit => .natural limit.toNat

/-- Options as a JSON object with all five entries. -/
def toJson (options : Options) : Json :=
  .object [
    ("engine", .string options.engine.name),
    ("flags", .string options.flags.render),
    ("anchored", .bool options.anchored),
    ("size-limit", limitToJson options.sizeLimit),
    ("backtrack-limit", limitToJson options.backtrackLimit)]

/-- Options as JSON text. -/
def render (options : Options) : String :=
  options.toJson.render

/-! ## Reading -/

/-- Read flags from their text. -/
def flagsOfJson? : Json → Option Flags
  | .string text => Flags.parse? text
  | _ => none

/-- Read a truth value. -/
def boolOfJson? : Json → Option Bool
  | .bool value => some value
  | _ => none

/-- Read a limit: null, or a natural number of at most 64 bits. -/
def limitOfJson? : Json → Option (Option UInt64)
  | .null => some none
  | .natural value => if value < UInt64.size then some (some (UInt64.ofNat value)) else none
  | _ => none

/-- Read one option from the values given for it: none at all means the
default, and more than one is refused. -/
def single? {α : Type} (default : α) (read : Json → Option α) : List Json → Option α
  | [] => some default
  | [value] => read value
  | _ => none

/-- Read options from the values given for each of them. -/
def ofValues? (values : String → List Json) : Option Options := do
  let engine ← single? .auto EngineChoice.ofJson? (values "engine")
  let flags ← single? Flags.none flagsOfJson? (values "flags")
  let anchored ← single? false boolOfJson? (values "anchored")
  let sizeLimit ← single? none limitOfJson? (values "size-limit")
  let backtrackLimit ← single? none limitOfJson? (values "backtrack-limit")
  return { engine, flags, anchored, sizeLimit, backtrackLimit }

/-- The keys of the options, in the order of an array. -/
def keys : List String :=
  ["engine", "flags", "anchored", "size-limit", "backtrack-limit"]

/-- The values that an object gives under a key. -/
def valuesAt (entries : List (String × Json)) (key : String) : List Json :=
  (entries.filter fun entry => entry.1 = key).map Prod.snd

/-- Read options from an object, or from an array of at most five items. -/
def ofJson? : Json → Option Options
  | .object entries => ofValues? (valuesAt entries)
  | .array items =>
      if items.length ≤ keys.length then ofValues? (valuesAt (keys.zip items)) else none
  | _ => none

/-- Read options from JSON text. -/
def parse? (source : String) : Option Options :=
  (Json.parse? source).bind ofJson?

end Options

end PatternAlgebra
