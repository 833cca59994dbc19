import PatternAlgebra.Compiled
import PatternAlgebra.StandIn.Engines

/-!
# A cache of compiled patterns

A cache keeps what has been compiled, under the pattern text and the options
together.  The pieces a pattern was built from and the names it knows play no
part in compiling, so they are no part of the key.  Errors are not kept, and
nothing is ever dropped but all at once.
-/

namespace PatternAlgebra

variable [Engines]

/-- Compiled patterns by pattern text and options. -/
structure Cache where
  entries : List ((String × Options) × Compiled)

namespace Cache

/-- Nothing has been compiled. -/
def empty : Cache :=
  ⟨[]⟩

/-- The number of compiled patterns. -/
def size (cache : Cache) : Nat :=
  cache.entries.length

/-- Nothing is kept. -/
def isEmpty (cache : Cache) : Bool :=
  cache.entries.isEmpty

/-- What is kept for a text and options. -/
def get? (cache : Cache) (text : String) (options : Options) : Option Compiled :=
  cache.entries.lookup (text, options)

/-- Answer from the cache, or compile and keep the result unless it is an
error. -/
def getOrCompile (cache : Cache) (pattern : Pattern) (options : Options) :
    Except CompileError Compiled × Cache :=
  match cache.get? pattern.text options with
  | some compiled => (.ok compiled, cache)
  | none =>
      match compileText pattern.text options with
      | .error error => (.error error, cache)
      | .ok compiled =>
          (.ok compiled, ⟨((pattern.text, options), compiled) :: cache.entries⟩)

/-- Drop everything. -/
def clear (_ : Cache) : Cache :=
  empty

end Cache

end PatternAlgebra
