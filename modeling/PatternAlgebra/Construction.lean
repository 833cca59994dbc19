import PatternAlgebra.Pattern.CharacterSet
import PatternAlgebra.Pattern.Combination
import PatternAlgebra.Pattern.Quantified

/-!
# Constructions

A construction is a list of calls of the builder.  Each call may use the
results of the calls before it, which it names by their numbers; a call that
fails leaves no result, and the calls after it go on.
-/

namespace PatternAlgebra

/-- An operation on one pattern. -/
inductive Transform where
  | toCaptureGroup
  | toNonCaptureGroup
  | toNamedCaptureGroup (name : String)
  | toLookaround (side : Lookaround)
  | quantify (quantifier : Quantifier)
  | lazily
  | append (tail : Constant)
  deriving DecidableEq, Repr

namespace Transform

/-- Apply an operation to a pattern. -/
def apply : Transform → Pattern → Except BuildError Pattern
  | toCaptureGroup, pattern => pattern.toCaptureGroup
  | toNonCaptureGroup, pattern => pattern.toNonCaptureGroup
  | toNamedCaptureGroup name, pattern => pattern.toNamedCaptureGroup name
  | toLookaround side, pattern => .ok (pattern.toLookaround side)
  | quantify quantifier, pattern => pattern.quantify quantifier
  | lazily, pattern => pattern.lazily
  | append tail, pattern => .ok (pattern.append tail)

end Transform

/-- Where a call takes an operand from. -/
inductive Source where
  /-- The result of an earlier call. -/
  | result (index : Nat)
  /-- Raw pattern text. -/
  | raw (text : String)
  deriving DecidableEq, Repr

/-- One call of the builder. -/
inductive Call where
  | empty
  | literal (text : String)
  | escaped (text : String)
  | constant (value : Constant)
  /-- The pattern that an operand stands for. -/
  | operand (source : Source)
  | anyOf (members : List Source)
  | noneOf (members : List Source)
  | transform (operation : Transform) (index : Nat)
  | concatenate (first second : Source)
  | alternate (first second : Source)
  deriving DecidableEq, Repr

/-- Why a call has no result. -/
inductive CallError where
  /-- An earlier call, which this one needs, has no result. -/
  | missing
  | refused (error : BuildError)
  deriving DecidableEq, Repr

/-- The results of the calls so far. -/
abbrev Results := List (Option Pattern)

namespace Results

/-- The result of a call. -/
def pattern (results : Results) (index : Nat) : Except CallError Pattern :=
  match results[index]? with
  | some (some pattern) => .ok pattern
  | _ => .error .missing

/-- The operand a source gives. -/
def operand (results : Results) : Source → Except CallError Operand
  | .result index => (results.pattern index).map .built
  | .raw text => .ok (.literal text)

/-- The operands of several sources. -/
def operands (results : Results) : List Source → Except CallError (List Operand)
  | [] => .ok []
  | source :: rest => do
      let first ← results.operand source
      let others ← results.operands rest
      return first :: others

end Results

namespace Call

/-- Make a call. -/
def run (results : Results) : Call → Except CallError Pattern
  | empty => .ok .empty
  | literal text => .ok (.literal text)
  | escaped text => .ok (.escaped text)
  | constant value => .ok value.pattern
  | operand source => do
      let operand ← results.operand source
      return operand.toPattern
  | anyOf members => do
      let operands ← results.operands members
      (Pattern.anyOf operands).mapError .refused
  | noneOf members => do
      let operands ← results.operands members
      (Pattern.noneOf operands).mapError .refused
  | transform operation index => do
      let pattern ← results.pattern index
      (operation.apply pattern).mapError .refused
  | concatenate first second => do
      let first ← results.operand first
      let second ← results.operand second
      (first.concatenate second).mapError .refused
  | alternate first second => do
      let first ← results.operand first
      let second ← results.operand second
      (first.alternate second).mapError .refused

end Call

/-- Make calls one after another, each with the results of those before it. -/
def Results.after (results : Results) : List Call → Results
  | [] => results
  | call :: rest => Results.after (results ++ [(call.run results).toOption]) rest

end PatternAlgebra
