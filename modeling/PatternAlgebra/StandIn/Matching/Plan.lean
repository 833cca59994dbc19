import PatternAlgebra.StandIn.Matching.Automaton
import PatternAlgebra.StandIn.Syntax.Footprint

/-!
# Plans of a search

A pattern that is not regular is searched by backtracking.  Its regular parts
need not be: where nothing that follows can send the search back into such a
part, an automaton takes it in one step.

A plan says which parts these are.  At the beginning of a sequence it is every
part that has a constant width, and so is it at the end; what stands at the end
of the whole body of a lookaround may have any width, since nothing follows.
A part given to an automaton matches in the way it prefers, and in no other
way.

Planning fails where the text before a position would have to be matched by a
body of no constant width, and where an automaton would exceed the size limit.
-/

namespace PatternAlgebra.StandIn.Matching

open Syntax (Node)

/-- A plan. -/
inductive Plan where
  | empty
  | char (test : Syntax.CharTest) (fold : Bool)
  | assertion (kind : Syntax.Assertion)
  /-- A part that an automaton matches, and the groups in it. -/
  | delegate (automaton : Automaton) (groups : List Nat)
  | seq (first second : Plan)
  | alt (first second : Plan)
  | repeated (body : Plan) (lower : Nat) (upper : Option Nat) (greedy : Bool)
  | group (index : Nat) (body : Plan)
  | atomic (body : Plan)
  | ahead (negated : Bool) (body : Plan)
  /-- The body matches the `width` characters before this position, or does
  not. -/
  | behind (negated : Bool) (width : Nat) (body : Plan)
  | backreference (index : Nat)
  deriving DecidableEq, Repr

/-! ## Regular parts -/

/-- The assertion looks at the words on both sides of a position. -/
def isAboutWords : Syntax.Assertion → Bool
  | .wordBoundary => true
  | .noWordBoundary => true
  | .wordStart => true
  | .wordEnd => true
  | _ => false

/-- The node needs backtracking, given the groups whose text is referred to. -/
def isHard (references : List Nat) : Node → Bool
  | .empty => false
  | .char _ _ => false
  | .assertion kind => isAboutWords kind
  | .seq first second => isHard references first || isHard references second
  | .alt first second => isHard references first || isHard references second
  | .plain body => isHard references body
  | .repeated body _ _ _ => isHard references body
  | .group index body => references.contains index || isHard references body
  | .atomic _ => true
  | .ahead _ _ => true
  | .behind _ _ => true
  | .backreference _ => true

/-- The node is text to be matched as it stands. -/
def isVerbatim : Node → Bool
  | .char (.literal _) fold => !fold
  | .seq first second => isVerbatim first && isVerbatim second
  | .plain body => isVerbatim body
  | _ => false

/-- The bounds allow a body once or not at all, so nothing in it follows it. -/
def isOptional (lower : Nat) (upper : Option Nat) : Bool :=
  lower = 0 && upper = some 1

/-- What a plan is made for. -/
structure Purpose where
  /-- The groups whose text is referred to. -/
  references : List Nat
  /-- The size limit of each automaton. -/
  limit : Nat

namespace Purpose

/-- The automaton of a regular part. -/
def automaton? (purpose : Purpose) (node : Node) : Option Plan :=
  match node.regular? with
  | none => none
  | some tree =>
      if isVerbatim node || tree.fits purpose.limit then
        some (.delegate (.ofRegular tree) tree.groups)
      else none

/-- The node is given to an automaton at the beginning of a sequence, and at
the end of one that something may follow. -/
def isSteady (purpose : Purpose) (node : Node) : Bool :=
  !isHard purpose.references node && node.width?.isSome

/-- The node is given to an automaton at the end of a sequence. -/
def isFinal (purpose : Purpose) (followed : Bool) (node : Node) : Bool :=
  !isHard purpose.references node && (!followed || node.width?.isSome)

/-- Every item of a sequence is given to an automaton at its end. -/
def isFinalSequence (purpose : Purpose) (followed : Bool) : Node → Bool
  | .seq first second =>
      purpose.isFinal followed first && purpose.isFinalSequence followed second
  | node => purpose.isFinal followed node

end Purpose

/-! ## Planning -/

/-- What is being planned. -/
inductive Stage where
  /-- A node of its own. -/
  | whole
  /-- A sequence, of which items at the beginning have been collected for an
  automaton, the latest first. -/
  | leading (items : List Node)
  /-- A sequence after those items. -/
  | middle
  /-- The alternatives after the first one. -/
  | branches
  /-- The alternatives of a lookbehind. -/
  | behinds (negated : Bool)
  deriving DecidableEq, Repr

namespace Plan

/-- One plan after another. -/
def join? (first second : Option Plan) : Option Plan :=
  match first, second with
  | some first, some second => some (seq first second)
  | _, _ => none

/-- One plan or the other. -/
def either? (first second : Option Plan) : Option Plan :=
  match first, second with
  | some first, some second => some (alt first second)
  | _, _ => none

/-- The collected items, followed by the rest of their sequence. -/
def afterItems? (purpose : Purpose) (items : List Node) (rest : Option Plan) : Option Plan :=
  match items with
  | [] => rest
  | items => join? (purpose.automaton? (Node.sequence items.reverse)) rest

/-- A lookbehind, if the width of its body is constant. -/
def behind? (negated : Bool) (node : Node) (body : Option Plan) : Option Plan :=
  match node.width?, body with
  | some width, some body => some (behind negated width body)
  | _, _ => none

/-- Put the plan of a node that is no sequence where a stage needs it.  The
function makes the plan for a node that is followed, or for one that is not. -/
def place? (purpose : Purpose) (node : Node) (followed : Bool) (stage : Stage)
    (make : Bool → Option Plan) : Option Plan :=
  let alone (followed : Bool) : Option Plan :=
    if !followed && !isHard purpose.references node then purpose.automaton? node
    else make followed
  let last (_ : Unit) : Option Plan :=
    if purpose.isFinal followed node then purpose.automaton? node else make true
  match stage with
  | .whole => alone followed
  | .branches => alone followed
  | .middle => last ()
  | .leading items =>
      if purpose.isSteady node then
        purpose.automaton? (Node.sequence (items.reverse ++ [node]))
      else afterItems? purpose items (last ())
  | .behinds negated => behind? negated node (alone false)

/-- The plan of a node.  A node that is followed may be returned to by the
search, and its regular parts are given to an automaton only where that cannot
matter. -/
def ofNode? (purpose : Purpose) : Node → (followed : Bool) → Stage → Option Plan
  | .seq first second, followed, stage =>
      let node : Node := .seq first second
      let tail (_ : Unit) : Option Plan :=
        if purpose.isFinalSequence followed node then purpose.automaton? node
        else join? (ofNode? purpose first true .whole) (ofNode? purpose second followed .middle)
      let after (items : List Node) : Option Plan :=
        if purpose.isSteady first then ofNode? purpose second followed (.leading (first :: items))
        else afterItems? purpose items (tail ())
      let alone (_ : Unit) : Option Plan :=
        if !followed && !isHard purpose.references node then purpose.automaton? node else after []
      match stage with
      | .whole => alone ()
      | .branches => alone ()
      | .middle => tail ()
      | .leading items => after items
      | .behinds negated => behind? negated node (alone ())
  | .alt first second, followed, stage =>
      match stage with
      | .branches =>
          either? (ofNode? purpose first followed .whole) (ofNode? purpose second followed .branches)
      | .behinds negated =>
          let rest := ofNode? purpose second false (.behinds negated)
          let this := behind? negated first (ofNode? purpose first false .whole)
          if negated then join? this rest else either? this rest
      | _ =>
          place? purpose (.alt first second) followed stage fun followed =>
            either? (ofNode? purpose first followed .whole)
              (ofNode? purpose second followed .branches)
  | .empty, followed, stage =>
      place? purpose .empty followed stage fun _ => some .empty
  | .char test fold, followed, stage =>
      place? purpose (.char test fold) followed stage fun _ =>
        match test with
        | .any => some (.char test fold)
        | .anyButNewline => some (.char test fold)
        | _ => purpose.automaton? (.char test fold)
  | .assertion kind, followed, stage =>
      place? purpose (.assertion kind) followed stage fun _ => some (.assertion kind)
  | .plain body, followed, stage =>
      place? purpose (.plain body) followed stage fun followed => ofNode? purpose body followed .whole
  | .repeated body lower upper greedy, followed, stage =>
      place? purpose (.repeated body lower upper greedy) followed stage fun followed =>
        let returns := !isOptional lower upper && isHard purpose.references body
        (ofNode? purpose body (followed || returns) .whole).map (.repeated · lower upper greedy)
  | .group index body, followed, stage =>
      place? purpose (.group index body) followed stage fun followed =>
        (ofNode? purpose body followed .whole).map (.group index)
  | .atomic body, followed, stage =>
      place? purpose (.atomic body) followed stage fun _ =>
        (ofNode? purpose body false .whole).map .atomic
  | .ahead negated body, followed, stage =>
      place? purpose (.ahead negated body) followed stage fun _ =>
        (ofNode? purpose body false .whole).map (.ahead negated)
  | .behind negated body, followed, stage =>
      place? purpose (.behind negated body) followed stage fun _ =>
        match body.width? with
        | some width => (ofNode? purpose body false .whole).map (.behind negated width)
        | none => ofNode? purpose body false (.behinds negated)
  | .backreference index, followed, stage =>
      place? purpose (.backreference index) followed stage fun _ => some (.backreference index)

end Plan

end PatternAlgebra.StandIn.Matching
