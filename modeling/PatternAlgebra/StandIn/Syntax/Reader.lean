import PatternAlgebra.StandIn.Syntax.Bounds
import PatternAlgebra.StandIn.Syntax.CharClass
import PatternAlgebra.StandIn.Syntax.Draft

/-!
# Reading pattern text

A machine reads pattern text one character at a time.  Its state is the draft
of the tree and a position inside the construct that is being read: after a
backslash, between braces, in a class, in the head of a group.  `step?` is one
character, `run?` is a text, and `Tree.read?` starts the machine and looks at
where it ends.

Because the machine never looks ahead, reading one text after another is
running it on the first and then on the second.
-/

namespace PatternAlgebra.StandIn.Syntax

/-- Where the machine stands inside a construct. -/
inductive Position where
  /-- Between constructs. -/
  | ready
  /-- After a quantifier, which a question mark makes lazy.  A patient one
  waits for it past the layout of a verbose pattern. -/
  | quantified (patient : Bool)
  /-- Directly after the question mark of a lazy quantifier. -/
  | reluctant
  /-- In a comment of a verbose pattern, which lasts to the end of the line. -/
  | comment (resume : Position)
  /-- After a backslash. -/
  | escape
  /-- After an opening parenthesis. -/
  | group
  /-- After `(?`. -/
  | groupMark
  /-- After `(?<`. -/
  | groupAngle
  /-- After `(?P`. -/
  | groupLetter
  /-- In the name of a group, with its characters so far, the latest first. -/
  | groupName (name : List Char)
  /-- In the flags of a directive, with the changes so far, the latest first,
  and the number of characters they took. -/
  | flags (edits : List (Flag × Bool)) (negated : Bool) (length : Nat)
  /-- In the number of a backreference. -/
  | number (value : Nat)
  /-- After `\k`. -/
  | reference
  /-- In the name of a backreference, up to a delimiter, the latest character
  first. -/
  | referenceName (closing : Char) (name : List Char)
  /-- Between braces. -/
  | braces (bounds : BoundsDraft)
  /-- In a class. -/
  | charClass (draft : ClassDraft)
  deriving DecidableEq, Repr

/-- A draft and a position inside a construct. -/
structure ReaderState where
  draft : Draft
  position : Position
  deriving DecidableEq, Repr

/-- The state between constructs. -/
def Draft.ready (draft : Draft) : ReaderState :=
  ⟨draft, .ready⟩

/-- The state inside a construct. -/
def Draft.at (draft : Draft) (position : Position) : ReaderState :=
  ⟨draft, position⟩

/-! ## Layout -/

/-- Where the machine stands after a character that only lays a verbose
pattern out. -/
def layout? (dialect : Dialect) (verbose : Bool) (position : Position) (c : Char) :
    Option Position :=
  if verbose && dialect.isLayout c then some position
  else if verbose && c = '#' then some (.comment position)
  else none

/-! ## Names -/

/-- The name may be given to a group.  In the standard dialect it starts with
a letter, and dots and brackets may follow. -/
def allowsName (dialect : Dialect) (name : List Char) : Bool :=
  match dialect, name with
  | _, [] => false
  | .standard, first :: rest =>
      (Text.isWord first && !Text.isDigit first) &&
        rest.all fun c => Text.isWord c || c = '.' || c = '[' || c = ']'
  | .backtracking, name => name.all Text.isWord

/-- The group that a backreference names.  A number that is no name is the
number of a group. -/
def Draft.named? (draft : Draft) (name : List Char) : Option Nat :=
  match draft.names.lookup (String.ofList name) with
  | some index => some index
  | none => Text.decimal? name

/-! ## Repetition -/

/-- A quantifier of one character. -/
def quantify? (dialect : Dialect) (draft : Draft) (lower : Nat) (upper : Option Nat) :
    Option ReaderState :=
  (draft.repeat? dialect lower upper).map fun draft =>
    draft.at (.quantified dialect.isExtended)

/-- Braces that hold no bounds stand for themselves. -/
def Draft.addBraces (draft : Draft) (bounds : BoundsDraft) : Draft :=
  ('{' :: bounds.text).foldl (fun draft c => draft.addChar (.literal c)) draft

/-! ## Single characters -/

/-- The deepest level of groups in the backtracking dialect. -/
def deepestGroup : Nat :=
  63

/-- An opening parenthesis. -/
def openParenthesis? (dialect : Dialect) (draft : Draft) : Option ReaderState :=
  if dialect.isExtended && deepestGroup ≤ draft.outer.length then none
  else some (draft.at .group)

/-- A character between constructs that does not lay the pattern out. -/
def construct? (dialect : Dialect) (draft : Draft) (c : Char) : Option ReaderState :=
  match c with
  | '\\' => some (draft.at .escape)
  | '(' => openParenthesis? dialect draft
  | ')' => (draft.close? dialect).map Draft.ready
  | '[' => some (draft.at (.charClass .start))
  | '|' => some draft.bar.ready
  | '.' => some (draft.addChar (if draft.modes.dotAll then .any else .anyButNewline)).ready
  | '^' =>
      some (draft.addAssertion (if draft.modes.multiLine then .lineStart else .textStart)).ready
  | '$' =>
      some (draft.addAssertion (if draft.modes.multiLine then .lineEnd else .textEnd)).ready
  | '*' => quantify? dialect draft 0 none
  | '+' => quantify? dialect draft 1 none
  | '?' => quantify? dialect draft 0 (some 1)
  | '{' =>
      if dialect.isExtended && draft.hasNoOperand then
        some (draft.addChar (.literal '{')).ready
      else some (draft.at (.braces .start))
  | c => some (draft.addChar (.literal c)).ready

/-- A character between constructs. -/
def ready? (dialect : Dialect) (draft : Draft) (c : Char) : Option ReaderState :=
  match layout? dialect draft.modes.verbose .ready c with
  | some position => some (draft.at position)
  | none => construct? dialect draft c

/-- A character after a quantifier. -/
def quantified? (dialect : Dialect) (draft : Draft) (patient : Bool) (c : Char) :
    Option ReaderState :=
  if c = '?' then
    some (draft.makeLazy.at (if dialect.isExtended then .reluctant else .ready))
  else if c = '+' ∧ dialect.isExtended then some draft.makeAtomic.ready
  else
    match layout? dialect (draft.modes.verbose && patient) (.quantified patient) c with
    | some position => some (draft.at position)
    | none => ready? dialect draft c

/-- A character after the question mark of a lazy quantifier. -/
def reluctant? (dialect : Dialect) (draft : Draft) (c : Char) : Option ReaderState :=
  if c = '+' ∧ dialect.isExtended then some draft.makeAtomic.ready
  else ready? dialect draft c

/-- The assertions that a character stands for after a backslash. -/
def assertions : List (Char × Assertion) :=
  [('A', .textStart), ('z', .textEnd), ('b', .wordBoundary), ('B', .noWordBoundary),
    ('<', .wordStart), ('>', .wordEnd)]

/-- The character after a backslash. -/
def escape? (dialect : Dialect) (draft : Draft) (c : Char) : Option ReaderState :=
  match assertions.lookup c with
  | some kind => some (draft.addAssertion kind).ready
  | none =>
      if c = 'k' ∧ dialect.isExtended then some (draft.at .reference)
      else if c.isDigit ∧ dialect.isExtended then some (draft.at (.number (c.toNat - 48)))
      else
        match escapeAtom? dialect c with
        | some (.kind members negated) => some (draft.addChar (.kind members negated)).ready
        | some (.quoted d) => some (draft.addChar (.literal d)).ready
        | some (.raw d) => some (draft.addChar (.literal d)).ready
        | none => none

/-! ## Heads of groups -/

/-- The flag of a letter. -/
def flagOfLetter? (c : Char) : Option Flag :=
  Flag.all.find? fun flag => flag.letter = c

/-- Flags may not end here.  The standard dialect refuses a hyphen that no
flag follows; the backtracking dialect refuses a hyphen that stands alone. -/
def isDangling (dialect : Dialect) (edits : List (Flag × Bool)) (negated : Bool)
    (length : Nat) : Bool :=
  match dialect with
  | .standard =>
      match edits with
      | [] => negated
      | (_, value) :: _ => negated && value
  | .backtracking => negated && length = 1

/-- A character in the flags of a directive. -/
def flags? (dialect : Dialect) (draft : Draft) (edits : List (Flag × Bool)) (negated : Bool)
    (length : Nat) (c : Char) : Option ReaderState :=
  if c = '-' then
    if negated then none else some (draft.at (.flags edits true (length + 1)))
  else if c = ')' then
    if length = 0 || isDangling dialect edits negated length then none
    else some (draft.direct edits.reverse).ready
  else if c = ':' then
    if isDangling dialect edits negated length then none
    else some (draft.openGroup .plain edits.reverse).ready
  else
    match flagOfLetter? c with
    | some flag =>
        if !dialect.isExtended && edits.any (fun edit => edit.1 = flag) then none
        else some (draft.at (.flags ((flag, !negated) :: edits) negated (length + 1)))
    | none =>
        let verbose := (draft.modes.edit edits.reverse).verbose && dialect.isExtended
        (layout? dialect verbose (.flags edits negated (length + 1)) c).map draft.at

/-- The character after `(?`. -/
def groupMark? (dialect : Dialect) (draft : Draft) (c : Char) : Option ReaderState :=
  if c = '<' then some (draft.at .groupAngle)
  else if c = 'P' then some (draft.at .groupLetter)
  else if (c = '=' ∨ c = '!') ∧ dialect.isExtended then
    some (draft.openGroup (.ahead (c = '!')) []).ready
  else if c = '>' ∧ dialect.isExtended then some (draft.openGroup .atomic []).ready
  else flags? dialect draft [] false 0 c

/-- The character after `(?<`. -/
def groupAngle? (dialect : Dialect) (draft : Draft) (c : Char) : Option ReaderState :=
  if c = '=' ∨ c = '!' then
    if dialect.isExtended then some (draft.openGroup (.behind (c = '!')) []).ready else none
  else some (draft.at (.groupName [c]))

/-- The character after `(?P`. -/
def groupLetter? (dialect : Dialect) (draft : Draft) (c : Char) : Option ReaderState :=
  if c = '<' then some (draft.at (.groupName []))
  else if c = '=' ∧ dialect.isExtended then some (draft.at (.referenceName ')' []))
  else none

/-- A character in the name of a group. -/
def groupName? (dialect : Dialect) (draft : Draft) (name : List Char) (c : Char) :
    Option ReaderState :=
  if c = '>' then
    if allowsName dialect name.reverse then
      (draft.openNamed? dialect (String.ofList name.reverse)).map Draft.ready
    else none
  else some (draft.at (.groupName (c :: name)))

/-! ## Backreferences -/

/-- A backreference by number ends. -/
def endNumber? (draft : Draft) (value : Nat) : Option Draft :=
  (draft.addReference? value).map fun draft => { draft with numbered := true }

/-- A character in the number of a backreference. -/
def number? (dialect : Dialect) (draft : Draft) (value : Nat) (c : Char) :
    Option ReaderState :=
  if c.isDigit then some (draft.at (.number (value * 10 + (c.toNat - 48))))
  else (endNumber? draft value).bind fun draft => ready? dialect draft c

/-- The character after `\k`. -/
def reference? (draft : Draft) (c : Char) : Option ReaderState :=
  if c = '<' then some (draft.at (.referenceName '>' []))
  else if c = '\'' then some (draft.at (.referenceName '\'' []))
  else none

/-- A character in the name of a backreference. -/
def referenceName? (dialect : Dialect) (draft : Draft) (closing : Char) (name : List Char)
    (c : Char) : Option ReaderState :=
  if c = closing then
    if allowsName dialect name.reverse then
      ((draft.named? name.reverse).bind draft.addReference?).map Draft.ready
    else none
  else some (draft.at (.referenceName closing (c :: name)))

/-! ## Braces -/

/-- A character between braces.  Where they hold no bounds the backtracking
dialect takes them as they stand. -/
def braces? (dialect : Dialect) (draft : Draft) (bounds : BoundsDraft) (c : Char) :
    Option ReaderState :=
  let instead := if dialect.isExtended then ready? dialect (draft.addBraces bounds) c else none
  if c = '}' then
    match bounds.bounds? dialect with
    | some (lower, upper) =>
        (draft.repeat? dialect lower upper).map fun draft => draft.at (.quantified true)
    | none => instead
  else
    match bounds.read? dialect draft.modes.verbose c with
    | some bounds => some (draft.at (.braces bounds))
    | none =>
        match layout? dialect draft.modes.verbose (.braces bounds) c with
        | some position => some (draft.at position)
        | none => instead

/-! ## Texts -/

/-- Read one character. -/
def step? (dialect : Dialect) (state : ReaderState) (c : Char) : Option ReaderState :=
  let draft := state.draft
  match state.position with
  | .ready => ready? dialect draft c
  | .quantified patient => quantified? dialect draft patient c
  | .reluctant => reluctant? dialect draft c
  | .comment resume => some (if c = '\n' then draft.at resume else state)
  | .escape => escape? dialect draft c
  | .group =>
      if c = '?' then some (draft.at .groupMark)
      else
        match layout? dialect draft.modes.verbose .group c with
        | some position => some (draft.at position)
        | none => ready? dialect draft.openCapture c
  | .groupMark => groupMark? dialect draft c
  | .groupAngle => groupAngle? dialect draft c
  | .groupLetter => groupLetter? dialect draft c
  | .groupName name => groupName? dialect draft name c
  | .flags edits negated length => flags? dialect draft edits negated length c
  | .number value => number? dialect draft value c
  | .reference => reference? draft c
  | .referenceName closing name => referenceName? dialect draft closing name c
  | .braces bounds => braces? dialect draft bounds c
  | .charClass classDraft =>
      match classDraft.read? dialect draft.modes.verbose c with
      | none => none
      | some (.more next) => some (draft.at (.charClass next))
      | some (.done test) => some (draft.addChar test).ready

/-- Read a text. -/
def run? (dialect : Dialect) : ReaderState → List Char → Option ReaderState
  | state, [] => some state
  | state, c :: rest =>
      match step? dialect state c with
      | none => none
      | some next => run? dialect next rest

/-! ## Whole patterns -/

/-- The text ends at a position: what was being read is complete, or the text
is refused. -/
def endText? (dialect : Dialect) (draft : Draft) : Position → Option Draft
  | .ready => some draft
  | .quantified _ => some draft
  | .reluctant => some draft
  | .comment resume => endText? dialect draft resume
  | .number value => endNumber? draft value
  | .braces bounds => if dialect.isExtended then some (draft.addBraces bounds) else none
  | _ => none

/-- The tree of a pattern, and the numbers of its named groups. -/
structure Tree where
  body : Node
  names : List (String × Nat)
  deriving DecidableEq, Repr

/-- The greatest height of a tree in the standard dialect. -/
def greatestHeight : Nat :=
  250

/-- The tree of a draft in which no group is open.  The backtracking dialect
simplifies it, and the standard dialect sees that it is not too high. -/
def Draft.tree? (dialect : Dialect) (draft : Draft) : Option Tree :=
  if !draft.outer.isEmpty || draft.mixesReferences then none
  else
    match dialect with
    | .backtracking => some ⟨draft.frame.body.simplify, draft.names⟩
    | .standard =>
        if draft.frame.body.height ≤ greatestHeight then some ⟨draft.frame.body, draft.names⟩
        else none

/-- Read a pattern, with these flags in force from its start. -/
def Tree.read? (dialect : Dialect) (modes : Modes) (text : List Char) : Option Tree :=
  match run? dialect (Draft.start modes).ready text with
  | none => none
  | some state => (endText? dialect state.draft state.position).bind (Draft.tree? dialect)

end PatternAlgebra.StandIn.Syntax
