import PatternAlgebra.StandIn.Syntax.Regular

/-!
# The size of a compiled pattern

A size limit is about the bytes that a compiled pattern takes.  They are
estimated from the tree: each test of a character has a price, and a counted
repetition pays for every copy of its body.

A pattern that stands for a short list of words is compiled to that list and
takes no such bytes, so it is within any limit.
-/

namespace PatternAlgebra.StandIn.Syntax

/-! ## Prices -/

/-- The bytes of a whole pattern before anything is in it. -/
def basePrice : Nat :=
  200

/-- The bytes of one transition. -/
def transitionPrice : Nat :=
  32

/-- The bytes of one choice between two ways. -/
def choicePrice : Nat :=
  40

/-- The bytes of the two marks of a group. -/
def groupPrice : Nat :=
  64

/-- The bytes of a class of characters outside ASCII. -/
def widePrice : Nat :=
  1000

namespace CharKind

/-- The bytes of a kind. -/
def price : CharKind → Bool → Nat
  | digit, false => 4504
  | digit, true => 11312
  | blank, false => 680
  | blank, true => 1924
  | word, false => 47100
  | word, true => 44340

end CharKind

namespace ClassItem

/-- The bytes of an item of a class. -/
def price : ClassItem → Nat
  | range first last => if last.toNat < 128 then 8 else if first = last then 36 else 72
  | kind members negated => members.price negated

/-- The item holds ASCII characters only. -/
def isNarrow : ClassItem → Bool
  | range _ last => last.toNat < 128
  | kind _ _ => false

/-- The characters of an item, if they are few. -/
def few? : ClassItem → Option (List Char)
  | range first last =>
      let count := last.toNat + 1 - first.toNat
      if count ≤ 10 then some ((List.range count).map fun i => Char.ofNat (first.toNat + i))
      else none
  | kind _ _ => none

end ClassItem

namespace CharTest

/-- The bytes of a test. -/
def price (fold : Bool) : CharTest → Nat
  | literal c =>
      if fold && c.isAlpha then transitionPrice + choicePrice else transitionPrice * c.utf8Size
  | any => widePrice
  | anyButNewline => widePrice
  | kind members negated => members.price negated
  | oneOf negated items =>
      let listed := items.foldr (fun item rest => item.price + rest) 0
      if !negated && items.all ClassItem.isNarrow then groupPrice + listed
      else widePrice + listed

/-- The characters that pass a test, if they are few. -/
def few? (fold : Bool) : CharTest → Option (List Char)
  | literal c => some (if fold && c.isAlpha then [c, otherCase c] else [c])
  | oneOf false items =>
      match items.mapM ClassItem.few? with
      | none => none
      | some lists =>
          let chars := if fold then lists.flatten ++ lists.flatten.map otherCase else lists.flatten
          if chars.eraseDups.length ≤ 10 then some chars.eraseDups else none
  | _ => none

end CharTest

namespace Regular

/-- An estimate of the bytes that a tree takes. -/
def price : Regular → Nat
  | empty => transitionPrice
  | char test fold => test.price fold
  | assertion _ => transitionPrice
  | seq first second => first.price + second.price
  | alt first second => first.price + second.price + choicePrice
  | repeated body lower upper _ =>
      match upper with
      | none => body.price * max 1 lower + choicePrice
      | some n => body.price * lower + (body.price + choicePrice) * (n - lower)
  | group _ body => body.price + groupPrice

/-! ## Words -/

/-- The most words of a list that is searched for as it stands. -/
def mostWords : Nat :=
  250

/-- The longest word of such a list. -/
def longestWord : Nat :=
  100

/-- A list of words that is short enough. -/
def shortList? (words : List (List Char)) : Option (List (List Char)) :=
  if words.length ≤ mostWords ∧ words.all (fun word => word.length ≤ longestWord) then some words
  else none

/-- Every word of one list followed by every word of another. -/
def cross (first second : List (List Char)) : List (List Char) :=
  first.flatMap fun start => second.map (start ++ ·)

/-- A list of words crossed with another as often. -/
def crossTimes? (words : List (List Char)) : Nat → List (List Char) → Option (List (List Char))
  | 0, start => some start
  | n + 1, start => (shortList? (cross start words)).bind (crossTimes? words n)

/-- The words that a tree stands for, if they are few. -/
def words? : Regular → Option (List (List Char))
  | empty => some [[]]
  | char test fold => (test.few? fold).map fun chars => chars.map fun c => [c]
  | assertion _ => none
  | seq first second =>
      match first.words?, second.words? with
      | some first, some second => shortList? (cross first second)
      | _, _ => none
  | alt first second =>
      match first.words?, second.words? with
      | some first, some second => shortList? (first ++ second)
      | _, _ => none
  | repeated body lower upper _ =>
      match body.words? with
      | none => none
      | some words =>
          if upper = some lower ∧ lower ≤ 10 then crossTimes? words lower [[]]
          else if lower = 0 ∧ upper = some 1 then shortList? ([] :: words)
          else none
  | group _ _ => none

/-- The tree stands for a short list of words, none of which is empty. -/
def isWordList (tree : Regular) : Bool :=
  match tree.words? with
  | none => false
  | some words => words.all fun word => !word.isEmpty

/-- The compiled pattern is within a size limit. -/
def fits (tree : Regular) (limit : Nat) : Bool :=
  tree.isWordList || basePrice + tree.price ≤ limit

end Regular

end PatternAlgebra.StandIn.Syntax
