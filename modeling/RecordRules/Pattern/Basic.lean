import RecordRules.Unicode.CaseFold
import RecordRules.Unicode.Property

/-!
# Text patterns

A pattern describes texts by their characters and by conditions on places
between them. Whether a text has a match somewhere is all that a rule asks,
so matching is a function on sets of places: `ends` takes the places where a
match may begin to all the places where one may end. Every construct acts on
such a set at once; a repetition is that action iterated, and since there
are no more places than characters and one, so many rounds reach them all.
-/

namespace RecordRules

/-- A set of characters. -/
abbrev CharSet := Char → Bool

/-- A condition on a place, by the characters before and after it. -/
inductive Anchor
  | textStart
  | textEnd
  | lineStart
  | lineEnd
  /-- The start of a line where a carriage return may end one too. -/
  | lineStartCrLf
  | lineEndCrLf
  | wordEdge (word : CharSet)
  | noWordEdge (word : CharSet)
  | wordStart (word : CharSet)
  | wordEnd (word : CharSet)
  | noWordBefore (word : CharSet)
  | noWordAfter (word : CharSet)

/-- The condition holds between two characters; at an end of the text one of
them is missing. -/
def Anchor.holds (before after : Option Char) : Anchor → Bool
  | .textStart => before.isNone
  | .textEnd => after.isNone
  | .lineStart => before.all (· == '\n')
  | .lineEnd => after.all (· == '\n')
  | .lineStartCrLf =>
    before.all fun c => c == '\n' || (c == '\r' && !after.any (· == '\n'))
  | .lineEndCrLf =>
    after.all fun c => c == '\r' || (c == '\n' && !before.any (· == '\r'))
  | .wordEdge w => before.any w != after.any w
  | .noWordEdge w => before.any w == after.any w
  | .wordStart w => !before.any w && after.any w
  | .wordEnd w => before.any w && !after.any w
  | .noWordBefore w => !before.any w
  | .noWordAfter w => !after.any w

/-- A pattern. -/
inductive Pattern
  | empty
  | char (set : CharSet)
  | anchor (condition : Anchor)
  | seq (first second : Pattern)
  | alt (left right : Pattern)
  | times (body : Pattern) (least : Nat) (most : Option Nat)

namespace Pattern

/-! ## Places -/

def mergePlaces : List Nat → List Nat → List Nat
  | [], bs => bs
  | a :: as, bs =>
    let smaller := bs.takeWhile (· < a)
    let rest := (bs.dropWhile (· < a)).filter (· != a)
    smaller ++ a :: mergePlaces as rest

/-- The places reached when an action is repeated exactly so often. -/
def iterate (act : List Nat → List Nat) : Nat → List Nat → List Nat
  | 0, places => places
  | n + 1, places => if places.isEmpty then [] else iterate act n (act places)

/-- The places reached when an action is repeated at most so often. A round
that reaches no new place is the last. -/
def accumulate (act : List Nat → List Nat) : Nat → List Nat → List Nat → List Nat
  | 0, reached, _ => reached
  | n + 1, reached, latest =>
    let fresh := (act latest).filter (!reached.contains ·)
    if fresh.isEmpty then reached else accumulate act n (mergePlaces reached fresh) fresh

/-! ## Matching -/

/-- The character before a place. -/
def before? (text : Array Char) (place : Nat) : Option Char :=
  if place = 0 then none else text[place - 1]?

/-- The places where a match may end, for all those where it may begin. -/
def ends (text : Array Char) : Pattern → List Nat → List Nat
  | .empty, places => places
  | .char set, places => (places.filter fun i => text[i]?.any set).map (· + 1)
  | .anchor condition, places =>
    places.filter fun i => condition.holds (before? text i) text[i]?
  | .seq p q, places => ends text q (ends text p places)
  | .alt p q, places => mergePlaces (ends text p places) (ends text q places)
  | .times p least most, places =>
    let act := ends text p
    let start := iterate act least places
    let rounds := text.size + 1
    accumulate act (most.elim rounds fun m => min (m - least) rounds) start start

/-- The pattern has a match somewhere in the text. -/
def isMatch (p : Pattern) (text : String) : Bool :=
  let chars := text.toList.toArray
  !(ends chars p (List.range (chars.size + 1))).isEmpty

end Pattern

end RecordRules
