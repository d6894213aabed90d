import RecordRules.Json.Basic
import RecordRules.Text

/-!
# Loose comparison

Form input arrives as text, so values are compared by what they spell. A
number and a text that spells it are the same number (`asNumber`); a boolean
equals whatever is as true as it is (`truthy`); null equals the empty text.
Collections are compared element by element. Only where one of two scalars is
no number are their texts compared.
-/

namespace RecordRules

/-! ## Views of a value -/

/-- The number that a text spells, with white space around it allowed. -/
def numberInText (s : String) : Option Binary64 :=
  (Decimal.read? (Text.trim s.toList)).bind Decimal.toBinary64

/-- The value as a number: a number, or a text that spells one. -/
def asNumber : Json → Option Binary64
  | .num n => n.toBinary64?
  | .str s => numberInText s
  | _ => none

/-- The text of a scalar; null and collections have none. -/
def valueText : Json → Option String
  | .str s => some s
  | .num n => some n.render
  | .bool b => some (if b then "true" else "false")
  | _ => none

def textLength (v : Json) : Option Nat := (valueText v).map String.length

/-- Null, `false`, zero, the empty text, the text `0` and empty collections
are false. -/
def truthy : Json → Bool
  | .null => false
  | .bool b => b
  | .num n => n.toBinary64?.any (!·.isZero)
  | .str s => !(s.isEmpty || s == "0")
  | .arr items => !items.isEmpty
  | .obj entries => !entries.isEmpty

/-- Null, the empty text and empty collections. Zero is not blank. -/
def isBlank : Json → Bool
  | .null => true
  | .str s => s.isEmpty
  | .arr items => items.isEmpty
  | .obj entries => entries.isEmpty
  | _ => false

/-! ## Equality and order -/

/-- Equal as numbers if both are numbers, else equal as texts. -/
def looseEqScalar (a b : Json) : Bool :=
  match asNumber a, asNumber b with
  | some x, some y => x.eq y
  | _, _ =>
    match valueText a, valueText b with
    | some s, some t => s == t
    | _, _ => false

mutual

/-- Loose equality. -/
def looseEq : Json → Json → Bool
  | .bool x, b => x == truthy b
  | a, .bool y => y == truthy a
  | .null, .null => true
  | .null, .str s => s.isEmpty
  | .str s, .null => s.isEmpty
  | .arr xs, .arr ys => looseEqItems xs ys
  | .obj xs, .obj ys => xs.length == ys.length && looseEqEntries xs ys
  | a, b => looseEqScalar a b

/-- Lists of one length with equal elements in every place. -/
def looseEqItems : List Json → List Json → Bool
  | [], [] => true
  | x :: xs, y :: ys => looseEq x y && looseEqItems xs ys
  | _, _ => false

/-- Every entry has an equal one under its key in the other map. -/
def looseEqEntries : List (String × Json) → List (String × Json) → Bool
  | [], _ => true
  | (k, v) :: es, ys =>
    (match ys.lookup k with
      | some w => looseEq v w
      | none => false)
      && looseEqEntries es ys

end

/-- The numeric order of two values, if both are numbers. -/
def compareNumbers (a b : Json) : Option Ordering := do
  return (← asNumber a).compare (← asNumber b)

/-- The needle is an element of a list or a value of a map, or its text is
found in the text of a scalar. -/
def containsValue (hay needle : Json) : Bool :=
  match hay with
  | .arr items => items.any (looseEq · needle)
  | .obj entries => entries.any (looseEq ·.2 needle)
  | hay =>
    match valueText hay, valueText needle with
    | some h, some n => Text.contains h n
    | _, _ => false

end RecordRules
