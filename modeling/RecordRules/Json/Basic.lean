import RecordRules.Number.Shortest

/-!
# Values

Records, operands and documents are trees of maps and lists over null,
booleans, numbers and text. A map is the list of its entries in document
order: rules walk it in that order, and a map with one entry may name the
field of an operand. Numbers come in two kinds that are kept apart, integers
of 64 bits (signed or unsigned) and finite 64-bit fractional numbers: `1` and
`1.0` are different values with different texts.

Equality of values is decided by `Json.same`, which runs through both trees
at once (`same_iff`).
-/

namespace RecordRules

/-- An integer that 64 bits hold, signed or unsigned. -/
structure Integer where
  val : Int
  inRange : -(power 2 63 : Int) ≤ val ∧ val < power 2 64
  deriving DecidableEq

def Integer.ofInt? (n : Int) : Option Integer :=
  if h : -(power 2 63 : Int) ≤ n ∧ n < power 2 64 then some ⟨n, h⟩ else none

/-- A number of a record. -/
inductive Number
  | int (n : Integer)
  | float (x : Binary64)
  deriving DecidableEq

namespace Number

/-- The number as a fractional one; an integer is rounded to the nearest. -/
def toBinary64? : Number → Option Binary64
  | .int n => Binary64.ofInt n.val
  | .float x => some x

/-- The text of a number: an integer's digits, or the fewest digits that read
back. -/
def render : Number → String
  | .int n => toString n.val
  | .float x => x.render

end Number

/-- A tree of maps and lists. -/
inductive Json
  | null
  | bool (b : Bool)
  | num (n : Number)
  | str (s : String)
  | arr (items : List Json)
  | obj (entries : List (String × Json))
  deriving Inhabited

namespace Json

/-! ## Equality -/

mutual

/-- Both trees are the same, entries of maps in the same order. -/
def same : Json → Json → Bool
  | .null, .null => true
  | .bool a, .bool b => a == b
  | .num a, .num b => decide (a = b)
  | .str a, .str b => decide (a = b)
  | .arr a, .arr b => sameItems a b
  | .obj a, .obj b => sameEntries a b
  | _, _ => false

def sameItems : List Json → List Json → Bool
  | [], [] => true
  | a :: as, b :: bs => same a b && sameItems as bs
  | _, _ => false

def sameEntries : List (String × Json) → List (String × Json) → Bool
  | [], [] => true
  | (k, a) :: as, (l, b) :: bs => decide (k = l) && same a b && sameEntries as bs
  | _, _ => false

end

mutual

theorem same_iff : (a b : Json) → (same a b = true ↔ a = b)
  | .null, b => by cases b <;> simp [same]
  | .bool _, b => by cases b <;> simp [same]
  | .num _, b => by cases b <;> simp [same]
  | .str _, b => by cases b <;> simp [same]
  | .arr as, b => by cases b <;> simp [same, sameItems_iff as]
  | .obj as, b => by cases b <;> simp [same, sameEntries_iff as]

theorem sameItems_iff : (as bs : List Json) → (sameItems as bs = true ↔ as = bs)
  | [], bs => by cases bs <;> simp [sameItems]
  | a :: as, bs => by cases bs <;> simp [sameItems, same_iff a, sameItems_iff as]

theorem sameEntries_iff : (as bs : List (String × Json)) → (sameEntries as bs = true ↔ as = bs)
  | [], bs => by cases bs <;> simp [sameEntries]
  | (k, a) :: as, bs => by
    cases bs with
    | nil => simp [sameEntries]
    | cons b bs =>
      cases b
      simp [sameEntries, same_iff a, sameEntries_iff as, and_assoc]

end

instance : DecidableEq Json := fun a b => decidable_of_iff _ (same_iff a b)

/-! ## Parts -/

/-- The entry of a map under a key: the first one, if a key is repeated. -/
def get? (key : String) : Json → Option Json
  | .obj entries => entries.lookup key
  | _ => none

def isNull : Json → Bool
  | .null => true
  | _ => false

def isList : Json → Bool
  | .arr _ => true
  | _ => false

def isText : Json → Bool
  | .str _ => true
  | _ => false

end Json

end RecordRules
