import RecordRules.Number.Decimal

/-!
# The shortest numeral of a number

The text of a fractional number shows the fewest digits that read back as the
number. Every magnitude of the format is exactly `N · 10⁻¹⁰⁷⁴` for a natural
number `N` (`exactDigits`), because a unit is `5¹⁰⁷⁴ · 10⁻¹⁰⁷⁴`; a numeral
with fewer digits is found by dropping digits of `N`, and only the two
neighbours of the number on each coarser grid can be the nearest one there.
`shortest` tries one digit, two digits, and so on, and takes the first grid
with a neighbour that reads back, of two such neighbours the nearer one. The
exact numeral stands at the end of the search, so there is always an answer.

`Binary64.render` then lays the digits out: positional with a point between
10⁻⁵ and 10¹⁶, with an explicit exponent elsewhere.
-/

namespace RecordRules.Binary64

/-- The magnitude as a whole number of 10⁻¹⁰⁷⁴. -/
def exactDigits (x : Binary64) : Nat := x.magnitude * power 5 1074

/-- The numeral reads back as a number of that magnitude. -/
def readsBackAs (x : Binary64) (digits : Nat) (exponent : Int) : Bool :=
  match Decimal.toBinary64 ⟨false, digits, exponent⟩ with
  | some y => y.magnitude == x.magnitude
  | none => false

/-- The numeral with all but the last `drop` digits of `N` that reads back,
if one of the two neighbours does; the nearer one if both do, the even one
if both are equally near. -/
def neighbour? (x : Binary64) (N drop : Nat) : Option (Nat × Int) :=
  let grid := power 10 drop
  let low := N / grid
  let exponent : Int := (drop : Int) - 1074
  let belowOk := readsBackAs x low exponent
  let aboveOk := readsBackAs x (low + 1) exponent
  let twice := 2 * (N % grid)
  let lowNearer := twice < grid || (twice == grid && low % 2 == 0)
  if belowOk && (lowNearer || !aboveOk) then some (low, exponent)
  else if aboveOk then some (low + 1, exponent)
  else none

/-- The first numeral found when ever fewer digits of `N` are dropped. -/
def search (x : Binary64) (N : Nat) : Nat → Nat × Int
  | 0 => (N, -1074)
  | drop + 1 => (neighbour? x N (drop + 1)).getD (search x N drop)

/-- Digits without the zeros at their end, which the exponent makes up for. -/
def stripZeros : List Char → List Char := fun ds => (ds.reverse.dropWhile (· == '0')).reverse

def numeral (x : Binary64) : Nat × Int :=
  let N := x.exactDigits
  search x N ((Decimal.digitsOf N).length - 1)

/-- The fewest digits that read back, and the power of ten of the first. -/
def shortest (x : Binary64) : List Char × Int :=
  if x.isZero then (['0'], 0)
  else
    let found := x.numeral
    let ds := Decimal.digitsOf found.1
    (stripZeros ds, found.2 + ds.length - 1)

/-! ## Layout -/

/-- The digits with a point after the power of ten `lead` has come down to
zero. -/
def positional (ds : List Char) (lead : Int) : List Char :=
  if lead < 0 then
    '0' :: '.' :: (List.replicate (lead.natAbs - 1) '0' ++ ds)
  else
    let n := lead.natAbs + 1
    let whole := ds.take n ++ List.replicate (n - ds.length) '0'
    let fraction := ds.drop n
    whole ++ '.' :: (if fraction.isEmpty then ['0'] else fraction)

/-- One digit, the others behind a point, and the exponent with its sign. -/
def scientific (ds : List Char) (lead : Int) : List Char :=
  let mantissa :=
    match ds with
    | [] => []
    | [d] => [d]
    | d :: rest => d :: '.' :: rest
  mantissa ++ 'e' :: (if lead < 0 then '-' else '+') :: Decimal.digitsOf lead.natAbs

/-- The text of a number: positional from 10⁻⁵ up to 10¹⁶, with an exponent
elsewhere. -/
def render (x : Binary64) : String :=
  let (ds, lead) := shortest x
  let body := if -5 ≤ lead ∧ lead ≤ 15 then positional ds lead else scientific ds lead
  String.ofList (if x.negative then '-' :: body else body)

end RecordRules.Binary64
