import RecordRules.Number.Binary64

/-!
# Decimal numerals

A decimal numeral is a sign, digits and a power of ten. This file reads the
numerals that text may spell (`Decimal.read?`: digits with at most one point
among them, at least one digit, and an optional exponent) and gives the
number of the 64-bit format nearest to a numeral (`Decimal.toBinary64`),
which is missing exactly where the rounded value is too large.
-/

namespace RecordRules

/-- `± digits · 10 ^ exponent`. -/
structure Decimal where
  negative : Bool
  digits : Nat
  exponent : Int
  deriving DecidableEq, Repr

namespace Decimal

/-! ## Digits -/

def digit? (c : Char) : Option Nat :=
  if '0' ≤ c ∧ c ≤ '9' then some (c.toNat - '0'.toNat) else none

/-- The digit's character; only digits below ten are asked for. -/
def digitChar (d : Nat) : Char := Char.ofNat ('0'.toNat + d % 10)

def isDigit (c : Char) : Bool := (digit? c).isSome

/-- The number that a run of digits spells; the empty run spells zero. -/
def ofDigits (cs : List Char) : Nat :=
  cs.foldl (fun n c => 10 * n + (digit? c).getD 0) 0

/-- The decimal digits of a number, `0` for zero. -/
def digitsOf (n : Nat) : List Char := Nat.toDigits 10 n

/-! ## Reading -/

/-- A sign, if there is one, and what follows it. -/
def splitSign : List Char → Bool × List Char
  | '-' :: cs => (true, cs)
  | '+' :: cs => (false, cs)
  | cs => (false, cs)

def readExponent? (cs : List Char) : Option Int :=
  let (negative, ds) := splitSign cs
  if ds.isEmpty || !ds.all isDigit then none
  else some (if negative then -(ofDigits ds : Int) else ofDigits ds)

/-- What follows the digits of a numeral: nothing, or `e` and an exponent. -/
def readTail? : List Char → Option Int
  | [] => some 0
  | c :: cs => if c = 'e' ∨ c = 'E' then readExponent? cs else none

def read? (cs : List Char) : Option Decimal :=
  let (negative, cs) := splitSign cs
  let whole := cs.takeWhile isDigit
  let afterWhole := cs.dropWhile isDigit
  let (fraction, afterFraction) :=
    match afterWhole with
    | '.' :: rest => (rest.takeWhile isDigit, rest.dropWhile isDigit)
    | rest => ([], rest)
  if whole.isEmpty && fraction.isEmpty then none
  else do
    let e ← readTail? afterFraction
    return ⟨negative, ofDigits (whole ++ fraction), e - fraction.length⟩

/-! ## Value -/

/-- The number nearest to the numeral. Numerals with more than 400 digits
before the point, or 400 zeros after it, are too large or are zero whatever
their digits are. -/
def toBinary64 (d : Decimal) : Option Binary64 :=
  let size : Int := (digitsOf d.digits).length + d.exponent
  if d.digits = 0 then some (.zero d.negative)
  else if size > 400 then none
  else if size < -400 then some (.zero d.negative)
  else if d.exponent < 0 then
    Binary64.rounded d.negative (d.digits * Binary64.unitsPerOne) (power 10 d.exponent.natAbs)
  else
    Binary64.rounded d.negative (d.digits * power 10 d.exponent.natAbs * Binary64.unitsPerOne) 1

end Decimal

end RecordRules
