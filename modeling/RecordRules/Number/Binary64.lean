import RecordRules.Number.Power

/-!
# Finite binary floating-point numbers

A record's fractional numbers are the finite numbers of the 64-bit binary
format: a sign and a magnitude that has at most 53 significant bits and is a
whole number of units of 2⁻¹⁰⁷⁴, below 2¹⁰²⁴. The magnitude is kept as that
number of units, so every comparison and every rounding is exact arithmetic
on natural numbers; nothing here depends on machine floats.

- `nearest` is the quotient rounded to the nearest whole number, ties to even;
- `roundUnits` rounds a quotient of units to 53 significant bits, and what it
  gives is a magnitude of the format unless it is too large
  (`fits_roundUnits`);
- `rounded`, `ofInt`, `mul` and `div` are then one rounding each, and have no
  answer exactly where the rounded result is too large.

Zero keeps its sign, which only its text shows: `compare` takes both zeros
for the same number.
-/

namespace RecordRules

/-- The number of binary digits of `n`, none for zero. -/
def bitLength (n : Nat) : Nat := if n = 0 then 0 else n.log2 + 1

theorem lt_power_bitLength (n : Nat) : n < power 2 (bitLength n) := by
  unfold bitLength
  split
  next h =>
    subst h
    exact Nat.one_pos
  next => exact Nat.lt_log2_self

theorem bitLength_le {n k : Nat} (h : n < power 2 k) : bitLength n ≤ k := by
  unfold bitLength
  split
  next => exact Nat.zero_le k
  next h0 => exact (Nat.log2_lt h0).2 h

namespace Binary64

/-- How many units of 2⁻¹⁰⁷⁴ make one. -/
def unitsPerOne : Nat := power 2 1074

/-- The first power of two beyond the format, 2¹⁰²⁴, in units. -/
def tooLarge : Nat := power 2 2098

theorem tooLarge_pos : 0 < tooLarge := power_pos (by decide) 2098

/-- A magnitude of the format: below 2¹⁰²⁴, and with at most 53 significant
bits. -/
def Fits (units : Nat) : Prop :=
  units < tooLarge ∧ power 2 (bitLength units - 53) ∣ units

instance (units : Nat) : Decidable (Fits units) := by
  unfold Fits
  infer_instance

theorem fits_zero : Fits 0 := ⟨tooLarge_pos, Nat.dvd_zero _⟩

end Binary64

/-- A finite number of the 64-bit binary format. -/
structure Binary64 where
  negative : Bool
  /-- The distance from zero in units of 2⁻¹⁰⁷⁴. -/
  magnitude : Nat
  fits : Binary64.Fits magnitude
  deriving DecidableEq

namespace Binary64

/-! ## Rounding -/

/-- The quotient rounded to the nearest whole number, a tie to the even one. -/
def nearest (num den : Nat) : Nat :=
  let q := num / den
  let twice := 2 * (num % den)
  if twice < den ∨ (twice = den ∧ q % 2 = 0) then q else q + 1

/-- The quotient of units rounded to 53 significant bits. -/
def roundUnits (num den : Nat) : Nat :=
  let step := power 2 (bitLength (num / den) - 53)
  nearest num (den * step) * step

theorem nearest_le (num den : Nat) : nearest num den ≤ num / den + 1 := by
  simp only [nearest]
  split <;> omega

/-- At most 2⁵³ steps of a power of two make a magnitude of that precision. -/
theorem dvd_mul_power {n s : Nat} (h : n ≤ power 2 53) :
    power 2 (bitLength (n * power 2 s) - 53) ∣ n * power 2 s := by
  rcases Nat.lt_or_eq_of_le h with hlt | heq
  · have hb : bitLength (n * power 2 s) ≤ 53 + s := by
      apply bitLength_le
      rw [power_add]
      exact Nat.mul_lt_mul_of_pos_right hlt (power_pos (by decide) s)
    exact Nat.dvd_trans (power_dvd_power 2 (by omega)) (Nat.dvd_mul_left _ _)
  · have hb : bitLength (n * power 2 s) ≤ 53 + s + 1 := by
      apply bitLength_le
      rw [heq, ← power_add]
      exact power_lt_power (by decide) (by omega)
    rw [heq, ← power_add] at hb ⊢
    exact power_dvd_power 2 (by omega)

/-- A rounded quotient is a magnitude of the format unless it is too large. -/
theorem fits_roundUnits {num den : Nat} (h : roundUnits num den < tooLarge) :
    Fits (roundUnits num den) := by
  refine ⟨h, ?_⟩
  apply dvd_mul_power
  refine Nat.le_trans (nearest_le _ _) ?_
  have hq : num / (den * power 2 (bitLength (num / den) - 53)) < power 2 53 := by
    rw [← Nat.div_div_eq_div_mul]
    apply Nat.div_lt_of_lt_mul
    rw [← power_add]
    exact Nat.lt_of_lt_of_le (lt_power_bitLength _) (power_le_power (by decide) (by omega))
  exact hq

/-- The number of that sign nearest to a quotient of units, if it is not too
large for the format. -/
def rounded (negative : Bool) (num den : Nat) : Option Binary64 :=
  if h : roundUnits num den < tooLarge then
    some ⟨negative, roundUnits num den, fits_roundUnits h⟩
  else none

/-! ## Zero, order and arithmetic -/

def zero (negative : Bool) : Binary64 := ⟨negative, 0, fits_zero⟩

def isZero (x : Binary64) : Bool := x.magnitude == 0

/-- The number in units of 2⁻¹⁰⁷⁴, with its sign. -/
def units (x : Binary64) : Int := if x.negative then -(x.magnitude : Int) else x.magnitude

/-- The numeric order, in which both zeros are equal. -/
def compare (x y : Binary64) : Ordering := Ord.compare x.units y.units

def eq (x y : Binary64) : Bool := x.units == y.units

def lt (x y : Binary64) : Bool := x.units < y.units

def le (x y : Binary64) : Bool := x.units ≤ y.units

/-- The order of a natural number and a fractional one, without rounding. -/
def compareNat (n : Nat) (x : Binary64) : Ordering :=
  Ord.compare ((n * unitsPerOne : Nat) : Int) x.units

def ofInt (n : Int) : Option Binary64 := rounded (n < 0) (n.natAbs * unitsPerOne) 1

def mul (x y : Binary64) : Option Binary64 :=
  rounded (x.negative != y.negative) (x.magnitude * y.magnitude) unitsPerOne

def div (x y : Binary64) : Option Binary64 :=
  rounded (x.negative != y.negative) (x.magnitude * unitsPerOne) y.magnitude

/-- Its whole part, the fraction cut off, is zero. -/
def isBelowOne (x : Binary64) : Bool := x.magnitude < unitsPerOne

def neg (x : Binary64) : Binary64 := { x with negative := !x.negative }

end Binary64

end RecordRules
