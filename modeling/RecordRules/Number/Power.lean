/-!
# Powers of natural numbers

Significant bits and decimal places are counted in powers of two and of ten.
`power` is the power of one natural number by another, with the few laws that
rounding rests on: it grows with its exponent, and smaller powers of a base
divide larger ones.
-/

namespace RecordRules

/-- The number `base` multiplied `k` times with itself. -/
def power (base k : Nat) : Nat := Nat.pow base k

@[simp] theorem power_zero (base : Nat) : power base 0 = 1 := rfl

theorem power_pos {base : Nat} (h : 0 < base) (k : Nat) : 0 < power base k := Nat.pow_pos h

theorem power_add (base j k : Nat) : power base (j + k) = power base j * power base k :=
  Nat.pow_add base j k

theorem power_le_power {base j k : Nat} (hb : 0 < base) (h : j ≤ k) :
    power base j ≤ power base k := Nat.pow_le_pow_right hb h

theorem power_lt_power {base j k : Nat} (hb : 1 < base) (h : j < k) :
    power base j < power base k := Nat.pow_lt_pow_right hb h

theorem power_dvd_power (base : Nat) {j k : Nat} (h : j ≤ k) : power base j ∣ power base k :=
  Nat.pow_dvd_pow base h

end RecordRules
