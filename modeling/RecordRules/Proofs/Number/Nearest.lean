import RecordRules.Number.Binary64

/-!
# The nearest number

An integer is rounded to a number of the format than which none is nearer
(`ofInt_isNearestTo`). The magnitudes that are as long as the integer, or
longer, are multiples of the step that it is rounded to, and the shorter ones
do not reach beyond these multiples (`le_or_ge_of_dvd`). So rounding only has to
choose between the two multiples around the integer.

What else is used of rounded integers follows from this alone. Rounding never
turns the order of two integers around (`IsNearestTo.units_mono`). And it
keeps two integers apart wherever an integer that the format has lies between
them or is one of them (`IsNearestTo.units_lt`), since a rounded integer never
crosses such a one (`IsNearestTo.units_le`, `IsNearestTo.le_units`).
-/

namespace RecordRules

namespace Binary64

/-! ## Magnitudes and steps -/

/-- The distance between neighbouring magnitudes as long as `v`. -/
def stepAt (v : Nat) : Nat := power 2 (bitLength v - 53)

theorem stepAt_pos (v : Nat) : 0 < stepAt v := power_pos (by decide) _

theorem roundUnits_one (v : Nat) : roundUnits v 1 = nearest v (stepAt v) * stepAt v := by
  rw [roundUnits, Nat.div_one, Nat.one_mul]
  rfl

theorem stepAt_power_dvd (k : Nat) : stepAt (power 2 k) ∣ power 2 k := by
  have hbits : bitLength (power 2 k) ≤ k + 1 :=
    bitLength_le (power_lt_power (by decide) (Nat.lt_succ_self k))
  exact power_dvd_power 2 (by omega)

/-- No magnitude lies between the two multiples of the step around `v`. -/
theorem le_or_ge_of_dvd {z : Nat} (h : stepAt z ∣ z) (v : Nat) :
    z ≤ v / stepAt v * stepAt v ∨ (v / stepAt v + 1) * stepAt v ≤ z := by
  by_cases hlong : bitLength v ≤ bitLength z
  · have hdvd : stepAt v ∣ z := Nat.dvd_trans (power_dvd_power 2 (by omega)) h
    obtain ⟨k, rfl⟩ := hdvd
    rw [Nat.mul_comm (stepAt v) k]
    rcases Nat.lt_or_ge (v / stepAt v) k with hk | hk
    · exact .inr (Nat.mul_le_mul_right _ hk)
    · exact .inl (Nat.mul_le_mul_right _ hk)
  · left
    have hv : v ≠ 0 := by
      rintro rfl
      exact hlong (Nat.zero_le _)
    have hbits : bitLength v = v.log2 + 1 := if_neg hv
    have htop : power 2 v.log2 ≤ v := Nat.log2_self_le hv
    have hstep : stepAt v ∣ power 2 v.log2 := power_dvd_power 2 (by omega)
    calc z ≤ power 2 (bitLength z) := Nat.le_of_lt (lt_power_bitLength z)
      _ ≤ power 2 v.log2 := power_le_power (by decide) (by omega)
      _ = power 2 v.log2 / stepAt v * stepAt v := (Nat.div_mul_cancel hstep).symm
      _ ≤ v / stepAt v * stepAt v := Nat.mul_le_mul_right _ (Nat.div_le_div_right htop)

theorem nearest_mul_closest {z v step : Nat} (hstep : 0 < step)
    (hz : z ≤ v / step * step ∨ (v / step + 1) * step ≤ z) :
    ((nearest v step * step : Nat) - v : Int).natAbs ≤ (z - v : Int).natAbs := by
  have hdiv : v / step * step + v % step = v := Nat.div_add_mod' v step
  have hmod : v % step < step := Nat.mod_lt v hstep
  rw [Nat.succ_mul] at hz
  simp only [nearest]
  split
  · generalize v / step * step = low at hdiv hz
    omega
  · rw [Nat.succ_mul]
    generalize v / step * step = low at hdiv hz
    omega

theorem roundUnits_closest {z : Nat} (h : stepAt z ∣ z) (v : Nat) :
    ((roundUnits v 1 : Nat) - v : Int).natAbs ≤ (z - v : Int).natAbs := by
  rw [roundUnits_one]
  exact nearest_mul_closest (stepAt_pos v) (le_or_ge_of_dvd h v)

/-! ## Rounded integers -/

/-- No number is nearer to the integer. -/
def IsNearestTo (x : Binary64) (n : Int) : Prop :=
  ∀ z : Binary64, (x.units - n * unitsPerOne).natAbs ≤ (z.units - n * unitsPerOne).natAbs

theorem signed_natAbs_mul (n u : Int) :
    (if n < 0 then -(n.natAbs * u) else n.natAbs * u) = n * u := by
  split
  · rw [Int.ofNat_natAbs_of_nonpos (by omega), Int.neg_mul, Int.neg_neg]
  · rw [Int.natAbs_of_nonneg (by omega)]

theorem units_ofInt {n : Int} {x : Binary64} (h : ofInt n = some x) :
    x.units = if n < 0 then -(roundUnits (n.natAbs * unitsPerOne) 1 : Int)
      else roundUnits (n.natAbs * unitsPerOne) 1 := by
  unfold ofInt rounded at h
  split at h
  next =>
    obtain rfl := Option.some.inj h
    simp only [units, decide_eq_true_eq]
  next => cases h

theorem ofInt_isNearestTo {n : Int} {x : Binary64} (h : ofInt n = some x) : x.IsNearestTo n := by
  intro z
  have hclosest := roundUnits_closest z.fits.2 (n.natAbs * unitsPerOne)
  -- Beyond zero, on the other side of the integer, nothing is nearer than zero.
  have hzero := roundUnits_closest fits_zero.2 (n.natAbs * unitsPerOne)
  rw [units_ofInt h, ← signed_natAbs_mul n unitsPerOne, ← Int.natCast_mul, units]
  generalize (n.natAbs * unitsPerOne : Nat) = v at *
  generalize roundUnits v 1 = r at *
  split <;> split <;> omega

/-- The format has the integer as it is. -/
def IsExact (n : Int) : Prop := ∃ z : Binary64, z.units = n * unitsPerOne

/-- The format has every multiple of a power of two with a factor of at most
53 bits. -/
theorem exists_units_eq {c : Int} (hc : c.natAbs ≤ power 2 53) {k : Nat} (hk : k ≤ 11) :
    ∃ z : Binary64, z.units = c * power 2 k * unitsPerOne := by
  have hlarge : c.natAbs * power 2 (k + 1074) < tooLarge := by
    calc c.natAbs * power 2 (k + 1074) ≤ power 2 53 * power 2 (k + 1074) :=
          Nat.mul_le_mul_right _ hc
      _ = power 2 (53 + (k + 1074)) := (power_add ..).symm
      _ < tooLarge := power_lt_power (by decide) (by omega)
  refine ⟨⟨c < 0, c.natAbs * power 2 (k + 1074), hlarge, dvd_mul_power hc⟩, ?_⟩
  have hunits : ((power 2 (k + 1074) : Nat) : Int) = power 2 k * unitsPerOne := by
    rw [power_add, Int.natCast_mul]
    rfl
  rw [units, Int.natCast_mul, hunits, Int.mul_assoc]
  simp only [decide_eq_true_eq, signed_natAbs_mul]

theorem isExact_of_natAbs_le {n : Int} (h : n.natAbs ≤ power 2 53) : IsExact n := by
  obtain ⟨z, hz⟩ := exists_units_eq h (Nat.zero_le 11)
  refine ⟨z, hz.trans ?_⟩
  rw [power_zero, Int.natCast_one, Int.mul_one]

/-! ## Order -/

theorem mul_units_lt {m n : Int} (h : m < n) : m * unitsPerOne < n * unitsPerOne :=
  Int.mul_lt_mul_of_pos_right h (Int.natCast_pos.mpr (power_pos (by decide) _))

theorem mul_units_le {m n : Int} (h : m ≤ n) : m * unitsPerOne ≤ n * unitsPerOne :=
  Int.mul_le_mul_of_nonneg_right h (Int.natCast_nonneg _)

/-- Rounding does not make one number of the two integers, if they differ: one
of them is smaller than 2⁵³, or the format has both as they are, or they are
more than 2¹¹ apart. -/
def RoundApart (m n : Int) : Prop :=
  m.natAbs < power 2 53 ∨ n.natAbs < power 2 53 ∨ (IsExact m ∧ IsExact n)
    ∨ power 2 11 < (m - n).natAbs

theorem RoundApart.symm {m n : Int} (h : RoundApart m n) : RoundApart n m := by
  rcases h with hm | hn | ⟨hm, hn⟩ | hgap
  · exact .inr (.inl hm)
  · exact .inl hn
  · exact .inr (.inr (.inl ⟨hn, hm⟩))
  · refine .inr (.inr (.inr ?_))
    rwa [← Int.natAbs_neg, Int.neg_sub]

namespace IsNearestTo

variable {k m n : Int} {x y : Binary64}

theorem units_mono (hx : x.IsNearestTo m) (hy : y.IsNearestTo n) (h : m < n) :
    x.units ≤ y.units := by
  have hxy := hx y
  have hyx := hy x
  have hlt := mul_units_lt h
  omega

theorem units_le (hx : x.IsNearestTo n) (hk : IsExact k) (h : n ≤ k) :
    x.units ≤ k * unitsPerOne := by
  obtain ⟨z, hz⟩ := hk
  have hxz := hx z
  have hle := mul_units_le h
  omega

theorem le_units (hx : x.IsNearestTo n) (hk : IsExact k) (h : k ≤ n) :
    k * unitsPerOne ≤ x.units := by
  obtain ⟨z, hz⟩ := hk
  have hxz := hx z
  have hle := mul_units_le h
  omega

/-- An integer of 64 bits is at most 2¹⁰ away from what it is rounded to. -/
theorem natAbs_sub_le (hx : x.IsNearestTo n) (h : n.natAbs < power 2 64) :
    (x.units - n * unitsPerOne).natAbs ≤ power 2 10 * unitsPerOne := by
  have h53 : power 2 53 = 9007199254740992 := rfl
  have h64 : power 2 64 = 18446744073709551616 := rfl
  have h11 : ((power 2 11 : Nat) : Int) = 2048 := rfl
  -- The multiple of 2¹¹ that is closest to the integer.
  obtain ⟨c, hc⟩ : ∃ c, c = (n + 1024) / 2048 := ⟨_, rfl⟩
  obtain ⟨z, hz⟩ := exists_units_eq (c := c) (by omega) (Nat.le_refl 11)
  have hnear : (c * 2048 - n).natAbs ≤ power 2 10 := by
    rw [show power 2 10 = 1024 from rfl]
    omega
  have hdist : (z.units - n * unitsPerOne).natAbs = (c * 2048 - n).natAbs * unitsPerOne := by
    rw [hz, h11, ← Int.sub_mul, Int.natAbs_mul, Int.natAbs_natCast]
  calc (x.units - n * unitsPerOne).natAbs ≤ (z.units - n * unitsPerOne).natAbs := hx z
    _ = (c * 2048 - n).natAbs * unitsPerOne := hdist
    _ ≤ power 2 10 * unitsPerOne := Nat.mul_le_mul_right _ hnear

theorem units_lt (hx : x.IsNearestTo m) (hy : y.IsNearestTo n) (hm : m.natAbs < power 2 64)
    (hn : n.natAbs < power 2 64) (h : m < n) (hapart : RoundApart m n) : x.units < y.units := by
  rcases hapart with hsmall | hsmall | ⟨hem, hen⟩ | hgap
  · have hnext : IsExact (m + 1) := isExact_of_natAbs_le (by omega)
    calc x.units ≤ m * unitsPerOne := hx.units_le (isExact_of_natAbs_le (by omega)) (Int.le_refl m)
      _ < (m + 1) * unitsPerOne := mul_units_lt (by omega)
      _ ≤ y.units := hy.le_units hnext h
  · have hprev : IsExact (n - 1) := isExact_of_natAbs_le (by omega)
    calc x.units ≤ (n - 1) * unitsPerOne := hx.units_le hprev (by omega)
      _ < n * unitsPerOne := mul_units_lt (by omega)
      _ ≤ y.units := hy.le_units (isExact_of_natAbs_le (by omega)) (Int.le_refl n)
  · calc x.units ≤ m * unitsPerOne := hx.units_le hem (Int.le_refl m)
      _ < n * unitsPerOne := mul_units_lt h
      _ ≤ y.units := hy.le_units hen (Int.le_refl n)
  · have hxm := hx.natAbs_sub_le hm
    have hyn := hy.natAbs_sub_le hn
    have hfar : (m + power 2 10) * unitsPerOne < (n - power 2 10) * unitsPerOne := by
      have h10 : ((power 2 10 : Nat) : Int) = 1024 := rfl
      have h11 : power 2 11 = 2048 := rfl
      exact mul_units_lt (by omega)
    rw [Int.add_mul, Int.sub_mul] at hfar
    omega

theorem compare_eq (hx : x.IsNearestTo m) (hy : y.IsNearestTo n) (hm : m.natAbs < power 2 64)
    (hn : n.natAbs < power 2 64) (hne : m ≠ n) (hapart : RoundApart m n) :
    x.compare y = Ord.compare m n := by
  rw [compare]
  rcases Int.lt_or_gt_of_ne hne with h | h
  · rw [Int.compare_eq_lt.mpr h, Int.compare_eq_lt.mpr (hx.units_lt hy hm hn h hapart)]
  · rw [Int.compare_eq_gt.mpr h, Int.compare_eq_gt.mpr (hy.units_lt hx hn hm h hapart.symm)]

end IsNearestTo

end Binary64

end RecordRules
