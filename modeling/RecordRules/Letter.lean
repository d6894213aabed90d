/-!
# Small and capital letters

Only ASCII letters are raised and lowered, by as many places as lie between the
two alphabets (`toNat_toUpper`, `toNat_toLower`). What raising and lowering make
of each other's letters follows by counting places.
-/

namespace RecordRules

theorem isUpper_iff (c : Char) : c.isUpper = true ↔ 65 ≤ c.toNat ∧ c.toNat ≤ 90 := by
  have hdecides : c.isUpper = decide ('A'.val ≤ c.val ∧ c.val ≤ 'Z'.val) := rfl
  rw [hdecides, decide_eq_true_eq]
  exact Iff.rfl

theorem toNat_toUpper (c : Char) :
    c.toUpper.toNat = if 97 ≤ c.toNat ∧ c.toNat ≤ 122 then c.toNat - 32 else c.toNat := by
  have hc : c.val.toNat = c.toNat := rfl
  by_cases h : 'a'.val ≤ c.val ∧ c.val ≤ 'z'.val
  · have hplaces : 97 ≤ c.toNat ∧ c.toNat ≤ 122 := h
    have hshift : ('A'.val - 'a'.val).toNat = 4294967264 := by decide
    have hraised : c.toUpper = _ := dif_pos h
    rw [hraised, if_pos hplaces]
    change (c.val + ('A'.val - 'a'.val)).toNat = c.toNat - 32
    rw [UInt32.toNat_add, hshift]
    omega
  · have hplaces : ¬(97 ≤ c.toNat ∧ c.toNat ≤ 122) := h
    have hraised : c.toUpper = c := dif_neg h
    rw [hraised, if_neg hplaces]

theorem toNat_toLower (c : Char) :
    c.toLower.toNat = if 65 ≤ c.toNat ∧ c.toNat ≤ 90 then c.toNat + 32 else c.toNat := by
  have hc : c.val.toNat = c.toNat := rfl
  by_cases h : c.val ≥ 'A'.val ∧ c.val ≤ 'Z'.val
  · have hplaces : 65 ≤ c.toNat ∧ c.toNat ≤ 90 := h
    have hshift : ('a'.val - 'A'.val).toNat = 32 := by decide
    have hlowered : c.toLower = _ := dif_pos h
    rw [hlowered, if_pos hplaces]
    change (c.val + ('a'.val - 'A'.val)).toNat = c.toNat + 32
    rw [UInt32.toNat_add, hshift]
    omega
  · have hplaces : ¬(65 ≤ c.toNat ∧ c.toNat ≤ 90) := h
    have hlowered : c.toLower = c := dif_neg h
    rw [hlowered, if_neg hplaces]

/-! ## One after the other -/

theorem toUpper_toUpper (c : Char) : c.toUpper.toUpper = c.toUpper := by
  rw [← Char.toNat_inj]
  simp only [toNat_toUpper]
  grind

theorem toUpper_toLower (c : Char) : c.toLower.toUpper = c.toUpper := by
  rw [← Char.toNat_inj]
  simp only [toNat_toUpper, toNat_toLower]
  grind

theorem toLower_toUpper (c : Char) : c.toUpper.toLower = c.toLower := by
  rw [← Char.toNat_inj]
  simp only [toNat_toUpper, toNat_toLower]
  grind

theorem toUpper_of_isUpper {c : Char} (h : c.isUpper = true) : c.toUpper = c := by
  rw [isUpper_iff] at h
  rw [← Char.toNat_inj, toNat_toUpper, if_neg]
  omega

theorem toLower_of_not_isUpper {c : Char} (h : ¬c.isUpper = true) : c.toLower = c := by
  rw [isUpper_iff] at h
  rw [← Char.toNat_inj, toNat_toLower, if_neg h]

/-! ## The underscore -/

theorem toUpper_ne_underscore {c : Char} (h : c ≠ '_') : c.toUpper ≠ '_' := by
  have hplace : '_'.toNat = 95 := rfl
  rw [ne_eq, ← Char.toNat_inj, hplace] at h ⊢
  rw [toNat_toUpper]
  split <;> omega

theorem toLower_ne_underscore {c : Char} (h : c ≠ '_') : c.toLower ≠ '_' := by
  have hplace : '_'.toNat = 95 := rfl
  rw [ne_eq, ← Char.toNat_inj, hplace] at h ⊢
  rw [toNat_toLower]
  split <;> omega

end RecordRules
