import RecordRules.Proofs.Number.ReadBack
import RecordRules.Proofs.Record.LooseEquality

/-!
# One order of numbers and texts

Among numbers and texts, loose equality and the numeric order never get into
each other's way (`numbers_and_texts_share_order`). The reason is that a number
spells what its text spells, so a value is known by its text alone
(`Json.IsNumberOrText.exists_text`), and a text that spells no number is the
text of no number. So values that spell a number are equal by that number and
ordered by it, all others are equal by their text, and the two sorts do not
mix.

On the larger set of all values loose equality is not transitive: a boolean
equals every value that is as true.
-/

namespace RecordRules

namespace Binary64

instance : Std.OrientedCmp compare where
  eq_swap := Std.OrientedOrd.eq_swap

instance : Std.TransCmp compare where
  isLE_trans := Std.TransOrd.isLE_trans

theorem compare_eq_iff (x y : Binary64) : x.compare y = .eq ↔ x.eq y = true := by
  rw [compare, eq, beq_iff_eq]
  exact Std.compare_eq_iff_eq

end Binary64

/-! ## Numbers and texts -/

inductive Json.IsNumberOrText : Json → Prop
  | num (n : Number) : IsNumberOrText (.num n)
  | str (s : String) : IsNumberOrText (.str s)

namespace Json.IsNumberOrText

variable {a b : Json}

/-- The value has a text, and it is the number that the text spells. -/
theorem exists_text (h : a.IsNumberOrText) :
    ∃ s, valueText a = some s ∧ asNumber a = numberInText s := by
  cases h with
  | num n => exact ⟨n.render, rfl, n.numberInText_render.symm⟩
  | str s => exact ⟨s, rfl, rfl⟩

theorem hasDistinctKeys (h : a.IsNumberOrText) : a.HasDistinctKeys := by
  cases h with
  | num n => exact .num n
  | str s => exact .str s

theorem looseEq_eq (ha : a.IsNumberOrText) (hb : b.IsNumberOrText) :
    looseEq a b = looseEqScalar a b := by
  cases ha <;> cases hb <;> simp [looseEq]

end Json.IsNumberOrText

section

variable {a b c : Json} (ha : a.IsNumberOrText) (hb : b.IsNumberOrText) (hc : c.IsNumberOrText)

include ha hb

/-- Equal are two numbers, or two texts that spell none. -/
theorem looseEq_iff_same_number_or_text :
    looseEq a b = true ↔
      (∃ x y, asNumber a = some x ∧ asNumber b = some y ∧ x.eq y = true)
        ∨ (asNumber a = none ∧ asNumber b = none ∧ valueText a = valueText b) := by
  obtain ⟨s, hs, hx⟩ := ha.exists_text
  obtain ⟨t, ht, hy⟩ := hb.exists_text
  have hsame : s = t → asNumber a = asNumber b := by
    rintro rfl
    rw [hx, hy]
  rw [ha.looseEq_eq hb, looseEqScalar, hs, ht]
  cases hn : asNumber a with
  | some x =>
      cases hm : asNumber b with
      | some y => simp
      | none =>
          -- Equal texts would spell a number both or neither.
          have hne : s ≠ t := fun h => by simpa [hn, hm] using hsame h
          simp [hne]
  | none =>
      cases hm : asNumber b with
      | some y =>
          have hne : s ≠ t := fun h => by simpa [hn, hm] using hsame h
          simp [hne]
      | none => simp

theorem compareNumbers_congr (h : looseEq a b = true) :
    compareNumbers a c = compareNumbers b c := by
  rcases (looseEq_iff_same_number_or_text ha hb).mp h with ⟨x, y, hx, hy, hxy⟩ | ⟨hx, hy, -⟩
  · rw [compareNumbers, compareNumbers, hx, hy]
    cases asNumber c with
    | none => rfl
    | some z => exact congrArg some (Std.TransCmp.congr_left ((x.compare_eq_iff y).mpr hxy))
  · rw [compareNumbers, compareNumbers, hx, hy]

include hc in
theorem looseEq_trans (hab : looseEq a b = true) (hbc : looseEq b c = true) :
    looseEq a c = true := by
  rw [looseEq_iff_same_number_or_text ha hb] at hab
  rw [looseEq_iff_same_number_or_text hb hc] at hbc
  rw [looseEq_iff_same_number_or_text ha hc]
  rcases hab with ⟨x, y, hx, hy, hxy⟩ | ⟨hx, hy, hst⟩
  · rcases hbc with ⟨y', z, hy', hz, hyz⟩ | ⟨hy', -⟩
    · obtain rfl : y = y' := Option.some.inj (hy.symm.trans hy')
      rw [← Binary64.compare_eq_iff] at hxy hyz
      exact .inl ⟨x, z, hx, hz, (x.compare_eq_iff z).mp (Std.TransCmp.eq_trans hxy hyz)⟩
    · cases hy.symm.trans hy'
  · rcases hbc with ⟨y', z, hy', -⟩ | ⟨-, hz, htu⟩
    · cases hy.symm.trans hy'
    · exact .inr ⟨hx, hz, hst.trans htu⟩

end

/-! ## The numeric order -/

theorem compareNumbers_eq_some {a b : Json} {o : Ordering} :
    compareNumbers a b = some o ↔
      ∃ x y, asNumber a = some x ∧ asNumber b = some y ∧ x.compare y = o := by
  rw [compareNumbers]
  cases asNumber a <;> cases asNumber b <;> simp

theorem isSome_compareNumbers (a b : Json) :
    (compareNumbers a b).isSome = true ↔
      (asNumber a).isSome = true ∧ (asNumber b).isSome = true := by
  rw [compareNumbers]
  cases asNumber a <;> cases asNumber b <;> simp

theorem compareNumbers_swap (a b : Json) :
    compareNumbers b a = (compareNumbers a b).map Ordering.swap := by
  rw [compareNumbers, compareNumbers]
  cases asNumber a with
  | none => cases asNumber b <;> rfl
  | some x =>
      cases asNumber b with
      | none => rfl
      | some y => exact congrArg some Std.OrientedCmp.eq_swap

theorem compareNumbers_trans {a b c : Json} {o : Ordering} (hab : compareNumbers a b = some o)
    (hbc : compareNumbers b c = some o) : compareNumbers a c = some o := by
  obtain ⟨x, y, hx, hy, hxy⟩ := compareNumbers_eq_some.mp hab
  obtain ⟨y', z, hy', hz, hyz⟩ := compareNumbers_eq_some.mp hbc
  obtain rfl : y = y' := Option.some.inj (hy.symm.trans hy')
  refine compareNumbers_eq_some.mpr ⟨x, z, hx, hz, ?_⟩
  cases o with
  | lt => exact Std.TransCmp.lt_trans hxy hyz
  | eq => exact Std.TransCmp.eq_trans hxy hyz
  | gt => exact Std.TransCmp.gt_trans hxy hyz

/-- **Numbers and texts share one order.** -/
theorem numbers_and_texts_share_order {a b c : Json} (ha : a.IsNumberOrText)
    (hb : b.IsNumberOrText) (hc : c.IsNumberOrText) :
    (looseEq a b = true ↔
        (∃ x y, asNumber a = some x ∧ asNumber b = some y ∧ x.eq y = true)
          ∨ (asNumber a = none ∧ asNumber b = none ∧ valueText a = valueText b))
      ∧ (looseEq a a = true ∧ looseEq a b = looseEq b a
        ∧ (looseEq a b = true → looseEq b c = true → looseEq a c = true))
      ∧ ((compareNumbers a b).isSome = true ↔
        (asNumber a).isSome = true ∧ (asNumber b).isSome = true)
      ∧ ((compareNumbers a b).isSome = true →
        (compareNumbers a b = some .eq ↔ looseEq a b = true))
      ∧ compareNumbers b a = (compareNumbers a b).map Ordering.swap
      ∧ (∀ o, compareNumbers a b = some o → compareNumbers b c = some o →
        compareNumbers a c = some o)
      ∧ (looseEq a b = true → compareNumbers a c = compareNumbers b c) := by
  have hiff := looseEq_iff_same_number_or_text ha hb
  refine ⟨hiff, ⟨looseEq_refl ha.hasDistinctKeys,
    looseEq_comm ha.hasDistinctKeys hb.hasDistinctKeys, looseEq_trans ha hb hc⟩,
    isSome_compareNumbers a b, ?_, compareNumbers_swap a b, ?_, compareNumbers_congr ha hb⟩
  · intro hsome
    obtain ⟨hx, hy⟩ := (isSome_compareNumbers a b).mp hsome
    obtain ⟨x, hx⟩ := Option.isSome_iff_exists.mp hx
    obtain ⟨y, hy⟩ := Option.isSome_iff_exists.mp hy
    rw [hiff, compareNumbers, hx, hy]
    simp [Binary64.compare_eq_iff]
  · intro o hab hbc
    exact compareNumbers_trans hab hbc

theorem numbers_and_texts_share_order_of_prices :
    looseEq (.str "1.5") (.str " 1.50") = true
      ∧ compareNumbers (.str "1.5") (.num (.int ⟨2, by decide⟩)) = some .lt
      ∧ compareNumbers (.str " 1.50") (.num (.int ⟨2, by decide⟩)) = some .lt
      ∧ compareNumbers (.num (.int ⟨2, by decide⟩)) (.str "1.5") = some .gt := by
  obtain ⟨-, -, -, hequal, -, -, hcongr⟩ := numbers_and_texts_share_order (.str "1.5")
    (.str " 1.50") (.num (.int ⟨2, by decide⟩))
  obtain ⟨-, -, -, -, hswap, -, -⟩ := numbers_and_texts_share_order (.str "1.5")
    (.num (.int ⟨2, by decide⟩)) (.str " 1.50")
  have hsame : compareNumbers (.str "1.5") (.str " 1.50") = some .eq := by decide +kernel
  have hless : compareNumbers (.str "1.5") (.num (.int ⟨2, by decide⟩)) = some .lt := by
    decide +kernel
  have heq := (hequal (by rw [hsame]; rfl)).mp hsame
  refine ⟨heq, hless, (hcongr heq).symm.trans hless, ?_⟩
  rw [hswap, hless]
  rfl

/-- A boolean equals texts that are not equal. -/
example : looseEq (.str "a") (.bool true) = true ∧ looseEq (.bool true) (.str "b") = true
    ∧ looseEq (.str "a") (.str "b") = false := by
  decide +kernel

end RecordRules
