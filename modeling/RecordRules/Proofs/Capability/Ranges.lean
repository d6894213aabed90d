import RecordRules.Proofs.Capability.Thresholds

/-!
# Ranges

A range has a lower and an upper bound, and may or may not contain them. The
numbers and the lengths each have tests for ranges and tests for single bounds
(`Measure`), which are written differently: a range compares its lower bound with
the measure, a single bound is compared with.

Turning the lower comparison around makes one conjunction of two single bounds
(`Ends.holds_swap`). So a range passes what both of its bounds pass
(`passesTogether_range`), whether the bounds are in order or not. If they are,
containing them makes exactly the difference of the inputs that meet a bound.
This only needs that equal measures compare as equal
(`Ends.holds_inclusive_only_iff`), so it holds of dates too
(`ranges_are_pairs_of_bounds`).
-/

namespace RecordRules

/-! ## Ends -/

namespace Ends

/-- The bound that a range has below. -/
def lower : Ends → Bound
  | .exclusive => .above
  | .inclusive => .atLeast

/-- The bound that a range has above. -/
def upper : Ends → Bound
  | .exclusive => .below
  | .inclusive => .atMost

theorem holds_swap (ends : Ends) (toLow toHigh : Ordering) :
    ends.holds toLow.swap toHigh = (ends.lower.holds toLow && ends.upper.holds toHigh) := by
  cases ends <;> cases toLow <;> cases toHigh <;> rfl

theorem holds_inclusive_of_exclusive {fromLow toHigh : Ordering}
    (h : exclusive.holds fromLow toHigh = true) : inclusive.holds fromLow toHigh = true := by
  rw [holds, Bool.and_eq_true, beq_iff_eq, beq_iff_eq] at h
  obtain ⟨rfl, rfl⟩ := h
  rfl

/-- Between bounds in order, only the bounds themselves are found inclusively and
not exclusively. -/
theorem holds_inclusive_only_iff {α : Type} {cmp : α → α → Ordering} [Std.LawfulEqCmp cmp]
    {low high : α} (h : cmp low high ≠ .gt) (x : α) :
    (inclusive.holds (cmp low x) (cmp x high) = true
        ∧ exclusive.holds (cmp low x) (cmp x high) = false) ↔
      x = low ∨ x = high := by
  constructor
  · rintro ⟨hin, hout⟩
    cases hlow : cmp low x with
    | eq => exact .inl (Std.LawfulEqCmp.compare_eq_iff_eq.mp hlow).symm
    | gt => rw [hlow] at hin; cases hin
    | lt =>
        cases hhigh : cmp x high with
        | eq => exact .inr (Std.LawfulEqCmp.compare_eq_iff_eq.mp hhigh)
        | gt => rw [hlow, hhigh] at hin; cases hin
        | lt => rw [hlow, hhigh] at hout; cases hout
  · rintro (rfl | rfl)
    · rw [show cmp x x = .eq from Std.ReflCmp.compare_self]
      exact ⟨bne_iff_ne.mpr h, rfl⟩
    · rw [show cmp x x = .eq from Std.ReflCmp.compare_self, holds, holds]
      simp [h]

end Ends

instance : Std.LawfulEqCmp Moment.compare where
  compare_self := by simp [Moment.compare]
  eq_of_compare := by
    intro a b h
    obtain ⟨day, second, nano⟩ := a
    simp only [Moment.compare, Ordering.then_eq_eq, Std.compare_eq_iff_eq] at h
    obtain ⟨rfl, rfl, rfl⟩ := h
    rfl

/-! ## Measures -/

/-- What the ranges and the single bounds are about: the number that an input is,
or the length of its text. -/
inductive Measure
  | number
  | length

namespace Measure

/-- The test for a range. -/
def range (ends : Ends) : Measure → ValueTest
  | .number => .between ends
  | .length => .lengthBetween ends

/-- The test for a single bound. -/
def beyond (bound : Bound) : Measure → ValueTest
  | .number => .threshold bound
  | .length => .lengthBound bound

/-- The measure of an input, if it has one, in the units that the numbers have. -/
def units? (input : Json) : Measure → Option Int
  | .number => (asNumber input).map Binary64.units
  | .length => (textLength input).map fun n => ((n * Binary64.unitsPerOne : Nat) : Int)

end Measure

namespace Operand

theorem numberPair_list {l h : Json} {x y : Binary64} (hl : asNumber l = some x)
    (hh : asNumber h = some y) : (list [l, h]).numberPair = .ok (x, y) := by
  simp only [numberPair, values, hl, hh]

theorem momentPair_list {l h : Json} {a b : Moment} (hl : moment l = .ok a)
    (hh : moment h = .ok b) : (list [l, h]).momentPair = .ok (a, b) := by
  simp only [momentPair, values, hl, hh]
  rfl

end Operand

theorem decides_beyond {v : Json} {x : Binary64} (hv : asNumber v = some x) (m : Measure)
    (bound : Bound) :
    (Kind.value (m.beyond bound)).Decides (.scalar v) fun input =>
      (m.units? input).any fun n => bound.holds (Ord.compare n x.units) := by
  simp only [Measure.units?]
  cases m with
  | number =>
      simp only [Option.any_map]
      exact decides_threshold_scalar hv bound
  | length =>
      simp only [Option.any_map]
      exact decides_lengthBound (Operand.number_eq_ok.mpr ⟨v, hv, .inl rfl⟩) bound

theorem decides_range {o : Operand} {x y : Binary64} (h : o.numberPair = .ok (x, y))
    (m : Measure) (ends : Ends) :
    (Kind.value (m.range ends)).Decides o fun input =>
      (m.units? input).any fun n => ends.holds (Ord.compare x.units n) (Ord.compare n y.units) := by
  simp only [Measure.units?]
  cases m with
  | number =>
      refine ValueTest.decides (by simp [Measure.range]) (discard_eq_ok.mpr ⟨_, h⟩) fun input => ?_
      rw [Measure.range, ValueTest.judge, orFaulty_of_ok h, Option.any_map]
      rfl
  | length =>
      refine ValueTest.decides (by simp [Measure.range]) (discard_eq_ok.mpr ⟨_, h⟩) fun input => ?_
      rw [Measure.range, ValueTest.judge, orFaulty_of_ok h, Option.any_map]
      simp only [Binary64.compareNat, ← Std.OrientedOrd.eq_swap]
      rfl

theorem decides_dateTimeBetween {o : Operand} {a b : Moment} (h : o.momentPair = .ok (a, b))
    (ends : Ends) :
    (Kind.value (.dateTimeBetween ends)).Decides o fun input =>
      ((valueText input).bind Moment.read?).any fun t => ends.holds (a.compare t) (t.compare b) := by
  refine ValueTest.decides (by simp) (discard_eq_ok.mpr ⟨_, h⟩) fun input => ?_
  rw [ValueTest.judge, orFaulty_of_ok h]
  rfl

/-! ## Ranges and bounds -/

/-- All three operands are accepted, and the last capability passes what both of
the others pass. -/
def PassesTogether (k₁ : Kind) (o₁ : Operand) (k₂ : Kind) (o₂ : Operand) (k : Kind)
    (o : Operand) : Prop :=
  ∃ f g, k₁.Decides o₁ f ∧ k₂.Decides o₂ g ∧ k.Decides o fun input => f input && g input

/-- Both capabilities accept the operand, the outer one passes all that the inner
one passes, and those inputs besides. -/
def ExceedsBy (outer inner : Kind) (o : Operand) (besides : Json → Prop) : Prop :=
  ∃ f g, inner.Decides o f ∧ outer.Decides o g
    ∧ ∀ input, (f input = true → g input = true)
      ∧ (g input = true ∧ f input = false ↔ besides input)

theorem ExceedsBy.made_besides {outer inner : Kind} {o : Operand} {besides : Json → Prop}
    (h : ExceedsBy outer inner o besides) {input : Json} (hinput : besides input) :
    ∃ b b', Builtin.make inner o none = .ok b ∧ Builtin.make outer o none = .ok b'
      ∧ b.evaluate input = .ok false ∧ b'.evaluate input = .ok true := by
  obtain ⟨f, g, hf, hg, hfg⟩ := h
  obtain ⟨b, hb, heval⟩ := hf none
  obtain ⟨b', hb', heval'⟩ := hg none
  obtain ⟨houter, hinner⟩ := (hfg input).2.mpr hinput
  exact ⟨b, b', hb, hb', by rw [heval, hinner], by rw [heval', houter]⟩

theorem passesTogether_range {l h : Json} {x y : Binary64} (hl : asNumber l = some x)
    (hh : asNumber h = some y) (m : Measure) (ends : Ends) :
    PassesTogether (.value (m.beyond ends.lower)) (.scalar l) (.value (m.beyond ends.upper))
      (.scalar h) (.value (m.range ends)) (.list [l, h]) := by
  refine ⟨_, _, decides_beyond hl m ends.lower, decides_beyond hh m ends.upper, ?_⟩
  convert decides_range (Operand.numberPair_list hl hh) m ends using 2 with input
  cases m.units? input with
  | none => rfl
  | some n =>
      rw [Option.any_some, Option.any_some, Option.any_some, ← Ends.holds_swap,
        ← Std.OrientedOrd.eq_swap]

theorem exceedsBy_of_measure {α : Type} {cmp : α → α → Ordering} [Std.LawfulEqCmp cmp]
    {low high : α} (h : cmp low high ≠ .gt) (measure : Json → Option α) {k : Ends → Kind}
    {o : Operand}
    (hk : ∀ ends : Ends, (k ends).Decides o fun input =>
      (measure input).any fun x => ends.holds (cmp low x) (cmp x high)) :
    ExceedsBy (k .inclusive) (k .exclusive) o fun input =>
      ∃ x, measure input = some x ∧ (x = low ∨ x = high) := by
  refine ⟨_, _, hk .exclusive, hk .inclusive, fun input => ?_⟩
  cases hx : measure input with
  | none => simp [hx]
  | some x =>
      refine ⟨Ends.holds_inclusive_of_exclusive, ?_⟩
      simpa [hx] using Ends.holds_inclusive_only_iff h x

/-- **A range is a pair of single bounds.** For numeric bounds, in order or not, a
range of numbers passes what is beyond each bound, and so does a range of lengths.
If the bounds are in order, a range that contains its ends passes besides exactly
the inputs that meet one of them, and this is true of dates as well. -/
theorem ranges_are_pairs_of_bounds {l h : Json} :
    (∀ x y, asNumber l = some x → asNumber h = some y → ∀ m : Measure,
        (∀ ends : Ends, PassesTogether (.value (m.beyond ends.lower)) (.scalar l)
          (.value (m.beyond ends.upper)) (.scalar h) (.value (m.range ends)) (.list [l, h]))
        ∧ (x.units ≤ y.units →
          ExceedsBy (.value (m.range .inclusive)) (.value (m.range .exclusive)) (.list [l, h])
            fun input => ∃ n, m.units? input = some n ∧ (n = x.units ∨ n = y.units)))
    ∧ (∀ a b, Operand.moment l = .ok a → Operand.moment h = .ok b → a.compare b ≠ .gt →
        ExceedsBy (.value (.dateTimeBetween .inclusive)) (.value (.dateTimeBetween .exclusive))
          (.list [l, h])
          fun input => ∃ t, (valueText input).bind Moment.read? = some t ∧ (t = a ∨ t = b)) := by
  constructor
  · intro x y hl hh m
    refine ⟨passesTogether_range hl hh m, fun hle => ?_⟩
    exact exceedsBy_of_measure (Int.compare_ne_gt.mpr hle) m.units?
      (decides_range (Operand.numberPair_list hl hh) m)
  · intro a b hl hh hle
    exact exceedsBy_of_measure hle _ (decides_dateTimeBetween (Operand.momentPair_list hl hh))

/-- A text of three characters meets the upper end of a range of lengths, and a day
in March the lower end of one of dates. -/
theorem ranges_are_pairs_of_bounds_met :
    PassesTogether (.value (.threshold .above)) (.scalar (.str "1"))
        (.value (.threshold .below)) (.scalar (.num (.int ⟨3, by decide⟩)))
        (.value (.between .exclusive)) (.list [.str "1", .num (.int ⟨3, by decide⟩)])
      ∧ (∃ b b', Builtin.make (.value (.lengthBetween .exclusive))
            (.list [.str "1", .num (.int ⟨3, by decide⟩)]) none = .ok b
          ∧ Builtin.make (.value (.lengthBetween .inclusive))
            (.list [.str "1", .num (.int ⟨3, by decide⟩)]) none = .ok b'
          ∧ b.evaluate (.str "abc") = .ok false ∧ b'.evaluate (.str "abc") = .ok true)
      ∧ ∃ b b', Builtin.make (.value (.dateTimeBetween .exclusive))
            (.list [.str "2024-03-01", .str "31.03.2024"]) none = .ok b
          ∧ Builtin.make (.value (.dateTimeBetween .inclusive))
            (.list [.str "2024-03-01", .str "31.03.2024"]) none = .ok b'
          ∧ b.evaluate (.str "03/01/2024 00:00") = .ok false
          ∧ b'.evaluate (.str "03/01/2024 00:00") = .ok true := by
  have hnumbers : (asNumber (.str "1")).any (fun x =>
      (asNumber (.num (.int ⟨3, by decide⟩))).any fun y =>
        decide (x.units ≤ y.units) && Measure.length.units? (.str "abc") == some y.units) = true := by
    decide +kernel
  obtain ⟨x, hx, hnumbers⟩ := (Option.any_eq_true _ _).mp hnumbers
  obtain ⟨y, hy, hnumbers⟩ := (Option.any_eq_true _ _).mp hnumbers
  obtain ⟨hle, hmet⟩ := Bool.and_eq_true_iff.mp hnumbers
  have hdates : (Operand.moment (.str "2024-03-01")).toOption.any (fun a =>
      (Operand.moment (.str "31.03.2024")).toOption.any fun b => a.compare b != .gt
        && (valueText (.str "03/01/2024 00:00")).bind Moment.read? == some a) = true := by
    decide +kernel
  obtain ⟨a, ha, hdates⟩ := (Option.any_eq_true _ _).mp hdates
  obtain ⟨b, hb, hdates⟩ := (Option.any_eq_true _ _).mp hdates
  obtain ⟨horder, hstart⟩ := Bool.and_eq_true_iff.mp hdates
  obtain ⟨hnumber, -⟩ := ranges_are_pairs_of_bounds.1 x y hx hy .number
  obtain ⟨-, hlength⟩ := ranges_are_pairs_of_bounds.1 x y hx hy .length
  have hmoment := ranges_are_pairs_of_bounds.2 a b (toOption_eq_some.mp ha) (toOption_eq_some.mp hb)
    (bne_iff_ne.mp horder)
  exact ⟨hnumber .exclusive,
    (hlength (of_decide_eq_true hle)).made_besides ⟨_, eq_of_beq hmet, .inr rfl⟩,
    hmoment.made_besides ⟨_, eq_of_beq hstart, .inl rfl⟩⟩

end RecordRules
