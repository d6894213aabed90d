import RecordRules.Proofs.Capability.Judgement

/-!
# Thresholds

A test that compares with a threshold reads the number of its operand twice:
once to check the operand, and again in every judgement. The check takes a
value that stands alone and a value beside a field alike
(`Operand.number_eq_ok`). The tests of length compare with the number that was
checked, wherever it stands (`decides_lengthBound`).

The tests of numbers look for the value anew, and find only one that stands
alone. Such a threshold is the one that is applied (`decides_threshold_scalar`).
One beside a field is accepted, and then no input passes
(`decides_threshold_keyed`). There is no third sort of accepted operand
(`checked_threshold_is_applied`).
-/

namespace RecordRules

/-! ## Bounds -/

/-- The first number, in whatever units, lies beyond the second in that way. -/
def Bound.Relates : Bound → Int → Int → Prop
  | .above, m, n => n < m
  | .atLeast, m, n => n ≤ m
  | .below, m, n => m < n
  | .atMost, m, n => m ≤ n

theorem Bound.holds_compare_iff (bound : Bound) (m n : Int) :
    bound.holds (Ord.compare m n) = true ↔ bound.Relates m n := by
  cases bound with
  | above => exact beq_iff_eq.trans Int.compare_eq_gt
  | atLeast => exact bne_iff_ne.trans Int.compare_ne_lt
  | below => exact beq_iff_eq.trans Int.compare_eq_lt
  | atMost => exact bne_iff_ne.trans Int.compare_ne_gt

instance (bound : Bound) (m n : Int) : Decidable (bound.Relates m n) :=
  decidable_of_iff _ (bound.holds_compare_iff m n)

/-! ## Capabilities that decide -/

/-- The capability accepts the operand, with any message, and then decides
every input as `f` does. -/
def Kind.Decides (k : Kind) (o : Operand) (f : Json → Bool) : Prop :=
  ∀ message, ∃ b, Builtin.make k o message = .ok b ∧ ∀ input, b.evaluate input = .ok (f input)

theorem ValueTest.decides {t : ValueTest} (ht : t ≠ .regEx) {o : Operand} {f : Json → Bool}
    (hcheck : t.check o = .ok ()) (hjudge : ∀ input, t.judge o [] input = .ok (f input)) :
    (Kind.value t).Decides o f := by
  intro message
  have hprepared : (Kind.value t).prepare o = .ok [] := by
    rw [Kind.prepare_eq_check (fun h => ht (Kind.value.inj h)), Kind.check, hcheck]
    rfl
  exact ⟨_, Builtin.make_of_prepared hprepared message, hjudge⟩

/-! ## Checked thresholds -/

/-- A number stands alone in its operand, or beside a field. -/
theorem Operand.number_eq_ok {o : Operand} {x : Binary64} :
    o.number = .ok x ↔
      ∃ v, asNumber v = some x ∧ (o = .scalar v ∨ ∃ field, o = .keyed field v) := by
  cases o with
  | absent | list items | field name => simp [number]
  | scalar v | keyed field v =>
      rw [number]
      cases hv : asNumber v <;> simp [hv]

theorem decides_lengthBound {o : Operand} {x : Binary64} (h : o.number = .ok x) (bound : Bound) :
    (Kind.value (.lengthBound bound)).Decides o fun input =>
      (textLength input).any fun n => bound.holds (Binary64.compareNat n x) := by
  refine ValueTest.decides (by simp) (discard_eq_ok.mpr ⟨x, h⟩) fun input => ?_
  rw [ValueTest.judge, orFaulty_of_ok h]
  rfl

section Threshold

variable {v : Json} {x : Binary64} (hv : asNumber v = some x)

include hv

theorem decides_threshold_scalar (bound : Bound) :
    (Kind.value (.threshold bound)).Decides (.scalar v) fun input =>
      (asNumber input).any fun n => bound.holds (n.compare x) := by
  have hnumber : (Operand.scalar v).number = .ok x :=
    Operand.number_eq_ok.mpr ⟨v, hv, .inl rfl⟩
  refine ValueTest.decides (by simp) (discard_eq_ok.mpr ⟨x, hnumber⟩) fun input => ?_
  rw [ValueTest.judge, orFaulty_of_ok hnumber]
  change Except.ok ((compareNumbers input v).any bound.holds) = _
  rw [compareNumbers, hv]
  cases asNumber input <;> rfl

/-- The number beside a field is checked, and then not found. -/
theorem decides_threshold_keyed (bound : Bound) (field : String) :
    (Kind.value (.threshold bound)).Decides (.keyed field v) fun _ => false := by
  have hnumber : (Operand.keyed field v).number = .ok x :=
    Operand.number_eq_ok.mpr ⟨v, hv, .inr ⟨field, rfl⟩⟩
  refine ValueTest.decides (by simp) (discard_eq_ok.mpr ⟨x, hnumber⟩) fun input => ?_
  rw [ValueTest.judge, orFaulty_of_ok hnumber]
  rfl

end Threshold

/-- What a capability decides is what each of its instances says. -/
theorem Kind.Decides.evaluate {k : Kind} {o : Operand} {f : Json → Bool} (h : k.Decides o f)
    {message : Option String} {b : Builtin} (hb : Builtin.make k o message = .ok b)
    (input : Json) : b.evaluate input = .ok (f input) := by
  obtain ⟨b', hb', hf⟩ := h message
  obtain rfl := Except.ok.inj (hb.symm.trans hb')
  exact hf input

/-- A made capability was given an operand that passes its check. -/
theorem Kind.check_of_make {k : Kind} {o : Operand} {message : Option String} {b : Builtin}
    (h : Builtin.make k o message = .ok b) : k.check o = .ok () := by
  obtain ⟨rfl, rfl⟩ := Builtin.make_eq_ok h
  exact Kind.check_of_prepare b.prepared

/-- **A threshold that was checked is applied where it stands alone.** If the
test of numbers accepts an operand, the operand holds a number. Where it is the
operand's one value, the inputs that pass are those whose number lies beyond it;
where it stands beside a field, no input passes. -/
theorem checked_threshold_is_applied {bound : Bound} {o : Operand} {message : Option String}
    {b : Builtin} (h : Builtin.make (.value (.threshold bound)) o message = .ok b) :
    ∃ x, o.number = .ok x
      ∧ (((∃ v, o = .scalar v) ∧ ∀ input, ∃ passed, b.evaluate input = .ok passed
          ∧ (passed = true ↔ ∃ n, asNumber input = some n ∧ bound.Relates n.units x.units))
        ∨ ((∃ field v, o = .keyed field v) ∧ ∀ input, b.evaluate input = .ok false)) := by
  obtain ⟨x, hx⟩ := discard_eq_ok.mp (Kind.check_of_make h)
  refine ⟨x, hx, ?_⟩
  obtain ⟨v, hv, rfl | ⟨field, rfl⟩⟩ := Operand.number_eq_ok.mp hx
  · refine .inl ⟨⟨v, rfl⟩, fun input => ⟨_, (decides_threshold_scalar hv bound).evaluate h input, ?_⟩⟩
    rw [Option.any_eq_true]
    exact exists_congr fun n => and_congr_right' (bound.holds_compare_iff n.units x.units)
  · exact .inr ⟨⟨field, v, rfl⟩, (decides_threshold_keyed hv bound field).evaluate h⟩

/-- A price in white space, with a zero too many. -/
theorem checked_threshold_is_applied_to_price :
    ∃ b, Builtin.make (.value (.threshold .atLeast)) (.scalar (.str " 1.50")) none = .ok b
      ∧ b.evaluate (.num (.int ⟨2, by decide⟩)) = .ok true
      ∧ b.evaluate (.str "free") = .ok false := by
  have hnumbers : (asNumber (.str " 1.50")).any (fun x =>
      (asNumber (.num (.int ⟨2, by decide⟩))).any fun n =>
        decide (Bound.atLeast.Relates n.units x.units)) = true := by decide +kernel
  obtain ⟨x, hx, hnumbers⟩ := (Option.any_eq_true _ _).mp hnumbers
  obtain ⟨n, hn, hle⟩ := (Option.any_eq_true _ _).mp hnumbers
  obtain ⟨b, hb, -⟩ := decides_threshold_scalar hx .atLeast none
  obtain ⟨y, hy, ⟨-, happlied⟩ | ⟨⟨field, v, ho⟩, -⟩⟩ := checked_threshold_is_applied hb
  · have hnumber : (Operand.scalar (.str " 1.50")).number = .ok x :=
      Operand.number_eq_ok.mpr ⟨_, hx, .inl rfl⟩
    obtain rfl : x = y := Except.ok.inj (hnumber.symm.trans hy)
    obtain ⟨passed, heval, hpassed⟩ := happlied (.num (.int ⟨2, by decide⟩))
    obtain ⟨passed', heval', hpassed'⟩ := happlied (.str "free")
    have hfree : asNumber (.str "free") = none := by decide +kernel
    rw [hpassed.mpr ⟨n, hn, of_decide_eq_true hle⟩] at heval
    obtain rfl : passed' = false := by
      rw [Bool.eq_false_iff]
      intro htrue
      obtain ⟨m, hm, -⟩ := hpassed'.mp htrue
      cases hfree.symm.trans hm
    exact ⟨b, hb, heval, heval'⟩
  · cases ho

/-- Three is above two, but not above a two beside a field. -/
theorem not_every_checked_threshold_is_applied :
    ¬ ∀ (bound : Bound) (o : Operand) (message : Option String) (b : Builtin) (x : Binary64),
      Builtin.make (.value (.threshold bound)) o message = .ok b → o.number = .ok x →
      ∀ input, b.evaluate input = .ok true ↔
        ∃ n, asNumber input = some n ∧ bound.Relates n.units x.units := by
  intro h
  have hnumbers : (asNumber (.num (.int ⟨2, by decide⟩))).any (fun x =>
      (asNumber (.num (.int ⟨3, by decide⟩))).any fun n =>
        decide (Bound.above.Relates n.units x.units)) = true := by decide +kernel
  obtain ⟨x, hx, hnumbers⟩ := (Option.any_eq_true _ _).mp hnumbers
  obtain ⟨n, hn, hlt⟩ := (Option.any_eq_true _ _).mp hnumbers
  obtain ⟨b, hb, hnever⟩ := decides_threshold_keyed hx .above "f" none
  have hnumber := Operand.number_eq_ok.mpr ⟨_, hx, .inr ⟨"f", rfl⟩⟩
  have hpassed := (h .above _ none b x hb hnumber _).mpr ⟨n, hn, of_decide_eq_true hlt⟩
  cases (hnever _).symm.trans hpassed

end RecordRules
