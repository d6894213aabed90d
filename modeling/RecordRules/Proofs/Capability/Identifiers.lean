import RecordRules.Proofs.Capability.Spelling
import RecordRules.Proofs.Number.Nearest
import RecordRules.Proofs.Record.LooseOrder

/-!
# Integers as identifiers

Integers, and texts of integers, are compared as the numbers that they are
rounded to (`integers_compare_as_rounded`). So the order of two integers is
never turned around, but integers beyond 2⁵³ that are rounded to one number are
equal to each other, for `Equal` and `In` too, and `GreaterThan` finds neither
of them above the other. Where rounding keeps them apart
(`Binary64.RoundApart`), every one of these answers is the integers' own.
-/

namespace RecordRules

/-! ## Integers of 64 bits -/

namespace Integer

theorem natAbs_lt_power (n : Integer) : n.val.natAbs < power 2 64 := by
  have hpower : power 2 63 < power 2 64 := power_lt_power (by decide) (by decide)
  have := n.inRange
  omega

theorem exists_rounded (n : Integer) :
    ∃ x, Binary64.ofInt n.val = some x ∧ x.IsNearestTo n.val := by
  obtain ⟨x, hx, -⟩ := (Number.int n).exists_toBinary64 rfl
  exact ⟨x, hx, Binary64.ofInt_isNearestTo hx⟩

theorem ext {m n : Integer} (h : m.val = n.val) : m = n := by
  cases m
  cases n
  subst h
  rfl

end Integer

/-! ## Written integers -/

/-- The integer, or its decimal text. -/
inductive Json.Writes (n : Integer) : Json → Prop
  | number : Writes n (.num (.int n))
  | text : Writes n (.str (toString n.val))

theorem Json.Writes.asNumber_eq {n : Integer} {a : Json} (h : a.Writes n) :
    asNumber a = Binary64.ofInt n.val := by
  cases h with
  | number => rfl
  | text => exact (Number.int n).numberInText_render

theorem Json.Writes.isNumberOrText {n : Integer} {a : Json} (h : a.Writes n) :
    a.IsNumberOrText := by
  cases h with
  | number => exact .num _
  | text => exact .str _

section

variable {m n : Integer} {a b : Json} (ha : a.Writes m) (hb : b.Writes n)

include ha hb

theorem looseEq_of_writes {x y : Binary64} (hx : Binary64.ofInt m.val = some x)
    (hy : Binary64.ofInt n.val = some y) : looseEq a b = x.eq y := by
  rw [ha.isNumberOrText.looseEq_eq hb.isNumberOrText, looseEqScalar, ha.asNumber_eq,
    hb.asNumber_eq, hx, hy]

theorem compareNumbers_of_writes {x y : Binary64} (hx : Binary64.ofInt m.val = some x)
    (hy : Binary64.ofInt n.val = some y) : compareNumbers a b = some (x.compare y) := by
  rw [compareNumbers, ha.asNumber_eq, hb.asNumber_eq, hx, hy]
  rfl

theorem lt_of_compareNumbers (h : compareNumbers a b = some .lt) : m.val < n.val := by
  obtain ⟨x, hx, hxm⟩ := m.exists_rounded
  obtain ⟨y, hy, hyn⟩ := n.exists_rounded
  rw [compareNumbers_of_writes ha hb hx hy, Option.some.injEq, Binary64.compare,
    Int.compare_eq_lt] at h
  rcases Int.lt_trichotomy m.val n.val with hlt | heq | hgt
  · exact hlt
  · obtain rfl := Integer.ext heq
    obtain rfl := Option.some.inj (hx.symm.trans hy)
    exact absurd h (Int.lt_irrefl _)
  · exact absurd h (Int.not_lt.mpr (hyn.units_mono hxm hgt))

/-- The order of two integers is found out where rounding keeps them apart. -/
theorem compareNumbers_exact (h : m ≠ n → Binary64.RoundApart m.val n.val) :
    compareNumbers a b = some (Ord.compare m.val n.val) := by
  obtain ⟨x, hx, hxm⟩ := m.exists_rounded
  obtain ⟨y, hy, hyn⟩ := n.exists_rounded
  rw [compareNumbers_of_writes ha hb hx hy]
  by_cases hmn : m = n
  · subst hmn
    obtain rfl := Option.some.inj (hx.symm.trans hy)
    rw [Binary64.compare, Int.compare_eq_eq.mpr rfl, Int.compare_eq_eq.mpr rfl]
  · rw [hxm.compare_eq hyn m.natAbs_lt_power n.natAbs_lt_power (mt Integer.ext hmn) (h hmn)]

omit hb in
theorem looseEq_of_writes_same (hb : b.Writes m) : looseEq a b = true := by
  obtain ⟨x, hx, -⟩ := m.exists_rounded
  rw [looseEq_of_writes ha hb hx hx, Binary64.eq, beq_self_eq_true]

theorem looseEq_exact (h : m ≠ n → Binary64.RoundApart m.val n.val) :
    looseEq a b = true ↔ m = n := by
  obtain ⟨x, hx, -⟩ := m.exists_rounded
  obtain ⟨y, hy, -⟩ := n.exists_rounded
  have hcompare := compareNumbers_exact ha hb h
  rw [compareNumbers_of_writes ha hb hx hy] at hcompare
  rw [looseEq_of_writes ha hb hx hy, ← Binary64.compare_eq_iff, Option.some.inj hcompare,
    Int.compare_eq_eq]
  exact ⟨Integer.ext, congrArg Integer.val⟩

end

/-! ## Capabilities -/

namespace Builtin

variable {c : Builtin} {a b : Json}

theorem evaluate_equal (hk : c.kind = .value .equal) (ho : c.operand = .scalar b) :
    c.evaluate a = .ok (looseEq a b) := by
  rw [evaluate, hk, ho]
  rfl

theorem evaluate_isIn {listed : List Json} (hk : c.kind = .value .isIn)
    (ho : c.operand = .list listed) : c.evaluate a = .ok (listed.any (looseEq a)) := by
  rw [evaluate, hk, ho]
  rfl

theorem evaluate_threshold {bound : Bound} {y : Binary64} (hk : c.kind = .value (.threshold bound))
    (ho : c.operand = .scalar b) (hy : asNumber b = some y) :
    c.evaluate a = .ok ((compareNumbers a b).any bound.holds) := by
  rw [evaluate, hk, ho, Kind.judge, ValueTest.judge, Operand.number]
  simp only [hy]
  rfl

end Builtin

/-- An integer is found in a list of integers if it is listed. -/
theorem any_looseEq_iff_listed {m : Integer} {a : Json} (ha : a.Writes m) {listed : List Json}
    (h : ∀ v ∈ listed, ∃ k : Integer, v.Writes k ∧ (m ≠ k → Binary64.RoundApart m.val k.val)) :
    listed.any (looseEq a) = true ↔ ∃ v ∈ listed, v.Writes m := by
  rw [List.any_eq_true]
  refine exists_congr fun v => and_congr_right fun hv => ⟨fun heq => ?_, looseEq_of_writes_same ha⟩
  obtain ⟨k, hk, hapart⟩ := h v hv
  obtain rfl := (looseEq_exact ha hk hapart).mp heq
  exact hk

/-- **Integers are compared as the numbers that they are rounded to.** -/
theorem integers_compare_as_rounded {m n : Integer} {a b : Json} (ha : a.Writes m)
    (hb : b.Writes n) :
    ∃ x y, (Binary64.ofInt m.val = some x ∧ x.IsNearestTo m.val)
      ∧ (Binary64.ofInt n.val = some y ∧ y.IsNearestTo n.val)
      ∧ (looseEq a b = x.eq y ∧ compareNumbers a b = some (x.compare y))
      ∧ (m = n → looseEq a b = true)
      ∧ (compareNumbers a b = some .lt → m.val < n.val)
      ∧ (compareNumbers a b = some .gt → n.val < m.val)
      ∧ ((m ≠ n → Binary64.RoundApart m.val n.val) →
        (looseEq a b = true ↔ m = n) ∧ compareNumbers a b = some (Ord.compare m.val n.val))
      ∧ (∀ c : Builtin, c.kind = .value .equal → c.operand = .scalar b →
        c.evaluate a = .ok (x.eq y)
          ∧ ((m ≠ n → Binary64.RoundApart m.val n.val) → (c.evaluate a = .ok true ↔ m = n)))
      ∧ (∀ c : Builtin, c.kind = .value (.threshold .above) → c.operand = .scalar b →
        c.evaluate a = .ok (x.compare y == .gt)
          ∧ ((m ≠ n → Binary64.RoundApart m.val n.val) →
            (c.evaluate a = .ok true ↔ n.val < m.val)))
      ∧ (∀ (c : Builtin) (listed : List Json), c.kind = .value .isIn → c.operand = .list listed →
        c.evaluate a = .ok (listed.any (looseEq a))
          ∧ ((∀ v ∈ listed, ∃ k : Integer, v.Writes k
              ∧ (m ≠ k → Binary64.RoundApart m.val k.val)) →
            (c.evaluate a = .ok true ↔ ∃ v ∈ listed, v.Writes m))) := by
  obtain ⟨x, hx, hxm⟩ := m.exists_rounded
  obtain ⟨y, hy, hyn⟩ := n.exists_rounded
  have heq := looseEq_of_writes ha hb hx hy
  have hcompare := compareNumbers_of_writes ha hb hx hy
  refine ⟨x, y, ⟨hx, hxm⟩, ⟨hy, hyn⟩, ⟨heq, hcompare⟩, ?same, lt_of_compareNumbers ha hb,
    ?greater, ?exact, ?equal, ?above, ?isIn⟩
  case same =>
    rintro rfl
    exact looseEq_of_writes_same ha hb
  case greater =>
    intro h
    refine lt_of_compareNumbers hb ha ?_
    rw [compareNumbers_swap, h]
    rfl
  case exact =>
    intro h
    exact ⟨looseEq_exact ha hb h, compareNumbers_exact ha hb h⟩
  case equal =>
    intro c hk ho
    rw [Builtin.evaluate_equal hk ho]
    refine ⟨congrArg _ heq, fun h => ?_⟩
    rw [Except.ok.injEq]
    exact looseEq_exact ha hb h
  case above =>
    intro c hk ho
    rw [Builtin.evaluate_threshold hk ho (hb.asNumber_eq.trans hy)]
    refine ⟨by rw [hcompare]; rfl, fun h => ?_⟩
    rw [compareNumbers_exact ha hb h, Except.ok.injEq, Option.any_some, Bound.holds, beq_iff_eq,
      Int.compare_eq_gt]
  case isIn =>
    intro c listed hk ho
    rw [Builtin.evaluate_isIn hk ho]
    refine ⟨rfl, fun h => ?_⟩
    rw [Except.ok.injEq]
    exact any_looseEq_iff_listed ha h

theorem integers_compare_as_rounded_of_orders :
    looseEq (.num (.int ⟨42, by decide⟩)) (.str (toString (42 : Int))) = true
      ∧ compareNumbers (.num (.int ⟨42, by decide⟩)) (.str (toString (7 : Int))) = some .gt := by
  have happart : Binary64.RoundApart 42 7 := .inl (by decide)
  obtain ⟨-, -, -, -, -, hsame, -⟩ := integers_compare_as_rounded
    (.number : Json.Writes ⟨42, by decide⟩ _) (.text : Json.Writes ⟨42, by decide⟩ _)
  obtain ⟨-, -, -, -, -, -, -, -, hexact, -⟩ := integers_compare_as_rounded
    (.number : Json.Writes ⟨42, by decide⟩ _) (.text : Json.Writes ⟨7, by decide⟩ _)
  exact ⟨hsame rfl, (hexact fun _ => happart).2.trans (by decide)⟩

/-- The first integer that the format does not have is rounded to the one
before it. -/
theorem not_integers_compare_exactly :
    ¬ ∀ (m n : Integer) (a b : Json), a.Writes m → b.Writes n →
      (looseEq a b = true ↔ m = n) ∧ compareNumbers a b = some (Ord.compare m.val n.val) := by
  intro h
  have hlast := (h ⟨9007199254740992, by decide⟩ ⟨9007199254740993, by decide⟩ _ _ .number .text).1
  have hequal := congrArg Integer.val (hlast.mp (by decide +kernel))
  exact absurd hequal (by decide)

end RecordRules
