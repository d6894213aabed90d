import RecordRules.Capability.Instance
import RecordRules.Proofs.Number.Nearest
import RecordRules.Proofs.Number.ReadBack
import RecordRules.Proofs.Record.References

/-!
# Numbers and their texts in operands

A capability cannot tell a number in its operand from the text of that number
(`Json.Spells`): the text is read as the number again, and on the right of
every comparison it compares as the number does (`Json.Spells.looseEq_eq`).
There are three exceptions. A fractional zero is false and its text is true.
A date that cannot be read is quoted as it is. And so are the items of a list
that is given where a capability describes a single value.

So operands that differ only in how such numbers are spelled
(`Operand.Spells`) are found equally fit for a capability
(`Kind.prepare_spells`), are judged by alike (`Kind.judge_spells`) and are
described alike (`Kind.message_spells`), and this stays so when references
are put in place (`Operand.Spells.resolve`).
-/

namespace RecordRules

/-! ## Numbers that are as true as their texts -/

/-- Any number but a fractional zero. -/
def Number.isSteady : Number → Bool
  | .int _ => true
  | .float x => !x.isZero

namespace Number

theorem roundUnits_bounds {m : Nat} (h : 0 < m) :
    0 < Binary64.roundUnits m 1 ∧ Binary64.roundUnits m 1 ≤ 2 * m := by
  have hlog : power 2 m.log2 ≤ m := Nat.log2_self_le (Nat.ne_of_gt h)
  have hpos : 0 < power 2 m.log2 := power_pos (by decide) _
  have hzero := Binary64.roundUnits_closest Binary64.fits_zero.2 m
  have hbelow := Binary64.roundUnits_closest (Binary64.stepAt_power_dvd m.log2) m
  omega

theorem toString_eq_zero (n : Int) : toString n = "0" ↔ n.natAbs = 0 := by
  constructor
  · intro h
    have hlist := Integer.toList_toString n
    rw [h] at hlist
    unfold Decimal.signed at hlist
    split at hlist
    next =>
      obtain ⟨hsign, -⟩ := List.cons_eq_cons.mp hlist
      exact absurd hsign (by decide)
    next =>
      rw [← Decimal.ofDigits_digitsOf n.natAbs, ← hlist]
      rfl
  · intro h
    obtain rfl : n = 0 := Int.natAbs_eq_zero.mp h
    rfl

/-- The text of a fractional number has a point or an exponent. -/
theorem render_float_ne_zero (x : Binary64) : x.render ≠ "0" := by
  have hmark : '.' ∈ x.render.toList ∨ 'e' ∈ x.render.toList := by
    have hsigned : ∀ c cs, c ∈ cs → c ∈ Decimal.signed x.negative cs := by
      intro c cs hc
      unfold Decimal.signed
      split
      · exact List.mem_cons_of_mem _ hc
      · exact hc
    rw [x.toList_render]
    split
    · refine .inl (hsigned _ _ ?_)
      unfold Binary64.positional
      split
      · exact List.mem_cons_of_mem _ (List.mem_cons_self ..)
      · exact List.mem_append_right _ (List.mem_cons_self ..)
    · exact .inr (hsigned _ _ (List.mem_append_right _ (List.mem_cons_self ..)))
  intro h
  rw [h] at hmark
  exact absurd hmark (by decide)

/-- Every number has a value, and only zero is zero. -/
theorem exists_toBinary64 (n : Number) (h : n.isSteady = true) :
    ∃ x, n.toBinary64? = some x ∧ (x.isZero = true ↔ n.render = "0") := by
  cases n with
  | int n =>
      have hrange : 2 * (power 10 20 * Binary64.unitsPerOne) < Binary64.tooLarge := by
        decide +kernel
      rcases Nat.eq_zero_or_pos n.val.natAbs with hn | hn
      · refine ⟨.zero (n.val < 0), ?_, ?_⟩
        · rw [toBinary64?, Binary64.ofInt, hn, Nat.zero_mul,
            Binary64.rounded_of_fits _ Binary64.fits_zero]
          rfl
        · exact iff_of_true rfl ((toString_eq_zero n.val).mpr hn)
      · have hm : 0 < n.val.natAbs * Binary64.unitsPerOne :=
          Nat.mul_pos hn (power_pos (by decide) _)
        obtain ⟨hlow, hhigh⟩ := roundUnits_bounds hm
        have hlt : n.val.natAbs * Binary64.unitsPerOne < power 10 20 * Binary64.unitsPerOne :=
          Nat.mul_lt_mul_of_pos_right n.natAbs_lt (power_pos (by decide) _)
        have hfit : Binary64.roundUnits (n.val.natAbs * Binary64.unitsPerOne) 1 < Binary64.tooLarge :=
          Nat.lt_of_le_of_lt hhigh (Nat.lt_trans (Nat.mul_lt_mul_of_pos_left hlt (by decide)) hrange)
        refine ⟨⟨n.val < 0, _, Binary64.fits_roundUnits hfit⟩, ?_, iff_of_false ?_ ?_⟩
        · rw [toBinary64?, Binary64.ofInt, Binary64.rounded, dif_pos hfit]
        · exact fun he => Nat.ne_of_gt hlow (beq_iff_eq.mp he)
        · exact fun he => Nat.ne_of_gt hn ((toString_eq_zero n.val).mp he)
  | float x =>
      refine ⟨x, rfl, iff_of_false ?_ ?_⟩
      · simpa [isSteady] using h
      · exact render_float_ne_zero x

theorem render_ne_empty (n : Number) : n.render ≠ "" := n.render_numeral.isItem.ne_empty

/-- The text of a number is no reference. -/
theorem resolveText_render {n : Number} (h : n.isSteady = true) (record : Json) :
    resolveText record n.render = .str n.render := by
  obtain ⟨x, hx, -⟩ := n.exists_toBinary64 h
  have hnumber : numberInText n.render = some x := n.numberInText_render.trans hx
  exact resolveText_of_not_refersInto (not_refersInto_of_numberInText hnumber record)

end Number

/-! ## Values -/

/-- The second value is the first or, if that is a number, its text. -/
inductive Json.Spells : Json → Json → Prop
  | refl (v : Json) : Spells v v
  | number {n : Number} (h : n.isSteady = true) : Spells (.num n) (.str n.render)

namespace Json.Spells

variable {v w : Json}

theorem asNumber_eq (h : v.Spells w) : asNumber w = asNumber v := by
  cases h with
  | refl => rfl
  | number => exact Number.numberInText_render _

theorem valueText_eq (h : v.Spells w) : valueText w = valueText v := by cases h <;> rfl

theorem messageText_eq (h : v.Spells w) : messageText w = messageText v := by cases h <;> rfl

theorem truthy_eq (h : v.Spells w) : truthy w = truthy v := by
  cases h with
  | refl => rfl
  | @number n h =>
      obtain ⟨x, hx, hzero⟩ := n.exists_toBinary64 h
      rw [truthy, truthy, hx, Option.any_some, String.isEmpty_eq_false_iff.mpr n.render_ne_empty,
        Bool.false_or, Bool.not_inj_iff, Bool.eq_iff_iff, beq_iff_eq, hzero]

/-- The text compares as the number does. -/
theorem looseEq_eq (h : v.Spells w) (a : Json) : looseEq a w = looseEq a v := by
  have hscalar : looseEqScalar a w = looseEqScalar a v := by
    rw [looseEqScalar, looseEqScalar, h.asNumber_eq, h.valueText_eq]
  have htruthy := h.truthy_eq
  cases h with
  | refl => rfl
  | @number n h =>
      have hempty : n.render.isEmpty = false := String.isEmpty_eq_false_iff.mpr n.render_ne_empty
      -- Only null and booleans do not compare as scalars; to null, the empty text is equal.
      cases a with
      | null => simp [looseEq, looseEqScalar, asNumber, valueText, hempty]
      | bool b => simp [looseEq, htruthy]
      | num m => simpa [looseEq] using hscalar
      | str t => simpa [looseEq] using hscalar
      | arr items => simpa [looseEq] using hscalar
      | obj entries => simpa [looseEq] using hscalar

theorem containsValue_eq (h : v.Spells w) (hay : Json) :
    containsValue hay w = containsValue hay v := by
  unfold containsValue
  simp only [h.looseEq_eq, h.valueText_eq]

theorem compareNumbers_eq (h : v.Spells w) (a : Json) :
    compareNumbers a w = compareNumbers a v := by
  rw [compareNumbers, compareNumbers, h.asNumber_eq]

theorem resolveValue (h : v.Spells w) (record : Json) :
    (resolveValue record v).Spells (resolveValue record w) := by
  cases h with
  | refl => exact .refl _
  | @number n h =>
      have hnumber : RecordRules.resolveValue record (.num n) = .num n := rfl
      rw [hnumber, RecordRules.resolveValue, Number.resolveText_render h]
      exact .number h

end Json.Spells

/-! ## Lists of values -/

section Lists

variable {vs ws : List Json} (h : List.Forall₂ Json.Spells vs ws)

include h

theorem any_spells {p : Json → Bool} (hp : ∀ {v w : Json}, v.Spells w → p w = p v) :
    ws.any p = vs.any p := by
  induction h with
  | nil => rfl
  | cons hvw _ ih => rw [List.any_cons, List.any_cons, hp hvw, ih]

theorem all_spells {p : Json → Bool} (hp : ∀ {v w : Json}, v.Spells w → p w = p v) :
    ws.all p = vs.all p := by
  induction h with
  | nil => rfl
  | cons hvw _ ih => rw [List.all_cons, List.all_cons, hp hvw, ih]

theorem map_spells {β : Type} {f : Json → β} (hf : ∀ {v w : Json}, v.Spells w → f w = f v) :
    ws.map f = vs.map f := by
  induction h with
  | nil => rfl
  | cons hvw _ ih => rw [List.map_cons, List.map_cons, hf hvw, ih]

theorem isEmpty_spells : ws.isEmpty = vs.isEmpty := by
  cases h <;> rfl

theorem looseEqItems_spells (as : List Json) : looseEqItems as ws = looseEqItems as vs := by
  induction h generalizing as with
  | nil => rfl
  | cons hvw _ ih =>
      cases as with
      | nil => rfl
      | cons a as => rw [looseEqItems, looseEqItems, hvw.looseEq_eq, ih]

theorem looseEq_arr_spells (a : Json) : looseEq a (.arr ws) = looseEq a (.arr vs) := by
  cases a with
  | bool b => rw [looseEq, looseEq, truthy, truthy, isEmpty_spells h]
  | arr as => rw [looseEq, looseEq, looseEqItems_spells h]
  | null | num m | str t | obj entries => simp [looseEq, looseEqScalar, asNumber, valueText]

end Lists

theorem looseEq_obj_spells {v w : Json} (h : v.Spells w) (field : String) (a : Json) :
    looseEq a (.obj [(field, w)]) = looseEq a (.obj [(field, v)]) := by
  cases a with
  | obj entries =>
      have hentries : looseEqEntries entries [(field, w)] = looseEqEntries entries [(field, v)] := by
        induction entries with
        | nil => rfl
        | cons e entries ih =>
            obtain ⟨k, x⟩ := e
            rw [looseEqEntries, looseEqEntries, ih]
            simp only [List.lookup_cons, List.lookup_nil]
            cases k == field with
            | true => simp only [h.looseEq_eq]
            | false => rfl
      rw [looseEq, looseEq, hentries]
      rfl
  | bool b => rfl
  | null | num m | str t | arr as => simp [looseEq, looseEqScalar, asNumber, valueText]

/-! ## Operands -/

/-- The second operand is the first with some numbers spelled as text. -/
inductive Operand.Spells : Operand → Operand → Prop
  | refl (o : Operand) : Spells o o
  | scalar {v w : Json} (h : v.Spells w) : Spells (.scalar v) (.scalar w)
  | list {vs ws : List Json} (h : List.Forall₂ Json.Spells vs ws) : Spells (.list vs) (.list ws)
  | keyed {v w : Json} (f : String) (h : v.Spells w) : Spells (.keyed f v) (.keyed f w)

namespace Operand.Spells

variable {o o' : Operand}

theorem resolve (h : o.Spells o') (record : Json) :
    (o.resolve record).Spells (o'.resolve record) := by
  cases h with
  | refl => exact .refl _
  | scalar h => exact .scalar (h.resolveValue record)
  | list h =>
      refine .list ?_
      rw [List.forall₂_map_left_iff, List.forall₂_map_right_iff]
      exact h.imp fun _ _ hvw => hvw.resolveValue record
  | keyed f h => exact .keyed f (h.resolveValue record)

theorem targetField_eq (h : o.Spells o') : o'.targetField = o.targetField := by
  cases h <;> rfl

theorem values (h : o.Spells o') : List.Forall₂ Json.Spells o.values o'.values := by
  have hrefl : ∀ vs : List Json, List.Forall₂ Json.Spells vs vs := fun vs =>
    List.forall₂_same.mpr fun v _ => .refl v
  cases h with
  | refl => exact hrefl _
  | list h => exact h
  | scalar h =>
      cases h with
      | refl => exact hrefl _
      | number h => exact .cons (.number h) .nil
  | keyed f h =>
      cases h with
      | refl => exact hrefl _
      | number h => exact .cons (.number h) .nil

theorem toJson_eq (h : o.Spells o') (a : Json) : looseEq a o'.toJson = looseEq a o.toJson := by
  cases h with
  | refl => rfl
  | scalar h => exact h.looseEq_eq a
  | list h => exact looseEq_arr_spells h a
  | keyed f h => exact looseEq_obj_spells h f a

/-! ### Readings -/

theorem number_eq (h : o.Spells o') : o'.number = o.number := by
  have hread : ∀ {n : Number}, n.isSteady = true → ∃ x, asNumber (.num n) = some x
      ∧ asNumber (.str n.render) = some x := by
    intro n hn
    obtain ⟨x, hx, -⟩ := n.exists_toBinary64 hn
    exact ⟨x, hx, (Json.Spells.number hn).asNumber_eq.trans hx⟩
  cases h with
  | refl => rfl
  | list h => rfl
  | scalar h =>
      cases h with
      | refl => rfl
      | number h =>
          obtain ⟨x, hn, ht⟩ := hread h
          simp only [number, hn, ht]
  | keyed f h =>
      cases h with
      | refl => rfl
      | number h =>
          obtain ⟨x, hn, ht⟩ := hread h
          simp only [number, hn, ht]

theorem numberPair_eq (h : o.Spells o') : o'.numberPair = o.numberPair := by
  have hvalues := h.values
  rw [numberPair, numberPair]
  generalize o.values = vs at hvalues ⊢
  generalize o'.values = ws at hvalues ⊢
  cases hvalues with
  | nil => rfl
  | cons h₁ hs =>
      cases hs with
      | nil => rfl
      | cons h₂ hs =>
          cases hs with
          | nil => simp only [h₁.asNumber_eq, h₂.asNumber_eq]
          | cons h₃ hs => simp [hs.length_eq]

theorem scalar_text_eq (h : o.Spells o') :
    o'.scalar?.bind valueText = o.scalar?.bind valueText := by
  cases h with
  | refl => rfl
  | list h => rfl
  | keyed f h => rfl
  | scalar h => exact h.valueText_eq

theorem subnet_eq (h : o.Spells o') : o'.subnet = o.subnet := by
  rw [subnet, subnet, h.scalar_text_eq]

theorem patterns_eq (h : o.Spells o') : o'.patterns = o.patterns := by
  have hpattern : ∀ {v w : Json}, v.Spells w → pattern w = pattern v := by
    intro v w hvw
    rw [pattern, pattern, hvw.valueText_eq]
  have hmapM : o'.values.mapM pattern = o.values.mapM pattern := by
    have hvalues := h.values
    generalize o.values = vs at hvalues ⊢
    generalize o'.values = ws at hvalues ⊢
    induction hvalues with
    | nil => rfl
    | cons hvw _ ih => rw [List.mapM_cons, List.mapM_cons, hpattern hvw, ih]
  rw [patterns, patterns, isEmpty_spells h.values, hmapM]

theorem fieldName_eq (h : o.Spells o') : o'.fieldName = o.fieldName := by
  cases h <;> rfl

/-! ### Descriptions -/

theorem describe_eq (h : o.Spells o') : o'.describe = o.describe := by
  cases h with
  | refl => rfl
  | list h =>
      rw [describe, describe, map_spells h fun hvw => hvw.messageText_eq]
  | scalar h => exact h.messageText_eq
  | keyed f h =>
      cases h with
      | refl => rfl
      | number h => exact (Json.Spells.number h).messageText_eq

theorem describeEnds_eq (h : o.Spells o') : o'.describeEnds = o.describeEnds := by
  have hvalues := h.values
  rw [describeEnds, describeEnds]
  generalize o.values = vs at hvalues ⊢
  generalize o'.values = ws at hvalues ⊢
  cases hvalues with
  | nil => rfl
  | cons h₁ hs =>
      cases hs with
      | nil => rfl
      | cons h₂ hs =>
          cases hs with
          | nil => simp only [h₁.valueText_eq, h₂.valueText_eq]
          | cons h₃ hs => rfl

theorem describeEntry_eq (h : o.Spells o') : o'.describeEntry = o.describeEntry := by
  cases h with
  | refl => rfl
  | list h => rfl
  | scalar h => rfl
  | keyed f h => exact h.messageText_eq

end Operand.Spells

/-! ## Capabilities -/

/-- The capability reads its operand as dates. -/
def Kind.readsDates : Kind → Bool
  | .value (.dateTimeBetween _) => true
  | _ => false

section Capabilities

variable {o o' : Operand} (h : o.Spells o')

include h

theorem containsAll_spells (input : Json) : containsAll input o' = containsAll input o := by
  rw [containsAll, containsAll, isEmpty_spells h.values,
    all_spells h.values fun hvw => hvw.containsValue_eq input]

theorem containsAny_spells (input : Json) : containsAny input o' = containsAny input o :=
  any_spells h.values fun hvw => hvw.containsValue_eq input

theorem isOneOf_spells (v : Json) : isOneOf o'.values v = isOneOf o.values v :=
  any_spells h.values fun hvw => hvw.looseEq_eq v

theorem relateTexts_spells (r : List Char → List Char → Bool) (input : Json) :
    relateTexts r input o' = relateTexts r input o := by
  rw [relateTexts, relateTexts, h.scalar_text_eq]

theorem compareScalar_spells (input : Json) :
    o'.scalar?.bind (compareNumbers input) = o.scalar?.bind (compareNumbers input) := by
  cases h with
  | refl => rfl
  | list h => rfl
  | keyed f h => rfl
  | scalar h => exact h.compareNumbers_eq input

/-- What is searched is nothing twice, or a value and a text for it. -/
theorem searchedText_spells :
    (searchedText o = none ∧ searchedText o' = none)
      ∨ ∃ v w, searchedText o = some v ∧ searchedText o' = some w
        ∧ valueText w = valueText v := by
  cases h with
  | refl =>
      cases searchedText o with
      | none => exact .inl ⟨rfl, rfl⟩
      | some v => exact .inr ⟨v, v, rfl, rfl, rfl⟩
  | list h => exact .inl ⟨rfl, rfl⟩
  | keyed f h => exact .inl ⟨rfl, rfl⟩
  | @scalar v w h =>
      cases h with
      | number h => exact .inr ⟨_, _, rfl, rfl, rfl⟩
      | refl =>
          cases searchedText (.scalar v) with
          | none => exact .inl ⟨rfl, rfl⟩
          | some v => exact .inr ⟨v, v, rfl, rfl, rfl⟩

theorem isIncluded_spells (input : Json) : isIncluded input o' = isIncluded input o := by
  have hone : isOneOf o'.values = isOneOf o.values := funext (isOneOf_spells h)
  unfold isIncluded
  rw [hone]
  rcases searchedText_spells h with ⟨hs, hs'⟩ | ⟨v, w, hs, hs', htext⟩
  · rw [hs, hs']
  · rw [hs, hs']
    cases input <;> simp only [htext]

theorem isExcluded_spells (input : Json) : isExcluded input o' = isExcluded input o := by
  have hone : isOneOf o'.values = isOneOf o.values := funext (isOneOf_spells h)
  have hany : ∀ items : List Json, (o'.values.any fun d => items.any (looseEq · d)) =
      o.values.any fun d => items.any (looseEq · d) := by
    intro items
    refine any_spells h.values fun hvw => ?_
    simp only [hvw.looseEq_eq]
  unfold isExcluded
  simp only [hone, hany]
  rcases searchedText_spells h with ⟨hs, hs'⟩ | ⟨v, w, hs, hs', htext⟩
  · rw [hs, hs']
  · rw [hs, hs']
    cases input <;> simp only [htext]

theorem ValueTest.judge_spells {t : ValueTest} (hdates : (Kind.value t).readsDates = false)
    (patterns : List Pattern) (input : Json) :
    t.judge o' patterns input = t.judge o patterns input := by
  unfold judge
  cases t with
  | dateTimeBetween ends => cases hdates
  | _ =>
      simp only [h.number_eq, h.numberPair_eq, h.subnet_eq, h.toJson_eq, containsAll_spells h,
        containsAny_spells h, isOneOf_spells h, relateTexts_spells h, compareScalar_spells h,
        isIncluded_spells h, isExcluded_spells h]

theorem ItemTest.judge_spells (t : ItemTest) (record : Json) :
    t.judge o' record = t.judge o record := by
  unfold judge
  rw [h.number_eq]
  cases h with
  | refl => rfl
  | scalar h => rfl
  | list h => rfl
  | @keyed v w f h =>
      simp only [Operand.entry]
      split
      · rfl
      · cases t with
        | equals quota => simp only [orFaulty, Except.mapError, bind, Except.bind, h.looseEq_eq]
        | contains quota =>
            simp only [orFaulty, Except.mapError, bind, Except.bind, h.containsValue_eq]
        | beyond bound =>
            simp only [orFaulty, Except.mapError, bind, Except.bind, h.compareNumbers_eq]
        | count relation => rfl

/-- **A capability judges by an operand as by its spelling.** -/
theorem Kind.judge_spells {k : Kind} (hdates : k.readsDates = false) (patterns : List Pattern)
    (input : Json) : k.judge o' patterns input = k.judge o patterns input := by
  cases k with
  | value t => exact ValueTest.judge_spells h hdates patterns input
  | item t => exact ItemTest.judge_spells h t input
  | field t =>
      change t.judge o' input = t.judge o input
      rw [FieldTest.judge, FieldTest.judge, h.fieldName_eq]

theorem Kind.message_spells (k : Kind) : k.message o' = k.message o := by
  cases k with
  | value t =>
      change t.message o' = t.message o
      unfold ValueTest.message
      rw [h.describe_eq, h.describeEnds_eq]
  | item t =>
      change t.message o' = t.message o
      unfold ItemTest.message
      rw [h.targetField_eq, h.describeEntry_eq]
  | field t =>
      change t.message o' = t.message o
      unfold FieldTest.message
      rw [h.targetField_eq]

/-- Both operands are found fit, with the same patterns, or have the same
fault. -/
theorem Kind.prepare_spells {k : Kind} (hdates : k.readsDates = false) :
    k.prepare o' = k.prepare o := by
  have hentry : discard o'.entry = discard o.entry := by
    cases h with
    | refl => rfl
    | scalar h => rfl
    | list h => rfl
    | keyed f h =>
        simp only [Operand.entry]
        split <;> rfl
  have hcheck : k.check o' = k.check o := by
    cases k with
    | value t =>
        change t.check o' = t.check o
        unfold ValueTest.check
        cases t with
        | dateTimeBetween ends => cases hdates
        | _ => simp only [h.number_eq, h.numberPair_eq, h.subnet_eq, h.patterns_eq]
    | item t =>
        change t.check o' = t.check o
        unfold ItemTest.check
        rw [hentry, h.number_eq]
    | field t =>
        change discard o'.fieldName = discard o.fieldName
        rw [h.fieldName_eq]
  unfold prepare
  split
  · exact h.patterns_eq
  · rw [hcheck]

end Capabilities

end RecordRules
