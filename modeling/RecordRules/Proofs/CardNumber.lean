import Mathlib.Logic.Relation
import RecordRules.Proofs.Capability.Thresholds

/-!
# What a check digit detects

The digits of a card number are weighed from the right, and what a digit counts
depends on its place only by whether it is doubled there. So around a digit, or
around two neighbours, the weighing of the others stands still
(`exists_weigh_append`), and a slip changes the sum by what these digits count.

To count a digit, doubled or not, is to permute the ten digits
(`counted_inj`): one wrong digit is noticed. Two neighbours that change places
count the same only if they are 0 and 9 (`counted_transposed`). And with the
digit in the last place, which is never doubled, the sum takes every remainder
once (`existsUnique_last`). Separators are not weighed at all
(`Spaced.digits?_eq`).

`check_digit_detects_slips` says so of texts with digits and separators in them.
-/

namespace RecordRules

/-! ## Digits in text -/

namespace Decimal

theorem lt_ten_of_digit? {c : Char} {d : Nat} (h : digit? c = some d) : d < 10 := by
  rw [digit?] at h
  split at h
  next hc =>
    obtain rfl := Option.some.inj h
    have hle : c.toNat ≤ '9'.toNat := hc.2
    have hnine : '9'.toNat = 57 := rfl
    have hzero : '0'.toNat = 48 := rfl
    omega
  next => cases h

theorem digit?_inj {c c' : Char} {d : Nat} (h : digit? c = some d) (h' : digit? c' = some d) :
    c = c' := by
  rw [digit?] at h h'
  split at h
  next hc =>
    split at h'
    next hc' =>
      have hle : '0'.toNat ≤ c.toNat := hc.1
      have hle' : '0'.toNat ≤ c'.toNat := hc'.1
      have hd := (Option.some.inj h).trans (Option.some.inj h').symm
      exact Char.toNat_inj.mp (by omega)
    next => cases h'
  next => cases h

theorem digit?_digitChar : ∀ d < 10, digit? (digitChar d) = some d := by decide

end Decimal

namespace CardNumber

open Decimal

/-! ## Single digits -/

/-- What a digit counts. -/
def counted (double : Bool) (d : Nat) : Nat := if double then doubled d else d

/-- Counting tells the digits apart. -/
theorem counted_inj : ∀ double, ∀ d < 10, ∀ e < 10,
    counted double d % 10 = counted double e % 10 → d = e := by decide

/-- Neighbours that change places count the same only if they are 0 and 9. -/
theorem counted_transposed : ∀ double, ∀ d < 10, ∀ e < 10,
    (counted double d + counted (!double) e) % 10 =
        (counted double e + counted (!double) d) % 10 →
      d = e ∨ (d = 0 ∧ e = 9) ∨ (d = 9 ∧ e = 0) := by decide

/-! ## Digits in their places -/

theorem weigh_cons (double : Bool) (d : Nat) (ds : List Nat) :
    weigh double (d :: ds) = counted double d + weigh (!double) ds := rfl

/-- How what follows is weighed hangs on how many digits come first, and on
nothing else of them. -/
theorem exists_weigh_append (double : Bool) (ds : List Nat) :
    ∃ next, ∀ es, weigh double (ds ++ es) = weigh double ds + weigh next es := by
  induction ds generalizing double with
  | nil => exact ⟨double, fun es => (Nat.zero_add _).symm⟩
  | cons d ds ih =>
      obtain ⟨next, hnext⟩ := ih (!double)
      refine ⟨next, fun es => ?_⟩
      rw [List.cons_append, weigh_cons, weigh_cons, hnext, Nat.add_assoc]

/-- At least two digits whose check sum is right. -/
def Checks (ds : List Nat) : Prop := 2 ≤ ds.length ∧ weigh false ds.reverse % 10 = 0

namespace Checks

variable {before after : List Nat} {d e : Nat}

theorem eq_of_replaced (hd : d < 10) (he : e < 10) (h : Checks (before ++ d :: after))
    (h' : Checks (before ++ e :: after)) : d = e := by
  -- Seen from the right, what stands behind the slip is weighed before it.
  obtain ⟨next, hnext⟩ := exists_weigh_append false after.reverse
  have hsum := h.2
  have hsum' := h'.2
  simp only [List.reverse_append, List.reverse_cons, List.append_assoc, List.singleton_append,
    hnext, weigh_cons] at hsum hsum'
  exact counted_inj next d hd e he (by omega)

theorem eq_of_transposed (hd : d < 10) (he : e < 10) (h : Checks (before ++ d :: e :: after))
    (h' : Checks (before ++ e :: d :: after)) : d = e ∨ (d = 0 ∧ e = 9) ∨ (d = 9 ∧ e = 0) := by
  obtain ⟨next, hnext⟩ := exists_weigh_append false after.reverse
  have hsum := h.2
  have hsum' := h'.2
  simp only [List.reverse_append, List.reverse_cons, List.append_assoc, List.cons_append,
    List.nil_append, hnext, weigh_cons] at hsum hsum'
  exact counted_transposed next d hd e he (by omega)

/-- The last digit is weighed as it is, so one digit completes the sum. -/
theorem existsUnique_last {ds : List Nat} (hne : ds ≠ []) :
    ∃! d, d < 10 ∧ Checks (ds ++ [d]) := by
  have hchecks : ∀ d, Checks (ds ++ [d]) ↔ (d + weigh true ds.reverse) % 10 = 0 := by
    intro d
    have hlen : 2 ≤ (ds ++ [d]).length := by
      have hpos := List.length_pos_iff.mpr hne
      simp only [List.length_append, List.length_singleton]
      omega
    rw [Checks, and_iff_right hlen, List.reverse_append, List.reverse_singleton,
      List.singleton_append, weigh_cons]
    rfl
  refine ⟨(10 - weigh true ds.reverse % 10) % 10, ⟨by omega, (hchecks _).mpr (by omega)⟩, ?_⟩
  rintro d ⟨hd, h⟩
  have hsum := (hchecks d).mp h
  omega

end Checks

/-! ## Texts -/

theorem not_isSeparator_of_digit? {c : Char} {d : Nat} (h : digit? c = some d) :
    isSeparator c = false := by
  rw [isSeparator, Bool.or_eq_false_iff, beq_eq_false_iff_ne, beq_eq_false_iff_ne]
  constructor
  · rintro rfl
    cases h
  · rintro rfl
    cases h

theorem digits?_append_eq_some {cs cs' : List Char} {ds : List Nat} :
    digits? (cs ++ cs') = some ds ↔
      ∃ before after, digits? cs = some before ∧ digits? cs' = some after
        ∧ ds = before ++ after := by
  simp only [digits?, List.filter_append, List.mapM_append, Option.bind_eq_bind,
    Option.bind_eq_some_iff, Option.pure_def, Option.some.injEq, exists_and_left, eq_comm (a := ds)]

theorem digits?_append {cs cs' : List Char} {ds ds' : List Nat} (h : digits? cs = some ds)
    (h' : digits? cs' = some ds') : digits? (cs ++ cs') = some (ds ++ ds') :=
  digits?_append_eq_some.mpr ⟨ds, ds', h, h', rfl⟩

theorem digits?_cons {c : Char} {d : Nat} (hc : digit? c = some d) {cs : List Char}
    {ds : List Nat} (h : digits? cs = some ds) : digits? (c :: cs) = some (d :: ds) := by
  rw [digits?] at h ⊢
  rw [List.filter_cons_of_pos (by simp [not_isSeparator_of_digit? hc]), List.mapM_cons, hc, h]
  rfl

theorem exists_digits? {cs : List Char} (h : ∀ c ∈ cs, isDigit c = true) :
    ∃ ds, digits? cs = some ds ∧ ds.length = cs.length := by
  induction cs with
  | nil => exact ⟨[], rfl, rfl⟩
  | cons c cs ih =>
      obtain ⟨hc, hcs⟩ := List.forall_mem_cons.mp h
      obtain ⟨d, hd⟩ := Option.isSome_iff_exists.mp hc
      obtain ⟨ds, hds, hlen⟩ := ih hcs
      exact ⟨d :: ds, digits?_cons hd hds, congrArg Nat.succ hlen⟩

theorem isValid_iff_checks {cs : List Char} {ds : List Nat} (h : digits? cs = some ds) :
    isValid cs = true ↔ Checks ds := by
  rw [isValid, h]
  simp [Checks]

/-- What stands around a part of a valid text has digits, whatever that part is. -/
theorem exists_digits_around {before after : List Char} (middle : List Char)
    (h : isValid (before ++ (middle ++ after)) = true) :
    ∃ xs ys, digits? before = some xs ∧ digits? after = some ys := by
  rw [isValid] at h
  split at h
  next ds hds =>
    obtain ⟨xs, _, hxs, hrest, -⟩ := digits?_append_eq_some.mp hds
    obtain ⟨_, ys, -, hys, -⟩ := digits?_append_eq_some.mp hrest
    exact ⟨xs, ys, hxs, hys⟩
  next => cases h

section Slips

variable {before after : List Char} {c c' : Char} (hc : isDigit c = true)
  (hc' : isDigit c' = true)

include hc hc'

theorem eq_of_replaced (h : isValid (before ++ c :: after) = true)
    (h' : isValid (before ++ c' :: after) = true) : c = c' := by
  obtain ⟨d, hd⟩ := Option.isSome_iff_exists.mp hc
  obtain ⟨e, he⟩ := Option.isSome_iff_exists.mp hc'
  obtain ⟨xs, ys, hxs, hys⟩ := exists_digits_around [c] h
  have hchecks := (isValid_iff_checks (digits?_append hxs (digits?_cons hd hys))).mp h
  have hchecks' := (isValid_iff_checks (digits?_append hxs (digits?_cons he hys))).mp h'
  obtain rfl := hchecks.eq_of_replaced (lt_ten_of_digit? hd) (lt_ten_of_digit? he) hchecks'
  exact digit?_inj hd he

theorem eq_of_transposed (h : isValid (before ++ c :: c' :: after) = true)
    (h' : isValid (before ++ c' :: c :: after) = true) :
    c = c' ∨ (c = '0' ∧ c' = '9') ∨ (c = '9' ∧ c' = '0') := by
  obtain ⟨d, hd⟩ := Option.isSome_iff_exists.mp hc
  obtain ⟨e, he⟩ := Option.isSome_iff_exists.mp hc'
  obtain ⟨xs, ys, hxs, hys⟩ := exists_digits_around [c, c'] h
  have hchecks :=
    (isValid_iff_checks (digits?_append hxs (digits?_cons hd (digits?_cons he hys)))).mp h
  have hchecks' :=
    (isValid_iff_checks (digits?_append hxs (digits?_cons he (digits?_cons hd hys)))).mp h'
  have hzero : digit? '0' = some 0 := rfl
  have hnine : digit? '9' = some 9 := rfl
  obtain rfl | ⟨rfl, rfl⟩ | ⟨rfl, rfl⟩ :=
    hchecks.eq_of_transposed (lt_ten_of_digit? hd) (lt_ten_of_digit? he) hchecks'
  · exact .inl (digit?_inj hd he)
  · exact .inr (.inl ⟨digit?_inj hd hzero, digit?_inj he hnine⟩)
  · exact .inr (.inr ⟨digit?_inj hd hnine, digit?_inj he hzero⟩)

end Slips

theorem existsUnique_last {cs : List Char} (hne : cs ≠ [])
    (h : ∀ c ∈ cs, isDigit c = true) :
    ∃! c, isDigit c = true ∧ isValid (cs ++ [c]) = true := by
  obtain ⟨ds, hds, hlen⟩ := exists_digits? h
  have hds_ne : ds ≠ [] := by
    rintro rfl
    exact hne (List.length_eq_zero_iff.mp hlen.symm)
  have hvalid : ∀ {c d}, digit? c = some d →
      (isValid (cs ++ [c]) = true ↔ Checks (ds ++ [d])) := fun hd =>
    isValid_iff_checks (digits?_append hds (digits?_cons hd rfl))
  obtain ⟨d, ⟨hd, hchecks⟩, hunique⟩ := Checks.existsUnique_last hds_ne
  have hchar := digit?_digitChar d hd
  refine ⟨digitChar d, ⟨Option.isSome_of_eq_some hchar, (hvalid hchar).mpr hchecks⟩, ?_⟩
  rintro c ⟨hc, hvalid_c⟩
  obtain ⟨e, he⟩ := Option.isSome_iff_exists.mp hc
  obtain rfl := hunique e ⟨lt_ten_of_digit? he, (hvalid he).mp hvalid_c⟩
  exact digit?_inj he hchar

/-! ## Separators -/

/-- A separator was put in somewhere. -/
inductive Spaced : List Char → List Char → Prop
  | insert (before : List Char) (c : Char) (after : List Char) (h : isSeparator c = true) :
    Spaced (before ++ after) (before ++ c :: after)

theorem Spaced.digits?_eq {cs cs' : List Char} (h : Spaced cs cs') : digits? cs = digits? cs' := by
  obtain ⟨before, c, after, hc⟩ := h
  rw [digits?, digits?, List.filter_append, List.filter_append,
    List.filter_cons_of_neg (by simp [hc])]

/-- Separators may be put in and taken out any number of times. -/
theorem digits?_eq_of_eqvGen {cs cs' : List Char} (h : Relation.EqvGen Spaced cs cs') :
    digits? cs = digits? cs' := by
  induction h with
  | rel _ _ h => exact h.digits?_eq
  | refl _ => rfl
  | symm _ _ _ ih => exact ih.symm
  | trans _ _ _ _ _ ih ih' => exact ih.trans ih'

end CardNumber

open CardNumber

/-! ## The check of card numbers -/

/-- **What the check of card numbers detects.** The capability takes any operand,
and then decides by the text of the input. A text that is valid is so no more with
one digit replaced by another, nor with two different digits that stand side by
side in each other's place, unless they are 0 and 9. Spaces and dashes may be put
in or taken out anywhere. And any digits can be completed by exactly one last
digit. -/
theorem check_digit_detects_slips :
    (∀ o, (Kind.value .creditCard).Decides o (testText isValid))
      ∧ (∀ before c c' after, Decimal.isDigit c = true → Decimal.isDigit c' = true → c ≠ c' →
        isValid (before ++ c :: after) = true → isValid (before ++ c' :: after) = false)
      ∧ (∀ before c c' after, Decimal.isDigit c = true → Decimal.isDigit c' = true → c ≠ c' →
        ¬(c = '0' ∧ c' = '9') → ¬(c = '9' ∧ c' = '0') →
        isValid (before ++ c :: c' :: after) = true →
        isValid (before ++ c' :: c :: after) = false)
      ∧ (∀ cs cs', Relation.EqvGen Spaced cs cs' → isValid cs = isValid cs')
      ∧ ∀ cs, cs ≠ [] → (∀ c ∈ cs, Decimal.isDigit c = true) →
        ∃! c, Decimal.isDigit c = true ∧ isValid (cs ++ [c]) = true := by
  refine ⟨fun o => ValueTest.decides (by simp) rfl fun _ => rfl, ?_, ?_, ?_, ?_⟩
  · intro before c c' after hc hc' hne hvalid
    exact Bool.eq_false_iff.mpr fun hvalid' => hne (eq_of_replaced hc hc' hvalid hvalid')
  · intro before c c' after hc hc' hne hup hdown hvalid
    refine Bool.eq_false_iff.mpr fun hvalid' => ?_
    obtain heq | hup' | hdown' := eq_of_transposed hc hc' hvalid hvalid'
    · exact hne heq
    · exact hup hup'
    · exact hdown hdown'
  · intro cs cs' h
    rw [isValid, isValid, digits?_eq_of_eqvGen h]
  · intro cs hne h
    exact existsUnique_last hne h

/-- A number in groups of four, and what may become of it. -/
theorem check_digit_detects_slips_in_groups :
    isValid ("4111-1111-11".toList ++ '1' :: "1-1111".toList) = true
      ∧ isValid ("4111-1111-11".toList ++ '7' :: "1-1111".toList) = false
      ∧ isValid ([] ++ '4' :: '1' :: "11-1111-1111-1111".toList) = true
      ∧ isValid ([] ++ '1' :: '4' :: "11-1111-1111-1111".toList) = false
      ∧ isValid ("4111".toList ++ "1111-1111-1111".toList) = true
      ∧ ∃! c, Decimal.isDigit c = true ∧ isValid ("411111111111111".toList ++ [c]) = true := by
  obtain ⟨-, hreplaced, htransposed, hspaced, hlast⟩ := check_digit_detects_slips
  have hvalid : isValid "4111-1111-1111-1111".toList = true := by decide +kernel
  have hjoined : Relation.EqvGen Spaced ("4111".toList ++ "1111-1111-1111".toList)
      ("4111".toList ++ '-' :: "1111-1111-1111".toList) := .rel _ _ (.insert _ _ _ rfl)
  refine ⟨hvalid, ?_, hvalid, ?_, (hspaced _ _ hjoined).trans hvalid, ?_⟩
  · exact hreplaced _ '1' '7' _ rfl rfl (by decide) hvalid
  · exact htransposed [] '4' '1' _ rfl rfl (by decide) (by decide) (by decide) hvalid
  · exact hlast _ (by decide) (List.all_eq_true.mp (by decide +kernel))

end RecordRules
