import Mathlib.Tactic.Ring
import RecordRules.Proofs.Rule.ReadBack
import RecordRules.Record.Loose

/-!
# Written numbers read back

The text of a number spells that number (`Number.numberInText_render`). For an
integer the digits are read as they are. For a fractional number three things
come together:

- the search for the shortest numeral ends with one that reads back, since it
  only takes what it has tried and the exact numeral at its end rounds to the
  number itself (`numeral_readsBack`);
- a numeral keeps its value when zeros are put behind its digits and the
  exponent makes up for them (`Decimal.toBinary64_shift`), so stripping zeros
  and laying the digits out around a point changes nothing;
- reading finds the digits and the exponent of either layout again
  (`Decimal.read?_whole`, `Decimal.read?_point`).
-/

namespace RecordRules

namespace Decimal

/-! ## Digits -/

theorem isDigit_eq (c : Char) : isDigit c = c.isDigit := by
  have hiff : ('0' ≤ c ∧ c ≤ '9') ↔ c.isDigit = true := by
    rw [Char.isDigit_iff_toNat]
    rfl
  rw [isDigit, digit?]
  split
  next h => rw [hiff.mp h]; rfl
  next h => rw [Bool.eq_false_iff.mpr (mt hiff.mpr h)]; rfl

/-- Digits only. -/
def AreDigits (cs : List Char) : Prop := ∀ c ∈ cs, isDigit c = true

theorem AreDigits.append {cs ds : List Char} (hc : AreDigits cs) (hd : AreDigits ds) :
    AreDigits (cs ++ ds) := List.forall_mem_append.mpr ⟨hc, hd⟩

theorem areDigits_zeros (n : Nat) : AreDigits (List.replicate n '0') := by
  intro c hc
  rw [List.eq_of_mem_replicate hc]
  rfl

theorem areDigits_digitsOf (n : Nat) : AreDigits (digitsOf n) := by
  intro c hc
  rw [isDigit_eq]
  exact Nat.isDigit_of_mem_toDigits (by decide) (by decide) hc

theorem digitsOf_ne_nil (n : Nat) : digitsOf n ≠ [] := Nat.toDigits_ne_nil

theorem ofDigits_append (cs ds : List Char) :
    ofDigits (cs ++ ds) = ofDigits cs * 10 ^ ds.length + ofDigits ds := by
  have hfold : ∀ n, ds.foldl (fun n c => 10 * n + (digit? c).getD 0) n =
      n * 10 ^ ds.length + ofDigits ds := by
    induction ds with
    | nil => intro n; simp [ofDigits]
    | cons d ds ih =>
        intro n
        have hd : ofDigits (d :: ds) = (10 * 0 + (digit? d).getD 0) * 10 ^ ds.length + ofDigits ds :=
          ih _
        rw [List.foldl_cons, ih, hd, List.length_cons]
        ring
  rw [ofDigits, List.foldl_append, hfold]
  rfl

theorem ofDigits_zeros (n : Nat) : ofDigits (List.replicate n '0') = 0 := by
  induction n with
  | zero => rfl
  | succ n ih =>
      rw [List.replicate_succ', ofDigits_append, ih]
      rfl

theorem ofDigits_digitsOf (n : Nat) : ofDigits (digitsOf n) = n := by
  have hfold : ∀ cs : List Char, AreDigits cs → ∀ n,
      cs.foldl (fun n c => 10 * n + (digit? c).getD 0) n = Nat.ofDigitChars 10 cs n := by
    intro cs hcs
    induction cs with
    | nil => intro n; rfl
    | cons c cs ih =>
        obtain ⟨hc, hcs⟩ := List.forall_mem_cons.mp hcs
        intro n
        have hdigit : (digit? c).getD 0 = c.toNat - '0'.toNat := by
          rw [isDigit, Option.isSome_iff_ne_none] at hc
          rw [digit?] at hc ⊢
          split at hc
          next h => rw [if_pos h]; rfl
          next => exact absurd rfl hc
        rw [List.foldl_cons, ih hcs, Nat.ofDigitChars_cons, hdigit]
  rw [ofDigits, hfold _ (areDigits_digitsOf n) 0]
  exact Nat.ofDigitChars_ten_toDigits

theorem length_digitsOf_shift {n : Nat} (h : 0 < n) (k : Nat) :
    (digitsOf (n * 10 ^ k)).length = (digitsOf n).length + k := by
  induction k with
  | zero => simp
  | succ k ih =>
      have hpos : 0 < n * 10 ^ k := Nat.mul_pos h (Nat.pow_pos (by decide))
      have hlast : digitsOf (n * 10 ^ (k + 1)) = digitsOf (n * 10 ^ k) ++ digitsOf 0 := by
        rw [digitsOf, digitsOf, digitsOf, Nat.toDigits_append_toDigits (by decide) hpos (by decide)]
        congr 1
        ring
      rw [hlast, List.length_append, ih]
      rfl

/-! ## Reading -/

/-- The text goes on with no digit. -/
def EndsDigits (cs : List Char) : Prop := ∀ c ∈ cs.head?, isDigit c = false

theorem EndsDigits.takeWhile {cs ds : List Char} (h : EndsDigits cs) (hd : AreDigits ds) :
    (ds ++ cs).takeWhile isDigit = ds := by
  rw [List.takeWhile_append_of_pos hd]
  cases cs with
  | nil => simp
  | cons c cs => simp [h c rfl]

theorem EndsDigits.dropWhile {cs ds : List Char} (h : EndsDigits cs) (hd : AreDigits ds) :
    (ds ++ cs).dropWhile isDigit = cs := by
  rw [List.dropWhile_append_of_pos hd]
  cases cs with
  | nil => rfl
  | cons c cs => simp [h c rfl]

/-- The text with a sign in front if it is negative. -/
def signed (negative : Bool) (cs : List Char) : List Char := if negative then '-' :: cs else cs

theorem splitSign_signed (negative : Bool) {ds : List Char} (h : AreDigits ds) (hne : ds ≠ [])
    (rest : List Char) : splitSign (signed negative (ds ++ rest)) = (negative, ds ++ rest) := by
  cases negative with
  | true => rfl
  | false =>
      obtain ⟨d, ds, rfl⟩ := List.exists_cons_of_ne_nil hne
      have hd : isDigit d = true := h d (List.mem_cons_self ..)
      rw [signed, if_neg Bool.false_ne_true, List.cons_append]
      unfold splitSign
      split
      next heq =>
        obtain ⟨rfl, -⟩ := List.cons_eq_cons.mp heq
        cases hd
      next heq =>
        obtain ⟨rfl, -⟩ := List.cons_eq_cons.mp heq
        cases hd
      next => rfl

theorem read?_whole (negative : Bool) {whole tail : List Char} {e : Int} (hw : AreDigits whole)
    (hne : whole ≠ []) (htail : readTail? tail = some e) (hend : EndsDigits tail)
    (hpoint : '.' ∉ tail.head?) :
    read? (signed negative (whole ++ tail)) = some ⟨negative, ofDigits whole, e⟩ := by
  rw [read?, splitSign_signed negative hw hne]
  dsimp only
  rw [hend.takeWhile hw, hend.dropWhile hw]
  cases tail with
  | nil => simp [hne, htail]
  | cons c tail =>
      have hc : c ≠ '.' := by
        rintro rfl
        exact hpoint rfl
      simp [hc, hne, htail]

theorem read?_point (negative : Bool) {whole fraction tail : List Char} {e : Int}
    (hw : AreDigits whole) (hne : whole ≠ []) (hf : AreDigits fraction)
    (htail : readTail? tail = some e) (hend : EndsDigits tail) :
    read? (signed negative (whole ++ '.' :: (fraction ++ tail))) =
      some ⟨negative, ofDigits (whole ++ fraction), e - fraction.length⟩ := by
  have hpoint : EndsDigits ('.' :: (fraction ++ tail)) := by
    rintro c hc
    cases hc
    rfl
  rw [read?, splitSign_signed negative hw hne]
  dsimp only
  rw [hpoint.takeWhile hw, hpoint.dropWhile hw]
  simp only [hend.takeWhile hf, hend.dropWhile hf, htail]
  simp [hne]

theorem readTail?_exponent (lead : Int) :
    readTail? ('e' :: (if lead < 0 then '-' else '+') :: digitsOf lead.natAbs) = some lead := by
  have hdigits :
      ¬ ((digitsOf lead.natAbs).isEmpty || !(digitsOf lead.natAbs).all isDigit) = true := by
    have hall : (digitsOf lead.natAbs).all isDigit = true :=
      List.all_eq_true.mpr (areDigits_digitsOf lead.natAbs)
    have hnil := digitsOf_ne_nil lead.natAbs
    simp [hall, hnil]
  rw [readTail?, if_pos (.inl rfl), readExponent?]
  by_cases h : lead < 0
  · simp only [if_pos h, splitSign, if_neg hdigits, if_true, ofDigits_digitsOf]
    exact congrArg some (by omega)
  · simp only [if_neg h, splitSign, if_neg hdigits, Bool.false_eq_true, if_false, ofDigits_digitsOf]
    exact congrArg some (by omega)

end Decimal

/-! ## Rounding -/

namespace Binary64

theorem nearest_mul {c : Nat} (hc : 0 < c) (num den : Nat) :
    nearest (num * c) (den * c) = nearest num den := by
  have hlt : 2 * (num % den * c) < den * c ↔ 2 * (num % den) < den := by
    rw [← Nat.mul_assoc]
    exact Nat.mul_lt_mul_right hc
  have heq : 2 * (num % den * c) = den * c ↔ 2 * (num % den) = den := by
    rw [← Nat.mul_assoc]
    exact Nat.mul_right_cancel_iff hc
  rw [nearest, nearest, Nat.mul_div_mul_right _ _ hc, Nat.mul_mod_mul_right]
  simp only [hlt, heq]

/-- Rounding a quotient only hangs on its value. -/
theorem rounded_mul (negative : Bool) {c : Nat} (hc : 0 < c) (num den : Nat) :
    rounded negative (num * c) (den * c) = rounded negative num den := by
  have hround : roundUnits (num * c) (den * c) = roundUnits num den := by
    rw [roundUnits, roundUnits, Nat.mul_div_mul_right _ _ hc, Nat.mul_right_comm, nearest_mul hc]
  simp only [rounded, hround]

theorem roundUnits_of_fits {m : Nat} (h : Fits m) : roundUnits m 1 = m := by
  obtain ⟨q, hq⟩ := h.2
  have hstep : 0 < power 2 (bitLength m - 53) := power_pos (by decide) _
  rw [roundUnits, Nat.div_one, Nat.one_mul]
  generalize power 2 (bitLength m - 53) = step at hq hstep
  rw [nearest, hq, Nat.mul_mod_right, Nat.mul_div_cancel_left q hstep, if_pos (.inl hstep),
    Nat.mul_comm]

/-- A number of the format is rounded to itself. -/
theorem rounded_of_fits (negative : Bool) {m : Nat} (h : Fits m) :
    rounded negative m 1 = some ⟨negative, m, h⟩ := by
  simp only [rounded, roundUnits_of_fits h, dif_pos h.1]

/-- The number with another sign. -/
def withSign (negative : Bool) (x : Binary64) : Binary64 := { x with negative }

theorem rounded_sign (negative : Bool) (num den : Nat) :
    rounded negative num den = (rounded false num den).map (withSign negative) := by
  rw [rounded, rounded]
  split <;> rfl

end Binary64

/-! ## Values of numerals -/

namespace Decimal

open Binary64 (rounded rounded_mul rounded_sign withSign)

theorem toBinary64_sign (negative : Bool) (n : Nat) (e : Int) :
    toBinary64 ⟨negative, n, e⟩ = (toBinary64 ⟨false, n, e⟩).map (withSign negative) := by
  simp only [toBinary64]
  split
  · rfl
  · split
    · rfl
    · split
      · rfl
      · split <;> exact rounded_sign ..

theorem power_eq (b k : Nat) : power b k = b ^ k := rfl

theorem power_mul_base (a b k : Nat) : power (a * b) k = power a k * power b k :=
  Nat.mul_pow a b k

theorem length_digitsOf_le {n k : Nat} (hk : 0 < k) :
    (digitsOf n).length ≤ k ↔ n < power 10 k := Nat.length_toDigits_le_iff (by decide) hk

/-- Zeros behind the digits are made up for by the exponent. -/
theorem toBinary64_shift (negative : Bool) (n k : Nat) (e : Int) :
    toBinary64 ⟨negative, n * 10 ^ k, e⟩ = toBinary64 ⟨negative, n, e + k⟩ := by
  rcases Nat.eq_zero_or_pos n with rfl | hn
  · simp [toBinary64]
  have hsize : ((digitsOf (n * 10 ^ k)).length : Int) + e = (digitsOf n).length + (e + k) := by
    rw [length_digitsOf_shift hn]
    omega
  have hne : ¬ n * 10 ^ k = 0 := Nat.ne_of_gt (Nat.mul_pos hn (Nat.pow_pos (by decide)))
  simp only [toBinary64, hsize, if_neg hne, if_neg (Nat.ne_of_gt hn)]
  congr 2
  have hshift : ∀ j u : Nat, n * 10 ^ k * power 10 j * u = n * power 10 (k + j) * u := by
    intro j u
    rw [power_add, power_eq 10 k]
    ring
  -- The numeral is a fraction as long as its exponent is negative, which the shift may end.
  by_cases he : e < 0
  · by_cases hek : e + k < 0
    · have habs : e.natAbs = (e + k).natAbs + k := by omega
      rw [if_pos he, if_pos hek, habs, power_add, power_eq 10 k, Nat.mul_right_comm,
        rounded_mul _ (Nat.pow_pos (by decide))]
    · have habs : k = (e + k).natAbs + e.natAbs := by omega
      have hnum : n * 10 ^ k = n * power 10 (e + k).natAbs * power 10 e.natAbs := by
        rw [Nat.mul_assoc, ← power_add, ← habs]
        rfl
      have hten : 0 < power 10 e.natAbs := power_pos (by decide) _
      have hround := rounded_mul negative hten (n * power 10 (e + k).natAbs * Binary64.unitsPerOne) 1
      rw [Nat.one_mul] at hround
      rw [if_pos he, if_neg hek, hnum, Nat.mul_right_comm, hround]
  · have hek : ¬ e + k < 0 := by omega
    have habs : (e + k).natAbs = k + e.natAbs := by omega
    rw [if_neg he, if_neg hek, hshift, habs]

end Decimal

/-! ## The shortest numeral -/

namespace Binary64

open Decimal (digitsOf ofDigits power_mul_base length_digitsOf_le toBinary64_sign toBinary64_shift)

theorem exactDigits_bounds {x : Binary64} (h : x.magnitude ≠ 0) :
    power 10 700 < x.exactDigits ∧ x.exactDigits < power 10 1383 := by
  have hlow : power 10 700 < power 5 1074 := by decide +kernel
  have hhigh : tooLarge * power 5 1074 < power 10 1383 := by decide +kernel
  have hfive : 0 < power 5 1074 := power_pos (by decide) _
  have hlt : x.magnitude * power 5 1074 < tooLarge * power 5 1074 :=
    Nat.mul_lt_mul_of_pos_right x.fits.1 hfive
  exact ⟨Nat.lt_of_lt_of_le hlow (Nat.le_mul_of_pos_left _ (Nat.pos_of_ne_zero h)),
    Nat.lt_trans hlt hhigh⟩

/-- The exact numeral is the number. -/
theorem toBinary64_exactDigits {x : Binary64} (h : x.magnitude ≠ 0) :
    Decimal.toBinary64 ⟨false, x.exactDigits, -1074⟩ = some (x.withSign false) := by
  obtain ⟨hlow, hhigh⟩ := exactDigits_bounds h
  -- So many digits are neither cut off as too large nor as too small.
  have hlen : (digitsOf x.exactDigits).length ≤ 1383 :=
    (length_digitsOf_le (by decide)).mpr hhigh
  have hlen' : ¬ (digitsOf x.exactDigits).length ≤ 700 := by
    rw [length_digitsOf_le (by decide), Nat.not_lt]
    exact Nat.le_of_lt hlow
  have hne : x.exactDigits ≠ 0 := Nat.ne_of_gt (Nat.lt_of_le_of_lt (Nat.zero_le _) hlow)
  have hten : power 10 1074 = power 5 1074 * power 2 1074 := power_mul_base 5 2 1074
  have hnum : x.exactDigits * unitsPerOne = x.magnitude * power 10 1074 := by
    rw [exactDigits, unitsPerOne, hten, Nat.mul_assoc]
  have hround := rounded_mul false (power_pos (by decide : 0 < 10) 1074) x.magnitude 1
  rw [Nat.one_mul, rounded_of_fits false x.fits] at hround
  simp only [Decimal.toBinary64]
  rw [if_neg hne, if_neg (by omega), if_neg (by omega), if_pos (by decide), hnum]
  exact hround

theorem readsBackAs_iff {x : Binary64} {n : Nat} {e : Int} :
    x.readsBackAs n e = true ↔
      Decimal.toBinary64 ⟨x.negative, n, e⟩ = some x := by
  rw [readsBackAs, toBinary64_sign x.negative]
  cases Decimal.toBinary64 ⟨false, n, e⟩ with
  | none => simp
  | some y =>
      obtain ⟨negative, magnitude, fits⟩ := x
      simp [withSign]

theorem neighbour?_readsBack {x : Binary64} {N drop : Nat} {p : Nat × Int}
    (h : neighbour? x N drop = some p) : x.readsBackAs p.1 p.2 = true := by
  simp only [neighbour?] at h
  split at h
  next hbelow =>
    cases h
    rw [Bool.and_eq_true] at hbelow
    exact hbelow.1
  next =>
    split at h
    next habove =>
      cases h
      exact habove
    next => cases h

theorem search_readsBack {x : Binary64} {N : Nat} (h : x.readsBackAs N (-1074) = true)
    (drop : Nat) : x.readsBackAs (search x N drop).1 (search x N drop).2 = true := by
  induction drop with
  | zero => exact h
  | succ drop ih =>
      rw [search]
      cases hn : neighbour? x N (drop + 1) with
      | none => exact ih
      | some p => exact neighbour?_readsBack hn

/-- The numeral that is found reads back. -/
theorem numeral_readsBack {x : Binary64} (h : x.magnitude ≠ 0) :
    Decimal.toBinary64 ⟨x.negative, x.numeral.1, x.numeral.2⟩ = some x := by
  refine readsBackAs_iff.mp (search_readsBack (readsBackAs_iff.mpr ?_) _)
  -- What is left is the exact numeral, where the search ends at the latest.
  rw [toBinary64_sign, toBinary64_exactDigits h]
  rfl

/-- Only zeros are stripped. -/
theorem stripZeros_append (ds : List Char) :
    ∃ k, ds = stripZeros ds ++ List.replicate k '0' := by
  have hzeros : (ds.reverse.takeWhile (· == '0')).reverse =
      List.replicate (ds.reverse.takeWhile (· == '0')).length '0' := by
    rw [List.eq_replicate_iff]
    refine ⟨List.length_reverse, fun c hc => ?_⟩
    rw [List.mem_reverse] at hc
    have hzero : (c == '0') = true := List.mem_takeWhile_imp (p := (· == '0')) hc
    exact beq_iff_eq.mp hzero
  refine ⟨(ds.reverse.takeWhile (· == '0')).length, ?_⟩
  rw [← hzeros, stripZeros, ← List.reverse_append, List.takeWhile_append_dropWhile,
    List.reverse_reverse]

theorem eq_zero {x : Binary64} (h : x.magnitude = 0) : x = zero x.negative := by
  obtain ⟨negative, magnitude, fits⟩ := x
  obtain rfl : magnitude = 0 := h
  rfl

/-- The shortest digits and the power of ten of the first of them read back. -/
theorem shortest_readsBack (x : Binary64) :
    Decimal.AreDigits x.shortest.1 ∧ x.shortest.1 ≠ []
      ∧ Decimal.toBinary64
        ⟨x.negative, ofDigits x.shortest.1, x.shortest.2 - x.shortest.1.length + 1⟩ = some x := by
  rw [shortest]
  split
  next h =>
    refine ⟨Decimal.areDigits_zeros 1, List.cons_ne_nil _ _, ?_⟩
    exact congrArg some (eq_zero (beq_iff_eq.mp h)).symm
  next h =>
    have hx : x.magnitude ≠ 0 := fun he => h (beq_iff_eq.mpr he)
    have hread := numeral_readsBack hx
    generalize x.numeral = p at hread
    obtain ⟨n, e⟩ := p
    obtain ⟨k, hk⟩ := stripZeros_append (digitsOf n)
    have hn : n = ofDigits (stripZeros (digitsOf n)) * 10 ^ k := by
      have hvalue := congrArg ofDigits hk
      rwa [Decimal.ofDigits_digitsOf, Decimal.ofDigits_append, Decimal.ofDigits_zeros,
        List.length_replicate, Nat.add_zero] at hvalue
    have hlen : (digitsOf n).length = (stripZeros (digitsOf n)).length + k := by
      have hlength := congrArg List.length hk
      rwa [List.length_append, List.length_replicate] at hlength
    have hlead : e + (digitsOf n).length - 1 - (stripZeros (digitsOf n)).length + 1 = e + k := by
      omega
    refine ⟨?_, ?_, ?_⟩
    · exact fun c hc => Decimal.areDigits_digitsOf n c (stripZeros_subset _ hc)
    · intro hnil
      dsimp only at hnil
      rw [hnil] at hn
      obtain rfl : n = 0 := by simpa [ofDigits] using hn
      have hzero : zero x.negative = x := Option.some.inj hread
      exact hx (congrArg magnitude hzero.symm)
    · dsimp only
      rw [hlead, ← toBinary64_shift, ← hn]
      exact hread

end Binary64

/-! ## Layouts -/

namespace Decimal

open Binary64 (positional scientific)

variable (negative : Bool) {ds : List Char} (hd : AreDigits ds) (hne : ds ≠ []) (lead : Int)

include hd hne

theorem read?_positional :
    ∃ n e, read? (signed negative (positional ds lead)) = some ⟨negative, n, e⟩
      ∧ toBinary64 ⟨negative, n, e⟩ =
        toBinary64 ⟨negative, ofDigits ds, lead - ds.length + 1⟩ := by
  have hend : EndsDigits [] := nofun
  by_cases hl : lead < 0
  · have hzeros := areDigits_zeros (lead.natAbs - 1)
    have hread := read?_point negative (areDigits_zeros 1) (List.cons_ne_nil _ _)
      (hzeros.append hd) rfl hend
    have hlayout : positional ds lead =
        List.replicate 1 '0' ++ '.' :: (List.replicate (lead.natAbs - 1) '0' ++ ds) := by
      rw [positional, if_pos hl]
      rfl
    rw [List.append_nil, ← hlayout] at hread
    refine ⟨_, _, hread, ?_⟩
    rw [ofDigits_append, ofDigits_append, ofDigits_zeros, ofDigits_zeros, List.length_append,
      List.length_replicate, Nat.zero_mul, Nat.zero_mul, Nat.zero_add, Nat.zero_add]
    congr 2
    omega
  · by_cases hlen : ds.length ≤ lead.natAbs + 1
    · have hzeros := areDigits_zeros (lead.natAbs + 1 - ds.length)
      have hread := read?_point negative (hd.append hzeros) (List.append_ne_nil_of_left_ne_nil hne _)
        (areDigits_zeros 1) rfl hend
      have hlayout : positional ds lead =
          ds ++ List.replicate (lead.natAbs + 1 - ds.length) '0' ++ '.' :: List.replicate 1 '0' := by
        rw [positional, if_neg hl]
        simp [List.take_of_length_le hlen, List.drop_of_length_le hlen]
      rw [List.append_nil, ← hlayout] at hread
      refine ⟨_, _, hread, ?_⟩
      rw [List.append_assoc, ← List.replicate_add, ofDigits_append, ofDigits_zeros, Nat.add_zero,
        List.length_replicate, toBinary64_shift, List.length_replicate]
      congr 2
      omega
    · have hwhole : AreDigits (ds.take (lead.natAbs + 1)) := fun c hc =>
        hd c (List.mem_of_mem_take hc)
      have hfraction : AreDigits (ds.drop (lead.natAbs + 1)) := fun c hc =>
        hd c (List.mem_of_mem_drop hc)
      have hread := read?_point negative hwhole (by simp [hne]) hfraction rfl hend
      have hlayout : positional ds lead =
          ds.take (lead.natAbs + 1) ++ '.' :: ds.drop (lead.natAbs + 1) := by
        have hmore : ds.drop (lead.natAbs + 1) ≠ [] := by
          rw [ne_eq, List.drop_eq_nil_iff]
          exact hlen
        rw [positional, if_neg hl]
        simp [show lead.natAbs + 1 - ds.length = 0 by omega, hmore]
      rw [List.append_nil, ← hlayout, List.take_append_drop] at hread
      refine ⟨_, _, hread, ?_⟩
      rw [List.length_drop]
      congr 2
      omega

theorem read?_scientific :
    ∃ n e, read? (signed negative (scientific ds lead)) = some ⟨negative, n, e⟩
      ∧ toBinary64 ⟨negative, n, e⟩ =
        toBinary64 ⟨negative, ofDigits ds, lead - ds.length + 1⟩ := by
  have hend : EndsDigits ('e' :: (if lead < 0 then '-' else '+') :: digitsOf lead.natAbs) := by
    rintro c hc
    cases hc
    rfl
  have htail := readTail?_exponent lead
  match ds, hd, hne with
  | [d], hd, _ =>
      refine ⟨_, _, read?_whole negative hd (List.cons_ne_nil _ _) htail hend ?_, ?_⟩
      · simp
      · simp
  | d :: d' :: ds, hd, _ =>
      obtain ⟨hfirst, hrest⟩ := List.forall_mem_cons.mp hd
      have hone : AreDigits [d] := by simpa [AreDigits] using hfirst
      refine ⟨_, _, read?_point negative hone (List.cons_ne_nil _ _) hrest htail hend, ?_⟩
      simp
      congr 2
      omega

end Decimal

/-! ## Texts of numbers -/

theorem Binary64.toList_render (x : Binary64) :
    x.render.toList = Decimal.signed x.negative
      (if -5 ≤ x.shortest.2 ∧ x.shortest.2 ≤ 15 then positional x.shortest.1 x.shortest.2
        else scientific x.shortest.1 x.shortest.2) := by
  rw [render, String.toList_ofList]
  rfl

theorem Binary64.read?_render (x : Binary64) :
    (Decimal.read? x.render.toList).bind Decimal.toBinary64 = some x := by
  obtain ⟨hd, hne, hvalue⟩ := x.shortest_readsBack
  rw [x.toList_render]
  split
  · obtain ⟨n, e, hread, heq⟩ := Decimal.read?_positional x.negative hd hne x.shortest.2
    rw [hread, Option.bind_some, heq, hvalue]
  · obtain ⟨n, e, hread, heq⟩ := Decimal.read?_scientific x.negative hd hne x.shortest.2
    rw [hread, Option.bind_some, heq, hvalue]

theorem Integer.toList_toString (n : Int) :
    (toString n).toList = Decimal.signed (n < 0) (Decimal.digitsOf n.natAbs) := by
  cases n with
  | ofNat m =>
      change m.repr.toList = _
      rw [Nat.repr_eq_ofList_toDigits, String.toList_ofList]
      rfl
  | negSucc m =>
      have hrepr : (m + 1).repr.toList = Decimal.digitsOf (m + 1) := by
        rw [Nat.repr_eq_ofList_toDigits, String.toList_ofList]
        rfl
      rw [show toString (Int.negSucc m) = "-" ++ (m + 1).repr from rfl, String.toList_append, hrepr,
        Decimal.signed, if_pos (decide_eq_true (Int.negSucc_lt_zero m))]
      rfl

/-- An integer has few digits. -/
theorem Integer.natAbs_lt (n : Integer) : n.val.natAbs < power 10 20 := by
  have hbound : (power 2 64 : Int) ≤ power 10 20 ∧ (power 2 63 : Int) < power 10 20 := by
    decide +kernel
  have := n.inRange
  omega

theorem Integer.read?_toString (n : Integer) :
    (Decimal.read? (toString n.val).toList).bind Decimal.toBinary64 = Binary64.ofInt n.val := by
  have hdigits := Decimal.areDigits_digitsOf n.val.natAbs
  have htail : Decimal.readTail? [] = some 0 := rfl
  have hread := Decimal.read?_whole (n.val < 0) hdigits (Decimal.digitsOf_ne_nil _) htail nofun nofun
  have hlen : (Decimal.digitsOf n.val.natAbs).length ≤ 20 :=
    (Decimal.length_digitsOf_le (by decide)).mpr n.natAbs_lt
  rw [List.append_nil, Decimal.ofDigits_digitsOf] at hread
  rw [toList_toString, hread, Option.bind_some, Binary64.ofInt]
  by_cases hzero : n.val.natAbs = 0
  · rw [hzero, Nat.zero_mul, Binary64.rounded_of_fits _ Binary64.fits_zero]
    rfl
  · simp only [Decimal.toBinary64]
    rw [if_neg hzero, if_neg (by omega), if_neg (by omega), if_neg (by omega)]
    simp

/-- **The text of a number spells that number.** -/
theorem Number.numberInText_render (n : Number) : numberInText n.render = n.toBinary64? := by
  have htrim : Text.trim n.render.toList = n.render.toList :=
    (Text.trim_eq_self_iff _).mpr n.render_numeral.isItem.tight
  rw [numberInText, htrim]
  cases n with
  | int n => exact n.read?_toString
  | float x => exact x.read?_render

end RecordRules
