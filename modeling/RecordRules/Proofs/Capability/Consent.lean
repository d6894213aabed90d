import Mathlib.Data.List.Forall2
import RecordRules.Letter
import RecordRules.Proofs.Capability.Thresholds
import RecordRules.Proofs.Number.ReadBack

/-!
# Yes and no

A value is accepted or declined by what it says: a boolean, a word in any case,
or a number. The words are told by their letters (`lowercaseAscii_eq_iff`), and
a text without a digit spells no number (`numberInText_eq_none`), so words and
numbers do not mix.

What is accepted is one, and exactly one. What is declined is every number whose
whole part is zero (`Binary64.isBelowOne_iff`): zero, but also all that lies
between it and one on either side. These proper fractions are the only values
that are declined without saying no (`declined_says_no_or_is_proper_fraction`),
and none of them is accepted.
-/

namespace RecordRules

/-! ## Words in any case -/

/-- The text is the word with any of its small letters raised. -/
def SpellsWord (word text : String) : Prop :=
  List.Forall₂ (fun letter c => c = letter ∨ c = letter.toUpper) word.toList text.toList

theorem toLower_eq_iff {letter : Char} (h : ¬letter.isUpper = true) (c : Char) :
    c.toLower = letter ↔ c = letter ∨ c = letter.toUpper := by
  have hself := toLower_of_not_isUpper h
  constructor
  · rintro rfl
    by_cases hc : c.isUpper = true
    · right
      rw [toUpper_toLower, toUpper_of_isUpper hc]
    · exact .inl (toLower_of_not_isUpper hc).symm
  · rintro (rfl | rfl)
    · exact hself
    · rw [toLower_toUpper, hself]

theorem map_toLower_eq_iff {letters : List Char} (h : ∀ c ∈ letters, ¬c.isUpper = true)
    (cs : List Char) :
    cs.map Char.toLower = letters ↔
      List.Forall₂ (fun letter c => c = letter ∨ c = letter.toUpper) letters cs := by
  induction letters generalizing cs with
  | nil => simp
  | cons letter letters ih =>
      obtain ⟨hletter, hletters⟩ := List.forall_mem_cons.mp h
      cases cs with
      | nil => simp
      | cons c cs =>
          rw [List.map_cons, List.cons.injEq, List.forall₂_cons, toLower_eq_iff hletter,
            ih hletters]

/-- A text is lowered to a word without capital letters if it spells it. -/
theorem lowercaseAscii_eq_iff {word : String}
    (h : word.toList.all (fun c => !c.isUpper) = true) (text : String) :
    Text.lowercaseAscii text = word ↔ SpellsWord word text := by
  have hletters : ∀ c ∈ word.toList, ¬c.isUpper = true := by
    intro c hc
    simpa using List.all_eq_true.mp h c hc
  rw [Text.lowercaseAscii, ← String.toList_inj, String.toList_ofList, map_toLower_eq_iff hletters,
    SpellsWord]

/-! ## Numbers and words -/

theorem Decimal.read?_eq_none {cs : List Char} (h : ∀ c ∈ cs, isDigit c = false) :
    read? cs = none := by
  have hnone : ∀ {ds : List Char}, (∀ c ∈ ds, isDigit c = false) → ds.takeWhile isDigit = [] := by
    intro ds hds
    cases ds with
    | nil => rfl
    | cons d ds => rw [List.takeWhile_cons_of_neg (by simp [hds d])]
  have hsign : ∀ c ∈ (splitSign cs).2, isDigit c = false := by
    unfold splitSign
    split
    · exact (List.forall_mem_cons.mp h).2
    · exact (List.forall_mem_cons.mp h).2
    · exact h
  have hpoint : ∀ c ∈ (splitSign cs).2.dropWhile isDigit, isDigit c = false := by
    intro c hc
    exact hsign c ((List.dropWhile_suffix isDigit).subset hc)
  rw [read?]
  dsimp only
  rw [hnone hsign]
  split
  next rest hrest =>
    rw [hrest] at hpoint
    rw [hnone (List.forall_mem_cons.mp hpoint).2]
    rfl
  next => rfl

theorem toLower_of_isDigit {c : Char} (h : Decimal.isDigit c = true) : c.toLower = c := by
  apply toLower_of_not_isUpper
  rw [Decimal.isDigit_eq, Char.isDigit_iff_toNat] at h
  rw [isUpper_iff]
  rintro ⟨hupper, -⟩
  have hnine : '9'.toNat < 65 := by decide
  omega

/-- A text spells a number only with a digit, and a digit stays when letters are
lowered. -/
theorem numberInText_eq_none {text : String}
    (h : (Text.lowercaseAscii text).toList.all (fun c => !Decimal.isDigit c) = true) :
    numberInText text = none := by
  have hdigits : ∀ c ∈ Text.trim text.toList, Decimal.isDigit c = false := by
    intro c hc
    rw [Text.lowercaseAscii, String.toList_ofList, List.all_map, List.all_eq_true] at h
    have hnot := h c (Text.trim_subset _ hc)
    rw [Bool.eq_false_iff]
    intro hdigit
    rw [Function.comp_apply, toLower_of_isDigit hdigit, hdigit] at hnot
    cases hnot
  rw [numberInText, Decimal.read?_eq_none hdigits]
  rfl

namespace Binary64

theorem natAbs_units (x : Binary64) : x.units.natAbs = x.magnitude := by
  rw [units]
  split <;> simp

/-- Cutting the fraction off leaves zero of zero and of proper fractions. -/
theorem isBelowOne_iff (x : Binary64) :
    x.isBelowOne = true ↔ x.units = 0 ∨ (x.units ≠ 0 ∧ x.units.natAbs < unitsPerOne) := by
  have hone : 0 < unitsPerOne := power_pos (by decide) 1074
  rw [isBelowOne, decide_eq_true_eq, ← natAbs_units]
  omega

theorem isBelowOne_of_one {x : Binary64} (h : compareNat 1 x = .eq) : x.isBelowOne = false := by
  have hunits : ((1 * unitsPerOne : Nat) : Int) = x.units := Int.compare_eq_eq.mp h
  rw [isBelowOne, decide_eq_false_iff_not, ← natAbs_units, ← hunits]
  omega

end Binary64

/-! ## Values -/

/-- The value says no: false, zero, or a word for it in any case. -/
inductive Json.SaysNo : Json → Prop
  | no : SaysNo (.bool false)
  | zero {v : Json} {x : Binary64} (h : asNumber v = some x) (hzero : x.units = 0) : SaysNo v
  | word {text : String} (h : SpellsWord "false" text ∨ SpellsWord "no" text) :
    SaysNo (.str text)

/-- A number between minus one and one, or the text of one, that is not zero. -/
def Json.IsProperFraction (v : Json) : Prop :=
  ∃ x, asNumber v = some x ∧ x.units ≠ 0 ∧ x.units.natAbs < Binary64.unitsPerOne

/-- Numbers that are declined are zero or proper fractions. -/
theorem any_isBelowOne_iff (v : Json) :
    (asNumber v).any Binary64.isBelowOne = true ↔
      (∃ x, asNumber v = some x ∧ x.units = 0) ∨ v.IsProperFraction := by
  rw [Option.any_eq_true, Json.IsProperFraction, ← exists_or]
  refine exists_congr fun x => ?_
  rw [x.isBelowOne_iff, ← and_or_left]

theorem contains_words_iff (text : String) :
    ["false", "no"].contains (Text.lowercaseAscii text) = true ↔
      SpellsWord "false" text ∨ SpellsWord "no" text := by
  rw [List.contains_iff_mem, List.mem_cons, List.mem_singleton,
    lowercaseAscii_eq_iff (by decide), lowercaseAscii_eq_iff (by decide)]

theorem isDeclined_iff (v : Json) :
    isDeclined v = true ↔ v.SaysNo ∨ v.IsProperFraction := by
  have hzero : (∃ x, asNumber v = some x ∧ x.units = 0) → v.SaysNo := by
    rintro ⟨x, hx, hx0⟩
    exact .zero hx hx0
  cases v with
  | bool b =>
      have hnot : ¬(Json.bool b).IsProperFraction := by
        rintro ⟨x, hx, -⟩
        cases hx
      rw [isDeclined, or_iff_left hnot, Bool.not_eq_true']
      constructor
      · rintro rfl
        exact .no
      · intro h
        cases h with
        | no => rfl
        | zero hx => cases hx
  | str text =>
      rw [isDeclined, Bool.or_eq_true, contains_words_iff, any_isBelowOne_iff]
      constructor
      · rintro (h | h | h)
        · exact .inl (.word h)
        · exact .inl (hzero h)
        · exact .inr h
      · rintro (h | h)
        · cases h with
          | zero hx hx0 => exact .inr (.inl ⟨_, hx, hx0⟩)
          | word h => exact .inl h
        · exact .inr (.inr h)
  | null | num n | arr items | obj entries =>
      simp only [isDeclined, Bool.false_or, any_isBelowOne_iff]
      refine or_congr_left ⟨hzero, fun h => ?_⟩
      cases h with
      | zero hx hx0 => exact ⟨_, hx, hx0⟩

/-- A word that has no digit and is none for no is not declined. -/
theorem isDeclined_of_word {word text : String} (hword : Text.lowercaseAscii text = word)
    (hdigits : word.toList.all (fun c => !Decimal.isDigit c) = true)
    (hno : ["false", "no"].contains word = false) : isDeclined (.str text) = false := by
  have hnumber : numberInText text = none := by
    apply numberInText_eq_none
    rw [hword, hdigits]
  change (["false", "no"].contains (Text.lowercaseAscii text)
    || (numberInText text).any Binary64.isBelowOne) = false
  rw [hword, hno, hnumber]
  rfl

/-- No value is both accepted and declined. -/
theorem not_accepted_and_declined (v : Json) : (isAccepted v && isDeclined v) = false := by
  rw [Bool.and_eq_false_iff, or_iff_not_imp_left, Bool.not_eq_false]
  intro haccepted
  cases v with
  | null | arr items | obj entries => cases haccepted
  | bool b =>
      cases haccepted
      rfl
  | num n =>
      rw [isAccepted, Option.any_eq_true] at haccepted
      obtain ⟨x, hx, hone⟩ := haccepted
      change (false || n.toBinary64?.any Binary64.isBelowOne) = false
      rw [hx, Bool.false_or, Option.any_some]
      exact Binary64.isBelowOne_of_one (beq_iff_eq.mp hone)
  | str text =>
      simp only [isAccepted, List.contains_iff_mem, List.mem_cons, List.not_mem_nil, or_false]
        at haccepted
      rcases haccepted with hword | hword | hword
      · obtain rfl : text = "1" := by
          rw [lowercaseAscii_eq_iff (by decide)] at hword
          obtain ⟨c, cs, hc, hcs, htext⟩ := List.forall₂_cons_left_iff.mp hword
          have hone : c = '1' := hc.elim id id
          rw [← String.toList_inj, htext, hone, List.forall₂_nil_left_iff.mp hcs]
          rfl
        decide +kernel
      · exact isDeclined_of_word hword (by decide) (by decide)
      · exact isDeclined_of_word hword (by decide) (by decide)

/-! ## Instances -/

theorem decides_accepted (o : Operand) : (Kind.value .accepted).Decides o isAccepted :=
  ValueTest.decides (by simp) rfl fun _ => rfl

theorem decides_declined (o : Operand) : (Kind.value .declined).Decides o isDeclined :=
  ValueTest.decides (by simp) rfl fun _ => rfl

/-- **What says no is declined, and so are proper fractions.** Both capabilities
take any operand and decide every input. Nothing else than these is declined, and
nothing is both accepted and declined. -/
theorem declined_says_no_or_is_proper_fraction (o o' : Operand) (message message' : Option String) :
    ∃ a d, Builtin.make (.value .accepted) o message = .ok a
      ∧ Builtin.make (.value .declined) o' message' = .ok d
      ∧ ∀ input, ∃ yes no, a.evaluate input = .ok yes ∧ d.evaluate input = .ok no
        ∧ (no = true ↔ input.SaysNo ∨ input.IsProperFraction)
        ∧ (yes && no) = false := by
  obtain ⟨a, ha, hyes⟩ := decides_accepted o message
  obtain ⟨d, hd, hno⟩ := decides_declined o' message'
  refine ⟨a, d, ha, hd, fun input => ?_⟩
  exact ⟨_, _, hyes input, hno input, isDeclined_iff input, not_accepted_and_declined input⟩

/-- One half is declined, and does not say no. -/
theorem not_only_no_is_declined :
    ¬ ∀ (o : Operand) (message : Option String) (d : Builtin),
      Builtin.make (.value .declined) o message = .ok d →
      ∀ input, d.evaluate input = .ok true ↔ input.SaysNo := by
  intro h
  have hhalf : (Decimal.toBinary64 ⟨false, 5, -1⟩).any (fun x =>
      decide (x.units ≠ 0) && decide (x.units.natAbs < Binary64.unitsPerOne)) = true := by
    decide +kernel
  obtain ⟨half, -, hhalf⟩ := (Option.any_eq_true _ _).mp hhalf
  rw [Bool.and_eq_true, decide_eq_true_eq, decide_eq_true_eq] at hhalf
  have hfraction : (Json.num (.float half)).IsProperFraction := ⟨half, rfl, hhalf⟩
  obtain ⟨d, hd, hno⟩ := decides_declined .absent none
  have hpassed : d.evaluate (.num (.float half)) = .ok true := by
    rw [hno, (isDeclined_iff _).mpr (.inr hfraction)]
  cases (h .absent none d hd _).mp hpassed with
  | zero hx hzero =>
      cases hx
      exact hhalf.1 hzero

end RecordRules
