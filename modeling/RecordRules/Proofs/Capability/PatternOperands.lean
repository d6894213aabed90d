import RecordRules.Proofs.Capability.Judgement

/-!
# What patterns are made of

The patterns of an operand are the texts of its values. A value without a text,
which is null, a list or a map, counts as the empty pattern
(`Operand.pattern_of_noText`), and that is found in every text
(`Pattern.isMatch_empty`). So such a value is accepted, and then it asks for
nothing (`not_every_pattern_is_text`).

What an operand asks for is said by its texts (`Operand.patternTexts`). It is
accepted if it has a value at all and all its texts spell patterns, and an input
passes if it has a text in which all of them are found
(`only_texts_are_searched`). Operands are checked when they are declared and
again with the values of a record in the place of references, and this is about
any operand.
-/

namespace RecordRules

/-! ## The pattern of a value -/

/-- The empty pattern is found in every text. -/
theorem Pattern.isMatch_empty (text : String) : Pattern.empty.isMatch text = true := by
  simp [isMatch, ends]

/-- The text spells a pattern that is found in the subject. -/
def FoundIn (subject text : String) : Prop :=
  ∃ p, Pattern.ofOperand? text = some p ∧ p.isMatch subject = true

namespace Operand

/-- The texts among the values of an operand. -/
def patternTexts (o : Operand) : List String := o.values.filterMap valueText

section Value

variable {v : Json} {p : Pattern}

theorem pattern_of_noText (h : valueText v = none) : pattern v = .ok .empty := by
  rw [pattern, h]
  rfl

theorem pattern_of_text {text : String} (h : valueText v = some text) :
    pattern v = .ok p ↔ Pattern.ofOperand? text = some p := by
  rw [pattern, h, Option.getD_some]
  cases Pattern.ofOperand? text <;> simp

/-- Only a text can fail to spell a pattern. -/
theorem exists_pattern_iff (v : Json) :
    (∃ p, pattern v = .ok p) ↔ ∀ text ∈ valueText v, ∃ p, Pattern.ofOperand? text = some p := by
  cases h : valueText v with
  | none => exact iff_of_true ⟨_, pattern_of_noText h⟩ nofun
  | some text => simp only [pattern_of_text h, Option.mem_some_iff, forall_eq']

/-- Only a text can fail to be found. -/
theorem isMatch_iff (hp : pattern v = .ok p) (subject : String) :
    p.isMatch subject = true ↔ ∀ text ∈ valueText v, FoundIn subject text := by
  cases h : valueText v with
  | none =>
      obtain rfl : Pattern.empty = p := Except.ok.inj ((pattern_of_noText h).symm.trans hp)
      exact iff_of_true (Pattern.isMatch_empty subject) nofun
  | some text =>
      simp only [FoundIn, Option.mem_some_iff, forall_eq', (pattern_of_text h).mp hp,
        Option.some.injEq, exists_eq_left']

end Value

/-! ## The patterns of an operand -/

variable {o : Operand} {ps : List Pattern}

theorem patterns_eq_ok : o.patterns = .ok ps ↔ o.values ≠ [] ∧ o.values.mapM pattern = .ok ps := by
  rw [patterns]
  split
  next h => simp [List.isEmpty_iff.mp h]
  next h => simp [mt List.isEmpty_iff.mpr h]

theorem forall_mem_patternTexts {P : String → Prop} :
    (∀ text ∈ o.patternTexts, P text) ↔ ∀ v ∈ o.values, ∀ text ∈ valueText v, P text := by
  simp only [patternTexts, List.mem_filterMap, forall_exists_index, and_imp, Option.mem_def]
  exact ⟨fun h v hv text ht => h text v hv ht, fun h text v hv ht => h v hv text ht⟩

theorem exists_patterns_iff :
    (∃ ps, o.patterns = .ok ps) ↔
      o.values ≠ [] ∧ ∀ text ∈ o.patternTexts, ∃ p, Pattern.ofOperand? text = some p := by
  simp only [patterns_eq_ok, exists_and_left, mapM_succeeds, forall_mem_patternTexts,
    exists_pattern_iff]

theorem all_isMatch_iff (h : o.patterns = .ok ps) (subject : String) :
    ps.all (·.isMatch subject) = true ↔ ∀ text ∈ o.patternTexts, FoundIn subject text := by
  obtain ⟨-, hps⟩ := patterns_eq_ok.mp h
  simp only [List.all_eq_true, mem_of_mapM hps, forall_mem_patternTexts]
  constructor
  · intro hall v hv
    obtain ⟨p, hp⟩ := mapM_succeeds.mp ⟨ps, hps⟩ v hv
    exact (isMatch_iff hp subject).mp (hall p ⟨v, hv, hp⟩)
  · rintro hall p ⟨v, hv, hp⟩
    exact (isMatch_iff hp subject).mpr (hall v hv)

end Operand

/-! ## Instances -/

/-- **Only the texts of an operand are searched for.** The operand is accepted
exactly if it has a value and its texts spell patterns, and is refused as an
operand else. What was accepted decides every input: those pass that have a text
in which all texts of the operand are found. -/
theorem only_texts_are_searched (o : Operand) (message : Option String) :
    (∀ e, Builtin.make (.value .regEx) o message = .error e →
        ∃ fault, e = .invalidOperand "RegEx" fault)
      ∧ ((∃ b, Builtin.make (.value .regEx) o message = .ok b) ↔
        o.values ≠ [] ∧ ∀ text ∈ o.patternTexts, ∃ p, Pattern.ofOperand? text = some p)
      ∧ ∀ b, Builtin.make (.value .regEx) o message = .ok b → ∀ input, ∃ passed,
        b.evaluate input = .ok passed
          ∧ (passed = true ↔ ∃ subject, valueText input = some subject
            ∧ ∀ text ∈ o.patternTexts, FoundIn subject text) := by
  rw [← Operand.exists_patterns_iff]
  cases hprepared : (Kind.value .regEx).prepare o with
  | error fault =>
      rw [Builtin.make_of_fault hprepared]
      change o.patterns = .error fault at hprepared
      refine ⟨fun e he => ⟨fault, (Except.error.inj he).symm⟩, ?_, fun b hb => ?_⟩
      · simp [hprepared]
      · cases hb
  | ok ps =>
      rw [Builtin.make_of_prepared hprepared]
      refine ⟨fun e he => ?_, iff_of_true ⟨_, rfl⟩ ⟨ps, hprepared⟩, fun b hb input => ?_⟩
      · cases he
      · obtain rfl := Except.ok.inj hb
        refine ⟨(valueText input).any fun s => ps.all (·.isMatch s), rfl, ?_⟩
        simp only [Option.any_eq_true, Operand.all_isMatch_iff hprepared]

/-- A pattern, and a missing one. -/
theorem only_texts_are_searched_beside_null :
    ∃ b, Builtin.make (.value .regEx) (.list [.str "^a", .null]) none = .ok b
      ∧ b.evaluate (.str "ab") = .ok true
      ∧ b.evaluate (.str "ba") = .ok false := by
  obtain ⟨-, haccepted, hdecided⟩ := only_texts_are_searched (.list [.str "^a", .null]) none
  have htexts : (Operand.list [.str "^a", .null]).patternTexts = ["^a"] := rfl
  rw [htexts] at haccepted hdecided
  have hfound : ((Pattern.ofOperand? "^a").map fun p => (p.isMatch "ab", p.isMatch "ba")) =
      some (true, false) := by decide +kernel
  obtain ⟨p, hp, hmatch⟩ := Option.map_eq_some_iff.mp hfound
  obtain ⟨hab, hba⟩ := Prod.mk.inj hmatch
  obtain ⟨b, hb⟩ := haccepted.mpr ⟨by simp [Operand.values], by simpa using ⟨p, hp⟩⟩
  have hdecided := hdecided b hb
  simp only [List.forall_mem_singleton] at hdecided
  obtain ⟨passed, heval, hpassed⟩ := hdecided (.str "ab")
  obtain ⟨passed', heval', hpassed'⟩ := hdecided (.str "ba")
  obtain rfl : passed = true := hpassed.mpr ⟨"ab", rfl, p, hp, hab⟩
  obtain rfl : passed' = false := by
    rw [Bool.eq_false_iff]
    intro htrue
    obtain ⟨_, hsubject, q, hq, hmatch⟩ := hpassed'.mp htrue
    cases hsubject
    cases hp.symm.trans hq
    cases hba.symm.trans hmatch
  exact ⟨b, hb, heval, heval'⟩

/-- Null is accepted for a pattern. -/
theorem not_every_pattern_is_text :
    ¬ ∀ (o : Operand) (message : Option String) (b : Builtin),
      Builtin.make (.value .regEx) o message = .ok b → ∀ v ∈ o.values, v.isScalar = true := by
  intro h
  have hprepared : (Kind.value .regEx).prepare (.scalar .null) = .ok [.empty] := rfl
  cases h _ none _ (Builtin.make_of_prepared hprepared none) .null (List.mem_singleton_self _)

end RecordRules
