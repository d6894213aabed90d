import RecordRules.Proofs.ValidatorSet.Reports

/-!
# Strictness

The mode of a set has a say in two places: whether the outcomes of the conditions
let a record in (`opens`), and whether the outcomes of the validators pass it.
What is run, and what comes of it, is the same in all modes. So modes under which
the gate goes the same way find the same (`findings_congr`), which they do if
their policies on conditions agree, and also if the gate opens although all
conditions must pass (`opens_of_strict`).

On the same findings, strict about validations is the harder judgement. No errors
means that all booleans are true, or that there are none, and then the status is
`all` and not `none` (`passed_of_strict`). `strictness_is_monotone` puts these
together.
-/

namespace RecordRules

/-- What a report says apart from its mode and its judgement. -/
def Report.findings (r : Report) :
    List ConditionOutcome × Option PassStatus × Bool × List FieldOutcome × Option PassStatus :=
  (r.conditions, r.conditionStatus, r.exempt, r.fields, r.validationStatus)

namespace ValidatorSet

/-! ## The gate -/

theorem opens_of_strict {m : StrictMode} (hm : m.conditionsStrict = true) {status : PassStatus}
    (h : opens m status = true) (m' : StrictMode) : opens m' status = true := by
  rw [opens, if_pos hm, beq_iff_eq] at h
  subst h
  cases m' <;> rfl

theorem opens_congr {m m' : StrictMode} (h : m.conditionsStrict = m'.conditionsStrict)
    (status : PassStatus) : opens m status = opens m' status := by
  rw [opens, opens, h]

section

variable {s : ValidatorSet} {record : Json} {m m' : StrictMode}

theorem evaluateConditions_congr (h : m.conditionsStrict = m'.conditionsStrict) :
    (s.setStrict m).evaluateConditions record = (s.setStrict m').evaluateConditions record := by
  change (s.runConditions record >>= _) = (s.runConditions record >>= _)
  refine bind_congr_ok fun outcomes _ => ?_
  exact congrArg Except.ok (opens_congr h (conditionStatus outcomes))

/-! ## Findings -/

/-- Modes under which the gate goes the same way find the same, or fail alike. -/
theorem findings_congr
    (h : ∀ outcomes, s.runConditions record = .ok outcomes →
      opens m (conditionStatus outcomes) = opens m' (conditionStatus outcomes)) :
    ((s.setStrict m).evaluate record).map Report.findings =
      ((s.setStrict m').evaluate record).map Report.findings := by
  have hrun : ∀ mode, (s.setStrict mode).runConditions record = s.runConditions record :=
    fun _ => rfl
  have hvalidate : ∀ mode, (s.setStrict mode).runValidators record = s.runValidators record :=
    fun _ => rfl
  cases hc : s.runConditions record with
  | error e =>
      rw [evaluate_of_error ((hrun m).trans hc), evaluate_of_error ((hrun m').trans hc)]
  | ok outcomes =>
      have hgate := h outcomes hc
      cases ho : opens m' (conditionStatus outcomes) with
      | false =>
          rw [evaluate_of_closed ((hrun m).trans hc) (hgate.trans ho),
            evaluate_of_closed ((hrun m').trans hc) ho]
          rfl
      | true =>
          rw [evaluate_of_open ((hrun m).trans hc) (hgate.trans ho),
            evaluate_of_open ((hrun m').trans hc) ho, hvalidate, hvalidate]
          cases s.runValidators record <;> rfl

/-! ## Judgements -/

/-- What passes when all validations must pass does so when one must. -/
theorem passed_of_strict {fields : List FieldOutcome} (hv : s.runValidators record = .ok fields)
    (hm : m.validationsStrict = true) {status : Option PassStatus}
    {outcomes : List ConditionOutcome}
    (h : (validatedReport m status outcomes fields).passed = true) :
    (validatedReport m' status outcomes fields).passed = true := by
  simp only [validatedReport, hm, if_true] at h
  have hall : validationStatus fields = .all := by
    rw [any_hasErrors hv, Bool.not_eq_true', bne_eq_false_iff_eq] at h
    exact h
  simp only [validatedReport]
  split
  · exact h
  · rw [hall]
    rfl

theorem exists_passed_of_strict (hconditions : m.conditionsStrict = m'.conditionsStrict)
    (hm : m.validationsStrict = true) {report : Report}
    (hr : (s.setStrict m).evaluate record = .ok report) (hpassed : report.passed = true) :
    ∃ report', (s.setStrict m').evaluate record = .ok report' ∧ report'.passed = true := by
  obtain ⟨outcomes, hc, ⟨hclosed, rfl⟩ | ⟨fields, hopen, hv, rfl⟩⟩ := evaluate_eq_ok_cases hr
  · have hclosed' := (opens_congr hconditions _).symm.trans hclosed
    exact ⟨_, evaluate_of_closed (s := s.setStrict m') hc hclosed', rfl⟩
  · have hopen' := (opens_congr hconditions _).symm.trans hopen
    refine ⟨validatedReport m' (s.statusOf outcomes) outcomes fields, ?_,
      passed_of_strict hv hm hpassed⟩
    have hv' : (s.setStrict m').runValidators record = .ok fields := hv
    rw [evaluate_of_open (s := s.setStrict m') hc hopen', hv']
    rfl

end

end ValidatorSet

/-- **Strictness is monotone.** A gate that opens for a mode by which all
conditions must pass opens in every mode, and the findings are the same. Modes
that agree about conditions find the same, or the same error stops them; and of
two such modes, what passes when all validations must pass does so in the other. -/
theorem strictness_is_monotone (s : ValidatorSet) (record : Json) (m m' : StrictMode) :
    (m.conditionsStrict = true → (s.setStrict m).evaluateConditions record = .ok true →
      (s.setStrict m').evaluateConditions record = .ok true
      ∧ ((s.setStrict m).evaluate record).map Report.findings =
        ((s.setStrict m').evaluate record).map Report.findings)
    ∧ (m.conditionsStrict = m'.conditionsStrict →
      (s.setStrict m).evaluateConditions record = (s.setStrict m').evaluateConditions record
      ∧ ((s.setStrict m).evaluate record).map Report.findings =
        ((s.setStrict m').evaluate record).map Report.findings
      ∧ (m.validationsStrict = true → ∀ report, (s.setStrict m).evaluate record = .ok report →
        report.passed = true →
        ∃ report', (s.setStrict m').evaluate record = .ok report' ∧ report'.passed = true)) := by
  refine ⟨fun hm hopen => ?_, fun hconditions => ⟨?_, ?_, ?_⟩⟩
  · obtain ⟨outcomes, hc, ho⟩ := ValidatorSet.evaluateConditions_eq_ok.mp hopen
    have ho' : ValidatorSet.opens m' (ValidatorSet.conditionStatus outcomes) = true :=
      ValidatorSet.opens_of_strict hm ho m'
    refine ⟨ValidatorSet.evaluateConditions_eq_ok.mpr ⟨outcomes, hc, ho'⟩, ?_⟩
    refine ValidatorSet.findings_congr fun outcomes' hc' => ?_
    obtain rfl : outcomes = outcomes' := Except.ok.inj (hc.symm.trans hc')
    exact ho.trans ho'.symm
  · exact ValidatorSet.evaluateConditions_congr hconditions
  · exact ValidatorSet.findings_congr fun _ _ => ValidatorSet.opens_congr hconditions _
  · intro hm report hr hpassed
    exact ValidatorSet.exists_passed_of_strict hconditions hm hr hpassed

/-- A customer on the right plan with a name as short as it should be. -/
theorem strictness_is_monotone_for_plan :
    let record : Json := .obj [("plan", .str "pro"), ("n", .str "2"), ("name", .str "ab")]
    ((planSet soundLength).setStrict .none).evaluateConditions record = .ok true
      ∧ ∃ report, ((planSet soundLength).setStrict .conditionsOnly).evaluate record = .ok report
        ∧ report.passed = true := by
  intro record
  have hopen : ((planSet soundLength).setStrict .both).evaluateConditions record = .ok true :=
    toOption_eq_some.mp (by decide +kernel)
  have hpassed : ∃ report, ((planSet soundLength).setStrict .both).evaluate record = .ok report
      ∧ report.passed = true := by
    have h : (((planSet soundLength).setStrict .both).evaluate record).map Report.passed =
        .ok true := toOption_eq_some.mp (by decide +kernel)
    cases hr : ((planSet soundLength).setStrict .both).evaluate record with
    | error e =>
        rw [hr] at h
        cases h
    | ok report =>
        rw [hr] at h
        exact ⟨report, rfl, Except.ok.inj h⟩
  obtain ⟨report, hr, hp⟩ := hpassed
  obtain ⟨hgate, -⟩ := strictness_is_monotone (planSet soundLength) record .both .none
  obtain ⟨-, hsame⟩ := strictness_is_monotone (planSet soundLength) record .both .conditionsOnly
  obtain ⟨-, -, hverdict⟩ := hsame rfl
  exact ⟨(hgate rfl hopen).1, hverdict rfl report hr hp⟩

end RecordRules
