import RecordRules.Proofs.ValidatorSet.Reports

/-!
# What the verdict hangs on

The verdict of an evaluation is whether it succeeds and, if so, whether the
record passed, whether it is exempt, and how the two groups of checks came
out. It hangs only on which conditions a set has and which validators it runs,
not on their order or on how often they occur (`verdict_congr`): an evaluation
succeeds if each check that it comes to does, and the statuses of the groups
say no more than which booleans occur in them.

So sets of the same written rules and written conditions, in whatever order
and however often each is written, have the same verdict on every record
(`verdict_of_same_texts`). Only the error may be another where both fail.
-/

namespace RecordRules

/-- What a report decides. -/
def Report.verdict (r : Report) : Bool × Bool × Option PassStatus × Option PassStatus :=
  (r.passed, r.exempt, r.conditionStatus, r.validationStatus)

namespace ValidatorSet

/-! ## Conditions -/

theorem runCondition_eq_ok {record : Json} {c : Condition} {o : ConditionOutcome} :
    runCondition record c = .ok o ↔
      ∃ passed, c.evaluate record = .ok passed ∧ ⟨c.field, c.entry.name, passed, c.message⟩ = o := by
  rw [runCondition, bind_eq_ok]
  refine exists_congr fun passed => and_congr_right fun _ => ?_
  exact ⟨fun h => Except.ok.inj h, fun h => congrArg Except.ok h⟩

theorem runConditions_succeeds {s : ValidatorSet} {record : Json} :
    (∃ outcomes, s.runConditions record = .ok outcomes) ↔
      ∀ c ∈ s.conditions, ∃ passed, c.evaluate record = .ok passed := by
  rw [runConditions, mapM_succeeds]
  refine forall₂_congr fun c _ => ?_
  simp only [runCondition_eq_ok]
  constructor
  · rintro ⟨o, passed, hp, -⟩
    exact ⟨passed, hp⟩
  · rintro ⟨passed, hp⟩
    exact ⟨_, passed, hp, rfl⟩

theorem mem_map_passed {s : ValidatorSet} {record : Json} {outcomes : List ConditionOutcome}
    (h : s.runConditions record = .ok outcomes) {b : Bool} :
    b ∈ outcomes.map ConditionOutcome.passed ↔
      ∃ c ∈ s.conditions, c.evaluate record = .ok b := by
  rw [List.mem_map]
  constructor
  · rintro ⟨o, ho, rfl⟩
    obtain ⟨c, hc, hrun⟩ := (mem_of_mapM h).mp ho
    obtain ⟨passed, hp, rfl⟩ := runCondition_eq_ok.mp hrun
    exact ⟨c, hc, hp⟩
  · rintro ⟨c, hc, hp⟩
    exact ⟨_, (mem_of_mapM h).mpr ⟨c, hc, runCondition_eq_ok.mpr ⟨b, hp, rfl⟩⟩, rfl⟩

/-! ## Validators -/

theorem Task.Judges.unique {record : Json} {field : String} {t : Task} {b c : Bool}
    (hb : t.Judges record field b) (hc : t.Judges record field c) : b = c := by
  obtain ⟨i, hi, hib⟩ := hb
  obtain ⟨j, hj, hjc⟩ := hc
  obtain rfl := Except.ok.inj (hi.symm.trans hj)
  exact Except.ok.inj (hib.symm.trans hjc)

theorem runTasks_succeed {record : Json} {tasks : List (String × Task)}
    (os : List FieldOutcome) :
    (∃ os', tasks.foldlM (runTask record) os = .ok os') ↔
      ∀ p ∈ tasks, ∃ b, p.2.Judges record p.1 b := by
  induction tasks generalizing os with
  | nil => exact iff_of_true ⟨os, rfl⟩ (List.forall_mem_nil _)
  | cons p tasks ih =>
      obtain ⟨name, t⟩ := p
      simp only [List.foldlM_cons, bind_eq_ok, List.forall_mem_cons]
      constructor
      · rintro ⟨os', os₁, h₁, h⟩
        obtain ⟨i, passed, hi, hp, rfl⟩ := runTask_eq_ok.mp h₁
        exact ⟨⟨passed, i, hi, hp⟩, (ih _).mp ⟨os', h⟩⟩
      · rintro ⟨⟨passed, i, hi, hp⟩, htasks⟩
        obtain ⟨os', h⟩ := (ih (FieldOutcome.record name passed i.message os)).mpr htasks
        exact ⟨os', _, runTask_eq_ok.mpr ⟨i, passed, hi, hp, rfl⟩, h⟩

theorem mem_booleans_record {name : String} {passed : Bool} {message : String}
    {os : List FieldOutcome} {b : Bool} :
    b ∈ FieldOutcome.booleans (FieldOutcome.record name passed message os) ↔
      b ∈ FieldOutcome.booleans os ∨ b = passed := by
  rw [FieldOutcome.record, FieldOutcome.booleans, FieldOutcome.booleans]
  induction os with
  | nil => simp [KeyedList.update, FieldOutcome.add]
  | cons o os ih =>
      rw [KeyedList.update]
      split
      next =>
          simp only [List.flatMap_cons, FieldOutcome.add, List.mem_append, List.mem_singleton]
          exact or_right_comm
      next => rw [List.flatMap_cons, List.flatMap_cons, List.mem_append, ih, List.mem_append, or_assoc]

theorem mem_booleans_runTasks {record : Json} {tasks : List (String × Task)}
    {os os' : List FieldOutcome} (h : tasks.foldlM (runTask record) os = .ok os') {b : Bool} :
    b ∈ FieldOutcome.booleans os' ↔
      b ∈ FieldOutcome.booleans os ∨ ∃ p ∈ tasks, p.2.Judges record p.1 b := by
  induction tasks generalizing os with
  | nil =>
      cases h
      simp
  | cons p tasks ih =>
      obtain ⟨name, t⟩ := p
      obtain ⟨os₁, h₁, h⟩ := bind_eq_ok.mp (List.foldlM_cons.symm.trans h)
      obtain ⟨i, passed, hi, hp, rfl⟩ := runTask_eq_ok.mp h₁
      have hj : b = passed ↔ t.Judges record name b := by
        constructor
        · rintro rfl
          exact ⟨i, hi, hp⟩
        · intro hb
          exact hb.unique ⟨i, hi, hp⟩
      rw [ih h, mem_booleans_record, List.exists_mem_cons_iff, hj, or_assoc]

/-! ## The verdict -/

/-- The verdict on a validated record is told by the status of its
validators. -/
theorem verdict_validatedReport {s : ValidatorSet} {record : Json} {fields : List FieldOutcome}
    (h : s.runValidators record = .ok fields) (strict : StrictMode) (status : Option PassStatus)
    (outcomes : List ConditionOutcome) :
    (validatedReport strict status outcomes fields).verdict =
      (if strict.validationsStrict then validationStatus fields == .all
        else (validationStatus fields).anyPassed,
        false, status, some (validationStatus fields)) := by
  rw [Report.verdict, validatedReport, any_hasErrors h, bne, Bool.not_not]

section Congruence

variable {s t : ValidatorSet} {record : Json}

theorem runConditions_congr (hc : ∀ c, c ∈ t.conditions ↔ c ∈ s.conditions) :
    (∃ outcomes, t.runConditions record = .ok outcomes) ↔
      ∃ outcomes, s.runConditions record = .ok outcomes := by
  simp only [runConditions_succeeds, hc]

theorem conditionStatus_congr (hc : ∀ c, c ∈ t.conditions ↔ c ∈ s.conditions)
    {os os' : List ConditionOutcome} (hs : s.runConditions record = .ok os)
    (ht : t.runConditions record = .ok os') : conditionStatus os' = conditionStatus os := by
  refine (describes_conditionStatus os').unique (describes_conditionStatus os) fun b => ?_
  simp only [mem_map_passed ht, mem_map_passed hs, hc]

theorem statusOf_congr (hc : ∀ c, c ∈ t.conditions ↔ c ∈ s.conditions)
    {os os' : List ConditionOutcome} (hs : s.runConditions record = .ok os)
    (ht : t.runConditions record = .ok os') : t.statusOf os' = s.statusOf os := by
  have hempty : t.conditions = [] ↔ s.conditions = [] := by
    simp only [List.eq_nil_iff_forall_not_mem, hc]
  have hhas : t.hasConditions = s.hasConditions := by
    rw [hasConditions, hasConditions, Bool.eq_iff_iff]
    simpa using not_congr hempty
  rw [statusOf, statusOf, hhas, conditionStatus_congr hc hs ht]

theorem runValidators_congr (ha : ∀ p, p ∈ t.agenda ↔ p ∈ s.agenda) :
    (∃ fields, t.runValidators record = .ok fields) ↔
      ∃ fields, s.runValidators record = .ok fields := by
  simp only [runValidators, runTasks_succeed, ha]

theorem validationStatus_congr (ha : ∀ p, p ∈ t.agenda ↔ p ∈ s.agenda)
    {fields fields' : List FieldOutcome} (hs : s.runValidators record = .ok fields)
    (ht : t.runValidators record = .ok fields') :
    validationStatus fields' = validationStatus fields := by
  refine (describes_validationStatus fields').unique (describes_validationStatus fields)
    fun b => ?_
  simp only [mem_booleans_runTasks ht, mem_booleans_runTasks hs, ha]

/-- Sets that are equally strict, with the same conditions and the same
validators to run, have the same verdict on a record. -/
theorem verdict_congr (hstrict : t.strict = s.strict)
    (hc : ∀ c, c ∈ t.conditions ↔ c ∈ s.conditions) (ha : ∀ p, p ∈ t.agenda ↔ p ∈ s.agenda) :
    (t.evaluate record).toOption.map Report.verdict =
      (s.evaluate record).toOption.map Report.verdict := by
  -- Both sets come to the same one of the three ends.
  cases hs : s.runConditions record with
  | error e =>
      cases ht : t.runConditions record with
      | error e' =>
          rw [evaluate_of_error hs, evaluate_of_error ht]
          rfl
      | ok os' =>
          obtain ⟨os, hos⟩ := (runConditions_congr hc).mp ⟨os', ht⟩
          cases hs.symm.trans hos
  | ok os =>
      obtain ⟨os', ht⟩ := (runConditions_congr hc).mpr ⟨os, hs⟩
      have hstatus := conditionStatus_congr hc hs ht
      cases ho : opens s.strict (conditionStatus os) with
      | false =>
          have ho' : opens t.strict (conditionStatus os') = false := by rwa [hstrict, hstatus]
          rw [evaluate_of_closed hs ho, evaluate_of_closed ht ho', Except.toOption, Except.toOption,
            Option.map_some, Option.map_some, Report.verdict, Report.verdict, exemptReport,
            exemptReport, hstatus]
      | true =>
          have ho' : opens t.strict (conditionStatus os') = true := by rwa [hstrict, hstatus]
          rw [evaluate_of_open hs ho, evaluate_of_open ht ho']
          cases hv : s.runValidators record with
          | error e =>
              cases hv' : t.runValidators record with
              | error e' => rfl
              | ok fields' =>
                  obtain ⟨fields, hfields⟩ := (runValidators_congr ha).mp ⟨fields', hv'⟩
                  cases hv.symm.trans hfields
          | ok fields =>
              obtain ⟨fields', hv'⟩ := (runValidators_congr ha).mpr ⟨fields, hv⟩
              refine Eq.trans (congrArg (Option.map Report.verdict ∘ Except.toOption)
                (congrArg (Except.map _) hv')) (congrArg some ?_)
              rw [verdict_validatedReport hv', verdict_validatedReport hv, hstrict,
                statusOf_congr hc hs ht, validationStatus_congr ha hv hv']

end Congruence

/-- Sets of the same changes have the same verdict, whatever the order of the
changes and however often each is made. -/
theorem verdict_of_same_changes (registry : Registry) (strict : StrictMode) {cs ds : List Change}
    (h : ∀ c, c ∈ ds ↔ c ∈ cs) (hstrict : ∀ mode, .strict mode ∉ cs) (record : Json) :
    (((withRegistry registry).applyAll (.strict strict :: ds)).evaluate record).toOption.map
        Report.verdict =
      (((withRegistry registry).applyAll (.strict strict :: cs)).evaluate record).toOption.map
        Report.verdict := by
  refine verdict_congr ?_ ?_ ?_
  · refine (strict_applyAll (s := (withRegistry registry).setStrict strict) ?_).trans
      (strict_applyAll (s := (withRegistry registry).setStrict strict) hstrict).symm
    exact fun mode hm => hstrict mode ((h _).mp hm)
  · intro c
    simp only [conditions_applyAll, List.mem_append, mem_conditionsIn, List.mem_cons, h]
  · rintro ⟨field, t⟩
    simp only [mem_agenda_applyAll, List.mem_cons, h]

/-! ## Sets of texts -/

/-- The set of written rules and written conditions. -/
def ofTexts (rules conditions : List String) (strict : StrictMode) :
    Except ConfigError ValidatorSet := do
  let s ← ofRules rules strict
  expectAll (s.after (Building.addConditionsFromRules conditions))

end ValidatorSet

/-- What the texts of a set attempt. -/
def textAttempts (rules conditions : List String) : List (Except ConfigError Change) :=
  (rules.map fun text => Change.declaringEntry .builtin (.line text))
    ++ conditions.map fun text => Change.gating .builtin (.line text)

section Texts

variable {rules conditions : List String}

theorem mem_textAttempts {r : Except ConfigError Change} :
    r ∈ textAttempts rules conditions ↔
      (∃ text ∈ rules, Change.declaringEntry .builtin (.line text) = r)
        ∨ ∃ text ∈ conditions, Change.gating .builtin (.line text) = r := by
  rw [textAttempts, List.mem_append, List.mem_map, List.mem_map]

theorem strict_notMem_textAttempts {mode : StrictMode} :
    .ok (.strict mode) ∉ textAttempts rules conditions := by
  intro hm
  rcases mem_textAttempts.mp hm with ⟨text, -, h⟩ | ⟨text, -, h⟩
  · obtain ⟨field, b, hb⟩ := Change.declaringEntry_eq_ok h
    cases hb
  · obtain ⟨k, hk⟩ := Change.gating_eq_ok h
    cases hk

theorem ValidatorSet.ofTexts_eq_ok {strict : StrictMode} {s : ValidatorSet} :
    ofTexts rules conditions strict = .ok s ↔
      firstError (textAttempts rules conditions) = none
        ∧ (withRegistry .builtin).applyAll
          (.strict strict :: successes (textAttempts rules conditions)) = s := by
  have hall : ofTexts rules conditions strict =
      expectAll ((empty.setStrict strict).tryAll (textAttempts rules conditions)) := by
    rw [textAttempts, expectAll_tryAll_append, ofTexts, ofRules,
      after_addValidatorsFromRules]
    refine bind_congr_ok fun t ht => ?_
    obtain rfl : _ = t := congrArg Prod.fst (expectAll_eq_ok.mp ht)
    rw [after_addConditionsFromRules, registry_tryAll]
    rfl
  rw [hall, expectAll_eq_ok, tryAll, Prod.mk.injEq, and_comm]
  rfl

end Texts

/-- **The verdict hangs only on which rules and conditions are declared**, not
on their order or repetition: sets of the same written rules and written
conditions can both be built or neither, and on every record both evaluations
fail or both come to the same verdict. -/
theorem verdict_of_same_texts {rules rules' conditions conditions' : List String}
    (hrules : ∀ text, text ∈ rules' ↔ text ∈ rules)
    (hconditions : ∀ text, text ∈ conditions' ↔ text ∈ conditions) (strict : StrictMode) :
    ((∃ t, ValidatorSet.ofTexts rules' conditions' strict = .ok t) ↔
        ∃ s, ValidatorSet.ofTexts rules conditions strict = .ok s)
      ∧ ∀ s t, ValidatorSet.ofTexts rules conditions strict = .ok s →
          ValidatorSet.ofTexts rules' conditions' strict = .ok t →
          ∀ record, (t.evaluate record).toOption.map Report.verdict =
            (s.evaluate record).toOption.map Report.verdict := by
  have hsame : ∀ r, r ∈ textAttempts rules' conditions' ↔ r ∈ textAttempts rules conditions := by
    intro r
    simp only [mem_textAttempts, hrules, hconditions]
  constructor
  · simp only [ValidatorSet.ofTexts_eq_ok, exists_and_left, exists_eq', and_true,
      firstError_eq_none, hsame]
  · intro s t hs ht record
    obtain ⟨hnone, rfl⟩ := ValidatorSet.ofTexts_eq_ok.mp hs
    obtain ⟨hnone', rfl⟩ := ValidatorSet.ofTexts_eq_ok.mp ht
    refine ValidatorSet.verdict_of_same_changes .builtin strict ?_ ?_ record
    · intro c
      rw [mem_successes_iff hnone, mem_successes_iff hnone', hsame]
    · exact fun mode hm => strict_notMem_textAttempts (mem_successes hm)

/-- Rules and conditions, and the same ones in another order and repeated. -/
def memberRules : List String := ["name:alpha", "age:greater_than:17", "name:length:2"]

def memberRulesAgain : List String :=
  ["name:length:2", "age:greater_than:17", "name:alpha", "age:greater_than:17"]

def memberConditions : List String := ["plan:equal:pro", "age:numeric"]

def memberConditionsAgain : List String := ["age:numeric", "plan:equal:pro", "plan:equal:pro"]

theorem verdict_of_same_texts_in_part :
    ∃ s t, ValidatorSet.ofTexts memberRules memberConditions .none = .ok s
      ∧ ValidatorSet.ofTexts memberRulesAgain memberConditionsAgain .none = .ok t
      ∧ (s.evaluate recordInPart).toOption.map Report.verdict =
        some (true, false, some .some, some .some)
      ∧ (t.evaluate recordInPart).toOption.map Report.verdict =
        some (true, false, some .some, some .some) := by
  have hrules : ∀ text, text ∈ memberRulesAgain ↔ text ∈ memberRules := by
    intro text
    simp only [memberRulesAgain, memberRules, List.mem_cons, List.not_mem_nil, or_false]
    tauto
  have hconditions : ∀ text, text ∈ memberConditionsAgain ↔ text ∈ memberConditions := by
    intro text
    simp only [memberConditionsAgain, memberConditions, List.mem_cons, List.not_mem_nil, or_false]
    tauto
  obtain ⟨hbuild, hverdict⟩ := verdict_of_same_texts hrules hconditions .none
  have hrun : (ValidatorSet.ofTexts memberRules memberConditions .none >>= fun s =>
      pure ((s.evaluate recordInPart).toOption.map Report.verdict)).toOption =
      some (some (true, false, some .some, some .some)) := by decide +kernel
  obtain ⟨s, hs, hrun⟩ := bind_eq_ok.mp (toOption_eq_some.mp hrun)
  obtain ⟨t, ht⟩ := hbuild.mpr ⟨s, hs⟩
  have hsome := Except.ok.inj hrun
  exact ⟨s, t, hs, ht, hsome, (hverdict s t hs ht recordInPart).trans hsome⟩

end RecordRules
