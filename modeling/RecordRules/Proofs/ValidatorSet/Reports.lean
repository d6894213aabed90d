import RecordRules.Proofs.ValidatorSet.Gate
import RecordRules.Proofs.ValidatorSet.Ledger

/-!
# What a report says

The parts of a report are computed apart from each other: the booleans and the
messages of a field as its validators are run, the statuses from counts, the
flags from the statuses or from the messages. They agree nevertheless
(`report_consistent`).

A run of validators leaves of every field exactly what its own validators came
to, in order (`runTasks_outcome`): a boolean each, and a message for each that
failed (`FieldOutcome.ofRuns`). So messages and false booleans are the same in
number, and a field has errors just if it has a false boolean. The statuses
say whether all, some or none of the booleans are true
(`PassStatus.describes_ofCounts`), and that is all that the flags depend on.
-/

namespace RecordRules

/-! ## Statuses -/

namespace PassStatus

/-- The status says of the booleans which of them there are. -/
def Describes (bs : List Bool) : PassStatus → Prop
  | .all => false ∉ bs
  | .some => true ∈ bs ∧ false ∈ bs
  | .none => bs ≠ [] ∧ true ∉ bs

theorem describes_ofCounts (bs : List Bool) :
    (ofCounts bs.length (bs.countP id)).Describes bs := by
  have hall : bs.length = bs.countP id ↔ false ∉ bs := by
    rw [eq_comm, List.countP_eq_length]
    constructor
    · intro h hf
      cases h false hf
    · intro h b hb
      cases b with
      | true => rfl
      | false => exact absurd hb h
  have hsome : 0 < bs.countP id ↔ true ∈ bs := by simp [List.countP_pos_iff]
  rw [ofCounts]
  split
  next h => exact hall.mp h
  next h =>
    rw [hall, not_not] at h
    split
    next ht => exact ⟨hsome.mp ht, h⟩
    next ht => exact ⟨List.ne_nil_of_mem h, mt hsome.mpr ht⟩

theorem Describes.eq_all_iff {bs : List Bool} {status : PassStatus} (h : status.Describes bs) :
    status = .all ↔ false ∉ bs := by
  cases status with
  | all => exact iff_of_true rfl h
  | some => exact iff_of_false nofun (not_not.mpr h.2)
  | none =>
      refine iff_of_false nofun (not_not.mpr ?_)
      obtain ⟨b, hb⟩ := List.exists_mem_of_ne_nil bs h.1
      cases b with
      | false => exact hb
      | true => exact absurd hb h.2

theorem Describes.eq_none_iff {bs : List Bool} {status : PassStatus} (h : status.Describes bs) :
    status = .none ↔ bs ≠ [] ∧ true ∉ bs := by
  cases status with
  | none => exact iff_of_true rfl h
  | some => exact iff_of_false nofun fun hn => hn.2 h.1
  | all =>
      refine iff_of_false nofun fun hn => ?_
      obtain ⟨b, hb⟩ := List.exists_mem_of_ne_nil bs hn.1
      cases b with
      | false => exact h hb
      | true => exact hn.2 hb

/-- Booleans among which the same occur have the same status. -/
theorem Describes.unique {bs cs : List Bool} {status status' : PassStatus}
    (h : status.Describes bs) (h' : status'.Describes cs) (hm : ∀ b, b ∈ bs ↔ b ∈ cs) :
    status = status' := by
  have hnil : bs = [] ↔ cs = [] := by
    simp only [List.eq_nil_iff_forall_not_mem, hm]
  have hall : status = .all ↔ status' = .all := by
    rw [h.eq_all_iff, h'.eq_all_iff, hm]
  have hnone : status = .none ↔ status' = .none := by
    rw [h.eq_none_iff, h'.eq_none_iff, hm, ne_eq, ne_eq, hnil]
  cases status <;> cases status' <;> simp_all

theorem anyPassed_eq (status : PassStatus) : status.anyPassed = (status != .none) := by
  cases status <;> rfl

end PassStatus

/-! ## Runs of validators -/

namespace FieldOutcome

/-- What is recorded of a field whose validators came to these booleans. -/
def ofRuns (field : String) (runs : List (Instance × Bool)) : FieldOutcome where
  field := field
  evaluated := runs.map Prod.snd
  errors := (runs.filter fun run => !run.2).map fun run => run.1.message

theorem add_ofRuns (field : String) (runs : List (Instance × Bool)) (i : Instance)
    (passed : Bool) :
    (ofRuns field runs).add passed i.message = ofRuns field (runs ++ [(i, passed)]) := by
  cases passed <;> simp [add, ofRuns]

theorem length_errors_ofRuns (field : String) (runs : List (Instance × Bool)) :
    (ofRuns field runs).errors.length = (ofRuns field runs).evaluated.count false := by
  rw [ofRuns, List.length_map, List.count, List.countP_map, List.countP_eq_length_filter]
  refine congrArg List.length (List.filter_congr ?_)
  rintro ⟨i, passed⟩ -
  cases passed <;> rfl

theorem hasErrors_ofRuns (field : String) (runs : List (Instance × Bool)) :
    (ofRuns field runs).hasErrors = true ↔ false ∈ (ofRuns field runs).evaluated := by
  rw [hasErrors, Bool.not_eq_true', List.isEmpty_eq_false_iff, ← List.length_pos_iff,
    length_errors_ofRuns, List.count_pos_iff]

/-- The outcome of a field in a list; none of a field that was not run. -/
def ofRuns? (field : String) : List (Instance × Bool) → Option FieldOutcome
  | [] => none
  | runs => some (ofRuns field runs)

theorem ofRuns?_append (field : String) (runs : List (Instance × Bool)) (i : Instance)
    (passed : Bool) :
    ofRuns? field (runs ++ [(i, passed)]) =
      some (.add passed i.message ((ofRuns? field runs).getD { field })) := by
  cases runs with
  | nil => cases passed <;> rfl
  | cons run runs => exact congrArg some (add_ofRuns field (run :: runs) i passed).symm

end FieldOutcome

namespace ValidatorSet

/-- The task, run for a field of a record, is an instance that comes to a
boolean. -/
def Task.Runs (record : Json) (field : String) (t : Task) (run : Instance × Bool) : Prop :=
  t.materialize record = .ok run.1 ∧ run.1.evaluate (subject field run.1 record) = .ok run.2

/-- Running tasks leaves of every field what its own part came to. -/
theorem runTasks_outcome {record : Json} (field : String) {tasks : List (String × Task)}
    {os os' : List FieldOutcome} {before : List (Instance × Bool)}
    (h : tasks.foldlM (runTask record) os = .ok os')
    (hos : KeyedList.find? FieldOutcome.field field os = FieldOutcome.ofRuns? field before) :
    ∃ runs, List.Forall₂ (Task.Runs record field) (tasksOn field tasks) runs ∧
      KeyedList.find? FieldOutcome.field field os' =
        FieldOutcome.ofRuns? field (before ++ runs) := by
  -- `before` are the runs of the field so far; tasks of other fields leave them alone.
  induction tasks generalizing os before with
  | nil =>
      cases h
      exact ⟨[], .nil, by rw [hos, List.append_nil]⟩
  | cons p tasks ih =>
      obtain ⟨name, t⟩ := p
      obtain ⟨os₁, h₁, h⟩ := bind_eq_ok.mp (List.foldlM_cons.symm.trans h)
      obtain ⟨i, passed, hi, hp, rfl⟩ := runTask_eq_ok.mp h₁
      rw [tasksOn_cons]
      by_cases hn : name = field
      · subst hn
        have hnext : KeyedList.find? FieldOutcome.field name
            (FieldOutcome.record name passed i.message os) =
              FieldOutcome.ofRuns? name (before ++ [(i, passed)]) := by
          rw [FieldOutcome.find?_record, if_pos rfl, hos, FieldOutcome.ofRuns?_append]
        obtain ⟨runs, hruns, he⟩ := ih h hnext
        refine ⟨(i, passed) :: runs, ?_, ?_⟩
        · rw [if_pos rfl]
          exact .cons ⟨hi, hp⟩ hruns
        · rw [he, List.append_assoc, List.singleton_append]
      · have hnext : KeyedList.find? FieldOutcome.field field
            (FieldOutcome.record name passed i.message os) =
              FieldOutcome.ofRuns? field before := by
          rw [FieldOutcome.find?_record, if_neg hn, hos]
        obtain ⟨runs, hruns, he⟩ := ih h hnext
        refine ⟨runs, ?_, he⟩
        rw [if_neg hn]
        exact hruns

/-- Every outcome that a run leaves is that of the field's own validators, of
which there is one at least. -/
theorem exists_runs {s : ValidatorSet} {record : Json} {fields : List FieldOutcome}
    (h : s.runValidators record = .ok fields) {o : FieldOutcome} (ho : o ∈ fields) :
    ∃ runs, runs ≠ [] ∧ o = FieldOutcome.ofRuns o.field runs
      ∧ List.Forall₂ (Task.Runs record o.field) (tasksOn o.field s.agenda) runs := by
  have hnone : KeyedList.find? FieldOutcome.field o.field [] = FieldOutcome.ofRuns? o.field [] := rfl
  obtain ⟨runs, hruns, hfind⟩ := runTasks_outcome o.field h hnone
  rw [KeyedList.find?_of_mem (nodup_runTasks h List.nodup_nil) ho, List.nil_append] at hfind
  cases runs with
  | nil => cases hfind
  | cons run runs => exact ⟨_, List.cons_ne_nil run runs, Option.some.inj hfind, hruns⟩

end ValidatorSet

/-! ## Reports -/

open ValidatorSet (conditionStatus validationStatus exemptReport validatedReport statusOf
  runCondition exists_runs)

theorem describes_conditionStatus (outcomes : List ConditionOutcome) :
    (conditionStatus outcomes).Describes (outcomes.map ConditionOutcome.passed) := by
  have h := PassStatus.describes_ofCounts (outcomes.map ConditionOutcome.passed)
  rwa [List.length_map, List.countP_map] at h

theorem describes_validationStatus (fields : List FieldOutcome) :
    (validationStatus fields).Describes (FieldOutcome.booleans fields) :=
  PassStatus.describes_ofCounts _

/-- Some field has errors just if not all booleans are true. -/
theorem any_hasErrors {s : ValidatorSet} {record : Json} {fields : List FieldOutcome}
    (h : s.runValidators record = .ok fields) :
    fields.any FieldOutcome.hasErrors = (validationStatus fields != .all) := by
  rw [Bool.eq_iff_iff, bne_iff_ne, ne_eq, (describes_validationStatus fields).eq_all_iff, not_not,
    FieldOutcome.booleans, List.mem_flatMap, List.any_eq_true]
  refine exists_congr fun o => and_congr_right fun ho => ?_
  obtain ⟨runs, -, heq, -⟩ := exists_runs h ho
  rw [heq, FieldOutcome.hasErrors_ofRuns]

theorem not_all_of_closed {strict : StrictMode} {status : PassStatus}
    (h : ValidatorSet.opens strict status = false) : status ≠ .all := by
  rintro rfl
  cases strict <;> cases h

/-- The parts of a report on a record agree with each other and with the
set. -/
structure Report.Consistent (s : ValidatorSet) (record : Json) (r : Report) : Prop where
  strict : r.strict = s.strict
  nodup_fields : (r.fields.map FieldOutcome.field).Nodup
  /-- The booleans of a field are those of its validators as they are run, and
  its errors are the messages of those that failed. -/
  outcome : ∀ o ∈ r.fields, ∃ runs,
    List.Forall₂ (ValidatorSet.Task.Runs record o.field) (s.tasks o.field) runs
      ∧ o.evaluated = runs.map Prod.snd ∧ o.evaluated ≠ []
      ∧ o.errors = (runs.filter fun run => !run.2).map (fun run => run.1.message)
      ∧ o.errors.length = o.evaluated.count false
  errorMap : r.errorMap =
    (r.fields.filter fun o => decide (false ∈ o.evaluated)).map fun o => (o.field, o.errors)
  conditions : List.Forall₂ (fun c o => runCondition record c = .ok o) s.conditions r.conditions
  conditionStatus_eq_none : r.conditionStatus = none ↔ s.conditions = []
  conditionStatus : ∀ status ∈ r.conditionStatus,
    status.Describes (r.conditions.map ConditionOutcome.passed)
  exempt_iff : r.exempt = true ↔ r.validationStatus = none
  of_exempt : r.exempt = true → r.passed = true ∧ r.fields = []
    ∧ ∃ status, r.conditionStatus = some status ∧ status ≠ .all
  of_validated : r.exempt = false →
    (r.validationStatus = some .all ↔ r.hasErrors = false)
    ∧ (r.validationStatus = some .none ↔
      FieldOutcome.booleans r.fields ≠ [] ∧ true ∉ FieldOutcome.booleans r.fields)
    ∧ r.passed = if s.strict.validationsStrict then !r.hasErrors
        else r.validationStatus != some .none

namespace Report.Consistent

variable {s : ValidatorSet} {record : Json} {outcomes : List ConditionOutcome}

theorem of_closed (hc : s.runConditions record = .ok outcomes)
    (hclosed : ValidatorSet.opens s.strict (ValidatorSet.conditionStatus outcomes) = false) :
    Report.Consistent s record (exemptReport s.strict outcomes) where
  strict := rfl
  nodup_fields := List.nodup_nil
  outcome := nofun
  errorMap := rfl
  conditions := mapM_eq_ok.mp hc
  conditionStatus_eq_none := by
    refine iff_of_false nofun fun hnone => ?_
    obtain rfl := Except.ok.inj (hc.symm.trans (ValidatorSet.runConditions_nil hnone record))
    cases hclosed.symm.trans (ValidatorSet.opens_nil s.strict)
  conditionStatus := by
    rintro status hstatus
    cases hstatus
    exact describes_conditionStatus outcomes
  exempt_iff := iff_of_true rfl rfl
  of_exempt _ := ⟨rfl, rfl, _, rfl, not_all_of_closed hclosed⟩
  of_validated := nofun

theorem of_open (hd : s.fields.Nodup) (hl : s.loadedFields.Nodup)
    {fields : List FieldOutcome} (hc : s.runConditions record = .ok outcomes)
    (hv : s.runValidators record = .ok fields) :
    Report.Consistent s record
      (validatedReport s.strict (s.statusOf outcomes) outcomes fields) where
  strict := rfl
  nodup_fields := ValidatorSet.nodup_runTasks hv List.nodup_nil
  outcome o ho := by
    obtain ⟨runs, hne, heq, hruns⟩ := exists_runs hv ho
    rw [ValidatorSet.agenda_on hd hl] at hruns
    refine ⟨runs, hruns, congrArg FieldOutcome.evaluated heq, ?_,
      congrArg FieldOutcome.errors heq, ?_⟩
    · rw [heq]
      exact mt List.map_eq_nil_iff.mp hne
    · rw [heq]
      exact FieldOutcome.length_errors_ofRuns o.field runs
  errorMap := by
    refine congrArg (List.map _) (List.filter_congr fun o ho => ?_)
    obtain ⟨runs, -, heq, -⟩ := exists_runs hv ho
    rw [Bool.eq_iff_iff, decide_eq_true_eq, heq]
    exact FieldOutcome.hasErrors_ofRuns o.field runs
  conditions := mapM_eq_ok.mp hc
  conditionStatus_eq_none := by
    rw [← ValidatorSet.hasConditions_eq_false]
    change s.statusOf outcomes = none ↔ _
    rw [statusOf]
    cases s.hasConditions <;> simp
  conditionStatus := by
    intro status hstatus
    change s.statusOf outcomes = some status at hstatus
    rw [statusOf] at hstatus
    split at hstatus
    · cases hstatus
      exact describes_conditionStatus outcomes
    · cases hstatus
  exempt_iff := iff_of_false nofun nofun
  of_exempt := nofun
  of_validated _ := by
    have herrors : (validatedReport s.strict (s.statusOf outcomes) outcomes fields).hasErrors =
        (ValidatorSet.validationStatus fields != .all) := any_hasErrors hv
    refine ⟨?_, ?_, ?_⟩
    · rw [herrors, bne_eq_false_iff_eq]
      exact Option.some_inj
    · exact Option.some_inj.trans (describes_validationStatus fields).eq_none_iff
    · change (if s.strict.validationsStrict then _
        else (ValidatorSet.validationStatus fields).anyPassed) = _
      rw [PassStatus.anyPassed_eq]
      rfl

end Report.Consistent

/-- **Every report is consistent.** However a set was built, what an
evaluation reports on a record agrees with itself and with the set. -/
theorem report_consistent {start : Start} {steps : List BuildStep} {s : ValidatorSet}
    (h : start.build steps = .ok s) {record : Json} {report : Report}
    (hr : s.evaluate record = .ok report) : report.Consistent s record := by
  have hl := Ledger.build h
  obtain ⟨outcomes, hc, ⟨hclosed, rfl⟩ | ⟨fields, -, hv, rfl⟩⟩ :=
    ValidatorSet.evaluate_eq_ok_cases hr
  · exact .of_closed hc hclosed
  · exact .of_open hl.nodup_fields hl.nodup_loadedFields hc hv

/-- Steps that leave a field loaded in part and one loaded directly. -/
def stepsForBothPhases : List BuildStep :=
  [.setStrict .none, .addConditionsFromRules ["plan:equal:pro", "age:numeric"],
    .addValidatorFromRule "name:not_empty", .loadValidators (.obj []),
    .addValidatorsFromRules ["age:greater_than:17", "name:alpha::letters only"],
    .loadValidator "age" lenient .null]

/-- A record that passes a part of both phases. -/
def recordInPart : Json := .obj [("plan", .str "pro"), ("name", .str "a1"), ("age", .str "many")]

theorem report_consistent_in_part :
    ∃ s report, (Start.withRegistry .builtin).build stepsForBothPhases = .ok s
      ∧ s.evaluate recordInPart = .ok report ∧ report.Consistent s recordInPart
      ∧ report.conditionStatus = some .some ∧ report.validationStatus = some .some
      ∧ report.passed = true
      ∧ report.errorMap.map Prod.fst = ["name", "age"]
      ∧ report.errors "name" = ["letters only"] := by
  have hrun : ((Start.withRegistry .builtin).build stepsForBothPhases >>= fun s =>
      s.evaluate recordInPart >>= fun report =>
        pure (report.conditionStatus, report.validationStatus, report.passed,
          report.errorMap.map Prod.fst, report.errors "name")).toOption =
      some (some .some, some .some, true, ["name", "age"], ["letters only"]) := by decide +kernel
  obtain ⟨s, hs, hrun⟩ := bind_eq_ok.mp (toOption_eq_some.mp hrun)
  obtain ⟨report, hr, hrun⟩ := bind_eq_ok.mp hrun
  simp only [pure, Except.pure, Except.ok.injEq, Prod.mk.injEq] at hrun
  obtain ⟨hconditions, hvalidators, hpassed, hmap, herrors⟩ := hrun
  exact ⟨s, report, hs, hr, report_consistent hs hr, hconditions, hvalidators, hpassed, hmap,
    herrors⟩

end RecordRules
