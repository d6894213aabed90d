import RecordRules.Proofs.ValidatorSet.Steps

/-!
# Conditions as a gate

An evaluation comes to one of three ends: a condition errs, or the conditions
keep the record out, or they let it in and the validators are run. A set
without conditions lets every record in, so all of this is one equation
(`evaluate_eq_gate`), and no later proof looks into `evaluate` again.

In the first two ends the validators have no part at all, and in the third
the conditions have none but that they are reported: the two phases do not
leak into each other (`phases_do_not_leak`).

Which conditions a set has hangs on its history alone (`conditions_build`).
-/

namespace RecordRules

/-! ## The conditions of a set -/

def Change.condition? : Change → Option Condition
  | .gate k => some k
  | _ => none

/-- The conditions that changes add, in order. -/
def conditionsIn (changes : List Change) : List Condition :=
  changes.filterMap Change.condition?

theorem mem_conditionsIn {changes : List Change} {k : Condition} :
    k ∈ conditionsIn changes ↔ .gate k ∈ changes := by
  rw [conditionsIn, List.mem_filterMap]
  constructor
  · rintro ⟨c, hc, hk⟩
    cases c <;> cases hk
    exact hc
  · intro h
    exact ⟨_, h, rfl⟩

theorem conditionsIn_append (cs ds : List Change) :
    conditionsIn (cs ++ ds) = conditionsIn cs ++ conditionsIn ds := List.filterMap_append

namespace ValidatorSet

theorem conditions_apply (s : ValidatorSet) (c : Change) :
    (s.apply c).conditions = s.conditions ++ c.condition?.toList := by
  cases c with
  | gate k => rfl
  | bind field b => exact (List.append_nil _).symm
  | load field is => exact (List.append_nil _).symm
  | strict mode => exact (List.append_nil _).symm

theorem conditions_applyAll (s : ValidatorSet) (cs : List Change) :
    (s.applyAll cs).conditions = s.conditions ++ conditionsIn cs := by
  induction cs generalizing s with
  | nil => exact (List.append_nil _).symm
  | cons c cs ih =>
      refine (ih (s.apply c)).trans ?_
      rw [conditions_apply, List.append_assoc]
      cases hc : c.condition? <;> simp [conditionsIn, hc]

theorem conditions_take (s : ValidatorSet) (st : BuildStep) :
    (s.take st).1.conditions = s.conditions ++ conditionsIn (st.changes s.registry) := by
  cases hb : st.bulkRecord? with
  | none =>
      rw [s.take_eq_tryAll hb]
      exact s.conditions_applyAll _
  | some record =>
      obtain rfl := BuildStep.eq_loadValidators hb
      rw [s.take_loadValidators, s.loadFields_frame]
      exact (List.append_nil _).symm

theorem conditions_takeAll (s : ValidatorSet) (steps : List BuildStep) :
    (s.takeAll steps).conditions =
      s.conditions ++ conditionsIn (steps.flatMap (BuildStep.changes s.registry)) := by
  induction steps generalizing s with
  | nil => exact (List.append_nil _).symm
  | cons st steps ih =>
      refine (ih (s.take st).1).trans ?_
      rw [conditions_take, registry_take, List.append_assoc, List.flatMap_cons,
        conditionsIn_append]

end ValidatorSet

theorem Start.conditions_build {start : Start} {steps : List BuildStep} {s : ValidatorSet}
    (h : start.build steps = .ok s) : s.conditions = conditionsIn (start.history steps) := by
  obtain ⟨s₀, hs₀, hs⟩ := bind_eq_ok.mp h
  cases hs
  obtain rfl := Start.make_fst hs₀
  rw [ValidatorSet.conditions_takeAll, ValidatorSet.conditions_applyAll,
    ValidatorSet.registry_applyAll, history, conditionsIn_append]
  rfl

namespace ValidatorSet

/-! ## The three ends of an evaluation -/

/-- What a report says of the conditions as a group. -/
def statusOf (s : ValidatorSet) (outcomes : List ConditionOutcome) : Option PassStatus :=
  if s.hasConditions then some (conditionStatus outcomes) else none

theorem hasConditions_eq_false {s : ValidatorSet} :
    s.hasConditions = false ↔ s.conditions = [] := by
  simp [hasConditions]

theorem runConditions_nil {s : ValidatorSet} (h : s.conditions = []) (record : Json) :
    s.runConditions record = .ok [] := by
  rw [runConditions, h]
  rfl

/-- A group without checks has passed whole. -/
theorem opens_nil (strict : StrictMode) : opens strict (conditionStatus []) = true := by
  cases strict <;> rfl

theorem evaluate_eq_gate (s : ValidatorSet) (record : Json) :
    s.evaluate record =
      s.runConditions record >>= fun outcomes =>
        if opens s.strict (conditionStatus outcomes) then
          (s.runValidators record).map (validatedReport s.strict (s.statusOf outcomes) outcomes)
        else .ok (exemptReport s.strict outcomes) := by
  cases hc : s.hasConditions with
  | false =>
      rw [evaluate, hc, if_neg Bool.false_ne_true, runConditions_nil (hasConditions_eq_false.mp hc),
        ok_bind, if_pos (opens_nil s.strict), statusOf, hc]
      cases s.runValidators record <;> rfl
  | true =>
      rw [evaluate, hc, if_pos rfl]
      refine bind_congr_ok fun outcomes _ => ?_
      simp only [statusOf, hc, if_true]
      split
      · cases s.runValidators record <;> rfl
      · rfl

section Ends

variable {s : ValidatorSet} {record : Json} {outcomes : List ConditionOutcome}

theorem evaluate_of_error {e : ConfigError} (h : s.runConditions record = .error e) :
    s.evaluate record = .error e := by
  rw [evaluate_eq_gate, h]
  rfl

theorem evaluate_of_closed (h : s.runConditions record = .ok outcomes)
    (hclosed : opens s.strict (conditionStatus outcomes) = false) :
    s.evaluate record = .ok (exemptReport s.strict outcomes) := by
  rw [evaluate_eq_gate, h, ok_bind, hclosed]
  rfl

theorem evaluate_of_open (h : s.runConditions record = .ok outcomes)
    (hopen : opens s.strict (conditionStatus outcomes) = true) :
    s.evaluate record =
      (s.runValidators record).map (validatedReport s.strict (s.statusOf outcomes) outcomes) := by
  rw [evaluate_eq_gate, h, ok_bind, if_pos hopen]

theorem evaluateConditions_eq_error {e : ConfigError} :
    s.evaluateConditions record = .error e ↔ s.runConditions record = .error e := by
  rw [evaluateConditions]
  cases s.runConditions record with
  | error e' => exact ⟨fun h => by cases h; rfl, fun h => by cases h; rfl⟩
  | ok outcomes => exact ⟨nofun, nofun⟩

theorem evaluateConditions_eq_ok {b : Bool} :
    s.evaluateConditions record = .ok b ↔
      ∃ outcomes, s.runConditions record = .ok outcomes
        ∧ opens s.strict (conditionStatus outcomes) = b := by
  rw [evaluateConditions, bind_eq_ok]
  refine exists_congr fun outcomes => and_congr_right fun _ => ?_
  exact ⟨fun h => Except.ok.inj h, fun h => congrArg Except.ok h⟩

/-- An error is that of a condition or that of a validator. -/
theorem evaluate_eq_error_cases {e : ConfigError} (h : s.evaluate record = .error e) :
    s.runConditions record = .error e ∨ s.runValidators record = .error e := by
  rw [evaluate_eq_gate] at h
  rcases bind_eq_error.mp h with h | ⟨outcomes, -, h⟩
  · exact .inl h
  · split at h
    · cases hv : s.runValidators record with
      | error e' =>
          rw [hv] at h
          cases h
          exact .inr rfl
      | ok fields =>
          rw [hv] at h
          cases h
    · cases h

/-- A report is that of a closed gate or that of the validators. -/
theorem evaluate_eq_ok_cases {report : Report} (h : s.evaluate record = .ok report) :
    ∃ outcomes, s.runConditions record = .ok outcomes ∧
      ((opens s.strict (conditionStatus outcomes) = false
          ∧ report = exemptReport s.strict outcomes)
        ∨ ∃ fields, opens s.strict (conditionStatus outcomes) = true
          ∧ s.runValidators record = .ok fields
          ∧ report = validatedReport s.strict (s.statusOf outcomes) outcomes fields) := by
  cases hc : s.runConditions record with
  | error e => cases h.symm.trans (evaluate_of_error hc)
  | ok outcomes =>
      refine ⟨outcomes, rfl, ?_⟩
      cases ho : opens s.strict (conditionStatus outcomes) with
      | false =>
          rw [evaluate_of_closed hc ho] at h
          cases h
          exact .inl ⟨rfl, rfl⟩
      | true =>
          rw [evaluate_of_open hc ho] at h
          cases hv : s.runValidators record with
          | error e =>
              rw [hv] at h
              cases h
          | ok fields =>
              rw [hv] at h
              cases h
              exact .inr ⟨fields, rfl, rfl, rfl⟩

end Ends

/-! ## Each phase without the other -/

/-- The set as it is without its conditions. -/
def withoutConditions (s : ValidatorSet) : ValidatorSet := { s with conditions := [] }

theorem evaluate_withoutConditions (s : ValidatorSet) (record : Json) :
    s.withoutConditions.evaluate record =
      (s.runValidators record).map (validatedReport s.strict none []) := by
  rw [evaluate_of_open (s := s.withoutConditions) (runConditions_nil rfl record) (opens_nil _)]
  rfl

end ValidatorSet

/-- What a report says of the validators. -/
def Report.validation (r : Report) : List FieldOutcome × Option PassStatus × Bool × Bool :=
  (r.fields, r.validationStatus, r.exempt, r.passed)

/-- **The two phases do not leak into each other.** Where the conditions err
or keep a record out, sets with the same conditions and strictness end alike,
whatever validators they have. Where the conditions let it in, the validators
come to what they come to without any condition: the same error, or the same
fields and the same judgement. -/
theorem phases_do_not_leak (s t : ValidatorSet) (record : Json) :
    (t.conditions = s.conditions → t.strict = s.strict →
      (∀ e, s.evaluateConditions record = .error e →
        s.evaluate record = .error e ∧ t.evaluate record = .error e)
      ∧ (s.evaluateConditions record = .ok false →
        ∃ report, s.evaluate record = .ok report ∧ t.evaluate record = .ok report
          ∧ report.exempt = true ∧ report.passed = true))
    ∧ (s.evaluateConditions record = .ok true →
      (s.evaluate record).map Report.validation =
        (s.withoutConditions.evaluate record).map Report.validation) := by
  refine ⟨fun hconditions hstrict => ?_, fun hopen => ?_⟩
  · have hrun : t.runConditions record = s.runConditions record := by
      rw [ValidatorSet.runConditions, ValidatorSet.runConditions, hconditions]
    refine ⟨fun e he => ?_, fun hclosed => ?_⟩
    · have hs := ValidatorSet.evaluateConditions_eq_error.mp he
      exact ⟨ValidatorSet.evaluate_of_error hs, ValidatorSet.evaluate_of_error (hrun.trans hs)⟩
    · obtain ⟨outcomes, hs, ho⟩ := ValidatorSet.evaluateConditions_eq_ok.mp hclosed
      refine ⟨ValidatorSet.exemptReport s.strict outcomes, ValidatorSet.evaluate_of_closed hs ho,
        ?_, rfl, rfl⟩
      rw [← hstrict] at ho ⊢
      exact ValidatorSet.evaluate_of_closed (hrun.trans hs) ho
  · obtain ⟨outcomes, hs, ho⟩ := ValidatorSet.evaluateConditions_eq_ok.mp hopen
    rw [ValidatorSet.evaluate_of_open hs ho, ValidatorSet.evaluate_withoutConditions]
    cases s.runValidators record <;> rfl

/-- A set that asks for a plan, with a single validator. -/
def planSet (validator : Binding) : ValidatorSet where
  registry := .builtin
  declared := [⟨"name", [validator]⟩]
  conditions := [⟨"plan", .ofKind (.value .equal), .scalar (.str "pro"), none, true⟩]

/-- A length that is a reference, and one that is no number. -/
def soundLength : Binding := ⟨.ofKind (.value .length), .scalar (.str "[n]"), none⟩

def brokenLength : Binding := ⟨.ofKind (.value .length), .scalar (.str "many"), none⟩

/-- The broken validator is seen only where the plan is the right one. -/
theorem phases_do_not_leak_past_plan :
    (planSet soundLength).evaluateConditions (.obj []) = .error (.missingField "plan")
      ∧ (planSet soundLength).evaluateConditions (.obj [("plan", .str "free")]) = .ok false
      ∧ (planSet brokenLength).evaluateConditions (.obj [("plan", .str "pro")]) = .ok true
      ∧ (planSet brokenLength).evaluate (.obj []) = .error (.missingField "plan")
      ∧ (∃ report, (planSet soundLength).evaluate (.obj [("plan", .str "free")]) = .ok report
        ∧ (planSet brokenLength).evaluate (.obj [("plan", .str "free")]) = .ok report
        ∧ report.exempt = true ∧ report.passed = true)
      ∧ ((planSet brokenLength).evaluate (.obj [("plan", .str "pro")])).map Report.validation =
        ((planSet brokenLength).withoutConditions.evaluate (.obj [("plan", .str "pro")])).map
          Report.validation := by
  have herror : (planSet soundLength).evaluateConditions (.obj []) =
      .error (.missingField "plan") := rfl
  have hclosed : (planSet soundLength).evaluateConditions (.obj [("plan", .str "free")]) =
      .ok false := toOption_eq_some.mp (by decide +kernel)
  have hopen : (planSet brokenLength).evaluateConditions (.obj [("plan", .str "pro")]) =
      .ok true := toOption_eq_some.mp (by decide +kernel)
  obtain ⟨herrors, -⟩ := (phases_do_not_leak (planSet soundLength) (planSet brokenLength)
    (.obj [])).1 rfl rfl
  obtain ⟨-, hexempt⟩ := (phases_do_not_leak (planSet soundLength) (planSet brokenLength)
    (.obj [("plan", .str "free")])).1 rfl rfl
  exact ⟨herror, hclosed, hopen, (herrors _ herror).2, hexempt hclosed,
    (phases_do_not_leak (planSet brokenLength) (planSet soundLength) _).2 hopen⟩

end RecordRules
