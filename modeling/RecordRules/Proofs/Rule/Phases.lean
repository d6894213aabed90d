import RecordRules.Proofs.Rule.Declared

/-!
# One rule in both phases

A written rule can be made a condition or a validator. The phases choose what
they run on by different means: a condition goes by the registered shape of its
capability and shapes its operand after references are put in place, a
validator goes by the operand of its instance and is shaped when it is
declared. On a record in which the field of the rule is addressed
(`IsFieldAddressed`) they come to the same judgement or the same error
(`condition_agrees_with_validator`).

Both make the same instance (`Rule.Gives.bind_condition`), and both run it on
the same value (`Rule.Gives.subject_eq`).
-/

namespace RecordRules

/-- The record has what a capability of that shape is run on for the field. A
simple field is a key, and for a capability that is run on its value one that
is not null; a path has a match, unless the capability looks it up itself. -/
def IsFieldAddressed (shape : OperandShape) (field : String) (record : Json) : Prop :=
  if isDotted field then shape.addressesField = true ∨ resolvePath field record ≠ []
  else ∃ v, record.get? field = some v ∧ (shape.addressesField = true ∨ v ≠ .null)

instance (shape : OperandShape) (field : String) (record : Json) :
    Decidable (IsFieldAddressed shape field record) :=
  inferInstanceAs (Decidable (if isDotted field then _ else ∃ v ∈ record.get? field, _))

/-! ## Running the instance -/

namespace Rule.Gives

variable {r : Rule} {k : Kind} {v : Json}

/-- Both phases run the instance on the same value. -/
theorem subject_eq (h : r.Gives k v) {record : Json} (ha : IsFieldAddressed k.shape r.field record)
    {i : Instance} (hi : (r.toBinding k).materialize record = .ok i) :
    (r.toCondition k).subject? record = some (ValidatorSet.subject r.field i record) := by
  rw [Condition.subject?, ValidatorSet.subject, h.targetField_eq hi]
  change (if k.shape.addressesField then some record
    else if isDotted r.field then gather (resolvePath r.field record)
    else record.get? r.field) = _
  unfold IsFieldAddressed at ha
  cases hshape : k.shape.addressesField with
  | true => rfl
  | false =>
      simp only [hshape, Bool.false_eq_true, false_or, if_false] at ha ⊢
      cases hd : isDotted r.field with
      | true =>
          rw [if_pos hd] at ha
          rw [if_pos rfl, if_pos rfl]
          match hm : resolvePath r.field record with
          | [] => exact absurd hm ha
          | [v] => rfl
          | v :: w :: vs => rfl
      | false =>
          rw [if_neg (by simp [hd])] at ha
          obtain ⟨v, hv, hne⟩ := ha
          rw [if_neg Bool.false_ne_true, if_neg Bool.false_ne_true, hv]
          cases v with
          | null => exact absurd rfl hne
          | bool _ | num _ | str _ | arr _ | obj _ => rfl

theorem not_lacksField {record : Json} (ha : IsFieldAddressed k.shape r.field record) :
    (r.toCondition k).lacksField record = false := by
  rw [Condition.lacksField]
  change (!isDotted r.field && true && (record.get? r.field).isNone) = false
  unfold IsFieldAddressed at ha
  cases hd : isDotted r.field with
  | true => rfl
  | false =>
      rw [if_neg (by simp [hd])] at ha
      obtain ⟨v, hv, -⟩ := ha
      rw [hv]
      rfl

/-- A condition judges a record that addresses its field as a validator
would. -/
theorem evaluate_condition (h : r.Gives k v) {record : Json}
    (ha : IsFieldAddressed k.shape r.field record) :
    (r.toCondition k).evaluate record =
      (r.toBinding k).materialize record >>= fun i =>
        i.evaluate (ValidatorSet.subject r.field i record) := by
  rw [Condition.evaluate, not_lacksField ha, if_neg Bool.false_ne_true, h.bind_condition]
  cases hi : (r.toBinding k).materialize record with
  | error e => rfl
  | ok i => simp only [ok_bind, h.subject_eq ha hi]

end Rule.Gives

/-! ## The set of one rule -/

namespace ValidatorSet

/-- A set with one task and no conditions runs the instance of the task, and
reports nothing else. -/
theorem evaluate_of_agenda {s : ValidatorSet} {field : String} {t : Task}
    (hconditions : s.hasConditions = false) (hagenda : s.agenda = [(field, t)]) (record : Json) :
    s.evaluate record =
      (t.materialize record >>= fun i => (i.evaluate (subject field i record)).map fun passed =>
        validatedReport s.strict none [] (FieldOutcome.record field passed i.message [])) := by
  rw [evaluate, hconditions, if_neg Bool.false_ne_true, runValidators, hagenda,
    List.foldlM_cons, runTask]
  cases t.materialize record with
  | error e => rfl
  | ok i =>
      simp only [bind, Except.bind]
      cases i.evaluate (subject field i record) <;> rfl

/-- The set of one binding runs its instance, and reports nothing else. -/
theorem evaluate_addBinding_empty_eq (field : String) (b : Binding) (strict : StrictMode)
    (record : Json) :
    ((empty.setStrict strict).addBinding field b).evaluate record =
      (b.materialize record >>= fun i => (i.evaluate (subject field i record)).map fun passed =>
        validatedReport strict none [] (FieldOutcome.record field passed i.message [])) :=
  evaluate_of_agenda (t := .pending b) rfl rfl record

/-- The set of one binding records what its instance says about the record. -/
theorem evaluate_addBinding_empty (field : String) (b : Binding) (strict : StrictMode)
    (record : Json) :
    (((empty.setStrict strict).addBinding field b).evaluate record).map
        (fun report => report.fields.map fun o => (o.field, o.evaluated)) =
      (b.materialize record >>= fun i => i.evaluate (subject field i record)).map
        fun passed => [(field, [passed])] := by
  rw [evaluate_addBinding_empty_eq]
  cases b.materialize record with
  | error e => rfl
  | ok i =>
      simp only [bind, Except.bind]
      cases i.evaluate (subject field i record) <;> rfl

end ValidatorSet

/-- **A rule says the same as a condition and as a validator.** Over the
built-in capabilities every text that is a rule makes a condition and a set of
one validator. On each record that addresses the field both end in the same
error, or both in the same boolean, which is the only one that the set
records. -/
theorem condition_agrees_with_validator {text : String} {r : Rule}
    (h : Rule.read .builtin text = .ok r) (strict : StrictMode) :
    ∃ c s, Condition.read .builtin text = .ok c ∧ ValidatorSet.ofRules [text] strict = .ok s
      ∧ ∀ record, IsFieldAddressed c.entry.shape c.field record →
          (s.evaluate record).map
              (fun report => report.fields.map fun o => (o.field, o.evaluated)) =
            (c.evaluate record).map fun passed => [(c.field, [passed])] := by
  obtain ⟨k, v, hk, -⟩ := @RuleEntry.gives_toRule (.line text) r h
  refine ⟨r.toCondition k,
    (ValidatorSet.empty.setStrict strict).addBinding r.field (r.toBinding k), ?_, ?_, ?_⟩
  · rw [Condition.read, h]
    exact hk.ofRule_eq
  · have hd : Change.declaringEntry .builtin (.line text) = .ok (.bind r.field (r.toBinding k)) := by
      change (Rule.read .builtin text >>= _) = _
      rw [h, ok_bind, hk.declaringRule_eq]
    rw [ValidatorSet.ofRules, ValidatorSet.after_addValidatorsFromRules]
    change expectAll (ValidatorSet.tryAll _ [Change.declaringEntry .builtin (.line text)]) = _
    rw [hd]
    rfl
  · intro record ha
    rw [ValidatorSet.evaluate_addBinding_empty, hk.evaluate_condition ha]
    rfl

/-- Two users with an age, and their number. -/
def recordOfUsers : Json :=
  .obj [("n", .str "2"), ("users", .arr [.obj [("age", .str "41")], .obj [("age", .null)]])]

/-- The value of the rule is a reference, and its path has two matches. -/
theorem condition_agrees_with_validator_on_matches :
    ∃ c s, Condition.read .builtin "users.age:count_equal:[n]" = .ok c
      ∧ ValidatorSet.ofRules ["users.age:count_equal:[n]"] .both = .ok s
      ∧ IsFieldAddressed c.entry.shape c.field recordOfUsers ∧ c.evaluate recordOfUsers = .ok true
      ∧ (s.evaluate recordOfUsers).map
          (fun report => report.fields.map fun o => (o.field, o.evaluated)) =
        .ok [("users.age", [true])] := by
  have hread : (Rule.read .builtin "users.age:count_equal:[n]").toOption =
      some ⟨"users.age", "CountEqual", .scalar (.str "[n]"), none⟩ := by decide +kernel
  have hrun : (Condition.read .builtin "users.age:count_equal:[n]" >>= fun c =>
      c.evaluate recordOfUsers >>= fun passed =>
        pure (c.field, isDotted c.field, (resolvePath c.field recordOfUsers).length,
          passed)).toOption = some ("users.age", true, 2, true) := by decide +kernel
  obtain ⟨c, s, hc, hs, hagree⟩ :=
    condition_agrees_with_validator (toOption_eq_some.mp hread) .both
  obtain ⟨c', hc', hrun⟩ := bind_eq_ok.mp (toOption_eq_some.mp hrun)
  obtain rfl : c = c' := Except.ok.inj (hc.symm.trans hc')
  obtain ⟨passed, hpassed, hrun⟩ := bind_eq_ok.mp hrun
  simp only [pure, Except.pure, Except.ok.injEq, Prod.mk.injEq] at hrun
  obtain ⟨hfield, hdotted, hmatches, rfl⟩ := hrun
  have ha : IsFieldAddressed c.entry.shape c.field recordOfUsers := by
    rw [IsFieldAddressed, if_pos hdotted]
    refine .inr fun hnil => ?_
    rw [hnil] at hmatches
    cases hmatches
  refine ⟨c, s, hc, hs, ha, hpassed, ?_⟩
  rw [hagree recordOfUsers ha, hpassed, hfield]
  rfl

end RecordRules
