import RecordRules.Proofs.Capability.Judgement
import RecordRules.Proofs.Document.SavedMeaning
import RecordRules.Proofs.ValidatorSet.Gate

/-!
# Refused operands

An error of an evaluation is that of a condition or of a validator, and there
either its instance cannot be made or the instance errs over its input. An
instance that was made has an operand that was accepted and never finds a fault
with it. So an operand is refused only when an instance is made of it, with
references put in place (`Rule.isRefused_of_error`).

In a set that was built from a document, nothing is run but its rules. If an
evaluation refuses an operand, then it is that of one of them
(`Savable.exists_isRefused`).
-/

namespace RecordRules

/-! ## Where errors come from -/

theorem Instance.evaluate_ne_invalidOperand {k : Kind} {o : Operand} {message : Option String}
    {i : Instance} (h : make k o message = .ok i) (input : Json) (name : String)
    (fault : OperandFault) : i.evaluate input ≠ .error (.invalidOperand name fault) := by
  obtain ⟨patterns, hp, rfl⟩ := Instance.exists_of_make h
  intro he
  obtain ⟨inputFault, hinput⟩ := (Builtin.errsOn_evaluate _ input).overInput _ he
  cases hinput

theorem Condition.evaluate_eq_error {c : Condition} {record : Json} {e : ConfigError}
    (h : c.evaluate record = .error e) :
    e = .missingField c.field ∨ c.bind record = .error e
      ∨ ∃ i subject, c.bind record = .ok i ∧ i.evaluate subject = .error e := by
  rw [evaluate] at h
  split at h
  · cases h
    exact .inl rfl
  · rcases bind_eq_error.mp h with h | ⟨i, hi, h⟩
    · exact .inr (.inl h)
    · split at h
      next subject _ => exact .inr (.inr ⟨i, subject, hi, h⟩)
      next => cases h

theorem ValidatorSet.runTask_eq_error {record : Json} {outcomes : List FieldOutcome}
    {field : String} {t : Task} {e : ConfigError}
    (h : runTask record outcomes (field, t) = .error e) :
    t.materialize record = .error e
      ∨ ∃ i subject, t.materialize record = .ok i ∧ i.evaluate subject = .error e := by
  rcases bind_eq_error.mp h with h | ⟨i, hi, h⟩
  · exact .inl h
  · rcases bind_eq_error.mp h with h | ⟨passed, -, h⟩
    · exact .inr ⟨i, _, hi, h⟩
    · cases h

/-! ## Refused operands -/

namespace Rule

/-- The operand of the rule is refused for the record. -/
def IsRefused (r : Rule) (k : Kind) (record : Json) (name : String) (fault : OperandFault) : Prop :=
  name = k.name ∧ k.prepare (r.value.resolve record) = .error fault

variable {r : Rule} {k : Kind} {record : Json} {name : String} {fault : OperandFault}

/-- An operand is refused when an instance is made of it, and not later. -/
theorem isRefused_of_error
    (h : (r.toBinding k).materialize record = .error (.invalidOperand name fault)
      ∨ ∃ i subject, (r.toBinding k).materialize record = .ok i
        ∧ i.evaluate subject = .error (.invalidOperand name fault)) :
    r.IsRefused k record name fault := by
  rcases h with h | ⟨i, subject, hi, h⟩
  · change Instance.make k (r.value.resolve record) r.message = _ at h
    cases hp : k.prepare (r.value.resolve record) with
    | error fault' =>
        rw [Instance.make_of_fault hp] at h
        cases h
        exact ⟨rfl, hp⟩
    | ok patterns =>
        rw [Instance.make_of_prepared hp] at h
        cases h
  · exact absurd h (Instance.evaluate_ne_invalidOperand hi subject name fault)

end Rule

/-- An operand that an evaluation refuses is that of a rule of the set. -/
theorem Savable.exists_isRefused {P : Rule → Prop} {s : ValidatorSet} {record : Json}
    {name : String} {fault : OperandFault} (hs : Savable (Change.FromRule P) s)
    (h : s.evaluate record = .error (.invalidOperand name fault)) :
    ∃ r k v, P r ∧ r.Gives k v ∧ r.IsRefused k record name fault := by
  rcases ValidatorSet.evaluate_eq_error_cases h with h | h
  · obtain ⟨c, hc, h⟩ := exists_of_mapM_error h
    obtain ⟨hP, hrequires, k, v, hentry, hv⟩ := hs.conditions c hc
    obtain ⟨field, entry, value, message, requiresField⟩ := c
    obtain rfl : entry = .ofKind k := hentry
    obtain rfl : requiresField = true := hrequires
    refine ⟨_, k, v, hP, hv, Rule.isRefused_of_error ?_⟩
    rw [← hv.bind_condition record]
    rcases bind_eq_error.mp h with h | ⟨passed, -, h⟩
    · exact (Condition.evaluate_eq_error h).resolve_left nofun
    · cases h
  · obtain ⟨⟨field, t⟩, ht, outcomes, h⟩ := exists_of_foldlM_error h
    rw [ValidatorSet.agenda_of_unloaded hs.loaded_eq] at ht
    obtain ⟨⟨field', bs⟩, hd, ht⟩ := List.mem_flatMap.mp ht
    obtain ⟨b, hb, ht⟩ := List.mem_map.mp ht
    cases ht
    obtain ⟨hP, k, v, hentry, hv⟩ := hs.bindings _ hd b hb
    obtain ⟨entry, value, message⟩ := b
    obtain rfl : entry = .ofKind k := hentry
    exact ⟨_, k, v, hP, hv, Rule.isRefused_of_error (ValidatorSet.runTask_eq_error h)⟩

end RecordRules
