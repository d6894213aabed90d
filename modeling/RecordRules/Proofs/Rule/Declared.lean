import RecordRules.Proofs.Capability.Making
import RecordRules.Proofs.Rule.Saved
import RecordRules.Proofs.ValidatorSet.Steps

/-!
# What a rule declares

A rule that gives a value to a built-in capability is a condition
(`Rule.toCondition`) and declares a binding (`Rule.toBinding`). Putting
references in place leaves the shape of an operand alone
(`Operand.shaped_resolve`), so both make the same instance for a record
(`Rule.Gives.bind_condition`); and the operand of the instance points at a
field exactly if the shape of its capability says so
(`Rule.Gives.targetField_eq`).
-/

namespace RecordRules

/-! ## Operands -/

namespace Operand

/-- An operand in shape stays in shape when references are put in place. -/
theorem shaped_resolve {shape : OperandShape} {field : String} {o : Operand}
    (h : o.shaped shape field = o) (record : Json) :
    (o.resolve record).shaped shape field = o.resolve record := by
  cases shape with
  | scalar => rfl
  | fieldKeyed =>
      obtain ⟨f, v, ho⟩ := exists_keyedFor field o
      obtain rfl : o = .keyed f v := h.symm.trans ho
      rfl
  | fieldName =>
      obtain ⟨f, ho⟩ := exists_namedFor field o
      obtain rfl : o = .field f := h.symm.trans ho
      rfl

/-- References do not change what field an operand points at. -/
theorem targetField_resolve (o : Operand) (record : Json) :
    (o.resolve record).targetField = o.targetField := by
  cases o <;> rfl

/-- A shaped value points at a field if the shape asks for one. -/
theorem targetField_shaped (v : Json) (shape : OperandShape) (field : String) :
    ((ofJson v).shaped shape field).targetField.isSome = shape.addressesField := by
  cases shape with
  | scalar => cases v <;> rfl
  | fieldKeyed =>
      obtain ⟨f, w, h⟩ := exists_keyedFor field (ofJson v)
      rw [shaped, h]
      rfl
  | fieldName => cases v <;> rfl

end Operand

/-! ## The condition and the binding of a rule -/

namespace Rule

/-- The condition that a rule is, once its capability is known. -/
def toCondition (r : Rule) (k : Kind) : Condition :=
  { field := r.field, entry := .ofKind k, value := r.value, message := r.message }

/-- The binding that a rule declares, once its capability is known. -/
def toBinding (r : Rule) (k : Kind) : Binding := ⟨.ofKind k, r.value, r.message⟩

namespace Gives

variable {r : Rule} {k : Kind} {v : Json}

theorem shaped_value (h : r.Gives k v) : r.value.shaped k.shape r.field = r.value := by
  rw [h.value, Operand.shaped_shaped]

theorem resolve_capability (h : r.Gives k v) :
    Registry.builtin.resolve r.capability = .ok (.ofKind k) := by
  rw [h.capability, Registry.builtin_resolve]

theorem toRule_toCondition (h : r.Gives k v) : (r.toCondition k).toRule = r := by
  change (⟨r.field, k.name, r.value, r.message⟩ : Rule) = r
  rw [← h.capability]

theorem toRule_toBinding (h : r.Gives k v) : (r.toBinding k).toRule r.field = r := by
  change (⟨r.field, k.name, r.value, r.message⟩ : Rule) = r
  rw [← h.capability]

theorem ofRule_eq (h : r.Gives k v) : Condition.ofRule .builtin r = .ok (r.toCondition k) := by
  rw [Condition.ofRule, h.resolve_capability]
  rfl

theorem declaringRule_eq (h : r.Gives k v) :
    Change.declaringRule .builtin r = .ok (.bind r.field (r.toBinding k)) := by
  have hregistry : (ValidatorSet.withRegistry .builtin).registry = .builtin := rfl
  rw [Change.declaringRule, Change.declaring, ValidatorSet.bindingFor, hregistry,
    h.resolve_capability, ok_bind]
  exact congrArg (fun value => Except.ok (Change.bind r.field ⟨.ofKind k, value, r.message⟩))
    h.shaped_value

/-- Both phases make the same instance. -/
theorem bind_condition (h : r.Gives k v) (record : Json) :
    (r.toCondition k).bind record = (r.toBinding k).materialize record := by
  rw [Condition.bind, Entry.bind, Binding.materialize]
  change (Entry.ofKind k).construct ((r.value.resolve record).shaped k.shape r.field) r.message = _
  rw [Operand.shaped_resolve h.shaped_value]
  rfl

/-- The operand of the instance points at a field if the capability addresses
its field itself. -/
theorem targetField_eq (h : r.Gives k v) {record : Json} {i : Instance}
    (hi : (r.toBinding k).materialize record = .ok i) :
    i.operand.targetField.isSome = k.shape.addressesField := by
  have ho : i.operand = r.value.resolve record := Instance.operand_make hi
  rw [ho, Operand.targetField_resolve, h.value, Operand.targetField_shaped]

end Gives

end Rule

/-! ## What an entry declares -/

namespace Change

variable {entry : RuleEntry} {c : Change}

/-- The condition of an entry is a rule that gives a value; text, if the value
of the entry is. -/
theorem gives_of_gating (h : gating .builtin entry = .ok c) :
    ∃ r k v, entry.toRule .builtin = .ok r ∧ r.Gives k v
      ∧ (entry.isTextual = true → v.isTextual = true) ∧ c = .gate (r.toCondition k) := by
  obtain ⟨r, hr, h⟩ := bind_eq_ok.mp h
  obtain ⟨k, v, hv, htext⟩ := RuleEntry.gives_toRule hr
  rw [hv.ofRule_eq] at h
  cases h
  exact ⟨r, k, v, hr, hv, htext, rfl⟩

/-- The validator of an entry is a rule that gives a value; text, if the value
of the entry is. -/
theorem gives_of_declaring (h : declaringEntry .builtin entry = .ok c) :
    ∃ r k v, entry.toRule .builtin = .ok r ∧ r.Gives k v
      ∧ (entry.isTextual = true → v.isTextual = true)
      ∧ c = .bind r.field (r.toBinding k) := by
  obtain ⟨r, hr, h⟩ := bind_eq_ok.mp h
  obtain ⟨k, v, hv, htext⟩ := RuleEntry.gives_toRule hr
  rw [hv.declaringRule_eq] at h
  cases h
  exact ⟨r, k, v, hr, hv, htext, rfl⟩

end Change

end RecordRules
