import RecordRules.Proofs.Capability.Judgement
import RecordRules.Proofs.Record.References

/-!
# Checked operands with references put in place

Most capabilities need not fear references: an operand that was accepted is
accepted with references put in place too, whatever the record has put there
(`Kind.check_resolve`). For they read a number in it, which is no reference, or
take any value.

The exceptions read a text of their operand that need not be a number: dates,
subnets and patterns (`Kind.readsText`). They too refuse an operand that was
accepted only if some text of it refers into the record
(`Kind.readsText_of_refused`).
-/

namespace RecordRules

/-- The capability reads a text in its operand as something else than a
number. -/
def Kind.readsText : Kind → Bool
  | .value (.dateTimeBetween _) | .value .isSubnetOf | .value .regEx => true
  | _ => false

section Check

variable {o : Operand}

theorem ValueTest.check_resolve {t : ValueTest} (ht : (Kind.value t).readsText = false)
    (h : t.check o = .ok ()) (record : Json) : t.check (o.resolve record) = .ok () := by
  cases t with
  | dateTimeBetween ends | isSubnetOf | regEx => cases ht
  | between ends | lengthBetween ends =>
      obtain ⟨bounds, hb⟩ := discard_eq_ok.mp h
      rw [Operand.resolve_of_numberPair hb]
      exact h
  | count relation | threshold bound | length | lengthBound bound =>
      obtain ⟨x, hx⟩ := discard_eq_ok.mp h
      rw [Operand.resolve_of_number hx]
      exact h
  | _ => rfl

theorem Operand.entry_resolve {field : String} {v : Json} (h : o.entry = .ok (field, v))
    (record : Json) : (o.resolve record).entry = .ok (field, resolveValue record v) := by
  obtain ⟨rfl, hfield⟩ := entry_eq_ok.mp h
  exact entry_eq_ok.mpr ⟨rfl, hfield⟩

theorem ItemTest.check_resolve {t : ItemTest} (h : t.check o = .ok ()) (record : Json) :
    t.check (o.resolve record) = .ok () := by
  obtain ⟨⟨⟩, hentry, hnumber⟩ := bind_eq_ok.mp h
  cases t with
  | equals quota | contains quota =>
      obtain ⟨⟨field, v⟩, he⟩ := discard_eq_ok.mp hentry
      exact bind_eq_ok.mpr ⟨(), discard_eq_ok.mpr ⟨_, Operand.entry_resolve he record⟩, rfl⟩
  | beyond bound | count relation =>
      obtain ⟨x, hx⟩ := discard_eq_ok.mp hnumber
      rw [Operand.resolve_of_number hx]
      exact h

theorem Kind.check_resolve {k : Kind} (hk : k.readsText = false) (h : k.check o = .ok ())
    (record : Json) : k.check (o.resolve record) = .ok () := by
  cases k with
  | value t => exact ValueTest.check_resolve hk h record
  | item t => exact ItemTest.check_resolve h record
  | field t =>
      obtain ⟨field, hfield⟩ := discard_eq_ok.mp h
      obtain ⟨rfl, -⟩ := Operand.fieldName_eq_ok.mp hfield
      exact h

theorem Kind.prepare_of_check {k : Kind} (hk : k.readsText = false) (h : k.check o = .ok ()) :
    k.prepare o = .ok [] := by
  rw [prepare_eq_check _ o, h]
  · rfl
  · rintro rfl
    cases hk

/-- An operand that was accepted and is refused with references put in place
has a text that refers into the record, and the capability reads it. -/
theorem Kind.readsText_of_refused {k : Kind} {patterns : List Pattern} {record : Json}
    {fault : OperandFault} (h : k.prepare o = .ok patterns)
    (hfault : k.prepare (o.resolve record) = .error fault) :
    k.readsText = true ∧ o.RefersInto record := by
  constructor
  · by_contra hk
    rw [Bool.not_eq_true] at hk
    have hresolved := prepare_of_check hk (check_resolve hk (check_of_prepare h) record)
    cases hfault.symm.trans hresolved
  · by_contra hnot
    rw [Operand.resolve_eq_self hnot] at hfault
    cases hfault.symm.trans h

end Check

end RecordRules
