import RecordRules.Proofs.Capability.Judgement
import RecordRules.Proofs.Record.UnrelatedKey
import RecordRules.Proofs.Rule.Phases

/-!
# Rules that do not ask for a key

A written rule asks a record for its own field and for what its operand refers
to, and for nothing else. So on records that agree apart from a key it comes
to the same, as a condition and as a validator, if its field is apart from the
key and its operand is foreign to it (`Rule.Textual.evaluate_condition_eq`,
`Rule.Textual.evaluate_subject_eq`).

A validator that is run on the value of its field is run on the whole record
where the field has none, and then it sees every key. This is why the field
has to be addressed.
-/

namespace RecordRules

/-! ## Capabilities that look their field up themselves -/

namespace AgreeApart

variable {key : String} {record record' : Json} (h : AgreeApart key record record')

section Judge

variable {o : Operand} (ho : ∀ f ∈ o.targetField, IsApart key f)

include h ho

theorem judge_item_eq (t : ItemTest) : t.judge o record' = t.judge o record := by
  simp only [ItemTest.judge, h.requireRecord_eq]
  cases he : o.entry with
  | error fault => rfl
  | ok entry =>
      obtain ⟨f, v⟩ := entry
      obtain ⟨rfl, -⟩ := Operand.entry_eq_ok.mp he
      have hf := ho f rfl
      simp only [orFaulty, Except.mapError, ok_bind, h.fieldItems_eq hf, h.listSize_eq hf]

theorem judge_field_eq (t : FieldTest) : t.judge o record' = t.judge o record := by
  simp only [FieldTest.judge, h.requireRecord_eq]
  cases he : o.fieldName with
  | error fault => rfl
  | ok f =>
      obtain ⟨rfl, -⟩ := Operand.fieldName_eq_ok.mp he
      have hf := ho f rfl
      simp only [orFaulty, Except.mapError, ok_bind, h.fieldSize_eq hf, h.fieldItems_eq hf,
        h.isPresent_eq hf]

theorem judge_eq {k : Kind} (hk : k.shape.addressesField = true) (patterns : List Pattern) :
    k.judge o patterns record' = k.judge o patterns record := by
  cases k with
  | value t => cases hk
  | item t => exact h.judge_item_eq ho t
  | field t => exact h.judge_field_eq ho t

end Judge

/-! ## Capabilities that are run on the value of their field -/

include h in
theorem subject_eq {field : String} (hf : IsApart key field)
    (ha : IsFieldAddressed .scalar field record) {i : Instance}
    (hi : i.operand.targetField.isSome = false) :
    ValidatorSet.subject field i record' = ValidatorSet.subject field i record := by
  rw [ValidatorSet.subject, ValidatorSet.subject, hi, if_neg Bool.false_ne_true,
    if_neg Bool.false_ne_true, h.resolvePath_eq hf, h.get?_eq hf.1]
  unfold IsFieldAddressed at ha
  split at ha
  next hd =>
    rw [if_pos hd, if_pos hd]
    cases hm : resolvePath field record with
    | nil => exact absurd hm (ha.resolve_left Bool.false_ne_true)
    | cons v vs => cases vs <;> rfl
  next hd =>
    obtain ⟨v, hv, hne⟩ := ha
    rw [if_neg hd, if_neg hd, hv]
    cases v with
    | null => exact absurd rfl (hne.resolve_left Bool.false_ne_true)
    | bool b | num n | str s | arr items | obj entries => rfl

end AgreeApart

/-! ## Written rules -/

theorem OperandShape.eq_scalar {shape : OperandShape} (h : shape.addressesField = false) :
    shape = .scalar := by
  cases shape with
  | scalar => rfl
  | fieldKeyed | fieldName => cases h

namespace Rule.Textual

variable {r : Rule} {k : Kind}

theorem exists_gives (h : r.Textual k) : ∃ v, r.Gives k v := by
  obtain ⟨raw, hraw, hvalue⟩ := h.value
  obtain ⟨v, rfl⟩ := hraw.exists_ofJson
  exact ⟨v, h.field, h.trimmed, h.capability, hvalue⟩

/-- A written rule points at no field but its own. -/
theorem eq_field (h : r.Textual k) {f : String} (hf : f ∈ r.value.targetField) : f = r.field := by
  obtain ⟨raw, hraw, hvalue⟩ := h.value
  rw [hvalue] at hf
  cases hshape : k.shape with
  | scalar =>
      rw [hshape] at hf
      cases hraw <;> cases hf
  | fieldKeyed | fieldName =>
      rw [hshape] at hf
      cases hraw <;> cases hf <;> rfl

variable {key : String} {record record' : Json}

/-- An instance of a written rule that looks its field up itself judges both
records alike. -/
theorem evaluate_eq (h : r.Textual k) (hrecords : AgreeApart key record record')
    (hf : IsApart key r.field) (hk : k.shape.addressesField = true) {r₀ : Json} {i : Instance}
    (hi : (r.toBinding k).materialize r₀ = .ok i) : i.evaluate record' = i.evaluate record := by
  obtain ⟨patterns, hp, rfl⟩ := Instance.exists_of_make hi
  refine hrecords.judge_eq (fun f hfield => ?_) hk patterns
  rw [Operand.targetField_resolve] at hfield
  rwa [h.eq_field hfield]

theorem evaluate_subject_eq (h : r.Textual k) (hrecords : AgreeApart key record record')
    (hf : IsApart key r.field) (ha : k.shape = .scalar → IsFieldAddressed .scalar r.field record)
    {r₀ : Json} {i : Instance} (hi : (r.toBinding k).materialize r₀ = .ok i) :
    i.evaluate (ValidatorSet.subject r.field i record') =
      i.evaluate (ValidatorSet.subject r.field i record) := by
  obtain ⟨v, hv⟩ := h.exists_gives
  have htarget := hv.targetField_eq hi
  cases hk : k.shape.addressesField with
  | true =>
      rw [hk] at htarget
      rw [ValidatorSet.subject, ValidatorSet.subject, if_pos htarget, if_pos htarget]
      exact h.evaluate_eq hrecords hf hk hi
  | false =>
      rw [hk] at htarget
      rw [hrecords.subject_eq hf (ha (OperandShape.eq_scalar hk)) htarget]

theorem evaluate_condition_eq (h : r.Textual k) (hrecords : AgreeApart key record record')
    (hf : IsApart key r.field) (ho : ∀ text ∈ r.value.texts, IsForeign key text) :
    (r.toCondition k).evaluate record' = (r.toCondition k).evaluate record := by
  obtain ⟨v, hv⟩ := h.exists_gives
  have hget : record'.get? (r.toCondition k).field = record.get? (r.toCondition k).field :=
    hrecords.get?_eq hf.1
  have hbind : (r.toCondition k).bind record' = (r.toCondition k).bind record :=
    congrArg (fun o => Entry.bind _ _ o _) (hrecords.resolve_eq ho)
  rw [Condition.evaluate, Condition.evaluate, Condition.lacksField, Condition.lacksField, hget,
    hbind]
  split
  next => rfl
  next =>
    refine bind_congr_ok fun i hi => ?_
    rw [hv.bind_condition] at hi
    cases hk : (r.toCondition k).entry.shape.addressesField with
    | true =>
        rw [Condition.subject?, Condition.subject?, if_pos hk, if_pos hk]
        exact h.evaluate_eq hrecords hf hk hi
    | false =>
        have hpath : resolvePath (r.toCondition k).field record' =
            resolvePath (r.toCondition k).field record := hrecords.resolvePath_eq hf
        rw [Condition.subject?, Condition.subject?, hk, hpath, hget]
        rfl

end Rule.Textual

end RecordRules
