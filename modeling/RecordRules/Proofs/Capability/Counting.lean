import RecordRules.Proofs.Capability.Thresholds
import RecordRules.Proofs.Rule.Shaping
import RecordRules.Proofs.Rule.WrappedRecord

/-!
# Two ways to count

How many items a field holds is asked by two families of capabilities. One is
run on the value of the field and has a number for its operand. The other is
run on the record, looks the field up, and has its operand paired with the
field, which makes a value of a list and of nothing too.

No number comes of that: an operand that is given to both holds the same number
in either shape, or in neither (`Operand.number_keyedFor_resolve`). So on a field
that is there, both find the same number and the same list, and part only in
how they word an error (`counting_families_agree`).

In the second family, to hold one item at least is to hold more than none
(`Quota.holds_eq`), and a field that is missing has no size for either.
-/

namespace RecordRules

/-! ## Instances -/

/-- To make an instance and to run it is to check the operand and to judge. -/
theorem Instance.make_evaluate_eq {k : Kind} (hk : k ≠ .value .regEx) (o : Operand)
    (message : Option String) (input : Json) :
    (make k o message >>= evaluate input) =
      (orFaulty k.name (k.check o) >>= fun _ => k.judge o [] input) := by
  have hprepare := Kind.prepare_eq_check hk o
  cases hc : k.check o with
  | error fault =>
      rw [hc] at hprepare
      rw [make_of_fault hprepare]
      rfl
  | ok u =>
      rw [hc] at hprepare
      rw [make_of_prepared hprepare]
      rfl

/-! ## Operands -/

namespace Operand

/-- Pairing an operand with a field neither makes a number nor takes one away. -/
theorem number_keyedFor_resolve {o : Operand} (ho : o.targetField = none)
    (hmap : ∀ f w, o ≠ .scalar (.obj [(f, w)])) (field : String) (record : Json) :
    ((o.keyedFor field).resolve record).number.toOption = (o.resolve record).number.toOption := by
  cases o with
  | absent | list items => rfl
  | scalar v =>
      rw [keyedFor_scalar fun f w hv => hmap f w (congrArg scalar hv)]
      rfl
  | keyed f v | field f => cases ho

theorem keyedFor_eq_keyed {o : Operand} (ho : o.targetField = none)
    (hmap : ∀ f w, o ≠ .scalar (.obj [(f, w)])) (field : String) :
    ∃ v, o.keyedFor field = .keyed field v := by
  cases o with
  | absent | list items => exact ⟨_, rfl⟩
  | scalar v => exact ⟨v, keyedFor_scalar fun f w hv => hmap f w (congrArg scalar hv)⟩
  | keyed f v | field f => cases ho

end Operand

/-! ## What the families say -/

/-- The family that is run on values. -/
theorem evaluate_count (relation : Relation) (o : Operand) (message : Option String) (v : Json) :
    (Instance.make (.value (.count relation)) o message >>= Instance.evaluate v) =
      (orFaulty (ValueTest.count relation).name o.number >>= fun x =>
        (countOf (ValueTest.count relation).name v).map fun n =>
          relation.holds (Binary64.compareNat n x)) := by
  rw [Instance.make_evaluate_eq (by simp), Kind.check, ValueTest.check, Kind.judge, ValueTest.judge]
  cases o.number with
  | error fault => rfl
  | ok x => cases countOf (ValueTest.count relation).name v <;> rfl

section SimpleField

variable {field : String} (hs : isDotted field = false) (record : Json)

include hs

theorem listSize_simple (name : String) :
    listSize name record field = sizeOf? name (record.get? field) := by
  rw [listSize, hs, if_neg Bool.false_ne_true]

theorem fieldSize_simple (name : String) :
    fieldSize name record field = sizeOf? name (record.get? field) := by
  rw [fieldSize, hs, if_neg Bool.false_ne_true]

/-- The family that is run on records. -/
theorem evaluate_hasCount (relation : Relation) (v : Json) (message : Option String) :
    (Instance.make (.item (.count relation)) (.keyed field v) message >>=
        Instance.evaluate record) =
      (orFaulty (ItemTest.count relation).name (Operand.keyed field v).entry >>= fun _ =>
        orFaulty (ItemTest.count relation).name (Operand.keyed field v).number >>= fun x =>
        requireRecord (ItemTest.count relation).name record >>= fun _ =>
        (sizeOf? (ItemTest.count relation).name (record.get? field)).map fun size =>
          size.any fun n => relation.holds (Binary64.compareNat n x)) := by
  rw [Instance.make_evaluate_eq (by simp), Kind.check, ItemTest.check, Kind.judge]
  by_cases hf : field = ""
  · subst hf
    rfl
  · have hentry := Operand.entry_keyed hf v
    rw [hentry]
    cases hx : (Operand.keyed field v).number with
    | error fault => rfl
    | ok x =>
        change ItemTest.judge _ _ _ = (requireRecord _ _ >>= _)
        rw [ItemTest.judge, orFaulty_of_ok hentry]
        refine bind_congr_ok fun _ _ => ?_
        simp only [ok_bind, orFaulty_of_ok hx, listSize_simple hs]
        cases sizeOf? (ItemTest.count relation).name (record.get? field) <;> rfl

/-- Its tests for a quota. -/
theorem evaluate_has (quota : Quota) (message : Option String) :
    (Instance.make (.field (.has quota)) (.field field) message >>= Instance.evaluate record) =
      (orFaulty (FieldTest.has quota).name (Operand.field field).fieldName >>= fun _ =>
        requireRecord (FieldTest.has quota).name record >>= fun _ =>
        (sizeOf? (FieldTest.has quota).name (record.get? field)).map fun size =>
          size.any quota.holds) := by
  rw [Instance.make_evaluate_eq (by simp), Kind.check, Kind.judge]
  by_cases hf : field = ""
  · subst hf
    rfl
  · have hfield := Operand.fieldName_field hf
    rw [hfield]
    change FieldTest.judge _ _ _ = (requireRecord _ _ >>= _)
    rw [FieldTest.judge, orFaulty_of_ok hfield]
    refine bind_congr_ok fun _ _ => ?_
    simp only [ok_bind, fieldSize_simple hs]
    cases sizeOf? (FieldTest.has quota).name (record.get? field) <;> rfl

end SimpleField

/-! ## Quotas -/

namespace Quota

/-- How a quota relates a number of items to its threshold. -/
def relation : Quota → Relation
  | .atLeastOne => .bound .above
  | .exactlyOne => .equal

def threshold : Quota → Nat
  | .atLeastOne => 0
  | .exactlyOne => 1

theorem holds_eq {quota : Quota} {x : Binary64}
    (hx : x.units = (quota.threshold * Binary64.unitsPerOne : Nat)) (n : Nat) :
    quota.holds n = quota.relation.holds (Binary64.compareNat n x) := by
  have hpos : 0 < Binary64.unitsPerOne := power_pos (by decide) 1074
  rw [Binary64.compareNat, hx, Bool.eq_iff_iff]
  cases quota with
  | atLeastOne =>
      rw [relation, threshold, Relation.holds, Bound.holds_compare_iff, Bound.Relates, Int.ofNat_lt,
        Nat.mul_lt_mul_right hpos]
      exact decide_eq_true_iff
  | exactlyOne =>
      rw [relation, threshold, Relation.holds, beq_iff_eq, Std.compare_eq_iff_eq, Int.ofNat_inj,
        Nat.mul_left_inj hpos.ne']
      exact beq_iff_eq

end Quota

/-! ## Errors -/

theorem mapError_bind {ε ε' α β : Type} (f : ε → ε') (x : Except ε α) (g : α → Except ε β) :
    (x >>= g).mapError f = (x.mapError f >>= fun a => (g a).mapError f) := by
  cases x <;> rfl

theorem mapError_map {ε ε' α β : Type} (f : ε → ε') (x : Except ε α) (g : α → β) :
    (x.map g).mapError f = (x.mapError f).map g := by
  cases x <;> rfl

/-- The error as another capability would report it. -/
def ConfigError.renamed (name : String) : ConfigError → ConfigError
  | .invalidOperand _ fault => .invalidOperand name fault
  | .invalidInput _ fault => .invalidInput name fault
  | e => e

section Renamed

variable (name other : String)

theorem orFaulty_renamed {α : Type} (r : Except OperandFault α) :
    (orFaulty other r).mapError (ConfigError.renamed name) = orFaulty name r := by
  cases r <;> rfl

theorem requireRecord_renamed (v : Json) :
    (requireRecord other v).mapError (ConfigError.renamed name) = requireRecord name v := by
  cases v <;> rfl

theorem sizeOf_renamed (found : Option Json) :
    (sizeOf? other found).mapError (ConfigError.renamed name) = sizeOf? name found := by
  cases found with
  | none => rfl
  | some v => cases v <;> rfl

end Renamed

/-! ## Both families -/

/-- A quota is counted with its threshold, on every input. -/
theorem evaluate_has_eq_hasCount {field : String} (hs : isDotted field = false) {quota : Quota}
    {v : Json} {x : Binary64} (hv : asNumber v = some x)
    (hx : x.units = (quota.threshold * Binary64.unitsPerOne : Nat))
    (message message' : Option String) (record : Json) :
    (Instance.make (.field (.has quota)) (.field field) message >>= Instance.evaluate record) =
      (Instance.make (.item (.count quota.relation)) (.keyed field v) message' >>=
        Instance.evaluate record).mapError (ConfigError.renamed (FieldTest.has quota).name) := by
  have hnumber : (Operand.keyed field v).number = .ok x :=
    Operand.number_eq_ok.mpr ⟨v, hv, .inr ⟨field, rfl⟩⟩
  have hentry : ∀ name, orFaulty name (Operand.field field).fieldName =
      (orFaulty name (Operand.keyed field v).entry).map Prod.fst := by
    intro name
    rw [Operand.fieldName, Operand.entry]
    cases field.isEmpty <;> rfl
  rw [evaluate_has hs, evaluate_hasCount hs, hnumber, orFaulty_of_ok rfl, mapError_bind,
    orFaulty_renamed, hentry, funext (Quota.holds_eq hx)]
  cases orFaulty (FieldTest.has quota).name (Operand.keyed field v).entry with
  | error e => rfl
  | ok entry =>
      simp only [mapError_bind, mapError_map, requireRecord_renamed, sizeOf_renamed]
      rfl

/-- Both families find the same number and the same list. -/
theorem evaluate_count_eq_hasCount {field : String} (hf : field ≠ "") (hs : isDotted field = false)
    {record v w : Json} (hv : record.get? field = some v) (hne : v ≠ .null) {o : Operand}
    (ho : (Operand.keyed field w).number.toOption = o.number.toOption) (relation : Relation)
    (message message' : Option String) :
    (Instance.make (.value (.count relation)) o message >>= Instance.evaluate v).mapError
        ConfigError.kind =
      (Instance.make (.item (.count relation)) (.keyed field w) message' >>=
        Instance.evaluate record).mapError ConfigError.kind := by
  have hrecord : record.isCollection = true := by
    cases record with
    | obj entries => rfl
    | null | bool b | num n | str s | arr items => cases hv
  rw [evaluate_count, evaluate_hasCount hs, Operand.entry_keyed hf, hv,
    requireRecord_of_isCollection hrecord]
  cases hx : o.number with
  | error fault =>
      cases hx' : (Operand.keyed field w).number with
      | error fault' => rfl
      | ok x => simp [hx, hx', Except.toOption] at ho
  | ok x =>
      rw [hx] at ho
      rw [toOption_eq_some.mp ho]
      cases v with
      | null => exact absurd rfl hne
      | bool b | num n | str s | arr items | obj entries => rfl

/-- What an evaluation records, or the kind of the error that it ends in. -/
def recordedOrKind (r : Except ConfigError Report) :
    Except String (List (String × List Bool)) :=
  (r.map fun report => report.fields.map fun o => (o.field, o.evaluated)).mapError
    ConfigError.kind

/-- The set of one validator records what its capability says about what the field
stands for. -/
theorem recordedOrKind_addBinding {field : String} {k : Kind} {o : Operand} {record value : Json}
    (hv : ∀ i : Instance, i.operand = o.resolve record →
      ValidatorSet.subject field i record = value)
    (message : Option String) (strict : StrictMode) :
    recordedOrKind (((ValidatorSet.empty.setStrict strict).addBinding field
        ⟨.ofKind k, o, message⟩).evaluate record) =
      ((Instance.make k (o.resolve record) message >>= Instance.evaluate value).mapError
        ConfigError.kind).map fun passed => [(field, [passed])] := by
  have hmade : (Binding.mk (.ofKind k) o message).materialize record =
      Instance.make k (o.resolve record) message := rfl
  rw [recordedOrKind, ValidatorSet.evaluate_addBinding_empty, hmade, mapError_map]
  refine congrArg (Except.map _ <| Except.mapError _ ·) (bind_congr_ok fun i hi => ?_)
  rw [hv i (Instance.operand_make hi)]

/-- **The two families of counts agree.** On a field of the record that is there and
not null, a validator that counts its value and one that counts the field in the
record, declared with one operand, record the same boolean or fail with an error
of the same kind; whether the operand is a value, a list or nothing, and with
what it refers to put in its place. And whether the field is there or not, to hold
one item at least or only one is to hold a number of items, up to the name of the
capability in an error. -/
theorem counting_families_agree {field : String} (hs : isDotted field = false) :
    (∀ record v, field ≠ "" → record.get? field = some v → v ≠ .null →
      ∀ o : Operand, o.targetField = none → (∀ f w, o ≠ .scalar (.obj [(f, w)])) →
      ∀ relation message message' strict,
        ∃ s s', (ValidatorSet.empty.setStrict strict).addValidator field
              (ValueTest.count relation).name o message = .ok s
          ∧ (ValidatorSet.empty.setStrict strict).addValidator field
              (ItemTest.count relation).name o message' = .ok s'
          ∧ recordedOrKind (s.evaluate record) = recordedOrKind (s'.evaluate record))
    ∧ (∀ (quota : Quota) v x, asNumber v = some x →
      x.units = (quota.threshold * Binary64.unitsPerOne : Nat) →
      ∀ message message' record,
        (Instance.make (.field (.has quota)) (.field field) message >>=
            Instance.evaluate record) =
          (Instance.make (.item (.count quota.relation)) (.keyed field v) message' >>=
            Instance.evaluate record).mapError
              (ConfigError.renamed (FieldTest.has quota).name)) := by
  constructor
  · intro record v hf hv hne o ho hmap relation message message' strict
    obtain ⟨w, hw⟩ := Operand.keyedFor_eq_keyed ho hmap field
    have hresolve : (ValidatorSet.empty.setStrict strict).registry.resolve
        (ItemTest.count relation).name = .ok (.ofKind (.item (.count relation))) :=
      Registry.builtin_resolve (.item (.count relation))
    have hnumber := Operand.number_keyedFor_resolve ho hmap field record
    rw [hw] at hnumber
    refine ⟨_, _, ValidatorSet.addValidator_builtin strict field
      (k := .value (.count relation)) rfl message,
      ValidatorSet.addValidator_of_resolve hresolve hw message', ?_⟩
    have hvalue : ∀ i : Instance, i.operand = o.resolve record →
        ValidatorSet.subject field i record = v := by
      intro i hi
      rw [ValidatorSet.subject, hi, Operand.targetField_resolve, ho, hs, hv]
      cases v with
      | null => exact absurd rfl hne
      | bool b | num n | str s | arr items | obj entries => rfl
    have hrecord : ∀ i : Instance, i.operand = (Operand.keyed field w).resolve record →
        ValidatorSet.subject field i record = record := by
      intro i hi
      rw [ValidatorSet.subject, hi]
      rfl
    rw [recordedOrKind_addBinding hvalue, recordedOrKind_addBinding hrecord]
    exact congrArg (Except.map _) (evaluate_count_eq_hasCount hf hs hv hne hnumber relation ..)
  · intro quota v x hv hx message message' record
    exact evaluate_has_eq_hasCount hs hv hx message message' record

/-- Two tags, and how many there may be. -/
def recordOfTags : Json :=
  .obj [("tags", .arr [.str "a", .str "b"]), ("limit", .str "3")]

/-- The limit is referred to; the quota of one is not met. -/
theorem counting_families_agree_on_tags :
    (∃ s s', ValidatorSet.empty.addValidator "tags" "CountLessThanEqual"
          (.scalar (.str "[limit]")) = .ok s
        ∧ ValidatorSet.empty.addValidator "tags" "HasCountLessThanEqual"
          (.scalar (.str "[limit]")) = .ok s'
        ∧ recordedOrKind (s.evaluate recordOfTags) = .ok [("tags", [true])]
        ∧ recordedOrKind (s'.evaluate recordOfTags) = .ok [("tags", [true])])
      ∧ (Instance.make (.field (.has .exactlyOne)) (.field "tags") none >>=
            Instance.evaluate recordOfTags) =
          (Instance.make (.item (.count .equal)) (.keyed "tags" (.str "1.0")) none >>=
            Instance.evaluate recordOfTags).mapError (ConfigError.renamed "HasOnlyOne") := by
  have hrun : ((ValidatorSet.empty.addValidator "tags" "CountLessThanEqual"
      (.scalar (.str "[limit]"))).toOption.bind fun s =>
        (recordedOrKind (s.evaluate recordOfTags)).toOption) = some [("tags", [true])] := by
    decide +kernel
  have hone : (asNumber (.str "1.0")).any (fun x =>
      x.units == ((Quota.exactlyOne.threshold * Binary64.unitsPerOne : Nat) : Int)) = true := by
    decide +kernel
  obtain ⟨x, hx, hone⟩ := (Option.any_eq_true _ _).mp hone
  obtain ⟨hsets, hquota⟩ := counting_families_agree (show isDotted "tags" = false by decide)
  obtain ⟨s, s', hs, hs', heq⟩ := hsets recordOfTags _ (by decide) rfl (by simp)
    (.scalar (.str "[limit]")) rfl (by simp) (.bound .atMost) none none .both
  have hrecorded : recordedOrKind (s.evaluate recordOfTags) = .ok [("tags", [true])] := by
    obtain ⟨t, ht, hrun⟩ := Option.bind_eq_some_iff.mp hrun
    obtain rfl : t = s := Except.ok.inj ((toOption_eq_some.mp ht).symm.trans hs)
    exact toOption_eq_some.mp hrun
  exact ⟨⟨s, s', hs, hs', hrecorded, heq.symm.trans hrecorded⟩,
    hquota .exactlyOne _ x hx (eq_of_beq hone) none none recordOfTags⟩

end RecordRules
