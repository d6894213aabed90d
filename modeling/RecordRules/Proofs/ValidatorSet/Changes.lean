import RecordRules.Proofs.Attempts

/-!
# What changes do to a set

Later proofs look at a set through its views: the fields that are declared
and loaded, and for a field its bindings, its loaded instances and how many of
the bindings have one. This file says what the two ways to alter a set
(`addBinding`, `addInstances`) do to every view, and from that what a change
does (`bindings_apply`, `instances_apply`, `materialized_apply`).
-/

namespace RecordRules

namespace ValidatorSet

/-! ## Adding a binding -/

section AddBinding

variable (s : ValidatorSet) (field : String) (b : Binding)

theorem declaredField?_addBinding_self :
    (s.addBinding field b).declaredField? field =
      some (.append b ((s.declaredField? field).getD { field })) := by
  refine KeyedList.find?_update_self ?_ ?_ s.declared
  · rfl
  · exact fun _ h => h

theorem fields_addBinding :
    (s.addBinding field b).fields =
      if field ∈ s.fields then s.fields else s.fields ++ [field] := by
  refine KeyedList.map_key_update ?_ ?_ s.declared
  · rfl
  · exact fun _ h => h

theorem bindings_addBinding_self :
    (s.addBinding field b).bindings field = s.bindings field ++ [b] := by
  rw [bindings, declaredField?_addBinding_self, bindings]
  cases s.declaredField? field <;> rfl

theorem declaredField?_addBinding_of_ne {other : String} (h : other ≠ field) :
    (s.addBinding field b).declaredField? other = s.declaredField? other := by
  refine KeyedList.find?_update_of_ne h ?_ ?_ s.declared
  · rfl
  · exact fun _ h => h

theorem bindings_addBinding_of_ne {other : String} (h : other ≠ field) :
    (s.addBinding field b).bindings other = s.bindings other := by
  rw [bindings, declaredField?_addBinding_of_ne s field b h, bindings]

theorem nodup_fields_addBinding (h : s.fields.Nodup) : (s.addBinding field b).fields.Nodup := by
  refine KeyedList.nodup_update ?_ ?_ h
  · rfl
  · exact fun _ h => h

end AddBinding

/-! ## Adding instances -/

/-- The fields with loaded instances, in order. -/
def loadedFields (s : ValidatorSet) : List String := s.loaded.map LoadedField.field

section AddInstances

variable (s : ValidatorSet) (field : String) (is : List Instance) (n : Nat)

theorem loadedFields_addInstances :
    (s.addInstances field is n).loadedFields =
      if field ∈ s.loadedFields then s.loadedFields else s.loadedFields ++ [field] := by
  refine KeyedList.map_key_update ?_ ?_ s.loaded
  · rfl
  · exact fun _ h => h

theorem loadedField?_addInstances_self :
    (s.addInstances field is n).loadedField? field =
      some (.extend is n ((s.loadedField? field).getD { field })) := by
  refine KeyedList.find?_update_self ?_ ?_ s.loaded
  · rfl
  · exact fun _ h => h

theorem loadedField?_addInstances_of_ne {other : String} (h : other ≠ field) :
    (s.addInstances field is n).loadedField? other = s.loadedField? other := by
  refine KeyedList.find?_update_of_ne h ?_ ?_ s.loaded
  · rfl
  · exact fun _ h => h

theorem instances_addInstances_self :
    (s.addInstances field is n).instances field = s.instances field ++ is := by
  rw [instances, loadedField?_addInstances_self, instances]
  cases s.loadedField? field <;> rfl

theorem instances_addInstances_of_ne {other : String} (h : other ≠ field) :
    (s.addInstances field is n).instances other = s.instances other := by
  rw [instances, loadedField?_addInstances_of_ne s field is n h, instances]

theorem materialized_addInstances_self :
    (s.addInstances field is n).materialized field = s.materialized field + n := by
  rw [materialized, loadedField?_addInstances_self, materialized]
  cases s.loadedField? field <;> simp [LoadedField.extend]

theorem materialized_addInstances_of_ne {other : String} (h : other ≠ field) :
    (s.addInstances field is n).materialized other = s.materialized other := by
  rw [materialized, loadedField?_addInstances_of_ne s field is n h, materialized]

theorem nodup_loadedFields_addInstances (h : s.loadedFields.Nodup) :
    (s.addInstances field is n).loadedFields.Nodup := by
  refine KeyedList.nodup_update ?_ ?_ h
  · rfl
  · exact fun _ h => h

end AddInstances

/-! ## Changes -/

section Apply

variable (s : ValidatorSet) (c : Change) (field : String)

@[simp] theorem registry_apply : (s.apply c).registry = s.registry := by
  cases c <;> rfl

theorem bindings_apply :
    (s.apply c).bindings field = s.bindings field ++ (c.bindingOn? field).toList := by
  cases c with
  | bind f b =>
      by_cases h : f = field
      · subst h
        simpa [apply, Change.bindingOn?] using bindings_addBinding_self s f b
      · simpa [apply, Change.bindingOn?, h] using bindings_addBinding_of_ne s f b (Ne.symm h)
  | load f is => exact (List.append_nil _).symm
  | gate c => exact (List.append_nil _).symm
  | strict mode => exact (List.append_nil _).symm

theorem instances_apply :
    (s.apply c).instances field = s.instances field ++ c.instancesOn field := by
  cases c with
  | bind f b => exact (List.append_nil _).symm
  | load f is =>
      by_cases h : f = field
      · subst h
        simpa [apply, Change.instancesOn] using instances_addInstances_self s f is 0
      · simpa [apply, Change.instancesOn, h] using instances_addInstances_of_ne s f is 0 (Ne.symm h)
  | gate c => exact (List.append_nil _).symm
  | strict mode => exact (List.append_nil _).symm

theorem materialized_apply : (s.apply c).materialized field = s.materialized field := by
  cases c with
  | bind f b => rfl
  | load f is =>
      by_cases h : f = field
      · subst h
        exact materialized_addInstances_self s f is 0
      · exact materialized_addInstances_of_ne s f is 0 (Ne.symm h)
  | gate c => rfl
  | strict mode => rfl

theorem nodup_fields_apply (h : s.fields.Nodup) : (s.apply c).fields.Nodup := by
  cases c with
  | bind f b => exact nodup_fields_addBinding s f b h
  | load f is => exact h
  | gate c => exact h
  | strict mode => exact h

theorem nodup_loadedFields_apply (h : s.loadedFields.Nodup) :
    (s.apply c).loadedFields.Nodup := by
  cases c with
  | bind f b => exact h
  | load f is => exact nodup_loadedFields_addInstances s f is 0 h
  | gate c => exact h
  | strict mode => exact h

end Apply

@[simp] theorem registry_applyAll (s : ValidatorSet) (cs : List Change) :
    (s.applyAll cs).registry = s.registry := by
  induction cs generalizing s with
  | nil => rfl
  | cons c cs ih => exact (ih (s.apply c)).trans (registry_apply s c)

@[simp] theorem registry_tryAll (s : ValidatorSet) (rs : List (Except ConfigError Change)) :
    (s.tryAll rs).1.registry = s.registry := registry_applyAll s _

theorem materialized_applyAll (s : ValidatorSet) (cs : List Change) (field : String) :
    (s.applyAll cs).materialized field = s.materialized field := by
  induction cs generalizing s with
  | nil => rfl
  | cons c cs ih => exact (ih (s.apply c)).trans (s.materialized_apply c field)

theorem strict_applyAll {s : ValidatorSet} {cs : List Change} (h : ∀ mode, .strict mode ∉ cs) :
    (s.applyAll cs).strict = s.strict := by
  induction cs generalizing s with
  | nil => rfl
  | cons c cs ih =>
      have hc : (s.apply c).strict = s.strict := by
        cases c with
        | bind field b => rfl
        | load field is => rfl
        | gate k => rfl
        | strict mode => exact absurd (List.mem_cons_self ..) (h mode)
      exact (ih fun mode hm => h mode (List.mem_cons_of_mem _ hm)).trans hc

theorem applyAll_append (s : ValidatorSet) (cs ds : List Change) :
    s.applyAll (cs ++ ds) = (s.applyAll cs).applyAll ds := List.foldl_append

end ValidatorSet

/-! ## Bindings and instances among changes -/

theorem mem_declaredOn {field : String} {changes : List Change} {b : Binding} :
    b ∈ declaredOn field changes ↔ .bind field b ∈ changes := by
  rw [declaredOn, List.mem_filterMap]
  constructor
  · rintro ⟨c, hc, hb⟩
    cases c with
    | bind f b' =>
        rw [Change.bindingOn?] at hb
        split at hb
        next hf =>
          cases hb
          rwa [hf] at hc
        next => cases hb
    | load f is => cases hb
    | gate k => cases hb
    | strict mode => cases hb
  · intro h
    exact ⟨_, h, if_pos rfl⟩

theorem mem_loadedOn {field : String} {changes : List Change} {i : Instance} :
    i ∈ loadedOn field changes ↔ ∃ is, .load field is ∈ changes ∧ i ∈ is := by
  rw [loadedOn, List.mem_flatMap]
  constructor
  · rintro ⟨c, hc, hi⟩
    cases c with
    | bind f b => cases hi
    | load f is =>
        rw [Change.instancesOn] at hi
        split at hi
        next hf =>
          cases hf
          exact ⟨is, hc, hi⟩
        next => cases hi
    | gate k => cases hi
    | strict mode => cases hi
  · rintro ⟨is, hc, hi⟩
    refine ⟨_, hc, ?_⟩
    rwa [Change.instancesOn, if_pos rfl]

namespace Change

theorem declaring_eq_ok {registry : Registry} {field capability : String} {value : Operand}
    {message : Option String} {c : Change}
    (h : declaring registry field capability value message = .ok c) : ∃ b, c = .bind field b := by
  obtain ⟨b, -, h⟩ := bind_eq_ok.mp h
  cases h
  exact ⟨b, rfl⟩

theorem declaringEntry_eq_ok {registry : Registry} {entry : RuleEntry} {c : Change}
    (h : declaringEntry registry entry = .ok c) : ∃ field b, c = .bind field b := by
  obtain ⟨r, -, h⟩ := bind_eq_ok.mp h
  exact ⟨r.field, declaring_eq_ok h⟩

theorem gating_eq_ok {registry : Registry} {entry : RuleEntry} {c : Change}
    (h : gating registry entry = .ok c) : ∃ k, c = .gate k := by
  obtain ⟨r, -, h⟩ := bind_eq_ok.mp h
  obtain ⟨k, -, h⟩ := bind_eq_ok.mp h
  cases h
  exact ⟨k, rfl⟩

end Change

end RecordRules
