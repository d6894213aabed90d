import RecordRules.Proofs.ValidatorSet.Further

/-!
# Loading early

A bulk load makes instances before there is any evaluation, field by field,
and may stop at a field that fails. It cannot be seen from outside: a record
is evaluated as if nothing had been loaded, provided that the records of the
loads resolve the declared operands as that record does
(`evaluate_early_loaded`).

The invariant is `Ahead`: the loaded fields are the first ones that are
declared, and the instances of a field are what its first bindings come to for
the record. Such a set runs its fields in the order of their declaration
(`runOrder_eq_fields`), and an instance is run as its binding would be, so the
set evaluates the record like the set with nothing loaded (`evaluate_unloaded`).
Declarations keep the invariant because they only add behind what is loaded
(`Ahead.apply`). A bulk load keeps it because at every field either the field
is loaded already or exactly the fields before it are (`Ahead.reached`).
-/

namespace RecordRules

namespace ValidatorSet

/-- The set with nothing loaded. -/
def unloaded (s : ValidatorSet) : ValidatorSet := { s with loaded := [] }

/-- The operands that the set declares come to the same for both records. -/
def ResolvesAlike (s : ValidatorSet) (r record : Json) : Prop :=
  ∀ field, ∀ b ∈ s.bindings field, b.value.resolve r = b.value.resolve record

/-- Every bulk load among the steps is against a record for which the operands
declared by then come to what they come to for the given one. -/
def LoadsAlike (s : ValidatorSet) (steps : List BuildStep) (record : Json) : Prop :=
  ∀ before r after, steps = before ++ .loadValidators r :: after →
    (s.takeAll before).ResolvesAlike r record

theorem resolvesAlike_of_declared {s : ValidatorSet} {r record : Json}
    (h : ∀ d ∈ s.declared, ∀ b ∈ d.bindings, b.value.resolve r = b.value.resolve record) :
    s.ResolvesAlike r record := by
  intro field b hb
  cases hd : s.declaredField? field with
  | none => simp [bindings, hd] at hb
  | some d =>
      rw [bindings, hd] at hb
      exact h d (List.mem_of_find?_eq_some hd) b hb

theorem LoadsAlike.nil (s : ValidatorSet) (record : Json) : LoadsAlike s [] record := by
  intro before r after h
  simp at h

theorem LoadsAlike.cons_iff {s : ValidatorSet} {st : BuildStep} {steps : List BuildStep}
    {record : Json} : LoadsAlike s (st :: steps) record ↔
      (∀ r, st = .loadValidators r → s.ResolvesAlike r record) ∧
        LoadsAlike (s.take st).1 steps record := by
  constructor
  · intro h
    refine ⟨?_, ?_⟩
    · rintro r rfl
      exact h [] r steps rfl
    · intro before r after hsteps
      exact h (st :: before) r after (congrArg (st :: ·) hsteps)
  · rintro ⟨hst, hsteps⟩ before r after heq
    cases before with
    | nil =>
        obtain ⟨rfl, -⟩ := List.cons_eq_cons.mp heq
        exact hst r rfl
    | cons st' before =>
        obtain ⟨rfl, htail⟩ := List.cons_eq_cons.mp heq
        exact hsteps before r after htail

/-! ## The order of the fields -/

/-- If the first fields are the loaded ones, the fields are run in the order
of their declaration. -/
theorem runOrder_eq_fields {s : ValidatorSet} (hd : s.fields.Nodup)
    (hp : s.loadedFields <+: s.fields) : s.runOrder = s.fields := by
  obtain ⟨rest, hrf⟩ := hp
  rw [← hrf, List.nodup_append] at hd
  rw [runOrder, ← hrf, List.filter_append, List.filter_eq_nil_iff.mpr, List.filter_eq_self.mpr,
    List.nil_append]
  · intro f hf
    have hnot : f ∉ s.loadedFields := fun hm => hd.2.2 f hm f hf rfl
    simpa [← s.isLoaded_iff] using hnot
  · intro f hf
    simpa using s.isLoaded_iff.mpr hf

theorem mem_fields_apply (s : ValidatorSet) {c : Change} {field : String}
    (h : field ∈ (s.apply c).fields) : field ∈ s.fields ∨ ∃ b, c = .bind field b := by
  cases c with
  | bind f b =>
      rw [apply, fields_addBinding] at h
      split at h
      · exact .inl h
      · rcases List.mem_append.mp h with h | h
        · exact .inl h
        · cases List.mem_singleton.mp h
          exact .inr ⟨b, rfl⟩
  | load f is => exact .inl h
  | gate k => exact .inl h
  | strict mode => exact .inl h

/-- Every field that is declared has a binding. -/
theorem bindings_ne_nil_apply (s : ValidatorSet) (c : Change)
    (h : ∀ field ∈ s.fields, s.bindings field ≠ []) :
    ∀ field ∈ (s.apply c).fields, (s.apply c).bindings field ≠ [] := by
  intro field hf
  rw [s.bindings_apply]
  rcases s.mem_fields_apply hf with hf | ⟨b, rfl⟩
  · exact List.append_ne_nil_of_left_ne_nil (h field hf) _
  · simp [Change.bindingOn?]

/-! ## Making instances -/

/-- Records that resolve the operands alike make the same instances of pending
bindings. -/
theorem mapM_pending_congr (s : ValidatorSet) {r record : Json} (h : s.ResolvesAlike r record)
    {field : String} : (s.pending field).mapM (Binding.materialize r) =
      (s.pending field).mapM (Binding.materialize record) := by
  refine mapM_congr fun b hb => ?_
  rw [Binding.materialize, h field b (List.mem_of_mem_drop hb)]
  rfl

end ValidatorSet

/-! ## The invariant -/

open ValidatorSet (runOrder_eq_fields pending LoadsAlike)

/-- The first fields of a set are loaded, and what is loaded for a field is
what its first bindings come to for a record. -/
structure Ahead (record : Json) (s : ValidatorSet) : Prop where
  nodup_fields : s.fields.Nodup
  bindings_ne_nil : ∀ field ∈ s.fields, s.bindings field ≠ []
  loaded_prefix : s.loadedFields <+: s.fields
  materialized_le : ∀ field, s.materialized field ≤ (s.bindings field).length
  instances_eq : ∀ field,
    ((s.bindings field).take (s.materialized field)).mapM (Binding.materialize record) =
      .ok (s.instances field)

namespace Ahead

variable {record : Json} {s : ValidatorSet}

/-! ## What the invariant is for -/

theorem unloaded (h : Ahead record s) : Ahead record s.unloaded where
  nodup_fields := h.nodup_fields
  bindings_ne_nil := h.bindings_ne_nil
  loaded_prefix := List.nil_prefix
  materialized_le _ := Nat.zero_le _
  instances_eq _ := rfl

/-- The set is further than the one with nothing loaded, by the instances of
its first bindings. -/
theorem further (h : Ahead record s) : Further record s.bindings s.unloaded s where
  frame := rfl
  order := by
    rw [runOrder_eq_fields h.nodup_fields h.loaded_prefix,
      runOrder_eq_fields h.unloaded.nodup_fields h.unloaded.loaded_prefix]
    rfl
  on field := by
    refine ⟨_, _, List.take_subset _ _, h.instances_eq field, ?_, rfl⟩
    exact (List.take_append_drop (s.materialized field) (s.bindings field)).symm

/-- **A set that is ahead evaluates the record as if nothing were loaded.** -/
theorem evaluate_unloaded (h : Ahead record s) :
    s.evaluate record = s.unloaded.evaluate record :=
  h.further.evaluate_eq h.nodup_fields List.nodup_nil
    (h.nodup_fields.sublist h.loaded_prefix.sublist)

/-! ## What keeps the invariant -/

theorem withRegistry (record : Json) (registry : Registry) :
    Ahead record (.withRegistry registry) where
  nodup_fields := List.nodup_nil
  bindings_ne_nil _ hf := by cases hf
  loaded_prefix := List.nil_prefix
  materialized_le _ := Nat.le_refl 0
  instances_eq _ := rfl

/-- Declarations, conditions and the strictness add nothing before what is
loaded. -/
theorem apply (h : Ahead record s) {c : Change} (hc : c.isLoad = false) :
    Ahead record (s.apply c) where
  nodup_fields := s.nodup_fields_apply c h.nodup_fields
  bindings_ne_nil := s.bindings_ne_nil_apply c h.bindings_ne_nil
  loaded_prefix := by
    cases c with
    | bind field b =>
        refine h.loaded_prefix.trans ?_
        rw [ValidatorSet.apply, s.fields_addBinding]
        split
        · exact List.prefix_rfl
        · exact List.prefix_append ..
    | load field is => cases hc
    | gate k => exact h.loaded_prefix
    | strict mode => exact h.loaded_prefix
  materialized_le field := by
    rw [s.materialized_apply, s.bindings_apply, List.length_append]
    exact Nat.le_add_right_of_le (h.materialized_le field)
  instances_eq field := by
    have hnone : c.instancesOn field = [] := by
      cases c with
      | load field is => cases hc
      | bind field b => rfl
      | gate k => rfl
      | strict mode => rfl
    rw [s.materialized_apply, s.bindings_apply, s.instances_apply, hnone, List.append_nil,
      List.take_append_of_le_length (h.materialized_le field)]
    exact h.instances_eq field

theorem applyAll (h : Ahead record s) {cs : List Change} (hcs : ∀ c ∈ cs, c.isLoad = false) :
    Ahead record (s.applyAll cs) := by
  induction cs generalizing s with
  | nil => exact h
  | cons c cs ih =>
      exact ih (h.apply (hcs c (List.mem_cons_self ..)))
        fun d hd => hcs d (List.mem_cons_of_mem _ hd)

/-- A bulk load comes to a field that is loaded or is the next to be. -/
theorem fill (h : Ahead record s) {field : String} {is : List Instance}
    (his : (s.pending field).mapM (Binding.materialize record) = .ok is)
    (hnext : field ∈ s.loadedFields ∨ s.loadedFields ++ [field] <+: s.fields) :
    Ahead record (s.addInstances field is is.length) where
  nodup_fields := h.nodup_fields
  bindings_ne_nil := h.bindings_ne_nil
  loaded_prefix := by
    rw [s.loadedFields_addInstances]
    split
    next => exact h.loaded_prefix
    next hf => exact hnext.resolve_left hf
  materialized_le := s.materialized_fill_le his h.materialized_le
  instances_eq other := by
    have heq := h.instances_eq other
    by_cases hof : other = field
    · subst hof
      rw [s.materialized_addInstances_self, s.instances_addInstances_self]
      change ((s.bindings other).take _).mapM _ = _
      rw [(s.take_materialized_add his (h.materialized_le other)).2]
      exact mapM_eq_ok.mpr (List.rel_append (mapM_eq_ok.mp heq) (mapM_eq_ok.mp his))
    · rw [s.materialized_addInstances_of_ne field is _ hof,
        s.instances_addInstances_of_ne field is _ hof]
      exact heq

/-- When a bulk load comes to a field, either the fields before it are those
that are loaded, or it is loaded itself. -/
theorem reached (h : Ahead record s) {done rest : List String} {field : String}
    (hf : s.fields = done ++ field :: rest) (hdone : done <+: s.loadedFields) :
    (s.loadedFields = done ∧ field ∉ s.loadedFields) ∨ done ++ [field] <+: s.loadedFields := by
  obtain ⟨more, hmore⟩ := hdone
  have hp := h.loaded_prefix
  rw [← hmore, hf, List.prefix_append_right_inj] at hp
  rw [← hmore, List.prefix_append_right_inj]
  cases more with
  | nil =>
      left
      have hnd := h.nodup_fields
      rw [hf, List.nodup_append] at hnd
      rw [List.append_nil]
      exact ⟨rfl, fun hm => hnd.2.2 field hm field (List.mem_cons_self ..) rfl⟩
  | cons g more =>
      right
      obtain ⟨rfl, -⟩ := List.cons_prefix_cons.mp hp
      exact List.prefix_append [g] more

/-- The invariant holds wherever a bulk load stops: the fields it is done with
are loaded. -/
theorem loadFields (h : Ahead record s) {r : Json} (hr : s.ResolvesAlike r record)
    {done rest : List String} (hf : s.fields = done ++ rest) (hdone : done <+: s.loadedFields) :
    Ahead record (runBatch (ValidatorSet.loadField r) s rest).1 := by
  induction rest generalizing s done with
  | nil => exact h
  | cons f rest ih =>
      cases ht : ValidatorSet.loadField r s f with
      | error e => rwa [runBatch_of_error ht]
      | ok t =>
          rw [runBatch_of_ok ht]
          obtain ⟨is, his, rfl⟩ := s.loadField_eq_ok.mp ht
          rw [s.mapM_pending_congr hr] at his
          have hf' : s.fields = done ++ [f] ++ rest := by rw [hf, List.append_assoc]; rfl
          have hlast : f ∈ done ++ [f] := List.mem_append_right _ (List.mem_singleton.mpr rfl)
          rcases h.reached hf hdone with ⟨hl, hnot⟩ | hl
          · have hsome : ¬ is.isEmpty = true := by
              intro hempty
              rw [List.isEmpty_iff.mp hempty, mapM_eq_ok, List.forall₂_nil_right_iff] at his
              exact hnot (ValidatorSet.mem_loadedFields_of_pending
                (h.bindings_ne_nil f (hf' ▸ List.mem_append_left rest hlast)) his)
            have hnext : s.loadedFields ++ [f] <+: s.fields := by
              rw [hl, hf']
              exact List.prefix_append ..
            rw [if_neg hsome]
            have hafter : (s.addInstances f is is.length).loadedFields = done ++ [f] := by
              rw [s.loadedFields_addInstances, if_neg hnot, hl]
            exact ih (h.fill his (.inr hnext)) hr hf' (hafter ▸ List.prefix_rfl)
          · have hmem : f ∈ s.loadedFields := hl.subset hlast
            split
            · exact ih h hr hf' hl
            · refine ih (h.fill his (.inl hmem)) hr hf' ?_
              rwa [s.loadedFields_addInstances, if_pos hmem]

theorem take (h : Ahead record s) {st : BuildStep} (hd : st.loadsDirectly = false)
    (hr : ∀ r, st = .loadValidators r → s.ResolvesAlike r record) :
    Ahead record (s.take st).1 := by
  cases hb : st.bulkRecord? with
  | none =>
      rw [s.take_eq_tryAll hb]
      exact h.applyAll fun c hc => BuildStep.isLoad_changes hd hc
  | some r =>
      obtain rfl := BuildStep.eq_loadValidators hb
      rw [s.take_loadValidators]
      exact h.loadFields (hr r rfl) (List.nil_append _).symm List.nil_prefix

theorem takeAll (h : Ahead record s) {steps : List BuildStep}
    (hd : ∀ st ∈ steps, st.loadsDirectly = false) (hr : LoadsAlike s steps record) :
    Ahead record (s.takeAll steps) := by
  induction steps generalizing s with
  | nil => exact h
  | cons st steps ih =>
      obtain ⟨hst, hsteps⟩ := LoadsAlike.cons_iff.mp hr
      exact ih (h.take (hd st (List.mem_cons_self ..)) hst)
        (fun st' hst' => hd st' (List.mem_cons_of_mem _ hst')) hsteps

end Ahead

/-! ## Building without the loads -/

namespace ValidatorSet

theorem unloaded_applyAll (s : ValidatorSet) {cs : List Change}
    (hcs : ∀ c ∈ cs, c.isLoad = false) : (s.applyAll cs).unloaded = s.unloaded.applyAll cs := by
  induction cs generalizing s with
  | nil => rfl
  | cons c cs ih =>
      have hc : (s.apply c).unloaded = s.unloaded.apply c := by
        cases c with
        | bind field b => rfl
        | load field is => cases hcs _ (List.mem_cons_self ..)
        | gate k => rfl
        | strict mode => rfl
      refine (ih (s.apply c) fun d hd => hcs d (List.mem_cons_of_mem _ hd)).trans ?_
      rw [hc]
      rfl

theorem unloaded_take (s : ValidatorSet) {st : BuildStep} (hd : st.loadsDirectly = false) :
    (s.take st).1.unloaded = if st.isBulkLoad then s.unloaded else (s.unloaded.take st).1 := by
  cases hb : st.bulkRecord? with
  | none =>
      rw [s.take_eq_tryAll hb, s.unloaded.take_eq_tryAll hb, BuildStep.isBulkLoad, hb]
      exact s.unloaded_applyAll fun c hc => BuildStep.isLoad_changes hd hc
  | some r =>
      obtain rfl := BuildStep.eq_loadValidators hb
      rw [s.take_loadValidators, s.loadFields_frame]
      rfl

theorem unloaded_takeAll (s : ValidatorSet) {steps : List BuildStep}
    (hd : ∀ st ∈ steps, st.loadsDirectly = false) :
    (s.takeAll steps).unloaded =
      s.unloaded.takeAll (steps.filter fun st => !st.isBulkLoad) := by
  induction steps generalizing s with
  | nil => rfl
  | cons st steps ih =>
      have htake := s.unloaded_take (hd st (List.mem_cons_self ..))
      refine (ih (s.take st).1 fun st' hst' => hd st' (List.mem_cons_of_mem _ hst')).trans ?_
      rw [htake]
      cases hb : st.isBulkLoad with
      | true => rw [List.filter_cons_of_neg (by simp [hb])]; rfl
      | false => rw [List.filter_cons_of_pos (by simp [hb])]; rfl

end ValidatorSet

/-- **Loading early cannot be seen.** Bulk loads, wherever they stand among
the steps and whether they succeed or stop at some field, leave the evaluation
of a record as it is without them, report or error, if their records resolve
the operands declared by then as that record does. -/
theorem evaluate_early_loaded (registry : Registry) (record : Json) (steps : List BuildStep)
    (hdirect : ∀ st ∈ steps, st.loadsDirectly = false)
    (halike : LoadsAlike (.withRegistry registry) steps record) :
    ((ValidatorSet.withRegistry registry).takeAll steps).evaluate record =
      ((ValidatorSet.withRegistry registry).takeAll
        (steps.filter fun st => !st.isBulkLoad)).evaluate record := by
  have h := (Ahead.withRegistry record registry).takeAll hdirect halike
  rw [h.evaluate_unloaded, ValidatorSet.unloaded_takeAll _ hdirect]
  rfl

/-- Steps that load between declarations, against a record that only has the
length that one of the operands refers to. -/
def stepsWithEarlyLoads (n : String) : List BuildStep :=
  [.addValidatorFromRule "a:not_empty", .addValidatorFromRule "b:length:[n]",
    .loadValidators (.obj [("n", .str n)]), .addValidatorFromRule "a:alpha",
    .loadValidators (.obj [("n", .str n)]), .addValidatorFromRule "c:alpha"]

/-- A record with that length and with all the fields. -/
def recordOfLength (n : String) : Json :=
  .obj [("c", .str "z"), ("b", .str "xyz"), ("n", .str n), ("a", .str "x")]

/-- The loads stop at the second field if the length is no number, and the
evaluation errs there. -/
theorem evaluate_early_loaded_by_length :
    ((ValidatorSet.withRegistry .builtin).takeAll (stepsWithEarlyLoads "3")).evaluate
        (recordOfLength "3") =
      ((ValidatorSet.withRegistry .builtin).takeAll
        ((stepsWithEarlyLoads "3").filter fun st => !st.isBulkLoad)).evaluate (recordOfLength "3")
    ∧ ((ValidatorSet.withRegistry .builtin).takeAll (stepsWithEarlyLoads "many")).evaluate
        (recordOfLength "many") =
      ((ValidatorSet.withRegistry .builtin).takeAll
        ((stepsWithEarlyLoads "many").filter fun st => !st.isBulkLoad)).evaluate
          (recordOfLength "many") := by
  have hdirect : ∀ n, ∀ st ∈ stepsWithEarlyLoads n, st.loadsDirectly = false := by
    simp [stepsWithEarlyLoads, BuildStep.loadsDirectly]
  have hloads : ∀ n ∈ ["3", "many"],
      LoadsAlike (.withRegistry .builtin) (stepsWithEarlyLoads n) (recordOfLength n) := by
    intro n hn
    simp only [stepsWithEarlyLoads, LoadsAlike.cons_iff, reduceCtorEq, false_implies,
      implies_true, true_and, BuildStep.loadValidators.injEq, forall_eq']
    refine ⟨ValidatorSet.resolvesAlike_of_declared ?_,
      ValidatorSet.resolvesAlike_of_declared ?_, LoadsAlike.nil _ _⟩
    · revert n
      decide +kernel
    · revert n
      decide +kernel
  exact ⟨evaluate_early_loaded .builtin _ _ (hdirect "3") (hloads "3" (by decide)),
    evaluate_early_loaded .builtin _ _ (hdirect "many") (hloads "many" (by decide))⟩

end RecordRules
