import RecordRules.Proofs.ValidatorSet.Agenda

/-!
# The books of a set

Bindings and instances are added to a set by declarations, by direct loads and
by bulk loads, in any order, and some of these fail halfway. `Ledger` is what
holds all along between a set and its history: no field is kept twice, the
bindings of a field are those that were declared, and its instances are those
that were loaded directly and one for each of the first `materialized`
bindings, of which there are never more than bindings.

Every change keeps the books (`Ledger.apply`), and so does loading a field,
wherever a bulk load stops (`Ledger.loadFields`); hence every step does
(`Ledger.take`). An evaluation runs the instances of a field and then those
bindings that have none (`agenda_on`), so it records a boolean for each
declaration and each direct load (`each_validator_runs_once`).
-/

namespace RecordRules

/-- An instance of the binding, for some record. -/
def Binding.Makes (b : Binding) (i : Instance) : Prop := ∃ record, b.materialize record = .ok i

theorem perm_append_right_comm {α : Type} (as bs cs : List α) :
    (as ++ bs ++ cs).Perm (as ++ cs ++ bs) := by
  rw [List.append_assoc, List.append_assoc]
  exact List.perm_append_comm.append_left as

/-- What the fields of a set hold after a history. -/
structure Ledger (s : ValidatorSet) (history : List Change) : Prop where
  nodup_fields : s.fields.Nodup
  nodup_loadedFields : s.loadedFields.Nodup
  bindings_eq : ∀ field, s.bindings field = declaredOn field history
  materialized_le : ∀ field, s.materialized field ≤ (s.bindings field).length
  instances_perm : ∀ field, ∃ made,
    List.Forall₂ Binding.Makes ((s.bindings field).take (s.materialized field)) made ∧
      (s.instances field).Perm (loadedOn field history ++ made)

namespace Ledger

variable {s t : ValidatorSet} {history : List Change}

/-! ## What keeps the books -/

theorem withRegistry (registry : Registry) : Ledger (.withRegistry registry) [] where
  nodup_fields := List.nodup_nil
  nodup_loadedFields := List.nodup_nil
  bindings_eq _ := rfl
  materialized_le _ := Nat.le_refl 0
  instances_perm _ := ⟨[], .nil, .refl _⟩

theorem apply (h : Ledger s history) (c : Change) : Ledger (s.apply c) (history ++ [c]) where
  nodup_fields := s.nodup_fields_apply c h.nodup_fields
  nodup_loadedFields := s.nodup_loadedFields_apply c h.nodup_loadedFields
  bindings_eq field := by
    rw [s.bindings_apply, h.bindings_eq, declaredOn, declaredOn, List.filterMap_append]
    cases hc : c.bindingOn? field <;> simp [hc]
  materialized_le field := by
    rw [s.materialized_apply, s.bindings_apply, List.length_append]
    exact Nat.le_add_right_of_le (h.materialized_le field)
  instances_perm field := by
    obtain ⟨made, hmade, hperm⟩ := h.instances_perm field
    refine ⟨made, ?_, ?_⟩
    · rw [s.materialized_apply, s.bindings_apply,
        List.take_append_of_le_length (h.materialized_le field)]
      exact hmade
    · rw [s.instances_apply, loadedOn, List.flatMap_append, List.flatMap_singleton]
      exact (hperm.append_right _).trans (perm_append_right_comm ..)

/-- Instances for all the bindings of a field that have none. -/
theorem fill (h : Ledger s history) {record : Json} {field : String} {is : List Instance}
    (his : (s.pending field).mapM (Binding.materialize record) = .ok is) :
    Ledger (s.addInstances field is is.length) history where
  nodup_fields := h.nodup_fields
  nodup_loadedFields := s.nodup_loadedFields_addInstances field is _ h.nodup_loadedFields
  bindings_eq := h.bindings_eq
  materialized_le := s.materialized_fill_le his h.materialized_le
  instances_perm other := by
    obtain ⟨made, hmade, hperm⟩ := h.instances_perm other
    by_cases ho : other = field
    · subst ho
      have hnew : List.Forall₂ Binding.Makes (s.pending other) is :=
        (mapM_eq_ok.mp his).imp fun _ _ hb => ⟨record, hb⟩
      refine ⟨made ++ is, ?_, ?_⟩
      · rw [s.materialized_addInstances_self]
        change List.Forall₂ _ ((s.bindings other).take _) _
        rw [(s.take_materialized_add his (h.materialized_le other)).2]
        exact List.rel_append hmade hnew
      · rw [s.instances_addInstances_self, ← List.append_assoc]
        exact hperm.append_right is
    · refine ⟨made, ?_, ?_⟩
      · rw [s.materialized_addInstances_of_ne field is _ ho]
        exact hmade
      · rw [s.instances_addInstances_of_ne field is _ ho]
        exact hperm

theorem loadField (h : Ledger s history) {record : Json} {field : String}
    (ht : ValidatorSet.loadField record s field = .ok t) : Ledger t history := by
  obtain ⟨is, his, rfl⟩ := s.loadField_eq_ok.mp ht
  split
  · exact h
  · exact h.fill his

/-- The books are in order wherever a bulk load stops. -/
theorem loadFields (h : Ledger s history) (record : Json) (fields : List String) :
    Ledger (runBatch (ValidatorSet.loadField record) s fields).1 history :=
  runBatch_induct (P := fun t => Ledger t history) (fun hs ht => hs.loadField ht) h fields

theorem applyAll (h : Ledger s history) (cs : List Change) :
    Ledger (s.applyAll cs) (history ++ cs) := by
  induction cs generalizing s history with
  | nil => rwa [List.append_nil]
  | cons c cs ih =>
      rw [← List.singleton_append, ← List.append_assoc]
      exact ih (h.apply c)

theorem take (h : Ledger s history) (st : BuildStep) :
    Ledger (s.take st).1 (history ++ st.changes s.registry) := by
  cases hb : st.bulkRecord? with
  | none =>
      rw [s.take_eq_tryAll hb]
      exact h.applyAll _
  | some record =>
      obtain rfl := BuildStep.eq_loadValidators hb
      rw [show BuildStep.changes s.registry (.loadValidators record) = [] from rfl,
        List.append_nil, s.take_loadValidators]
      exact h.loadFields record s.fields

theorem takeAll (h : Ledger s history) (steps : List BuildStep) :
    Ledger (s.takeAll steps) (history ++ steps.flatMap (BuildStep.changes s.registry)) := by
  induction steps generalizing s history with
  | nil => rwa [List.flatMap_nil, List.append_nil]
  | cons st steps ih =>
      have ht := ih (h.take st)
      rwa [s.registry_take, List.append_assoc, ← List.flatMap_cons] at ht

theorem build {start : Start} {steps : List BuildStep} (h : start.build steps = .ok s) :
    Ledger s (start.history steps) := by
  obtain ⟨s₀, hs₀, hs⟩ := bind_eq_ok.mp h
  cases hs
  obtain rfl := Start.make_fst hs₀
  have hl := (withRegistry start.registry).applyAll start.changes
  have ht := hl.takeAll steps
  rwa [ValidatorSet.registry_applyAll] at ht

end Ledger

/-- What a set of changes has to run are the bindings and the instances of the
changes. -/
theorem ValidatorSet.mem_agenda_applyAll {registry : Registry} {cs : List Change} {field : String}
    {t : Task} :
    (field, t) ∈ ((withRegistry registry).applyAll cs).agenda ↔
      (∃ is, .load field is ∈ cs ∧ ∃ i ∈ is, .ready i = t)
        ∨ ∃ b, .bind field b ∈ cs ∧ .pending b = t := by
  have hl : Ledger ((withRegistry registry).applyAll cs) cs :=
    (Ledger.withRegistry registry).applyAll cs
  have hzero : ((withRegistry registry).applyAll cs).materialized field = 0 :=
    materialized_applyAll _ cs field
  obtain ⟨made, hmade, hperm⟩ := hl.instances_perm field
  rw [hzero, List.take_zero, List.forall₂_nil_left_iff] at hmade
  rw [hmade, List.append_nil] at hperm
  rw [mem_agenda hl.nodup_fields hl.nodup_loadedFields, tasks, List.mem_append, List.mem_map,
    List.mem_map, pending, hzero, List.drop_zero, hl.bindings_eq]
  simp only [hperm.mem_iff, mem_loadedOn, mem_declaredOn]
  refine or_congr_left ?_
  constructor
  · rintro ⟨i, ⟨is, his, hi⟩, ht⟩
    exact ⟨is, his, i, hi, ht⟩
  · rintro ⟨is, his, i, hi, ht⟩
    exact ⟨i, ⟨is, his, hi⟩, ht⟩

/-- What a set has to run was loaded, was declared or is made of what was
declared. -/
theorem Ledger.of_mem_agenda {s : ValidatorSet} {history : List Change} (h : Ledger s history)
    {field : String} {t : ValidatorSet.Task} (ht : (field, t) ∈ s.agenda) :
    (∃ is, .load field is ∈ history ∧ ∃ i ∈ is, t = .ready i)
      ∨ ∃ b, .bind field b ∈ history ∧ (t = .pending b ∨ ∃ i, b.Makes i ∧ t = .ready i) := by
  rw [ValidatorSet.mem_agenda h.nodup_fields h.nodup_loadedFields, ValidatorSet.tasks,
    List.mem_append] at ht
  have hdeclared : ∀ b ∈ s.bindings field, .bind field b ∈ history := by
    intro b hb
    rw [h.bindings_eq] at hb
    exact mem_declaredOn.mp hb
  rcases ht with ht | ht
  · obtain ⟨i, hi, rfl⟩ := List.mem_map.mp ht
    obtain ⟨made, hmade, hperm⟩ := h.instances_perm field
    rcases List.mem_append.mp (hperm.mem_iff.mp hi) with hi | hi
    · obtain ⟨is, his, hi⟩ := mem_loadedOn.mp hi
      exact .inl ⟨is, his, i, hi, rfl⟩
    · obtain ⟨b, hb, hbi⟩ := exists_of_forall₂ hmade hi
      exact .inr ⟨b, hdeclared b (List.mem_of_mem_take hb), .inr ⟨i, hbi, rfl⟩⟩
  · obtain ⟨b, hb, rfl⟩ := List.mem_map.mp ht
    exact .inr ⟨b, hdeclared b (List.mem_of_mem_drop hb), .inl rfl⟩

/-! ## What is recorded -/

theorem Ledger.length_tasks {s : ValidatorSet} {history : List Change} (h : Ledger s history)
    (field : String) :
    (s.tasks field).length =
      (loadedOn field history).length + (declaredOn field history).length := by
  obtain ⟨made, hmade, hperm⟩ := h.instances_perm field
  have hle := h.materialized_le field
  have hlen := hmade.length_eq
  have hinst := hperm.length_eq
  rw [List.length_take, Nat.min_eq_left hle] at hlen
  rw [List.length_append] at hinst
  rw [ValidatorSet.tasks, ValidatorSet.pending, List.length_append, List.length_map,
    List.length_map, List.length_drop, ← h.bindings_eq field]
  omega

/-- **Each validator runs once.** However a set was built, its books agree
with its history, also wherever a bulk load stops; and an evaluation that does
not exempt the record judges for every field exactly its instances and its
bindings without one, once each: as many as were loaded directly and declared
for the field. -/
theorem each_validator_runs_once {start : Start} {steps : List BuildStep} {s : ValidatorSet}
    (h : start.build steps = .ok s) :
    Ledger s (start.history steps)
      ∧ (∀ record fields,
          Ledger (runBatch (ValidatorSet.loadField record) s fields).1 (start.history steps))
      ∧ ∀ record report, s.evaluate record = .ok report → report.exempt = false →
          (report.fields.map FieldOutcome.field).Nodup
          ∧ ∀ field, ∃ booleans, (report.evaluated? field).getD [] = booleans
              ∧ List.Forall₂ (ValidatorSet.Task.Judges record field) (s.tasks field) booleans
              ∧ booleans.length = (loadedOn field (start.history steps)).length
                  + (declaredOn field (start.history steps)).length := by
  have hl := Ledger.build h
  refine ⟨hl, hl.loadFields, ?_⟩
  intro record report hr he
  have hrun := ValidatorSet.evaluate_eq_ok hr he
  refine ⟨ValidatorSet.nodup_runTasks hrun List.nodup_nil, ?_⟩
  intro field
  obtain ⟨booleans, hj, hb⟩ := ValidatorSet.runTasks_on field hrun
  rw [ValidatorSet.agenda_on hl.nodup_fields hl.nodup_loadedFields] at hj
  refine ⟨booleans, ?_, hj, ?_⟩
  · rw [Report.evaluated?, Report.field?]
    refine Eq.trans ?_ hb
    rw [FieldOutcome.booleansOn]
    cases KeyedList.find? FieldOutcome.field field report.fields <;> rfl
  · rw [← hj.length_eq, hl.length_tasks]

/-- A capability of its own that every input passes. -/
def lenient : Instance :=
  .custom ⟨⟨"Lenient", fun _ => .ok (), fun _ => "", fun _ _ => .ok true⟩, .absent, none⟩

/-- Steps with a load that fails on the second field after it has loaded the
first, a late declaration and a direct load. -/
def stepsWithFailedLoad : List BuildStep :=
  [.addValidatorFromRule "a:not_empty", .addValidatorFromRule "b:length:[n]",
    .loadValidators (.obj []), .addValidatorFromRule "a:alpha", .loadValidator "a" lenient .null]

/-- A record on which no validator of these steps errs. -/
def recordWithLength : Json := .obj [("a", .str "x"), ("b", .str "xyz"), ("n", .str "3")]

theorem each_validator_runs_once_after_failed_load :
    ∃ s report, (Start.withRegistry .builtin).build stepsWithFailedLoad = .ok s
      ∧ s.evaluate recordWithLength = .ok report ∧ report.exempt = false
      ∧ s.materialized "a" = 1 ∧ s.materialized "b" = 0
      ∧ ((report.evaluated? "a").getD []).length = 3 := by
  have hrun : ((Start.withRegistry .builtin).build stepsWithFailedLoad >>= fun s =>
      s.evaluate recordWithLength >>= fun report =>
        pure (report.exempt, s.materialized "a", s.materialized "b")).toOption =
      some (false, 1, 0) := by decide +kernel
  obtain ⟨s, hs, hrun⟩ := bind_eq_ok.mp (toOption_eq_some.mp hrun)
  obtain ⟨report, hr, hrun⟩ := bind_eq_ok.mp hrun
  simp only [pure, Except.pure, Except.ok.injEq, Prod.mk.injEq] at hrun
  obtain ⟨he, ha, hb⟩ := hrun
  obtain ⟨-, -, hreports⟩ := each_validator_runs_once hs
  obtain ⟨-, hfields⟩ := hreports recordWithLength report hr he
  obtain ⟨booleans, hbooleans, -, hlen⟩ := hfields "a"
  have hloaded : (loadedOn "a"
      ((Start.withRegistry .builtin).history stepsWithFailedLoad)).length = 1 := by
    decide +kernel
  have hdeclared : (declaredOn "a"
      ((Start.withRegistry .builtin).history stepsWithFailedLoad)).length = 2 := by
    decide +kernel
  refine ⟨s, report, hs, hr, he, ha, hb, ?_⟩
  rw [hbooleans, hlen, hloaded, hdeclared]

end RecordRules
