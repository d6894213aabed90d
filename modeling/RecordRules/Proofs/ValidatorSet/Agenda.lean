import RecordRules.Proofs.ValidatorSet.Steps

/-!
# What an evaluation runs

The agenda of a set groups the validators by field. As long as no field is
kept twice, a field's part of it is made of the instances of the field and of
those bindings that have none (`agenda_on`), and the parts follow each other in
the order in which the fields are run (`agenda_eq_runOrder`). Running the
agenda records for every field the judgements of its part, in order, and
nothing else (`runTasks_on`), under distinct names (`nodup_runTasks`).
-/

namespace RecordRules

/-! ## Booleans of a field -/

namespace FieldOutcome

theorem find?_record (field name : String) (passed : Bool) (message : String)
    (os : List FieldOutcome) :
    KeyedList.find? FieldOutcome.field field (record name passed message os) =
      if name = field then
        some (.add passed message ((KeyedList.find? FieldOutcome.field field os).getD { field }))
      else KeyedList.find? FieldOutcome.field field os := by
  have hkeep : ∀ o : FieldOutcome, o.field = name → (o.add passed message).field = name :=
    fun _ h => h
  split
  next h =>
    subst h
    exact KeyedList.find?_update_self (hkeep _ rfl) hkeep os
  next h => exact KeyedList.find?_update_of_ne (Ne.symm h) (hkeep _ rfl) hkeep os

/-- The booleans that are recorded for a field. -/
def booleansOn (field : String) (os : List FieldOutcome) : List Bool :=
  (KeyedList.find? FieldOutcome.field field os).elim [] FieldOutcome.evaluated

theorem booleansOn_record (field name : String) (passed : Bool) (message : String)
    (os : List FieldOutcome) :
    booleansOn field (FieldOutcome.record name passed message os) =
      booleansOn field os ++ if name = field then [passed] else [] := by
  rw [booleansOn, find?_record, booleansOn]
  split
  next => cases KeyedList.find? FieldOutcome.field field os <;> rfl
  next => exact (List.append_nil _).symm

theorem nodup_record {os : List FieldOutcome} (h : (os.map FieldOutcome.field).Nodup)
    (name : String) (passed : Bool) (message : String) :
    ((FieldOutcome.record name passed message os).map FieldOutcome.field).Nodup := by
  refine KeyedList.nodup_update ?_ ?_ h
  · rfl
  · exact fun _ h => h

end FieldOutcome

namespace ValidatorSet

open FieldOutcome (booleansOn booleansOn_record nodup_record)

/-! ## Parts of an agenda -/

/-- The validators that an agenda runs for a field. -/
def tasksOn (field : String) (tasks : List (String × Task)) : List Task :=
  tasks.filterMap fun p => if p.1 = field then some p.2 else none

theorem tasksOn_cons (field name : String) (t : Task) (ts : List (String × Task)) :
    tasksOn field ((name, t) :: ts) =
      (if name = field then [t] else []) ++ tasksOn field ts := by
  by_cases h : name = field <;> simp [tasksOn, h]

theorem tasksOn_append (field : String) (ts us : List (String × Task)) :
    tasksOn field (ts ++ us) = tasksOn field ts ++ tasksOn field us := List.filterMap_append

theorem tasksOn_map_pair (field name : String) (ts : List Task) :
    tasksOn field (ts.map fun t => (name, t)) = if name = field then ts else [] := by
  rw [tasksOn, List.filterMap_map]
  by_cases h : name = field <;> simp [h]

/-- In a list of groups with distinct names a field has the part of the group
with its name. -/
theorem tasksOn_flatMap {α : Type} {name : α → String} (part : α → List Task) (field : String)
    {xs : List α} (h : (xs.map name).Nodup) :
    tasksOn field (xs.flatMap fun a => (part a).map fun t => (name a, t)) =
      (KeyedList.find? name field xs).elim [] part := by
  induction xs with
  | nil => rfl
  | cons a xs ih =>
      rw [List.map_cons, List.nodup_cons] at h
      rw [List.flatMap_cons, tasksOn_append, tasksOn_map_pair, ih h.2]
      by_cases ha : name a = field
      · have hn : KeyedList.find? name field xs = none := KeyedList.find?_eq_none.mpr (ha ▸ h.1)
        rw [KeyedList.find?_cons_self ha, hn, if_pos ha]
        exact List.append_nil _
      · rw [KeyedList.find?_cons_of_ne ha, if_neg ha]
        rfl

/-- What is run for a field: its instances, then its bindings without one. -/
def tasks (s : ValidatorSet) (field : String) : List Task :=
  (s.instances field).map .ready ++ (s.pending field).map .pending

/-- The part of the agenda that a loaded field has. -/
def loadedPart (s : ValidatorSet) (l : LoadedField) : List Task :=
  l.instances.map .ready ++ ((s.bindings l.field).drop l.materialized).map .pending

theorem agenda_eq (s : ValidatorSet) :
    s.agenda =
      (s.loaded.flatMap fun l => (s.loadedPart l).map fun t => (l.field, t))
      ++ ((s.declared.filter fun d => !s.isLoaded d.field).flatMap fun d =>
        (d.bindings.map Task.pending).map fun t => (d.field, t)) := by
  simp only [agenda, loadedPart, List.map_append, List.map_map, Function.comp_def]

/-- A field that is not loaded is declared among those that are not. -/
theorem find?_filter_isLoaded (s : ValidatorSet) (field : String) :
    KeyedList.find? DeclaredField.field field (s.declared.filter fun d => !s.isLoaded d.field) =
      if s.isLoaded field then none else s.declaredField? field := by
  rw [declaredField?, KeyedList.find?, KeyedList.find?, List.find?_filter]
  cases h : s.isLoaded field with
  | true =>
      rw [if_pos rfl, List.find?_eq_none]
      rintro d - hd
      simp only [Bool.decide_and, Bool.and_eq_true, Bool.not_eq_true', decide_eq_true_eq] at hd
      rw [hd.2, h] at hd
      exact Bool.noConfusion hd.1
  | false =>
      rw [if_neg Bool.false_ne_true]
      congr 1
      funext d
      by_cases hd : d.field = field
      · simp [hd, h]
      · simp [hd]

/-- The agenda runs for a field its instances, then its bindings without
one. -/
theorem agenda_on {s : ValidatorSet} (hd : s.fields.Nodup) (hl : s.loadedFields.Nodup)
    (field : String) : tasksOn field s.agenda = s.tasks field := by
  have hf : ((s.declared.filter fun d => !s.isLoaded d.field).map DeclaredField.field).Nodup :=
    hd.sublist (List.filter_sublist.map _)
  rw [agenda_eq, tasksOn_append, tasksOn_flatMap s.loadedPart field hl,
    tasksOn_flatMap (fun d : DeclaredField => d.bindings.map Task.pending) field hf,
    find?_filter_isLoaded]
  change (s.loadedField? field).elim [] s.loadedPart ++ _ = _
  rw [tasks, instances, pending, bindings, materialized, isLoaded]
  cases h : s.loadedField? field with
  | none => cases s.declaredField? field <;> rfl
  | some l =>
      have hlf : l.field = field := KeyedList.key_of_find? h
      simp [loadedPart, bindings, hlf]

theorem mem_tasksOn {field : String} {tasks : List (String × Task)} {t : Task} :
    t ∈ tasksOn field tasks ↔ (field, t) ∈ tasks := by
  rw [tasksOn, List.mem_filterMap]
  constructor
  · rintro ⟨⟨name, u⟩, hu, h⟩
    split at h
    next hname =>
      cases h
      cases hname
      exact hu
    next => cases h
  · intro h
    exact ⟨_, h, if_pos rfl⟩

theorem mem_agenda {s : ValidatorSet} (hd : s.fields.Nodup) (hl : s.loadedFields.Nodup)
    {field : String} {t : Task} : (field, t) ∈ s.agenda ↔ t ∈ s.tasks field := by
  rw [← agenda_on hd hl, mem_tasksOn]

/-! ## The order of the fields -/

theorem isLoaded_iff (s : ValidatorSet) {field : String} :
    s.isLoaded field = true ↔ field ∈ s.loadedFields := by
  rw [isLoaded, loadedField?, Option.isSome_iff_ne_none, ne_eq, KeyedList.find?_eq_none,
    not_not, loadedFields]

/-- A declared field without a pending binding is loaded. -/
theorem mem_loadedFields_of_pending {s : ValidatorSet} {field : String}
    (hb : s.bindings field ≠ []) (hp : s.pending field = []) : field ∈ s.loadedFields := by
  by_contra hnot
  have hzero : s.materialized field = 0 := by
    rw [materialized, loadedField?, KeyedList.find?_eq_none.mpr hnot]
    rfl
  rw [pending, hzero] at hp
  exact hb hp

/-- The fields in the order in which they are run: those with loaded
instances, then those that are only declared. -/
def runOrder (s : ValidatorSet) : List String :=
  s.loadedFields ++ s.fields.filter fun f => !s.isLoaded f

theorem mem_runOrder (s : ValidatorSet) {field : String} :
    field ∈ s.runOrder ↔ field ∈ s.loadedFields ∨ field ∈ s.fields := by
  rw [runOrder, List.mem_append, List.mem_filter, Bool.not_eq_true', ← Bool.not_eq_true,
    s.isLoaded_iff]
  tauto

/-- The fields are run one after the other. -/
theorem agenda_eq_runOrder {s : ValidatorSet} (hd : s.fields.Nodup) (hl : s.loadedFields.Nodup) :
    s.agenda = s.runOrder.flatMap fun f => (s.tasks f).map fun t => (f, t) := by
  have hloaded : (s.loaded.flatMap fun l => (s.loadedPart l).map fun t => (l.field, t)) =
      s.loadedFields.flatMap fun f => (s.tasks f).map fun t => (f, t) := by
    rw [loadedFields, List.flatMap_map]
    refine List.flatMap_congr fun l hlm => ?_
    have hfind : s.loadedField? l.field = some l := KeyedList.find?_of_mem hl hlm
    rw [loadedPart, tasks, instances, pending, materialized, hfind]
    rfl
  have hrest : ((s.declared.filter fun d => !s.isLoaded d.field).flatMap fun d =>
        (d.bindings.map Task.pending).map fun t => (d.field, t)) =
      (s.fields.filter fun f => !s.isLoaded f).flatMap fun f =>
        (s.tasks f).map fun t => (f, t) := by
    rw [fields, List.filter_map, List.flatMap_map]
    refine List.flatMap_congr fun d hdm => ?_
    obtain ⟨hdm, hnot⟩ := List.mem_filter.mp hdm
    have hfind : s.declaredField? d.field = some d := KeyedList.find?_of_mem hd hdm
    have hnone : s.loadedField? d.field = none := by simpa [isLoaded] using hnot
    rw [tasks, instances, pending, bindings, materialized, hfind, hnone]
    rfl
  rw [agenda_eq, hloaded, hrest, ← List.flatMap_append, runOrder]

/-! ## Judgements -/

/-- The task, run for a field of a record, comes to that boolean. -/
def Task.Judges (record : Json) (field : String) (t : Task) (passed : Bool) : Prop :=
  ∃ i, t.materialize record = .ok i ∧ i.evaluate (subject field i record) = .ok passed

theorem runTask_eq_ok {record : Json} {os os' : List FieldOutcome} {field : String} {t : Task} :
    runTask record os (field, t) = .ok os' ↔
      ∃ i passed, t.materialize record = .ok i ∧ i.evaluate (subject field i record) = .ok passed ∧
        os' = FieldOutcome.record field passed i.message os := by
  simp only [runTask, bind_eq_ok]
  constructor
  · rintro ⟨i, hi, passed, hp, h⟩
    cases h
    exact ⟨i, passed, hi, hp, rfl⟩
  · rintro ⟨i, passed, hi, hp, rfl⟩
    exact ⟨i, hi, passed, hp, rfl⟩

/-- Running tasks records for a field the judgements of its part. -/
theorem runTasks_on {record : Json} (field : String) {tasks : List (String × Task)}
    {os os' : List FieldOutcome} (h : tasks.foldlM (runTask record) os = .ok os') :
    ∃ bs, List.Forall₂ (Task.Judges record field) (tasksOn field tasks) bs ∧
      booleansOn field os' = booleansOn field os ++ bs := by
  induction tasks generalizing os with
  | nil =>
      cases h
      exact ⟨[], .nil, (List.append_nil _).symm⟩
  | cons p tasks ih =>
      obtain ⟨name, t⟩ := p
      obtain ⟨os₁, h₁, h⟩ := bind_eq_ok.mp (List.foldlM_cons.symm.trans h)
      obtain ⟨i, passed, hi, hp, rfl⟩ := runTask_eq_ok.mp h₁
      obtain ⟨bs, hbs, he⟩ := ih h
      rw [booleansOn_record] at he
      by_cases hn : name = field
      · subst hn
        refine ⟨passed :: bs, ?_, ?_⟩
        · rw [tasksOn_cons, if_pos rfl]
          exact .cons ⟨i, hi, hp⟩ hbs
        · rw [he, if_pos rfl, List.append_assoc, List.singleton_append]
      · refine ⟨bs, ?_, ?_⟩
        · rw [tasksOn_cons, if_neg hn]
          exact hbs
        · rw [he, if_neg hn, List.append_nil]

theorem nodup_runTasks {record : Json} {tasks : List (String × Task)}
    {os os' : List FieldOutcome} (h : tasks.foldlM (runTask record) os = .ok os')
    (hn : (os.map FieldOutcome.field).Nodup) : (os'.map FieldOutcome.field).Nodup := by
  induction tasks generalizing os with
  | nil =>
      cases h
      exact hn
  | cons p tasks ih =>
      obtain ⟨os₁, h₁, h⟩ := bind_eq_ok.mp (List.foldlM_cons.symm.trans h)
      obtain ⟨i, passed, -, -, rfl⟩ := runTask_eq_ok.mp h₁
      exact ih h (nodup_record hn p.1 passed i.message)

/-! ## Reports -/

/-- A report on a record that was validated holds what the validators
recorded. -/
theorem evaluate_eq_ok {s : ValidatorSet} {record : Json} {report : Report}
    (h : s.evaluate record = .ok report) (he : report.exempt = false) :
    s.runValidators record = .ok report.fields := by
  unfold evaluate at h
  split at h
  · obtain ⟨outcomes, -, h⟩ := bind_eq_ok.mp h
    dsimp only at h
    split at h
    · obtain ⟨fields, hf, h⟩ := bind_eq_ok.mp h
      cases h
      exact hf
    · cases h
      cases he
  · obtain ⟨fields, hf, h⟩ := bind_eq_ok.mp h
    cases h
    exact hf

end ValidatorSet

end RecordRules
