import RecordRules.Proofs.ValidatorSet.Agenda

/-!
# Sets that are further loaded

Which of two instances is run cannot be told from an evaluation if they judge
alike and describe themselves alike (`Instance.Alike`). So sets whose tasks
are, one by one, of the same field and come to such instances, or to the same
error, evaluate alike (`runTasks_congr`).

It makes no difference either whether an instance is made when its turn comes
or was made before. `Further` says this of two sets: the second has instances
where the first has bindings pending that come to them for a record. If both
run their fields in the same order they evaluate the record alike
(`Further.evaluate_eq`).
-/

namespace RecordRules

/-! ## Instances that are alike -/

/-- The instances point at the same field, report the same and judge every
input the same. -/
structure Instance.Alike (i j : Instance) : Prop where
  targetField : j.operand.targetField = i.operand.targetField
  message : j.message = i.message
  evaluate (input : Json) : j.evaluate input = i.evaluate input

/-- Two attempts to make an instance give instances that are alike, or the
same error. -/
inductive MadeAlike : Except ConfigError Instance → Except ConfigError Instance → Prop
  | error (e : ConfigError) : MadeAlike (.error e) (.error e)
  | ok {i j : Instance} (h : i.Alike j) : MadeAlike (.ok i) (.ok j)

theorem MadeAlike.refl (x : Except ConfigError Instance) : MadeAlike x x := by
  cases x with
  | error e => exact .error e
  | ok i => exact .ok ⟨rfl, rfl, fun _ => rfl⟩

namespace ValidatorSet

/-! ## Tasks that come to the same -/

/-- Two tasks of one field that come to instances that are alike. -/
def SameTask (record : Json) (p q : String × Task) : Prop :=
  p.1 = q.1 ∧ MadeAlike (p.2.materialize record) (q.2.materialize record)

theorem runTask_congr {record : Json} {p q : String × Task} (h : SameTask record p q)
    (os : List FieldOutcome) : runTask record os q = runTask record os p := by
  obtain ⟨f, t⟩ := p
  obtain ⟨g, u⟩ := q
  obtain ⟨rfl, h⟩ := h
  change MadeAlike (t.materialize record) (u.materialize record) at h
  rw [runTask, runTask]
  dsimp only
  generalize t.materialize record = x at h ⊢
  generalize u.materialize record = y at h ⊢
  cases h with
  | error e => rfl
  | @ok i j h =>
      have hsubject : subject f j record = subject f i record := by
        rw [subject, subject, h.targetField]
      rw [ok_bind, ok_bind, hsubject, h.evaluate, h.message]

theorem runTasks_congr {record : Json} {ps qs : List (String × Task)}
    (h : List.Forall₂ (SameTask record) ps qs) (os : List FieldOutcome) :
    qs.foldlM (runTask record) os = ps.foldlM (runTask record) os := by
  induction h generalizing os with
  | nil => rfl
  | cons hpq _ ih =>
      rw [List.foldlM_cons, List.foldlM_cons, runTask_congr hpq]
      exact congrArg _ (funext ih)

end ValidatorSet

open ValidatorSet (SameTask runTasks_congr agenda_eq_runOrder)

/-! ## Further instances -/

/-- For a field the second set has further instances. They are made for the
record of the first bindings that are pending in the first set, which are
among the given ones. -/
def FurtherOn (record : Json) (given : List Binding) (s t : ValidatorSet) (field : String) :
    Prop :=
  ∃ bs is, bs ⊆ given ∧ bs.mapM (Binding.materialize record) = .ok is
    ∧ s.pending field = bs ++ t.pending field ∧ t.instances field = s.instances field ++ is

/-- The second set is the first with further instances, and runs its fields
in the same order. -/
structure Further (record : Json) (given : String → List Binding) (s t : ValidatorSet) :
    Prop where
  frame : t = { s with loaded := t.loaded }
  order : t.runOrder = s.runOrder
  on : ∀ field, FurtherOn record (given field) s t field

namespace Further

variable {record : Json} {given : String → List Binding} {s t : ValidatorSet}

theorem fields_eq (h : Further record given s t) : t.fields = s.fields := by
  rw [h.frame]
  rfl

/-- A made instance stands for its binding. -/
theorem tasks (h : Further record given s t) (field : String) :
    List.Forall₂ (SameTask record) ((s.tasks field).map fun u => (field, u))
      ((t.tasks field).map fun u => (field, u)) := by
  obtain ⟨bs, is, -, his, hpending, hinstances⟩ := h.on field
  have hsame : ∀ ts : List (String × ValidatorSet.Task),
      List.Forall₂ (SameTask record) ts ts := fun ts =>
    List.forall₂_same.mpr fun p _ => ⟨rfl, .refl _⟩
  rw [ValidatorSet.tasks, ValidatorSet.tasks, hinstances, hpending]
  simp only [List.map_append, List.append_assoc]
  refine List.rel_append (hsame _) (List.rel_append ?_ (hsame _))
  rw [List.map_map, List.map_map, List.forall₂_map_left_iff, List.forall₂_map_right_iff]
  refine (mapM_eq_ok.mp his).imp fun b i hb => ⟨rfl, ?_⟩
  change MadeAlike (b.materialize record) (.ok i)
  rw [hb]
  exact .refl _

/-- **Further loaded sets evaluate the record alike.** -/
theorem evaluate_eq (h : Further record given s t) (hd : s.fields.Nodup)
    (hs : s.loadedFields.Nodup) (ht : t.loadedFields.Nodup) :
    t.evaluate record = s.evaluate record := by
  have hrun : t.runValidators record = s.runValidators record := by
    rw [ValidatorSet.runValidators, ValidatorSet.runValidators,
      agenda_eq_runOrder (h.fields_eq ▸ hd) ht, agenda_eq_runOrder hd hs, h.order]
    refine runTasks_congr (List.rel_flatMap (List.forall₂_same.mpr fun _ _ => rfl) ?_) []
    rintro field _ rfl
    exact h.tasks field
  unfold ValidatorSet.evaluate
  rw [hrun, h.frame]
  rfl

end Further

end RecordRules
