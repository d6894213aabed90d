import RecordRules.Proofs.ValidatorSet.EarlyLoading
import RecordRules.Proofs.ValidatorSet.Ledger

/-!
# Loads that fail

A bulk load that fails is not taken back. It stops at a field and leaves the
fields before it loaded, whole, and every other field alone (`StopsAt`). So it
may be seen later: an operand that refers to the record has been looked up in
the record of the failed load (`failed_load_shows`).

It is seen in no other way. The set goes on like the one without the failed
load as long as the records of evaluations and of later loads resolve the
operands of those bindings as the record of the failed load does, and no
instance is put among them directly (`failed_load_is_partial`).

The two sets are compared by `Further`: one has instances where the other has
bindings pending that come to the same. Such sets run the same fields in the
same order (`runOrder`), for a bulk load never changes that order, wherever it
stops (`runOrder_loadFields`). Every step keeps them so (`Further.take`).
-/

namespace RecordRules

namespace ValidatorSet

/-! ## Where a load stops -/

theorem pending_congr {s t : ValidatorSet} {field : String} (hd : t.declared = s.declared)
    (hl : t.loadedField? field = s.loadedField? field) : t.pending field = s.pending field := by
  rw [pending, pending, bindings, bindings, declaredField?, declaredField?, materialized,
    materialized, hd, hl]

theorem instances_congr {s t : ValidatorSet} {field : String}
    (hl : t.loadedField? field = s.loadedField? field) :
    t.instances field = s.instances field := by
  rw [instances, instances, hl]

/-- A bulk load has stopped at a field. The fields before it are loaded, and
no other field is touched. -/
structure StopsAt (record : Json) (s t : ValidatorSet) (done : List String) (field : String)
    (e : ConfigError) : Prop where
  frame : t = { s with loaded := t.loaded }
  whole : ∀ f ∈ done, ∃ is, (s.pending f).mapM (Binding.materialize record) = .ok is
    ∧ t.instances f = s.instances f ++ is ∧ t.pending f = []
  others : ∀ f ∉ done, t.loadedField? f = s.loadedField? f
  fault : (s.pending field).mapM (Binding.materialize record) = .error e

theorem StopsAt.declared {record : Json} {s t : ValidatorSet} {done : List String}
    {field : String} {e : ConfigError} (h : StopsAt record s t done field e) :
    t.declared = s.declared := by
  rw [h.frame]

theorem loadFields_stopsAt {record : Json} {s : ValidatorSet} {fields : List String}
    {e : ConfigError} (hnd : fields.Nodup)
    (h : (runBatch (loadField record) s fields).2 = some e) :
    ∃ done field rest, fields = done ++ field :: rest
      ∧ StopsAt record s (runBatch (loadField record) s fields).1 done field e := by
  induction fields generalizing s with
  | nil => cases h
  | cons f fields ih =>
      obtain ⟨hf, hnd⟩ := List.nodup_cons.mp hnd
      cases hs : (s.pending f).mapM (Binding.materialize record) with
      | error e' =>
          have hload : loadField record s f = .error e' := s.loadField_eq_error.mpr hs
          rw [runBatch_of_error hload] at h ⊢
          cases h
          exact ⟨[], f, fields, rfl, rfl, fun _ hf => absurd hf List.not_mem_nil, fun _ _ => rfl, hs⟩
      | ok is =>
          have hload := s.loadField_eq_ok.mpr ⟨is, hs, rfl⟩
          rw [runBatch_of_ok hload] at h ⊢
          generalize (if is.isEmpty then s else s.addInstances f is is.length) = u at hload h ⊢
          obtain ⟨done, field, rest, rfl, hstop⟩ := ih hnd h
          have hdone : f ∉ done := fun hm => hf (List.mem_append_left _ hm)
          have hdeclared : u.declared = s.declared := by rw [loadField_frame hload]
          have hsame : ∀ g ≠ f, u.pending g = s.pending g ∧ u.instances g = s.instances g := by
            intro g hg
            have hl := loadField_of_ne hload hg
            exact ⟨pending_congr hdeclared hl, instances_congr hl⟩
          refine ⟨f :: done, field, rest, rfl, ?_, ?_, ?_, ?_⟩
          · rw [hstop.frame, loadField_frame hload]
          · intro g hg
            rcases List.mem_cons.mp hg with rfl | hg
            · obtain ⟨is, his, hinst, hpend⟩ := loadField_self hload
              have hl := hstop.others g hdone
              refine ⟨is, his, (instances_congr hl).trans hinst, ?_⟩
              exact (pending_congr hstop.declared hl).trans hpend
            · obtain ⟨his, hinst⟩ := hsame g fun e => hdone (e ▸ hg)
              rw [← his, ← hinst]
              exact hstop.whole g hg
          · intro g hg
            obtain ⟨hgf, hg⟩ := List.ne_and_not_mem_of_not_mem_cons hg
            exact (hstop.others g hg).trans (loadField_of_ne hload hgf)
          · rw [← (hsame field fun e => hf (e ▸ by simp)).1]
            exact hstop.fault

/-! ## The order of the fields -/

theorem runOrder_addBinding (s : ValidatorSet) (field : String) (b : Binding) :
    (s.addBinding field b).runOrder =
      if field ∈ s.runOrder then s.runOrder else s.runOrder ++ [field] := by
  have hloaded : ∀ f, (s.addBinding field b).isLoaded f = s.isLoaded f := fun _ => rfl
  have horder : (s.addBinding field b).runOrder =
      s.loadedFields ++ (s.addBinding field b).fields.filter fun f => !s.isLoaded f := rfl
  rw [horder, s.fields_addBinding]
  by_cases hf : field ∈ s.fields
  · rw [if_pos hf, if_pos (s.mem_runOrder.mpr (.inr hf)), runOrder]
  · rw [if_neg hf, List.filter_append, ← List.append_assoc, ← runOrder]
    by_cases hl : field ∈ s.loadedFields
    · rw [if_pos (s.mem_runOrder.mpr (.inl hl)),
        List.filter_cons_of_neg (by simpa using s.isLoaded_iff.mpr hl), List.filter_nil,
        List.append_nil]
    · have hnot : ¬ field ∈ s.runOrder := by
        rw [s.mem_runOrder]
        tauto
      rw [if_neg hnot, List.filter_cons_of_pos (by simpa [← s.isLoaded_iff] using hl),
        List.filter_nil]

/-- More instances of a loaded field do not change the order. -/
theorem runOrder_addInstances (s : ValidatorSet) {field : String} (h : field ∈ s.loadedFields)
    (is : List Instance) (n : Nat) : (s.addInstances field is n).runOrder = s.runOrder := by
  have hfields : (s.addInstances field is n).loadedFields = s.loadedFields := by
    rw [s.loadedFields_addInstances, if_pos h]
  have hloaded : ∀ f, (s.addInstances field is n).isLoaded f = s.isLoaded f := by
    intro f
    rw [Bool.eq_iff_iff, isLoaded_iff, isLoaded_iff, hfields]
  rw [runOrder, runOrder, hfields]
  simp only [hloaded]
  rfl

/-- Nor do the first instances of the first field that has none. -/
theorem runOrder_addInstances_next (s : ValidatorSet) {done rest : List String} {field : String}
    (hf : s.fields = done ++ field :: rest) (hnd : s.fields.Nodup)
    (hdone : ∀ f ∈ done, f ∈ s.loadedFields) (h : field ∉ s.loadedFields) (is : List Instance)
    (n : Nat) : (s.addInstances field is n).runOrder = s.runOrder := by
  have hfields : (s.addInstances field is n).loadedFields = s.loadedFields ++ [field] := by
    rw [s.loadedFields_addInstances, if_neg h]
  have hloaded : ∀ f, (s.addInstances field is n).isLoaded f = (s.isLoaded f || f == field) := by
    intro f
    rw [Bool.eq_iff_iff, Bool.or_eq_true, beq_iff_eq, isLoaded_iff, isLoaded_iff, hfields]
    simp
  have hrest : ∀ f ∈ rest, f ≠ field := by
    rintro f hm rfl
    rw [hf, List.nodup_append, List.nodup_cons] at hnd
    exact hnd.2.1.1 hm
  have hskip : ∀ f ∈ done, s.isLoaded f = true := fun f hm => s.isLoaded_iff.mpr (hdone f hm)
  have hnew : s.isLoaded field = false := by
    rwa [← Bool.not_eq_true, s.isLoaded_iff]
  have hfilter : s.fields.filter (fun f => !s.isLoaded f) =
      field :: rest.filter fun f => !s.isLoaded f := by
    rw [hf, List.filter_append, List.filter_eq_nil_iff.mpr (by simpa using hskip),
      List.filter_cons_of_pos (by simpa using hnew), List.nil_append]
  have hfilter' : s.fields.filter (fun f => !(s.addInstances field is n).isLoaded f) =
      rest.filter fun f => !s.isLoaded f := by
    rw [hf, List.filter_append, List.filter_eq_nil_iff.mpr, List.filter_cons_of_neg,
      List.nil_append]
    · refine List.filter_congr fun f hm => ?_
      rw [hloaded, beq_false_of_ne (hrest f hm), Bool.or_false]
    · simp [hloaded]
    · intro f hm
      simp [hloaded, hskip f hm]
  change (s.addInstances field is n).loadedFields ++ _ = _
  rw [hfields, runOrder, hfilter, ← hfilter', List.append_assoc]
  rfl

theorem mem_loadedFields_addInstances (s : ValidatorSet) (field : String) (is : List Instance)
    (n : Nat) {f : String} :
    f ∈ (s.addInstances field is n).loadedFields ↔ f ∈ s.loadedFields ∨ f = field := by
  rw [s.loadedFields_addInstances]
  split
  next h =>
    refine ⟨.inl, ?_⟩
    rintro (hf | rfl)
    · exact hf
    · exact h
  next => rw [List.mem_append, List.mem_singleton]

/-- A bulk load does not change the order of the fields, wherever it stops. -/
theorem runOrder_loadFields {record : Json} {s : ValidatorSet} (hnd : s.fields.Nodup)
    (hne : ∀ f ∈ s.fields, s.bindings f ≠ []) {done rest : List String}
    (hf : s.fields = done ++ rest) (hdone : ∀ f ∈ done, f ∈ s.loadedFields) :
    (runBatch (loadField record) s rest).1.runOrder = s.runOrder := by
  -- All of `done` is loaded, so a field that gets its first instances is the first that had none.
  induction rest generalizing s done with
  | nil => rfl
  | cons f rest ih =>
      cases hload : loadField record s f with
      | error e => rw [runBatch_of_error hload]
      | ok t =>
          rw [runBatch_of_ok hload]
          obtain ⟨is, his, rfl⟩ := s.loadField_eq_ok.mp hload
          have hf' : s.fields = done ++ [f] ++ rest := by rw [hf, List.append_assoc]; rfl
          split
          next hempty =>
            have hp : s.pending f = [] := by
              rwa [List.isEmpty_iff.mp hempty, mapM_eq_ok, List.forall₂_nil_right_iff] at his
            have hl : f ∈ s.loadedFields :=
              mem_loadedFields_of_pending (hne f (by simp [hf])) hp
            refine ih hnd hne hf' ?_
            intro g hg
            rcases List.mem_append.mp hg with hg | hg
            · exact hdone g hg
            · rwa [List.mem_singleton.mp hg]
          next =>
            have horder : (s.addInstances f is is.length).runOrder = s.runOrder := by
              by_cases hl : f ∈ s.loadedFields
              · exact s.runOrder_addInstances hl is _
              · exact s.runOrder_addInstances_next hf hnd hdone hl is _
            rw [← horder]
            refine ih (s := s.addInstances f is is.length) hnd hne hf' ?_
            intro g hg
            rw [mem_loadedFields_addInstances]
            rcases List.mem_append.mp hg with hg | hg
            · exact .inl (hdone g hg)
            · exact .inr (List.mem_singleton.mp hg)

end ValidatorSet

open ValidatorSet (StopsAt pending_congr instances_congr loadField_self loadField_of_ne
  loadField_frame)

/-! ## Sets that can be built -/

/-- The books of the set are in order, and every declared field has a
binding. -/
structure Kept (s : ValidatorSet) : Prop where
  books : ∃ history, Ledger s history
  bindings_ne_nil : ∀ field ∈ s.fields, s.bindings field ≠ []

namespace Kept

variable {s t : ValidatorSet}

theorem apply (s : ValidatorSet) (c : Change) (h : Kept s) : Kept (s.apply c) where
  books := let ⟨_, hl⟩ := h.books; ⟨_, hl.apply c⟩
  bindings_ne_nil := s.bindings_ne_nil_apply c h.bindings_ne_nil

theorem loadField {record : Json} {field : String} (h : Kept s)
    (ht : ValidatorSet.loadField record s field = .ok t) : Kept t where
  books := let ⟨_, hl⟩ := h.books; ⟨_, hl.loadField ht⟩
  bindings_ne_nil := by
    rw [loadField_frame ht]
    exact h.bindings_ne_nil

theorem take (h : Kept s) (st : BuildStep) : Kept (s.take st).1 :=
  ValidatorSet.take_induct apply loadField h st

theorem build {start : Start} {steps : List BuildStep} (h : start.build steps = .ok s) :
    Kept s := by
  refine Start.build_induct apply loadField ?_ h
  intro registry
  exact ⟨⟨[], .withRegistry registry⟩, nofun⟩

theorem nodup_fields (h : Kept s) : s.fields.Nodup := let ⟨_, hl⟩ := h.books; hl.nodup_fields

theorem nodup_loadedFields (h : Kept s) : s.loadedFields.Nodup :=
  let ⟨_, hl⟩ := h.books; hl.nodup_loadedFields

theorem runOrder_loadValidators (h : Kept s) (record : Json) :
    (s.loadValidators record).1.runOrder = s.runOrder := by
  rw [s.loadValidators_eq]
  exact ValidatorSet.runOrder_loadFields h.nodup_fields h.bindings_ne_nil
    (List.nil_append _).symm nofun

theorem pending_apply (h : Kept s) (c : Change) (field : String) :
    (s.apply c).pending field = s.pending field ++ (c.bindingOn? field).toList := by
  obtain ⟨_, hl⟩ := h.books
  rw [ValidatorSet.pending, ValidatorSet.pending, s.materialized_apply, s.bindings_apply,
    List.drop_append_of_le_length (hl.materialized_le field)]

end Kept

/-! ## What is loaded stays loaded -/

namespace ValidatorSet

theorem mem_loadedFields_apply (s : ValidatorSet) (c : Change) {field : String}
    (h : field ∈ s.loadedFields) : field ∈ (s.apply c).loadedFields := by
  cases c with
  | bind f b => exact h
  | load f is => exact (s.mem_loadedFields_addInstances f is 0).mpr (.inl h)
  | gate k => exact h
  | strict mode => exact h

theorem mem_loadedFields_loadField {s t : ValidatorSet} {record : Json} {f field : String}
    (h : field ∈ s.loadedFields) (ht : loadField record s f = .ok t) :
    field ∈ t.loadedFields := by
  obtain ⟨is, -, rfl⟩ := s.loadField_eq_ok.mp ht
  split
  · exact h
  · exact (s.mem_loadedFields_addInstances f is _).mpr (.inl h)

theorem mem_loadedFields_take {s : ValidatorSet} (st : BuildStep) {field : String}
    (h : field ∈ s.loadedFields) : field ∈ (s.take st).1.loadedFields :=
  take_induct (fun s c => s.mem_loadedFields_apply c) mem_loadedFields_loadField h st

end ValidatorSet

/-! ## Steps that keep one set further than the other -/

/-- The field for which the step loads instances directly. -/
def BuildStep.directField? : BuildStep → Option String
  | .loadValidator field .. | .loadValidatorsToField field .. => some field
  | _ => none

theorem BuildStep.directField?_of_mem {st : BuildStep} {registry : Registry} {field : String}
    {is : List Instance} (h : .load field is ∈ st.changes registry) :
    st.directField? = some field := by
  have hloading : ∀ {name record i}, Change.loading name record i = .ok (.load field is) →
      name = field := by
    intro name record i hl
    obtain ⟨j, -, hl⟩ := bind_eq_ok.mp hl
    cases hl
    rfl
  cases hd : st.loadsDirectly with
  | false => cases st.isLoad_changes hd h
  | true =>
      have hmem := mem_successes h
      cases st with
      | loadValidator name i record =>
          exact congrArg some (hloading (List.mem_singleton.mp hmem).symm)
      | loadValidatorsToField name js record =>
          obtain ⟨j, -, hj⟩ := List.mem_map.mp hmem
          exact congrArg some (hloading hj)
      | _ => cases hd

/-- The step does not touch the bindings that were given instances: a bulk
load is against a record that resolves their operands as the given one does,
and instances are loaded directly only for fields that were loaded before and
were given none. -/
def BuildStep.Spares (record : Json) (known : List String) (given : String → List Binding)
    (st : BuildStep) : Prop :=
  (∀ r, st = .loadValidators r → ∀ field, ∀ b ∈ given field,
      b.value.resolve r = b.value.resolve record)
  ∧ ∀ field, st.directField? = some field → field ∈ known ∧ given field = []

namespace Further

variable {record : Json} {given : String → List Binding} {known : List String}
  {s t : ValidatorSet}

theorem apply (h : Further record given s t) (hs : Kept s) (ht : Kept t)
    (hks : known ⊆ s.loadedFields) (hkt : known ⊆ t.loadedFields) {c : Change}
    (hc : ∀ field is, c = .load field is → field ∈ known ∧ given field = []) :
    Further record given (s.apply c) (t.apply c) where
  frame := by cases c <;> (rw [h.frame]; rfl)
  order := by
    cases c with
    | bind field b =>
        rw [ValidatorSet.apply, ValidatorSet.apply, t.runOrder_addBinding, s.runOrder_addBinding,
          h.order]
    | load field is =>
        obtain ⟨hf, -⟩ := hc field is rfl
        rw [ValidatorSet.apply, ValidatorSet.apply, t.runOrder_addInstances (hkt hf),
          s.runOrder_addInstances (hks hf), h.order]
    | gate k => exact h.order
    | strict mode => exact h.order
  on field := by
    obtain ⟨bs, is, hsub, his, hpending, hinstances⟩ := h.on field
    refine ⟨bs, is, hsub, his, ?_, ?_⟩
    · rw [hs.pending_apply, ht.pending_apply, hpending, List.append_assoc]
    · rw [t.instances_apply, s.instances_apply, hinstances]
      -- A field with further instances is not loaded directly.
      have hnone : is = [] ∨ c.instancesOn field = [] := by
        cases c with
        | load f js =>
            by_cases hf : f = field
            · subst hf
              rw [(hc f js rfl).2, List.subset_nil] at hsub
              rw [hsub] at his
              cases his
              exact .inl rfl
            · exact .inr (if_neg hf)
        | bind f b => exact .inr rfl
        | gate k => exact .inr rfl
        | strict mode => exact .inr rfl
      rcases hnone with hnone | hnone
      · simp only [hnone, List.append_nil]
      · simp only [hnone, List.append_nil]

theorem applyAll (h : Further record given s t) (hs : Kept s) (ht : Kept t)
    (hks : known ⊆ s.loadedFields) (hkt : known ⊆ t.loadedFields) {cs : List Change}
    (hcs : ∀ field is, .load field is ∈ cs → field ∈ known ∧ given field = []) :
    Further record given (s.applyAll cs) (t.applyAll cs) := by
  induction cs generalizing s t with
  | nil => exact h
  | cons c cs ih =>
      refine ih (h.apply hs ht hks hkt ?_) (hs.apply _ c) (ht.apply _ c) ?_ ?_ ?_
      · rintro field is rfl
        exact hcs field is (List.mem_cons_self ..)
      · exact fun f hf => s.mem_loadedFields_apply c (hks hf)
      · exact fun f hf => t.mem_loadedFields_apply c (hkt hf)
      · exact fun field is hm => hcs field is (List.mem_cons_of_mem _ hm)

/-- A bulk load makes the same instances for a field of both sets, or fails
at it with the same error. -/
theorem on_loadField {r : Json} {field : String}
    (h : FurtherOn record (given field) s t field)
    (hr : ∀ b ∈ given field, b.value.resolve r = b.value.resolve record) :
    (∃ e, ValidatorSet.loadField r s field = .error e
        ∧ ValidatorSet.loadField r t field = .error e)
      ∨ ∃ u v, ValidatorSet.loadField r s field = .ok u ∧ ValidatorSet.loadField r t field = .ok v
        ∧ FurtherOn record (given field) u v field := by
  obtain ⟨bs, is, hsub, his, hpending, hinstances⟩ := h
  have hbs : bs.mapM (Binding.materialize r) = .ok is := by
    rw [← his]
    refine mapM_congr fun b hb => ?_
    rw [Binding.materialize, hr b (hsub hb)]
    rfl
  have hboth : (s.pending field).mapM (Binding.materialize r) =
      (t.pending field).mapM (Binding.materialize r) >>= fun js => .ok (is ++ js) := by
    rw [hpending, List.mapM_append, hbs]
    rfl
  cases hjs : (t.pending field).mapM (Binding.materialize r) with
  | error e =>
      rw [hjs] at hboth
      exact .inl ⟨e, s.loadField_eq_error.mpr hboth, t.loadField_eq_error.mpr hjs⟩
  | ok js =>
      rw [hjs] at hboth
      have hu := s.loadField_eq_ok.mpr ⟨is ++ js, hboth, rfl⟩
      have hv := t.loadField_eq_ok.mpr ⟨js, hjs, rfl⟩
      -- Both have all their instances now, so none is further.
      refine .inr ⟨_, _, hu, hv, [], [], List.nil_subset _, rfl, ?_, ?_⟩
      · obtain ⟨-, -, -, hpu⟩ := loadField_self hu
        obtain ⟨-, -, -, hpv⟩ := loadField_self hv
        rw [hpu, hpv]
        rfl
      · obtain ⟨isu, hisu, hiu, -⟩ := loadField_self hu
        obtain ⟨isv, hisv, hiv, -⟩ := loadField_self hv
        cases hboth.symm.trans hisu
        cases hjs.symm.trans hisv
        rw [hiu, hiv, hinstances, List.append_assoc, List.append_nil]

theorem on_loadFields {r : Json} (h : ∀ field, FurtherOn record (given field) s t field)
    (hr : ∀ field, ∀ b ∈ given field, b.value.resolve r = b.value.resolve record)
    (fields : List String) (field : String) :
    FurtherOn record (given field) (runBatch (ValidatorSet.loadField r) s fields).1
      (runBatch (ValidatorSet.loadField r) t fields).1 field := by
  induction fields generalizing s t with
  | nil => exact h field
  | cons f fields ih =>
      rcases on_loadField (h f) (hr f) with ⟨e, hs, ht⟩ | ⟨u, v, hu, hv, hf⟩
      · rw [runBatch_of_error hs, runBatch_of_error ht]
        exact h field
      · rw [runBatch_of_ok hu, runBatch_of_ok hv]
        refine ih fun g => ?_
        by_cases hg : g = f
        · exact hg ▸ hf
        · obtain ⟨bs, is, hsub, his, hpending, hinstances⟩ := h g
          have hlu := loadField_of_ne hu hg
          have hlv := loadField_of_ne hv hg
          refine ⟨bs, is, hsub, his, ?_, ?_⟩
          · rw [pending_congr (by rw [loadField_frame hu]) hlu,
              pending_congr (by rw [loadField_frame hv]) hlv, hpending]
          · rw [instances_congr hlu, instances_congr hlv, hinstances]

theorem loadValidators (h : Further record given s t) (hs : Kept s) (ht : Kept t) {r : Json}
    (hr : ∀ field, ∀ b ∈ given field, b.value.resolve r = b.value.resolve record) :
    Further record given (s.loadValidators r).1 (t.loadValidators r).1 where
  frame := by
    rw [t.loadValidators_eq, s.loadValidators_eq, t.loadFields_frame, s.loadFields_frame, h.frame]
  order := by rw [hs.runOrder_loadValidators, ht.runOrder_loadValidators, h.order]
  on field := by
    rw [s.loadValidators_eq, t.loadValidators_eq, h.fields_eq]
    exact on_loadFields h.on hr s.fields field

theorem take (h : Further record given s t) (hs : Kept s) (ht : Kept t)
    (hks : known ⊆ s.loadedFields) (hkt : known ⊆ t.loadedFields) {st : BuildStep}
    (hst : st.Spares record known given) :
    Further record given (s.take st).1 (t.take st).1 := by
  cases hb : st.bulkRecord? with
  | none =>
      have hregistry : t.registry = s.registry := by rw [h.frame]
      rw [s.take_eq_tryAll hb, t.take_eq_tryAll hb, hregistry]
      refine h.applyAll hs ht hks hkt fun field is hm => ?_
      exact hst.2 field (BuildStep.directField?_of_mem hm)
  | some r =>
      obtain rfl := BuildStep.eq_loadValidators hb
      exact h.loadValidators hs ht (hst.1 r rfl)

theorem takeAll (h : Further record given s t) (hs : Kept s) (ht : Kept t)
    (hks : known ⊆ s.loadedFields) (hkt : known ⊆ t.loadedFields) {steps : List BuildStep}
    (hsteps : ∀ st ∈ steps, st.Spares record known given) :
    Further record given (s.takeAll steps) (t.takeAll steps)
      ∧ Kept (s.takeAll steps) ∧ Kept (t.takeAll steps) := by
  induction steps generalizing s t with
  | nil => exact ⟨h, hs, ht⟩
  | cons st steps ih =>
      obtain ⟨hst, hsteps⟩ := List.forall_mem_cons.mp hsteps
      refine ih (h.take hs ht hks hkt hst) (hs.take st) (ht.take st) ?_ ?_ hsteps
      · exact fun f hf => ValidatorSet.mem_loadedFields_take st (hks hf)
      · exact fun f hf => ValidatorSet.mem_loadedFields_take st (hkt hf)

end Further

/-! ## After a failed load -/

/-- The bindings of a field that a load gives instances which is done with
some fields. -/
def ValidatorSet.given (s : ValidatorSet) (done : List String) (field : String) : List Binding :=
  if field ∈ done then s.pending field else []

theorem ValidatorSet.StopsAt.further {r₀ record : Json} {s t : ValidatorSet}
    {done : List String} {field : String} {e : ConfigError} (h : StopsAt r₀ s t done field e)
    (horder : t.runOrder = s.runOrder)
    (hr : ∀ f, ∀ b ∈ s.given done f, b.value.resolve r₀ = b.value.resolve record) :
    Further record (s.given done) s t where
  frame := h.frame
  order := horder
  on f := by
    by_cases hf : f ∈ done
    · obtain ⟨is, his, hinstances, hpending⟩ := h.whole f hf
      have hgiven : s.given done f = s.pending f := if_pos hf
      refine ⟨s.pending f, is, hgiven ▸ List.Subset.refl _, ?_, ?_, hinstances⟩
      · rw [← his]
        refine mapM_congr fun b hb => ?_
        rw [Binding.materialize, ← hr f b (hgiven ▸ hb)]
        rfl
      · rw [hpending, List.append_nil]
    · have hl := h.others f hf
      refine ⟨[], [], List.nil_subset _, rfl, ?_, ?_⟩
      · exact (pending_congr h.declared hl).symm
      · rw [instances_congr hl, List.append_nil]

/-- **A failed load is partial, field by field.** It leaves the set as it was
but for the fields before the one at which it stops, which are loaded whole.
After it, whatever steps follow, every record is evaluated as if the load had
not been tried, if that record and the records of later loads resolve the
operands of the bindings with new instances as the record of the failed load
does, and if no instance is loaded directly but for fields that had some
loaded before and were given none. -/
theorem failed_load_is_partial {start : Start} {steps : List BuildStep} {s : ValidatorSet}
    (hbuild : start.build steps = .ok s) {r₀ : Json} {e : ConfigError}
    (hfail : (s.loadValidators r₀).2 = some e) :
    ∃ done field rest, s.fields = done ++ field :: rest
      ∧ ValidatorSet.StopsAt r₀ s (s.loadValidators r₀).1 done field e
      ∧ ∀ later record,
        (∀ f, ∀ b ∈ s.given done f, b.value.resolve record = b.value.resolve r₀) →
        (∀ st ∈ later, st.Spares r₀ s.loadedFields (s.given done)) →
        ((s.loadValidators r₀).1.takeAll later).evaluate record =
          (s.takeAll later).evaluate record := by
  have hs := Kept.build hbuild
  rw [s.loadValidators_eq] at hfail
  obtain ⟨done, field, rest, hfields, hstop⟩ :=
    ValidatorSet.loadFields_stopsAt hs.nodup_fields hfail
  rw [← s.loadValidators_eq] at hstop
  refine ⟨done, field, rest, hfields, hstop, ?_⟩
  intro later record hrecord hlater
  have hfurther : Further record (s.given done) s (s.loadValidators r₀).1 :=
    hstop.further (hs.runOrder_loadValidators r₀) fun f b hb => (hrecord f b hb).symm
  have hknown : s.loadedFields ⊆ (s.loadValidators r₀).1.loadedFields := fun f hf =>
    ValidatorSet.mem_loadedFields_take (.loadValidators r₀) hf
  have hspares : ∀ st ∈ later, st.Spares record s.loadedFields (s.given done) := by
    intro st hst
    refine ⟨?_, (hlater st hst).2⟩
    intro r hr f b hb
    rw [(hlater st hst).1 r hr f b hb, hrecord f b hb]
  obtain ⟨hend, hs', ht'⟩ := hfurther.takeAll hs (hs.take (.loadValidators r₀))
    (List.Subset.refl _) hknown hspares
  exact hend.evaluate_eq hs'.nodup_fields hs'.nodup_loadedFields ht'.nodup_loadedFields

/-- Two fields, both with an operand that refers to the record. -/
def referringSteps : List BuildStep :=
  [.addValidatorFromRule "a:equal:[x]", .addValidatorFromRule "b:length:[n]"]

/-- A record that has a value for the first operand only. -/
def halfRecord : Json := .obj [("x", .str "1")]

/-- A record that has values for both. -/
def wholeRecord (x : String) : Json :=
  .obj [("a", .str "2"), ("b", .str "xyz"), ("x", .str x), ("n", .str "3")]

/-- Steps after the failed load: another declaration, and a load that
succeeds. -/
def stepsAfterFailure : List BuildStep :=
  [.addValidatorFromRule "a:not_empty", .loadValidators (wholeRecord "1")]

theorem failed_load_is_partial_on_first_field :
    ∃ s e, (Start.withRegistry .builtin).build referringSteps = .ok s
      ∧ (s.loadValidators halfRecord).2 = some e
      ∧ ((s.loadValidators halfRecord).1.takeAll stepsAfterFailure).evaluate (wholeRecord "1") =
        (s.takeAll stepsAfterFailure).evaluate (wholeRecord "1") := by
  have hrun : ((Start.withRegistry .builtin).build referringSteps >>= fun s =>
      pure (s.fields, (s.loadValidators halfRecord).2.isSome,
        (s.bindings "a").all fun b =>
          b.value.resolve (wholeRecord "1") = b.value.resolve halfRecord)).toOption =
      some (["a", "b"], true, true) := by decide +kernel
  obtain ⟨s, hs, hrun⟩ := bind_eq_ok.mp (toOption_eq_some.mp hrun)
  simp only [pure, Except.pure, Except.ok.injEq, Prod.mk.injEq, List.all_eq_true,
    decide_eq_true_eq] at hrun
  obtain ⟨hfields, hfail, halike⟩ := hrun
  obtain ⟨e, he⟩ := Option.isSome_iff_exists.mp hfail
  obtain ⟨done, field, rest, hsplit, -, hlater⟩ := failed_load_is_partial hs he
  have hfirst : ∀ f ∈ done, f = "a" := by
    rw [hfields] at hsplit
    match done, hsplit with
    | [], _ => nofun
    | [f], hsplit =>
        obtain ⟨rfl, -⟩ := List.cons_eq_cons.mp hsplit
        exact fun f hf => List.mem_singleton.mp hf
    | f :: g :: done, hsplit => simp at hsplit
  have hgiven : ∀ f, ∀ b ∈ s.given done f,
      b.value.resolve (wholeRecord "1") = b.value.resolve halfRecord := by
    intro f b hb
    rw [ValidatorSet.given] at hb
    split at hb
    next hf =>
      rw [hfirst f hf] at hb
      exact halike b (List.mem_of_mem_drop hb)
    next => cases hb
  refine ⟨s, e, hs, he, hlater stepsAfterFailure _ hgiven ?_⟩
  intro st hst
  simp only [stepsAfterFailure, List.mem_cons, List.not_mem_nil, or_false] at hst
  rcases hst with rfl | rfl
  · exact ⟨nofun, nofun⟩
  · refine ⟨?_, nofun⟩
    rintro r hr
    cases hr
    exact hgiven

/-- The booleans that an evaluation records for the first of the fields. -/
def firstBooleans (record : Json) (s : ValidatorSet) : Option (List Bool) :=
  (s.evaluate record).toOption.bind fun report => report.evaluated? "a"

/-- A failed load shows where an operand refers to another value later. It
also shows where an instance is loaded directly behind those that it made. -/
theorem failed_load_shows :
    ∃ s, (Start.withRegistry .builtin).build referringSteps = .ok s
      ∧ (s.loadValidators halfRecord).2 ≠ none
      ∧ (s.loadValidators halfRecord).1.evaluate (wholeRecord "2") ≠ s.evaluate (wholeRecord "2")
      ∧ ((s.loadValidators halfRecord).1.takeAll [.loadValidator "a" lenient .null]).evaluate
          (wholeRecord "1")
        ≠ (s.takeAll [.loadValidator "a" lenient .null]).evaluate (wholeRecord "1") := by
  have hrun : ((Start.withRegistry .builtin).build referringSteps >>= fun s =>
      pure ((s.loadValidators halfRecord).2.isSome,
        [firstBooleans (wholeRecord "2") (s.loadValidators halfRecord).1,
          firstBooleans (wholeRecord "2") s,
          firstBooleans (wholeRecord "1")
            ((s.loadValidators halfRecord).1.takeAll [.loadValidator "a" lenient .null]),
          firstBooleans (wholeRecord "1")
            (s.takeAll [.loadValidator "a" lenient .null])])).toOption =
      some (true, [some [false], some [true], some [false, true], some [true, false]]) := by
    decide +kernel
  obtain ⟨s, hs, hrun⟩ := bind_eq_ok.mp (toOption_eq_some.mp hrun)
  simp only [pure, Except.pure, Except.ok.injEq, Prod.mk.injEq, List.cons.injEq] at hrun
  obtain ⟨hfail, ht, hs', htd, hsd, -⟩ := hrun
  refine ⟨s, hs, Option.isSome_iff_ne_none.mp hfail, ?_, ?_⟩
  · intro h
    rw [firstBooleans, h, ← firstBooleans, hs'] at ht
    cases ht
  · intro h
    rw [firstBooleans, h, ← firstBooleans, hsd] at htd
    cases htd

end RecordRules
