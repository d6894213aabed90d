import RecordRules.Proofs.ValidatorSet.Changes

/-!
# What steps do to a set

A step reads the registry of the set and what it is given, and nothing else that
other steps change. So a step that declares one thing makes one attempt
(`after_addValidator`, `after_loadValidator`, `after_addConditionFromRule`), and
steps of several elements make the attempts of their elements in order
(`after_forM_eq_tryAll`): a step other than a bulk load makes its attempts up to
the first error (`take_eq_tryAll`), and so does a start (`Start.make_eq_ok`). A
bulk load is a batch of its fields, each of which is loaded or left as it was
(`take_loadValidators`).

What every change and every loaded field keeps, all sets have that are built
(`Start.build_induct`).
-/

namespace RecordRules

theorem BuildStep.eq_loadValidators {st : BuildStep} {record : Json}
    (h : st.bulkRecord? = some record) : st = .loadValidators record := by
  cases st <;> cases h
  rfl

namespace ValidatorSet

/-! ## Steps as attempts -/

variable (s : ValidatorSet)

/-- Attempts are made as long as those before them succeed. -/
theorem tryAll_append (rs ts : List (Except ConfigError Change)) :
    s.tryAll (rs ++ ts) =
      match s.tryAll rs with
      | (t, none) => t.tryAll ts
      | (t, some e) => (t, some e) := by
  induction rs generalizing s with
  | nil => rfl
  | cons r rs ih =>
      cases r with
      | error e => rfl
      | ok c => exact ih (s.apply c)

/-- Steps that make attempts make them in order, up to the first error. -/
theorem after_forM_eq_tryAll {α : Type} (step : α → Building Unit)
    (attempts : Registry → α → List (Except ConfigError Change))
    (hs : ∀ (s : ValidatorSet) a, s.after (step a) = s.tryAll (attempts s.registry a))
    (as : List α) : s.after (as.forM step) = s.tryAll (as.flatMap (attempts s.registry)) := by
  induction as generalizing s with
  | nil => rfl
  | cons a as ih =>
      have hregistry := registry_tryAll s (attempts s.registry a)
      change s.after (step a >>= fun _ => as.forM step) = _
      rw [after_bind, List.flatMap_cons, tryAll_append, hs]
      cases ht : s.tryAll (attempts s.registry a) with
      | mk t e =>
          rw [ht] at hregistry
          cases e with
          | none => exact (ih t).trans (by rw [hregistry])
          | some e => rfl

/-- Steps that make one attempt each. -/
theorem after_forM_eq_tryAll_map {α : Type} {step : α → Building Unit}
    (attempt : Registry → α → Except ConfigError Change)
    (hs : ∀ (s : ValidatorSet) a, s.after (step a) = s.tryAll [attempt s.registry a])
    (as : List α) : s.after (as.forM step) = s.tryAll (as.map (attempt s.registry)) := by
  rw [s.after_forM_eq_tryAll step (fun registry a => [attempt registry a]) hs,
    ← List.map_eq_flatMap]

/-! ### Declaring -/

theorem after_addValidator (field capability : String) (value : Operand)
    (message : Option String) :
    s.after (Building.addValidator field capability value message) =
      s.tryAll [Change.declaring s.registry field capability value message] := by
  have hb : (withRegistry s.registry).bindingFor field capability value message =
      s.bindingFor field capability value message := rfl
  rw [Building.addValidator, after_get, after_lift, Change.declaring, hb]
  cases s.bindingFor field capability value message <;> rfl

theorem after_addValidatorsToField (field : String) (pairs : List (String × Operand)) :
    s.after (Building.addValidatorsToField field pairs) =
      s.tryAll (pairs.map fun p => Change.declaring s.registry field p.1 p.2 none) :=
  s.after_forM_eq_tryAll_map
    (fun registry (p : String × Operand) => Change.declaring registry field p.1 p.2 none)
    (fun t p => t.after_addValidator field p.1 p.2 none) pairs

/-- Field by field, the validators are declared as if they were all of one list. -/
theorem after_addValidators (validators : List (String × List (String × Operand))) :
    s.after (Building.addValidators validators) =
      s.tryAll ((validators.flatMap fun (field, pairs) => pairs.map fun p => (field, p)).map
        fun p => Change.declaring s.registry p.1 p.2.1 p.2.2 none) := by
  have hfields := s.after_forM_eq_tryAll
    (fun v : String × List (String × Operand) => Building.addValidatorsToField v.1 v.2)
    (fun registry v => (v.2.map fun p => (v.1, p)).map
      fun p => Change.declaring registry p.1 p.2.1 p.2.2 none)
    (fun t v => (t.after_addValidatorsToField v.1 v.2).trans (by rw [List.map_map]; rfl)) validators
  rw [List.map_flatMap]
  exact hfields

theorem after_addRule (r : Rule) :
    s.after (Building.addRule r) = s.tryAll [Change.declaringRule s.registry r] :=
  s.after_addValidator r.field r.capability r.value r.message

theorem after_addValidatorFromRule (text : String) :
    s.after (Building.addValidatorFromRule text) =
      s.tryAll [Change.declaringEntry s.registry (.line text)] := by
  have ht : (RuleEntry.line text).toRule s.registry = Rule.read s.registry text := rfl
  rw [Building.addValidatorFromRule, after_get, after_lift, Change.declaringEntry, ht]
  cases Rule.read s.registry text with
  | error e => rfl
  | ok r =>
      rw [ok_bind]
      exact s.after_addRule r

theorem after_addValidatorsFromRules (texts : List String) :
    s.after (Building.addValidatorsFromRules texts) =
      s.tryAll (texts.map fun text => Change.declaringEntry s.registry (.line text)) :=
  s.after_forM_eq_tryAll_map (fun registry text => Change.declaringEntry registry (.line text))
    (fun t text => t.after_addValidatorFromRule text) texts

/-! ### Loading, conditions, strictness -/

theorem after_loadValidator (field : String) (i : Instance) (record : Json) :
    s.after (Building.loadValidator field i record) =
      s.tryAll [Change.loading field record i] := by
  rw [Building.loadValidator, after_lift, Change.loading]
  cases i.resolve record <;> rfl

theorem after_loadValidatorsToField (field : String) (is : List Instance) (record : Json) :
    s.after (Building.loadValidatorsToField field is record) =
      s.tryAll (is.map (Change.loading field record)) :=
  s.after_forM_eq_tryAll_map (fun _ i => Change.loading field record i)
    (fun t i => t.after_loadValidator field i record) is

theorem addConditions_eq (cs : List Condition) :
    s.addConditions cs = s.applyAll (cs.map .gate) := by
  induction cs generalizing s with
  | nil => simp [addConditions, applyAll]
  | cons c cs ih =>
      refine Eq.trans ?_ (ih (s.addCondition c))
      simp [addConditions, addCondition]

theorem after_addConditionFromRule (text : String) :
    s.after (Building.addConditionFromRule text) =
      s.tryAll [Change.gating s.registry (.line text)] := by
  have ht : (RuleEntry.line text).toRule s.registry = Rule.read s.registry text := rfl
  rw [Building.addConditionFromRule, after_get, after_lift, Condition.read, Change.gating, ht]
  cases Rule.read s.registry text with
  | error e => rfl
  | ok r =>
      rw [ok_bind, ok_bind]
      cases Condition.ofRule s.registry r <;> rfl

theorem after_addConditionsFromRules (texts : List String) :
    s.after (Building.addConditionsFromRules texts) =
      s.tryAll (texts.map fun text => Change.gating s.registry (.line text)) :=
  s.after_forM_eq_tryAll_map (fun registry text => Change.gating registry (.line text))
    (fun t text => t.after_addConditionFromRule text) texts

/-- A step that is no bulk load makes its attempts up to the first error. -/
theorem take_eq_tryAll {st : BuildStep} (h : st.bulkRecord? = none) :
    s.take st = s.tryAll (st.attempts s.registry) := by
  cases st with
  | addValidator field capability value message =>
      exact s.after_addValidator field capability value message
  | addValidatorsToField field pairs => exact s.after_addValidatorsToField field pairs
  | addValidators validators => exact s.after_addValidators validators
  | addRule r => exact s.after_addRule r
  | addValidatorFromRule text => exact s.after_addValidatorFromRule text
  | addValidatorsFromRules texts => exact s.after_addValidatorsFromRules texts
  | loadValidator field i record => exact s.after_loadValidator field i record
  | loadValidatorsToField field instances record =>
      exact s.after_loadValidatorsToField field instances record
  | loadValidators record => cases h
  | addCondition c => rfl
  | addConditions cs =>
      rw [take, BuildStep.run, after_modify, addConditions_eq, tryAll, BuildStep.attempts,
        successes_map_ok, firstError_map_ok]
  | addConditionFromRule text => exact s.after_addConditionFromRule text
  | addConditionsFromRules texts => exact s.after_addConditionsFromRules texts
  | setStrict mode => rfl
  | setStrictLevel level =>
      rw [take, BuildStep.run, Building.setStrictLevel, BuildStep.attempts]
      cases StrictMode.ofLevel? level <;> rfl

/-! ## Sets with one more validator -/

theorem expectAll_tryAll_singleton (r : Except ConfigError Change) :
    expectAll (s.tryAll [r]) = r.map s.apply := by
  cases r <;> rfl

theorem addValidator_eq (field capability : String) (value : Operand) (message : Option String) :
    s.addValidator field capability value message =
      (Change.declaring s.registry field capability value message).map s.apply := by
  rw [addValidator, after_addValidator, expectAll_tryAll_singleton]

section

variable {s} {field capability : String} {value : Operand} {message : Option String}

theorem addValidator_of_bindingFor {b : Binding}
    (h : s.bindingFor field capability value message = .ok b) :
    s.addValidator field capability value message = .ok (s.addBinding field b) := by
  rw [addValidator, Building.addValidator, after_get, after_lift, h]
  rfl

/-- What is declared once the capability is found and the operand shaped. -/
theorem addValidator_of_resolve {e : Entry} {shaped : Operand}
    (he : s.registry.resolve capability = .ok e) (hv : value.shaped e.shape field = shaped)
    (message : Option String) :
    s.addValidator field capability value message =
      .ok (s.addBinding field ⟨e, shaped, message⟩) := by
  refine addValidator_of_bindingFor ?_
  rw [bindingFor, he, ← hv]
  rfl

end

theorem addRule_eq (r : Rule) :
    s.addRule r = (Change.declaringRule s.registry r).map s.apply :=
  s.addValidator_eq r.field r.capability r.value r.message

theorem addValidatorEntry_eq (entry : RuleEntry) :
    Document.addValidatorEntry s entry =
      (Change.declaringEntry s.registry entry).map s.apply := by
  unfold Document.addValidatorEntry Change.declaringEntry
  cases entry.toRule s.registry with
  | error e => rfl
  | ok r => exact s.addRule_eq r

theorem addValidatorFromRule_eq (text : String) :
    s.addValidatorFromRule text = (Change.declaringEntry s.registry (.line text)).map s.apply := by
  rw [addValidatorFromRule, after_addValidatorFromRule, expectAll_tryAll_singleton]

theorem addConditionEntry_eq (entry : RuleEntry) :
    Document.addConditionEntry s entry = (Change.gating s.registry entry).map s.apply := by
  unfold Document.addConditionEntry Change.gating
  cases entry.toRule s.registry with
  | error e => rfl
  | ok r =>
      change (Condition.ofRule s.registry r >>= _) =
        Except.map _ (Condition.ofRule s.registry r >>= _)
      cases Condition.ofRule s.registry r <;> rfl

/-- A batch whose steps attempt changes makes them up to the first error. -/
theorem runBatch_eq_tryAll {α : Type} (attempt : Registry → α → Except ConfigError Change)
    {step : ValidatorSet → α → Except ConfigError ValidatorSet}
    (hs : ∀ s a, step s a = (attempt s.registry a).map s.apply) (as : List α) :
    runBatch step s as = s.tryAll (as.map (attempt s.registry)) := by
  refine runBatch_eq_attempts (fun t => t.registry = s.registry) ?_ ?_ rfl as
  · rintro t a ht
    rw [hs, ht]
  · rintro t c ht
    rw [registry_apply, ht]

/-! ## Bulk loads -/

/-- Loading a field makes an instance of each of its bindings that has none, or
it leaves the set as it was. -/
theorem after_loadField (record : Json) (field : String) :
    s.after (Building.loadField record field) =
      match (s.pending field).mapM (Binding.materialize record) with
      | .ok is => (if is.isEmpty then s else s.addInstances field is is.length, none)
      | .error e => (s, some e) := by
  rw [Building.loadField, after_get, after_lift]
  cases (s.pending field).mapM (Binding.materialize record) with
  | error e => rfl
  | ok is => cases is <;> rfl

theorem loadField_eq (record : Json) (field : String) :
    loadField record s field =
      ((s.pending field).mapM (Binding.materialize record)).map fun is =>
        if is.isEmpty then s else s.addInstances field is is.length := by
  rw [loadField, after_loadField]
  cases (s.pending field).mapM (Binding.materialize record) <;> rfl

theorem loadField_eq_ok {t : ValidatorSet} {record : Json} {field : String} :
    loadField record s field = .ok t ↔
      ∃ is, (s.pending field).mapM (Binding.materialize record) = .ok is ∧
        t = if is.isEmpty then s else s.addInstances field is is.length := by
  rw [loadField_eq]
  cases (s.pending field).mapM (Binding.materialize record) with
  | error e => exact ⟨(nomatch ·), fun ⟨_, h, _⟩ => nomatch h⟩
  | ok is =>
      constructor
      · intro h
        cases h
        exact ⟨is, rfl, rfl⟩
      · rintro ⟨is', his, rfl⟩
        cases his
        rfl

theorem loadField_eq_error {record : Json} {field : String} {e : ConfigError} :
    loadField record s field = .error e ↔
      (s.pending field).mapM (Binding.materialize record) = .error e := by
  rw [loadField_eq]
  cases (s.pending field).mapM (Binding.materialize record) with
  | error e' => rw [Except.map, Except.error.injEq, Except.error.injEq]
  | ok is => exact iff_of_false nofun nofun

/-- Fields are loaded one after the other, up to the first that fails. -/
theorem after_loadFields (record : Json) (fields : List String) :
    s.after (fields.forM (Building.loadField record)) = runBatch (loadField record) s fields := by
  induction fields generalizing s with
  | nil => rfl
  | cons field fields ih =>
      change s.after (Building.loadField record field >>= fun _ => _) = _
      rw [after_bind, runBatch, loadField_eq, after_loadField]
      cases (s.pending field).mapM (Binding.materialize record) with
      | error e => rfl
      | ok is => exact ih _

theorem loadValidators_eq (record : Json) :
    s.loadValidators record = runBatch (loadField record) s s.fields :=
  s.after_loadFields record s.fields

theorem take_loadValidators (record : Json) :
    s.take (.loadValidators record) = runBatch (loadField record) s s.fields :=
  s.loadValidators_eq record

/-- The bindings that have an instance once a field is loaded: all of them. -/
theorem take_materialized_add {record : Json} {field : String} {is : List Instance}
    (his : (s.pending field).mapM (Binding.materialize record) = .ok is)
    (hle : s.materialized field ≤ (s.bindings field).length) :
    s.materialized field + is.length = (s.bindings field).length
      ∧ (s.bindings field).take (s.materialized field + is.length) =
        (s.bindings field).take (s.materialized field) ++ s.pending field := by
  have hlen := (mapM_eq_ok.mp his).length_eq
  rw [pending, List.length_drop] at hlen
  have hall : s.materialized field + is.length = (s.bindings field).length := by omega
  refine ⟨hall, ?_⟩
  rw [hall, List.take_length, pending, List.take_append_drop]

/-- There are still no more materialized bindings than bindings. -/
theorem materialized_fill_le {record : Json} {field : String} {is : List Instance}
    (his : (s.pending field).mapM (Binding.materialize record) = .ok is)
    (hle : ∀ other, s.materialized other ≤ (s.bindings other).length) (other : String) :
    (s.addInstances field is is.length).materialized other ≤ (s.bindings other).length := by
  by_cases ho : other = field
  · subst ho
    rw [s.materialized_addInstances_self]
    exact Nat.le_of_eq (s.take_materialized_add his (hle other)).1
  · rw [s.materialized_addInstances_of_ne field is _ ho]
    exact hle other

section LoadField

variable {s} {t : ValidatorSet} {record : Json} {field : String}

theorem loadField_frame (h : loadField record s field = .ok t) :
    t = { s with loaded := t.loaded } := by
  obtain ⟨is, -, rfl⟩ := s.loadField_eq_ok.mp h
  split <;> rfl

theorem loadField_of_ne (h : loadField record s field = .ok t) {other : String}
    (ho : other ≠ field) : t.loadedField? other = s.loadedField? other := by
  obtain ⟨is, -, rfl⟩ := s.loadField_eq_ok.mp h
  split
  · rfl
  · exact s.loadedField?_addInstances_of_ne field is _ ho

/-- All that is pending for the field is made and put behind its instances. -/
theorem loadField_self (h : loadField record s field = .ok t) :
    ∃ is, (s.pending field).mapM (Binding.materialize record) = .ok is
      ∧ t.instances field = s.instances field ++ is ∧ t.pending field = [] := by
  obtain ⟨is, his, rfl⟩ := s.loadField_eq_ok.mp h
  have hlen : (s.pending field).length = is.length := (mapM_eq_ok.mp his).length_eq
  refine ⟨is, his, ?_⟩
  split
  next hempty =>
    rw [List.isEmpty_iff.mp hempty] at hlen ⊢
    exact ⟨(List.append_nil _).symm, List.length_eq_zero_iff.mp hlen⟩
  next =>
    refine ⟨s.instances_addInstances_self field is is.length, ?_⟩
    rw [pending, materialized_addInstances_self, ← List.drop_drop, List.drop_eq_nil_iff]
    exact Nat.le_of_eq hlen

end LoadField

/-- Loading fields alters nothing but what is loaded. -/
theorem loadFields_frame (record : Json) (fields : List String) :
    (runBatch (loadField record) s fields).1 =
      { s with loaded := (runBatch (loadField record) s fields).1.loaded } := by
  refine runBatch_induct (P := fun t : ValidatorSet => t = { s with loaded := t.loaded })
    ?_ rfl fields
  intro t u field ht hu
  rw [loadField_frame hu, ht]

/-- A step leaves the registry alone. -/
@[simp] theorem registry_take (st : BuildStep) : (s.take st).1.registry = s.registry := by
  cases hb : st.bulkRecord? with
  | none => rw [s.take_eq_tryAll hb, registry_tryAll]
  | some record =>
      obtain rfl := BuildStep.eq_loadValidators hb
      rw [take_loadValidators, loadFields_frame]

end ValidatorSet

/-! ## Which changes steps make -/

/-- Only steps that load directly make changes that do. -/
theorem BuildStep.isLoad_changes {st : BuildStep} (h : st.loadsDirectly = false)
    {registry : Registry} {c : Change} (hc : c ∈ st.changes registry) : c.isLoad = false := by
  have hbind : ∀ {field capability value message},
      Change.declaring registry field capability value message = .ok c → c.isLoad = false := by
    intro field capability value message hd
    obtain ⟨b, rfl⟩ := Change.declaring_eq_ok hd
    rfl
  have hentry : ∀ {entry}, Change.declaringEntry registry entry = .ok c → c.isLoad = false := by
    intro entry hd
    obtain ⟨f, b, rfl⟩ := Change.declaringEntry_eq_ok hd
    rfl
  have hgate : ∀ {entry}, Change.gating registry entry = .ok c → c.isLoad = false := by
    intro entry hd
    obtain ⟨k, rfl⟩ := Change.gating_eq_ok hd
    rfl
  have hmem := mem_successes hc
  cases st with
  | addValidator => exact hbind (List.mem_singleton.mp hmem).symm
  | addValidatorsToField =>
      obtain ⟨p, -, hp⟩ := List.mem_map.mp hmem
      exact hbind hp
  | addValidators =>
      obtain ⟨p, -, hp⟩ := List.mem_map.mp hmem
      exact hbind hp
  | addRule => exact hbind (List.mem_singleton.mp hmem).symm
  | addValidatorFromRule => exact hentry (List.mem_singleton.mp hmem).symm
  | addValidatorsFromRules =>
      obtain ⟨text, -, ht⟩ := List.mem_map.mp hmem
      exact hentry ht
  | loadValidator => cases h
  | loadValidatorsToField => cases h
  | loadValidators => cases hmem
  | addCondition =>
      cases List.mem_singleton.mp hmem
      rfl
  | addConditions =>
      obtain ⟨k, -, hk⟩ := List.mem_map.mp hmem
      cases hk
      rfl
  | addConditionFromRule => exact hgate (List.mem_singleton.mp hmem).symm
  | addConditionsFromRules =>
      obtain ⟨text, -, ht⟩ := List.mem_map.mp hmem
      exact hgate ht
  | setStrict =>
      cases List.mem_singleton.mp hmem
      rfl
  | setStrictLevel level =>
      rw [BuildStep.attempts] at hmem
      cases hl : StrictMode.ofLevel? level with
      | none => simp [hl] at hmem
      | some mode =>
          rw [hl] at hmem
          cases List.mem_singleton.mp hmem
          rfl

/-! ## Starts as attempts -/

/-- Attempts that must not fail, one list after the other. -/
theorem ValidatorSet.expectAll_tryAll_append (s : ValidatorSet)
    (rs ts : List (Except ConfigError Change)) :
    expectAll (s.tryAll (rs ++ ts)) =
      expectAll (s.tryAll rs) >>= fun t => expectAll (t.tryAll ts) := by
  rw [tryAll_append]
  obtain ⟨t, e⟩ := s.tryAll rs
  cases e <;> rfl

namespace Document

theorem foldlM_addConditionEntry (s : ValidatorSet) (entries : List RuleEntry) :
    entries.foldlM addConditionEntry s =
      expectAll (s.tryAll (entries.map (Change.gating s.registry))) := by
  rw [foldlM_eq_expectAll, s.runBatch_eq_tryAll Change.gating ValidatorSet.addConditionEntry_eq]

theorem foldlM_addValidatorEntry (s : ValidatorSet) (entries : List RuleEntry) :
    entries.foldlM addValidatorEntry s =
      expectAll (s.tryAll (entries.map (Change.declaringEntry s.registry))) := by
  rw [foldlM_eq_expectAll,
    s.runBatch_eq_tryAll Change.declaringEntry ValidatorSet.addValidatorEntry_eq]

/-- A document's set is the empty one with the changes that its entries are. -/
theorem build_eq_expectAll (registry : Registry) (d : Document) :
    d.build registry =
      expectAll ((ValidatorSet.withRegistry registry).tryAll
        (.ok (.strict d.strict) :: (d.conditions.map (Change.gating registry)
          ++ d.validators.map (Change.declaringEntry registry)))) := by
  have hb : d.build registry =
      (d.conditions.foldlM addConditionEntry
        ((ValidatorSet.withRegistry registry).setStrict d.strict)
        >>= fun t => d.validators.foldlM addValidatorEntry t) := rfl
  have ht : ∀ t : ValidatorSet, t.registry = registry → d.validators.foldlM addValidatorEntry t =
      expectAll (t.tryAll (d.validators.map (Change.declaringEntry registry))) := by
    rintro t rfl
    exact foldlM_addValidatorEntry t d.validators
  rw [hb, foldlM_addConditionEntry]
  change _ = expectAll (((ValidatorSet.withRegistry registry).setStrict d.strict).tryAll (_ ++ _))
  rw [ValidatorSet.expectAll_tryAll_append]
  refine bind_congr_ok fun t h => ht t ?_
  obtain rfl : _ = t := congrArg Prod.fst (expectAll_eq_ok.mp h)
  rw [ValidatorSet.registry_tryAll]
  rfl

theorem build_eq_ok {registry : Registry} {d : Document} {s : ValidatorSet} :
    d.build registry = .ok s ↔
      (ValidatorSet.withRegistry registry).tryAll
        (.ok (.strict d.strict) :: (d.conditions.map (Change.gating registry)
          ++ d.validators.map (Change.declaringEntry registry))) = (s, none) := by
  rw [build_eq_expectAll, expectAll_eq_ok]

end Document

namespace Start

/-- The set at a start is the empty one over its registry with the changes of
the start. -/
theorem make_eq_ok {start : Start} {s : ValidatorSet} :
    start.make = .ok s ↔
      (ValidatorSet.withRegistry start.registry).tryAll start.attempts = (s, none) := by
  cases start with
  | withRegistry registry => exact ⟨fun h => by cases h; rfl, fun h => by cases h; rfl⟩
  | ofRules texts strict =>
      rw [make, ValidatorSet.ofRules, expectAll_eq_ok, ValidatorSet.after_addValidatorsFromRules]
      rfl
  | ofField field pairs strict =>
      rw [make, ValidatorSet.ofField, expectAll_eq_ok, ValidatorSet.after_addValidatorsToField]
      rfl
  | ofInstances field instances strict =>
      exact ⟨fun h => by cases h; rfl, fun h => by cases h; rfl⟩
  | ofDocument registry d => exact Document.build_eq_ok

theorem make_fst {start : Start} {s : ValidatorSet} (h : start.make = .ok s) :
    s = (ValidatorSet.withRegistry start.registry).applyAll start.changes :=
  (congrArg Prod.fst (make_eq_ok.mp h)).symm

end Start

/-! ## What building keeps -/

section Induction

variable {P : ValidatorSet → Prop} (happly : ∀ s c, P s → P (s.apply c))
  (hload : ∀ {s t : ValidatorSet} {record : Json} {field : String},
    P s → ValidatorSet.loadField record s field = .ok t → P t)

include happly in
theorem ValidatorSet.applyAll_induct {s : ValidatorSet} (hs : P s) (cs : List Change) :
    P (s.applyAll cs) := by
  induction cs generalizing s with
  | nil => exact hs
  | cons c cs ih => exact ih (happly s c hs)

include happly hload in
/-- What no change and no load takes away, no step does. -/
theorem ValidatorSet.take_induct {s : ValidatorSet} (hs : P s) (st : BuildStep) :
    P (s.take st).1 := by
  cases hb : st.bulkRecord? with
  | none =>
      rw [s.take_eq_tryAll hb]
      exact applyAll_induct happly hs _
  | some record =>
      obtain rfl := BuildStep.eq_loadValidators hb
      rw [s.take_loadValidators]
      exact runBatch_induct hload hs s.fields

include happly hload in
/-- What the empty sets have besides, every set has that is built. -/
theorem Start.build_induct (hnew : ∀ registry, P (.withRegistry registry)) {start : Start}
    {steps : List BuildStep} {s : ValidatorSet} (h : start.build steps = .ok s) : P s := by
  have htakeAll : ∀ steps s, P s → P (s.takeAll steps) := by
    intro steps s hs
    induction steps generalizing s with
    | nil => exact hs
    | cons st steps ih => exact ih _ (ValidatorSet.take_induct happly hload hs st)
  obtain ⟨s₀, hs₀, hs⟩ := bind_eq_ok.mp h
  cases hs
  rw [make_fst hs₀]
  exact htakeAll steps _ (ValidatorSet.applyAll_induct happly (hnew start.registry) start.changes)

end Induction

end RecordRules
