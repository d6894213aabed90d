import RecordRules.Proofs.ValidatorSet.Steps

/-!
# Steps that fail

A step of building, bulk loading apart, does one thing or is a batch of steps
that do one thing each (`BuildStep.elements`). A batch in groups is a batch of
batches, and its elements are those of the groups
(`ValidatorSet.after_addValidators`). A step that does one thing succeeds or
leaves the set as it was, since it looks at all that may fail before it changes
anything (`ValidatorSet.take_single`). So a batch that fails leaves what the
steps before the failing one make of the set, one after the other
(`failed_step_keeps_successes`).

`ValidatorSet.Takes` says that steps succeed one after the other, and
`ValidatorSet.FailsIn` that they do until one of them fails. What a batch comes
to is compared with both by induction on the elements: either the first of them
succeeds, and the rest is a batch for the set that it leaves, or it fails and
nothing comes after it.
-/

namespace RecordRules

namespace BuildStep

/-! ## Elements -/

/-- The step does one thing. -/
def isSingle : BuildStep → Bool
  | .addValidatorsToField .. | .addValidators _ | .addValidatorsFromRules _
  | .loadValidatorsToField .. | .addConditions _ | .addConditionsFromRules _ => false
  | .loadValidators _ => false
  | _ => true

/-- The steps of a batch, in order; a step that is no batch is its only
element. -/
def elements : BuildStep → List BuildStep
  | .addValidatorsToField field pairs =>
    pairs.map fun (capability, value) => .addValidator field capability value none
  | .addValidators validators =>
    validators.flatMap fun (field, pairs) =>
      pairs.map fun (capability, value) => .addValidator field capability value none
  | .addValidatorsFromRules texts => texts.map .addValidatorFromRule
  | .loadValidatorsToField field instances record =>
    instances.map fun i => .loadValidator field i record
  | .addConditions cs => cs.map .addCondition
  | .addConditionsFromRules texts => texts.map .addConditionFromRule
  | st => [st]

variable {st : BuildStep}

theorem isSingle_of_mem_elements (hst : st.isBulkLoad = false) {a : BuildStep}
    (h : a ∈ st.elements) : a.isSingle = true := by
  cases st with
  | addValidatorsToField field pairs =>
      obtain ⟨p, -, rfl⟩ := List.mem_map.mp h
      rfl
  | addValidators validators =>
      obtain ⟨group, -, h⟩ := List.mem_flatMap.mp h
      obtain ⟨p, -, rfl⟩ := List.mem_map.mp h
      rfl
  | addValidatorsFromRules texts | addConditionsFromRules texts =>
      obtain ⟨text, -, rfl⟩ := List.mem_map.mp h
      rfl
  | loadValidatorsToField field instances record =>
      obtain ⟨i, -, rfl⟩ := List.mem_map.mp h
      rfl
  | addConditions cs =>
      obtain ⟨c, -, rfl⟩ := List.mem_map.mp h
      rfl
  | loadValidators record => cases hst
  | addValidator | addRule | addValidatorFromRule | loadValidator | addCondition
  | addConditionFromRule | setStrict | setStrictLevel =>
      rw [List.mem_singleton.mp h]
      rfl

theorem bulkRecord?_of_isSingle (h : st.isSingle = true) : st.bulkRecord? = none := by
  cases st <;> first | rfl | cases h

/-- A step that does one thing makes one attempt. -/
theorem attempts_of_isSingle (h : st.isSingle = true) (registry : Registry) :
    ∃ r, st.attempts registry = [r] := by
  cases st with
  | addValidatorsToField | addValidators | addValidatorsFromRules | loadValidatorsToField
  | loadValidators | addConditions | addConditionsFromRules => cases h
  | setStrictLevel level =>
      rw [attempts]
      cases StrictMode.ofLevel? level <;> exact ⟨_, rfl⟩
  | addValidator | addRule | addValidatorFromRule | loadValidator | addCondition
  | addConditionFromRule | setStrict => exact ⟨_, rfl⟩

/-- A step attempts what its elements attempt. -/
theorem attempts_eq_flatMap (st : BuildStep) (registry : Registry) :
    st.attempts registry = st.elements.flatMap (attempts registry) := by
  have hmap : ∀ {α : Type} (as : List α) (f : α → BuildStep)
      (attempt : α → Except ConfigError Change), (∀ a, (f a).attempts registry = [attempt a]) →
      as.map attempt = (as.map f).flatMap (attempts registry) := by
    intro α as f attempt hf
    rw [List.flatMap_map, List.map_eq_flatMap]
    exact List.flatMap_congr fun a _ => (hf a).symm
  cases st with
  | addValidatorsToField field pairs => exact hmap pairs _ _ fun _ => rfl
  | addValidators validators =>
      rw [attempts, elements, List.map_flatMap, List.flatMap_assoc]
      refine List.flatMap_congr fun group _ => ?_
      rw [List.map_map]
      exact hmap group.2 _ _ fun _ => rfl
  | addValidatorsFromRules texts | addConditionsFromRules texts =>
      exact hmap texts _ _ fun _ => rfl
  | loadValidatorsToField field instances record => exact hmap instances _ _ fun _ => rfl
  | addConditions cs => exact hmap cs _ _ fun _ => rfl
  | addValidator | addRule | addValidatorFromRule | loadValidator | loadValidators | addCondition
  | addConditionFromRule | setStrict | setStrictLevel => exact (List.append_nil _).symm

end BuildStep

/-! ## Steps that succeed -/

namespace ValidatorSet

/-- Steps are taken one after the other, and all of them succeed. -/
inductive Takes : ValidatorSet → List BuildStep → ValidatorSet → Prop
  | nil (s : ValidatorSet) : Takes s [] s
  | cons {s t u : ValidatorSet} {a : BuildStep} {as : List BuildStep} (head : s.take a = (t, none))
    (tail : Takes t as u) : Takes s (a :: as) u

variable {s t : ValidatorSet} {a : BuildStep} {as : List BuildStep} {e : ConfigError}

theorem takes_nil_iff : s.Takes [] t ↔ t = s := by
  constructor
  · rintro ⟨⟩
    rfl
  · rintro rfl
    exact .nil t

theorem takes_cons_iff {u : ValidatorSet} (h : s.take a = (u, none)) :
    s.Takes (a :: as) t ↔ u.Takes as t := by
  constructor
  · rintro (_ | ⟨head, tail⟩)
    obtain rfl := congrArg Prod.fst (head.symm.trans h)
    exact tail
  · exact .cons h

theorem not_takes_cons (h : s.take a = (t, some e)) {u : ValidatorSet} :
    ¬s.Takes (a :: as) u := by
  rintro (_ | ⟨head, -⟩)
  cases congrArg Prod.snd (head.symm.trans h)

/-- Steps are taken one after the other until one fails, which leaves the set
as the steps before it made it. -/
def FailsIn (s : ValidatorSet) (as : List BuildStep) (t : ValidatorSet) (e : ConfigError) : Prop :=
  ∃ before a after, as = before ++ a :: after ∧ s.Takes before t ∧ t.take a = (t, some e)

theorem not_failsIn_nil : ¬s.FailsIn [] t e := by
  rintro ⟨before, a, after, has, -⟩
  exact List.append_ne_nil_of_right_ne_nil before (List.cons_ne_nil a after) has.symm

theorem failsIn_cons_of_none {u : ValidatorSet} (h : s.take a = (u, none)) :
    s.FailsIn (a :: as) t e ↔ u.FailsIn as t e := by
  constructor
  · rintro ⟨before, b, after, heq, hbefore, hb⟩
    cases before with
    | nil =>
        obtain ⟨rfl, -⟩ := List.cons.inj heq
        rw [takes_nil_iff.mp hbefore, h] at hb
        cases congrArg Prod.snd hb
    | cons c before =>
        obtain ⟨rfl, rfl⟩ := List.cons.inj heq
        exact ⟨before, b, after, rfl, (takes_cons_iff h).mp hbefore, hb⟩
  · rintro ⟨before, b, after, rfl, hbefore, hb⟩
    exact ⟨a :: before, b, after, rfl, .cons h hbefore, hb⟩

theorem failsIn_cons_of_some {f : ConfigError} (h : s.take a = (s, some f)) :
    s.FailsIn (a :: as) t e ↔ (s, some f) = (t, some e) := by
  constructor
  · rintro ⟨before, b, after, heq, hbefore, hb⟩
    cases before with
    | nil =>
        obtain ⟨rfl, -⟩ := List.cons.inj heq
        obtain rfl := takes_nil_iff.mp hbefore
        exact h.symm.trans hb
    | cons c before =>
        obtain ⟨rfl, -⟩ := List.cons.inj heq
        exact absurd hbefore (not_takes_cons h)
  · intro heq
    obtain ⟨rfl, hf⟩ := Prod.mk.inj heq
    exact ⟨[], a, as, rfl, .nil s, h.trans (congrArg (Prod.mk s) hf)⟩

/-- A step that does one thing makes its change, or fails and leaves the set as
it was. -/
theorem take_single (h : a.isSingle = true) (s : ValidatorSet) :
    (∃ c, a.attempts s.registry = [.ok c] ∧ s.take a = (s.apply c, none))
    ∨ ∃ e, a.attempts s.registry = [.error e] ∧ s.take a = (s, some e) := by
  obtain ⟨r, hr⟩ := BuildStep.attempts_of_isSingle h s.registry
  rw [s.take_eq_tryAll (BuildStep.bulkRecord?_of_isSingle h), hr]
  cases r with
  | ok c => exact .inl ⟨c, rfl, rfl⟩
  | error e => exact .inr ⟨e, rfl, rfl⟩

/-! ## Batches -/

/-- What steps attempt together succeeds if they succeed one after the other. -/
theorem tryAll_eq_none_iff (has : ∀ a ∈ as, a.isSingle = true) :
    s.tryAll (as.flatMap (BuildStep.attempts s.registry)) = (t, none) ↔ s.Takes as t := by
  induction as generalizing s with
  | nil =>
      rw [takes_nil_iff]
      exact ⟨fun h => (congrArg Prod.fst h).symm, fun h => by rw [h]; rfl⟩
  | cons a as ih =>
      obtain ⟨ha, has⟩ := List.forall_mem_cons.mp has
      rw [List.flatMap_cons]
      rcases take_single ha s with ⟨c, hc, htake⟩ | ⟨e, he, htake⟩
      · rw [hc, takes_cons_iff htake, ← ih has, registry_apply]
        rfl
      · rw [he]
        refine iff_of_false (fun h => ?_) (not_takes_cons htake)
        cases congrArg Prod.snd h

/-- And it fails as they do one after the other. -/
theorem tryAll_eq_some_iff (has : ∀ a ∈ as, a.isSingle = true) :
    s.tryAll (as.flatMap (BuildStep.attempts s.registry)) = (t, some e) ↔ s.FailsIn as t e := by
  induction as generalizing s with
  | nil =>
      refine iff_of_false (fun h => ?_) not_failsIn_nil
      cases congrArg Prod.snd h
  | cons a as ih =>
      obtain ⟨ha, has⟩ := List.forall_mem_cons.mp has
      rw [List.flatMap_cons]
      rcases take_single ha s with ⟨c, hc, htake⟩ | ⟨f, hf, htake⟩
      · rw [hc, failsIn_cons_of_none htake, ← ih has, registry_apply]
        rfl
      · rw [hf, failsIn_cons_of_some htake]
        rfl

end ValidatorSet

/-- **A step that fails keeps what succeeded before.** A step of building,
bulk loading apart, succeeds if its elements do, one after the other, and comes
to the same set. It fails if one of them does, with the same error, and leaves
what those before it come to. So a step that does one thing leaves the set as
it was when it fails. -/
theorem failed_step_keeps_successes (s : ValidatorSet) {st : BuildStep}
    (hst : st.isBulkLoad = false) :
    (∀ t, s.take st = (t, none) ↔ s.Takes st.elements t)
      ∧ (∀ t e, s.take st = (t, some e) ↔
          ∃ before a after, st.elements = before ++ a :: after ∧ s.Takes before t
            ∧ t.take a = (t, some e))
      ∧ (st.isSingle = true → ∀ t e, s.take st = (t, some e) → t = s) := by
  have hbulk : st.bulkRecord? = none := by simpa [BuildStep.isBulkLoad] using hst
  have helements : ∀ a ∈ st.elements, a.isSingle = true := fun a ha =>
    BuildStep.isSingle_of_mem_elements hst ha
  refine ⟨fun t => ?_, fun t e => ?_, fun hsingle t e h => ?_⟩
  · rw [s.take_eq_tryAll hbulk, st.attempts_eq_flatMap]
    exact ValidatorSet.tryAll_eq_none_iff helements
  · rw [s.take_eq_tryAll hbulk, st.attempts_eq_flatMap]
    exact ValidatorSet.tryAll_eq_some_iff helements
  · rcases ValidatorSet.take_single hsingle s with ⟨c, -, htake⟩ | ⟨e', -, htake⟩
    · cases congrArg Prod.snd (htake.symm.trans h)
    · exact congrArg Prod.fst (h.symm.trans htake)

/-- Validators in groups, of which the second names a capability that is not
known. -/
def groupsWithUnknown : BuildStep :=
  .addValidators [("a", [("not_empty", .absent)]),
    ("b", [("equal", .scalar (.str "x")), ("unheard_of", .absent), ("not_empty", .absent)]),
    ("c", [("not_empty", .absent)])]

/-- The first group is kept, and of the second what precedes the unknown
capability. -/
theorem failed_groups_keep_successes :
    ∃ t before a after,
      ValidatorSet.empty.take groupsWithUnknown = (t, some (.unknownCapability "unheard_of"))
      ∧ groupsWithUnknown.elements = before ++ a :: after
      ∧ ValidatorSet.empty.Takes before t
      ∧ t.take a = (t, some (.unknownCapability "unheard_of"))
      ∧ t.fields = ["a", "b"] ∧ (t.bindings "b").length = 1 := by
  have herror : (ValidatorSet.empty.take groupsWithUnknown).2 =
      some (.unknownCapability "unheard_of") := by decide +kernel
  have hfields : (ValidatorSet.empty.take groupsWithUnknown).1.fields = ["a", "b"] := by
    decide +kernel
  have hlength : ((ValidatorSet.empty.take groupsWithUnknown).1.bindings "b").length = 1 := by
    decide +kernel
  have htake : ValidatorSet.empty.take groupsWithUnknown =
      ((ValidatorSet.empty.take groupsWithUnknown).1, some (.unknownCapability "unheard_of")) :=
    Prod.ext rfl herror
  obtain ⟨before, a, after, helements, hbefore, ha⟩ :=
    ((failed_step_keeps_successes .empty rfl).2.1 _ _).mp htake
  exact ⟨_, before, a, after, htake, helements, hbefore, ha, hfields, hlength⟩

end RecordRules
