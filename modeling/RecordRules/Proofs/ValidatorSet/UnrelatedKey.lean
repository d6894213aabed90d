import RecordRules.Proofs.Rule.UnrelatedKey
import RecordRules.Proofs.ValidatorSet.Gate
import RecordRules.Proofs.ValidatorSet.Ledger

/-!
# An unrelated key changes nothing

Of a set that is built from written rules and written conditions, whether its
validators are loaded or not, every condition and every validator that an
evaluation runs is a written rule (`Change.Textual`,
`ValidatorSet.exists_of_mem_agenda`). So an entry of a record that none of
these rules asks for has no part in the evaluation
(`unrelated_key_changes_nothing`).
-/

namespace RecordRules

/-! ## Sets of written rules -/

/-- The change is one that a text makes, or sets the strictness. -/
inductive Change.Textual : Change → Prop
  | bind {r : Rule} {k : Kind} (h : r.Textual k) : Textual (.bind r.field (r.toBinding k))
  | gate {r : Rule} {k : Kind} (h : r.Textual k) : Textual (.gate (r.toCondition k))
  | strict (mode : StrictMode) : Textual (.strict mode)

/-- All that the step adds to a set is written. -/
def BuildStep.isWritten : BuildStep → Bool
  | .addValidatorFromRule _ | .addValidatorsFromRules _ | .addConditionFromRule _
  | .addConditionsFromRules _ | .loadValidators _ | .setStrict _ | .setStrictLevel _ => true
  | _ => false

theorem Change.textual_of_declaring {text : String} {c : Change}
    (h : declaringEntry .builtin (.line text) = .ok c) : c.Textual := by
  obtain ⟨r, k, v, -, hv, htext, rfl⟩ := gives_of_declaring h
  exact .bind (hv.textual (htext rfl))

theorem Change.textual_of_gating {text : String} {c : Change}
    (h : gating .builtin (.line text) = .ok c) : c.Textual := by
  obtain ⟨r, k, v, -, hv, htext, rfl⟩ := gives_of_gating h
  exact .gate (hv.textual (htext rfl))

theorem BuildStep.textual_changes {st : BuildStep} (h : st.isWritten = true) {c : Change}
    (hc : c ∈ st.changes .builtin) : c.Textual := by
  have hm := mem_successes hc
  cases st with
  | addValidatorFromRule text =>
      exact Change.textual_of_declaring (List.mem_singleton.mp hm).symm
  | addValidatorsFromRules texts =>
      obtain ⟨text, -, ht⟩ := List.mem_map.mp hm
      exact Change.textual_of_declaring ht
  | addConditionFromRule text =>
      exact Change.textual_of_gating (List.mem_singleton.mp hm).symm
  | addConditionsFromRules texts =>
      obtain ⟨text, -, ht⟩ := List.mem_map.mp hm
      exact Change.textual_of_gating ht
  | loadValidators record => cases hm
  | setStrict mode =>
      cases List.mem_singleton.mp hm
      exact .strict mode
  | setStrictLevel level =>
      rw [attempts] at hm
      split at hm <;> cases List.mem_singleton.mp hm
      exact .strict _
  | addValidator _ _ _ _ | addValidatorsToField _ _ | addValidators _ | addRule _
  | loadValidator _ _ _ | loadValidatorsToField _ _ _ | addCondition _ | addConditions _ => cases h

theorem Start.textual_history {texts : List String} {strict : StrictMode} {steps : List BuildStep}
    (h : ∀ st ∈ steps, st.isWritten = true) {c : Change}
    (hc : c ∈ (ofRules texts strict).history steps) : c.Textual := by
  rcases List.mem_append.mp hc with hc | hc
  · rcases List.mem_cons.mp (mem_successes hc) with hc | hc
    · cases hc
      exact .strict strict
    · obtain ⟨text, -, ht⟩ := List.mem_map.mp hc
      exact Change.textual_of_declaring ht
  · obtain ⟨st, hst, hc⟩ := List.mem_flatMap.mp hc
    exact BuildStep.textual_changes (h st hst) hc

/-! ## What a set asks for -/

namespace ValidatorSet

/-- The set asks a record for nothing that the key holds. -/
structure AsksApart (key : String) (s : ValidatorSet) : Prop where
  condition : ∀ c ∈ s.conditions,
    IsApart key c.field ∧ ∀ text ∈ c.value.texts, IsForeign key text
  declared : ∀ d ∈ s.declared, IsApart key d.field
    ∧ ∀ b ∈ d.bindings, ∀ text ∈ b.value.texts, IsForeign key text

/-- The record has what the validators are run on that do not look their field
up themselves. -/
def IsAddressed (s : ValidatorSet) (record : Json) : Prop :=
  ∀ d ∈ s.declared, ∀ b ∈ d.bindings, b.entry.shape = .scalar →
    IsFieldAddressed .scalar d.field record

instance (key : String) (s : ValidatorSet) : Decidable (s.AsksApart key) :=
  decidable_of_iff (_ ∧ _) ⟨fun h => ⟨h.1, h.2⟩, fun h => ⟨h.condition, h.declared⟩⟩

instance (s : ValidatorSet) (record : Json) : Decidable (s.IsAddressed record) :=
  inferInstanceAs (Decidable (∀ d ∈ s.declared, ∀ b ∈ d.bindings, _ → _))

theorem exists_declared {s : ValidatorSet} {field : String} {b : Binding}
    (h : b ∈ s.bindings field) : ∃ d ∈ s.declared, d.field = field ∧ b ∈ d.bindings := by
  rw [bindings] at h
  cases hd : s.declaredField? field with
  | none =>
      rw [hd] at h
      cases h
  | some d =>
      rw [hd] at h
      exact ⟨d, List.mem_of_find?_eq_some hd, KeyedList.key_of_find? hd, h⟩

/-! ## Both phases -/

section Records

variable {key : String} {record record' : Json} (hrecords : AgreeApart key record record')

include hrecords

theorem runConditions_eq {s : ValidatorSet} (ht : ∀ c ∈ s.conditions, (Change.gate c).Textual)
    (hs : s.AsksApart key) : s.runConditions record' = s.runConditions record := by
  refine mapM_congr fun c hc => ?_
  obtain ⟨hfield, htexts⟩ := hs.condition c hc
  cases ht c hc with
  | gate hr => rw [runCondition, runCondition, hr.evaluate_condition_eq hrecords hfield htexts]

theorem runTask_eq {s : ValidatorSet} {history : List Change} (hl : Ledger s history)
    (ht : ∀ c ∈ history, c.Textual) (hs : s.AsksApart key) (ha : s.IsAddressed record)
    {p : String × Task} (hp : p ∈ s.agenda) (os : List FieldOutcome) :
    runTask record' os p = runTask record os p := by
  obtain ⟨field, t⟩ := p
  rcases hl.of_mem_agenda hp with ⟨is, his, -⟩ | ⟨b, hb, htask⟩
  · cases ht _ his
  · have hmem : b ∈ s.bindings field := by
      rw [hl.bindings_eq]
      exact mem_declaredOn.mpr hb
    obtain ⟨d, hd, hname, hbd⟩ := exists_declared hmem
    obtain ⟨hfield, htexts⟩ := hs.declared d hd
    have haddressed := ha d hd b hbd
    rw [hname] at hfield haddressed
    have hmake : b.materialize record' = b.materialize record :=
      congrArg (fun o => b.entry.construct o b.message) (hrecords.resolve_eq (htexts b hbd))
    -- A loaded instance was made for a record of its own.
    have hjudge : ∀ {r₀ i}, b.materialize r₀ = .ok i →
        i.evaluate (subject field i record') = i.evaluate (subject field i record) := by
      intro r₀ i hi
      cases ht _ hb with
      | bind hr => exact hr.evaluate_subject_eq hrecords hfield haddressed hi
    rw [runTask, runTask]
    rcases htask with rfl | ⟨i, ⟨r₀, hi⟩, rfl⟩
    · rw [Task.materialize, Task.materialize, hmake]
      exact bind_congr_ok fun i hi => by rw [hjudge hi]
    · rw [Task.materialize, Task.materialize, ok_bind, ok_bind, hjudge hi]

theorem runValidators_eq {s : ValidatorSet} {history : List Change} (hl : Ledger s history)
    (ht : ∀ c ∈ history, c.Textual) (hs : s.AsksApart key) (ha : s.IsAddressed record) :
    s.runValidators record' = s.runValidators record :=
  foldlM_congr (fun _ hp os => runTask_eq hrecords hl ht hs ha hp os) []

end Records

end ValidatorSet

/-- **An unrelated key changes nothing.** Let a set be built from written rules
and written conditions, and let a key that is no position be apart from all
that they ask for. Wherever an entry of that key is added to a record in which
the fields of the validators are addressed, and whatever its value is, the
evaluation stays the same. -/
theorem unrelated_key_changes_nothing {texts : List String} {strict : StrictMode}
    {steps : List BuildStep} {s : ValidatorSet}
    (h : (Start.ofRules texts strict).build steps = .ok s)
    (hsteps : ∀ st ∈ steps, st.isWritten = true) {key : String} (hkey : isPosition key = false)
    (hs : s.AsksApart key) {before after : List (String × Json)}
    (ha : s.IsAddressed (.obj (before ++ after))) (value : Json) :
    s.evaluate (.obj (before ++ (key, value) :: after)) = s.evaluate (.obj (before ++ after)) := by
  have hrecords := agreeApart_insert hkey before after value
  have ht : ∀ c ∈ (Start.ofRules texts strict).history steps, c.Textual :=
    fun c hc => Start.textual_history hsteps hc
  have hgates : ∀ c ∈ s.conditions, (Change.gate c).Textual := by
    intro c hc
    rw [Start.conditions_build h] at hc
    exact ht _ (mem_conditionsIn.mp hc)
  rw [ValidatorSet.evaluate_eq_gate, ValidatorSet.evaluate_eq_gate,
    ValidatorSet.runConditions_eq hrecords hgates hs,
    ValidatorSet.runValidators_eq hrecords (Ledger.build h) ht hs ha]

/-- Steps that ask for `users`, which begins with `user`, in a path. -/
def stepsForUsers : List BuildStep :=
  [.addConditionFromRule "plan:equal:[tier]", .loadValidators (.obj [("nick", .str "ann")]),
    .addValidatorsFromRules ["users.age:has_one_greater_than:limit", "users.age:required"]]

/-- The record in two parts, between which an entry is added. -/
def beforeUser : List (String × Json) :=
  [("name", .str "ann"), ("plan", .str "pro"), ("tier", .str "pro")]

def afterUser : List (String × Json) :=
  [("limit", .str "40"), ("users", .arr [.obj [("age", .str "41")]])]

theorem unrelated_key_changes_nothing_for_users :
    ∃ s report, (Start.ofRules ["name:equal:[nick]"] .both).build stepsForUsers = .ok s
      ∧ s.AsksApart "user" ∧ s.IsAddressed (.obj (beforeUser ++ afterUser))
      ∧ s.evaluate (.obj (beforeUser ++ afterUser)) = .ok report
      ∧ s.evaluate (.obj (beforeUser ++ ("user", .obj [("age", .str "7")]) :: afterUser)) =
        .ok report
      ∧ report.passed = true := by
  have hrun : ((Start.ofRules ["name:equal:[nick]"] .both).build stepsForUsers >>= fun s =>
      s.evaluate (.obj (beforeUser ++ afterUser)) >>= fun report =>
        pure (decide (s.AsksApart "user"), decide (s.IsAddressed (.obj (beforeUser ++ afterUser))),
          report.passed)).toOption = some (true, true, true) := by decide +kernel
  obtain ⟨s, hs, hrun⟩ := bind_eq_ok.mp (toOption_eq_some.mp hrun)
  obtain ⟨report, hr, hrun⟩ := bind_eq_ok.mp hrun
  simp only [pure, Except.pure, Except.ok.injEq, Prod.mk.injEq, decide_eq_true_eq] at hrun
  obtain ⟨hapart, haddressed, hpassed⟩ := hrun
  have hkey : isPosition "user" = false := by decide
  have hsame := unrelated_key_changes_nothing hs (by decide) hkey hapart haddressed
    (.obj [("age", .str "7")])
  exact ⟨s, report, hs, hapart, haddressed, hr, hsame.trans hr, hpassed⟩

/-- A validator whose field is missing is run on the whole record, where every
key is seen. -/
example :
    (ValidatorSet.ofRules ["name:not_empty"] .both >>= fun s =>
        (s.evaluate (.obj [])).map Report.passed).toOption = some false
      ∧ (ValidatorSet.ofRules ["name:not_empty"] .both >>= fun s =>
        (s.evaluate (.obj [("user", .null)])).map Report.passed).toOption = some true := by
  decide +kernel

end RecordRules
