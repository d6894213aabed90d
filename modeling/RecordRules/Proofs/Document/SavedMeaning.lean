import RecordRules.Proofs.Capability.Spelling
import RecordRules.Proofs.Document.RoundTrip
import RecordRules.Proofs.ValidatorSet.Further

/-!
# What saving a set changes

The set that a saved set is built again as has every rule reread. Some rules
come back as they were; of others the numbers are spelled as text, which no
capability can tell from the numbers (`Rule.isSteady`). If all rules of a set
are of these kinds, the set that is built again evaluates every record as the
set does (`saved_set_evaluates_alike`).

Other rules may change what they say. A value that is a boolean comes back as
text in a line, so it is no longer compared by truth; and a map with one
entry, given for the rule's own field, comes back as the value of another
field (`saving_changes_verdict`).
-/

namespace RecordRules

/-! ## Steady rules -/

/-- The value may be spelled as text. -/
def Json.isSteady : Json → Bool
  | .str _ => true
  | .num n => n.isSteady
  | _ => false

/-- The values of the operand may be spelled as text. -/
def Operand.isSteady : Operand → Bool
  | .scalar v | .keyed _ v => v.isSteady
  | .list items => items.all Json.isSteady
  | _ => false

namespace Rule

/-- The capability of the rule reads its operand as dates. -/
def readsDates (r : Rule) : Bool :=
  Kind.catalogue.any fun k => k.readsDates && k.name == r.capability

/-- The rule comes back as it was saved, or with numbers as text where that
makes no difference. -/
def isSteady (r : Rule) : Bool :=
  r.reread == r || (r.fitsLine && !r.readsDates && r.value.isSteady)

end Rule

theorem Json.Spells.segmentText {v : Json} (h : v.isSteady = true) :
    v.Spells (.str (Operand.segmentText v)) := by
  cases v with
  | str s => exact .refl _
  | num n => exact .number h
  | null | bool b | arr items | obj entries => cases h

theorem Operand.spells_respelled {o : Operand} (h : o.isSteady = true) :
    o.Spells o.respelled := by
  cases o with
  | absent | field f => cases h
  | scalar v => exact .scalar (.segmentText h)
  | list items =>
      refine .list (List.forall₂_map_right_iff.mpr (List.forall₂_same.mpr fun v hv => ?_))
      exact .segmentText (List.all_eq_true.mp h v hv)
  | keyed f v =>
      cases v with
      | str s => exact .keyed f (.segmentText h)
      | num n => exact .keyed f (.segmentText h)
      | null | bool b | arr items | obj entries => cases h

/-! ## Instances -/

/-- An operand makes the same of a capability as its spelling. -/
theorem Instance.make_spells {o o' : Operand} (h : o.Spells o') {k : Kind}
    (hdates : k.readsDates = false) (message : Option String) :
    MadeAlike (make k o message) (make k o' message) := by
  cases hp : k.prepare o with
  | error fault =>
      have hp' : k.prepare o' = .error fault := (Kind.prepare_spells h hdates).trans hp
      rw [make_of_fault hp, make_of_fault hp']
      exact .error _
  | ok patterns =>
      have hp' : k.prepare o' = .ok patterns := (Kind.prepare_spells h hdates).trans hp
      rw [make_of_prepared hp, make_of_prepared hp']
      refine .ok ⟨h.targetField_eq, ?_, Kind.judge_spells h hdates patterns⟩
      change message.getD (k.message o') = message.getD (k.message o)
      rw [Kind.message_spells h]

/-- **A steady rule makes for every record what it makes when it is reread.** -/
theorem Rule.Gives.made_reread {r : Rule} {k : Kind} {v : Json} (h : r.Gives k v)
    (hs : r.isSteady = true) (record : Json) :
    MadeAlike ((r.toBinding k).materialize record) ((r.reread.toBinding k).materialize record) := by
  rw [isSteady, Bool.or_eq_true, beq_iff_eq] at hs
  rcases hs with hs | hs
  · rw [hs]
    exact .refl _
  · simp only [Bool.and_eq_true, Bool.not_eq_true'] at hs
    obtain ⟨⟨hfit, hdates⟩, hsteady⟩ := hs
    have hk : k.readsDates = false := by
      have hk := List.any_eq_false.mp hdates k k.mem_catalogue
      simpa [h.capability] using hk
    have hspells : r.value.Spells r.reread.value := by
      rw [Rule.reread, if_pos hfit]
      exact Operand.spells_respelled hsteady
    exact Instance.make_spells (hspells.resolve record) hk r.message

/-! ## Rules of a set -/

namespace ValidatorSet

/-- The rules of the conditions and of the validators. -/
def rules (s : ValidatorSet) : List Rule :=
  s.conditions.map Condition.toRule
    ++ s.declared.flatMap fun d => d.bindings.map (Binding.toRule d.field)

theorem agenda_of_unloaded {s : ValidatorSet} (h : s.loaded = []) :
    s.agenda = s.declared.flatMap fun d => d.bindings.map fun b => (d.field, Task.pending b) := by
  have hall : ∀ d ∈ s.declared, (!s.isLoaded d.field) = true := by
    intro d _
    rw [isLoaded, loadedField?, h]
    rfl
  rw [agenda, h, List.filter_eq_self.mpr hall]
  rfl

end ValidatorSet

namespace Condition

/-- Only the instance that is made for the record counts. -/
theorem runCondition_congr (c : Condition) (value : Operand) {record : Json}
    (h : MadeAlike (c.bind record) ({ c with value }.bind record)) :
    ValidatorSet.runCondition record { c with value } = ValidatorSet.runCondition record c := by
  have hlacks : ({ c with value } : Condition).lacksField record = c.lacksField record := rfl
  have hsubject : ({ c with value } : Condition).subject? record = c.subject? record := rfl
  have hevaluate : ({ c with value } : Condition).evaluate record = c.evaluate record := by
    rw [evaluate, evaluate, hlacks, hsubject]
    generalize c.bind record = x at h ⊢
    generalize ({ c with value } : Condition).bind record = y at h ⊢
    cases h with
    | error e => rfl
    | ok h => simp only [ok_bind, h.evaluate]
  rw [ValidatorSet.runCondition, ValidatorSet.runCondition, hevaluate]

theorem runCondition_reread {P : Rule → Prop} {c : Condition}
    (h : (Change.gate c).FromRule P) (hs : c.toRule.isSteady = true) (record : Json) :
    ValidatorSet.runCondition record c.reread = ValidatorSet.runCondition record c := by
  obtain ⟨field, entry, value, message, requiresField⟩ := c
  obtain ⟨-, hrequires, k, v, hentry, hv⟩ := h
  obtain ⟨w, hw⟩ := hv.reread
  obtain rfl : entry = .ofKind k := hentry
  obtain rfl : requiresField = true := hrequires
  refine runCondition_congr _ _ ?_
  have hmade := hv.made_reread hs record
  rwa [← hv.bind_condition, ← hw.bind_condition] at hmade

end Condition

/-- Bindings of a field that are steady rules come to the same when they are
reread. -/
theorem Binding.made_reread {P : Rule → Prop} {field : String} {b : Binding}
    (h : (Change.bind field b).FromRule P) (hs : (b.toRule field).isSteady = true)
    (record : Json) :
    MadeAlike (b.materialize record) ((b.reread field).materialize record) := by
  obtain ⟨entry, value, message⟩ := b
  obtain ⟨-, k, v, hentry, hv⟩ := h
  obtain rfl : entry = .ofKind k := hentry
  exact hv.made_reread hs record

namespace Savable

variable {P : Rule → Prop} {s : ValidatorSet}

theorem runConditions_reread (h : Savable (Change.FromRule P) s)
    (hs : ∀ r ∈ s.rules, r.isSteady = true) (record : Json) :
    s.reread.runConditions record = s.runConditions record := by
  have hmap : s.reread.runConditions record =
      s.conditions.mapM fun c => ValidatorSet.runCondition record c.reread := by
    rw [ValidatorSet.runConditions, ValidatorSet.reread, List.mapM_map]
    rfl
  rw [hmap]
  refine mapM_congr fun c hc => Condition.runCondition_reread (h.conditions c hc) (hs _ ?_) record
  exact List.mem_append_left _ (List.mem_map_of_mem hc)

theorem runValidators_reread (h : Savable (Change.FromRule P) s)
    (hs : ∀ r ∈ s.rules, r.isSteady = true) (record : Json) :
    s.reread.runValidators record = s.runValidators record := by
  have hloaded : s.reread.loaded = [] := h.loaded_eq
  rw [ValidatorSet.runValidators, ValidatorSet.runValidators,
    ValidatorSet.agenda_of_unloaded h.loaded_eq, ValidatorSet.agenda_of_unloaded hloaded,
    ValidatorSet.reread, List.flatMap_map]
  refine ValidatorSet.runTasks_congr ?_ []
  -- The bindings are steady only as those of a field of the set.
  refine List.rel_flatMap (R := fun d e => d ∈ s.declared ∧ d = e)
    (List.forall₂_same.mpr fun d hd => ⟨hd, rfl⟩) ?_
  rintro d _ ⟨hd, rfl⟩
  simp only [DeclaredField.reread, List.map_map, List.forall₂_map_left_iff,
    List.forall₂_map_right_iff]
  refine List.forall₂_same.mpr fun b hb =>
    ⟨rfl, Binding.made_reread (h.bindings d hd b hb) (hs _ ?_) record⟩
  exact List.mem_append_right _ (List.mem_flatMap.mpr ⟨d, hd, List.mem_map_of_mem hb⟩)

/-- **A set of steady rules is reread as one that evaluates alike.** -/
theorem evaluate_reread (h : Savable (Change.FromRule P) s)
    (hs : ∀ r ∈ s.rules, r.isSteady = true) (record : Json) :
    s.reread.evaluate record = s.evaluate record := by
  have hconditions : s.reread.hasConditions = s.hasConditions := by
    rw [ValidatorSet.hasConditions, ValidatorSet.hasConditions, ValidatorSet.reread,
      List.isEmpty_map]
  rw [ValidatorSet.evaluate, ValidatorSet.evaluate, hconditions, h.runConditions_reread hs,
    h.runValidators_reread hs]
  rfl

end Savable

/-- **A set of steady rules keeps its meaning when it is saved.** A set that
is built from any document is saved as a document that builds a set again, the
one in which every rule is reread; and if all its rules are steady, that set
has the same report on every record, or the same error. -/
theorem saved_set_evaluates_alike {d : Document} {s : ValidatorSet}
    (h : d.build .builtin = .ok s) :
    s.toDocument.build .builtin = .ok s.reread
      ∧ ((∀ r ∈ s.rules, r.isSteady = true) →
        ∀ record, s.reread.evaluate record = s.evaluate record) :=
  have hs : Savable (Change.FromRule fun _ => True) s := .fromRule h fun _ _ _ _ => trivial
  ⟨build_toDocument_reread h, hs.evaluate_reread⟩

/-- A document with a number in a list, a number alone and a fraction. -/
def numbersDocument : Document where
  conditions := [.binding
    ⟨"plan", "in", some (.arr [.num (.int ⟨1, by decide⟩), .str "free"]), none⟩]
  validators := [.binding ⟨"age", "greater_than_equal", some (.num (.int ⟨18, by decide⟩)), none⟩,
    .binding ⟨"prices", "has_one_greater_than", some (.num (.float
      ⟨false, power 2 1074 + power 2 1073, by decide +kernel⟩)), some "nothing above 1.5"⟩]

/-- No rule comes back as it was, and no record tells. -/
theorem saved_numbers_evaluate_alike :
    ∃ s t, numbersDocument.build .builtin = .ok s ∧ s.toDocument.build .builtin = .ok t
      ∧ (∀ r ∈ s.rules, r ∉ t.rules) ∧ ∀ record, t.evaluate record = s.evaluate record := by
  have hrun : (numbersDocument.build .builtin >>= fun s =>
      pure (s.rules.all Rule.isSteady, s.rules.all (· ∉ s.reread.rules))).toOption =
      some (true, true) := by decide +kernel
  obtain ⟨s, hs, hrun⟩ := bind_eq_ok.mp (toOption_eq_some.mp hrun)
  simp only [pure, Except.pure, Except.ok.injEq, Prod.mk.injEq, List.all_eq_true,
    decide_eq_true_eq] at hrun
  obtain ⟨hbuild, halike⟩ := saved_set_evaluates_alike hs
  exact ⟨s, s.reread, hs, hbuild, hrun.2, halike hrun.1⟩

/-! ## Documents whose sets come back different -/

/-- The set of the document and the set that it is saved and built again as do
not agree on the record. -/
def ChangedBySaving (d : Document) (record : Json) : Prop :=
  ∃ s t, d.build .builtin = .ok s ∧ s.toDocument.build .builtin = .ok t
    ∧ t.evaluate record ≠ s.evaluate record

/-- Whether both sets pass the record. -/
def verdicts (d : Document) (record : Json) : Except ConfigError (Bool × Bool) := do
  let s ← d.build .builtin
  let t ← s.toDocument.build .builtin
  return ((← s.evaluate record).passed, (← t.evaluate record).passed)

theorem changedBySaving_of_verdicts {d : Document} {record : Json} {a b : Bool}
    (h : (verdicts d record).toOption = some (a, b)) (hne : a ≠ b) :
    ChangedBySaving d record := by
  obtain ⟨s, hs, h⟩ := bind_eq_ok.mp (toOption_eq_some.mp h)
  obtain ⟨t, ht, h⟩ := bind_eq_ok.mp h
  obtain ⟨p, hp, h⟩ := bind_eq_ok.mp h
  obtain ⟨q, hq, h⟩ := bind_eq_ok.mp h
  refine ⟨s, t, hs, ht, fun he => hne ?_⟩
  rw [he, hp] at hq
  cases hq
  cases h
  rfl

/-- A document that asks for a true value, and one that asks for an item that
is a map with one entry. -/
def truthDocument : Document where
  validators := [.binding ⟨"a", "equal", some (.bool true), none⟩]

def nestedDocument : Document where
  validators := [.binding
    ⟨"a", "has_one_that_equals", some (.obj [("a", .obj [("b", .str "x")])]), none⟩]

/-- Text is as true as it is not empty, but is not the text of a boolean; and
an entry of an item is not a field of the record. -/
theorem saving_changes_verdict :
    ChangedBySaving truthDocument (.obj [("a", .str "yes")])
      ∧ ChangedBySaving nestedDocument
        (.obj [("a", .arr [.obj [("b", .str "x")]]), ("b", .arr [])]) :=
  ⟨changedBySaving_of_verdicts (a := true) (b := false) (by decide +kernel) (by decide),
    changedBySaving_of_verdicts (a := true) (b := false) (by decide +kernel) (by decide)⟩

end RecordRules
