import RecordRules.Proofs.Record.Composition
import RecordRules.Proofs.Record.References
import RecordRules.Proofs.Rule.Phases

/-!
# A record inside another

A record can stand under a key of another one, the wrapper. What a path finds
in the record is found under the wrapper by the path behind the wrapper's key
(`resolvePath_wrapped`): the walk goes the same way, with the key in front of
all its paths.

So a simple field of a record has a dotted name in the wrapper. A rule on the
simple name asks for the key only, and takes null for missing; a path takes
null for a match and goes through keys of digits. Where these differences do
not come up (`HoldsField`), the two names stand for one value
(`ValidatorSet.subject_wrapped`), and a validator reports the same under either
(`dotted_validator_reports_as_simple`).
-/

namespace RecordRules

/-! ## Paths into the wrapper -/

/-- A path finds behind the key of the wrapper what it finds in the record. -/
theorem resolvePath_wrapped {wrapper field : String} (hw : isPosition wrapper = false)
    (hf : field ≠ "") (record : Json) :
    resolvePath (wrapper ++ "." ++ field) (.obj [(wrapper, record)]) =
      resolvePath field record := by
  have hleads : leadsTo wrapper.toList (behind wrapper.toList (some field.toList)) = true :=
    leadsTo_iff.mpr (.inr ⟨field.toList, by simp [behind]⟩)
  have hnone := walk_behind wrapper.toList field.toList record none
  rw [behind] at hnone
  rw [resolvePath, resolvePath, if_neg (by simp), if_neg (by simpa using hf), toList_behind,
    walk_record, walkEntries, hw, if_neg Bool.false_ne_true, walkEntries, List.append_nil,
    extendPath]
  simp only [hleads, if_true]
  exact hnone

/-! ## Simple fields -/

/-- The entries hold a value under the field, which is not null; and no key of
digits leads to the field. -/
structure HoldsField (field : String) (value : Json) (entries : List (String × Json)) : Prop where
  isSimple : isDotted field = false
  ne_empty : field ≠ ""
  notPosition : isPosition field = false
  nodup : (entries.map Prod.fst).Nodup
  lookup : entries.lookup field = some value
  ne_null : value ≠ .null
  unreached : ∀ e ∈ entries, isPosition e.1 = true → resolvePath field e.2 = []

/-- No other key leads to a simple field. -/
theorem leadsTo_simple {field key : String} (hs : isDotted field = false) :
    leadsTo key.toList field.toList = decide (key = field) := by
  rw [Bool.eq_iff_iff, leadsTo_iff, decide_eq_true_eq, String.toList_inj]
  refine or_iff_left fun ⟨rest, h⟩ => ?_
  rw [isDotted, ← h] at hs
  simp at hs

/-- A simple field addresses what stands under its key. -/
theorem walkEntries_simple {field : String} (hs : isDotted field = false)
    (hp : isPosition field = false) {entries : List (String × Json)}
    (hn : (entries.map Prod.fst).Nodup)
    (hu : ∀ e ∈ entries, isPosition e.1 = true → walk field.toList none e.2 = []) :
    walkEntries field.toList none entries = (entries.lookup field).toList := by
  induction entries with
  | nil => rfl
  | cons e entries ih =>
      obtain ⟨key, child⟩ := e
      obtain ⟨hkey, hn⟩ := List.nodup_cons.mp hn
      rw [walkEntries, ih hn fun e he => hu e (List.mem_cons_of_mem _ he), List.lookup_cons]
      by_cases h : key = field
      · subst h
        rw [hp, if_neg Bool.false_ne_true, KeyedList.lookup_of_notMem hkey]
        simp [extendPath, leadsTo_simple hs, walk_self]
      · rw [beq_false_of_ne (Ne.symm h)]
        cases hposition : isPosition key with
        | true =>
            rw [if_pos rfl, hu (key, child) (List.mem_cons_self ..) hposition]
            rfl
        | false => simp [extendPath, leadsTo_simple hs, h]

namespace HoldsField

variable {field : String} {value : Json} {entries : List (String × Json)}

theorem resolvePath_eq (h : HoldsField field value entries) :
    resolvePath field (.obj entries) = [value] := by
  have hne : ¬field.isEmpty = true := by simpa using h.ne_empty
  rw [resolvePath, if_neg hne, walk_record,
    walkEntries_simple h.isSimple h.notPosition h.nodup, h.lookup]
  · rfl
  · intro e he hposition
    have hunreached := h.unreached e he hposition
    rwa [resolvePath, if_neg hne] at hunreached

end HoldsField

/-! ## One rule under two names -/

/-- The report with its outcomes under another field. -/
def Report.renamed (field : String) (report : Report) : Report :=
  { report with fields := report.fields.map fun o => { o with field } }

namespace ValidatorSet

section Subject

variable {field wrapper : String} {value : Json} {entries : List (String × Json)} {i : Instance}

theorem subject_simple (h : HoldsField field value entries) (hi : i.operand.targetField = none) :
    subject field i (.obj entries) = value := by
  have hne := h.ne_null
  rw [subject, hi, h.isSimple, Json.get?, h.lookup]
  cases value with
  | null => exact absurd rfl hne
  | bool _ | num _ | str _ | arr _ | obj _ => rfl

/-- In the wrapper the dotted name stands for the value of the simple one. -/
theorem subject_wrapped (hw : isPosition wrapper = false) (h : HoldsField field value entries)
    (hi : i.operand.targetField = none) :
    subject (wrapper ++ "." ++ field) i (.obj [(wrapper, .obj entries)]) = value := by
  have hd : isDotted (wrapper ++ "." ++ field) = true := by simp [isDotted]
  rw [subject, hi, hd, resolvePath_wrapped hw h.ne_empty, h.resolvePath_eq]
  rfl

end Subject

theorem addValidator_builtin (strict : StrictMode) (field : String) {k : Kind} {o : Operand}
    (hk : k.shape = .scalar) (message : Option String) :
    (empty.setStrict strict).addValidator field k.name o message =
      .ok ((empty.setStrict strict).addBinding field ⟨.ofKind k, o, message⟩) := by
  have hresolve : (empty.setStrict strict).registry.resolve k.name = .ok (.ofKind k) :=
    Registry.builtin_resolve k
  refine addValidator_of_resolve hresolve ?_ message
  change o.shaped k.shape field = o
  rw [hk, Operand.shaped_scalar]

/-- The set of one validator reports what its capability says about the value
that its field stands for. -/
theorem evaluate_of_subject {field : String} {k : Kind} {o : Operand} {record value : Json}
    (hr : ¬o.RefersInto record)
    (hv : ∀ i : Instance, i.operand = o → subject field i record = value)
    (message : Option String) (strict : StrictMode) :
    ((empty.setStrict strict).addBinding field ⟨.ofKind k, o, message⟩).evaluate record =
      (Instance.make k o message >>= fun i => (i.evaluate value).map fun passed =>
        validatedReport strict none [] (FieldOutcome.record field passed i.message [])) := by
  have hmade : (Binding.mk (.ofKind k) o message).materialize record =
      Instance.make k o message := by
    rw [Binding.materialize, Operand.resolve_eq_self hr]
    rfl
  rw [evaluate_addBinding_empty_eq, hmade]
  cases hi : Instance.make k o message with
  | error e => rfl
  | ok i => rw [ok_bind, ok_bind, hv i (Instance.operand_make hi)]

end ValidatorSet

/-- **A dotted field is as good as a simple one.** A record holds a value under
a simple field, and stands itself under a key of a wrapper. A built-in
capability that is run on a value, with an operand that refers into neither,
is declared as the only validator of a set: for the simple field, or for the
dotted one that leads through the wrapper. The set with the first reports on
the record what the set with the second reports on the wrapper, up to the name
of the field, or both end in the same error; and what is recorded is what the
capability says about the value. -/
theorem dotted_validator_reports_as_simple {field wrapper : String} {value : Json}
    {entries : List (String × Json)} (h : HoldsField field value entries)
    (hw : isPosition wrapper = false) {k : Kind} (hk : k.shape = .scalar) {o : Operand}
    (ho : o.targetField = none) (hr : ¬o.RefersInto (.obj entries))
    (hr' : ¬o.RefersInto (.obj [(wrapper, .obj entries)])) (message : Option String)
    (strict : StrictMode) :
    ∃ s s', (ValidatorSet.empty.setStrict strict).addValidator field k.name o message = .ok s
      ∧ (ValidatorSet.empty.setStrict strict).addValidator (wrapper ++ "." ++ field) k.name o
          message = .ok s'
      ∧ s'.evaluate (.obj [(wrapper, .obj entries)]) =
          (s.evaluate (.obj entries)).map (Report.renamed (wrapper ++ "." ++ field))
      ∧ (s.evaluate (.obj entries)).map
            (fun report => report.fields.map fun o => (o.field, o.evaluated)) =
          (Instance.make k o message >>= Instance.evaluate value).map
            fun passed => [(field, [passed])] := by
  have hsimple := ValidatorSet.evaluate_of_subject (k := k) hr
    (fun i hi => ValidatorSet.subject_simple h (hi ▸ ho)) message strict
  have hdotted := ValidatorSet.evaluate_of_subject (k := k) hr'
    (fun i hi => ValidatorSet.subject_wrapped hw h (hi ▸ ho)) message strict
  refine ⟨_, _, ValidatorSet.addValidator_builtin strict field hk message,
    ValidatorSet.addValidator_builtin strict _ hk message, ?_, ?_⟩
  · rw [hsimple, hdotted]
    cases Instance.make k o message with
    | error e => rfl
    | ok i =>
        simp only [ok_bind]
        cases i.evaluate value <;> rfl
  · rw [hsimple]
    cases Instance.make k o message with
    | error e => rfl
    | ok i =>
        simp only [ok_bind]
        cases i.evaluate value <;> rfl

/-- An order with its items under digits and a status. -/
def orderEntries : List (String × Json) :=
  [("0", .obj [("sku", .str "a")]), ("status", .str "paid"), ("1", .obj [("sku", .str "b")])]

/-- The texts of the operand are no keys of the order or of its wrapper. -/
theorem dotted_validator_reports_order_as_simple :
    HoldsField "status" (.str "paid") orderEntries ∧ isPosition "order" = false
      ∧ ∃ s s', ValidatorSet.empty.addValidator "status" "In"
            (.list [.str "open", .str "paid"]) = .ok s
        ∧ ValidatorSet.empty.addValidator "order.status" "In"
            (.list [.str "open", .str "paid"]) = .ok s'
        ∧ s'.evaluate (.obj [("order", .obj orderEntries)]) =
            (s.evaluate (.obj orderEntries)).map (Report.renamed "order.status")
        ∧ (s.evaluate (.obj orderEntries)).map
            (fun report => report.fields.map fun o => (o.field, o.evaluated)) =
          .ok [("status", [true])] := by
  have hfield : HoldsField "status" (.str "paid") orderEntries :=
    ⟨by decide, by decide, by decide, by decide, by decide +kernel, nofun, by decide +kernel⟩
  have hr : ∀ text ∈ (Operand.list [.str "open", .str "paid"]).referring,
      ¬RefersInto (.obj orderEntries) text
        ∧ ¬RefersInto (.obj [("order", .obj orderEntries)]) text := by decide +kernel
  obtain ⟨s, s', hs, hs', hrenamed, hrecorded⟩ :=
    dotted_validator_reports_as_simple (k := .value .isIn) hfield
      (show isPosition "order" = false by decide) rfl (o := .list [.str "open", .str "paid"]) rfl
      (fun ⟨text, ht, href⟩ => (hr text ht).1 href) (fun ⟨text, ht, href⟩ => (hr text ht).2 href)
      none .both
  have hjudged : ((Instance.make (.value .isIn) (.list [.str "open", .str "paid"]) none >>=
      Instance.evaluate (.str "paid")).map
        fun passed => [("status", [passed])]).toOption = some [("status", [true])] := by
    decide +kernel
  exact ⟨hfield, by decide, s, s', hs, hs', hrenamed,
    hrecorded.trans (toOption_eq_some.mp hjudged)⟩

/-- What a set with one validator records. -/
def recordedAlone (field capability : String) (o : Operand) (record : Json) :
    Except ConfigError (List (String × List Bool)) := do
  let s ← ValidatorSet.empty.addValidator field capability o
  return (← s.evaluate record).fields.map fun o => (o.field, o.evaluated)

/-- A null is missing under a simple name and found by a path; keys of digits
are gone through by a path only. -/
theorem dotted_validator_parts_from_simple :
    recordedAlone "f" "NotEmpty" .absent (.obj [("f", .null)]) = .ok [("f", [true])]
      ∧ recordedAlone "w.f" "NotEmpty" .absent (.obj [("w", .obj [("f", .null)])]) =
        .ok [("w.f", [false])]
      ∧ recordedAlone "f" "Equal" (.scalar (.str "a"))
          (.obj [("f", .str "a"), ("0", .obj [("f", .str "b")])]) = .ok [("f", [true])]
      ∧ recordedAlone "w.f" "Equal" (.scalar (.str "a"))
          (.obj [("w", .obj [("f", .str "a"), ("0", .obj [("f", .str "b")])])]) =
        .ok [("w.f", [false])] := by
  refine ⟨?_, ?_, ?_, ?_⟩ <;> exact toOption_eq_some.mp (by decide +kernel)

end RecordRules
