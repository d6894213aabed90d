import RecordRules.Document.Read
import RecordRules.Document.Validate
import RecordRules.Proofs.Registry
import RecordRules.Proofs.ValidatorSet.Steps

/-!
# Validated documents

Validation reads every entry of a document and reports all that cannot be read;
building stops at the first entry that fails. They agree: a document builds
exactly if validation finds no unreadable entry, and the error of a build is
the one that validation reports first among those
(`build_error_is_first_unreadable`).

Building looks a capability up twice, under the name in the entry and under the
name of what it found. The second look-up never fails, whatever is registered
(`RuleEntry.resolve_toRule`), so an entry fails to be built only if it cannot
be read (`Change.gating_eq_error`, `Change.declaringEntry_eq_error`). On the
other side the list of faults also holds those of operands, section by section;
these are passed over (`find?_sectionErrors`).
-/

namespace RecordRules

/-! ## Entries -/

theorem RuleEntry.toRule_eq_ok {registry : Registry} {entry : RuleEntry} {r : Rule}
    (h : entry.toRule registry = .ok r) :
    ∃ field name raw message, Rule.resolve registry field name raw message = .ok r := by
  cases entry with
  | line text =>
      rw [toRule, Rule.read] at h
      split at h
      · split at h
        · cases h
        · exact ⟨_, _, _, _, h⟩
      · cases h
  | binding b =>
      rw [toRule, RuleBinding.toRule] at h
      split at h
      · cases h
      · exact ⟨_, _, _, _, h⟩

/-- The capability of a rule that was read is found again. -/
theorem RuleEntry.resolve_toRule {registry : Registry} {entry : RuleEntry} {r : Rule}
    (h : entry.toRule registry = .ok r) : ∃ e, registry.resolve r.capability = .ok e := by
  obtain ⟨field, name, raw, message, h⟩ := RuleEntry.toRule_eq_ok h
  obtain ⟨e, he, hr⟩ := bind_eq_ok.mp h
  cases hr
  exact ⟨e, Registry.resolve_name he⟩

namespace Change

theorem gating_eq_error {registry : Registry} {entry : RuleEntry} {e : ConfigError} :
    gating registry entry = .error e ↔ entry.toRule registry = .error e := by
  cases hr : entry.toRule registry with
  | error e' =>
      rw [gating, hr]
      exact ⟨fun h => by cases h; rfl, fun h => by cases h; rfl⟩
  | ok r =>
      obtain ⟨found, hfound⟩ := RuleEntry.resolve_toRule hr
      rw [gating, hr]
      change (Condition.ofRule registry r >>= _) = _ ↔ _
      rw [Condition.ofRule, hfound]
      constructor <;> intro h <;> cases h

theorem declaringEntry_eq_error {registry : Registry} {entry : RuleEntry} {e : ConfigError} :
    declaringEntry registry entry = .error e ↔ entry.toRule registry = .error e := by
  cases hr : entry.toRule registry with
  | error e' =>
      rw [declaringEntry, hr]
      exact ⟨fun h => by cases h; rfl, fun h => by cases h; rfl⟩
  | ok r =>
      obtain ⟨found, hfound⟩ := RuleEntry.resolve_toRule hr
      rw [declaringEntry, hr]
      change declaring registry r.field r.capability r.value r.message = _ ↔ _
      rw [declaring, ValidatorSet.bindingFor]
      change ((registry.resolve r.capability >>= _) >>= _) = _ ↔ _
      rw [hfound]
      constructor <;> intro h <;> cases h

end Change

namespace Document

/-- The error of the first entries that are no rules. -/
def unreadable? (registry : Registry) (entries : List RuleEntry) : Option ConfigError :=
  firstError (entries.map (RuleEntry.toRule registry))

theorem build_eq_error {registry : Registry} {d : Document} {e : ConfigError} :
    d.build registry = .error e ↔ unreadable? registry (d.conditions ++ d.validators) = some e := by
  rw [build_eq_expectAll, expectAll_eq_error, unreadable?, List.map_append, firstError_append,
    ← firstError_map_congr (fun _ _ => Change.gating_eq_error) d.conditions,
    ← firstError_map_congr (fun _ _ => Change.declaringEntry_eq_error) d.validators,
    ← firstError_append]
  rfl

end Document

/-! ## Faults -/

/-- The fault is an entry that is no rule. -/
def ValidationError.isUnreadable (v : ValidationError) : Bool := v.rule == "V-001" || v.rule == "V-002"

namespace Document

namespace EntryVerdict

theorem isUnreadable_readError {path : String} {verdict : EntryVerdict} {v : ValidationError}
    (h : verdict.readError? path = some v) : v.isUnreadable = true := by
  cases verdict with
  | unreadable e => cases e <;> cases h <;> rfl
  | unsuited r e => cases h
  | deferred r e => cases h
  | sound r => cases h

theorem isUnreadable_operandError {path : String} {verdict : EntryVerdict} {v : ValidationError}
    (h : verdict.operandError? path = some v) : v.isUnreadable = false := by
  cases verdict with
  | unreadable e => cases h
  | unsuited r e => cases h; rfl
  | deferred r e => cases h
  | sound r => cases h

theorem message_readError (path : String) (e : ConfigError) :
    ((EntryVerdict.unreadable e).readError? path).map ValidationError.message = some e.message := by
  cases e <;> rfl

end EntryVerdict

theorem readError_judgeRule (path : String) (registry : Registry) (r : Rule) :
    (judgeRule registry r).readError? path = none := by
  unfold judgeRule
  split
  · rfl
  · split
    · rfl
    · split <;> rfl

/-- The first unreadable entry of a section, with its place. -/
theorem find?_sectionErrors (verdicts : List (String × EntryVerdict)) :
    (sectionErrors verdicts).find? ValidationError.isUnreadable =
      (verdicts.filterMap fun (path, v) => v.readError? path).head? := by
  have hread : ∀ v ∈ verdicts.filterMap fun (path, v) => v.readError? path,
      v.isUnreadable = true := by
    intro v hv
    obtain ⟨⟨path, verdict⟩, -, hv⟩ := List.mem_filterMap.mp hv
    exact EntryVerdict.isUnreadable_readError hv
  have hoperand : (verdicts.filterMap fun (path, v) => v.operandError? path).find?
      ValidationError.isUnreadable = none := by
    rw [List.find?_eq_none]
    intro v hv
    obtain ⟨⟨path, verdict⟩, -, hv⟩ := List.mem_filterMap.mp hv
    rw [EntryVerdict.isUnreadable_operandError hv]
    exact Bool.false_ne_true
  rw [sectionErrors, List.find?_append, hoperand, Option.or_none]
  cases hvs : verdicts.filterMap fun (path, v) => v.readError? path with
  | nil => rfl
  | cons v vs =>
      rw [hvs] at hread
      rw [List.find?_cons_of_pos (hread v (List.mem_cons_self ..)), List.head?_cons]

/-- The entries are judged in order: the first unreadable one is the one that
ends a build. -/
theorem message_judgeSection (registry : Registry) (name : String) (entries : List RuleEntry) :
    ((sectionErrors (judgeSection registry name entries)).find?
        ValidationError.isUnreadable).map ValidationError.message =
      (unreadable? registry entries).map ConfigError.message := by
  rw [find?_sectionErrors, judgeSection, unreadable?]
  generalize 0 = start
  induction entries generalizing start with
  | nil => rfl
  | cons entry entries ih =>
      rw [List.zipIdx_cons, List.map_cons, List.map_cons]
      cases hr : entry.toRule registry with
      | error e =>
          have hjudge : judgeEntry registry entry = .unreadable e := by rw [judgeEntry, hr]
          obtain ⟨v, hv, hmessage⟩ := Option.map_eq_some_iff.mp
            (EntryVerdict.message_readError (entryPath name start) e)
          simp only [List.filterMap_cons, hjudge, hv, List.head?_cons, Option.map_some, hmessage]
          rfl
      | ok r =>
          have hjudge : judgeEntry registry entry = judgeRule registry r := by rw [judgeEntry, hr]
          have hnone := readError_judgeRule (entryPath name start) registry r
          simp only [List.filterMap_cons, hjudge, hnone, ih]
          rfl

/-- What a document fails to build with is the first unreadable entry that its
validation reports. -/
theorem message_validate (registry : Registry) (d : Document) :
    ((d.validate registry).errors.find? ValidationError.isUnreadable).map ValidationError.message =
      (unreadable? registry (d.conditions ++ d.validators)).map ConfigError.message := by
  have happ : unreadable? registry (d.conditions ++ d.validators) =
      (unreadable? registry d.conditions).or (unreadable? registry d.validators) := by
    rw [unreadable?, List.map_append, firstError_append]
    rfl
  rw [validate, List.find?_append, Option.map_or, message_judgeSection, message_judgeSection,
    happ, Option.map_or]

end Document

/-- **Building and validating agree.** Over any registry a document fails to
build exactly if its validation reports an entry that is no rule, and then with
the error whose wording is that of the first such report. So a document that is
loaded from a text never fails to build once it is found valid. -/
theorem build_error_is_first_unreadable (registry : Registry) (d : Document) :
    ((∃ e, d.build registry = .error e) ↔
        ∃ v ∈ (d.validate registry).errors, v.isUnreadable = true)
      ∧ (∀ e, d.build registry = .error e →
          ∃ v, (d.validate registry).errors.find? ValidationError.isUnreadable = some v
            ∧ v.message = e.message)
      ∧ ∀ text es, ValidatorSet.load registry text = .error es → ∀ e, .config e ∉ es := by
  have hfirst : ∀ {d : Document} {e : ConfigError}, d.build registry = .error e →
      ∃ v, (d.validate registry).errors.find? ValidationError.isUnreadable = some v
        ∧ v.message = e.message := by
    intro d e h
    have hm := d.message_validate registry
    rw [Document.build_eq_error.mp h] at hm
    exact Option.map_eq_some_iff.mp hm
  refine ⟨⟨?_, ?_⟩, fun e => hfirst, ?_⟩
  · rintro ⟨e, h⟩
    obtain ⟨v, hv, -⟩ := hfirst h
    exact ⟨v, List.mem_of_find?_eq_some hv, List.find?_some hv⟩
  · rintro ⟨v, hv, hread⟩
    have hsome := List.find?_isSome.mpr ⟨v, hv, hread⟩
    rw [← Option.isSome_map (f := ValidationError.message), d.message_validate registry,
      Option.isSome_map] at hsome
    obtain ⟨e, he⟩ := Option.isSome_iff_exists.mp hsome
    exact ⟨e, Document.build_eq_error.mpr he⟩
  · intro text es h e he
    rw [ValidatorSet.load] at h
    split at h
    · cases h
      cases List.mem_singleton.mp he
    · next d hd =>
      split at h
      · next hvalid =>
        split at h
        · cases h
        · next e' hbuild =>
          obtain ⟨v, hv, -⟩ := hfirst hbuild
          rw [hvalid] at hv
          cases hv
      · cases h
        obtain ⟨v, -, hv⟩ := List.mem_map.mp he
        cases hv

/-- A document with an operand that suits no capability before two entries that
are no rules. -/
def faultyDocument : Document where
  conditions := [.line "a:length:1 2"]
  validators := [.line "a:not_empty", .binding ⟨" b ", "no_such", none, none⟩, .line ":equal"]

theorem build_error_of_faultyDocument :
    ((faultyDocument.validate .builtin).errors.map ValidationError.rule) =
        ["V-003", "V-002", "V-001"]
      ∧ faultyDocument.build .builtin = .error (.unknownCapability "NoSuch")
      ∧ ∃ v, (faultyDocument.validate .builtin).errors.find? ValidationError.isUnreadable = some v
        ∧ v.message = "the validator 'NoSuch' does not exist" := by
  have hbuild : faultyDocument.build .builtin = .error (.unknownCapability "NoSuch") :=
    Document.build_eq_error.mpr (by decide +kernel)
  have hrules : ((faultyDocument.validate .builtin).errors.map ValidationError.rule) =
      ["V-003", "V-002", "V-001"] := by decide +kernel
  obtain ⟨-, hfirst, -⟩ := build_error_is_first_unreadable .builtin faultyDocument
  exact ⟨hrules, hbuild, hfirst _ hbuild⟩

end RecordRules
