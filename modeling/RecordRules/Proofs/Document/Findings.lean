import RecordRules.Proofs.Document.Duplicates
import RecordRules.Proofs.Document.Suitability

/-!
# What is found of an entry

The faults and the warnings of a document are lists, made section by section and
code by code. What they hold of a single entry stands in different parts of them,
and the entries that cannot be read are missing from all but the first. But all
that is reported of an entry bears its path, and no two entries have one path. So
the reports can be sorted by entry again (`ValidationResult.about`), and there is
at most one of each entry, which is that of its verdict (`about_eq`).

What that report is, if there is one, is a matter of the entry and the registry
only (`Finds`); the places of entries and the other entries have no part in it
(`every_entry_is_judged_alone`). Duplicates are left out here: they are found by
comparing entries.
-/

namespace RecordRules

/-- What is reported of an entry, with its code and in words. -/
inductive Finding
  | fault (code message : String)
  | warning (code message : String)

def ValidationError.finding (v : ValidationError) : Finding := .fault v.rule v.message

/-- The fault, if it is reported under that path. -/
def ValidationError.findingAt (path : String) (v : ValidationError) : Option Finding :=
  if v.path = path then some v.finding else none

def Warning.finding (w : Warning) : Finding := .warning w.code w.message

/-- The warning, if it is about an operand and reported under that path. -/
def Warning.findingAt (path : String) (w : Warning) : Option Finding :=
  if w.code = "W-003" ∧ w.path = some path then some w.finding else none

/-- How an operand is reported that is only judged at evaluation. -/
def Rule.deferral (r : Rule) (e : ConfigError) : String :=
  "'" ++ r.render ++ "' is only valid once its field references resolve: " ++ e.message

/-- What there is to be found of an entry over a registry. -/
inductive Finds (registry : Registry) (entry : RuleEntry) : Finding → Prop
  /-- It has no field or no capability. -/
  | malformed {e : ConfigError} : entry.toRule registry = .error e →
      (∀ name, e ≠ .unknownCapability name) → Finds registry entry (.fault "V-001" e.message)
  /-- Its capability is not registered. -/
  | unknown {name : String} : entry.toRule registry = .error (.unknownCapability name) →
      Finds registry entry (.fault "V-002" (ConfigError.unknownCapability name).message)
  /-- No instance of its capability can be made with its operand, no text of which
  looks like a reference. -/
  | unsuited {r : Rule} {found : Entry} {e : ConfigError} : entry.toRule registry = .ok r →
      registry.get? r.capability = some found → found.construct r.value none = .error e →
      Document.mayHoldReference r.value = false → Finds registry entry (.fault "V-003" e.message)
  /-- No instance of its capability can be made before what looks like a reference
  is put in place. -/
  | deferred {r : Rule} {found : Entry} {e : ConfigError} : entry.toRule registry = .ok r →
      registry.get? r.capability = some found → found.construct r.value none = .error e →
      Document.mayHoldReference r.value = true →
      Finds registry entry (.warning "W-003" (r.deferral e))

/-- All that is reported under a path, but for duplicates. -/
def ValidationResult.about (r : ValidationResult) (path : String) : List Finding :=
  r.errors.filterMap (ValidationError.findingAt path)
    ++ r.warnings.filterMap (Warning.findingAt path)

namespace Document

/-! ## Verdicts -/

namespace EntryVerdict

def finding? : EntryVerdict → Option Finding
  | .unreadable (.unknownCapability name) =>
      some (.fault "V-002" (ConfigError.unknownCapability name).message)
  | .unreadable e => some (.fault "V-001" e.message)
  | .unsuited _ e => some (.fault "V-003" e.message)
  | .deferred r e => some (.warning "W-003" (r.deferral e))
  | .sound _ => none

end EntryVerdict

section

variable {registry : Registry} {entry : RuleEntry} {f : Finding}

theorem finds_of_judgeRule {r : Rule} (hr : entry.toRule registry = .ok r)
    (h : (judgeRule registry r).finding? = some f) : Finds registry entry f := by
  rw [judgeRule] at h
  split at h
  · cases h
  · next found hfound =>
    split at h
    · cases h
    · next e he =>
      split at h
      · next hrefers =>
        cases h
        exact .deferred hr hfound he hrefers
      · next hrefers =>
        cases h
        exact .unsuited hr hfound he (Bool.eq_false_of_not_eq_true hrefers)

theorem finds_of_judgeEntry (h : (judgeEntry registry entry).finding? = some f) :
    Finds registry entry f := by
  rw [judgeEntry] at h
  cases hr : entry.toRule registry with
  | ok r =>
      rw [hr] at h
      exact finds_of_judgeRule hr h
  | error e =>
      rw [hr] at h
      -- An unknown capability has a code of its own; all other errors share one.
      cases e with
      | unknownCapability name =>
          cases h
          exact .unknown hr
      | malformedRule | missingField | invalidOperand | invalidInput | invalidStrictLevel =>
          cases h
          refine .malformed hr ?_
          intro name hname
          cases hname

theorem finding?_of_finds (h : Finds registry entry f) :
    (judgeEntry registry entry).finding? = some f := by
  cases h with
  | @malformed e hr hne =>
      rw [judgeEntry, hr]
      cases e with
      | unknownCapability name => exact absurd rfl (hne name)
      | malformedRule | missingField | invalidOperand | invalidInput | invalidStrictLevel => rfl
  | unknown hr =>
      rw [judgeEntry, hr]
      rfl
  | unsuited hr hfound he hrefers =>
      simp only [judgeEntry, hr, judgeRule, hfound, he, hrefers]
      rfl
  | deferred hr hfound he hrefers =>
      simp only [judgeEntry, hr, judgeRule, hfound, he, hrefers]
      rfl

/-- A verdict is reported as what there is to be found. -/
theorem finding?_judgeEntry : (judgeEntry registry entry).finding? = some f ↔
    Finds registry entry f :=
  ⟨finds_of_judgeEntry, finding?_of_finds⟩

end

/-! ## Lists with places -/

section Places

variable {α β : Type} {place : Nat → String} {path : String} {g : α → Option β}

theorem filterMap_zipIdx_elsewhere {start : Nat} {xs : List α}
    (h : ∀ j, start ≤ j → place j ≠ path) :
    (xs.zipIdx start).filterMap (fun p => if place p.2 = path then g p.1 else none) = [] := by
  rw [List.filterMap_eq_nil_iff]
  rintro ⟨x, j⟩ hmem
  rw [if_neg (h j (List.le_snd_of_mem_zipIdx hmem))]

/-- Where places differ, all that is in a place is the item in it. -/
theorem filterMap_zipIdx_at (hplace : ∀ i j, place i = place j → i = j) {xs : List α} {i : Nat}
    {x : α} (h : xs[i]? = some x) (start : Nat) :
    (xs.zipIdx start).filterMap
      (fun p => if place p.2 = place (start + i) then g p.1 else none) = (g x).toList := by
  induction xs generalizing i start with
  | nil => cases h
  | cons y ys ih =>
      rw [List.zipIdx_cons]
      cases i with
      | zero =>
          obtain rfl : y = x := Option.some.inj h
          have hlater : ∀ j, start + 1 ≤ j → place j ≠ place (start + 0) := by
            intro j hj hp
            have heq := hplace _ _ hp
            omega
          have hrest : (ys.zipIdx (start + 1)).filterMap
              (fun p => if place p.2 = place (start + 0) then g p.1 else none) = [] :=
            filterMap_zipIdx_elsewhere hlater
          rw [List.filterMap_cons, hrest, if_pos (congrArg place (Nat.add_zero start).symm)]
          cases g y <;> rfl
      | succ i =>
          have hne : place start ≠ place (start + (i + 1)) := by
            intro hp
            have heq := hplace _ _ hp
            omega
          rw [List.filterMap_cons, if_neg hne, ← ih h (start + 1), Nat.add_right_comm start 1 i]
          rfl

end Places

/-! ## Reports by path -/

/-- What is made of the verdicts under a path. -/
def onPath (path : String) (g : EntryVerdict → Option Finding)
    (verdicts : List (String × EntryVerdict)) : List Finding :=
  verdicts.filterMap fun p => if p.1 = path then g p.2 else none

section

variable {registry : Registry} {name path : String} {entries : List RuleEntry}
  {g : EntryVerdict → Option Finding}

theorem onPath_at {i : Nat} {entry : RuleEntry} (h : entries[i]? = some entry) :
    onPath (entryPath name i) g (judgeSection registry name entries) =
      (g (judgeEntry registry entry)).toList := by
  have hplace : ∀ i j, entryPath name i = entryPath name j → i = j := fun _ _ => entryPath_inj
  have hat := filterMap_zipIdx_at (g := fun entry => g (judgeEntry registry entry)) hplace h 0
  rw [Nat.zero_add] at hat
  rw [← hat, onPath, judgeSection, List.filterMap_map]
  rfl

theorem onPath_elsewhere (h : ∀ j, entryPath name j ≠ path) :
    onPath path g (judgeSection registry name entries) = [] := by
  rw [onPath, judgeSection, List.filterMap_map]
  exact filterMap_zipIdx_elsewhere (g := fun entry => g (judgeEntry registry entry))
    fun j _ => h j

end

/-- The faults of a document under a path, and its warnings, are made of these. -/
def readFinding? (path : String) (verdict : EntryVerdict) : Option Finding :=
  (verdict.readError? path).map ValidationError.finding

def operandFinding? (path : String) (verdict : EntryVerdict) : Option Finding :=
  (verdict.operandError? path).map ValidationError.finding

def referenceFinding? (path : String) (verdict : EntryVerdict) : Option Finding :=
  (verdict.referenceWarning? path).map Warning.finding

namespace EntryVerdict

variable {path : String}

theorem path_of_error {verdict : EntryVerdict} {v : ValidationError}
    (h : verdict.readError? path = some v ∨ verdict.operandError? path = some v) :
    v.path = path := by
  cases verdict with
  | unreadable e | unsuited r e =>
      rcases h with h | h <;> cases h
      rfl
  | deferred r e | sound r => rcases h with h | h <;> cases h

theorem path_referenceWarning {verdict : EntryVerdict} {w : Warning}
    (h : verdict.referenceWarning? path = some w) : w.path = some path := by
  cases verdict with
  | deferred r e =>
      cases h
      rfl
  | unreadable e | unsuited r e | sound r => cases h

theorem findingAt_readError (verdict : EntryVerdict) (place : String) :
    (verdict.readError? place).bind (ValidationError.findingAt path) =
      if place = path then readFinding? path verdict else none := by
  cases verdict with
  | unreadable e => rfl
  | unsuited r e | deferred r e | sound r => exact (ite_self none).symm

theorem findingAt_operandError (verdict : EntryVerdict) (place : String) :
    (verdict.operandError? place).bind (ValidationError.findingAt path) =
      if place = path then operandFinding? path verdict else none := by
  cases verdict with
  | unsuited r e => rfl
  | unreadable e | deferred r e | sound r => exact (ite_self none).symm

theorem findingAt_referenceWarning (verdict : EntryVerdict) (place : String) :
    (verdict.referenceWarning? place).bind (Warning.findingAt path) =
      if place = path then referenceFinding? path verdict else none := by
  cases verdict with
  | deferred r e =>
      simp only [referenceWarning?, Option.bind_some, Warning.findingAt, Option.some.injEq,
        true_and]
      rfl
  | unreadable e | unsuited r e | sound r => exact (ite_self none).symm

/-- A verdict is reported in one way at most. -/
theorem toList_finding? (verdict : EntryVerdict) (path : String) :
    (readFinding? path verdict).toList ++ (operandFinding? path verdict).toList
        ++ (referenceFinding? path verdict).toList = verdict.finding?.toList := by
  cases verdict with
  | unreadable e => cases e <;> rfl
  | unsuited r e | deferred r e | sound r => rfl

end EntryVerdict

/-! ## Codes -/

theorem code_duplicateWarnings {w : Warning} {seen : List String} {rules : List (String × String)}
    (h : w ∈ duplicateWarnings seen rules) : w.code = "W-002" := by
  induction rules generalizing seen with
  | nil => cases h
  | cons rule rules ih =>
      rw [mem_duplicateWarnings_cons] at h
      rcases h with ⟨-, rfl⟩ | h
      · rfl
      · exact ih h

theorem code_emptyWarning {d : Document} {w : Warning} (h : w ∈ d.emptyWarning) :
    w.code = "W-001" := by
  rw [emptyWarning] at h
  split at h
  · rw [List.mem_singleton.mp h]
  · cases h

theorem code_sectionWarnings {w : Warning} {verdicts : List (String × EntryVerdict)}
    (h : w ∈ sectionWarnings verdicts) : w.code ≠ "W-001" := by
  rcases List.mem_append.mp h with h | h
  · obtain ⟨⟨path, verdict⟩, -, hw⟩ := List.mem_filterMap.mp h
    rw [code_referenceWarning hw]
    decide
  · rw [code_duplicateWarnings h]
    decide

theorem findingAt_other {path : String} {ws : List Warning} (h : ∀ w ∈ ws, w.code ≠ "W-003") :
    ws.filterMap (Warning.findingAt path) = [] := by
  rw [List.filterMap_eq_nil_iff]
  intro w hw
  exact if_neg fun hcode => h w hw hcode.1

/-! ## Sections and documents -/

/-- The faults under a path, those of reading before those of operands. -/
theorem filterMap_sectionErrors (path : String) (verdicts : List (String × EntryVerdict)) :
    (sectionErrors verdicts).filterMap (ValidationError.findingAt path) =
      onPath path (readFinding? path) verdicts ++ onPath path (operandFinding? path) verdicts := by
  rw [sectionErrors, List.filterMap_append, List.filterMap_filterMap, List.filterMap_filterMap]
  refine congrArg₂ (· ++ ·) (List.filterMap_congr ?_) (List.filterMap_congr ?_)
  · rintro ⟨place, verdict⟩ -
    exact verdict.findingAt_readError place
  · rintro ⟨place, verdict⟩ -
    exact verdict.findingAt_operandError place

/-- The warnings under a path, but for those of duplicates. -/
theorem filterMap_sectionWarnings (path : String) (verdicts : List (String × EntryVerdict)) :
    (sectionWarnings verdicts).filterMap (Warning.findingAt path) =
      onPath path (referenceFinding? path) verdicts := by
  have hduplicates : (duplicateWarnings [] (writtenRules verdicts)).filterMap
      (Warning.findingAt path) = [] := by
    refine findingAt_other fun w hw => ?_
    rw [code_duplicateWarnings hw]
    decide
  rw [sectionWarnings, List.filterMap_append, hduplicates, List.append_nil,
    List.filterMap_filterMap]
  refine List.filterMap_congr ?_
  rintro ⟨place, verdict⟩ -
  exact verdict.findingAt_referenceWarning place

section

variable {d : Document} {registry : Registry}

/-- What is reported under a path comes from both sections. -/
theorem about_validate (path : String) :
    let conditions := judgeSection registry "conditions" d.conditions
    let validators := judgeSection registry "validators" d.validators
    (d.validate registry).about path =
      onPath path (readFinding? path) conditions ++ onPath path (operandFinding? path) conditions
        ++ (onPath path (readFinding? path) validators
          ++ onPath path (operandFinding? path) validators)
        ++ (onPath path (referenceFinding? path) conditions
          ++ onPath path (referenceFinding? path) validators) := by
  intro conditions validators
  have hempty : d.emptyWarning.filterMap (Warning.findingAt path) = [] := by
    refine findingAt_other fun w hw => ?_
    rw [code_emptyWarning hw]
    decide
  rw [ValidationResult.about, validate, List.filterMap_append, List.filterMap_append,
    List.filterMap_append, hempty, filterMap_sectionErrors, filterMap_sectionErrors,
    filterMap_sectionWarnings, filterMap_sectionWarnings, List.nil_append]

/-- Of an entry just that is reported which its verdict is. -/
theorem about_eq {path : String} {entry : RuleEntry} (h : d.IsAt path entry) :
    (d.validate registry).about path = (judgeEntry registry entry).finding?.toList := by
  rw [about_validate]
  rcases h with ⟨i, hi, rfl⟩ | ⟨i, hi, rfl⟩
  · have hother : ∀ j, entryPath "validators" j ≠ entryPath "conditions" i :=
      fun j => (entryPath_conditions_ne i j).symm
    simp only [onPath_at hi, onPath_elsewhere hother, List.append_nil,
      EntryVerdict.toList_finding?]
  · have hother : ∀ j, entryPath "conditions" j ≠ entryPath "validators" i :=
      fun j => entryPath_conditions_ne j i
    simp only [onPath_at hi, onPath_elsewhere hother, List.append_nil, List.nil_append,
      EntryVerdict.toList_finding?]

theorem isAt_of_error {v : ValidationError} (h : v ∈ (d.validate registry).errors) :
    ∃ entry, d.IsAt v.path entry := by
  obtain ⟨path, entry, hat, hv⟩ := mem_errors.mp h
  obtain rfl : v.path = path := EntryVerdict.path_of_error hv
  exact ⟨entry, hat⟩

theorem isAt_of_referenceWarning {w : Warning} (h : w ∈ (d.validate registry).warnings)
    (hcode : w.code = "W-003") : ∃ path entry, w.path = some path ∧ d.IsAt path entry := by
  have hmem : ∀ {name entries}, w ∈ sectionWarnings (judgeSection registry name entries) →
      ∃ i entry, entries[i]? = some entry ∧ w.path = some (entryPath name i) := by
    intro name entries hw
    rcases List.mem_append.mp hw with hw | hw
    · obtain ⟨⟨path, verdict⟩, hverdict, hw⟩ := List.mem_filterMap.mp hw
      obtain ⟨entry, ⟨i, hi, rfl⟩, -⟩ := mem_judgeSection.mp hverdict
      exact ⟨i, entry, hi, EntryVerdict.path_referenceWarning hw⟩
    · rw [code_duplicateWarnings hw] at hcode
      exact absurd hcode (by decide)
  rw [validate, List.append_assoc, List.mem_append, List.mem_append] at h
  rcases h with h | h | h
  · rw [code_emptyWarning h] at hcode
    exact absurd hcode (by decide)
  · obtain ⟨i, entry, hi, hw⟩ := hmem h
    exact ⟨_, entry, hw, .inl ⟨i, hi, rfl⟩⟩
  · obtain ⟨i, entry, hi, hw⟩ := hmem h
    exact ⟨_, entry, hw, .inr ⟨i, hi, rfl⟩⟩

theorem exists_emptyWarning_iff :
    (∃ w ∈ (d.validate registry).warnings, w.code = "W-001") ↔
      d.conditions = [] ∧ d.validators = [] := by
  constructor
  · rintro ⟨w, hw, hcode⟩
    rw [validate, List.append_assoc, List.mem_append, List.mem_append] at hw
    rcases hw with hw | hw | hw
    · rw [emptyWarning] at hw
      split at hw
      · next hnil =>
        rw [Bool.and_eq_true, List.isEmpty_iff, List.isEmpty_iff] at hnil
        exact hnil
      · cases hw
    · exact absurd hcode (code_sectionWarnings hw)
    · exact absurd hcode (code_sectionWarnings hw)
  · rintro ⟨hconditions, hvalidators⟩
    refine ⟨⟨"W-001", none, "document declares no conditions and no validators"⟩, ?_, rfl⟩
    refine List.mem_append_left _ (List.mem_append_left _ ?_)
    rw [emptyWarning, hconditions, hvalidators]
    exact List.mem_singleton_self _

end

end Document

/-- **Every entry is judged on its own.** Of an entry there is one report at most
under its path, whatever the document: the one that there is to be found of the
entry over the registry. There is no other fault, and no other warning of an
operand. Nothing is reported of a document as a whole, but that it is empty. -/
theorem every_entry_is_judged_alone (registry : Registry) (d : Document) :
    (∀ path entry, d.IsAt path entry → ∃ found : Option Finding,
      (d.validate registry).about path = found.toList
      ∧ (∀ f, found = some f ↔ Finds registry entry f)
      ∧ ∀ (d' : Document) (path' : String), d'.IsAt path' entry →
        (d'.validate registry).about path' = (d.validate registry).about path)
    ∧ (∀ v ∈ (d.validate registry).errors, ∃ entry, d.IsAt v.path entry)
    ∧ (∀ w ∈ (d.validate registry).warnings, w.code = "W-003" →
      ∃ path entry, w.path = some path ∧ d.IsAt path entry)
    ∧ ((∃ w ∈ (d.validate registry).warnings, w.code = "W-001") ↔
      d.conditions = [] ∧ d.validators = []) := by
  refine ⟨fun path entry hat => ?_, fun v => Document.isAt_of_error,
    fun w => Document.isAt_of_referenceWarning, Document.exists_emptyWarning_iff⟩
  refine ⟨(Document.judgeEntry registry entry).finding?, Document.about_eq hat,
    fun f => Document.finding?_judgeEntry, fun d' path' hat' => ?_⟩
  rw [Document.about_eq hat, Document.about_eq hat']

/-- An entry of each sort, those that are read between those that are not. -/
def mixedDocument : Document where
  conditions := [.line "plan:equal:pro", .line "plan"]
  validators :=
    [.line "name:no_such", .binding ⟨"name", "length", some (.str "min-length"), none⟩,
      .line "name:not_empty", .line "name:length:many"]

theorem every_entry_is_judged_alone_of_mixed :
    (mixedDocument.validate .builtin).about "validators[0]" =
        [.fault "V-002" "the validator 'NoSuch' does not exist"]
      ∧ (mixedDocument.validate .builtin).about "validators[3]" =
        [.warning "W-003" ("'name:length:many' is only valid once its field references resolve: "
          ++ "invalid value for 'Length': expected a number, got \"many\"")]
      ∧ ∃ entry, mixedDocument.IsAt "validators[1]" entry := by
  have hlost : (RuleEntry.line "name:no_such").toRule .builtin =
      .error (.unknownCapability "NoSuch") := by decide +kernel
  have hread : (RuleEntry.line "name:length:many").toRule .builtin =
      .ok ⟨"name", "Length", .scalar (.str "many"), none⟩ := by decide +kernel
  have hcheck : (Kind.value .length).check (.scalar (.str "many")) =
      .error (.notNumeric (.str "many")) := by decide +kernel
  have hprepare : (Kind.value .length).prepare (.scalar (.str "many")) =
      .error (.notNumeric (.str "many")) := congrArg (Except.map fun _ => []) hcheck
  have hmake : (Entry.ofKind (.value .length)).construct (.scalar (.str "many")) none =
      .error (.invalidOperand "Length" (.notNumeric (.str "many"))) :=
    Instance.make_of_fault hprepare none
  have hdeferred := Finds.deferred hread (Registry.builtin_get? (.value .length)) hmake
    (by decide +kernel)
  obtain ⟨hentries, hfaults, -, -⟩ := every_entry_is_judged_alone .builtin mixedDocument
  obtain ⟨found, habout, hfound, -⟩ := hentries "validators[0]" _ (.inr ⟨0, rfl, by decide⟩)
  obtain ⟨found', habout', hfound', -⟩ := hentries "validators[3]" _ (.inr ⟨3, rfl, by decide⟩)
  obtain rfl := (hfound _).mpr (.unknown hlost)
  obtain rfl := (hfound' _).mpr hdeferred
  refine ⟨habout, habout', hfaults ⟨"V-003", "validators[1]",
    "invalid value for 'Length': expected a number, got \"min-length\""⟩ ?_⟩
  decide +kernel

end RecordRules
