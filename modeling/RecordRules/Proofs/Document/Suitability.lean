import RecordRules.Proofs.Capability.Referring
import RecordRules.Proofs.Document.Validated
import RecordRules.Proofs.ValidatorSet.Refusals

/-!
# Operands that do not suit

Validation makes the capability of every rule with the operand as it is
declared; evaluation makes it again with references put in place. So the two
can part, in either direction, over a text that refers into the record:

- An operand that was found to suit may be refused in an evaluation. This
  takes a capability that reads a text as something else than a number
  (`clean_set_refuses_only_references`).
- An operand that was reported not to suit may be accepted after all. For all
  other records it is refused, as it was reported
  (`reported_operand_is_refused`); that none of its texts looks like a
  reference does not keep a text from being one.

In between stand the verdicts on entries, of which the faults and the warnings
of a document are made (`mem_operandErrors`, `exists_referenceWarning`).
-/

namespace RecordRules

/-! ## Verdicts -/

namespace Rule.Gives

variable {r : Rule} {k : Kind} {v : Json}

theorem judgeRule_of_prepared (h : r.Gives k v) {patterns : List Pattern}
    (hp : k.prepare r.value = .ok patterns) : Document.judgeRule .builtin r = .sound r := by
  have hmake : (Entry.ofKind k).construct r.value none = .ok (.builtin ⟨k, _, none, _, hp⟩) :=
    Instance.make_of_prepared hp none
  rw [Document.judgeRule, h.capability, Registry.builtin_get?]
  simp only [hmake]

theorem judgeRule_of_fault (h : r.Gives k v) {fault : OperandFault}
    (hp : k.prepare r.value = .error fault) :
    Document.judgeRule .builtin r =
      if Document.mayHoldReference r.value then .deferred r (.invalidOperand k.name fault)
      else .unsuited r (.invalidOperand k.name fault) := by
  have hmake : (Entry.ofKind k).construct r.value none = .error (.invalidOperand k.name fault) :=
    Instance.make_of_fault hp none
  rw [Document.judgeRule, h.capability, Registry.builtin_get?]
  simp only [hmake]

end Rule.Gives

namespace Document

variable {d : Document} {registry : Registry}

/-- The entry stands in that place of the document. -/
def IsAt (d : Document) (path : String) (entry : RuleEntry) : Prop :=
  (∃ i, d.conditions[i]? = some entry ∧ path = entryPath "conditions" i)
    ∨ ∃ i, d.validators[i]? = some entry ∧ path = entryPath "validators" i

theorem IsAt.mem {path : String} {entry : RuleEntry} (h : d.IsAt path entry) :
    entry ∈ d.conditions ++ d.validators := by
  rcases h with ⟨i, hi, -⟩ | ⟨i, hi, -⟩
  · exact List.mem_append_left _ (List.mem_of_getElem? hi)
  · exact List.mem_append_right _ (List.mem_of_getElem? hi)

theorem exists_isAt {entry : RuleEntry} (h : entry ∈ d.conditions ++ d.validators) :
    ∃ path, d.IsAt path entry := by
  rcases List.mem_append.mp h with h | h
  · obtain ⟨i, hi⟩ := List.mem_iff_getElem?.mp h
    exact ⟨_, .inl ⟨i, hi, rfl⟩⟩
  · obtain ⟨i, hi⟩ := List.mem_iff_getElem?.mp h
    exact ⟨_, .inr ⟨i, hi, rfl⟩⟩

theorem mem_judgeSection {name path : String} {entries : List RuleEntry} {verdict : EntryVerdict} :
    (path, verdict) ∈ judgeSection registry name entries ↔
      ∃ entry, (∃ i, entries[i]? = some entry ∧ path = entryPath name i)
        ∧ verdict = judgeEntry registry entry := by
  rw [judgeSection, List.mem_map]
  constructor
  · rintro ⟨⟨entry, i⟩, hi, h⟩
    cases h
    exact ⟨entry, ⟨i, List.mem_zipIdx_iff_getElem?.mp hi, rfl⟩, rfl⟩
  · rintro ⟨entry, ⟨i, hi, rfl⟩, rfl⟩
    exact ⟨(entry, i), List.mem_zipIdx_iff_getElem?.mpr hi, rfl⟩

/-- What is found in either section is the verdict on an entry in its place. -/
theorem mem_judgeSections {path : String} {verdict : EntryVerdict} :
    (path, verdict) ∈ judgeSection registry "conditions" d.conditions
        ++ judgeSection registry "validators" d.validators ↔
      ∃ entry, d.IsAt path entry ∧ verdict = judgeEntry registry entry := by
  simp only [List.mem_append, mem_judgeSection, IsAt, or_and_right, exists_or]

theorem mem_sectionErrors {verdicts : List (String × EntryVerdict)} {v : ValidationError} :
    v ∈ sectionErrors verdicts ↔
      ∃ path verdict, (path, verdict) ∈ verdicts
        ∧ (verdict.readError? path = some v ∨ verdict.operandError? path = some v) := by
  simp only [sectionErrors, List.mem_append, List.mem_filterMap, Prod.exists, and_or_left,
    exists_or]

theorem mem_errors {v : ValidationError} :
    v ∈ (d.validate registry).errors ↔
      ∃ path entry, d.IsAt path entry ∧ ((judgeEntry registry entry).readError? path = some v
        ∨ (judgeEntry registry entry).operandError? path = some v) := by
  have hsections : (d.validate registry).errors =
      sectionErrors (judgeSection registry "conditions" d.conditions)
        ++ sectionErrors (judgeSection registry "validators" d.validators) := rfl
  rw [hsections, List.mem_append, mem_sectionErrors, mem_sectionErrors]
  simp only [← exists_or, ← or_and_right, ← List.mem_append, mem_judgeSections]
  constructor
  · rintro ⟨path, _, ⟨entry, hat, rfl⟩, hv⟩
    exact ⟨path, entry, hat, hv⟩
  · rintro ⟨path, entry, hat, hv⟩
    exact ⟨path, _, ⟨entry, hat, rfl⟩, hv⟩

/-- The faults of operands are the entries whose operands do not suit, in their
places. -/
theorem mem_operandErrors {v : ValidationError} :
    v ∈ (d.validate registry).errors ∧ v.rule = "V-003" ↔
      ∃ entry r e, d.IsAt v.path entry ∧ judgeEntry registry entry = .unsuited r e
        ∧ v = ⟨"V-003", v.path, e.message⟩ := by
  rw [mem_errors]
  constructor
  · rintro ⟨⟨path, entry, hat, hv | hv⟩, hrule⟩
    · have hread := EntryVerdict.isUnreadable_readError hv
      rw [ValidationError.isUnreadable, hrule] at hread
      cases hread
    · cases hverdict : judgeEntry registry entry with
      | unsuited r e =>
          rw [hverdict] at hv
          cases hv
          exact ⟨entry, r, e, hat, hverdict, rfl⟩
      | unreadable e | deferred r e | sound r =>
          rw [hverdict] at hv
          cases hv
  · rintro ⟨entry, r, e, hat, hverdict, hv⟩
    refine ⟨⟨v.path, entry, hat, .inr ?_⟩, congrArg ValidationError.rule hv⟩
    rw [hverdict, hv]
    rfl

/-- An operand that is only judged at evaluation is warned of. -/
theorem exists_referenceWarning {entry : RuleEntry} {r : Rule} {e : ConfigError}
    (hentry : entry ∈ d.conditions ++ d.validators)
    (h : judgeEntry registry entry = .deferred r e) :
    ∃ w ∈ (d.validate registry).warnings, w.code = "W-003" := by
  obtain ⟨path, hat⟩ := exists_isAt hentry
  have hmem := mem_judgeSections.mpr ⟨entry, hat, h.symm⟩
  obtain ⟨w, hw, hcode⟩ : ∃ w, (EntryVerdict.deferred r e).referenceWarning? path = some w
      ∧ w.code = "W-003" := ⟨_, rfl, rfl⟩
  refine ⟨w, ?_, hcode⟩
  rcases List.mem_append.mp hmem with hmem | hmem
  · refine List.mem_append_left _ (List.mem_append_right _ (List.mem_append_left _ ?_))
    exact List.mem_filterMap.mpr ⟨_, hmem, hw⟩
  · refine List.mem_append_right _ (List.mem_append_left _ ?_)
    exact List.mem_filterMap.mpr ⟨_, hmem, hw⟩

/-- Only the texts of an operand may look like references. -/
theorem mayHoldReference_eq (o : Operand) :
    mayHoldReference o = o.texts.any looksLikeReference := by
  have htexts : o.texts.any looksLikeReference = o.values.any isReferenceLike := by
    rw [Operand.texts, List.any_filterMap]
    congr 1
    funext v
    cases v <;> rfl
  rw [htexts]
  cases o with
  | absent | list items | field f => rfl
  | scalar v | keyed f v =>
      cases v <;> simp [mayHoldReference, Operand.values, isReferenceLike]

/-- An entry whose operand does not suit gives its capability a value that it
refuses as it is. -/
theorem unsuited_eq {entry : RuleEntry} {r : Rule} {e : ConfigError}
    (h : judgeEntry .builtin entry = .unsuited r e) :
    ∃ k v fault, entry.toRule .builtin = .ok r ∧ r.Gives k v ∧ k.prepare r.value = .error fault
      ∧ mayHoldReference r.value = false ∧ e = .invalidOperand k.name fault := by
  rw [judgeEntry] at h
  split at h
  · cases h
  · next r' hr =>
    obtain ⟨k, v, hv, -⟩ := RuleEntry.gives_toRule hr
    cases hp : k.prepare r'.value with
    | ok patterns =>
        rw [hv.judgeRule_of_prepared hp] at h
        cases h
    | error fault =>
        rw [hv.judgeRule_of_fault hp] at h
        split at h
        · cases h
        · next hlooks =>
          cases h
          exact ⟨k, v, fault, hr, hv, hp, Bool.not_eq_true _ ▸ hlooks, rfl⟩

/-- Without a fault and without that warning, every operand suits. -/
theorem prepared_of_clean (herrors : (d.validate .builtin).errors = [])
    (hwarnings : ∀ w ∈ (d.validate .builtin).warnings, w.code ≠ "W-003")
    {entry : RuleEntry} (hentry : entry ∈ d.conditions ++ d.validators) {r : Rule} {k : Kind}
    {v : Json} (hr : entry.toRule .builtin = .ok r) (h : r.Gives k v) :
    ∃ patterns, k.prepare r.value = .ok patterns := by
  cases hp : k.prepare r.value with
  | ok patterns => exact ⟨patterns, rfl⟩
  | error fault =>
      have hverdict : judgeEntry .builtin entry = judgeRule .builtin r := by rw [judgeEntry, hr]
      rw [h.judgeRule_of_fault hp] at hverdict
      split at hverdict
      · obtain ⟨w, hw, hcode⟩ := exists_referenceWarning hentry hverdict
        exact absurd hcode (hwarnings w hw)
      · obtain ⟨path, hat⟩ := exists_isAt hentry
        have hv := (mem_operandErrors (v := ⟨"V-003", path, _⟩)).mpr
          ⟨entry, r, _, hat, hverdict, rfl⟩
        rw [herrors] at hv
        cases hv.1

/-- A document without a fault builds. -/
theorem build_of_clean (herrors : (d.validate registry).errors = []) :
    ∃ s, d.build registry = .ok s := by
  cases hs : d.build registry with
  | ok s => exact ⟨s, rfl⟩
  | error e =>
      have hmessage := d.message_validate registry
      rw [herrors, build_eq_error.mp hs] at hmessage
      cases hmessage

end Document

/-! ## Operands found to suit -/

/-- **A set that validates cleanly refuses an operand only for what it refers
to.** A document without a fault and without a warning of a deferred operand
builds, and where an evaluation of the set refuses an operand, it is that of a
rule whose capability reads a text in it, and a text of it refers into the
record. -/
theorem clean_set_refuses_only_references {d : Document}
    (herrors : (d.validate .builtin).errors = [])
    (hwarnings : ∀ w ∈ (d.validate .builtin).warnings, w.code ≠ "W-003") :
    ∃ s, d.build .builtin = .ok s ∧
      ∀ record name fault, s.evaluate record = .error (.invalidOperand name fault) →
        ∃ entry ∈ d.conditions ++ d.validators, ∃ r k, entry.toRule .builtin = .ok r
          ∧ r.capability = k.name ∧ k.readsText = true ∧ r.value.RefersInto record
          ∧ r.IsRefused k record name fault := by
  obtain ⟨s, hs⟩ := Document.build_of_clean herrors
  have hrules : Savable (Change.FromRule fun r =>
      ∃ entry ∈ d.conditions ++ d.validators, entry.toRule .builtin = .ok r) s :=
    .fromRule hs fun entry hentry r hr => ⟨entry, hentry, hr⟩
  refine ⟨s, hs, fun record name fault h => ?_⟩
  obtain ⟨r, k, v, ⟨entry, hentry, hr⟩, hv, hrefused⟩ := hrules.exists_isRefused h
  obtain ⟨patterns, hp⟩ := Document.prepared_of_clean herrors hwarnings hentry hr hv
  obtain ⟨hk, hrefers⟩ := Kind.readsText_of_refused hp hrefused.2
  exact ⟨entry, hentry, r, k, hr, hv.capability, hk, hrefers, hrefused⟩

/-- A name is matched against a pattern that a record may bring along. -/
def patternedDocument : Document where
  conditions := [.line "n:between:1,5"]
  validators := [.line "name:reg_ex:pattern"]

theorem clean_set_refuses_only_references_to_pattern :
    (patternedDocument.validate .builtin).errors = []
      ∧ (∀ w ∈ (patternedDocument.validate .builtin).warnings, w.code ≠ "W-003")
      ∧ ∃ s, patternedDocument.build .builtin = .ok s ∧
        ∀ record, record.get? "pattern" = none →
          ∀ name fault, s.evaluate record ≠ .error (.invalidOperand name fault) := by
  have herrors : (patternedDocument.validate .builtin).errors = [] := by decide +kernel
  have hwarnings : ∀ w ∈ (patternedDocument.validate .builtin).warnings, w.code ≠ "W-003" := by
    decide +kernel
  obtain ⟨s, hs, hrefuses⟩ := clean_set_refuses_only_references herrors hwarnings
  refine ⟨herrors, hwarnings, s, hs, fun record hpattern name fault h => ?_⟩
  obtain ⟨entry, hentry, r, k, hr, -, -, ⟨text, htext, hrefers⟩, -⟩ := hrefuses record name fault h
  have hread : entry = .line "n:between:1,5" ∨ entry = .line "name:reg_ex:pattern" := by
    simpa [patternedDocument] using hentry
  rcases hread with rfl | rfl
  · have hr' : (RuleEntry.line "n:between:1,5").toRule .builtin =
        .ok ⟨"n", "Between", .list [.str "1", .str "5"], none⟩ := by decide +kernel
    cases hr.symm.trans hr'
    have hbounds : text = "1" ∨ text = "5" := by
      simpa [Operand.referring, Json.text?] using htext
    obtain ⟨x, hx⟩ : ∃ x, numberInText text = some x := by
      refine Option.isSome_iff_exists.mp ?_
      rcases hbounds with rfl | rfl <;> decide +kernel
    exact not_refersInto_of_numberInText hx record hrefers
  · have hr' : (RuleEntry.line "name:reg_ex:pattern").toRule .builtin =
        .ok ⟨"name", "RegEx", .scalar (.str "pattern"), none⟩ := by decide +kernel
    cases hr.symm.trans hr'
    obtain rfl : text = "pattern" := by simpa [Operand.referring, Json.text?] using htext
    have hbare : bracketReference? "pattern" = none := by decide +kernel
    rw [RefersInto, hbare, hpattern] at hrefers
    cases hrefers.2

/-- The pattern `pattern` was found to suit; what a record brings along for it
is none. -/
theorem clean_set_refuses_pattern :
    (patternedDocument.validate .builtin).errors = []
      ∧ (∀ w ∈ (patternedDocument.validate .builtin).warnings, w.code ≠ "W-003")
      ∧ ∃ s, patternedDocument.build .builtin = .ok s
        ∧ s.evaluate (.obj [("n", .str "3"), ("name", .str "my pattern"), ("pattern", .str "(")])
          = .error (.invalidOperand "RegEx" (.badPattern "(")) := by
  have herrors : (patternedDocument.validate .builtin).errors = [] := by decide +kernel
  obtain ⟨s, hs⟩ := Document.build_of_clean herrors
  have hrun : (patternedDocument.build .builtin >>= fun s =>
      (s.evaluate (.obj [("n", .str "3"), ("name", .str "my pattern"), ("pattern", .str "(")])).map
        fun _ => ()) = .error (.invalidOperand "RegEx" (.badPattern "(")) := by decide +kernel
  refine ⟨herrors, by decide +kernel, s, hs, ?_⟩
  rw [hs, ok_bind] at hrun
  cases he : s.evaluate (.obj [("n", .str "3"), ("name", .str "my pattern"), ("pattern", .str "(")])
    with
  | error e =>
      rw [he] at hrun
      cases hrun
      rfl
  | ok report =>
      rw [he] at hrun
      cases hrun

/-! ## Operands reported not to suit -/

/-- **A reported operand is refused, unless it refers to something after all.**
An operand that is reported not to suit is that of an entry, which declares a
binding. No text of it looks like a reference; and for every record that none
of its texts refers into, no instance can be made of the binding, for the
reason that was reported. -/
theorem reported_operand_is_refused {d : Document} {v : ValidationError}
    (hv : v ∈ (d.validate .builtin).errors) (hrule : v.rule = "V-003") :
    (∀ text, Document.read text = .ok d →
        ∃ es, ValidatorSet.load .builtin text = .error es ∧ .validation v ∈ es)
      ∧ ∃ entry field b, d.IsAt v.path entry
        ∧ Change.declaringEntry .builtin entry = .ok (.bind field b)
        ∧ (∀ text ∈ b.value.texts, Document.looksLikeReference text = false)
        ∧ ∀ record, ¬b.value.RefersInto record →
          ∃ e, b.materialize record = .error e ∧ e.message = v.message := by
  constructor
  · intro text hread
    have herrors : (d.validate .builtin).errors ≠ [] := List.ne_nil_of_mem hv
    refine ⟨(d.validate .builtin).errors.map .validation, ?_, List.mem_map_of_mem hv⟩
    rw [ValidatorSet.load, hread]
    dsimp only
    split
    next hnil => exact absurd hnil herrors
    next => rfl
  · obtain ⟨entry, r, e, hat, hverdict, hv⟩ := Document.mem_operandErrors.mp ⟨hv, hrule⟩
    obtain ⟨k, w, fault, hr, hw, hp, hlooks, rfl⟩ := Document.unsuited_eq hverdict
    refine ⟨entry, r.field, r.toBinding k, hat, ?_, ?_, ?_⟩
    · rw [Change.declaringEntry, hr]
      exact hw.declaringRule_eq
    · rw [Document.mayHoldReference_eq, List.any_eq_false] at hlooks
      intro text htext
      exact Bool.not_eq_true _ ▸ hlooks text htext
    · intro record hrefers
      have hself : r.value.resolve record = r.value := Operand.resolve_eq_self hrefers
      refine ⟨.invalidOperand k.name fault, ?_, (congrArg ValidationError.message hv).symm⟩
      change Instance.make k (r.value.resolve record) r.message = _
      rw [hself]
      exact Instance.make_of_fault hp r.message

/-- A length is given as a key that is spelled like no name. -/
def hyphenRule : Rule := ⟨"a", "Length", .scalar (.str "min-length"), none⟩

def hyphenDocument : Document where
  validators := [.binding ⟨"a", "length", some (.str "min-length"), none⟩]

theorem hyphenDocument_errors :
    (hyphenDocument.validate .builtin).errors =
      [⟨"V-003", "validators[0]",
        "invalid value for 'Length': expected a number, got \"min-length\""⟩] := by
  decide +kernel

theorem hyphenDocument_declares {path : String} {entry : RuleEntry}
    (h : hyphenDocument.IsAt path entry) :
    Change.declaringEntry .builtin entry =
      .ok (.bind "a" (hyphenRule.toBinding (.value .length))) := by
  have hmem := h.mem
  obtain rfl : entry = .binding ⟨"a", "length", some (.str "min-length"), none⟩ := by
    simpa [hyphenDocument] using hmem
  have hr : (RuleEntry.binding ⟨"a", "length", some (.str "min-length"), none⟩).toRule .builtin =
      .ok hyphenRule := by decide +kernel
  have hgives : hyphenRule.Gives (.value .length) (.str "min-length") :=
    ⟨by decide, by decide +kernel, rfl, rfl⟩
  rw [Change.declaringEntry, hr]
  exact hgives.declaringRule_eq

theorem reported_operand_is_refused_without_key :
    ∃ v ∈ (hyphenDocument.validate .builtin).errors, v.rule = "V-003"
      ∧ ∃ entry field b, hyphenDocument.IsAt v.path entry
        ∧ Change.declaringEntry .builtin entry = .ok (.bind field b)
        ∧ ∀ record, record.get? "min-length" = none →
          ∃ e, b.materialize record = .error e ∧ e.message = v.message := by
  refine ⟨_, hyphenDocument_errors ▸ List.mem_singleton_self _, rfl, ?_⟩
  obtain ⟨-, entry, field, b, hat, hb, -, hrefused⟩ := reported_operand_is_refused
    (hyphenDocument_errors ▸ List.mem_singleton_self _) rfl
  refine ⟨entry, field, b, hat, hb, fun record hrecord => hrefused record ?_⟩
  cases hb.symm.trans (hyphenDocument_declares hat)
  rintro ⟨text, htext, hrefers⟩
  obtain rfl : text = "min-length" := by
    simpa [Rule.toBinding, hyphenRule, Operand.referring, Json.text?] using htext
  have hbare : bracketReference? "min-length" = none := by decide +kernel
  rw [RefersInto, hbare, hrecord] at hrefers
  cases hrefers.2

/-- A record may have any key, one with a hyphen too. -/
def hyphenRecord : Json :=
  .obj [("a", .str "abc"), ("min-length", .num (.int ⟨3, by decide⟩))]

theorem reported_operand_is_accepted :
    ∃ v ∈ (hyphenDocument.validate .builtin).errors, v.rule = "V-003"
      ∧ ∃ entry field b, hyphenDocument.IsAt v.path entry
        ∧ Change.declaringEntry .builtin entry = .ok (.bind field b)
        ∧ ∃ i, b.materialize hyphenRecord = .ok i ∧ i.evaluate (.str "abc") = .ok true := by
  refine ⟨_, hyphenDocument_errors ▸ List.mem_singleton_self _, rfl, ?_⟩
  have hat : hyphenDocument.IsAt "validators[0]"
      (.binding ⟨"a", "length", some (.str "min-length"), none⟩) := .inr ⟨0, rfl, by decide +kernel⟩
  have hrun : ((hyphenRule.toBinding (.value .length)).materialize hyphenRecord >>= fun i =>
      i.evaluate (.str "abc")).toOption = some true := by decide +kernel
  exact ⟨_, _, _, hat, hyphenDocument_declares hat, bind_eq_ok.mp (toOption_eq_some.mp hrun)⟩

end RecordRules
