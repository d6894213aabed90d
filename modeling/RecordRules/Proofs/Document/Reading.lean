import RecordRules.Proofs.Document.Grammar
import RecordRules.Proofs.Yaml.DistinctKeys

/-!
# Documents are what the grammar says

A document is read twice, by the checks that report offences with their places
and by the decoding that follows. Both take the same values: what passes the
checks fails to decode only for its mode, and what denotes a document decodes to
it (`ofValue_of_denotes`, `ofValue_of_firstOffence`). Since every value has a
document or an offence, reading accepts exactly the grammar
(`read_accepts_exactly_grammar`).

The checks look keys up, and the decoding takes entries one by one. A key that
comes up twice would tell them apart. That no value has one is all that is asked
of the reader of values (`Document.ReaderLaws`), and the one of YAML keeps it.
-/

namespace RecordRules

/-- What documents rely on in a reader of values. -/
structure Document.ReaderLaws (readValue? : String → Option Json) : Prop where
  /-- No map of a value that is read has a key twice. -/
  distinctKeys : ∀ {text : String} {v : Json}, readValue? text = some v → v.HasDistinctKeys

theorem Yaml.readerLaws : Document.ReaderLaws read? := ⟨read?_hasDistinctKeys⟩

namespace Document

/-! ## Rules -/

theorem decodeOptionalText_eq_ok {v : Json} {m : Option String} (h : IsMessage (some v) m) :
    decodeOptionalText v = .ok m := by
  cases h <;> rfl

/-- Keys that are all different are read in any order; each decides on one part. -/
theorem foldlM_putParts {entries : List (String × Json)} (hn : (entries.map Prod.fst).Nodup)
    (hkeys : ∀ e ∈ entries, e.1 ∈ BindingParts.keys) {p q : BindingParts}
    (hfield : (entries.lookup "field").elim (q.field = p.field) fun v =>
      ∃ s, v = .str s ∧ q.field = some s)
    (hcapability : (entries.lookup "capability").elim (q.capability = p.capability) fun v =>
      ∃ s, v = .str s ∧ q.capability = some s)
    (hvalue : (entries.lookup "value").elim (q.value = p.value) fun v =>
      q.value = BindingParts.presentValue v)
    (hmessage : (entries.lookup "message").elim (q.message = p.message) fun v =>
      decodeOptionalText v = .ok q.message) :
    entries.foldlM BindingParts.put p = .ok q := by
  induction entries generalizing p with
  | nil =>
      obtain ⟨field, capability, value, message⟩ := p
      obtain ⟨field', capability', value', message'⟩ := q
      cases hfield
      cases hcapability
      cases hvalue
      cases hmessage
      rfl
  | cons e entries ih =>
      obtain ⟨key, v⟩ := e
      obtain ⟨hkey, hdistinct⟩ := List.nodup_cons.mp hn
      obtain ⟨hknown, hrest⟩ := List.forall_mem_cons.mp hkeys
      have hnone : entries.lookup key = none := KeyedList.lookup_of_notMem hkey
      simp only [BindingParts.keys, List.mem_cons, List.not_mem_nil, or_false] at hknown
      rw [List.foldlM_cons]
      -- The part that the key decides on is read now, and no later entry touches it.
      rcases hknown with rfl | rfl | rfl | rfl
      all_goals
        simp only [List.lookup_cons, String.reduceBEq, Option.elim_some]
          at hfield hcapability hvalue hmessage
      · obtain ⟨s, rfl, hs⟩ := hfield
        exact ih hdistinct hrest (by rw [hnone]; exact hs) hcapability hvalue hmessage
      · obtain ⟨s, rfl, hs⟩ := hcapability
        exact ih hdistinct hrest hfield (by rw [hnone]; exact hs) hvalue hmessage
      · exact ih hdistinct hrest hfield hcapability (by rw [hnone]; exact hvalue) hmessage
      · have hput : p.put ("message", v) = .ok { p with message := q.message } := by
          simp only [BindingParts.put, hmessage]
          rfl
        rw [hput]
        exact ih hdistinct hrest hfield hcapability hvalue (by rw [hnone]; rfl)

theorem ofJson_of_isEntry {v : Json} {rule : RuleEntry} (hv : v.HasDistinctKeys)
    (h : IsEntry v rule) : RuleEntry.ofJson v = .ok rule := by
  cases h with
  | line text => rfl
  | @binding entries field capability message hfield hcapability hkeys hmessage =>
      have hfold : entries.foldlM BindingParts.put {} = .ok ⟨some field, some capability,
          (entries.lookup "value").bind BindingParts.presentValue, message⟩ := by
        refine foldlM_putParts hv.keys hkeys ?_ ?_ ?_ ?_
        · rw [hfield]
          exact ⟨field, rfl, rfl⟩
        · rw [hcapability]
          exact ⟨capability, rfl, rfl⟩
        · cases entries.lookup "value" <;> rfl
        · cases hm : entries.lookup "message" with
          | none =>
              rw [hm] at hmessage
              cases hmessage
              rfl
          | some w =>
              rw [hm] at hmessage
              exact decodeOptionalText_eq_ok hmessage
      rw [RuleEntry.ofJson, RuleBinding.ofJson, hfold]
      · rfl
      · intro text h
        cases h

/-! ## Sections -/

theorem decodeList_of_isSection {v : Json} {rules : List RuleEntry} (hv : v.HasDistinctKeys)
    (h : IsSection (some v) rules) : decodeList RuleEntry.ofJson v = .ok rules := by
  cases h with
  | @list items rules h =>
      refine mapM_eq_ok.mpr (((List.forall₂_and_left items rules).mpr ⟨hv.items, h⟩).imp ?_)
      rintro item rule ⟨hitem, hrule⟩
      exact ofJson_of_isEntry hitem hrule

/-! ## Modes -/

theorem strictMode_ofJson_of_isMode {v : Json} {m : StrictMode} (h : IsMode (some v) m) :
    StrictMode.ofJson v = .ok m := by
  cases h with
  | name m => rw [StrictMode.ofJson, StrictMode.ofName?_name]
  | @level n m h =>
      have hsmall : n.val < power 2 63 := by
        rw [h]
        cases m <;> decide
      rw [StrictMode.ofJson, if_pos hsmall, h, StrictMode.ofLevel?_level]

theorem strictMode_ofJson_of_offence {v : Json} {e : DecodeError} (h : ModeOffence v e) :
    StrictMode.ofJson v = .error e := by
  cases h with
  | @name s h =>
      have hnone : StrictMode.ofName? s = none :=
        List.find?_eq_none.mpr fun m _ => by simpa using h m
      rw [StrictMode.ofJson, hnone]
  | @level n hn h =>
      have hnone : StrictMode.ofLevel? n.val = none :=
        List.find?_eq_none.mpr fun m _ => by simpa using Ne.symm (h m)
      rw [StrictMode.ofJson, if_pos hn, hnone]
  | large hn => rw [StrictMode.ofJson, if_neg (Int.not_lt.mpr hn)]
  | fraction x => rfl
  | other hs hn =>
      cases v with
      | str s => exact absurd rfl (hs s)
      | num n => exact absurd rfl (hn n)
      | null | bool b | arr items | obj entries => rfl

/-! ## Documents -/

/-- Keys that are all different are read in any order. Sections that can be read
leave only the mode to fail. -/
theorem foldlM_putSections (mode : Except DecodeError StrictMode) {entries : List (String × Json)}
    (hn : (entries.map Prod.fst).Nodup) (hkeys : ∀ e ∈ entries, e.1 ∈ sections) {d q : Document}
    (hstrict : (entries.lookup "strict").elim (mode = .ok d.strict) fun v =>
      StrictMode.ofJson v = mode)
    (hconditions : (entries.lookup "conditions").elim (q.conditions = d.conditions) fun v =>
      decodeList RuleEntry.ofJson v = .ok q.conditions)
    (hvalidators : (entries.lookup "validators").elim (q.validators = d.validators) fun v =>
      decodeList RuleEntry.ofJson v = .ok q.validators) :
    entries.foldlM put d = mode.map fun m => { q with strict := m } := by
  induction entries generalizing d with
  | nil =>
      obtain ⟨strict, conditions, validators⟩ := d
      obtain ⟨strict', conditions', validators'⟩ := q
      cases hstrict
      cases hconditions
      cases hvalidators
      rfl
  | cons e entries ih =>
      obtain ⟨key, v⟩ := e
      obtain ⟨hkey, hdistinct⟩ := List.nodup_cons.mp hn
      obtain ⟨hknown, hrest⟩ := List.forall_mem_cons.mp hkeys
      have hnone : entries.lookup key = none := KeyedList.lookup_of_notMem hkey
      simp only [sections, List.mem_cons, List.not_mem_nil, or_false] at hknown
      rw [List.foldlM_cons]
      rcases hknown with rfl | rfl | rfl
      all_goals
        simp only [List.lookup_cons, String.reduceBEq, Option.elim_some]
          at hstrict hconditions hvalidators
      · cases mode with
        | error e =>
            have hput : d.put ("strict", v) = .error e := by
              simp only [put, hstrict]
              rfl
            rw [hput]
            rfl
        | ok m =>
            have hput : d.put ("strict", v) = .ok { d with strict := m } := by
              simp only [put, hstrict]
              rfl
            rw [hput]
            exact ih hdistinct hrest (by rw [hnone]; rfl) hconditions hvalidators
      · have hput : d.put ("conditions", v) = .ok { d with conditions := q.conditions } := by
          simp only [put, hconditions]
          rfl
        rw [hput]
        exact ih hdistinct hrest hstrict (by rw [hnone]; rfl) hvalidators
      · have hput : d.put ("validators", v) = .ok { d with validators := q.validators } := by
          simp only [put, hvalidators]
          rfl
        rw [hput]
        exact ih hdistinct hrest hstrict hconditions (by rw [hnone]; rfl)

/-- A map whose sections are in order decodes as far as its mode does. -/
theorem ofJson_of_sections (mode : Except DecodeError StrictMode) {entries : List (String × Json)}
    (hv : (Json.obj entries).HasDistinctKeys) (hkeys : ∀ e ∈ entries, e.1 ∈ sections)
    {conditions validators : List RuleEntry}
    (hconditions : IsSection (entries.lookup "conditions") conditions)
    (hvalidators : IsSection (entries.lookup "validators") validators)
    (hstrict : (entries.lookup "strict").elim (mode = .ok .both) fun v =>
      StrictMode.ofJson v = mode) :
    ofJson (.obj entries) = mode.map fun m => ⟨m, conditions, validators⟩ := by
  have hsection : ∀ {name : String} {rules : List RuleEntry},
      IsSection (entries.lookup name) rules → (entries.lookup name).elim (rules = []) fun v =>
        decodeList RuleEntry.ofJson v = .ok rules := by
    intro name rules h
    cases hl : entries.lookup name with
    | none =>
        rw [hl] at h
        cases h
        rfl
    | some v =>
        rw [hl] at h
        exact decodeList_of_isSection (hv.values _ (KeyedList.mem_of_lookup hl)) h
  exact foldlM_putSections mode (q := ⟨.both, conditions, validators⟩) hv.keys hkeys hstrict
    (hsection hconditions) (hsection hvalidators)

theorem ofValue_of_mapFault {entries : List (String × Json)} {f : DocumentFault}
    (h : mapFault? entries = some f) : ofValue (.obj entries) = .error f := by
  rw [ofValue, h]

theorem ofValue_of_sections (mode : Except DecodeError StrictMode) {entries : List (String × Json)}
    (hv : (Json.obj entries).HasDistinctKeys) (hkeys : ∀ e ∈ entries, e.1 ∈ sections)
    {conditions validators : List RuleEntry}
    (hconditions : IsSection (entries.lookup "conditions") conditions)
    (hvalidators : IsSection (entries.lookup "validators") validators)
    (hstrict : (entries.lookup "strict").elim (mode = .ok .both) fun v =>
      StrictMode.ofJson v = mode) :
    ofValue (.obj entries) =
      match mode with
      | .ok m => .ok ⟨m, conditions, validators⟩
      | .error e => .error (.undecodable e) := by
  have hnone : mapFault? entries = none := by
    rw [mapFault?_of_keys hkeys, sectionFault?_eq_none hconditions,
      sectionFault?_eq_none hvalidators]
    rfl
  rw [ofValue, hnone]
  dsimp only
  rw [ofJson_of_sections mode hv hkeys hconditions hvalidators hstrict]
  cases mode <;> rfl

theorem ofValue_of_denotes {v : Json} {d : Document} (hv : v.HasDistinctKeys)
    (h : Denotes v d) : ofValue v = .ok d := by
  obtain ⟨entries, rfl, hkeys, hstrict, hconditions, hvalidators⟩ := h
  refine ofValue_of_sections (.ok d.strict) hv hkeys hconditions hvalidators ?_
  cases hl : entries.lookup "strict" with
  | none =>
      rw [hl] at hstrict
      generalize d.strict = m at hstrict
      cases hstrict
      rfl
  | some w =>
      rw [hl] at hstrict
      exact strictMode_ofJson_of_isMode hstrict

theorem ofValue_of_firstOffence {v : Json} {f : DocumentFault} {path : Option String}
    (hv : v.HasDistinctKeys) (h : FirstOffence v f path) :
    ofValue v = .error f ∧ f.report.path = path := by
  cases h with
  | root h =>
      refine ⟨?_, rfl⟩
      rw [ofValue]
      exact h
  | key hbefore hkey =>
      refine ⟨ofValue_of_mapFault ?_, rfl⟩
      rw [mapFault?, find?_unknown hbefore hkey]
  | conditions hkeys hl h =>
      obtain ⟨hfault, hpath⟩ := sectionFault?_of_offence h
      refine ⟨ofValue_of_mapFault ?_, hpath⟩
      rw [mapFault?_of_keys hkeys, hl, Option.bind_some, hfault]
      rfl
  | validators hkeys hconditions hl h =>
      obtain ⟨hfault, hpath⟩ := sectionFault?_of_offence h
      refine ⟨ofValue_of_mapFault ?_, hpath⟩
      rw [mapFault?_of_keys hkeys, sectionFault?_eq_none hconditions, hl, Option.bind_some, hfault]
      rfl
  | @strict entries conditions validators w e hkeys hconditions hvalidators hl h =>
      refine ⟨ofValue_of_sections (.error e) hv hkeys hconditions hvalidators ?_, rfl⟩
      rw [hl]
      exact strictMode_ofJson_of_offence h

theorem readWith_eq_ofValue {readValue? : String → Option Json} {text : String} {v : Json}
    (hblank : text.toList.all Text.isSpace = false)
    (hmarks : hasSeveralMarkers text.toList = false) (hv : readValue? text = some v) :
    readWith readValue? text = ofValue v := by
  rw [readWith, hblank, hmarks, hv]
  rfl

end Document

/-- **Reading accepts exactly the grammar.** A text that is not blank, does not
begin several documents and holds a value for the reader is read as the document
that the value denotes. If it denotes none, the fault is its first offence, whose
path is reported. A fault that only the decoding finds is one of the mode. -/
theorem read_accepts_exactly_grammar {readValue? : String → Option Json}
    (hreader : Document.ReaderLaws readValue?) {text : String} {v : Json}
    (hblank : text.toList.all Text.isSpace = false)
    (hmarks : Document.hasSeveralMarkers text.toList = false) (hv : readValue? text = some v) :
    (∀ d, Document.readWith readValue? text = .ok d ↔ Document.Denotes v d)
      ∧ (∀ f, Document.readWith readValue? text = .error f ↔
          Document.FirstOffence v f f.report.path)
      ∧ ∀ e, Document.readWith readValue? text = .error (.undecodable e) →
          ∃ entries w, v = .obj entries ∧ entries.lookup "strict" = some w
            ∧ Document.ModeOffence w e := by
  have hdistinct := hreader.distinctKeys hv
  rw [Document.readWith_eq_ofValue hblank hmarks hv]
  have herror : ∀ f, Document.ofValue v = .error f ↔
      Document.FirstOffence v f f.report.path := by
    intro f
    constructor
    · intro hf
      rcases Document.denotes_or_firstOffence v with ⟨d, hd⟩ | ⟨f', path, hf'⟩
      · cases hf.symm.trans (Document.ofValue_of_denotes hdistinct hd)
      · obtain ⟨hfault, rfl⟩ := Document.ofValue_of_firstOffence hdistinct hf'
        cases hf.symm.trans hfault
        exact hf'
    · exact fun hf => (Document.ofValue_of_firstOffence hdistinct hf).1
  refine ⟨fun d => ⟨fun hd => ?_, Document.ofValue_of_denotes hdistinct⟩, herror, fun e he => ?_⟩
  · rcases Document.denotes_or_firstOffence v with ⟨d', hd'⟩ | ⟨f, path, hf⟩
    · cases hd.symm.trans (Document.ofValue_of_denotes hdistinct hd')
      exact hd'
    · cases hd.symm.trans (Document.ofValue_of_firstOffence hdistinct hf).1
  · have hfirst : Document.FirstOffence v (.undecodable e) none := (herror _).mp he
    cases hfirst with
    | strict _ _ _ hl h => exact ⟨_, _, rfl, hl, h⟩

/-- The mode is wrong too, but a condition before it. -/
theorem read_accepts_exactly_grammar_up_to_condition :
    let text := "strict: 7\nconditions:\n- a:required\n- field: b\n  capability: 3\n"
    text.toList.all Text.isSpace = false ∧ Document.hasSeveralMarkers text.toList = false
      ∧ ∃ v, Yaml.read? text = some v
        ∧ Document.FirstOffence v (.fieldMissing "conditions[1]" "capability")
            (some "conditions[1].capability") := by
  intro text
  have hblank : text.toList.all Text.isSpace = false := by decide +kernel
  have hmarks : Document.hasSeveralMarkers text.toList = false := by decide +kernel
  have hfault : Document.read text = .error (.fieldMissing "conditions[1]" "capability") := by
    decide +kernel
  have hsome : (Yaml.read? text).isSome = true := by decide +kernel
  obtain ⟨v, hv⟩ := Option.isSome_iff_exists.mp hsome
  exact ⟨hblank, hmarks, v, hv,
    ((read_accepts_exactly_grammar Yaml.readerLaws hblank hmarks hv).2.1 _).mp hfault⟩

end RecordRules
