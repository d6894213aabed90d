import RecordRules.Proofs.Document.Reading
import RecordRules.Proofs.Document.RoundTrip
import RecordRules.Proofs.Yaml.Lines

/-!
# Saved sets as texts

A set that was built is saved as a document, which is written as a text. What
the text is read as hangs on more than its value: texts that are blank or begin
several documents are refused, and a null is taken for a value that is left out.
A writer of values keeps clear of the first (`Document.WriterLaws`). The one of
YAML does: a line of a map has the colon behind its key in it, or is indented, so
it is no mark (`Yaml.isMarkerLine_of_mem_lines`). A rule that was read never holds
null as its value, and is not saved with one (`Rule.Gives.savedValue_ne_null`), so
the value of a saved document denotes that very document (`denotes_toJson`).

So if the reader gets back the value that was written, the document is read
back unchanged (`saved_text_reads_back`).
-/

namespace RecordRules

/-! ## Written maps -/

/-- What documents rely on in a writer of values. -/
structure Document.WriterLaws (writeValue : Json → String) : Prop where
  /-- The text of a map is not blank. -/
  not_blank : ∀ entries, (writeValue (.obj entries)).toList.all Text.isSpace = false
  /-- The text of a map does not begin several documents. -/
  one_document : ∀ entries,
    Document.hasSeveralMarkers (writeValue (.obj entries)).toList = false

namespace Document

theorem isMarkerLine_of_colon_mem {cs : List Char} (h : ':' ∈ cs) : isMarkerLine cs = false := by
  rw [isMarkerLine.eq_def]
  split
  next rest =>
    have hrest : ':' ∈ rest := by simpa using h
    exact List.all_eq_false.mpr ⟨':', hrest, by decide⟩
  next => rfl

theorem isMarkerLine_of_space {cs : List Char} (h : cs.head? = some ' ') :
    isMarkerLine cs = false := by
  obtain ⟨rest, rfl⟩ := List.head?_eq_some_iff.mp h
  rfl

end Document

namespace Yaml

variable (entries : List (String × Json))

theorem isMarkerLine_of_mem_lines {line : String} (h : line ∈ lines (.obj entries)) :
    Document.isMarkerLine line.toList = false := by
  cases entries with
  | nil =>
      rw [lines] at h
      rw [List.mem_singleton.mp h]
      decide
  | cons e entries =>
      rw [lines] at h
      rcases start_of_mem_entryLines h with hcolon | hspace
      · exact Document.isMarkerLine_of_colon_mem hcolon
      · exact Document.isMarkerLine_of_space hspace

theorem hasSeveralMarkers_write :
    Document.hasSeveralMarkers (write (.obj entries)).toList = false := by
  have hnone : ((lines (.obj entries)).map String.toList ++ [[]]).countP
      Document.isMarkerLine = 0 := by
    rw [List.countP_eq_zero]
    have hempty : ¬Document.isMarkerLine [] = true := Bool.false_ne_true
    refine List.forall_mem_append.mpr
      ⟨fun cs hcs => ?_, List.forall_mem_singleton.mpr hempty⟩
    obtain ⟨line, hline, rfl⟩ := List.mem_map.mp hcs
    rw [isMarkerLine_of_mem_lines entries hline]
    exact Bool.false_ne_true
  rw [Document.hasSeveralMarkers, splitOn_write, hnone]
  rfl

theorem write_not_blank : (write (.obj entries)).toList.all Text.isSpace = false := by
  cases entries with
  | nil => decide
  | cons e entries =>
      obtain ⟨line, hline, hcolon⟩ := exists_colon_mem_entryLines e.1 e.2 entries
      have hmem : ':' ∈ (write (.obj (e :: entries))).toList := by
        rw [toList_write, lines]
        exact List.mem_flatMap.mpr ⟨line, hline, List.mem_append_left _ hcolon⟩
      exact List.all_eq_false.mpr ⟨':', hmem, by decide⟩

theorem writerLaws : Document.WriterLaws write := ⟨write_not_blank, hasSeveralMarkers_write⟩

end Yaml

/-! ## Values of documents -/

/-- The entry does not have null as its value. -/
def RuleEntry.HasNoNull : RuleEntry → Prop
  | .line _ => True
  | .binding b => b.value ≠ some .null

namespace Document

variable {d : Document} {e : String × Json}

theorem mem_sections_of_mem_sectionEntry {name : String} {entries : List RuleEntry}
    (hname : name ∈ sections) (h : e ∈ sectionEntry name entries) : e.1 ∈ sections := by
  rw [sectionEntry] at h
  split at h
  next => cases h
  next =>
    rw [List.mem_singleton.mp h]
    exact hname

/-- The entries of a document's map behind its mode. -/
def sectionEntries (d : Document) : List (String × Json) :=
  sectionEntry "conditions" d.conditions ++ sectionEntry "validators" d.validators

theorem toJson_eq (d : Document) :
    d.toJson = .obj (("strict", .str d.strict.name) :: d.sectionEntries) := rfl

theorem mem_sections_of_mem_entries
    (h : e ∈ ("strict", Json.str d.strict.name) :: d.sectionEntries) : e.1 ∈ sections := by
  rcases List.mem_cons.mp h with rfl | h
  · exact (by decide : "strict" ∈ sections)
  · rcases List.mem_append.mp h with h | h
    · exact mem_sections_of_mem_sectionEntry (by decide) h
    · exact mem_sections_of_mem_sectionEntry (by decide) h

theorem presentValue_eq {v : Json} (h : v ≠ .null) : BindingParts.presentValue v = some v := by
  cases v with
  | null => exact absurd rfl h
  | bool _ | num _ | str _ | arr _ | obj _ => rfl

/-- The written form of an entry is taken for that entry. -/
theorem isEntry_toJson {entry : RuleEntry} (h : entry.HasNoNull) : IsEntry entry.toJson entry := by
  cases entry with
  | line text => exact .line text
  | binding b =>
      obtain ⟨field, capability, value, message⟩ := b
      have hvalue : value.bind BindingParts.presentValue = value := by
        cases value with
        | none => rfl
        | some v => exact presentValue_eq fun hv => h (congrArg some hv)
      have hmessage : IsMessage (message.map Json.str) message := by
        cases message with
        | none => exact .absent
        | some m => exact .text m
      have hentry : ∀ entries : List (String × Json),
          entries.lookup "field" = some (.str field) →
          entries.lookup "capability" = some (.str capability) →
          entries.lookup "value" = value → entries.lookup "message" = message.map Json.str →
          (∀ e ∈ entries, e.1 ∈ BindingParts.keys) →
          IsEntry (.obj entries) (.binding ⟨field, capability, value, message⟩) := by
        intro entries hf hc hv hm hkeys
        have hbinding := IsEntry.binding hf hc hkeys (hm ▸ hmessage)
        rwa [hv, hvalue] at hbinding
      refine hentry _ ?_ ?_ ?_ ?_ ?_
      · rfl
      · rfl
      · cases value <;> cases message <;> rfl
      · cases value <;> cases message <;> rfl
      · cases value <;> cases message <;> simp [BindingParts.keys]

theorem isSection_map_toJson {rules : List RuleEntry} (h : ∀ rule ∈ rules, rule.HasNoNull) :
    IsSection (some (.arr (rules.map RuleEntry.toJson))) rules := by
  refine .list ?_
  induction rules with
  | nil => exact .nil
  | cons rule rules ih =>
      obtain ⟨hrule, hrules⟩ := List.forall_mem_cons.mp h
      exact .cons (isEntry_toJson hrule) (ih hrules)

/-- A section is found under its own name, unless it is empty. -/
theorem isSection_sectionEntry {name : String} {rules : List RuleEntry}
    (h : ∀ rule ∈ rules, rule.HasNoNull) (before after : List (String × Json))
    (hbefore : before.lookup name = none) (hafter : after.lookup name = none) :
    IsSection ((before ++ sectionEntry name rules ++ after).lookup name) rules := by
  cases rules with
  | nil =>
      rw [List.lookup_append, List.lookup_append, hbefore, hafter]
      exact .absent
  | cons rule rules =>
      have hentry : (sectionEntry name (rule :: rules)).lookup name =
          some (.arr ((rule :: rules).map RuleEntry.toJson)) := List.lookup_cons_self
      rw [List.lookup_append, List.lookup_append, hbefore, hentry]
      exact isSection_map_toJson h

theorem lookup_sectionEntry_of_ne {name key : String} (h : key ≠ name) (rules : List RuleEntry) :
    (sectionEntry name rules).lookup key = none := by
  rw [sectionEntry]
  split
  next => rfl
  next => rw [List.lookup_cons, beq_false_of_ne h, List.lookup_nil]

/-- A document without null as a value is what its own value denotes. -/
theorem denotes_toJson (hconditions : ∀ rule ∈ d.conditions, rule.HasNoNull)
    (hvalidators : ∀ rule ∈ d.validators, rule.HasNoNull) : Denotes d.toJson d := by
  refine ⟨_, d.toJson_eq, fun e he => mem_sections_of_mem_entries he, .name d.strict, ?_, ?_⟩
  · exact isSection_sectionEntry hconditions [("strict", .str d.strict.name)]
      (sectionEntry "validators" d.validators) rfl (lookup_sectionEntry_of_ne (by decide) _)
  · have hbefore : (("strict", Json.str d.strict.name)
        :: sectionEntry "conditions" d.conditions).lookup "validators" = none :=
      lookup_sectionEntry_of_ne (by decide) d.conditions
    have hsection := isSection_sectionEntry hvalidators _ [] hbefore rfl
    rwa [List.append_nil] at hsection

/-- A document without null as a value is read from its text, if its value is. -/
theorem readWith_writeWith {readValue? : String → Option Json} (hreader : ReaderLaws readValue?)
    {writeValue : Json → String} (hwriter : WriterLaws writeValue)
    (hconditions : ∀ rule ∈ d.conditions, rule.HasNoNull)
    (hvalidators : ∀ rule ∈ d.validators, rule.HasNoNull)
    (hvalue : readValue? (writeValue d.toJson) = some d.toJson) :
    readWith readValue? (writeWith writeValue d) = .ok d :=
  (readWith_eq_ofValue (hwriter.not_blank _) (hwriter.one_document _) hvalue).trans
    (ofValue_of_denotes (hreader.distinctKeys hvalue) (denotes_toJson hconditions hvalidators))

end Document

/-! ## Saved sets -/

/-- A rule that gives a value is not saved with null. -/
theorem Rule.Gives.savedValue_ne_null {r : Rule} {k : Kind} {v : Json} (h : r.Gives k v) :
    r.savedValue ≠ some .null := by
  rw [Rule.savedValue, h.value]
  cases k.shape with
  | scalar =>
      intro hnull
      cases v <;> cases hnull
  | fieldKeyed =>
      obtain ⟨f, w, hf⟩ := Operand.exists_keyedFor r.field (Operand.ofJson v)
      rw [Operand.shaped, hf]
      intro hnull
      dsimp only at hnull
      split at hnull
      next => cases w <;> cases hnull
      next => cases hnull
  | fieldName =>
      obtain ⟨f, hf⟩ := Operand.exists_namedFor r.field (Operand.ofJson v)
      rw [Operand.shaped, hf]
      intro hnull
      cases hnull

theorem Rule.Gives.hasNoNull_ofRule {r : Rule} {k : Kind} {v : Json} (h : r.Gives k v) :
    (RuleEntry.ofRule r).HasNoNull := by
  rw [RuleEntry.ofRule]
  split
  next => trivial
  next => exact h.savedValue_ne_null

/-- **What a built set is saved as can be read back unchanged.** The text that
the saved document is written as is read as that document, whatever document
the set was built from, if reading the text gives the value that was written. -/
theorem saved_text_reads_back {readValue? : String → Option Json}
    (hreader : Document.ReaderLaws readValue?) {writeValue : Json → String}
    (hwriter : Document.WriterLaws writeValue) {d : Document} {s : ValidatorSet}
    (h : d.build .builtin = .ok s)
    (hvalue : readValue? (writeValue s.toDocument.toJson) = some s.toDocument.toJson) :
    Document.readWith readValue? (Document.writeWith writeValue s.toDocument) =
      .ok s.toDocument := by
  have hs : Savable (Change.FromRule fun _ => True) s := .fromRule h fun _ _ _ _ => trivial
  refine Document.readWith_writeWith hreader hwriter (fun entry hentry => ?_)
    (fun entry hentry => ?_) hvalue
  · obtain ⟨c, hc, rfl⟩ := List.mem_map.mp hentry
    obtain ⟨-, -, k, v, -, hv⟩ := hs.conditions c hc
    exact hv.hasNoNull_ofRule
  · obtain ⟨f, hf, hentry⟩ := List.mem_flatMap.mp hentry
    obtain ⟨b, hb, rfl⟩ := List.mem_map.mp hentry
    obtain ⟨-, k, v, -, hv⟩ := hs.bindings f hf b hb
    exact hv.hasNoNull_ofRule

/-- A line with padding, and a map with a value that looks like a mark. -/
def markedDocument : Document where
  strict := .none
  conditions := [.line "a : required"]
  validators := [.binding ⟨"b", "Equal", some (.str "---"), some ""⟩]

/-- What it is saved as. -/
def trimmedDocument : Document where
  strict := .none
  conditions := [.line "a:required"]
  validators := [.binding ⟨"b", "equal", some (.str "---"), some ""⟩]

theorem saved_text_reads_back_with_mark :
    ∃ s, markedDocument.build .builtin = .ok s ∧ s.toDocument = trimmedDocument
      ∧ Yaml.read? (Yaml.write s.toDocument.toJson) = some s.toDocument.toJson
      ∧ Document.read (Document.write s.toDocument) = .ok s.toDocument := by
  have hsaved : (markedDocument.build .builtin >>= fun s => pure s.toDocument).toOption =
      some trimmedDocument := by decide +kernel
  have hyaml : Yaml.read? (Yaml.write trimmedDocument.toJson) = some trimmedDocument.toJson := by
    decide +kernel
  obtain ⟨s, hs, hd⟩ := bind_eq_ok.mp (toOption_eq_some.mp hsaved)
  have hdocument : s.toDocument = trimmedDocument := Except.ok.inj hd
  rw [← hdocument] at hyaml
  exact ⟨s, hs, hdocument, hyaml,
    saved_text_reads_back Yaml.readerLaws Yaml.writerLaws hs hyaml⟩

end RecordRules
