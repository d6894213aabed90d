import RecordRules.Document.Read
import RecordRules.Proofs.Attempts

/-!
# The grammar of documents

A value denotes a document if it is a map of sections, each of them of the
right form (`Denotes`). A value that denotes none has a first offence
(`FirstOffence`): the root comes before its keys, the keys before the sections,
and an offence in a section is the first one of its first entry that is no
rule. Every value has a document or an offence (`denotes_or_firstOffence`).

The checks of a document pass what the grammar takes, and find the first
offence of anything else in the rules (`entryFault?_of_offence`,
`sectionFault?_of_offence`). They leave the mode to the decoding.
-/

namespace RecordRules

namespace Document

/-! ## The grammar -/

/-- What may stand for the message of a rule, and the message. -/
inductive IsMessage : Option Json → Option String → Prop
  | absent : IsMessage none none
  | null : IsMessage (some .null) none
  | text (s : String) : IsMessage (some (.str s)) (some s)

/-- The value is a rule. A value of null is none. -/
inductive IsEntry : Json → RuleEntry → Prop
  | line (text : String) : IsEntry (.str text) (.line text)
  | binding {entries : List (String × Json)} {field capability : String} {message : Option String}
      (hfield : entries.lookup "field" = some (.str field))
      (hcapability : entries.lookup "capability" = some (.str capability))
      (hkeys : ∀ e ∈ entries, e.1 ∈ BindingParts.keys)
      (hmessage : IsMessage (entries.lookup "message") message) :
      IsEntry (.obj entries) (.binding ⟨field, capability,
        (entries.lookup "value").bind BindingParts.presentValue, message⟩)

/-- What may stand for a section, and its rules. -/
inductive IsSection : Option Json → List RuleEntry → Prop
  | absent : IsSection none []
  | list {items : List Json} {rules : List RuleEntry} (h : List.Forall₂ IsEntry items rules) :
      IsSection (some (.arr items)) rules

/-- What may stand for the mode, and the mode. -/
inductive IsMode : Option Json → StrictMode → Prop
  | absent : IsMode none .both
  | name (m : StrictMode) : IsMode (some (.str m.name)) m
  | level {n : Integer} {m : StrictMode} (h : n.val = m.level) : IsMode (some (.num (.int n))) m

/-- The entries are those of the map of a document. -/
structure IsMap (entries : List (String × Json)) (d : Document) : Prop where
  keys : ∀ e ∈ entries, e.1 ∈ sections
  strict : IsMode (entries.lookup "strict") d.strict
  conditions : IsSection (entries.lookup "conditions") d.conditions
  validators : IsSection (entries.lookup "validators") d.validators

/-- The value is a document. -/
def Denotes (v : Json) (d : Document) : Prop := ∃ entries, v = .obj entries ∧ IsMap entries d

/-! ## Offences -/

/-- What is wrong first with a value that is no rule, and where. -/
inductive EntryOffence (place : String) : Json → DocumentFault → String → Prop
  | notRule {v : Json} (hs : ∀ s, v ≠ .str s) (ho : ∀ entries, v ≠ .obj entries) :
      EntryOffence place v (.entryNotRule place) place
  | field {entries : List (String × Json)} (h : ∀ s, entries.lookup "field" ≠ some (.str s)) :
      EntryOffence place (.obj entries) (.fieldMissing place "field") (place ++ "." ++ "field")
  | capability {entries : List (String × Json)} {field : String}
      (hfield : entries.lookup "field" = some (.str field))
      (h : ∀ s, entries.lookup "capability" ≠ some (.str s)) :
      EntryOffence place (.obj entries) (.fieldMissing place "capability")
        (place ++ "." ++ "capability")
  | key {before after : List (String × Json)} {key : String} {v : Json} {field capability : String}
      (hfield : (before ++ (key, v) :: after).lookup "field" = some (.str field))
      (hcapability : (before ++ (key, v) :: after).lookup "capability" = some (.str capability))
      (hbefore : ∀ e ∈ before, e.1 ∈ BindingParts.keys) (hkey : key ∉ BindingParts.keys) :
      EntryOffence place (.obj (before ++ (key, v) :: after)) (.fieldUnknown place key)
        (place ++ "." ++ key)
  | message {entries : List (String × Json)} {field capability : String}
      (hfield : entries.lookup "field" = some (.str field))
      (hcapability : entries.lookup "capability" = some (.str capability))
      (hkeys : ∀ e ∈ entries, e.1 ∈ BindingParts.keys)
      (h : ∀ m, ¬IsMessage (entries.lookup "message") m) :
      EntryOffence place (.obj entries) (.messageNotText place) (place ++ ".message")

/-- What is wrong first with a value that is no section, and where. -/
inductive SectionOffence (name : String) : Json → DocumentFault → String → Prop
  | notList {v : Json} (h : ∀ items, v ≠ .arr items) :
      SectionOffence name v (.sectionNotList name) name
  | entry {before after : List Json} {item : Json} {f : DocumentFault} {path : String}
      (hbefore : ∀ v ∈ before, ∃ rule, IsEntry v rule)
      (h : EntryOffence (entryPath name before.length) item f path) :
      SectionOffence name (.arr (before ++ item :: after)) f path

/-- What is wrong with a value that is no mode. -/
inductive ModeOffence : Json → DecodeError → Prop
  | name {s : String} (h : ∀ m : StrictMode, m.name ≠ s) :
      ModeOffence (.str s) (.unknownVariant s (StrictMode.all.map StrictMode.name))
  | level {n : Integer} (hn : n.val < power 2 63) (h : ∀ m : StrictMode, n.val ≠ m.level) :
      ModeOffence (.num (.int n)) (.levelOutOfRange n.val)
  | large {n : Integer} (hn : power 2 63 ≤ n.val) :
      ModeOffence (.num (.int n)) (.levelNotInteger (.int n))
  | fraction (x : Binary64) : ModeOffence (.num (.float x)) (.levelNotInteger (.float x))
  | other {v : Json} (hs : ∀ s, v ≠ .str s) (hn : ∀ n, v ≠ .num n) : ModeOffence v .notAMode

/-- The first offence of a value that is no document, and its path. -/
inductive FirstOffence : Json → DocumentFault → Option String → Prop
  | root {v : Json} (h : ∀ entries, v ≠ .obj entries) : FirstOffence v .rootNotMap none
  | key {before after : List (String × Json)} {key : String} {v : Json}
      (hbefore : ∀ e ∈ before, e.1 ∈ sections) (hkey : key ∉ sections) :
      FirstOffence (.obj (before ++ (key, v) :: after)) (.unknownSection key) (some key)
  | conditions {entries : List (String × Json)} {v : Json} {f : DocumentFault} {path : String}
      (hkeys : ∀ e ∈ entries, e.1 ∈ sections) (hv : entries.lookup "conditions" = some v)
      (h : SectionOffence "conditions" v f path) : FirstOffence (.obj entries) f (some path)
  | validators {entries : List (String × Json)} {conditions : List RuleEntry} {v : Json}
      {f : DocumentFault} {path : String} (hkeys : ∀ e ∈ entries, e.1 ∈ sections)
      (hconditions : IsSection (entries.lookup "conditions") conditions)
      (hv : entries.lookup "validators" = some v) (h : SectionOffence "validators" v f path) :
      FirstOffence (.obj entries) f (some path)
  | strict {entries : List (String × Json)} {conditions validators : List RuleEntry} {v : Json}
      {e : DecodeError} (hkeys : ∀ e ∈ entries, e.1 ∈ sections)
      (hconditions : IsSection (entries.lookup "conditions") conditions)
      (hvalidators : IsSection (entries.lookup "validators") validators)
      (hv : entries.lookup "strict" = some v) (h : ModeOffence v e) :
      FirstOffence (.obj entries) (.undecodable e) none

/-! ## Keys -/

section Keys

variable {known : List String} {entries : List (String × Json)}

theorem known_or_firstUnknown (known : List String) (entries : List (String × Json)) :
    (∀ e ∈ entries, e.1 ∈ known)
      ∨ ∃ before key v after, entries = before ++ (key, v) :: after
        ∧ (∀ e ∈ before, e.1 ∈ known) ∧ key ∉ known := by
  cases hf : entries.find? fun e => !known.contains e.1 with
  | none =>
      left
      intro e he
      simpa using List.find?_eq_none.mp hf e he
  | some e =>
      obtain ⟨hkey, before, after, rfl, hbefore⟩ := List.find?_eq_some_iff_append.mp hf
      refine .inr ⟨before, e.1, e.2, after, rfl, fun d hd => ?_, by simpa using hkey⟩
      simpa using hbefore d hd

theorem find?_unknown_eq_none (h : ∀ e ∈ entries, e.1 ∈ known) :
    (entries.find? fun e => !known.contains e.1) = none := by
  refine List.find?_eq_none.mpr fun e he => ?_
  simpa using h e he

theorem find?_unknown {before after : List (String × Json)} {key : String} {v : Json}
    (hbefore : ∀ e ∈ before, e.1 ∈ known) (hkey : key ∉ known) :
    ((before ++ (key, v) :: after).find? fun e => !known.contains e.1) = some (key, v) := by
  rw [List.find?_append, find?_unknown_eq_none hbefore,
    List.find?_cons_of_pos (by simpa using hkey)]
  rfl

end Keys

/-! ## Rules -/

section Texts

variable {entries : List (String × Json)} {key : String}

theorem isTextAt_of_lookup {s : String} (h : entries.lookup key = some (.str s)) :
    isTextAt entries key = true := by
  rw [isTextAt, h]

theorem isTextAt_eq_false (h : ∀ s, entries.lookup key ≠ some (.str s)) :
    isTextAt entries key = false := by
  rw [isTextAt]
  split
  next s hs => exact absurd hs (h s)
  next => rfl

theorem isText_or_not (entries : List (String × Json)) (key : String) :
    (∃ s, entries.lookup key = some (.str s)) ∨ ∀ s, entries.lookup key ≠ some (.str s) := by
  rw [← not_exists]
  exact Classical.em _

theorem isOddMessage_of_isMessage {m : Option String}
    (h : IsMessage (entries.lookup "message") m) : isOddMessage entries = false := by
  rw [isOddMessage]
  cases hv : entries.lookup "message" with
  | none => rfl
  | some v =>
      rw [hv] at h
      cases h <;> rfl

theorem isOddMessage_of_not (h : ∀ m, ¬IsMessage (entries.lookup "message") m) :
    isOddMessage entries = true := by
  rw [isOddMessage]
  split
  next hv => exact absurd (hv ▸ .absent) (h none)
  next hv => exact absurd (hv ▸ .null) (h none)
  next s hv => exact absurd (hv ▸ .text s) (h (some s))
  next => rfl

/-- A map with a field and a capability lacks no text. -/
theorem find?_missing_eq_none {field capability : String}
    (hfield : entries.lookup "field" = some (.str field))
    (hcapability : entries.lookup "capability" = some (.str capability)) :
    (["field", "capability"].find? fun key => !isTextAt entries key) = none := by
  simp [isTextAt_of_lookup hfield, isTextAt_of_lookup hcapability]

end Texts

theorem entryFault?_of_isEntry {v : Json} {rule : RuleEntry} (h : IsEntry v rule)
    (place : String) : entryFault? place v = none := by
  cases h with
  | line text => rfl
  | binding hfield hcapability hkeys hmessage =>
      rw [entryFault?, bindingFault?, find?_missing_eq_none hfield hcapability,
        find?_unknown_eq_none hkeys]
      simp only [isOddMessage_of_isMessage hmessage, Bool.false_eq_true, if_false]

theorem entryFault?_of_offence {place path : String} {v : Json} {f : DocumentFault}
    (h : EntryOffence place v f path) :
    entryFault? place v = some f ∧ f.report.path = some path := by
  cases h with
  | notRule hs ho =>
      refine ⟨?_, rfl⟩
      rw [entryFault?]
      · exact hs
      · exact ho
  | field h =>
      refine ⟨?_, rfl⟩
      rw [entryFault?, bindingFault?, List.find?_cons_of_pos (by simp [isTextAt_eq_false h])]
  | capability hfield h =>
      refine ⟨?_, rfl⟩
      rw [entryFault?, bindingFault?,
        List.find?_cons_of_neg (by simp [isTextAt_of_lookup hfield]),
        List.find?_cons_of_pos (by simp [isTextAt_eq_false h])]
  | key hfield hcapability hbefore hkey =>
      refine ⟨?_, rfl⟩
      simp only [entryFault?, bindingFault?, find?_missing_eq_none hfield hcapability,
        find?_unknown hbefore hkey]
  | message hfield hcapability hkeys h =>
      refine ⟨?_, rfl⟩
      rw [entryFault?, bindingFault?, find?_missing_eq_none hfield hcapability,
        find?_unknown_eq_none hkeys]
      simp only [isOddMessage_of_not h, if_true]

theorem isEntry_or_offence (v : Json) :
    (∃ rule, IsEntry v rule) ∨ ∀ place, ∃ f path, EntryOffence place v f path := by
  cases v with
  | str text => exact .inl ⟨_, .line text⟩
  | null | bool b | num n | arr items =>
      refine .inr fun place => ⟨_, _, .notRule ?_ ?_⟩ <;> intro _ h <;> cases h
  | obj entries =>
      rcases isText_or_not entries "field" with ⟨field, hfield⟩ | h
      · rcases isText_or_not entries "capability" with ⟨capability, hcapability⟩ | h
        · rcases known_or_firstUnknown BindingParts.keys entries with
            hkeys | ⟨before, key, v, after, rfl, hbefore, hkey⟩
          · by_cases hm : ∃ m, IsMessage (entries.lookup "message") m
            · obtain ⟨m, hm⟩ := hm
              exact .inl ⟨_, .binding hfield hcapability hkeys hm⟩
            · exact .inr fun place =>
                ⟨_, _, .message hfield hcapability hkeys (not_exists.mp hm)⟩
          · exact .inr fun place => ⟨_, _, .key hfield hcapability hbefore hkey⟩
        · exact .inr fun place => ⟨_, _, .capability hfield h⟩
      · exact .inr fun place => ⟨_, _, .field h⟩

/-! ## Sections -/

theorem findSome?_entryFault? {name : String} {items : List Json} (start : Nat)
    (h : ∀ v ∈ items, ∃ rule, IsEntry v rule) :
    ((items.zipIdx start).findSome? fun (item, i) => entryFault? (entryPath name i) item) =
      none := by
  refine List.findSome?_eq_none_iff.mpr fun ⟨item, i⟩ hitem => ?_
  obtain ⟨rule, hrule⟩ := h item (List.fst_mem_of_mem_zipIdx hitem)
  exact entryFault?_of_isEntry hrule _

theorem sectionFault?_of_isSection {name : String} {v : Json} {rules : List RuleEntry}
    (h : IsSection (some v) rules) : sectionFault? name v = none := by
  cases h with
  | list h =>
      refine findSome?_entryFault? 0 fun v hv => ?_
      obtain ⟨rule, -, hrule⟩ := exists_of_forall₂ h.flip hv
      exact ⟨rule, hrule⟩

theorem sectionFault?_of_offence {name path : String} {v : Json} {f : DocumentFault}
    (h : SectionOffence name v f path) :
    sectionFault? name v = some f ∧ f.report.path = some path := by
  cases h with
  | notList h =>
      refine ⟨?_, rfl⟩
      rw [sectionFault?]
      exact h
  | entry hbefore h =>
      obtain ⟨hfault, hpath⟩ := entryFault?_of_offence h
      refine ⟨?_, hpath⟩
      rw [sectionFault?, List.zipIdx_append, List.findSome?_append, findSome?_entryFault? 0 hbefore,
        List.zipIdx_cons, List.findSome?_cons, Nat.zero_add]
      dsimp only
      rw [hfault]
      rfl

theorem isSection_or_offence (v : Json) :
    (∃ rules, IsSection (some v) rules) ∨ ∀ name, ∃ f path, SectionOffence name v f path := by
  have hitems : ∀ items : List Json, (∃ rules, List.Forall₂ IsEntry items rules)
      ∨ ∃ before item after, items = before ++ item :: after
        ∧ (∀ v ∈ before, ∃ rule, IsEntry v rule)
        ∧ ∀ place, ∃ f path, EntryOffence place item f path := by
    intro items
    induction items with
    | nil => exact .inl ⟨[], .nil⟩
    | cons item items ih =>
        rcases isEntry_or_offence item with ⟨rule, hrule⟩ | hoffence
        · rcases ih with ⟨rules, hrules⟩ | ⟨before, other, after, rfl, hbefore, hoffence⟩
          · exact .inl ⟨rule :: rules, .cons hrule hrules⟩
          · exact .inr ⟨item :: before, other, after, rfl,
              List.forall_mem_cons.mpr ⟨⟨rule, hrule⟩, hbefore⟩, hoffence⟩
        · exact .inr ⟨[], item, items, rfl, nofun, hoffence⟩
  cases v with
  | arr items =>
      rcases hitems items with ⟨rules, hrules⟩ | ⟨before, item, after, rfl, hbefore, hoffence⟩
      · exact .inl ⟨rules, .list hrules⟩
      · right
        intro name
        obtain ⟨f, path, h⟩ := hoffence (entryPath name before.length)
        exact ⟨f, path, .entry hbefore h⟩
  | null | bool b | num n | str s | obj entries =>
      refine .inr fun name => ⟨_, _, .notList ?_⟩
      intro _ h
      cases h

/-! ## Modes -/

theorem isMode_or_offence (v : Json) : (∃ m, IsMode (some v) m) ∨ ∃ e, ModeOffence v e := by
  cases v with
  | str s =>
      by_cases h : ∃ m : StrictMode, m.name = s
      · obtain ⟨m, rfl⟩ := h
        exact .inl ⟨m, .name m⟩
      · exact .inr ⟨_, .name (not_exists.mp h)⟩
  | num n =>
      cases n with
      | int n =>
          rcases Int.lt_or_le n.val (power 2 63) with hn | hn
          · by_cases h : ∃ m : StrictMode, n.val = m.level
            · obtain ⟨m, hm⟩ := h
              exact .inl ⟨m, .level hm⟩
            · exact .inr ⟨_, .level hn (not_exists.mp h)⟩
          · exact .inr ⟨_, .large hn⟩
      | float x => exact .inr ⟨_, .fraction x⟩
  | null | bool b | arr items | obj entries =>
      refine .inr ⟨_, .other ?_ ?_⟩ <;> intro _ h <;> cases h

/-! ## Documents -/

theorem sectionFault?_eq_none {entries : List (String × Json)} {name : String}
    {rules : List RuleEntry} (h : IsSection (entries.lookup name) rules) :
    (entries.lookup name).bind (sectionFault? name) = none := by
  cases hl : entries.lookup name with
  | none => rfl
  | some v =>
      rw [hl] at h
      exact sectionFault?_of_isSection h

/-- A map without unknown keys may have an offence in one of its sections. -/
theorem mapFault?_of_keys {entries : List (String × Json)} (hkeys : ∀ e ∈ entries, e.1 ∈ sections) :
    mapFault? entries = ((entries.lookup "conditions").bind (sectionFault? "conditions")).or
      ((entries.lookup "validators").bind (sectionFault? "validators")) := by
  rw [mapFault?, find?_unknown_eq_none hkeys, List.findSome?_cons, List.findSome?_cons,
    List.findSome?_nil]
  cases (entries.lookup "conditions").bind (sectionFault? "conditions") with
  | some f => rfl
  | none => cases (entries.lookup "validators").bind (sectionFault? "validators") <;> rfl

/-- Every value is a document or has an offence. -/
theorem denotes_or_firstOffence (v : Json) :
    (∃ d, Denotes v d) ∨ ∃ f path, FirstOffence v f path := by
  have hlookup : ∀ (entries : List (String × Json)) (name : String),
      (∃ rules, IsSection (entries.lookup name) rules)
        ∨ ∃ v, entries.lookup name = some v ∧ ∀ name, ∃ f path, SectionOffence name v f path := by
    intro entries name
    cases entries.lookup name with
    | none => exact .inl ⟨[], .absent⟩
    | some v => exact (isSection_or_offence v).imp id fun h => ⟨v, rfl, h⟩
  cases v with
  | null | bool b | num n | str s | arr items =>
      refine .inr ⟨_, _, .root ?_⟩
      intro _ h
      cases h
  | obj entries =>
      rcases known_or_firstUnknown sections entries with
        hkeys | ⟨before, key, v, after, rfl, hbefore, hkey⟩
      · rcases hlookup entries "conditions" with ⟨conditions, hconditions⟩ | ⟨v, hl, h⟩
        · rcases hlookup entries "validators" with ⟨validators, hvalidators⟩ | ⟨v, hl, h⟩
          · cases hl : entries.lookup "strict" with
            | none =>
                exact .inl ⟨⟨.both, conditions, validators⟩, entries, rfl, hkeys,
                  hl ▸ .absent, hconditions, hvalidators⟩
            | some v =>
                rcases isMode_or_offence v with ⟨m, hm⟩ | ⟨e, he⟩
                · exact .inl ⟨⟨m, conditions, validators⟩, entries, rfl, hkeys,
                    hl ▸ hm, hconditions, hvalidators⟩
                · exact .inr ⟨_, _, .strict hkeys hconditions hvalidators hl he⟩
          · obtain ⟨f, path, h⟩ := h "validators"
            exact .inr ⟨f, some path, .validators hkeys hconditions hl h⟩
        · obtain ⟨f, path, h⟩ := h "conditions"
          exact .inr ⟨f, some path, .conditions hkeys hl h⟩
      · exact .inr ⟨_, _, .key hbefore hkey⟩

end Document

end RecordRules
