import Mathlib.Data.List.Induction
import Mathlib.Data.List.Nodup
import RecordRules.Proofs.Capability.Name
import RecordRules.Registry

/-!
# Capabilities under their names

Whatever a registry finds under some name it finds again under the name of
what it found (`Registry.resolve_name`).

Every built-in capability is found under its registered name, and under that
name in the spelling of rules (`Registry.builtin_resolve`). Nothing else is
found in the built-in registry (`Registry.builtin_resolve_eq_ok`).

What registrations make of a registry comes down to what one of them does: it
changes what one name stands for (`Registry.get?_insert`), and the names by
the new one at most (`Registry.names_insert`). So a name stands for what was
registered last under any of its spellings, and it stands where it was first
registered (`registered_last_in_order_of_first`). A registry looks a name up by
its registered spelling only, so it cannot tell the spellings of a name apart
(`Registry.get?_congr`): what is registered under any of them is found under all
(`every_spelling_finds_registered`).
-/

namespace RecordRules

namespace Registry

variable {r : Registry} {name : String} {e : Entry}

/-- The entry that is found has the registered spelling of the name. -/
theorem name_of_get? (h : r.get? name = some e) : e.name = titleCase name := by
  rw [get?_eq_find?] at h
  exact KeyedList.key_of_find? h

/-- Spellings of one name find the same entry. -/
theorem get?_congr (r : Registry) {m n : String} (h : titleCase m = titleCase n) :
    r.get? m = r.get? n := by
  rw [get?, get?, h]

theorem get?_name (h : r.get? name = some e) : r.get? e.name = some e := by
  rw [name_of_get? h, r.get?_congr (titleCase_titleCase name)]
  exact h

theorem resolve_eq_ok : r.resolve name = .ok e ↔ r.get? name = some e := by
  rw [resolve]
  cases r.get? name <;> simp

/-- What is found under a name is found again under its own name. -/
theorem resolve_name (h : r.resolve name = .ok e) : r.resolve e.name = .ok e :=
  resolve_eq_ok.mpr (get?_name (resolve_eq_ok.mp h))

end Registry

/-! ## Built-in capabilities -/

namespace Kind

/-- The spelling of rules is undone. -/
theorem titleCase_snakeCase_name (k : Kind) : titleCase (snakeCase k.name) = k.name := by
  rw [titleCase_snakeCase_eq_self_iff]
  exact k.titleCase_name

end Kind

namespace Registry

theorem builtin_get? (k : Kind) : builtin.get? k.name = some (.ofKind k) := by
  rw [get?_eq_find?, k.titleCase_name]
  exact KeyedList.find?_of_mem builtin.nodup_names (List.mem_map_of_mem k.mem_catalogue)

theorem builtin_resolve (k : Kind) : builtin.resolve k.name = .ok (.ofKind k) := by
  rw [resolve, builtin_get?]

/-- Every spelling of a built-in name finds the capability. -/
theorem builtin_resolve_of_titleCase {k : Kind} (h : titleCase name = k.name) :
    builtin.resolve name = .ok (.ofKind k) := by
  rw [resolve_eq_ok, builtin.get?_congr (h.trans k.titleCase_name.symm), builtin_get?]

theorem builtin_resolve_eq_ok {name : String} {e : Entry} (h : builtin.resolve name = .ok e) :
    ∃ k, e = .ofKind k := by
  have hfound := resolve_eq_ok.mp h
  rw [get?_eq_find?] at hfound
  obtain ⟨k, -, hk⟩ := List.mem_map.mp (List.mem_of_find?_eq_some hfound)
  exact ⟨k, hk.symm⟩

end Registry

/-! ## Registrations -/

/-- What a capability with a constructor of its own is registered with. -/
structure Registration where
  name : String
  shape : OperandShape
  build : Operand → Option String → Except ConfigError Instance

/-- The entry that is stored by a registration. -/
def Registration.entry (c : Registration) : Entry :=
  ⟨titleCase c.name, c.shape, .custom c.build, titleCase_titleCase c.name⟩

theorem Registration.name_entry (c : Registration) : c.entry.name = titleCase c.name := rfl

namespace Registry

/-- The registry after registrations, one after the other. -/
def registerAll (r : Registry) (calls : List Registration) : Registry :=
  calls.foldl (fun r c => r.register c.name c.shape c.build) r

theorem registerAll_concat (r : Registry) (calls : List Registration) (c : Registration) :
    r.registerAll (calls ++ [c]) = (r.registerAll calls).insert c.entry := by
  rw [registerAll, List.foldl_append]
  rfl

theorem ext_entries {r s : Registry} (h : r.entries = s.entries) : r = s := by
  obtain ⟨entries, index, hindex, hnames⟩ := r
  obtain ⟨entries', index', hindex', hnames'⟩ := s
  obtain rfl : entries = entries' := h
  obtain rfl : index = index' := hindex.trans hindex'.symm
  rfl

/-- Everything that was ever stored: the entries at the start, and those of the
registrations. -/
def stored (r : Registry) (calls : List Registration) : List Entry :=
  r.entries ++ calls.map Registration.entry

theorem stored_concat (r : Registry) (calls : List Registration) (c : Registration) :
    r.stored (calls ++ [c]) = r.stored calls ++ [c.entry] := by
  rw [stored, List.map_append, ← List.append_assoc]
  rfl

theorem stored_nil (r : Registry) : r.stored [] = r.entries := List.append_nil r.entries

/-! ### One entry -/

theorem get?_insert (r : Registry) (e : Entry) (name : String) :
    (r.insert e).get? name = if e.name = titleCase name then some e else r.get? name := by
  rw [get?_eq_find?, get?_eq_find?, entries_insert]
  split
  next h =>
    rw [← h]
    refine KeyedList.find?_update_self ?_ ?_ r.entries
    · rfl
    · exact fun _ _ => rfl
  next h =>
    refine KeyedList.find?_update_of_ne (Ne.symm h) ?_ ?_ r.entries
    · rfl
    · exact fun _ _ => rfl

theorem names_insert (r : Registry) (e : Entry) :
    (r.insert e).names = if e.name ∈ r.names then r.names else r.names ++ [e.name] := by
  rw [names, entries_insert]
  refine KeyedList.map_key_update ?_ ?_ r.entries
  · rfl
  · exact fun _ _ => rfl

/-- A name that is registered again keeps its place. -/
theorem names_prefix_insert (r : Registry) (e : Entry) : r.names <+: (r.insert e).names := by
  rw [names_insert]
  split
  next => exact List.prefix_rfl
  next => exact List.prefix_append r.names [e.name]

/-! ### Any number of entries -/

/-- A name stands for the last entry that was stored under it. -/
theorem get?_registerAll (r : Registry) (calls : List Registration) (name : String) :
    (r.registerAll calls).get? name = (r.stored calls).findRev? (·.name = titleCase name) := by
  rw [List.findRev?_eq_find?_reverse]
  induction calls using List.reverseRecOn with
  | nil =>
      rw [stored_nil]
      exact (get?_eq_find? r name).trans (KeyedList.find?_reverse r.nodup_names _).symm
  | append_singleton calls c ih =>
      rw [registerAll_concat, get?_insert, ih, stored_concat, List.reverse_append]
      by_cases h : c.entry.name = titleCase name
      · simp [h]
      · simp [h]

theorem eraseDups_of_nodup {names : List String} (h : names.Nodup) : names.eraseDups = names := by
  induction names with
  | nil => rfl
  | cons n names ih =>
      obtain ⟨hn, hnames⟩ := List.nodup_cons.mp h
      have hkept : names.filter (fun m => !m == n) = names := by
        refine List.filter_eq_self.mpr fun m hm => ?_
        simp only [Bool.not_eq_true', beq_eq_false_iff_ne]
        rintro rfl
        exact hn hm
      rw [List.eraseDups_cons, hkept, ih hnames]

theorem eraseDups_concat (names : List String) (n : String) :
    (names ++ [n]).eraseDups = if n ∈ names then names.eraseDups else names.eraseDups ++ [n] := by
  rw [List.eraseDups_append, List.removeAll, List.filter_cons, List.elem_eq_mem]
  by_cases h : n ∈ names
  · simp [h]
  · simp [h, List.eraseDups_cons]

/-- The names stand in the order in which they were first stored. -/
theorem names_registerAll (r : Registry) (calls : List Registration) :
    (r.registerAll calls).names = ((r.stored calls).map Entry.name).eraseDups := by
  induction calls using List.reverseRecOn with
  | nil =>
      rw [stored_nil]
      exact (eraseDups_of_nodup r.nodup_names).symm
  | append_singleton calls c ih =>
      rw [registerAll_concat, names_insert, ih, stored_concat, List.map_append, List.map_singleton,
        eraseDups_concat]
      simp only [List.mem_eraseDups]

theorem names_prefix_registerAll (r : Registry) (calls : List Registration) :
    r.names <+: (r.registerAll calls).names := by
  induction calls using List.reverseRecOn with
  | nil => exact List.prefix_rfl
  | append_singleton calls c ih =>
      rw [registerAll_concat]
      exact ih.trans (names_prefix_insert _ _)

/-! ### Places -/

/-- The index knows where a name stands, and nothing else. -/
theorem lookup_index_eq_some (r : Registry) {name : String} {i : Nat} :
    r.index.lookup name = some i ↔ r.names[i]? = some name := by
  rw [lookup_index, List.idxOf?_eq_some_iff, List.getElem?_eq_some_iff]
  refine exists_congr fun hi => and_iff_left_of_imp fun hname j hj hname' => ?_
  exact Nat.ne_of_lt hj ((List.Nodup.getElem_inj_iff r.nodup_names).mp (hname'.trans hname.symm))

/-- The built-in registry is what registering the catalogue gives. -/
theorem builtin_eq_foldl_insert :
    builtin = (Kind.catalogue.map Entry.ofKind).foldl insert empty := by
  have hentries : ∀ (es : List Entry) (r : Registry),
      ((r.entries ++ es).map Entry.name).Nodup → (es.foldl insert r).entries = r.entries ++ es := by
    intro es
    induction es with
    | nil => exact fun r _ => (List.append_nil r.entries).symm
    | cons e es ih =>
        intro r hnames
        have he : e.name ∉ r.entries.map Entry.name := by
          rw [List.map_append, List.nodup_append] at hnames
          exact fun hm => hnames.2.2 _ hm _ (List.mem_cons_self ..) rfl
        have hinsert : (r.insert e).entries = r.entries ++ [e] :=
          (entries_insert r e).trans (KeyedList.update_of_notMem he e fun _ => e)
        rw [List.append_cons] at hnames
        rw [List.foldl_cons, ih (r.insert e) (hinsert ▸ hnames), hinsert, ← List.append_cons]
  exact ext_entries (hentries _ empty builtin.nodup_names).symm

end Registry

/-- **A name stands for what was registered last, where it was registered
first.** After any registrations, whatever spellings they use, a name finds the
last entry that was stored under its registered spelling, and nothing if there
is none. The names are those that were ever stored, each once, in the order in
which they came up first; so those that were there keep their places. The
index leads from each of them to its own entry. -/
theorem registered_last_in_order_of_first (r : Registry) (calls : List Registration) :
    (∀ name, (r.registerAll calls).get? name =
        (r.stored calls).findRev? (·.name = titleCase name))
      ∧ (r.registerAll calls).names = ((r.stored calls).map Entry.name).eraseDups
      ∧ (r.registerAll calls).names.Nodup
      ∧ (∀ name ∈ (r.registerAll calls).names, titleCase name = name)
      ∧ (r.registerAll calls).size = ((r.stored calls).map Entry.name).eraseDups.length
      ∧ r.names <+: (r.registerAll calls).names
      ∧ ∀ name i, (r.registerAll calls).index.lookup name = some i ↔
          ∃ h : i < (r.registerAll calls).size, (r.registerAll calls).entries[i].name = name := by
  have hnames := r.names_registerAll calls
  refine ⟨r.get?_registerAll calls, hnames, (r.registerAll calls).nodup_names, ?_, ?_,
    r.names_prefix_registerAll calls, fun name i => ?_⟩
  · intro name hname
    obtain ⟨e, -, rfl⟩ := List.mem_map.mp hname
    exact e.titleCase_name
  · rw [← hnames, Registry.names, List.length_map]
    rfl
  · rw [Registry.lookup_index_eq_some, Registry.names, List.getElem?_map, Option.map_eq_some_iff]
    constructor
    · rintro ⟨e, he, rfl⟩
      obtain ⟨hi, rfl⟩ := List.getElem?_eq_some_iff.mp he
      exact ⟨hi, rfl⟩
    · rintro ⟨hi, rfl⟩
      exact ⟨_, List.getElem?_eq_getElem hi, rfl⟩

/-! ## Spellings -/

namespace Registry

/-- The last registration under some spelling of a name is found under it. -/
theorem get?_registerAll_of_last (r : Registry) {calls : List Registration} {c : Registration}
    {name : String} (h : calls.findRev? (titleCase ·.name = titleCase name) = some c) :
    (r.registerAll calls).get? name = some c.entry := by
  rw [List.findRev?_eq_find?_reverse] at h
  have hname : (fun e : Entry => decide (e.name = titleCase name)) ∘ Registration.entry =
      fun c => decide (titleCase c.name = titleCase name) := by
    funext c
    rw [Function.comp_apply, c.name_entry]
  rw [get?_registerAll, stored, List.findRev?_eq_find?_reverse, List.reverse_append,
    List.find?_append, ← List.map_reverse, List.find?_map, hname, h, Option.map_some,
    Option.some_or]

end Registry

/-- **What is registered is found under every spelling of its name.** The
registered spelling of a text is its own registered spelling, and the spelling
of rules leads back to it, so names that are registered apart are spelled apart
in rules. What is registered under a text is found under this text, under its
registered spelling and under the spelling of rules; and if the name is
registered again later, under whatever spelling, all three find the last of
these registrations. -/
theorem every_spelling_finds_registered (x : String) :
    titleCase (titleCase x) = titleCase x
      ∧ titleCase (snakeCase (titleCase x)) = titleCase x
      ∧ (∀ y, snakeCase (titleCase x) = snakeCase (titleCase y) ↔ titleCase x = titleCase y)
      ∧ ∀ (r : Registry) (shape : OperandShape)
          (build : Operand → Option String → Except ConfigError Instance)
          (later : List Registration),
          ∃ c, (⟨x, shape, build⟩ :: later).findRev? (titleCase ·.name = titleCase x) = some c
            ∧ ∀ spelling ∈ [x, titleCase x, snakeCase (titleCase x)],
                ((r.register x shape build).registerAll later).get? spelling = some c.entry := by
  refine ⟨titleCase_titleCase x, titleCase_snakeCase_eq_self_iff.mpr (titleCase_titleCase x),
    fun y => snakeCase_inj (titleCase_titleCase x) (titleCase_titleCase y), ?_⟩
  intro r shape build later
  have hsome : ((⟨x, shape, build⟩ :: later).findRev?
      (titleCase ·.name = titleCase x)).isSome = true := by
    rw [List.findRev?_eq_find?_reverse, List.find?_isSome]
    exact ⟨⟨x, shape, build⟩, List.mem_reverse.mpr (List.mem_cons_self ..), decide_eq_true rfl⟩
  obtain ⟨c, hc⟩ := Option.isSome_iff_exists.mp hsome
  refine ⟨c, hc, fun spelling hspelling => ?_⟩
  rw [Registry.get?_congr _ (titleCase_of_spelling hspelling)]
  exact r.get?_registerAll_of_last hc

/-- A name with gaps at its ends, a digit and letters that are not ASCII, which is
registered again by its spelling in rules, and another name after it. -/
theorem every_spelling_finds_registered_again :
    titleCase "__größer__als_2Mal_" = "GrößerAls2Mal"
      ∧ snakeCase "GrößerAls2Mal" = "größer_als2_mal"
      ∧ ∀ spelling ∈ ["__größer__als_2Mal_", "GrößerAls2Mal", "größer_als2_mal"],
          ((Registry.builtin.register "__größer__als_2Mal_" .scalar
              (Instance.make (.value .equal))).registerAll
            [⟨"größer_als2_mal", .scalar, Instance.make (.value (.threshold .above))⟩,
              ⟨"größer_als", .scalar, Instance.make (.value .equal)⟩]).get? spelling =
            some (⟨"größer_als2_mal", .scalar, Instance.make (.value (.threshold .above))⟩ :
              Registration).entry := by
  have htitle : titleCase "__größer__als_2Mal_" = "GrößerAls2Mal" := by decide +kernel
  have hsnake : snakeCase "GrößerAls2Mal" = "größer_als2_mal" := by decide +kernel
  have hagain : titleCase "größer_als2_mal" = "GrößerAls2Mal" := by decide +kernel
  have hother : titleCase "größer_als" ≠ "GrößerAls2Mal" := by decide +kernel
  refine ⟨htitle, hsnake, ?_⟩
  obtain ⟨-, -, -, hfound⟩ := every_spelling_finds_registered "__größer__als_2Mal_"
  rw [htitle, hsnake] at hfound
  obtain ⟨c, hlast, hget⟩ := hfound .builtin .scalar (Instance.make (.value .equal))
    [⟨"größer_als2_mal", .scalar, Instance.make (.value (.threshold .above))⟩,
      ⟨"größer_als", .scalar, Instance.make (.value .equal)⟩]
  obtain rfl : _ = c := by simpa [List.findRev?, hother, hagain] using hlast
  exact hget

end RecordRules
