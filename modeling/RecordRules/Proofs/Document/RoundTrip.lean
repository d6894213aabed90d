import RecordRules.Proofs.Rule.Declared

/-!
# Saved sets read back

Whatever document a set is built from, the document that it is saved as builds
a set again: the one in which every rule is what it is reread as
(`build_toDocument_reread`). For a set is the outcome of its own declarations
in the order in which they are saved, field by field
(`applyAll_declarations`), whatever the order in which they were first made;
and each of them is a rule that was read from an entry (`Savable`).

If all values of the document are text, lists of texts or nothing, every rule
is reread as itself; so building from such a document, saving and building
again changes nothing (`build_toDocument_build`).
-/

namespace RecordRules

/-! ## Declaring a set again -/

namespace ValidatorSet

/-- The declarations that make the set, in the order in which it is saved. -/
def declarations (s : ValidatorSet) : List Change :=
  .strict s.strict :: (s.conditions.map .gate
    ++ s.declared.flatMap fun d => d.bindings.map (.bind d.field))

theorem applyAll_gates (s : ValidatorSet) (ks : List Condition) :
    s.applyAll (ks.map .gate) = { s with conditions := s.conditions ++ ks } :=
  (s.addConditions_eq ks).symm

/-- Bindings of the last field go to that field. -/
theorem applyAll_bind_last (s : ValidatorSet) {ds : List DeclaredField} {d : DeclaredField}
    (hs : s.declared = ds ++ [d]) (hd : d.field ∉ ds.map DeclaredField.field)
    (bs : List Binding) :
    s.applyAll (bs.map (.bind d.field)) =
      { s with declared := ds ++ [{ d with bindings := d.bindings ++ bs }] } := by
  induction bs generalizing s d with
  | nil =>
      rw [List.append_nil, ← hs]
      rfl
  | cons b bs ih =>
      have hadd : (s.addBinding d.field b).declared = ds ++ [.append b d] := by
        rw [addBinding, hs, KeyedList.update_append hd, KeyedList.update, if_pos rfl]
      refine (ih (s.addBinding d.field b) hadd hd).trans ?_
      rw [DeclaredField.append, List.append_assoc]
      rfl

/-- Bindings of a field that is not there yet make that field. -/
theorem applyAll_bind_new (s : ValidatorSet) {d : DeclaredField}
    (hd : d.field ∉ s.fields) (hne : d.bindings ≠ []) :
    s.applyAll (d.bindings.map (.bind d.field)) =
      { s with declared := s.declared ++ [d] } := by
  obtain ⟨field, bindings⟩ := d
  cases bindings with
  | nil => exact absurd rfl hne
  | cons b bs =>
      have hadd : (s.addBinding field b).declared = s.declared ++ [⟨field, [b]⟩] := by
        have happ := KeyedList.update_append hd { field } (DeclaredField.append b) []
        rwa [List.append_nil] at happ
      exact (s.addBinding field b).applyAll_bind_last hadd hd bs

/-- Fields that are declared one after the other are behind those that are
there already. -/
theorem applyAll_binds (s : ValidatorSet) {ds : List DeclaredField}
    (hnd : (s.fields ++ ds.map DeclaredField.field).Nodup)
    (hne : ∀ d ∈ ds, d.bindings ≠ []) :
    s.applyAll (ds.flatMap fun d => d.bindings.map (.bind d.field)) =
      { s with declared := s.declared ++ ds } := by
  induction ds generalizing s with
  | nil =>
      rw [List.append_nil]
      rfl
  | cons d ds ih =>
      obtain ⟨hdne, hdsne⟩ := List.forall_mem_cons.mp hne
      have hd : d.field ∉ s.fields := by
        intro hm
        rw [List.nodup_append] at hnd
        exact hnd.2.2 d.field hm d.field (List.mem_cons_self ..) rfl
      rw [List.flatMap_cons, applyAll_append, s.applyAll_bind_new hd hdne, ih _ ?_ hdsne,
        List.append_assoc]
      · rfl
      · rw [fields, List.map_append, List.append_assoc]
        exact hnd

/-- A set is the outcome of its declarations. -/
theorem applyAll_declarations {s : ValidatorSet} (hl : s.loaded = []) (hnd : s.fields.Nodup)
    (hne : ∀ d ∈ s.declared, d.bindings ≠ []) :
    (withRegistry s.registry).applyAll s.declarations = s := by
  have hstrict : (withRegistry s.registry).applyAll s.declarations =
      ((withRegistry s.registry).setStrict s.strict).applyAll (s.conditions.map .gate
        ++ s.declared.flatMap fun d => d.bindings.map (.bind d.field)) := rfl
  rw [hstrict, applyAll_append, applyAll_gates, applyAll_binds _ ?_ hne]
  · obtain ⟨registry, declared, loaded, conditions, strict⟩ := s
    obtain rfl : loaded = [] := hl
    rfl
  · exact hnd

end ValidatorSet

/-! ## Sets that can be saved -/

/-- Nothing is loaded, and every condition and every binding of the set is
what a change declares that has the property. -/
structure Savable (P : Change → Prop) (s : ValidatorSet) : Prop where
  loaded_eq : s.loaded = []
  nodup_fields : s.fields.Nodup
  bindings_ne_nil : ∀ d ∈ s.declared, d.bindings ≠ []
  conditions : ∀ k ∈ s.conditions, P (.gate k)
  bindings : ∀ d ∈ s.declared, ∀ b ∈ d.bindings, P (.bind d.field b)

namespace Savable

variable {P : Change → Prop} {s : ValidatorSet}

theorem withRegistry (registry : Registry) : Savable P (.withRegistry registry) where
  loaded_eq := rfl
  nodup_fields := List.nodup_nil
  bindings_ne_nil _ hd := by cases hd
  conditions _ hk := by cases hk
  bindings _ hd := by cases hd

theorem addBinding (h : Savable P s) {field : String} {b : Binding} (hb : P (.bind field b)) :
    Savable P (s.addBinding field b) where
  loaded_eq := h.loaded_eq
  nodup_fields := s.nodup_fields_addBinding field b h.nodup_fields
  conditions := h.conditions
  bindings_ne_nil d hd := by
    rcases KeyedList.mem_update hd with hd | rfl | ⟨e, he, rfl, rfl⟩
    · exact h.bindings_ne_nil d hd
    · exact List.cons_ne_nil b []
    · exact List.append_ne_nil_of_right_ne_nil _ (List.cons_ne_nil b [])
  bindings d hd := by
    rcases KeyedList.mem_update hd with hd | rfl | ⟨e, he, rfl, rfl⟩
    · exact h.bindings d hd
    · intro c hc
      cases List.mem_singleton.mp hc
      exact hb
    · intro c hc
      rcases List.mem_append.mp hc with hc | hc
      · exact h.bindings e he c hc
      · cases List.mem_singleton.mp hc
        exact hb

theorem apply (h : Savable P s) {c : Change} (hl : c.isLoad = false) (hc : P c) :
    Savable P (s.apply c) := by
  cases c with
  | bind field b => exact h.addBinding hc
  | load field is => cases hl
  | gate k =>
      refine ⟨h.loaded_eq, h.nodup_fields, h.bindings_ne_nil, ?_, h.bindings⟩
      intro k' hk'
      rcases List.mem_append.mp hk' with hk' | hk'
      · exact h.conditions k' hk'
      · cases List.mem_singleton.mp hk'
        exact hc
  | strict mode =>
      exact ⟨h.loaded_eq, h.nodup_fields, h.bindings_ne_nil, h.conditions, h.bindings⟩

theorem applyAll (h : Savable P s) {cs : List Change} (hcs : ∀ c ∈ cs, c.isLoad = false ∧ P c) :
    Savable P (s.applyAll cs) := by
  induction cs generalizing s with
  | nil => exact h
  | cons c cs ih =>
      obtain ⟨⟨hl, hc⟩, hcs⟩ := List.forall_mem_cons.mp hcs
      exact ih (h.apply hl hc) hcs

/-- What is built from a document are the changes that its entries are. -/
theorem of_build {registry : Registry} {d : Document} (h : d.build registry = .ok s)
    (hstrict : P (.strict d.strict))
    (hgate : ∀ entry ∈ d.conditions, ∀ c, Change.gating registry entry = .ok c → P c)
    (hbind : ∀ entry ∈ d.validators, ∀ c, Change.declaringEntry registry entry = .ok c → P c) :
    Savable P s := by
  have hs : _ = s := congrArg Prod.fst (Document.build_eq_ok.mp h)
  rw [← hs]
  refine (withRegistry registry).applyAll fun c hc => ?_
  rcases List.mem_cons.mp (mem_successes hc) with hc | hc
  · cases hc
    exact ⟨rfl, hstrict⟩
  · rcases List.mem_append.mp hc with hc | hc
    · obtain ⟨entry, hentry, hc⟩ := List.mem_map.mp hc
      obtain ⟨k, rfl⟩ := Change.gating_eq_ok hc
      exact ⟨rfl, hgate entry hentry _ hc⟩
    · obtain ⟨entry, hentry, hc⟩ := List.mem_map.mp hc
      obtain ⟨field, b, rfl⟩ := Change.declaringEntry_eq_ok hc
      exact ⟨rfl, hbind entry hentry _ hc⟩

end Savable

theorem Document.registry_of_build {registry : Registry} {d : Document} {s : ValidatorSet}
    (h : d.build registry = .ok s) : s.registry = registry := by
  have hs : _ = s := congrArg Prod.fst (Document.build_eq_ok.mp h)
  rw [← hs, ValidatorSet.registry_tryAll]
  rfl

/-! ## Rules of a set -/

/-- The change declares a rule over a built-in capability. -/
def Change.FromRule (P : Rule → Prop) : Change → Prop
  | .bind field b => P (b.toRule field) ∧ ∃ k v, b.entry = .ofKind k ∧ (b.toRule field).Gives k v
  | .gate c =>
    P c.toRule ∧ c.requiresField = true ∧ ∃ k v, c.entry = .ofKind k ∧ c.toRule.Gives k v
  | _ => True

/-- Reading back what a rule is saved as gives the same capability a value. -/
theorem Rule.Gives.reread {r : Rule} {k : Kind} {v : Json} (h : r.Gives k v) :
    ∃ w, r.reread.Gives k w := by
  obtain ⟨k', w, hw, -⟩ := RuleEntry.gives_toRule (RuleEntry.toRule_ofRule_reread h)
  have hname : k'.name = k.name := hw.capability.symm.trans h.capability
  have hk : Entry.ofKind k' = Entry.ofKind k := by
    have hresolve := Registry.builtin_resolve k'
    rw [hname, Registry.builtin_resolve] at hresolve
    exact Except.ok.inj hresolve.symm
  have hshape : k'.shape = k.shape := congrArg Entry.shape hk
  exact ⟨w, hw.field, hw.trimmed, h.capability, hshape ▸ hw.value⟩

theorem Change.fromRule_of_gating {P : Rule → Prop} {entry : RuleEntry} {c : Change}
    (hP : ∀ r, entry.toRule .builtin = .ok r → P r) (h : gating .builtin entry = .ok c) :
    c.FromRule P := by
  obtain ⟨r, k, v, hr, hv, -, rfl⟩ := gives_of_gating h
  rw [FromRule, hv.toRule_toCondition]
  exact ⟨hP r hr, rfl, k, v, rfl, hv⟩

theorem Change.fromRule_of_declaring {P : Rule → Prop} {entry : RuleEntry} {c : Change}
    (hP : ∀ r, entry.toRule .builtin = .ok r → P r)
    (h : declaringEntry .builtin entry = .ok c) : c.FromRule P := by
  obtain ⟨r, k, v, hr, hv, -, rfl⟩ := gives_of_declaring h
  rw [FromRule, hv.toRule_toBinding]
  exact ⟨hP r hr, k, v, rfl, hv⟩

/-- The rules of a set that is built from a document are those of its
entries. -/
theorem Savable.fromRule {P : Rule → Prop} {d : Document} {s : ValidatorSet}
    (h : d.build .builtin = .ok s)
    (hP : ∀ entry ∈ d.conditions ++ d.validators, ∀ r, entry.toRule .builtin = .ok r → P r) :
    Savable (Change.FromRule P) s := by
  refine of_build h trivial ?_ ?_
  · intro entry hentry c hc
    exact Change.fromRule_of_gating (hP entry (List.mem_append_left _ hentry)) hc
  · intro entry hentry c hc
    exact Change.fromRule_of_declaring (hP entry (List.mem_append_right _ hentry)) hc

/-! ## Building again -/

def Condition.reread (c : Condition) : Condition := { c with value := c.toRule.reread.value }

def Binding.reread (field : String) (b : Binding) : Binding :=
  { b with value := (b.toRule field).reread.value }

def DeclaredField.reread (d : DeclaredField) : DeclaredField :=
  { d with bindings := d.bindings.map (.reread d.field) }

/-- The set whose rules are what those of the given one are reread as. -/
def ValidatorSet.reread (s : ValidatorSet) : ValidatorSet :=
  { s with
    declared := s.declared.map DeclaredField.reread
    conditions := s.conditions.map Condition.reread }

theorem Change.gating_saved {P : Rule → Prop} {c : Condition}
    (h : (Change.gate c).FromRule P) :
    gating .builtin (.ofRule c.toRule) = .ok (.gate c.reread) := by
  obtain ⟨field, entry, value, message, requiresField⟩ := c
  obtain ⟨-, hrequires, k, v, hentry, hv⟩ := h
  obtain ⟨w, hw⟩ := hv.reread
  obtain rfl : entry = .ofKind k := hentry
  obtain rfl : requiresField = true := hrequires
  rw [gating, RuleEntry.toRule_ofRule_reread hv, ok_bind, hw.ofRule_eq]
  rfl

theorem Change.declaring_saved {P : Rule → Prop} {field : String} {b : Binding}
    (h : (Change.bind field b).FromRule P) :
    declaringEntry .builtin (.ofRule (b.toRule field)) = .ok (.bind field (b.reread field)) := by
  obtain ⟨entry, value, message⟩ := b
  obtain ⟨-, k, v, hentry, hv⟩ := h
  obtain ⟨w, hw⟩ := hv.reread
  obtain rfl : entry = .ofKind k := hentry
  rw [declaringEntry, RuleEntry.toRule_ofRule_reread hv, ok_bind, hw.declaringRule_eq]
  rfl

namespace Savable

variable {P : Rule → Prop} {s : ValidatorSet}

theorem fields_reread (s : ValidatorSet) : s.reread.fields = s.fields := by
  rw [ValidatorSet.fields, ValidatorSet.reread, List.map_map]
  rfl

/-- What is attempted when the saved set is built are the declarations of the
set that it is reread as. -/
theorem attempts_toDocument (h : Savable (Change.FromRule P) s) :
    .ok (.strict s.toDocument.strict)
      :: (s.toDocument.conditions.map (Change.gating .builtin)
        ++ s.toDocument.validators.map (Change.declaringEntry .builtin)) =
      s.reread.declarations.map .ok := by
  have hconditions : s.toDocument.conditions.map (Change.gating .builtin) =
      (s.reread.conditions.map Change.gate).map .ok := by
    rw [ValidatorSet.toDocument, ValidatorSet.reread, List.map_map, List.map_map, List.map_map]
    exact List.map_congr_left fun k hk => Change.gating_saved (h.conditions k hk)
  have hvalidators : s.toDocument.validators.map (Change.declaringEntry .builtin) =
      (s.reread.declared.flatMap fun d => d.bindings.map (Change.bind d.field)).map .ok := by
    rw [ValidatorSet.toDocument, ValidatorSet.reread, List.map_flatMap, List.map_flatMap,
      List.flatMap_map]
    refine List.flatMap_congr fun d hd => ?_
    rw [DeclaredField.reread, List.map_map, List.map_map, List.map_map]
    exact List.map_congr_left fun b hb => Change.declaring_saved (h.bindings d hd b hb)
  rw [hconditions, hvalidators, ValidatorSet.declarations, List.map_cons, List.map_append]
  rfl

end Savable

/-- **A saved set is built again with every rule reread.** The document that
it is saved as builds a set with the same strictness and the same fields, in
which every condition and every binding has the value that its saved rule is
read with, in the same order. -/
theorem build_toDocument_reread {d : Document} {s : ValidatorSet}
    (h : d.build .builtin = .ok s) : s.toDocument.build .builtin = .ok s.reread := by
  have hs : Savable (Change.FromRule fun _ => True) s := .fromRule h fun _ _ _ _ => trivial
  have hne : ∀ d ∈ s.reread.declared, d.bindings ≠ [] := by
    intro d hd
    obtain ⟨e, he, rfl⟩ := List.mem_map.mp hd
    exact mt List.map_eq_nil_iff.mp (hs.bindings_ne_nil e he)
  have hdeclared := ValidatorSet.applyAll_declarations (s := s.reread) hs.loaded_eq
    (Savable.fields_reread s ▸ hs.nodup_fields) hne
  have hregistry : s.reread.registry = .builtin := by
    rw [← Document.registry_of_build h]
    rfl
  rw [hregistry] at hdeclared
  rw [Document.build_eq_ok, hs.attempts_toDocument, ValidatorSet.tryAll, successes_map_ok,
    firstError_map_ok, List.map_id', hdeclared]

/-! ## Documents with text as values -/

namespace Document

/-- No rule of the document has a value that is not text. -/
def isTextual (d : Document) : Bool := (d.conditions ++ d.validators).all RuleEntry.isTextual

end Document

/-- A set of textual rules is reread as itself. -/
theorem Savable.reread_of_textual {s : ValidatorSet}
    (h : Savable (Change.FromRule fun r => ∃ k, r.Textual k) s) : s.reread = s := by
  have hconditions : s.conditions.map Condition.reread = s.conditions := by
    refine (List.map_congr_left fun c hc => ?_).trans (List.map_id _)
    obtain ⟨⟨k, hk⟩, -⟩ := h.conditions c hc
    rw [Condition.reread, Rule.reread_of_textual hk]
    rfl
  have hdeclared : s.declared.map DeclaredField.reread = s.declared := by
    refine (List.map_congr_left fun d hd => ?_).trans (List.map_id _)
    have hbindings : d.bindings.map (.reread d.field) = d.bindings := by
      refine (List.map_congr_left fun b hb => ?_).trans (List.map_id _)
      obtain ⟨⟨k, hk⟩, -⟩ := h.bindings d hd b hb
      rw [Binding.reread, Rule.reread_of_textual hk]
      rfl
    rw [DeclaredField.reread, hbindings]
    rfl
  rw [ValidatorSet.reread, hconditions, hdeclared]

/-- **Saving a set and building it again changes nothing.** A document whose
values are text, lists of texts or nothing declares a set that is declared by
the saved document too: with the same strictness, the same conditions, and the
same bindings of the same fields, all in the same order. -/
theorem build_toDocument_build {d : Document} {s : ValidatorSet} (ht : d.isTextual = true)
    (h : d.build .builtin = .ok s) : s.toDocument.build .builtin = .ok s := by
  rw [Document.isTextual, List.all_eq_true] at ht
  have hsavable : Savable (Change.FromRule fun r => ∃ k, r.Textual k) s :=
    .fromRule h fun entry hentry r hr => RuleEntry.textual_toRule (ht entry hentry) hr
  have hbuild := build_toDocument_reread h
  rwa [hsavable.reread_of_textual] at hbuild

/-- A document with padding, stray commas, an empty message and fields out of
order. -/
def scatteredDocument : Document where
  strict := .validationsOnly
  conditions := [.line " a,b : has_one : x : why: because "]
  validators := [.line "tags:in: red ,blue", .binding ⟨" name ", "Equal", some (.str "a, b"), none⟩,
    .binding ⟨"tags", "length", some (.str "3"), some ""⟩, .line "name:not_empty"]

/-- What it is saved as. -/
def gatheredDocument : Document where
  strict := .validationsOnly
  conditions := [.line "a,b:has_one::why: because"]
  validators := [.line "tags:in:red,blue", .binding ⟨"tags", "length", some (.str "3"), some ""⟩,
    .binding ⟨"name", "equal", some (.str "a, b"), none⟩, .line "name:not_empty"]

theorem build_gatheredDocument :
    ∃ s, scatteredDocument.build .builtin = .ok s ∧ s.toDocument = gatheredDocument
      ∧ s.toDocument.build .builtin = .ok s := by
  have hsaved : (scatteredDocument.build .builtin >>= fun s => pure s.toDocument).toOption =
      some gatheredDocument := by decide +kernel
  obtain ⟨s, hs, hd⟩ := bind_eq_ok.mp (toOption_eq_some.mp hsaved)
  exact ⟨s, hs, Except.ok.inj hd, build_toDocument_build (by decide) hs⟩

end RecordRules
