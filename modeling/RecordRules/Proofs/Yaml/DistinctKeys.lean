import RecordRules.KeyedList
import RecordRules.Proofs.Record.DistinctKeys
import RecordRules.Yaml.Reader

/-!
# Keys of maps that are read

No map of a value that is read has a key twice (`read?_hasDistinctKeys`):
every map is put together entry by entry, and a key that is there already
keeps its one place. The entries that a map is made from may come from other
maps, which lend them; what stands behind their keys was read as well.
-/

namespace RecordRules

namespace Json

theorem putEntry_eq (key : String) (value : Json) (es : List (String × Json)) :
    putEntry key value es =
      KeyedList.update Prod.fst key (key, value) (fun e => (e.1, value)) es := by
  induction es with
  | nil => rfl
  | cons e es ih =>
      obtain ⟨k, v⟩ := e
      rw [putEntry, KeyedList.update, ih]

namespace HasDistinctKeys

variable {entries : List (String × Json)}

theorem putEntry (h : HasDistinctKeys (.obj entries)) (key : String) {value : Json}
    (hv : HasDistinctKeys value) : HasDistinctKeys (.obj (Json.putEntry key value entries)) := by
  rw [putEntry_eq]
  refine .obj (KeyedList.nodup_update ?_ ?_ h.keys) fun e he => ?_
  · rfl
  · exact fun _ he => he
  · rcases KeyedList.mem_update he with he | rfl | ⟨d, -, -, rfl⟩
    · exact h.values e he
    · exact hv
    · exact hv

theorem foldl_putEntry (h : HasDistinctKeys (.obj entries)) {named : List (String × Json)}
    (hn : ∀ e ∈ named, HasDistinctKeys e.2) :
    HasDistinctKeys (.obj (named.foldl (fun es e => Json.putEntry e.1 e.2 es) entries)) := by
  induction named generalizing entries with
  | nil => exact h
  | cons e named ih =>
      obtain ⟨he, hn⟩ := List.forall_mem_cons.mp hn
      exact ih (h.putEntry e.1 he) hn

end HasDistinctKeys

end Json

namespace Yaml

open Json (HasDistinctKeys)

/-! ## Scalars -/

theorem resolvePlain_hasDistinctKeys (text : String) : (resolvePlain text).HasDistinctKeys := by
  have hdecimal : ∀ d, (ofDecimal d).HasDistinctKeys := by
    intro d
    rw [ofDecimal]
    split
    next x _ => exact .num (.float x)
    next => exact .str _
  rw [resolvePlain]
  split
  next => exact .null
  next =>
    split
    next b _ => exact .bool b
    next =>
      split
      next n _ => exact .num (.int n)
      next =>
        split
        next s _ => exact .str s
        next =>
          split
          next d _ => exact hdecimal d
          next => exact .str text

theorem scalarValue?_hasDistinctKeys {isPlain : Bool} {tag : Option Tag} {text : String} {v : Json}
    (h : scalarValue? isPlain tag text = some v) : v.HasDistinctKeys := by
  rw [scalarValue?] at h
  split at h
  next =>
    cases h
    exact .null
  next =>
    obtain ⟨s, -, hv⟩ := Option.bind_eq_some_iff.mp h
    split at hv
    next =>
      cases hv
      exact .str s
    next =>
      cases hv
      exact resolvePlain_hasDistinctKeys s

/-! ## Entries -/

/-- What stands behind the key, if it is a value, has distinct keys. -/
def Entry.IsDistinct (e : Entry) : Prop := ∀ v ∈ e.value?, v.HasDistinctKeys

theorem mem_of_mem_withoutRepeated {es : List Entry} {e : Entry} (h : e ∈ withoutRepeated es) :
    e ∈ es := by
  induction es with
  | nil => exact h
  | cons d es ih =>
      rcases List.mem_cons.mp h with rfl | h
      · exact List.mem_cons_self ..
      · exact List.mem_cons_of_mem d (ih (List.mem_filter.mp h).1)

theorem mapValue?_hasDistinctKeys {es : List Entry} (hes : ∀ e ∈ es, e.IsDistinct) {v : Json}
    (h : mapValue? es = some v) : v.HasDistinctKeys := by
  obtain ⟨named, hnamed, hv⟩ := Option.bind_eq_some_iff.mp h
  cases hv
  have hempty : (Json.obj []).HasDistinctKeys := .obj List.nodup_nil fun _ he => nomatch he
  refine hempty.foldl_putEntry ?_
  clear h
  induction es generalizing named with
  | nil =>
      cases hnamed
      exact fun _ he => nomatch he
  | cons e es ih =>
      obtain ⟨he, hes⟩ := List.forall_mem_cons.mp hes
      rw [List.mapM_cons] at hnamed
      obtain ⟨entry, hentry, hnamed⟩ := Option.bind_eq_some_iff.mp hnamed
      obtain ⟨rest, hrest, hnamed⟩ := Option.bind_eq_some_iff.mp hnamed
      cases hnamed
      obtain ⟨name, -, hentry⟩ := Option.bind_eq_some_iff.mp hentry
      obtain ⟨value, hvalue, hentry⟩ := Option.bind_eq_some_iff.mp hentry
      cases hentry
      exact List.forall_mem_cons.mpr ⟨he value hvalue, ih hes rest hrest⟩

/-! ## Nodes -/

mutual

theorem value?_hasDistinctKeys : (n : Node) → ∀ {v : Json}, n.value? = some v → v.HasDistinctKeys
  | .scalar isPlain tag text, v, h => by
      rw [Node.value?] at h
      exact scalarValue?_hasDistinctKeys h
  | .list items, v, h => by
      rw [Node.value?] at h
      obtain ⟨vs, hvs, rfl⟩ := Option.map_eq_some_iff.mp h
      exact .arr (itemValues?_hasDistinctKeys items hvs)
  | .map entries, v, h => by
      rw [Node.value?] at h
      split at h
      next => cases h
      next f hf =>
        split at h
        next => cases h
        next =>
          exact mapValue?_hasDistinctKeys
            (fun e he => fields?_isDistinct entries hf e (mem_of_mem_withoutRepeated he)) h

theorem itemValues?_hasDistinctKeys : (ns : List Node) → ∀ {vs : List Json},
    itemValues? ns = some vs → ∀ v ∈ vs, v.HasDistinctKeys
  | [], vs, h => by
      rw [itemValues?] at h
      cases h
      exact fun _ hv => nomatch hv
  | n :: ns, vs, h => by
      rw [itemValues?] at h
      split at h
      next v rest hv hrest =>
        cases h
        exact List.forall_mem_cons.mpr
          ⟨value?_hasDistinctKeys n hv, itemValues?_hasDistinctKeys ns hrest⟩
      next => cases h

/-- The entries of a map, its own and those lent to it. -/
theorem fields?_isDistinct : (es : List (Node × Node)) → ∀ {f : Fields}, fields? es = some f →
    ∀ e ∈ f.all, e.IsDistinct
  | [], f, h => by
      rw [fields?] at h
      cases h
      exact fun _ he => nomatch he
  | (k, v) :: es, f, h => by
      rw [fields?] at h
      split at h
      next => cases h
      next g hg =>
        have hes := fields?_isDistinct es hg
        split at h
        next =>
          split at h
          next lent hlent =>
            cases h
            have hv := lent?_isDistinct v hlent
            intro e he
            simp only [Fields.all, List.reverse_cons, List.flatten_append, List.flatten_singleton,
              List.mem_append] at he hes
            rcases he with he | he | he
            · exact hes e (.inl he)
            · exact hes e (.inr he)
            · exact hv e he
          next => cases h
        next =>
          cases h
          exact List.forall_mem_cons.mpr ⟨fun w hw => value?_hasDistinctKeys v hw, hes⟩

theorem lent?_isDistinct : (n : Node) → ∀ {es : List Entry}, n.lent? = some es →
    ∀ e ∈ es, e.IsDistinct
  | .scalar isPlain tag text, es, h => by
      rw [Node.lent?] at h
      split at h
      next =>
        cases h
        exact fun _ he => nomatch he
      next => cases h
  | .map entries, es, h => by
      rw [Node.lent?] at h
      obtain ⟨f, hf, rfl⟩ := Option.map_eq_some_iff.mp h
      exact fields?_isDistinct entries hf
  | .list items, es, h => by
      rw [Node.lent?] at h
      obtain ⟨ess, hess, rfl⟩ := Option.map_eq_some_iff.mp h
      intro e he
      obtain ⟨es, hes, he⟩ := List.mem_flatten.mp he
      exact lentByItems?_isDistinct items hess es (List.mem_reverse.mp hes) e he

theorem lentByItems?_isDistinct : (ns : List Node) → ∀ {ess : List (List Entry)},
    lentByItems? ns = some ess → ∀ es ∈ ess, ∀ e ∈ es, e.IsDistinct
  | [], ess, h => by
      rw [lentByItems?] at h
      cases h
      exact fun _ hes => nomatch hes
  | n :: ns, ess, h => by
      rw [lentByItems?] at h
      split at h
      next es rest hes hrest =>
        cases h
        exact List.forall_mem_cons.mpr
          ⟨lent?_isDistinct n hes, lentByItems?_isDistinct ns hrest⟩
      next => cases h

end

/-- No map of a value that is read has a key twice. -/
theorem read?_hasDistinctKeys {text : String} {v : Json} (h : read? text = some v) :
    v.HasDistinctKeys := by
  obtain ⟨node, -, hv⟩ := Option.bind_eq_some_iff.mp h
  exact value?_hasDistinctKeys node hv

end Yaml

end RecordRules
