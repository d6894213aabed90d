import Mathlib.Data.List.Perm.Subperm
import RecordRules.KeyedList
import RecordRules.Json.Basic

/-!
# Maps with distinct keys

A value may be a map in which a key is repeated, and then only the first entry
under the key is found. Most values have no such map, at any depth
(`Json.HasDistinctKeys`). Of two maps that are equally large and have distinct
keys, either both have entries for the keys of the other, or none has
(`KeyedList.exists_of_covered`).
-/

namespace RecordRules

namespace Json

/-- No map of the value, at any depth, has a key twice. -/
inductive HasDistinctKeys : Json → Prop
  | null : HasDistinctKeys .null
  | bool (b : Bool) : HasDistinctKeys (.bool b)
  | num (n : Number) : HasDistinctKeys (.num n)
  | str (s : String) : HasDistinctKeys (.str s)
  | arr {items : List Json} (hitems : ∀ v ∈ items, HasDistinctKeys v) : HasDistinctKeys (.arr items)
  | obj {entries : List (String × Json)} (hkeys : (entries.map Prod.fst).Nodup)
      (hvalues : ∀ e ∈ entries, HasDistinctKeys e.2) : HasDistinctKeys (.obj entries)

namespace HasDistinctKeys

variable {entries : List (String × Json)}

theorem keys (h : HasDistinctKeys (.obj entries)) : (entries.map Prod.fst).Nodup := by
  cases h with
  | obj hkeys _ => exact hkeys

theorem values (h : HasDistinctKeys (.obj entries)) : ∀ e ∈ entries, HasDistinctKeys e.2 := by
  cases h with
  | obj _ hvalues => exact hvalues

theorem items {items : List Json} (h : HasDistinctKeys (.arr items)) :
    ∀ v ∈ items, HasDistinctKeys v := by
  cases h with
  | arr hitems => exact hitems

end HasDistinctKeys

end Json

namespace KeyedList

variable {κ β : Type} [DecidableEq κ] {xs ys : List (κ × β)} {r : β → β → Prop}

/-- Every entry of the first list has one in the second list, under its key and
related to it. Then this holds the other way round, if the second list is not
longer: no key of it is left over. -/
theorem exists_of_covered (hx : (xs.map Prod.fst).Nodup) (hy : (ys.map Prod.fst).Nodup)
    (hlen : ys.length ≤ xs.length) (h : ∀ e ∈ xs, ∃ w, ys.lookup e.1 = some w ∧ r e.2 w) :
    ∀ f ∈ ys, ∃ v, (f.1, v) ∈ xs ∧ r v f.2 := by
  have hkeys : xs.map Prod.fst ⊆ ys.map Prod.fst := by
    intro k hk
    obtain ⟨e, he, rfl⟩ := List.mem_map.mp hk
    obtain ⟨w, hw, -⟩ := h e he
    exact List.mem_map.mpr ⟨_, mem_of_lookup hw, rfl⟩
  have hperm : (xs.map Prod.fst).Perm (ys.map Prod.fst) := by
    refine (List.subperm_of_subset hx hkeys).perm_of_length_le ?_
    rw [List.length_map, List.length_map]
    exact hlen
  intro f hf
  obtain ⟨e, he, hkey⟩ := List.mem_map.mp (hperm.mem_iff.mpr (List.mem_map_of_mem hf))
  obtain ⟨w, hw, hr⟩ := h e he
  rw [hkey, lookup_of_mem hy hf] at hw
  obtain rfl := Option.some.inj hw
  exact ⟨e.2, hkey ▸ he, hr⟩

end KeyedList

end RecordRules
