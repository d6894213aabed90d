import RecordRules.Proofs.Record.DistinctKeys
import RecordRules.Record.Loose

/-!
# Loose equality has no sides

Loose equality looks at its two values differently: of two maps, the entries of
the left one are looked up in the right one, and not the other way round. Still
every value equals itself, and equality of two values does not hang on which of
them stands on the left (`looseEq_refl_symm`), as long as no map in them
repeats a key. For scalars this can be read off, and for lists it goes place by
place. Maps are equal only if they are equally large, and then the entries of
the left one take up all keys of the right one.
-/

namespace RecordRules

open Json (HasDistinctKeys)

theorem looseEqScalar_comm (a b : Json) : looseEqScalar a b = looseEqScalar b a := by
  have hnumber : ∀ x y : Binary64, x.eq y = y.eq x := fun _ _ => Bool.beq_comm
  have htext : ∀ s t : String, (s == t) = (t == s) := fun _ _ => Bool.beq_comm
  unfold looseEqScalar
  cases asNumber a <;> cases asNumber b <;> cases valueText a <;> cases valueText b <;>
    simp [hnumber, htext]

theorem looseEqScalar_self {v : Json} (h : (valueText v).isSome) : looseEqScalar v v = true := by
  obtain ⟨s, hs⟩ := Option.isSome_iff_exists.mp h
  unfold looseEqScalar
  cases asNumber v with
  | some x => exact beq_self_eq_true x.units
  | none => simp [hs]

/-! ## Collections -/

theorem looseEqItems_comm {xs : List Json}
    (h : ∀ v ∈ xs, ∀ {w : Json}, w.HasDistinctKeys → looseEq v w = looseEq w v) {ys : List Json}
    (hy : ∀ w ∈ ys, w.HasDistinctKeys) : looseEqItems xs ys = looseEqItems ys xs := by
  induction xs generalizing ys with
  | nil => cases ys <;> rfl
  | cons x xs ih =>
      cases ys with
      | nil => rfl
      | cons y ys =>
          obtain ⟨hx, hxs⟩ := List.forall_mem_cons.mp h
          obtain ⟨hy, hys⟩ := List.forall_mem_cons.mp hy
          rw [looseEqItems, looseEqItems, hx hy, ih hxs hys]

theorem looseEqItems_refl {xs : List Json} (h : ∀ v ∈ xs, looseEq v v = true) :
    looseEqItems xs xs = true := by
  induction xs with
  | nil => rfl
  | cons x xs ih =>
      obtain ⟨hx, hxs⟩ := List.forall_mem_cons.mp h
      rw [looseEqItems, hx, ih hxs]
      rfl

theorem looseEqEntries_iff (xs ys : List (String × Json)) :
    looseEqEntries xs ys = true ↔
      ∀ e ∈ xs, ∃ w, ys.lookup e.1 = some w ∧ looseEq e.2 w = true := by
  induction xs with
  | nil => simp [looseEqEntries]
  | cons e xs ih =>
      obtain ⟨k, v⟩ := e
      rw [looseEqEntries, Bool.and_eq_true, ih, List.forall_mem_cons]
      refine and_congr_left' ?_
      cases ys.lookup k <;> simp

theorem looseEqEntries_refl {xs : List (String × Json)} (hkeys : (xs.map Prod.fst).Nodup)
    (h : ∀ e ∈ xs, looseEq e.2 e.2 = true) : looseEqEntries xs xs = true := by
  rw [looseEqEntries_iff]
  intro e he
  exact ⟨e.2, KeyedList.lookup_of_mem hkeys he, h e he⟩

/-- Equally large maps are equal from either side. -/
theorem looseEqEntries_comm {xs ys : List (String × Json)} (hx : (xs.map Prod.fst).Nodup)
    (hy : (ys.map Prod.fst).Nodup) (hlen : xs.length = ys.length)
    (h : ∀ e ∈ xs, ∀ f ∈ ys, looseEq e.2 f.2 = looseEq f.2 e.2) :
    looseEqEntries xs ys = looseEqEntries ys xs := by
  rw [Bool.eq_iff_iff, looseEqEntries_iff, looseEqEntries_iff]
  constructor
  · intro hcover f hf
    obtain ⟨v, hv, heq⟩ := KeyedList.exists_of_covered (r := fun v w => looseEq v w = true)
      hx hy (Nat.le_of_eq hlen.symm) hcover f hf
    exact ⟨v, KeyedList.lookup_of_mem hx hv, h _ hv f hf ▸ heq⟩
  · intro hcover e he
    obtain ⟨w, hw, heq⟩ := KeyedList.exists_of_covered (r := fun v w => looseEq v w = true)
      hy hx (Nat.le_of_eq hlen) hcover e he
    exact ⟨w, KeyedList.lookup_of_mem hy hw, h e he _ hw ▸ heq⟩

/-! ## Values -/

theorem looseEq_refl {v : Json} (h : v.HasDistinctKeys) : looseEq v v = true := by
  induction h with
  | null => rfl
  | bool b => simp [looseEq, truthy]
  | num n => simpa [looseEq] using looseEqScalar_self (v := .num n) rfl
  | str s => simpa [looseEq] using looseEqScalar_self (v := .str s) rfl
  | arr hitems ih => simpa [looseEq] using looseEqItems_refl ih
  | obj hkeys hvalues ih => simpa [looseEq] using looseEqEntries_refl hkeys ih

theorem looseEq_comm {a b : Json} (ha : a.HasDistinctKeys) (hb : b.HasDistinctKeys) :
    looseEq a b = looseEq b a := by
  induction ha generalizing b with
  | null => cases b <;> simp [looseEq, looseEqScalar_comm]
  | bool x =>
      cases b with
      | bool y => simp [looseEq, truthy, Bool.beq_comm]
      | _ => simp [looseEq]
  | num n => cases b <;> simp [looseEq, looseEqScalar_comm]
  | str s => cases b <;> simp [looseEq, looseEqScalar_comm]
  | arr hitems ih =>
      cases hb with
      | arr hothers => simpa [looseEq] using looseEqItems_comm ih hothers
      | _ => simp [looseEq, looseEqScalar_comm]
  | @obj xs hkeys hvalues ih =>
      cases hb with
      | @obj ys hkeys' hvalues' =>
          rw [looseEq, looseEq]
          by_cases hlen : xs.length = ys.length
          · rw [looseEqEntries_comm hkeys hkeys' hlen fun e he f hf => ih e he (hvalues' f hf), hlen]
          · rw [beq_false_of_ne hlen, beq_false_of_ne (Ne.symm hlen)]
            rfl
      | _ => simp [looseEq, looseEqScalar_comm]

/-- **Loose equality is fair to both sides.** -/
theorem looseEq_refl_symm {a b : Json} (ha : a.HasDistinctKeys) (hb : b.HasDistinctKeys) :
    looseEq a a = true ∧ looseEq a b = looseEq b a :=
  ⟨looseEq_refl ha, looseEq_comm ha hb⟩

/-- An order as it is stored. -/
def storedOrder : Json :=
  .obj [("id", .num (.int ⟨7, by decide⟩)),
    ("lines", .arr [.obj [("sku", .str "a"), ("gift", .bool true)]])]

/-- The same order as a form sends it. -/
def sentOrder : Json :=
  .obj [("lines", .arr [.obj [("gift", .str "yes"), ("sku", .str "a")]]), ("id", .str "7")]

theorem looseEq_refl_symm_of_orders :
    storedOrder.HasDistinctKeys ∧ sentOrder.HasDistinctKeys
      ∧ (looseEq storedOrder storedOrder = true
        ∧ looseEq storedOrder sentOrder = looseEq sentOrder storedOrder)
      ∧ looseEq storedOrder sentOrder = true := by
  have hpair : ∀ {k l : String} {v w : Json}, k ≠ l → v.HasDistinctKeys → w.HasDistinctKeys →
      (Json.obj [(k, v), (l, w)]).HasDistinctKeys := by
    intro k l v w hkl hv hw
    refine .obj (by simpa using hkl) ?_
    exact List.forall_mem_cons.mpr ⟨hv, List.forall_mem_singleton.mpr hw⟩
  have hlines : ∀ {line : Json}, line.HasDistinctKeys → (Json.arr [line]).HasDistinctKeys :=
    fun hline => .arr (List.forall_mem_singleton.mpr hline)
  have hstored : storedOrder.HasDistinctKeys :=
    hpair (by decide) (.num _) (hlines (hpair (by decide) (.str _) (.bool _)))
  have hsent : sentOrder.HasDistinctKeys :=
    hpair (by decide) (hlines (hpair (by decide) (.str _) (.str _))) (.str _)
  exact ⟨hstored, hsent, looseEq_refl_symm hstored hsent, by decide +kernel⟩

/-- Where a key is repeated, the right side may have a key that the left side
lacks. -/
example : looseEq (.obj [("a", .null), ("a", .null)]) (.obj [("a", .null), ("b", .null)]) = true
    ∧ looseEq (.obj [("a", .null), ("b", .null)]) (.obj [("a", .null), ("a", .null)]) = false := by
  decide +kernel

end RecordRules
