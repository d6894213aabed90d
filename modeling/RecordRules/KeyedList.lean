/-!
# Lists whose elements have keys

Registries, sets of rules and reports are lists in the order in which their
keys first came up. `update` changes the element with a key in its place, or
appends a new one; `find?` looks an element up.

As long as a change leaves the key alone, the keys are those that were there,
with a new one at the end (`map_key_update`), so they stay distinct
(`nodup_update`); the element under the key is the changed one
(`find?_update_self`), and every other element is untouched
(`find?_update_of_ne`).

Both can also be done by place, if it is known where the key stands
(`find?_eq_getElem?`, `update_eq_set`).
-/

namespace RecordRules.KeyedList

variable {α κ : Type} [DecidableEq κ] (key : α → κ)

def find? (k : κ) (xs : List α) : Option α := xs.find? fun a => key a = k

/-- The list with the element of that key changed; if there is none, `fresh`
is changed and appended. -/
def update (k : κ) (fresh : α) (change : α → α) : List α → List α
  | [] => [change fresh]
  | a :: as => if key a = k then change a :: as else a :: update k fresh change as

variable {key}

theorem find?_cons_self {k : κ} {a : α} (h : key a = k) (as : List α) :
    find? key k (a :: as) = some a :=
  List.find?_cons_of_pos (decide_eq_true h)

theorem find?_cons_of_ne {k : κ} {a : α} (h : key a ≠ k) (as : List α) :
    find? key k (a :: as) = find? key k as :=
  List.find?_cons_of_neg fun he => h (of_decide_eq_true he)

theorem find?_eq_none {k : κ} {xs : List α} : find? key k xs = none ↔ k ∉ xs.map key := by
  simp [find?]

theorem key_of_find? {k : κ} {xs : List α} {a : α} (h : find? key k xs = some a) : key a = k := by
  have hp := List.find?_some h
  exact of_decide_eq_true hp

theorem find?_of_mem {xs : List α} (h : (xs.map key).Nodup) {a : α} (ha : a ∈ xs) :
    find? key (key a) xs = some a := by
  induction xs with
  | nil => cases ha
  | cons b xs ih =>
    rw [List.map_cons, List.nodup_cons] at h
    rcases List.mem_cons.mp ha with rfl | ha
    · exact find?_cons_self rfl xs
    · have hb : key b ≠ key a := fun e => h.1 (e ▸ List.mem_map_of_mem ha)
      rw [find?_cons_of_ne hb, ih h.2 ha]

/-- Distinct keys are found from either end. -/
theorem find?_reverse {xs : List α} (h : (xs.map key).Nodup) (k : κ) :
    find? key k xs.reverse = find? key k xs := by
  cases hf : find? key k xs with
  | none =>
    rw [find?_eq_none] at hf ⊢
    rwa [List.map_reverse, List.mem_reverse]
  | some a =>
    have ha : a ∈ xs.reverse := List.mem_reverse.mpr (List.mem_of_find?_eq_some hf)
    have hr : (xs.reverse.map key).Nodup := by
      rw [List.map_reverse]
      exact List.pairwise_reverse.mpr (h.imp Ne.symm)
    rw [← key_of_find? hf]
    exact find?_of_mem hr ha

/-- Every element is an old one, or the changed one. -/
theorem mem_update {k : κ} {fresh a : α} {change : α → α} {xs : List α}
    (h : a ∈ update key k fresh change xs) :
    a ∈ xs ∨ a = change fresh ∨ ∃ b ∈ xs, key b = k ∧ a = change b := by
  induction xs with
  | nil => exact .inr (.inl (List.mem_singleton.mp h))
  | cons b xs ih =>
    unfold update at h
    split at h
    next hb =>
      rcases List.mem_cons.mp h with rfl | h
      · exact .inr (.inr ⟨b, List.mem_cons_self .., hb, rfl⟩)
      · exact .inl (List.mem_cons_of_mem _ h)
    next hb =>
      rcases List.mem_cons.mp h with rfl | h
      · exact .inl (List.mem_cons_self ..)
      · rcases ih h with h | h | ⟨c, hc, hk, rfl⟩
        · exact .inl (List.mem_cons_of_mem _ h)
        · exact .inr (.inl h)
        · exact .inr (.inr ⟨c, List.mem_cons_of_mem _ hc, hk, rfl⟩)

/-- A key that the first elements do not have is looked for behind them. -/
theorem update_append {k : κ} {xs : List α} (h : k ∉ xs.map key) (fresh : α) (change : α → α)
    (ys : List α) :
    update key k fresh change (xs ++ ys) = xs ++ update key k fresh change ys := by
  induction xs with
  | nil => rfl
  | cons a xs ih =>
    rw [List.map_cons] at h
    obtain ⟨ha, hxs⟩ := List.ne_and_not_mem_of_not_mem_cons h
    rw [List.cons_append, update, if_neg (Ne.symm ha), ih hxs, List.cons_append]

theorem map_key_update {k : κ} {fresh : α} {change : α → α} (hf : key (change fresh) = k)
    (hc : ∀ a, key a = k → key (change a) = k) (xs : List α) :
    (update key k fresh change xs).map key =
      if k ∈ xs.map key then xs.map key else xs.map key ++ [k] := by
  induction xs with
  | nil => simp [update, hf]
  | cons a as ih =>
    unfold update
    by_cases h : key a = k
    · simp [h, hc a h]
    · have hk : ¬ k = key a := fun e => h e.symm
      simp only [h, if_false, List.map_cons, ih, List.mem_cons, hk, false_or]
      split <;> rfl

theorem nodup_update {k : κ} {fresh : α} {change : α → α} (hf : key (change fresh) = k)
    (hc : ∀ a, key a = k → key (change a) = k) {xs : List α} (h : (xs.map key).Nodup) :
    ((update key k fresh change xs).map key).Nodup := by
  rw [map_key_update hf hc]
  split
  next => exact h
  next hk =>
    rw [List.nodup_append]
    refine ⟨h, by simp, ?_⟩
    intro a ha b hb
    simp only [List.mem_singleton] at hb
    exact fun e => hk (hb ▸ e ▸ ha)

theorem find?_update_self {k : κ} {fresh : α} {change : α → α} (hf : key (change fresh) = k)
    (hc : ∀ a, key a = k → key (change a) = k) (xs : List α) :
    find? key k (update key k fresh change xs) = some (change ((find? key k xs).getD fresh)) := by
  induction xs with
  | nil => simp [update, find?, hf]
  | cons a as ih =>
    unfold update
    by_cases h : key a = k
    · simp [find?, h, hc a h]
    · simp only [find?, h, if_false, decide_false, List.find?_cons_of_neg, Bool.false_eq_true,
        not_false_eq_true] at ih ⊢
      exact ih

theorem find?_update_of_ne {k l : κ} (hne : l ≠ k) {fresh : α} {change : α → α}
    (hf : key (change fresh) = k) (hc : ∀ a, key a = k → key (change a) = k) (xs : List α) :
    find? key l (update key k fresh change xs) = find? key l xs := by
  induction xs with
  | nil => simp [update, find?, hf, hne.symm]
  | cons a as ih =>
    unfold update
    by_cases h : key a = k
    · simp [find?, h, hc a h, hne.symm]
    · simp only [h, if_false, find?, List.find?_cons] at ih ⊢
      rw [ih]

/-! ## Lookup -/

section Lookup

variable {β : Type} {k : κ} {v : β} {es : List (κ × β)}

theorem lookup_of_notMem (h : k ∉ es.map Prod.fst) : es.lookup k = none :=
  List.lookup_eq_none_iff.mpr fun e he => bne_iff_ne.mpr fun heq =>
    h (List.mem_map.mpr ⟨e, he, heq.symm⟩)

theorem mem_of_lookup (h : es.lookup k = some v) : (k, v) ∈ es := by
  obtain ⟨before, after, rfl, -⟩ := List.lookup_eq_some_iff.mp h
  exact List.mem_append_right before (List.mem_cons_self ..)

theorem lookup_of_mem (h : (es.map Prod.fst).Nodup) (hmem : (k, v) ∈ es) :
    es.lookup k = some v := by
  induction es with
  | nil => cases hmem
  | cons e es ih =>
    rw [List.map_cons, List.nodup_cons] at h
    rcases List.mem_cons.mp hmem with rfl | hmem
    · exact List.lookup_cons_self
    · have hne : (k == e.1) = false := by
        rw [beq_eq_false_iff_ne]
        rintro rfl
        exact h.1 (List.mem_map.mpr ⟨_, hmem, rfl⟩)
      rw [List.lookup_cons, hne]
      exact ih h.2 hmem

end Lookup

/-! ## Elements by their place -/

theorem lookup_zipIdx (ks : List κ) (k : κ) (start : Nat) :
    (ks.zipIdx start).lookup k = (ks.idxOf? k).map (start + ·) := by
  induction ks generalizing start with
  | nil => rfl
  | cons l ks ih =>
    rw [List.zipIdx_cons, List.lookup_cons, List.idxOf?_cons, ih]
    by_cases h : l = k
    · simp [h]
    · simp [h, beq_false_of_ne (Ne.symm h), Function.comp_def, Nat.add_assoc, Nat.add_comm 1]

theorem find?_eq_getElem? (k : κ) (xs : List α) :
    find? key k xs = ((xs.map key).idxOf? k).bind (xs[·]?) := by
  induction xs with
  | nil => rfl
  | cons a as ih =>
    rw [List.map_cons, List.idxOf?_cons]
    by_cases h : key a = k
    · rw [find?_cons_self h, if_pos (beq_iff_eq.mpr h)]
      rfl
    · rw [find?_cons_of_ne h, ih, if_neg (mt beq_iff_eq.mp h), Option.bind_map]
      rfl

theorem update_eq_set {k : κ} {xs : List α} {i : Nat} (h : (xs.map key).idxOf? k = some i)
    (fresh a : α) : update key k fresh (fun _ => a) xs = xs.set i a := by
  induction xs generalizing i with
  | nil => cases h
  | cons b bs ih =>
    rw [List.map_cons, List.idxOf?_cons] at h
    by_cases hb : key b = k
    · rw [if_pos (beq_iff_eq.mpr hb)] at h
      cases h
      rw [update, if_pos hb]
      rfl
    · rw [if_neg (mt beq_iff_eq.mp hb)] at h
      obtain ⟨j, hj, rfl⟩ := Option.map_eq_some_iff.mp h
      rw [update, if_neg hb, ih hj]
      rfl

/-- A key that is not there goes to the end. -/
theorem update_of_notMem {k : κ} {xs : List α} (h : k ∉ xs.map key) (fresh : α)
    (change : α → α) : update key k fresh change xs = xs ++ [change fresh] := by
  have happ := update_append h fresh change []
  rwa [List.append_nil] at happ

end RecordRules.KeyedList
