import Mathlib.Data.List.Forall2
import RecordRules.ValidatorSet.History

/-!
# Attempts

Computations that may fail, one after another. A batch (`runBatch`) takes
steps that each succeed or leave the state as it was, up to the first that
fails. If its steps attempt what does not hang on the state, it makes its
attempts up to the first error (`runBatch_eq_attempts`). A batch that must not
fail is a monadic fold (`foldlM_eq_expectAll`).
-/

namespace RecordRules

theorem bind_eq_ok {ε α β : Type} {x : Except ε α} {f : α → Except ε β} {b : β} :
    (x >>= f) = .ok b ↔ ∃ a, x = .ok a ∧ f a = .ok b := by
  cases x with
  | error e => exact ⟨(nomatch ·), fun ⟨_, h, _⟩ => nomatch h⟩
  | ok a => exact ⟨fun h => ⟨a, rfl, h⟩, fun ⟨_, h, hf⟩ => by cases h; exact hf⟩

theorem bind_eq_error {ε α β : Type} {x : Except ε α} {f : α → Except ε β} {e : ε} :
    (x >>= f) = .error e ↔ x = .error e ∨ ∃ a, x = .ok a ∧ f a = .error e := by
  cases x with
  | error e' =>
      constructor
      · intro h
        cases h
        exact .inl rfl
      · rintro (h | ⟨a, ha, -⟩)
        · cases h
          rfl
        · cases ha
  | ok a =>
      constructor
      · intro h
        exact .inr ⟨a, rfl, h⟩
      · rintro (h | ⟨b, hb, h⟩)
        · cases h
        · cases hb
          exact h

theorem ok_bind {ε α β : Type} (a : α) (f : α → Except ε β) :
    ((.ok a : Except ε α) >>= f) = f a := rfl

theorem bind_congr_ok {ε α β : Type} {x : Except ε α} {f g : α → Except ε β}
    (h : ∀ a, x = .ok a → f a = g a) : (x >>= f) = (x >>= g) := by
  cases x with
  | error e => rfl
  | ok a => exact h a rfl

theorem toOption_eq_some {ε α : Type} {x : Except ε α} {a : α} :
    x.toOption = some a ↔ x = .ok a := by
  cases x <;> simp [Except.toOption]

/-- A list of computations succeeds when each of them does. -/
theorem mapM_eq_ok {ε α β : Type} {f : α → Except ε β} {as : List α} {bs : List β} :
    as.mapM f = .ok bs ↔ List.Forall₂ (fun a b => f a = .ok b) as bs := by
  induction as generalizing bs with
  | nil =>
      rw [List.mapM_nil, List.forall₂_nil_left_iff]
      exact ⟨fun h => by cases h; rfl, fun h => by rw [h]; rfl⟩
  | cons a as ih =>
      rw [List.mapM_cons, bind_eq_ok, List.forall₂_cons_left_iff]
      refine exists_congr fun b => ?_
      rw [bind_eq_ok]
      constructor
      · rintro ⟨ha, bs', hbs, hb⟩
        cases hb
        exact ⟨bs', ha, ih.mp hbs, rfl⟩
      · rintro ⟨bs', ha, hbs, rfl⟩
        exact ⟨ha, bs', ih.mpr hbs, rfl⟩

theorem mapM_succeeds {ε α β : Type} {f : α → Except ε β} {as : List α} :
    (∃ bs, as.mapM f = .ok bs) ↔ ∀ a ∈ as, ∃ b, f a = .ok b := by
  simp only [mapM_eq_ok]
  induction as with
  | nil => simp
  | cons a as ih =>
      simp only [List.forall₂_cons_left_iff, List.forall_mem_cons, ← ih]
      constructor
      · rintro ⟨_, b, bs, hb, hbs, rfl⟩
        exact ⟨⟨b, hb⟩, bs, hbs⟩
      · rintro ⟨⟨b, hb⟩, bs, hbs⟩
        exact ⟨_, b, bs, hb, hbs, rfl⟩

theorem mem_of_mapM {ε α β : Type} {f : α → Except ε β} {as : List α} {bs : List β}
    (h : as.mapM f = .ok bs) {b : β} : b ∈ bs ↔ ∃ a ∈ as, f a = .ok b := by
  have hall := mapM_eq_ok.mp h
  clear h
  induction hall with
  | nil => simp
  | @cons a c as bs hac _ ih =>
      have hb : b = c ↔ f a = .ok b := by rw [hac, Except.ok.injEq, eq_comm]
      rw [List.mem_cons, List.exists_mem_cons_iff]
      exact or_congr hb ih

theorem mapM_congr {ε α β : Type} {f g : α → Except ε β} {as : List α}
    (h : ∀ a ∈ as, f a = g a) : as.mapM f = as.mapM g := by
  induction as with
  | nil => rfl
  | cons a as ih =>
      rw [List.mapM_cons, List.mapM_cons, h a (List.mem_cons_self ..),
        ih fun b hb => h b (List.mem_cons_of_mem _ hb)]

theorem foldlM_congr {σ ε α : Type} {f g : σ → α → Except ε σ} {as : List α}
    (h : ∀ a ∈ as, ∀ s, f s a = g s a) (s : σ) : as.foldlM f s = as.foldlM g s := by
  induction as generalizing s with
  | nil => rfl
  | cons a as ih =>
      rw [List.foldlM_cons, List.foldlM_cons, h a (List.mem_cons_self ..)]
      exact bind_congr_ok fun t _ => ih (fun b hb => h b (List.mem_cons_of_mem _ hb)) t

/-- A list of computations fails with the error of one of them. -/
theorem exists_of_mapM_error {ε α β : Type} {f : α → Except ε β} {as : List α} {e : ε}
    (h : as.mapM f = .error e) : ∃ a ∈ as, f a = .error e := by
  induction as with
  | nil => cases h
  | cons a as ih =>
      rw [List.mapM_cons] at h
      rcases bind_eq_error.mp h with ha | ⟨b, -, h⟩
      · exact ⟨a, List.mem_cons_self .., ha⟩
      · rcases bind_eq_error.mp h with has | ⟨bs, -, h⟩
        · obtain ⟨a', ha', he⟩ := ih has
          exact ⟨a', List.mem_cons_of_mem _ ha', he⟩
        · cases h

theorem exists_of_foldlM_error {σ ε α : Type} {f : σ → α → Except ε σ} {s : σ} {as : List α}
    {e : ε} (h : as.foldlM f s = .error e) : ∃ a ∈ as, ∃ t, f t a = .error e := by
  induction as generalizing s with
  | nil => cases h
  | cons a as ih =>
      rw [List.foldlM_cons] at h
      rcases bind_eq_error.mp h with ha | ⟨t, -, h⟩
      · exact ⟨a, List.mem_cons_self .., s, ha⟩
      · obtain ⟨a', ha', he⟩ := ih h
        exact ⟨a', List.mem_cons_of_mem _ ha', he⟩

theorem exists_of_forall₂ {α β : Type} {R : α → β → Prop} {as : List α} {bs : List β}
    (h : List.Forall₂ R as bs) {b : β} (hb : b ∈ bs) : ∃ a ∈ as, R a b := by
  induction h with
  | nil => cases hb
  | cons hac _ ih =>
      rcases List.mem_cons.mp hb with rfl | hb
      · exact ⟨_, List.mem_cons_self .., hac⟩
      · obtain ⟨a, ha, hab⟩ := ih hb
        exact ⟨a, List.mem_cons_of_mem _ ha, hab⟩

theorem expectAll_eq_ok {σ ε : Type} {r : σ × Option ε} {s : σ} :
    expectAll r = .ok s ↔ r = (s, none) := by
  obtain ⟨t, e⟩ := r
  cases e <;> simp [expectAll]

theorem expectAll_eq_error {σ ε : Type} {r : σ × Option ε} {e : ε} :
    expectAll r = .error e ↔ r.2 = some e := by
  obtain ⟨t, e'⟩ := r
  cases e' <;> simp [expectAll]

/-! ## Batches of attempts -/

/-- Takes steps from a state up to the first that fails: the state reached,
and the error. -/
def runBatch {σ α ε : Type} (step : σ → α → Except ε σ) (s : σ) : List α → σ × Option ε
  | [] => (s, none)
  | a :: as =>
    match step s a with
    | .ok s => runBatch step s as
    | .error e => (s, some e)

theorem runBatch_of_ok {σ α ε : Type} {step : σ → α → Except ε σ} {s t : σ} {a : α}
    (h : step s a = .ok t) (as : List α) : runBatch step s (a :: as) = runBatch step t as := by
  simp [runBatch, h]

theorem runBatch_of_error {σ α ε : Type} {step : σ → α → Except ε σ} {s : σ} {a : α} {e : ε}
    (h : step s a = .error e) (as : List α) : runBatch step s (a :: as) = (s, some e) := by
  simp [runBatch, h]

/-- What every step keeps, a batch keeps, wherever it stops. -/
theorem runBatch_induct {σ α ε : Type} {step : σ → α → Except ε σ} {P : σ → Prop}
    (hs : ∀ {s t : σ} {a : α}, P s → step s a = .ok t → P t) {s : σ} (h : P s) (as : List α) :
    P (runBatch step s as).1 := by
  induction as generalizing s with
  | nil => exact h
  | cons a as ih =>
      cases ha : step s a with
      | error e => rwa [runBatch_of_error ha]
      | ok t =>
          rw [runBatch_of_ok ha]
          exact ih (hs h ha)

/-- A batch whose steps attempt what does not hang on the state makes its
attempts up to the first error. -/
theorem runBatch_eq_attempts {σ α β ε : Type} {step : σ → α → Except ε σ}
    {attempt : α → Except ε β} {act : σ → β → σ} (Good : σ → Prop)
    (hs : ∀ s a, Good s → step s a = (attempt a).map (act s))
    (hg : ∀ s b, Good s → Good (act s b)) {s : σ} (h : Good s) (as : List α) :
    runBatch step s as =
      ((successes (as.map attempt)).foldl act s, firstError (as.map attempt)) := by
  induction as generalizing s with
  | nil => rfl
  | cons a as ih =>
      cases ha : attempt a with
      | error e =>
          rw [runBatch_of_error (by rw [hs s a h, ha]; rfl), List.map_cons, ha]
          rfl
      | ok b =>
          rw [runBatch_of_ok (by rw [hs s a h, ha]; rfl), ih (hg s b h), List.map_cons, ha]
          rfl

theorem foldlM_eq_expectAll {σ α ε : Type} (step : σ → α → Except ε σ) (s : σ) (as : List α) :
    as.foldlM step s = expectAll (runBatch step s as) := by
  induction as generalizing s with
  | nil => rfl
  | cons a as ih =>
      cases ha : step s a with
      | error e =>
          rw [List.foldlM_cons, ha, runBatch_of_error ha]
          rfl
      | ok t =>
          rw [List.foldlM_cons, ha, runBatch_of_ok ha]
          exact ih t

theorem successes_map_ok {α β ε : Type} (f : α → β) (as : List α) :
    successes (as.map fun a => (.ok (f a) : Except ε β)) = as.map f := by
  induction as with
  | nil => rfl
  | cons a as ih => exact congrArg (f a :: ·) ih

theorem firstError_map_ok {α β ε : Type} (f : α → β) (as : List α) :
    firstError (as.map fun a => (.ok (f a) : Except ε β)) = none := by
  induction as with
  | nil => rfl
  | cons a as ih => exact ih

theorem firstError_append {β ε : Type} (rs ts : List (Except ε β)) :
    firstError (rs ++ ts) = (firstError rs).or (firstError ts) := by
  induction rs with
  | nil => rfl
  | cons r rs ih =>
      cases r with
      | error e => rfl
      | ok b => exact ih

/-- The first error only hangs on which attempts fail with which errors. -/
theorem firstError_map_congr {α β γ ε : Type} {f : α → Except ε β} {g : α → Except ε γ}
    (h : ∀ a e, f a = .error e ↔ g a = .error e) (as : List α) :
    firstError (as.map f) = firstError (as.map g) := by
  induction as with
  | nil => rfl
  | cons a as ih =>
      rw [List.map_cons, List.map_cons]
      cases hg : g a with
      | error e => rw [(h a e).mpr hg, firstError, firstError]
      | ok c =>
          cases hf : f a with
          | error e => cases hg.symm.trans ((h a e).mp hf)
          | ok b => exact ih

theorem mem_successes {β ε : Type} {rs : List (Except ε β)} {b : β} (h : b ∈ successes rs) :
    .ok b ∈ rs := by
  induction rs with
  | nil => cases h
  | cons r rs ih =>
      cases r with
      | error e => cases h
      | ok c =>
          rcases List.mem_cons.mp h with rfl | h
          · exact List.mem_cons_self ..
          · exact List.mem_cons_of_mem _ (ih h)

theorem firstError_eq_none {β ε : Type} {rs : List (Except ε β)} :
    firstError rs = none ↔ ∀ r ∈ rs, ∃ b, r = .ok b := by
  induction rs with
  | nil => exact iff_of_true rfl nofun
  | cons r rs ih =>
      cases r with
      | error e => simp [firstError]
      | ok b => simp [firstError, ih]

/-- Attempts that all succeed come to all that they come to. -/
theorem mem_successes_iff {β ε : Type} {rs : List (Except ε β)} (h : firstError rs = none)
    {b : β} : b ∈ successes rs ↔ .ok b ∈ rs := by
  induction rs with
  | nil => exact iff_of_false nofun nofun
  | cons r rs ih =>
      cases r with
      | error e => cases h
      | ok c => rw [successes, List.mem_cons, List.mem_cons, ih h, Except.ok.injEq]

end RecordRules
