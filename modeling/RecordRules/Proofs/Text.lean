import Mathlib.Data.List.DropRight
import RecordRules.Text

/-!
# Cutting what was joined

Joining loses nothing as long as no piece holds the separator: the text is cut
into the pieces it was joined from (`splitOn_join`, `splitAtMost_append`).
Trimming loses nothing of a text without white space at its ends
(`trim_eq_self_iff`); what is joined from such texts is one again
(`Tight.join`).
-/

namespace RecordRules.Text

/-! ## Cutting -/

theorem splitOn_append {sep : Char} {piece : List Char} (h : sep ∉ piece) (rest : List Char) :
    splitOn sep (piece ++ sep :: rest) = piece :: splitOn sep rest := by
  induction piece with
  | nil => rw [List.nil_append, splitOn, if_pos rfl]
  | cons c cs ih =>
      obtain ⟨hc, hcs⟩ := List.ne_and_not_mem_of_not_mem_cons h
      rw [List.cons_append, splitOn, if_neg (Ne.symm hc), ih hcs]

/-- A joined text is cut into the pieces that it was joined from. -/
theorem splitOn_join {sep : Char} {pieces : List (List Char)} (hne : pieces ≠ [])
    (h : ∀ piece ∈ pieces, sep ∉ piece) : splitOn sep (join [sep] pieces) = pieces := by
  induction pieces with
  | nil => exact absurd rfl hne
  | cons piece pieces ih =>
      obtain ⟨hpiece, hpieces⟩ := List.forall_mem_cons.mp h
      cases pieces with
      | nil => exact splitOn_of_notMem hpiece
      | cons next pieces =>
          have hnext : next :: pieces ≠ [] := List.cons_ne_nil next pieces
          rw [join_cons_cons _ _ hnext, List.append_assoc, List.singleton_append,
            splitOn_append hpiece, ih hnext hpieces]

theorem splitAtMost_of_notMem {sep : Char} {cs : List Char} (h : sep ∉ cs) (n : Nat) :
    splitAtMost sep (n + 1) cs = [cs] := by
  cases n with
  | zero => rfl
  | succ n =>
      have hdrop : cs.dropWhile (· != sep) = [] := by
        rw [List.dropWhile_eq_nil_iff]
        intro c hc
        exact bne_iff_ne.mpr fun he => h (he ▸ hc)
      rw [splitAtMost, hdrop]

/-- A piece without the separator is cut off the rest. -/
theorem splitAtMost_append {sep : Char} {piece : List Char} (h : sep ∉ piece) (n : Nat)
    (rest : List Char) :
    splitAtMost sep (n + 2) (piece ++ sep :: rest) = piece :: splitAtMost sep (n + 1) rest := by
  have hall : ∀ c ∈ piece, (c != sep) = true := fun c hc => bne_iff_ne.mpr fun he => h (he ▸ hc)
  have hdrop : (piece ++ sep :: rest).dropWhile (· != sep) = sep :: rest := by
    rw [List.dropWhile_append_of_pos hall, List.dropWhile_cons_of_neg (by simp)]
  have htake : (piece ++ sep :: rest).takeWhile (· != sep) = piece := by
    rw [List.takeWhile_append_of_pos hall, List.takeWhile_cons_of_neg (by simp), List.append_nil]
  rw [splitAtMost, hdrop, htake]

/-- Joined text is cut into the pieces that it was joined from; the last of as
many pieces as are cut off at most may hold the separator. -/
theorem splitAtMost_join {sep : Char} {n : Nat} {pieces : List (List Char)} (hne : pieces ≠ [])
    (hlen : pieces.length ≤ n + 1) (h : ∀ piece ∈ pieces.take n, sep ∉ piece) :
    splitAtMost sep (n + 1) (join [sep] pieces) = pieces := by
  induction n generalizing pieces with
  | zero =>
      obtain ⟨piece, rfl⟩ : ∃ piece, pieces = [piece] :=
        List.length_eq_one_iff.mp (le_antisymm hlen (List.length_pos_iff.mpr hne))
      rfl
  | succ n ih =>
      cases pieces with
      | nil => exact absurd rfl hne
      | cons piece pieces =>
          obtain ⟨hpiece, hpieces⟩ := List.forall_mem_cons.mp h
          cases pieces with
          | nil => exact splitAtMost_of_notMem hpiece (n + 1)
          | cons next pieces =>
              have hnext : next :: pieces ≠ [] := List.cons_ne_nil next pieces
              rw [join_cons_cons _ _ hnext, List.append_assoc, List.singleton_append,
                splitAtMost_append hpiece, ih hnext (Nat.le_of_succ_le_succ hlen) hpieces]

/-- Only the last of as many pieces as are cut off at most may hold the
separator. -/
theorem notMem_of_mem_splitAtMost {sep : Char} {n : Nat} {cs piece : List Char}
    (h : piece ∈ (splitAtMost sep (n + 1) cs).take n) : sep ∉ piece := by
  induction n generalizing cs with
  | zero => cases h
  | succ n ih =>
      rw [splitAtMost] at h
      split at h
      next hdrop =>
        have hpiece : piece = cs := by simpa using List.mem_of_mem_take h
        intro hsep
        have hnone := List.dropWhile_eq_nil_iff.mp hdrop sep (hpiece ▸ hsep)
        simp at hnone
      next c rest hdrop =>
        rcases List.mem_cons.mp h with rfl | h
        · intro hsep
          have hne := List.mem_takeWhile_imp hsep
          simp at hne
        · exact ih h

theorem join_append (sep : List Char) {ps qs : List (List Char)} (hp : ps ≠ []) (hq : qs ≠ []) :
    join sep (ps ++ qs) = join sep ps ++ sep ++ join sep qs := by
  induction ps with
  | nil => exact absurd rfl hp
  | cons p ps ih =>
      cases ps with
      | nil => exact join_cons_cons sep p hq
      | cons next ps =>
          have hnext : next :: ps ≠ [] := List.cons_ne_nil next ps
          have happ : next :: ps ++ qs ≠ [] := List.append_ne_nil_of_left_ne_nil hnext qs
          rw [List.cons_append, join_cons_cons _ _ happ, ih hnext, join_cons_cons _ _ hnext]
          simp only [List.append_assoc]

/-- What is not in the separator is in a piece. -/
theorem mem_join {c : Char} {sep : List Char} (hsep : c ∉ sep) (pieces : List (List Char)) :
    c ∈ join sep pieces ↔ ∃ piece ∈ pieces, c ∈ piece := by
  induction pieces with
  | nil => simp [join]
  | cons piece pieces ih =>
      cases pieces with
      | nil => simp [join]
      | cons next pieces =>
          rw [join_cons_cons _ _ (List.cons_ne_nil next pieces), List.mem_append, List.mem_append,
            ih, List.exists_mem_cons_iff]
          simp [hsep]

/-- A piece holds characters of the text only. -/
theorem mem_of_mem_splitAtMost {c sep : Char} (hsep : c ≠ sep) {n : Nat} {cs piece : List Char}
    (hpiece : piece ∈ splitAtMost sep (n + 1) cs) (hc : c ∈ piece) : c ∈ cs := by
  rw [← join_splitAtMost sep n cs]
  exact (mem_join (by simpa using hsep) _).mpr ⟨piece, hpiece, hc⟩

theorem mem_of_mem_splitOn {c sep : Char} (hsep : c ≠ sep) {cs piece : List Char}
    (hpiece : piece ∈ splitOn sep cs) (hc : c ∈ piece) : c ∈ cs := by
  rw [← join_splitOn sep cs]
  exact (mem_join (by simpa using hsep) _).mpr ⟨piece, hpiece, hc⟩

theorem toList_joined {sep : String} {c : Char} (h : sep.toList = [c]) (ss : List String) :
    (joined sep ss).toList = join [c] (ss.map String.toList) := by
  rw [joined, String.toList_ofList, h]

/-! ## Trimming -/

/-- There is no white space at the ends of the text. -/
structure Tight (cs : List Char) : Prop where
  head : ∀ c ∈ cs.head?, isSpace c = false
  last : ∀ c ∈ cs.getLast?, isSpace c = false

theorem trimStart_eq_self_iff (cs : List Char) :
    trimStart cs = cs ↔ ∀ c ∈ cs.head?, isSpace c = false := by
  cases cs with
  | nil => simp
  | cons c cs => simp [trimStart, List.dropWhile_eq_self_iff]

theorem trimEnd_eq_self_iff (cs : List Char) :
    trimEnd cs = cs ↔ ∀ c ∈ cs.getLast?, isSpace c = false := by
  rw [trimEnd, ← List.head?_reverse, ← trimStart_eq_self_iff, trimStart, List.reverse_eq_iff]

/-- Trimming leaves no white space at the ends. -/
theorem tight_trim (cs : List Char) : Tight (trim cs) where
  head := by
    have hstart : ∀ c ∈ (trimStart cs).head?, isSpace c = false :=
      (trimStart_eq_self_iff _).mp (List.dropWhile_idempotent isSpace cs)
    obtain ⟨rest, hrest⟩ : trimEnd (trimStart cs) <+: trimStart cs :=
      List.rdropWhile_prefix isSpace (trimStart cs)
    intro c hc
    refine hstart c ?_
    rw [← hrest]
    exact List.mem_head?_append_of_mem_head? hc
  last := (trimEnd_eq_self_iff _).mp (List.rdropWhile_idempotent isSpace (trimStart cs))

theorem trim_subset (cs : List Char) : trim cs ⊆ cs := by
  have hend : trim cs <+: trimStart cs := List.rdropWhile_prefix isSpace (trimStart cs)
  have hstart : trimStart cs <:+ cs := List.dropWhile_suffix isSpace
  exact fun _ hc => hstart.subset (hend.subset hc)

theorem Tight.trim_eq {cs : List Char} (h : Tight cs) : trim cs = cs := by
  rw [trim, (trimStart_eq_self_iff cs).mpr h.head, (trimEnd_eq_self_iff cs).mpr h.last]

/-- The texts that trimming keeps are those without white space at the ends. -/
theorem trim_eq_self_iff (cs : List Char) : trim cs = cs ↔ Tight cs :=
  ⟨fun h => h ▸ tight_trim cs, Tight.trim_eq⟩

theorem Tight.trimmed_eq {s : String} (h : Tight s.toList) : trimmed s = s := by
  rw [trimmed, h.trim_eq, String.ofList_toList]

theorem tight_trimmed (s : String) : Tight (trimmed s).toList := by
  rw [trimmed, String.toList_ofList]
  exact tight_trim s.toList

theorem tight_singleton {c : Char} (h : isSpace c = false) : Tight [c] where
  head d hd := by
    cases hd
    exact h
  last d hd := by
    cases hd
    exact h

theorem Tight.append {as bs : List Char} (ha : Tight as) (hb : Tight bs) (hane : as ≠ [])
    (hbne : bs ≠ []) (mid : List Char) : Tight (as ++ mid ++ bs) where
  head c hc := by
    rw [List.append_assoc, List.head?_append_of_ne_nil _ hane] at hc
    exact ha.head c hc
  last c hc := by
    rw [List.getLast?_append_of_ne_nil _ hbne] at hc
    exact hb.last c hc

theorem join_ne_nil {sep : List Char} {pieces : List (List Char)} (hne : pieces ≠ [])
    (h : ∀ piece ∈ pieces, piece ≠ []) : join sep pieces ≠ [] := by
  cases pieces with
  | nil => exact absurd rfl hne
  | cons piece pieces =>
      have hpiece := h piece (List.mem_cons_self ..)
      cases pieces with
      | nil => exact hpiece
      | cons next pieces => simp [join, hpiece]

/-- What is joined from tight texts is tight. -/
theorem Tight.join {sep : List Char} {pieces : List (List Char)}
    (h : ∀ piece ∈ pieces, Tight piece) (hne : ∀ piece ∈ pieces, piece ≠ []) :
    Tight (join sep pieces) := by
  induction pieces with
  | nil => exact ⟨nofun, nofun⟩
  | cons piece pieces ih =>
      obtain ⟨hpiece, hpieces⟩ := List.forall_mem_cons.mp h
      obtain ⟨hpne, hpsne⟩ := List.forall_mem_cons.mp hne
      cases pieces with
      | nil => exact hpiece
      | cons next pieces =>
          have hnext : next :: pieces ≠ [] := List.cons_ne_nil next pieces
          rw [join_cons_cons _ _ hnext]
          exact hpiece.append (ih hpieces hpsne) hpne (join_ne_nil hnext hpsne) sep

end RecordRules.Text
