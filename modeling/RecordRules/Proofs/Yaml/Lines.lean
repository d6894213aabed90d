import RecordRules.Proofs.Number.Numeral
import RecordRules.Proofs.Text
import RecordRules.Yaml.Printer

/-!
# The lines of a written value

What is written is one line after the other, and no line holds the mark between
lines (`isLine_of_mem_lines`): a text that is written plain has no control
character, and one between quotes has them escaped. So the text that is written
is cut into just these lines, and an empty rest behind them (`splitOn_write`).
-/

namespace RecordRules.Yaml

/-- The text is within one line. -/
def IsLine (s : String) : Prop := '\n' ∉ s.toList

instance (s : String) : Decidable (IsLine s) := inferInstanceAs (Decidable (¬_))

namespace IsLine

variable {s t : String}

theorem append (hs : IsLine s) (ht : IsLine t) : IsLine (s ++ t) := by
  rw [IsLine, String.toList_append]
  exact List.not_mem_append hs ht

/-- A text without control characters. -/
theorem of_noControl (h : s.toList.any isControl = false) : IsLine s := by
  intro hm
  have hcontrol : isControl '\n' = true := by decide
  rw [List.any_eq_false] at h
  exact h '\n' hm hcontrol

/-- A text with the characters of numerals. -/
theorem of_numeralChars {cs : List Char} (h : ∀ c ∈ cs, isNumeralChar c = true) :
    IsLine (String.ofList cs) := by
  rw [IsLine, String.toList_ofList]
  intro hm
  have hnumeral : isNumeralChar '\n' = false := by decide
  cases hnumeral.symm.trans (h '\n' hm)

end IsLine

/-! ## Scalars -/

theorem newline_notMem_escaped (c : Char) : '\n' ∉ escaped c := by
  have hdigit : ∀ n < 16, '\n' ≠ (Nat.digitChar n).toUpper := by decide
  unfold escaped
  iterate 6
    split
    next => decide
  split
  next hcontrol =>
    have hlt : c.toNat < 256 := by
      simp only [isControl, Bool.or_eq_true, Bool.and_eq_true, decide_eq_true_eq] at hcontrol
      omega
    simp only [List.mem_cons, List.not_mem_nil, or_false, not_or]
    exact ⟨by decide, by decide, hdigit _ (by omega), hdigit _ (by omega)⟩
  next => exact fun hm => ‹¬c = '\n'› (List.mem_singleton.mp hm).symm

theorem isLine_doubleQuoted (s : String) : IsLine (doubleQuoted s) := by
  rw [IsLine, doubleQuoted, String.toList_ofList]
  simp only [List.cons_append, List.mem_cons, List.mem_append, List.mem_flatMap, List.not_mem_nil,
    or_false, not_or, not_exists, not_and]
  exact ⟨by decide, fun c _ => newline_notMem_escaped c, by decide⟩

theorem isLine_of_isPlain {s : String} (h : isPlain s = true) : IsLine s := by
  refine .of_noControl ?_
  simp only [isPlain, Bool.not_eq_true', Bool.or_eq_false_iff] at h
  exact h.1.2

theorem isLine_writeText (s : String) : IsLine (writeText s) := by
  rw [writeText]
  split
  next hmark =>
    have hs : IsLine s := by
      simp only [List.contains_eq_mem, List.mem_cons, List.not_mem_nil, or_false,
        decide_eq_true_eq] at hmark
      rcases hmark with rfl | rfl | rfl <;> decide
    have hquote : IsLine "'" := by decide
    exact (hquote.append hs).append hquote
  next =>
    split
    next hplain =>
      simp only [isPlainValue, Bool.and_eq_true] at hplain
      exact isLine_of_isPlain hplain.1.1
    next => exact isLine_doubleQuoted s

theorem isLine_writeKey (s : String) : IsLine (writeKey s) := by
  rw [writeKey]
  split
  next hplain =>
    simp only [isPlainKey, Bool.and_eq_true] at hplain
    exact isLine_of_isPlain hplain.1
  next => exact isLine_doubleQuoted s

theorem isLine_writeFloat (x : Binary64) : IsLine (writeFloat x) := by
  have hx := x.render_numeral.chars
  have hmantissa : ∀ c ∈ x.render.toList.takeWhile (· != 'e'), isNumeralChar c = true :=
    fun c hc => hx c ((List.takeWhile_prefix _).subset hc)
  have hexponent : ∀ c ∈ x.render.toList.dropWhile (· != 'e'), isNumeralChar c = true :=
    fun c hc => hx c ((List.dropWhile_suffix _).subset hc)
  rw [writeFloat]
  refine .of_numeralChars ?_
  split
  next => exact hx
  next =>
    have hpoint : ∀ c ∈ ['.', '0'], isNumeralChar c = true :=
      List.all_eq_true.mp (by decide : ['.', '0'].all isNumeralChar = true)
    exact List.forall_mem_append.mpr ⟨List.forall_mem_append.mpr ⟨hmantissa, hpoint⟩, hexponent⟩

/-! ## Lists and maps -/

theorem isLine_of_mem_hang {lead : String} {body : List String} (hlead : IsLine lead)
    (hbody : ∀ line ∈ body, IsLine line) : ∀ line ∈ hang lead body, IsLine line := by
  cases body with
  | nil => exact fun _ h => nomatch h
  | cons first rest =>
      obtain ⟨hfirst, hrest⟩ := List.forall_mem_cons.mp hbody
      have hmargin : IsLine (String.ofList (List.replicate lead.length ' ')) := by
        rw [IsLine, String.toList_ofList]
        intro hm
        cases List.eq_of_mem_replicate hm
      refine List.forall_mem_cons.mpr ⟨hlead.append hfirst, fun line hline => ?_⟩
      obtain ⟨l, hl, rfl⟩ := List.mem_map.mp hline
      exact hmargin.append (hrest l hl)

mutual

/-- No line holds the mark between lines. -/
theorem isLine_of_mem_lines : (v : Json) → ∀ line ∈ lines v, IsLine line
  | .null => by
      rw [lines]
      exact List.forall_mem_singleton.mpr (by decide)
  | .bool b => by
      rw [lines]
      refine List.forall_mem_singleton.mpr ?_
      cases b <;> decide
  | .num (.int n) => by
      rw [lines]
      have hline := IsLine.of_numeralChars (int_numeral n.val).chars
      rw [String.ofList_toList] at hline
      exact List.forall_mem_singleton.mpr hline
  | .num (.float x) => by
      rw [lines]
      exact List.forall_mem_singleton.mpr (isLine_writeFloat x)
  | .str s => by
      rw [lines]
      exact List.forall_mem_singleton.mpr (isLine_writeText s)
  | .arr [] => by
      rw [lines]
      exact List.forall_mem_singleton.mpr (by decide)
  | .obj [] => by
      rw [lines]
      exact List.forall_mem_singleton.mpr (by decide)
  | .arr (item :: items) => by
      rw [lines]
      exact isLine_of_mem_itemLines (item :: items)
  | .obj (entry :: entries) => by
      rw [lines]
      exact isLine_of_mem_entryLines (entry :: entries)

theorem isLine_of_mem_itemLines : (items : List Json) → ∀ line ∈ itemLines items, IsLine line
  | [] => by
      rw [itemLines]
      exact fun _ h => nomatch h
  | item :: items => by
      have hlead : IsLine "- " := by decide
      rw [itemLines]
      exact List.forall_mem_append.mpr ⟨isLine_of_mem_hang hlead (isLine_of_mem_lines item),
        isLine_of_mem_itemLines items⟩

theorem isLine_of_mem_entryLines : (entries : List (String × Json)) →
    ∀ line ∈ entryLines entries, IsLine line
  | [] => by
      rw [entryLines]
      exact fun _ h => nomatch h
  | (key, value) :: entries => by
      have hcolon : IsLine ":" := by decide
      have hlead : IsLine ": " := by decide
      have hmargin : IsLine "  " := by decide
      have hkey := isLine_writeKey key
      have hvalue := isLine_of_mem_lines value
      have hbelow : ∀ line ∈ (writeKey key ++ ":") :: (lines value).map ("  " ++ ·),
          IsLine line := by
        refine List.forall_mem_cons.mpr ⟨hkey.append hcolon, fun line hline => ?_⟩
        obtain ⟨l, hl, rfl⟩ := List.mem_map.mp hline
        exact hmargin.append (hvalue l hl)
      unfold entryLines
      refine List.forall_mem_append.mpr ⟨?_, isLine_of_mem_entryLines entries⟩
      split
      next => exact hbelow
      next => exact hbelow
      next => exact isLine_of_mem_hang (hkey.append hlead) hvalue

end

/-! ## How lines begin -/

theorem start_of_mem_hang {lead : String} (hlead : lead ≠ "") {body : List String} {line : String}
    (h : line ∈ hang lead body) : lead.toList <+: line.toList ∨ line.toList.head? = some ' ' := by
  cases body with
  | nil => cases h
  | cons first rest =>
      rcases List.mem_cons.mp h with rfl | h
      · rw [String.toList_append]
        exact .inl (List.prefix_append _ _)
      · obtain ⟨l, -, rfl⟩ := List.mem_map.mp h
        have hlength : lead.length ≠ 0 := by simpa using hlead
        obtain ⟨n, hn⟩ := Nat.exists_eq_succ_of_ne_zero hlength
        rw [hn, String.toList_append, String.toList_ofList]
        exact .inr rfl

/-- A line of a map has the colon behind a key, or begins with a space. -/
theorem start_of_mem_entryLines {entries : List (String × Json)} {line : String}
    (h : line ∈ entryLines entries) : ':' ∈ line.toList ∨ line.toList.head? = some ' ' := by
  induction entries with
  | nil => cases h
  | cons e entries ih =>
      obtain ⟨key, value⟩ := e
      have hbelow : line ∈ (writeKey key ++ ":") :: (lines value).map ("  " ++ ·) →
          ':' ∈ line.toList ∨ line.toList.head? = some ' ' := by
        intro hline
        rcases List.mem_cons.mp hline with rfl | hline
        · exact .inl (by simp)
        · obtain ⟨l, -, rfl⟩ := List.mem_map.mp hline
          rw [String.toList_append]
          exact .inr rfl
      have hbeside : line ∈ hang (writeKey key ++ ": ") (lines value) →
          ':' ∈ line.toList ∨ line.toList.head? = some ' ' := by
        intro hline
        exact (start_of_mem_hang (by simp) hline).imp_left fun hlead => hlead.subset (by simp)
      unfold entryLines at h
      rcases List.mem_append.mp h with h | h
      · split at h
        next => exact hbelow h
        next => exact hbelow h
        next => exact hbeside h
      · exact ih h

/-- Only lists and maps that hold something are written on several lines. -/
theorem exists_lines_eq_singleton {v : Json} (harr : ∀ item items, v ≠ .arr (item :: items))
    (hobj : ∀ entry entries, v ≠ .obj (entry :: entries)) : ∃ line, lines v = [line] := by
  cases v with
  | null | bool b | str s => exact ⟨_, by rw [lines]⟩
  | num n => cases n <;> exact ⟨_, by rw [lines]⟩
  | arr items =>
      cases items with
      | nil => exact ⟨_, by rw [lines]⟩
      | cons item items => exact absurd rfl (harr item items)
  | obj entries =>
      cases entries with
      | nil => exact ⟨_, by rw [lines]⟩
      | cons entry entries => exact absurd rfl (hobj entry entries)

/-- A map with an entry has a line with the colon behind its key. -/
theorem exists_colon_mem_entryLines (key : String) (value : Json)
    (entries : List (String × Json)) :
    ∃ line ∈ entryLines ((key, value) :: entries), ':' ∈ line.toList := by
  unfold entryLines
  split
  next => exact ⟨_, List.mem_append_left _ (List.mem_cons_self ..), by simp⟩
  next => exact ⟨_, List.mem_append_left _ (List.mem_cons_self ..), by simp⟩
  next harr hobj =>
    obtain ⟨line, hline⟩ := exists_lines_eq_singleton harr hobj
    rw [hline]
    exact ⟨_, List.mem_append_left _ (List.mem_cons_self ..), by simp⟩

/-! ## Texts -/

theorem toList_write (v : Json) :
    (write v).toList = (lines v).flatMap fun line => line.toList ++ ['\n'] := by
  rw [write, String.toList_join, List.flatMap_map]
  refine List.flatMap_congr fun line _ => ?_
  rw [String.toList_append]
  rfl

/-- A written value is cut into its lines. -/
theorem splitOn_write (v : Json) :
    Text.splitOn '\n' (write v).toList = (lines v).map String.toList ++ [[]] := by
  have hlines := isLine_of_mem_lines v
  rw [toList_write]
  generalize lines v = ls at hlines
  induction ls with
  | nil => rfl
  | cons line ls ih =>
      obtain ⟨hline, hrest⟩ := List.forall_mem_cons.mp hlines
      rw [List.flatMap_cons, List.append_assoc, List.singleton_append, Text.splitOn_append hline,
        ih hrest]
      rfl

end RecordRules.Yaml
