/-!
# Text

What the rules need of text beyond the standard library, stated on lists
of characters so that every function is a recursion on the data:

- `isSpace`, the Unicode white space characters, and `trim`, which takes
  them off both ends;
- `splitOn` and `splitAtMost`, which cut at a separator: the pieces joined
  again with the separator are the text that was cut (`join_splitOn`,
  `join_splitAtMost`);
- `occursIn`, the substring test, which is the infix relation
  (`occursIn_iff`).

The `String` forms at the end only wrap these.
-/

namespace RecordRules.Text

/-! ## White space -/

/-- The characters with the Unicode property `White_Space`. -/
def isSpace (c : Char) : Bool :=
  let n := c.toNat
  (0x09 ≤ n && n ≤ 0x0D) || n == 0x20 || n == 0x85 || n == 0xA0 || n == 0x1680
    || (0x2000 ≤ n && n ≤ 0x200A) || n == 0x2028 || n == 0x2029 || n == 0x202F
    || n == 0x205F || n == 0x3000

/-- The text without the white space it begins with. -/
def trimStart (cs : List Char) : List Char := cs.dropWhile isSpace

/-- The text without the white space it ends with. -/
def trimEnd (cs : List Char) : List Char := (cs.reverse.dropWhile isSpace).reverse

/-- The text without white space at either end. -/
def trim (cs : List Char) : List Char := trimEnd (trimStart cs)

@[simp] theorem trimStart_nil : trimStart [] = [] := rfl

@[simp] theorem trimEnd_nil : trimEnd [] = [] := rfl

@[simp] theorem trim_nil : trim [] = [] := rfl

/-! ## Cutting at a separator -/

/-- The pieces between the occurrences of `sep`, of which there is always
at least one. -/
def splitOn (sep : Char) : List Char → List (List Char)
  | [] => [[]]
  | c :: cs =>
    if c = sep then [] :: splitOn sep cs
    else
      match splitOn sep cs with
      | [] => [[c]]
      | piece :: pieces => (c :: piece) :: pieces

/-- Like `splitOn`, but at most `n` pieces: the last one keeps the
separators that are left. -/
def splitAtMost (sep : Char) : Nat → List Char → List (List Char)
  | 0, _ => []
  | 1, cs => [cs]
  | n + 2, cs =>
    match cs.dropWhile (· != sep) with
    | [] => [cs]
    | _ :: rest => cs.takeWhile (· != sep) :: splitAtMost sep (n + 1) rest

/-- The pieces with `sep` between them. -/
def join (sep : List Char) : List (List Char) → List Char
  | [] => []
  | [piece] => piece
  | piece :: pieces => piece ++ sep ++ join sep pieces

theorem splitOn_ne_nil (sep : Char) (cs : List Char) : splitOn sep cs ≠ [] := by
  cases cs with
  | nil => simp [splitOn]
  | cons c cs =>
    unfold splitOn
    split
    · simp
    · split <;> simp

theorem join_cons_cons (sep piece : List Char) {pieces : List (List Char)} (h : pieces ≠ []) :
    join sep (piece :: pieces) = piece ++ sep ++ join sep pieces := by
  cases pieces with
  | nil => exact absurd rfl h
  | cons _ _ => rfl

theorem join_head_cons (sep : List Char) (c : Char) (piece : List Char) (pieces : List (List Char)) :
    join sep ((c :: piece) :: pieces) = c :: join sep (piece :: pieces) := by
  cases pieces <;> rfl

/-- Cutting loses nothing. -/
theorem join_splitOn (sep : Char) (cs : List Char) : join [sep] (splitOn sep cs) = cs := by
  induction cs with
  | nil => rfl
  | cons c cs ih =>
    unfold splitOn
    split
    next h =>
      rw [join_cons_cons _ _ (splitOn_ne_nil sep cs), ih]
      simp [h]
    next h =>
      split
      next hn => exact absurd hn (splitOn_ne_nil sep cs)
      next piece pieces hp => rw [join_head_cons, ← hp, ih]

theorem splitOn_of_notMem {sep : Char} {cs : List Char} (h : sep ∉ cs) :
    splitOn sep cs = [cs] := by
  induction cs with
  | nil => rfl
  | cons c cs ih =>
      obtain ⟨hc, hcs⟩ := List.ne_and_not_mem_of_not_mem_cons h
      rw [splitOn, if_neg (Ne.symm hc), ih hcs]

/-- No piece holds the separator. -/
theorem notMem_of_mem_splitOn {sep : Char} {cs piece : List Char} (h : piece ∈ splitOn sep cs) :
    sep ∉ piece := by
  induction cs generalizing piece with
  | nil =>
      rw [List.mem_singleton.mp h]
      exact List.not_mem_nil
  | cons c cs ih =>
      rw [splitOn] at h
      split at h
      · rcases List.mem_cons.mp h with rfl | h
        · exact List.not_mem_nil
        · exact ih h
      · next hc =>
        split at h
        next hp => exact absurd hp (splitOn_ne_nil sep cs)
        next first pieces hp =>
          rcases List.mem_cons.mp h with rfl | h
          · have hfirst := ih (hp ▸ List.mem_cons_self ..)
            exact List.not_mem_cons_of_ne_of_not_mem (Ne.symm hc) hfirst
          · exact ih (hp ▸ List.mem_cons_of_mem _ h)

theorem splitAtMost_ne_nil (sep : Char) (n : Nat) (cs : List Char) :
    splitAtMost sep (n + 1) cs ≠ [] := by
  cases n with
  | zero => simp [splitAtMost]
  | succ n =>
    unfold splitAtMost
    split <;> simp

/-- Cutting into at most so many pieces loses nothing either. -/
theorem join_splitAtMost (sep : Char) (n : Nat) (cs : List Char) :
    join [sep] (splitAtMost sep (n + 1) cs) = cs := by
  induction n generalizing cs with
  | zero => rfl
  | succ n ih =>
    unfold splitAtMost
    split
    next => rfl
    next c rest h =>
      rw [join_cons_cons _ _ (splitAtMost_ne_nil sep n rest), ih]
      have hc : c = sep := by
        have := List.head?_dropWhile_not (· != sep) cs
        rw [h] at this
        simpa using this
      have hs := List.takeWhile_append_dropWhile (p := (· != sep)) (l := cs)
      rw [h, hc] at hs
      simpa using hs

/-! ## Searching -/

/-- The needle is found somewhere in the text. -/
def occursIn (needle : List Char) : List Char → Bool
  | [] => needle.isEmpty
  | c :: cs => needle.isPrefixOf (c :: cs) || occursIn needle cs

theorem occursIn_iff (needle hay : List Char) : occursIn needle hay = true ↔ needle <:+: hay := by
  induction hay with
  | nil => simp [occursIn]
  | cons c cs ih =>
    rw [occursIn, Bool.or_eq_true, ih, List.isPrefixOf_iff_prefix, List.infix_cons_iff]

/-! ## The same on strings -/

/-- The string without white space at either end. -/
def trimmed (s : String) : String := String.ofList (trim s.toList)

/-- The strings between the occurrences of `sep`. -/
def pieces (sep : Char) (s : String) : List String := (splitOn sep s.toList).map String.ofList

/-- The strings in order, with `sep` between them. -/
def joined (sep : String) (ss : List String) : String :=
  String.ofList (join sep.toList (ss.map String.toList))

/-- The string `needle` is found somewhere in `hay`. -/
def contains (hay needle : String) : Bool := occursIn needle.toList hay.toList

def lowercaseAscii (s : String) : String := String.ofList (s.toList.map Char.toLower)

end RecordRules.Text
