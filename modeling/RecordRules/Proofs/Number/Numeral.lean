import Mathlib.Data.List.DropRight
import RecordRules.Json.Basic

/-!
# The characters of a numeral

The text of a number is never empty, and it consists of digits, a point, an
exponent mark and signs (`Number.render_numeral`). So it holds neither white
space nor a character that separates the parts of a rule.
-/

namespace RecordRules

/-- The characters that numerals are written with. -/
def isNumeralChar (c : Char) : Bool := c.isDigit || ['.', 'e', '+', '-'].contains c

/-- A numeral as it is written. -/
structure IsNumeral (cs : List Char) : Prop where
  ne_nil : cs ≠ []
  chars : ∀ c ∈ cs, isNumeralChar c = true

theorem isNumeralChar_of_isDigit {c : Char} (h : c.isDigit = true) : isNumeralChar c = true := by
  rw [isNumeralChar, h, Bool.true_or]

theorem isNumeralChar_zero : isNumeralChar '0' = true := by decide

namespace IsNumeral

theorem digitsOf (n : Nat) : IsNumeral (Decimal.digitsOf n) where
  ne_nil := Nat.toDigits_ne_nil
  chars _ hc := isNumeralChar_of_isDigit (Nat.isDigit_of_mem_toDigits (by decide) (by decide) hc)

theorem sign {cs : List Char} (h : IsNumeral cs) : IsNumeral ('-' :: cs) where
  ne_nil := List.cons_ne_nil _ _
  chars := List.forall_mem_cons.mpr ⟨by decide, h.chars⟩

end IsNumeral

namespace Binary64

theorem stripZeros_subset (ds : List Char) : stripZeros ds ⊆ ds :=
  (List.rdropWhile_prefix (· == '0') ds).subset

theorem shortest_chars (x : Binary64) : ∀ c ∈ x.shortest.1, isNumeralChar c = true := by
  intro c hc
  rw [shortest] at hc
  split at hc
  · rw [List.mem_singleton.mp hc]
    exact isNumeralChar_zero
  · exact (IsNumeral.digitsOf x.numeral.1).chars c (stripZeros_subset _ hc)

theorem positional_numeral {ds : List Char} (h : ∀ c ∈ ds, isNumeralChar c = true) (lead : Int) :
    IsNumeral (positional ds lead) := by
  have hzeros : ∀ n, ∀ c ∈ List.replicate n '0', isNumeralChar c = true := by
    intro n c hc
    rw [List.eq_of_mem_replicate hc]
    exact isNumeralChar_zero
  unfold positional
  split
  · refine ⟨List.cons_ne_nil _ _, ?_⟩
    refine List.forall_mem_cons.mpr ⟨by decide, List.forall_mem_cons.mpr ⟨by decide, ?_⟩⟩
    exact List.forall_mem_append.mpr ⟨hzeros _, h⟩
  · refine ⟨List.append_ne_nil_of_right_ne_nil _ (List.cons_ne_nil _ _), ?_⟩
    refine List.forall_mem_append.mpr ⟨?_, List.forall_mem_cons.mpr ⟨by decide, ?_⟩⟩
    · exact List.forall_mem_append.mpr ⟨fun c hc => h c (List.mem_of_mem_take hc), hzeros _⟩
    · split
      · exact hzeros 1
      · exact fun c hc => h c (List.mem_of_mem_drop hc)

theorem scientific_numeral {ds : List Char} (h : ∀ c ∈ ds, isNumeralChar c = true) (lead : Int) :
    IsNumeral (scientific ds lead) := by
  refine ⟨List.append_ne_nil_of_right_ne_nil _ (List.cons_ne_nil _ _), ?_⟩
  refine List.forall_mem_append.mpr ⟨?_, List.forall_mem_cons.mpr ⟨by decide,
    List.forall_mem_cons.mpr ⟨?_, (IsNumeral.digitsOf _).chars⟩⟩⟩
  · match ds with
    | [] => exact fun c hc => h c hc
    | [d] => exact fun c hc => h c hc
    | d :: e :: rest =>
        obtain ⟨hd, hrest⟩ := List.forall_mem_cons.mp h
        exact List.forall_mem_cons.mpr ⟨hd, List.forall_mem_cons.mpr ⟨by decide, hrest⟩⟩
  · split <;> decide

theorem render_numeral (x : Binary64) : IsNumeral x.render.toList := by
  have hbody : IsNumeral (if -5 ≤ x.shortest.2 ∧ x.shortest.2 ≤ 15 then
      positional x.shortest.1 x.shortest.2 else scientific x.shortest.1 x.shortest.2) := by
    split
    · exact positional_numeral x.shortest_chars _
    · exact scientific_numeral x.shortest_chars _
  rw [render, String.toList_ofList]
  split
  · exact hbody.sign
  · exact hbody

end Binary64

theorem int_numeral (n : Int) : IsNumeral (toString n).toList := by
  have hnat : ∀ m : Nat, IsNumeral m.repr.toList := by
    intro m
    rw [Nat.repr_eq_ofList_toDigits, String.toList_ofList]
    exact IsNumeral.digitsOf m
  cases n with
  | ofNat m => exact hnat m
  | negSucc m =>
      rw [show toString (Int.negSucc m) = "-" ++ (m + 1).repr from rfl, String.toList_append]
      exact (hnat (m + 1)).sign

/-- The text of a number is a numeral. -/
theorem Number.render_numeral (n : Number) : IsNumeral n.render.toList := by
  cases n with
  | int n => exact int_numeral n.val
  | float x => exact x.render_numeral

end RecordRules
