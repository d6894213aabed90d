import RecordRules.Net.Ipv4
import RecordRules.Proofs.Number.ReadBack

/-!
# Addresses and their texts

Octets are written with dots between them (`dotted`), and an address is written
as its four octets (`Ipv4.render`). An octet is read back from what it is written
as, since that has no zero in front and at most three digits
(`Ipv4.readOctet?_append`); so an address is read back as well
(`Ipv4.read?_render`).
-/

namespace RecordRules

/-! ## Octets in text -/

theorem Decimal.head?_digitsOf {n : Nat} (h : 0 < n) : (digitsOf n).head? ≠ some '0' := by
  have hsingle : ∀ d < 10, 0 < d → [Nat.digitChar d].head? ≠ some '0' := by decide
  induction n using Nat.strongRecOn with
  | ind n ih =>
      rw [digitsOf]
      rcases Nat.lt_or_ge n 10 with hlt | hge
      · rw [Nat.toDigits_of_lt_base hlt]
        exact hsingle n hlt h
      · rw [Nat.toDigits_of_base_le (by decide) hge,
          List.head?_append_of_ne_nil _ Nat.toDigits_ne_nil]
        exact ih (n / 10) (by omega) (by omega)

/-- Octets as they are written, with dots between them. -/
def dotted (octets : List (BitVec 8)) : String :=
  Text.joined "." (octets.map fun o => toString o.toNat)

theorem toList_dotted (os : List (BitVec 8)) :
    (dotted os).toList = Text.join ['.'] (os.map fun o => Decimal.digitsOf o.toNat) := by
  rw [dotted, Text.toList_joined rfl, List.map_map]
  exact congrArg (Text.join ['.']) (List.map_congr_left fun o _ => Nat.toList_repr)

/-- Dotted octets consist of digits and points. -/
theorem dotted_numeral {os : List (BitVec 8)} (hne : os ≠ []) : IsNumeral (dotted os).toList where
  ne_nil := by
    rw [toList_dotted]
    refine Text.join_ne_nil (by simpa using hne) ?_
    rintro _ hpiece
    obtain ⟨o, -, rfl⟩ := List.mem_map.mp hpiece
    exact Decimal.digitsOf_ne_nil o.toNat
  chars c hc := by
    by_cases hdot : c = '.'
    · subst hdot
      decide
    · rw [toList_dotted, Text.mem_join (by simpa using hdot)] at hc
      obtain ⟨_, hpiece, hc⟩ := hc
      obtain ⟨o, -, rfl⟩ := List.mem_map.mp hpiece
      exact (IsNumeral.digitsOf o.toNat).chars c hc

/-- The last octet stands at the end. -/
theorem exists_dotted_concat (os : List (BitVec 8)) (o : BitVec 8) :
    ∃ cs, (dotted (os ++ [o])).toList = cs ++ Decimal.digitsOf o.toNat := by
  rw [toList_dotted, List.map_append]
  cases os with
  | nil => exact ⟨[], rfl⟩
  | cons first os =>
      rw [Text.join_append _ (by simp) (by simp)]
      exact ⟨_, rfl⟩

theorem IsNumeral.trim_eq {cs : List Char} (h : IsNumeral cs) : Text.trim cs = cs := by
  have hitem : IsItem (String.ofList cs) := IsNumeral.isItem (by rwa [String.toList_ofList])
  simpa using hitem.tight.trim_eq

theorem IsNumeral.ne_slash {cs : List Char} (h : IsNumeral cs) : ∀ c ∈ cs, (c != '/') = true := by
  intro c hc
  rw [bne_iff_ne]
  rintro rfl
  cases h.chars _ hc

/-! ## Octets of an address -/

namespace Ipv4

def octets (a : Ipv4) : List (BitVec 8) :=
  [a.extractLsb' 24 8, a.extractLsb' 16 8, a.extractLsb' 8 8, a.extractLsb' 0 8]

/-- An address as it is written. -/
def render (a : Ipv4) : String := dotted a.octets

theorem ofOctets_octets (a : Ipv4) :
    ofOctets (a.extractLsb' 24 8) (a.extractLsb' 16 8) (a.extractLsb' 8 8) (a.extractLsb' 0 8) =
      a := by
  rw [ofOctets, BitVec.extractLsb'_append_extractLsb'_eq_extractLsb' (show 24 = 16 + 8 from rfl),
    BitVec.extractLsb'_append_extractLsb'_eq_extractLsb' (show 16 = 8 + 8 from rfl),
    BitVec.extractLsb'_append_extractLsb'_eq_extractLsb' (show 8 = 0 + 8 from rfl)]
  exact BitVec.extractLsb'_eq_self

/-! ## Reading back -/

theorem readOctet?_append (o : BitVec 8) {rest : List Char} (h : Decimal.EndsDigits rest) :
    readOctet? (Decimal.digitsOf o.toNat ++ rest) = some (o, rest) := by
  have hdigits := Decimal.areDigits_digitsOf o.toNat
  have hlt : o.toNat < 256 := o.isLt
  have hlen : (Decimal.digitsOf o.toNat).length ≤ 3 :=
    (Decimal.length_digitsOf_le (by decide)).mpr (Nat.lt_trans hlt (by decide))
  have hzero : ((Decimal.digitsOf o.toNat).head? == some '0' &&
      (Decimal.digitsOf o.toNat).length != 1) = false := by
    rcases Nat.eq_zero_or_pos o.toNat with ho | ho
    · rw [ho]
      rfl
    · rw [beq_eq_false_iff_ne.mpr (Decimal.head?_digitsOf ho), Bool.false_and]
  rw [readOctet?, h.takeWhile hdigits, h.dropWhile hdigits, Decimal.ofDigits_digitsOf]
  simp only [hzero, List.isEmpty_eq_false_iff.mpr (Decimal.digitsOf_ne_nil o.toNat),
    decide_eq_false (Nat.not_lt.mpr hlen), decide_eq_false (show ¬o.toNat > 255 by omega),
    Bool.or_self, Bool.false_eq_true, if_false, BitVec.ofNat_toNat, BitVec.setWidth_eq]

theorem read?_dotted (w x y z : BitVec 8) :
    read? (dotted [w, x, y, z]).toList = some (ofOctets w x y z) := by
  have hdot : ∀ rest, Decimal.EndsDigits ('.' :: rest) := by
    intro rest c hc
    cases hc
    rfl
  have hend : Decimal.EndsDigits [] := nofun
  have htext : (dotted [w, x, y, z]).toList = Decimal.digitsOf w.toNat ++ '.' ::
      (Decimal.digitsOf x.toNat ++ '.' :: (Decimal.digitsOf y.toNat ++ '.' ::
        (Decimal.digitsOf z.toNat ++ []))) := by
    simp [toList_dotted, Text.join]
  rw [htext, read?, readStart?, readOctet?_append w (hdot _)]
  simp only [Option.bind_eq_bind, Option.bind_some, afterDot?, readOctet?_append x (hdot _),
    readOctet?_append y (hdot _), readOctet?_append z hend]
  rfl

theorem read?_render (a : Ipv4) : read? a.render.toList = some a := by
  rw [render, octets, read?_dotted, ofOctets_octets]

end Ipv4

end RecordRules
