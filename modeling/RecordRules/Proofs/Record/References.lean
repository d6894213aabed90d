import RecordRules.Proofs.Record.UnrelatedKey
import RecordRules.Proofs.Text

/-!
# Operands that refer into a record

A text refers into a record if the record has something to put in its place
(`RefersInto`). An operand of which no text does so is the same with references
put in place (`Operand.resolve_eq_self`).

A text that spells a number never refers (`not_refersInto_of_numberInText`), so
an operand that can be read as a number or as a pair of bounds is the same for
every record (`Operand.resolve_of_number`, `Operand.resolve_of_numberPair`).
-/

namespace RecordRules

/-! ## Texts -/

/-- The record has something to put in the place of the text. -/
def RefersInto (record : Json) (text : String) : Prop :=
  match bracketReference? text with
  | some name => lookupField record name ≠ []
  | none => numberInText text = none ∧ (record.get? text).isSome = true

instance (record : Json) (text : String) : Decidable (RefersInto record text) :=
  match h : bracketReference? text with
  | some name => decidable_of_iff (lookupField record name ≠ []) (by rw [RefersInto, h])
  | none =>
    decidable_of_iff (numberInText text = none ∧ (record.get? text).isSome = true)
      (by rw [RefersInto, h])

theorem gather_eq_none {vs : List Json} : gather vs = none ↔ vs = [] := by
  cases vs with
  | nil => exact iff_of_true rfl rfl
  | cons v vs => cases vs <;> exact iff_of_false nofun nofun

theorem resolveText_of_not_refersInto {record : Json} {text : String}
    (h : ¬RefersInto record text) : resolveText record text = .str text := by
  rw [RefersInto] at h
  rw [resolveText]
  cases hb : bracketReference? text with
  | some name =>
      simp only [hb, ne_eq, not_not] at h
      simp only [gather_eq_none.mpr h, Option.getD_none]
  | none =>
      simp only [hb, not_and, Bool.not_eq_true, Option.isSome_eq_false_iff] at h
      cases hn : numberInText text with
      | some x => rfl
      | none => simp only [Option.isNone_iff_eq_none.mp (h hn), Option.getD_none]; rfl

theorem exists_of_bracketReference? {text name : String} (h : bracketReference? text = some name) :
    ∃ inner, text.toList = ['['] ++ inner ++ [']'] := by
  rw [bracketReference?] at h
  split at h
  next rest hrest =>
    split at h
    next inner hinner =>
      refine ⟨inner.reverse, ?_⟩
      have hreverse := congrArg List.reverse hinner
      rw [List.reverse_reverse, List.reverse_cons] at hreverse
      rw [hrest, hreverse]
      rfl
    next => cases h
  next => cases h

/-- What stands in brackets is no number. -/
theorem bracketReference?_eq_none {text : String} {x : Binary64} (h : numberInText text = some x) :
    bracketReference? text = none := by
  cases hb : bracketReference? text with
  | none => rfl
  | some name =>
      obtain ⟨inner, htext⟩ := exists_of_bracketReference? hb
      have hopen : Text.Tight ['['] := Text.tight_singleton (by decide)
      have hclose : Text.Tight [']'] := Text.tight_singleton (by decide)
      have htight := hopen.append hclose (by simp) (by simp) inner
      rw [numberInText, htext, htight.trim_eq] at h
      cases h

theorem not_refersInto_of_numberInText {text : String} {x : Binary64}
    (h : numberInText text = some x) (record : Json) : ¬RefersInto record text := by
  rw [RefersInto, bracketReference?_eq_none h]
  rintro ⟨hn, -⟩
  cases h.symm.trans hn

/-! ## Operands -/

/-- The texts of an operand that may be replaced. The texts of a list that
stands beside a field are not among them. -/
def Operand.referring : Operand → List String
  | .scalar v | .keyed _ v => v.text?.toList
  | .list items => items.filterMap Json.text?
  | .absent | .field _ => []

def Operand.RefersInto (record : Json) (o : Operand) : Prop :=
  ∃ text ∈ o.referring, RecordRules.RefersInto record text

theorem resolveValue_of_not_refersInto {record v : Json}
    (h : ∀ text ∈ v.text?, ¬RefersInto record text) : resolveValue record v = v := by
  cases v with
  | str text => exact resolveText_of_not_refersInto (h text rfl)
  | null | bool b | num n | arr items | obj entries => rfl

/-- A value that is a number stays what it is. -/
theorem resolveValue_of_asNumber {v : Json} {x : Binary64} (h : asNumber v = some x)
    (record : Json) : resolveValue record v = v := by
  refine resolveValue_of_not_refersInto fun text ht => ?_
  cases v with
  | str s =>
      cases ht
      exact not_refersInto_of_numberInText h record
  | null | bool b | num n | arr items | obj entries => cases ht

namespace Operand

variable {o : Operand} {record : Json}

theorem resolve_eq_self (h : ¬o.RefersInto record) : o.resolve record = o := by
  have htext : ∀ text ∈ o.referring, ¬RecordRules.RefersInto record text := fun text ht hr =>
    h ⟨text, ht, hr⟩
  cases o with
  | absent | field f => rfl
  | scalar v =>
      exact congrArg scalar (resolveValue_of_not_refersInto fun text ht =>
        htext text (Option.mem_toList.mpr ht))
  | keyed f v =>
      exact congrArg (keyed f) (resolveValue_of_not_refersInto fun text ht =>
        htext text (Option.mem_toList.mpr ht))
  | list items =>
      refine congrArg list ((List.map_congr_left fun v hv => ?_).trans (List.map_id _))
      exact resolveValue_of_not_refersInto fun text ht =>
        htext text (List.mem_filterMap.mpr ⟨v, hv, ht⟩)

theorem resolve_of_number {x : Binary64} (h : o.number = .ok x) (record : Json) :
    o.resolve record = o := by
  cases o with
  | absent | list items | field f => cases h
  | scalar v | keyed f v =>
      rw [number] at h
      dsimp only at h
      split at h
      next y hy => rw [resolve, resolveValue_of_asNumber hy]
      next => cases h

theorem resolve_of_numberPair {bounds : Binary64 × Binary64} (h : o.numberPair = .ok bounds)
    (record : Json) : o.resolve record = o := by
  rw [numberPair] at h
  split at h
  next low high hvalues =>
    split at h
    next x y hx hy =>
      have hlow := resolveValue_of_asNumber hx record
      have hhigh := resolveValue_of_asNumber hy record
      cases o with
      | absent | field f => cases hvalues
      -- One value that holds two is a list, and a list in one value is not replaced.
      | scalar v | keyed f v =>
          cases v with
          | arr items => rfl
          | null | bool b | num n | str s | obj entries => cases hvalues
      | list items =>
          obtain rfl : items = [low, high] := hvalues
          rw [resolve, List.map_cons, List.map_cons, List.map_nil, hlow, hhigh]
    next => cases h
  next => cases h

end Operand

end RecordRules
