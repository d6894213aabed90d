import Mathlib.Data.Nat.Init
import RecordRules.Capability.Judge
import RecordRules.Reference

/-!
# Keys that no one asks for

A record is read by name only: as a map, by a key or by a path. A path leads
through a key of the record if it is that key or goes on behind it with a dot;
keys of digits aside, which every path may step over. So an entry is not seen
under a name that is apart from its key (`IsApart`), wherever in the record
the entry stands (`agreeApart_insert`).

Records that differ no further (`AgreeApart`) look the same in all that is read
of a field, its parent among it, and in what an operand refers to, so long as
the names that are asked for are apart from the key.
-/

namespace RecordRules

/-! ## Names apart from a key -/

/-- The name is neither the key nor a path that begins with it. -/
def IsApart (key name : String) : Prop :=
  name ≠ key ∧ ¬ (key.toList ++ ['.']) <+: name.toList

instance (key name : String) : Decidable (IsApart key name) :=
  inferInstanceAs (Decidable (_ ∧ _))

theorem leadsTo_iff {path target : List Char} :
    leadsTo path target = true ↔ path = target ∨ (path ++ ['.']) <+: target := by
  rw [leadsTo, Bool.and_eq_true, List.isPrefixOf_iff_prefix]
  constructor
  · rintro ⟨⟨rest, rfl⟩, h⟩
    rw [List.drop_left] at h
    cases rest with
    | nil => exact .inl (List.append_nil path).symm
    | cons c rest =>
        obtain rfl := beq_iff_eq.mp h
        exact .inr ⟨rest, by rw [List.append_assoc, List.singleton_append]⟩
  · rintro (rfl | ⟨rest, rfl⟩)
    · exact ⟨List.prefix_rfl, by rw [List.drop_length]⟩
    · rw [List.append_assoc]
      exact ⟨List.prefix_append path _, by rw [List.drop_left]; rfl⟩

theorem IsApart.leadsTo_eq_false {key name : String} (h : IsApart key name) :
    leadsTo key.toList name.toList = false := by
  rw [← Bool.not_eq_true, leadsTo_iff, not_or, String.toList_inj]
  exact ⟨Ne.symm h.1, h.2⟩

/-- A path is what is before its last dot, a dot and a name. -/
theorem exists_of_parentPath? {field parent : String} (h : parentPath? field = some parent) :
    ∃ name, field.toList = parent.toList ++ '.' :: name := by
  rw [parentPath?] at h
  split at h
  next => cases h
  next c rest hdrop =>
    cases h
    -- The path is cut from its end, so the parts come back reversed.
    have hsplit := List.takeWhile_append_dropWhile (p := (· != '.')) (l := field.toList.reverse)
    have hhead := List.head?_dropWhile_not (· != '.') field.toList.reverse
    rw [hdrop] at hsplit hhead
    obtain rfl : c = '.' := by simpa using hhead
    refine ⟨(field.toList.reverse.takeWhile (· != '.')).reverse, ?_⟩
    have hfield := congrArg List.reverse hsplit
    rw [List.reverse_reverse, List.reverse_append, List.reverse_cons, List.append_assoc,
      List.singleton_append] at hfield
    rw [String.toList_ofList]
    exact hfield.symm

theorem IsApart.parent {key field parent : String} (h : IsApart key field)
    (hp : parentPath? field = some parent) : IsApart key parent := by
  obtain ⟨name, hname⟩ := exists_of_parentPath? hp
  constructor
  · rintro rfl
    exact h.2 ⟨name, by rw [hname, List.append_assoc, List.singleton_append]⟩
  · intro hkey
    exact h.2 (hkey.trans ⟨'.' :: name, hname.symm⟩)

/-! ## Records that agree apart from a key -/

/-- The records look the same under all names that are apart from the key. -/
structure AgreeApart (key : String) (record record' : Json) : Prop where
  get?_eq : ∀ {name : String}, name ≠ key → record'.get? name = record.get? name
  resolvePath_eq : ∀ {name : String}, IsApart key name → resolvePath name record' = resolvePath name record
  requireRecord_eq : ∀ capability, requireRecord capability record' = requireRecord capability record

theorem walkEntries_append (target : List Char) (current : Option (List Char))
    (before after : List (String × Json)) :
    walkEntries target current (before ++ after) =
      walkEntries target current before ++ walkEntries target current after := by
  induction before with
  | nil => rfl
  | cons e before ih => rw [List.cons_append, walkEntries, walkEntries, ih, List.append_assoc]

/-- An entry is not seen apart from its key, wherever it stands. -/
theorem agreeApart_insert {key : String} (hkey : isPosition key = false)
    (before after : List (String × Json)) (value : Json) :
    AgreeApart key (.obj (before ++ after)) (.obj (before ++ (key, value) :: after)) where
  get?_eq hname := by
    simp only [Json.get?, List.lookup_append, List.lookup_cons, beq_false_of_ne hname]
  resolvePath_eq {name} hname := by
    have hentry : walkEntries name.toList none ((key, value) :: after) =
        walkEntries name.toList none after := by
      simp only [walkEntries, hkey, extendPath, hname.leadsTo_eq_false]
      rfl
    simp only [resolvePath, walk, reduceCtorEq, if_false, walkEntries_append, hentry]
  requireRecord_eq _ := rfl

namespace AgreeApart

variable {key : String} {record record' : Json}

/-! ## Fields -/

section Fields

variable (h : AgreeApart key record record') {field : String} (hf : IsApart key field)

include h hf

theorem lookupField_eq : lookupField record' field = lookupField record field := by
  rw [lookupField, lookupField, h.resolvePath_eq hf, h.get?_eq hf.1]

theorem fieldItems_eq : fieldItems record' field = fieldItems record field := by
  rw [fieldItems, fieldItems, h.lookupField_eq hf]

theorem listSize_eq (name : String) : listSize name record' field = listSize name record field := by
  rw [listSize, listSize, h.resolvePath_eq hf, h.get?_eq hf.1]

theorem fieldSize_eq (name : String) : fieldSize name record' field = fieldSize name record field := by
  rw [fieldSize, fieldSize, h.resolvePath_eq hf, h.get?_eq hf.1]

theorem isPresent_eq : isPresent record' field = isPresent record field := by
  rw [isPresent, isPresent]
  cases hp : parentPath? field with
  | none => simp only [h.get?_eq hf.1]
  | some parent => simp only [h.fieldItems_eq (hf.parent hp), h.resolvePath_eq hf]

end Fields

end AgreeApart

/-! ## References -/

/-- The text refers to nothing that the key holds. -/
def IsForeign (key text : String) : Prop :=
  text ≠ key ∧ ∀ name ∈ bracketReference? text, IsApart key name

instance (key text : String) : Decidable (IsForeign key text) :=
  inferInstanceAs (Decidable (_ ∧ _))

def Json.text? : Json → Option String
  | .str text => some text
  | _ => none

/-- The texts among the values of an operand. -/
def Operand.texts (o : Operand) : List String := o.values.filterMap Json.text?

namespace AgreeApart

variable {key : String} {record record' : Json} (h : AgreeApart key record record')

include h

theorem resolveText_eq {text : String} (ht : IsForeign key text) :
    resolveText record' text = resolveText record text := by
  rw [resolveText, resolveText]
  cases hb : bracketReference? text with
  | none => simp only [h.get?_eq ht.1]
  | some name => simp only [h.lookupField_eq (ht.2 name hb)]

theorem resolveValue_eq {v : Json} (hv : ∀ text ∈ v.text?, IsForeign key text) :
    resolveValue record' v = resolveValue record v := by
  cases v with
  | str text => exact h.resolveText_eq (hv text rfl)
  | null | bool b | num n | arr items | obj entries => rfl

theorem resolve_eq {o : Operand} (ho : ∀ text ∈ o.texts, IsForeign key text) :
    o.resolve record' = o.resolve record := by
  have hvalue : ∀ v ∈ o.values, resolveValue record' v = resolveValue record v := fun v hv =>
    h.resolveValue_eq fun text ht => ho text (List.mem_filterMap.mpr ⟨v, hv, ht⟩)
  cases o with
  | absent => rfl
  | scalar v =>
      cases v with
      | str text => exact congrArg Operand.scalar (hvalue _ (List.mem_singleton_self _))
      | null | bool b | num n | arr items | obj entries => rfl
  | list items => exact congrArg Operand.list (List.map_congr_left hvalue)
  | keyed f v =>
      cases v with
      | str text => exact congrArg (Operand.keyed f) (hvalue _ (List.mem_singleton_self _))
      | null | bool b | num n | arr items | obj entries => rfl
  | field f => rfl

end AgreeApart

end RecordRules
