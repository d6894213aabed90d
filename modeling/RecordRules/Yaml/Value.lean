import RecordRules.Yaml.Node
import RecordRules.Yaml.Scalar.Meaning

/-!
# The values of nodes

A node stands for a value (`Node.value?`). Keys are scalars that are not null,
and a map has each of them once.

A plain key `<<` is no key of its own: the map behind it, or each of the maps
in the list behind it, lends its entries to the map around. Entries that are
lent stand behind the map's own; later maps lend before earlier ones, and an
entry whose key is there already is passed over, whatever its value is
(`hasRepeatedKey_withoutRepeated`).
-/

namespace RecordRules.Yaml

/-! ## Entries -/

/-- An entry of a map, whose value may turn out to be none. -/
structure Entry where
  key : Node
  value? : Option Json

/-- The scalar that a key is, as it is written: keys that differ in that are
different. -/
def Entry.scalar? (e : Entry) : Option (Option Tag × String) :=
  match e.key with
  | .scalar _ tag text => some (tag, text)
  | _ => none

def Entry.name? (e : Entry) : Option String :=
  match e.key with
  | .scalar isPlain tag text =>
    if isNullScalar isPlain tag text then none else scalarText? tag text
  | _ => none

/-- The key under which maps lend their entries. -/
def isLender : Node → Bool
  | .scalar true none text => text = "<<"
  | _ => false

def hasRepeatedKey : List Entry → Bool
  | [] => false
  | e :: es => es.any (fun d => d.scalar? = e.scalar?) || hasRepeatedKey es

/-- The entries without those whose key comes up before. -/
def withoutRepeated : List Entry → List Entry
  | [] => []
  | e :: es => e :: (withoutRepeated es).filter fun d => d.scalar? ≠ e.scalar?

theorem hasRepeatedKey_filter {es : List Entry} (h : hasRepeatedKey es = false)
    (p : Entry → Bool) : hasRepeatedKey (es.filter p) = false := by
  induction es with
  | nil => rfl
  | cons e es ih =>
    simp only [hasRepeatedKey, Bool.or_eq_false_iff, List.any_eq_false] at h
    rw [List.filter_cons]
    split
    next =>
      simp only [hasRepeatedKey, Bool.or_eq_false_iff, List.any_eq_false]
      exact ⟨fun d hd => h.1 d (List.mem_filter.mp hd).1, ih h.2⟩
    next => exact ih h.2

/-- What is left has every key once. -/
theorem hasRepeatedKey_withoutRepeated (es : List Entry) :
    hasRepeatedKey (withoutRepeated es) = false := by
  induction es with
  | nil => rfl
  | cons e es ih =>
    simp only [withoutRepeated, hasRepeatedKey, Bool.or_eq_false_iff, List.any_eq_false]
    refine ⟨fun d hd => ?_, hasRepeatedKey_filter ih _⟩
    simpa using (List.mem_filter.mp hd).2

def mapValue? (entries : List Entry) : Option Json := do
  let named ← entries.mapM fun e => do return (← e.name?, ← e.value?)
  return .obj (named.foldl (fun es e => Json.putEntry e.1 e.2 es) [])

/-- The entries of a map, and those that others lend to it: one list for each
lender. -/
structure Fields where
  own : List Entry := []
  lent : List (List Entry) := []

def Fields.all (f : Fields) : List Entry := f.own ++ f.lent.reverse.flatten

/-! ## Values -/

mutual

def Node.value? : Node → Option Json
  | .scalar isPlain tag text => scalarValue? isPlain tag text
  | .list items => (itemValues? items).map .arr
  | .map entries =>
    match fields? entries with
    | none => none
    | some f => if hasRepeatedKey f.own then none else mapValue? (withoutRepeated f.all)

def itemValues? : List Node → Option (List Json)
  | [] => some []
  | n :: ns =>
    match n.value?, itemValues? ns with
    | some v, some vs => some (v :: vs)
    | _, _ => none

def fields? : List (Node × Node) → Option Fields
  | [] => some {}
  | (k, v) :: es =>
    match fields? es with
    | none => none
    | some f =>
      if isLender k then
        match v.lent? with
        | some entries => some { f with lent := entries :: f.lent }
        | none => none
      else some { f with own := ⟨k, v.value?⟩ :: f.own }

/-- The entries that a node lends. -/
def Node.lent? : Node → Option (List Entry)
  | .scalar isPlain tag text => if isNullScalar isPlain tag text then some [] else none
  | .map entries => (fields? entries).map Fields.all
  | .list items => (lentByItems? items).map fun es => es.reverse.flatten

def lentByItems? : List Node → Option (List (List Entry))
  | [] => some []
  | n :: ns =>
    match n.lent?, lentByItems? ns with
    | some es, some rest => some (es :: rest)
    | _, _ => none

end

end RecordRules.Yaml
