import RecordRules.Proofs.Number.ReadBack
import RecordRules.Record.Path

/-!
# Lists and maps from positions

A path goes through the elements of a list and through the entries of a map
under positions in the same way: neither adds to the path of a node. So a list
may be exchanged for the map from its positions to its elements, and that with
every list of a value at once (`Json.withoutLists`). A path then addresses the
same nodes in the same order, with the lists in them exchanged as well
(`resolvePath_withoutLists`).
-/

namespace RecordRules

theorem isPosition_toString (n : Nat) : isPosition (toString n) = true := by
  have hdigits : (toString n).toList = Decimal.digitsOf n := by
    change n.repr.toList = _
    rw [Nat.repr_eq_ofList_toDigits, String.toList_ofList]
    rfl
  have hne : (toString n).isEmpty = false := by
    rw [String.isEmpty_eq_false_iff, ne_eq, ← String.toList_eq_nil_iff, hdigits]
    exact Decimal.digitsOf_ne_nil n
  rw [isPosition, hne, hdigits, List.all_eq_true.mpr (Decimal.areDigits_digitsOf n)]
  rfl

mutual

/-- The value with every list, at any depth, made the map from its positions to
its elements. -/
def Json.withoutLists : Json → Json
  | .arr items => .obj (Json.underPositions 0 items)
  | .obj entries => .obj (Json.entriesWithoutLists entries)
  | v => v

def Json.underPositions (i : Nat) : List Json → List (String × Json)
  | [] => []
  | item :: items => (toString i, item.withoutLists) :: Json.underPositions (i + 1) items

def Json.entriesWithoutLists : List (String × Json) → List (String × Json)
  | [] => []
  | (key, child) :: entries => (key, child.withoutLists) :: Json.entriesWithoutLists entries

end

example : (Json.arr [.str "a", .obj [("b", .arr [.null, .arr []])]]).withoutLists =
    .obj [("0", .str "a"), ("1", .obj [("b", .obj [("0", .null), ("1", .obj [])])])] := by
  decide +kernel

mutual

/-- The walk comes to the same nodes, on whatever path it is. -/
theorem walk_withoutLists (target : List Char) : (node : Json) → (current : Option (List Char)) →
    walk target current node.withoutLists = (walk target current node).map Json.withoutLists
  | .obj entries, current => by
      rw [Json.withoutLists, walk, walk]
      split
      · rw [List.map_singleton, Json.withoutLists]
      · exact walkEntries_withoutLists target entries current
  | .arr items, current => by
      rw [Json.withoutLists, walk, walk]
      split
      · rw [List.map_singleton, Json.withoutLists]
      · exact walkEntries_underPositions target items current 0
  | .null, current => by simp [Json.withoutLists, walk, apply_ite (List.map Json.withoutLists)]
  | .bool b, current => by simp [Json.withoutLists, walk, apply_ite (List.map Json.withoutLists)]
  | .num n, current => by simp [Json.withoutLists, walk, apply_ite (List.map Json.withoutLists)]
  | .str s, current => by simp [Json.withoutLists, walk, apply_ite (List.map Json.withoutLists)]

/-- The elements of a list are visited under their positions. -/
theorem walkEntries_underPositions (target : List Char) : (items : List Json) →
    (current : Option (List Char)) → (i : Nat) →
    walkEntries target current (Json.underPositions i items) =
      (walkItems target current items).map Json.withoutLists
  | [], current, i => rfl
  | item :: items, current, i => by
      rw [Json.underPositions, walkEntries, if_pos (isPosition_toString i), walkItems,
        List.map_append, walk_withoutLists target item current,
        walkEntries_underPositions target items current (i + 1)]

theorem walkEntries_withoutLists (target : List Char) : (entries : List (String × Json)) →
    (current : Option (List Char)) →
    walkEntries target current (Json.entriesWithoutLists entries) =
      (walkEntries target current entries).map Json.withoutLists
  | [], current => rfl
  | (key, child) :: entries, current => by
      rw [Json.entriesWithoutLists, walkEntries, walkEntries, List.map_append,
        walkEntries_withoutLists target entries current]
      simp only [walk_withoutLists target child]
      split
      · rfl
      · split <;> rfl

end

/-- **To a path a list is the map from its positions to its elements.** -/
theorem resolvePath_withoutLists (target : String) (data : Json) :
    resolvePath target data.withoutLists = (resolvePath target data).map Json.withoutLists := by
  rw [resolvePath, resolvePath]
  split
  · rfl
  · exact walk_withoutLists target.toList data none

end RecordRules
