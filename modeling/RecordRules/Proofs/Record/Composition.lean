import RecordRules.Proofs.Record.UnrelatedKey

/-!
# Paths put together

A path `p.q` may be followed in one go or in two: to the nodes of path `p`
first, and by `q` from each of them. Behind a common beginning the walk goes
the same way as without it (`walk_behind`), so from a node of path `p` on there
is no difference. Up to there the two walks differ in what they ask of a key:
one goes on if the key leads to `p.q`, the other if it leads to `p`. A key
without a dot cannot lead past `p` (`leadsTo_of_behind`), so where no key holds
a dot both stop at the same nodes, and the matches of `p.q` are the matches of
`q` in those of `p` (`resolvePath_append`).
-/

namespace RecordRules

/-! ## Paths behind a key -/

/-- A path behind a key. -/
def behind (key : List Char) : Option (List Char) → List Char
  | none => key
  | some path => key ++ '.' :: path

theorem behind_inj {key : List Char} {p q : Option (List Char)} :
    behind key p = behind key q ↔ p = q := by
  refine ⟨fun h => ?_, congrArg (behind key)⟩
  have hlength := congrArg List.length h
  cases p with
  | none =>
      cases q with
      | none => rfl
      | some q => simp [behind] at hlength
  | some p =>
      cases q with
      | none => simp [behind] at hlength
      | some q => simpa [behind] using h

theorem extendPath_behind (key : List Char) (current : Option (List Char)) (name : String) :
    extendPath (some (behind key current)) name = behind key (some (extendPath current name)) := by
  cases current with
  | none => rfl
  | some path => simp [extendPath, behind]

theorem leadsTo_behind (key path target : List Char) :
    leadsTo (behind key (some path)) (behind key (some target)) = leadsTo path target := by
  rw [Bool.eq_iff_iff, leadsTo_iff, leadsTo_iff, behind_inj, Option.some_inj]
  simp [behind, List.prefix_append_right_inj]

mutual

/-- The walk finds the same behind a key. -/
theorem walk_behind (key target : List Char) : (node : Json) → (current : Option (List Char)) →
    walk (behind key (some target)) (some (behind key current)) node = walk target current node
  | .obj entries, current => by
      rw [walk, walk]
      exact ite_congr (propext (Option.some_inj.trans behind_inj)) (fun _ => rfl) fun _ =>
        walkEntries_behind key target entries current
  | .arr items, current => by
      rw [walk, walk]
      exact ite_congr (propext (Option.some_inj.trans behind_inj)) (fun _ => rfl) fun _ =>
        walkItems_behind key target items current
  | .null, current => by simp only [walk, Option.some_inj, behind_inj]
  | .bool b, current => by simp only [walk, Option.some_inj, behind_inj]
  | .num n, current => by simp only [walk, Option.some_inj, behind_inj]
  | .str s, current => by simp only [walk, Option.some_inj, behind_inj]

theorem walkItems_behind (key target : List Char) : (items : List Json) →
    (current : Option (List Char)) →
    walkItems (behind key (some target)) (some (behind key current)) items =
      walkItems target current items
  | [], current => rfl
  | item :: items, current => by
      rw [walkItems, walkItems, walk_behind key target item, walkItems_behind key target items]

theorem walkEntries_behind (key target : List Char) : (entries : List (String × Json)) →
    (current : Option (List Char)) →
    walkEntries (behind key (some target)) (some (behind key current)) entries =
      walkEntries target current entries
  | [], current => rfl
  | (name, child) :: entries, current => by
      rw [walkEntries, walkEntries, walkEntries_behind key target entries,
        walk_behind key target child current]
      simp only [extendPath_behind, leadsTo_behind, walk_behind key target child]

end

theorem walk_record (target : List Char) (entries : List (String × Json)) :
    walk target none (.obj entries) = walkEntries target none entries := by
  rw [walk, if_neg (Option.some_ne_none target).symm]

theorem walk_self (target : List Char) (node : Json) : walk target (some target) node = [node] := by
  cases node <;> simp only [walk, if_true]

theorem toList_behind (path field : String) :
    (path ++ "." ++ field).toList = behind path.toList (some field.toList) := by
  simp [behind]

/-! ## Keys without dots -/

mutual

/-- No map of the value, at any depth, has a key with a dot. -/
def Json.hasSimpleKeys : Json → Bool
  | .obj entries => Json.entriesHaveSimpleKeys entries
  | .arr items => Json.itemsHaveSimpleKeys items
  | _ => true

def Json.itemsHaveSimpleKeys : List Json → Bool
  | [] => true
  | item :: items => item.hasSimpleKeys && Json.itemsHaveSimpleKeys items

def Json.entriesHaveSimpleKeys : List (String × Json) → Bool
  | [] => true
  | (key, child) :: entries =>
    !isDotted key && child.hasSimpleKeys && Json.entriesHaveSimpleKeys entries

end

theorem leadsTo_iff_exists {path target : List Char} :
    leadsTo path target = true ↔ ∃ rest, target = path ++ rest ∧ ∀ c ∈ rest.head?, c = '.' := by
  rw [leadsTo_iff]
  constructor
  · rintro (rfl | ⟨rest, rfl⟩)
    · exact ⟨[], (List.append_nil path).symm, by simp⟩
    · exact ⟨'.' :: rest, by simp, by simp⟩
  · rintro ⟨rest, rfl, hhead⟩
    cases rest with
    | nil => exact .inl (List.append_nil path).symm
    | cons c rest =>
        obtain rfl := hhead c rfl
        exact .inr ⟨rest, by simp⟩

/-- What leads to a path leads to all that is behind it. -/
theorem leadsTo_behind_of_leadsTo {path p : List Char} (h : leadsTo path p = true)
    (q : List Char) : leadsTo path (behind p (some q)) = true := by
  obtain ⟨rest, rfl, hhead⟩ := leadsTo_iff_exists.mp h
  refine leadsTo_iff_exists.mpr ⟨rest ++ '.' :: q, by simp [behind], fun c hc => ?_⟩
  cases rest with
  | nil => simpa using hc.symm
  | cons d rest => exact hhead c hc

/-- A key without a dot does not lead past a path, from a node on the way to
it. -/
theorem leadsTo_of_behind {current : Option (List Char)} {key : String} {p q : List Char}
    (hkey : isDotted key = false) (hcurrent : ∀ path ∈ current, (path ++ ['.']) <+: p)
    (h : leadsTo (extendPath current key) (behind p (some q)) = true) :
    leadsTo (extendPath current key) p = true := by
  obtain ⟨rest, htarget, hhead⟩ := leadsTo_iff_exists.mp h
  rcases List.append_eq_append_iff.mp htarget with ⟨past, hpast, hq⟩ | ⟨before, hp, hrest⟩
  · cases past with
    | nil => exact leadsTo_iff.mpr (.inl (by simpa using hpast))
    | cons c past =>
        -- The key would hold the dot that comes behind the path.
        obtain ⟨rfl, -⟩ := List.cons.inj hq
        have hdot : '.' ∈ key.toList := by
          cases current with
          | none =>
              have hkeys : key.toList = p ++ '.' :: past := hpast
              simp [hkeys]
          | some path =>
              obtain ⟨more, rfl⟩ := hcurrent path rfl
              have hkeys : key.toList = more ++ '.' :: past := by simpa [extendPath] using hpast
              simp [hkeys]
        simp [isDotted, hdot] at hkey
  · refine leadsTo_iff_exists.mpr ⟨before, hp, fun c hc => hhead c ?_⟩
    cases before with
    | nil => cases hc
    | cons d before => simpa [hrest] using hc

/-! ## Following a path in two stages -/

mutual

/-- The walk to what is behind a path, from a node on the way to the path or of
that path, goes through the nodes of the path. -/
theorem walk_through (p q : List Char) : (node : Json) → node.hasSimpleKeys = true →
    (current : Option (List Char)) → (∀ path ∈ current, leadsTo path p = true) →
    walk (behind p (some q)) current node = (walk p current node).flatMap (walk q none)
  | node, hkeys, current, hcurrent => by
      by_cases hp : current = some p
      · have hthere := walk_behind p q node none
        rw [behind] at hthere
        simp [hp, walk_self, hthere]
      · have hway : ∀ path ∈ current, (path ++ ['.']) <+: p := fun path hpath =>
          (leadsTo_iff.mp (hcurrent path hpath)).resolve_left fun he => hp (by rw [hpath, he])
        have hnot : current ≠ some (behind p (some q)) := by
          intro hq
          have hlength := (hway _ hq).length_le
          simp only [behind, List.length_append, List.length_cons, List.length_nil] at hlength
          omega
        match node, hkeys with
        | .obj entries, hkeys =>
            rw [walk, walk, if_neg hp, if_neg hnot]
            exact walkEntries_through p q entries hkeys current hway
        | .arr items, hkeys =>
            rw [walk, walk, if_neg hp, if_neg hnot]
            exact walkItems_through p q items hkeys current hway
        | .null, _ | .bool _, _ | .num _, _ | .str _, _ => simp [walk, hp, hnot]

theorem walkItems_through (p q : List Char) : (items : List Json) →
    Json.itemsHaveSimpleKeys items = true → (current : Option (List Char)) →
    (∀ path ∈ current, (path ++ ['.']) <+: p) →
    walkItems (behind p (some q)) current items =
      (walkItems p current items).flatMap (walk q none)
  | [], _, _, _ => rfl
  | item :: items, hkeys, current, hway => by
      simp only [Json.itemsHaveSimpleKeys, Bool.and_eq_true] at hkeys
      rw [walkItems, walkItems, List.flatMap_append, walkItems_through p q items hkeys.2 current hway,
        walk_through p q item hkeys.1 current fun path hpath =>
          leadsTo_iff.mpr (.inr (hway path hpath))]

theorem walkEntries_through (p q : List Char) : (entries : List (String × Json)) →
    Json.entriesHaveSimpleKeys entries = true → (current : Option (List Char)) →
    (∀ path ∈ current, (path ++ ['.']) <+: p) →
    walkEntries (behind p (some q)) current entries =
      (walkEntries p current entries).flatMap (walk q none)
  | [], _, _, _ => rfl
  | (key, child) :: entries, hkeys, current, hway => by
      simp only [Json.entriesHaveSimpleKeys, Bool.and_eq_true, Bool.not_eq_true'] at hkeys
      obtain ⟨⟨hkey, hchild⟩, hentries⟩ := hkeys
      rw [walkEntries, walkEntries, List.flatMap_append,
        walkEntries_through p q entries hentries current hway]
      congr 1
      split
      · exact walk_through p q child hchild current fun path hpath =>
          leadsTo_iff.mpr (.inr (hway path hpath))
      · dsimp only
        by_cases hp : leadsTo (extendPath current key) p = true
        · rw [if_pos hp, if_pos (leadsTo_behind_of_leadsTo hp q)]
          refine walk_through p q child hchild _ fun path hpath => ?_
          cases hpath
          exact hp
        · rw [if_neg hp, if_neg (mt (leadsTo_of_behind hkey hway) hp)]
          rfl

end

/-- **Paths compose.** In a value no key of which holds a dot, a path behind
another one addresses what it addresses in the matches of the other, match by
match. -/
theorem resolvePath_append {p q : String} (hp : p ≠ "") (hq : q ≠ "") {data : Json}
    (hkeys : data.hasSimpleKeys = true) :
    resolvePath (p ++ "." ++ q) data = (resolvePath p data).flatMap (resolvePath q) := by
  have hsecond : resolvePath q = walk q.toList none := by
    funext v
    rw [resolvePath, if_neg (by simpa using hq)]
  rw [hsecond, resolvePath, resolvePath, if_neg (by simp), if_neg (by simpa using hp),
    toList_behind]
  exact walk_through p.toList q.toList data hkeys none (by simp)

/-- Orders with their items in a list, under positions and below an empty key. -/
def ordersWithItems : Json :=
  .obj [("orders", .arr [
    .obj [("items", .obj [("0", .obj [("sku", .str "a")]), ("1", .arr [.obj [("sku", .null)]])])],
    .null,
    .obj [("", .obj [("items", .obj [("sku", .str "b")])]),
      ("7", .obj [("items", .arr [.str "c", .obj [("sku", .obj [("sku", .str "d")])]])])]])]

theorem resolvePath_append_skus :
    ("orders.items" ≠ "" ∧ "sku" ≠ "" ∧ ordersWithItems.hasSimpleKeys = true)
      ∧ resolvePath "orders.items.sku" ordersWithItems =
        (resolvePath "orders.items" ordersWithItems).flatMap (resolvePath "sku")
      ∧ resolvePath "orders.items.sku" ordersWithItems =
        [.str "a", .null, .obj [("sku", .str "d")]] := by
  refine ⟨by decide, ?_, by decide +kernel⟩
  exact resolvePath_append (p := "orders.items") (q := "sku") (by decide) (by decide) (by decide)

end RecordRules
