import Mathlib.Data.Nat.Init
import RecordRules.Proofs.Text
import RecordRules.Record.Path

/-!
# What a path addresses

A node of a value has an address, the keys and positions on the way down to
it, and the keys that are no positions make up its named path. Several nodes
may share one: those in a list, those under digit keys, and those whose keys
hold dots or are empty.

A path addresses exactly the nodes of that named path that are not inside
another one, in document order (`resolvePath_eq_addressed`). The walk finds
them without visiting every node. Below a node that it takes there is no other
to be found, since that node is an ancestor with the same path; and a branch
that it leaves out holds none, since the paths in it all begin with a path
that does not lead to the target (`leadsTo_joined`).
-/

namespace RecordRules

/-! ## Addresses -/

/-- A step from a node down to one of its children. -/
inductive PathStep
  | key (name : String)
  | position (i : Nat)

/-- The key of the step, if it is no position. -/
def PathStep.names : PathStep → List String
  | .key name => if isPosition name then [] else [name]
  | .position _ => []

/-- The keys of an address that are no positions. -/
def names (address : List PathStep) : List String := address.flatMap PathStep.names

/-- The path of a node, by its address. -/
def namedPath (address : List PathStep) : String := Text.joined "." (names address)

/-- A node by its address from the parent of the one where the address begins. -/
def under (step : PathStep) (node : List PathStep × Json) : List PathStep × Json :=
  (step :: node.1, node.2)

mutual

/-- The nodes below a node with their addresses, in document order. -/
def below : Json → List (List PathStep × Json)
  | .obj entries => belowEntries entries
  | .arr items => belowItems 0 items
  | _ => []

def belowItems (i : Nat) : List Json → List (List PathStep × Json)
  | [] => []
  | item :: items =>
    (([], item) :: below item).map (under (.position i)) ++ belowItems (i + 1) items

def belowEntries : List (String × Json) → List (List PathStep × Json)
  | [] => []
  | (key, child) :: entries =>
    (([], child) :: below child).map (under (.key key)) ++ belowEntries entries

end

/-- All nodes of a value with their addresses, in document order. -/
def nodes (data : Json) : List (List PathStep × Json) := ([], data) :: below data

/-- The node has the target as its path, and no node that it is inside of has. -/
def IsAddressed (target : String) (address : List PathStep) : Prop :=
  namedPath address = target ∧ ∀ i < address.length, namedPath (address.take i) ≠ target

instance (target : String) (address : List PathStep) : Decidable (IsAddressed target address) :=
  inferInstanceAs (Decidable (_ ∧ ∀ i < _, _))

/-- The nodes that a path addresses, in document order. -/
def addressed (target : String) (data : Json) : List Json :=
  ((nodes data).filter fun node => IsAddressed target node.1).map Prod.snd

/-! ## Paths on the way down -/

/-- The path that the walk carries below the given names. -/
def pathOf : List String → Option (List Char)
  | [] => none
  | base => some (Text.joined "." base).toList

theorem toList_joined_dot (ss : List String) :
    (Text.joined "." ss).toList = Text.join ['.'] (ss.map String.toList) :=
  Text.toList_joined rfl ss

theorem toList_joined_append {base more : List String} (hb : base ≠ []) (hm : more ≠ []) :
    (Text.joined "." (base ++ more)).toList =
      (Text.joined "." base).toList ++ '.' :: (Text.joined "." more).toList := by
  simp only [toList_joined_dot, List.map_append]
  rw [Text.join_append ['.'] (by simpa using hb) (by simpa using hm), List.append_assoc,
    List.singleton_append]

theorem pathOf_of_ne_nil {base : List String} (hb : base ≠ []) :
    pathOf base = some (Text.joined "." base).toList := by
  cases base with
  | nil => exact absurd rfl hb
  | cons key base => rfl

theorem pathOf_append (base : List String) (key : String) :
    pathOf (base ++ [key]) = some (extendPath (pathOf base) key) := by
  have hkey : (Text.joined "." [key]).toList = key.toList := toList_joined_dot [key]
  rw [pathOf_of_ne_nil (List.append_ne_nil_of_right_ne_nil base (List.cons_ne_nil key []))]
  cases base with
  | nil => exact congrArg some hkey
  | cons first base =>
      have hb : first :: base ≠ [] := List.cons_ne_nil first base
      rw [toList_joined_append hb (List.cons_ne_nil key []), hkey]
      rfl

theorem pathOf_eq_some {target : String} (ht : target ≠ "") (base : List String) :
    pathOf base = some target.toList ↔ Text.joined "." base = target := by
  cases base with
  | nil => exact iff_of_false nofun fun h => ht h.symm
  | cons key base =>
      rw [pathOf_of_ne_nil (List.cons_ne_nil key base), Option.some_inj, String.toList_inj]

/-- A path leads to every path that goes on from it. -/
theorem leadsTo_joined {base : List String} (hb : base ≠ []) (more : List String) :
    leadsTo (Text.joined "." base).toList (Text.joined "." (base ++ more)).toList = true := by
  by_cases hm : more = []
  · simp [leadsTo, hm]
  · simp [leadsTo, toList_joined_append hb hm]

/-! ## Nodes below given names -/

/-- The node is addressed, if its address is one below the given names. -/
def IsAddressedBelow (target : String) (base : List String) (address : List PathStep) : Prop :=
  Text.joined "." (base ++ names address) = target
    ∧ ∀ i < address.length, Text.joined "." (base ++ names (address.take i)) ≠ target

instance (target : String) (base : List String) (address : List PathStep) :
    Decidable (IsAddressedBelow target base address) :=
  inferInstanceAs (Decidable (_ ∧ ∀ i < _, _))

theorem isAddressedBelow_nil {target : String} {base : List String} :
    IsAddressedBelow target base [] ↔ Text.joined "." base = target := by
  simp [IsAddressedBelow, names]

theorem isAddressedBelow_cons {target : String} {base : List String} {step : PathStep}
    {address : List PathStep} : IsAddressedBelow target base (step :: address) ↔
      Text.joined "." base ≠ target ∧ IsAddressedBelow target (base ++ step.names) address := by
  have hnames : ∀ rest, base ++ names (step :: rest) = base ++ step.names ++ names rest := by
    intro rest
    rw [names, List.flatMap_cons, ← List.append_assoc, names]
  have hnone : base ++ names [] = base := List.append_nil base
  rw [IsAddressedBelow, List.length_cons, Nat.forall_lt_succ_left]
  simp only [List.take_zero, List.take_succ_cons, hnames, hnone, IsAddressedBelow]
  exact and_left_comm

/-- The addressed ones among nodes below the given names. -/
def addressedBelow (target : String) (base : List String)
    (nodes : List (List PathStep × Json)) : List Json :=
  (nodes.filter fun node => IsAddressedBelow target base node.1).map Prod.snd

section AddressedBelow

variable {target : String} {base : List String}

theorem addressedBelow_append (ps qs : List (List PathStep × Json)) :
    addressedBelow target base (ps ++ qs) =
      addressedBelow target base ps ++ addressedBelow target base qs := by
  rw [addressedBelow, List.filter_append, List.map_append]
  rfl

/-- One step down, the names of the step are added. -/
theorem addressedBelow_under (step : PathStep) (ps : List (List PathStep × Json)) :
    addressedBelow target base (ps.map (under step)) =
      if Text.joined "." base = target then []
      else addressedBelow target (base ++ step.names) ps := by
  rw [addressedBelow, List.filter_map, List.map_map]
  split
  next hb =>
    rw [List.map_eq_nil_iff, List.filter_eq_nil_iff]
    intro p _ hp
    exact (isAddressedBelow_cons.mp (of_decide_eq_true hp)).1 hb
  next hb =>
    have hfilter : ∀ p ∈ ps,
        ((fun node => decide (IsAddressedBelow target base node.1)) ∘ under step) p =
          decide (IsAddressedBelow target (base ++ step.names) p.1) := by
      intro p _
      exact decide_eq_decide.mpr (isAddressedBelow_cons.trans (and_iff_right hb))
    rw [List.filter_congr hfilter]
    rfl

/-- A node that is addressed has none below it. -/
theorem addressedBelow_below (hb : Text.joined "." base = target) (data : Json) :
    addressedBelow target base (below data) = [] := by
  cases data with
  | obj entries =>
      rw [below]
      induction entries with
      | nil => rfl
      | cons entry entries ih =>
          obtain ⟨key, child⟩ := entry
          rw [belowEntries, addressedBelow_append, addressedBelow_under, if_pos hb, ih]
          rfl
  | arr items =>
      rw [below]
      generalize 0 = i
      induction items generalizing i with
      | nil => rfl
      | cons item items ih =>
          rw [belowItems, addressedBelow_append, addressedBelow_under, if_pos hb, ih]
          rfl
  | null => rfl
  | bool b => rfl
  | num n => rfl
  | str s => rfl

theorem addressedBelow_nodes (data : Json) :
    addressedBelow target base (nodes data) =
      if Text.joined "." base = target then [data]
      else addressedBelow target base (below data) := by
  rw [nodes, addressedBelow]
  simp only [List.filter_cons, decide_eq_true_eq, isAddressedBelow_nil]
  split
  next hb =>
    rw [List.map_cons]
    exact congrArg (data :: ·) (addressedBelow_below hb data)
  next hb => rfl

/-- A branch whose path does not lead to the target holds no addressed node. -/
theorem addressedBelow_of_not_leadsTo (hb : base ≠ [])
    (hl : ¬ leadsTo (Text.joined "." base).toList target.toList = true)
    (ps : List (List PathStep × Json)) : addressedBelow target base ps = [] := by
  rw [addressedBelow, List.map_eq_nil_iff, List.filter_eq_nil_iff]
  intro p _ hp
  obtain ⟨htarget, -⟩ := of_decide_eq_true hp
  rw [← htarget] at hl
  exact hl (leadsTo_joined hb _)

end AddressedBelow

/-! ## The walk -/

theorem walk_leaf {target : String} (ht : target ≠ "") (base : List String) {data : Json}
    (hobj : ∀ entries, data ≠ .obj entries) (harr : ∀ items, data ≠ .arr items) :
    walk target.toList (pathOf base) data = addressedBelow target base (nodes data) := by
  have hbelow : below data = [] := by
    rw [below]
    · exact hobj
    · exact harr
  rw [walk, addressedBelow_nodes, hbelow]
  · exact ite_congr (propext (pathOf_eq_some ht base)) (fun _ => rfl) fun _ => rfl
  · exact hobj
  · exact harr

mutual

/-- Below the given names the walk collects what is addressed there. -/
theorem walk_eq {target : String} (ht : target ≠ "") : (data : Json) → (base : List String) →
    walk target.toList (pathOf base) data = addressedBelow target base (nodes data)
  | .obj entries, base => by
      rw [walk, addressedBelow_nodes]
      exact ite_congr (propext (pathOf_eq_some ht base)) (fun _ => rfl) fun hb =>
        walkEntries_eq ht entries base hb
  | .arr items, base => by
      rw [walk, addressedBelow_nodes]
      exact ite_congr (propext (pathOf_eq_some ht base)) (fun _ => rfl) fun hb =>
        walkItems_eq ht items base hb 0
  | .null, base => walk_leaf ht base nofun nofun
  | .bool b, base => walk_leaf ht base nofun nofun
  | .num n, base => walk_leaf ht base nofun nofun
  | .str s, base => walk_leaf ht base nofun nofun

theorem walkItems_eq {target : String} (ht : target ≠ "") : (items : List Json) →
    (base : List String) → Text.joined "." base ≠ target → (i : Nat) →
    walkItems target.toList (pathOf base) items =
      addressedBelow target base (belowItems i items)
  | [], base, hb, i => rfl
  | item :: items, base, hb, i => by
      have hitem := walk_eq ht item base
      rw [nodes] at hitem
      rw [walkItems, belowItems, addressedBelow_append, addressedBelow_under, if_neg hb,
        walkItems_eq ht items base hb (i + 1), hitem, PathStep.names, List.append_nil]

theorem walkEntries_eq {target : String} (ht : target ≠ "") : (entries : List (String × Json)) →
    (base : List String) → Text.joined "." base ≠ target →
    walkEntries target.toList (pathOf base) entries =
      addressedBelow target base (belowEntries entries)
  | [], base, hb => rfl
  | (key, child) :: entries, base, hb => by
      rw [walkEntries, belowEntries, addressedBelow_append, addressedBelow_under, if_neg hb,
        walkEntries_eq ht entries base hb, PathStep.names]
      split
      next hposition =>
        have hchild := walk_eq ht child base
        rw [nodes] at hchild
        rw [hchild, List.append_nil]
      next hposition =>
        have hchild := walk_eq ht child (base ++ [key])
        rw [nodes, pathOf_append] at hchild
        have hne : base ++ [key] ≠ [] :=
          List.append_ne_nil_of_right_ne_nil base (List.cons_ne_nil key [])
        have hpath : extendPath (pathOf base) key = (Text.joined "." (base ++ [key])).toList := by
          have h := pathOf_of_ne_nil hne
          rw [pathOf_append] at h
          exact Option.some_inj.mp h
        dsimp only
        split
        next hl => rw [hchild]
        next hl =>
          rw [hpath] at hl
          rw [addressedBelow_of_not_leadsTo hne hl]

end

/-- **A path addresses exactly the outermost nodes with that path.** -/
theorem resolvePath_eq_addressed {target : String} (ht : target ≠ "") (data : Json) :
    resolvePath target data = addressed target data := by
  rw [resolvePath, if_neg (by simpa using ht)]
  exact walk_eq ht data []

/-- Data in which one path belongs to several nodes, one of them inside
another. -/
def dataWithSharedPath : Json :=
  .obj [("a", .arr [.obj [("b", .str "1"), ("0", .obj [("b", .arr [.obj [("7", .str "2")]])])]]),
    ("a.b", .str "3"), ("", .obj [("a.b", .str "4")]), ("ab", .str "5")]

theorem resolvePath_shared_path :
    resolvePath "a.b" dataWithSharedPath = addressed "a.b" dataWithSharedPath
      ∧ addressed "a.b" dataWithSharedPath =
        [.str "1", .arr [.obj [("7", .str "2")]], .str "3"] :=
  ⟨resolvePath_eq_addressed (by decide) dataWithSharedPath, by decide +kernel⟩

end RecordRules
