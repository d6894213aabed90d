import RecordRules.Proofs.Capability.Judgement
import RecordRules.Proofs.Record.Composition

/-!
# What a required path requires

A required path `parent.leaf` is to be there once under every parent. The
parents are the entries that are found at `parent` when lists and positions
are stepped through, as a path does it (`parentEntries`). The capability counts
instead: the items of the field `parent`, in which only one list is opened,
and the matches of the whole path.

The matches of the path are those of the leaf in the parents, one after the
other (`resolvePath_leaf`), so it compares what the parents have together
with another count of the parents (`required_compares_totals`). If the counts
of the parents agree, complete parents are accepted, and if no parent has the
leaf twice, no others are. They agree for parents that are plain
(`PlainParents.fieldItems_eq`). Otherwise a parent with two leaves can stand in
for one with none, and complete parents under positions are refused
(`required_accepts_incomplete_parents`).
-/

namespace RecordRules

/-! ## Entries -/

/-- The keys of the map are positions. A map without keys has none. -/
def isPositional (entries : List (String × Json)) : Bool :=
  !entries.isEmpty && entries.all (isPosition ·.1)

mutual

/-- What is found in a value when lists and positions are stepped through,
nulls left out. -/
def Json.entriesIn : Json → List Json
  | .null => []
  | .arr items => Json.entriesInItems items
  | .obj entries =>
    if isPositional entries then Json.entriesAtPositions entries else [.obj entries]
  | v => [v]

def Json.entriesInItems : List Json → List Json
  | [] => []
  | item :: items => item.entriesIn ++ Json.entriesInItems items

def Json.entriesAtPositions : List (String × Json) → List Json
  | [] => []
  | (_, child) :: entries => child.entriesIn ++ Json.entriesAtPositions entries

end

/-- The entries at a path. -/
def parentEntries (parent : String) (record : Json) : List Json :=
  (resolvePath parent record).flatMap Json.entriesIn

/-- There are parents, and each of them has the leaf once. -/
def isOnceUnder (parent leaf : String) (record : Json) : Bool :=
  !(parentEntries parent record).isEmpty
    && (parentEntries parent record).all fun entry => (resolvePath leaf entry).length == 1

mutual

/-- A walk goes through the entries of a value. -/
theorem walk_eq_flatMap_entriesIn (target : List Char) : (node : Json) →
    walk target none node = node.entriesIn.flatMap (walk target none)
  | .null => by simp [walk, Json.entriesIn]
  | .bool b => by simp [Json.entriesIn]
  | .num n => by simp [Json.entriesIn]
  | .str s => by simp [Json.entriesIn]
  | .arr items => by
      rw [walk, if_neg (Option.some_ne_none target).symm, Json.entriesIn]
      exact walkItems_eq_flatMap_entriesIn target items
  | .obj entries => by
      rw [Json.entriesIn]
      split
      next hpos =>
        simp only [isPositional, Bool.and_eq_true] at hpos
        rw [walk_record]
        exact walkEntries_eq_flatMap_entriesAt target entries (List.all_eq_true.mp hpos.2)
      next => simp

theorem walkItems_eq_flatMap_entriesIn (target : List Char) : (items : List Json) →
    walkItems target none items = (Json.entriesInItems items).flatMap (walk target none)
  | [] => rfl
  | item :: items => by
      rw [walkItems, Json.entriesInItems, List.flatMap_append,
        walk_eq_flatMap_entriesIn target item, walkItems_eq_flatMap_entriesIn target items]

theorem walkEntries_eq_flatMap_entriesAt (target : List Char) :
    (entries : List (String × Json)) → (∀ e ∈ entries, isPosition e.1 = true) →
    walkEntries target none entries =
      (Json.entriesAtPositions entries).flatMap (walk target none)
  | [], _ => rfl
  | (key, child) :: entries, hpos => by
      obtain ⟨hkey, hentries⟩ := List.forall_mem_cons.mp hpos
      rw [walkEntries, Json.entriesAtPositions, List.flatMap_append, if_pos hkey,
        walk_eq_flatMap_entriesIn target child,
        walkEntries_eq_flatMap_entriesAt target entries hentries]

end

theorem resolvePath_eq_walk {target : String} (h : target ≠ "") :
    resolvePath target = walk target.toList none := by
  funext v
  rw [resolvePath, if_neg (mt String.isEmpty_iff.mp h)]

/-- The matches of a path are the matches of its leaf in the parents. -/
theorem resolvePath_leaf {record : Json} {parent leaf : String}
    (hkeys : record.hasSimpleKeys = true) (hparent : parent ≠ "") (hleaf : leaf ≠ "") :
    resolvePath (parent ++ "." ++ leaf) record =
      (parentEntries parent record).flatMap (resolvePath leaf) := by
  rw [resolvePath_append hparent hleaf hkeys, parentEntries, List.flatMap_assoc,
    resolvePath_eq_walk hleaf]
  exact List.flatMap_congr fun v _ => walk_eq_flatMap_entriesIn leaf.toList v

/-! ## Plain parents -/

/-- The value is an entry, or null. -/
def Json.isPlainEntry : Json → Bool
  | .arr _ => false
  | .obj entries => !isPositional entries
  | _ => true

/-- The value is an entry, or a list of entries; or null. -/
def Json.isPlainParent : Json → Bool
  | .arr items => items.all Json.isPlainEntry
  | v => v.isPlainEntry

theorem Json.entriesIn_of_isPlainEntry {v : Json} (h : v.isPlainEntry = true) :
    v.entriesIn = if v.isNull then [] else [v] := by
  cases v with
  | arr items => cases h
  | obj entries =>
      have hpos : isPositional entries = false := by simpa [isPlainEntry] using h
      rw [entriesIn, hpos]
      rfl
  | null | bool b | num n | str s => rfl

theorem Json.entriesInItems_of_isPlainEntry {items : List Json}
    (h : ∀ v ∈ items, v.isPlainEntry = true) :
    entriesInItems items = items.filter (!·.isNull) := by
  induction items with
  | nil => rfl
  | cons v items ih =>
      obtain ⟨hv, hitems⟩ := List.forall_mem_cons.mp h
      rw [entriesInItems, ih hitems, entriesIn_of_isPlainEntry hv, List.filter_cons]
      cases v.isNull <;> rfl

theorem itemsOf_of_isPlainParent {v : Json} (h : v.isPlainParent = true) :
    itemsOf v = v.entriesIn := by
  cases v with
  | arr items =>
      exact (Json.entriesInItems_of_isPlainEntry (List.all_eq_true.mp h)).symm
  | obj entries =>
      have hplain : (Json.obj entries).isPlainEntry = true := h
      exact (Json.entriesIn_of_isPlainEntry hplain).symm
  | null | bool b | num n | str s => rfl

/-- The parents are entries or lists of entries. -/
structure PlainParents (parent : String) (record : Json) : Prop where
  /-- A simple name of the parent is not found anywhere but in the record. -/
  lookup : lookupField record parent = resolvePath parent record
  plain : ∀ v ∈ resolvePath parent record, v.isPlainParent = true

/-- The items of a field with plain parents are the parents. -/
theorem PlainParents.fieldItems_eq {parent : String} {record : Json}
    (h : PlainParents parent record) : fieldItems record parent = parentEntries parent record := by
  rw [fieldItems, h.lookup]
  exact List.flatMap_congr fun v hv => itemsOf_of_isPlainParent (h.plain v hv)

/-! ## Counting -/

section Counting

variable {α β : Type} {f : α → List β} {xs : List α}

theorem length_flatMap_le (h : ∀ x ∈ xs, (f x).length ≤ 1) :
    (xs.flatMap f).length ≤ xs.length := by
  induction xs with
  | nil => exact Nat.le_refl 0
  | cons x xs ih =>
      obtain ⟨hx, hxs⟩ := List.forall_mem_cons.mp h
      have hlength := ih hxs
      simp only [List.flatMap_cons, List.length_append, List.length_cons]
      omega

/-- Where each item gives at most one, there are as many only if each gives
one. -/
theorem length_flatMap_eq_iff (h : ∀ x ∈ xs, (f x).length ≤ 1) :
    (xs.flatMap f).length = xs.length ↔ ∀ x ∈ xs, (f x).length = 1 := by
  induction xs with
  | nil => simp
  | cons x xs ih =>
      obtain ⟨hx, hxs⟩ := List.forall_mem_cons.mp h
      have hlength := length_flatMap_le hxs
      rw [List.forall_mem_cons, ← ih hxs, List.flatMap_cons, List.length_append, List.length_cons]
      omega

end Counting

/-! ## Required paths -/

theorem parentPath?_append {parent leaf : String} (h : isDotted leaf = false) :
    parentPath? (parent ++ "." ++ leaf) = some parent := by
  have hleaf : ∀ c ∈ leaf.toList.reverse, (c != '.') = true := by
    intro c hc
    rw [bne_iff_ne]
    rintro rfl
    rw [isDotted, List.contains_iff_mem.mpr (List.mem_reverse.mp hc)] at h
    cases h
  have hdrop : (parent ++ "." ++ leaf).toList.reverse.dropWhile (· != '.') =
      '.' :: parent.toList.reverse := by
    rw [toList_behind, behind, List.reverse_append, List.reverse_cons, List.append_assoc,
      List.dropWhile_append_of_pos hleaf]
    rfl
  rw [parentPath?, hdrop]
  simp

/-- A path is there if there are items of its parent and as many leaves of the
parents together. -/
theorem isPresent_leaf {record : Json} {parent leaf : String}
    (hkeys : record.hasSimpleKeys = true) (hparent : parent ≠ "") (hleaf : leaf ≠ "")
    (hdot : isDotted leaf = false) :
    isPresent record (parent ++ "." ++ leaf) = true ↔
      fieldItems record parent ≠ [] ∧
        ((parentEntries parent record).flatMap (resolvePath leaf)).length =
          (fieldItems record parent).length := by
  rw [isPresent, parentPath?_append hdot, resolvePath_leaf hkeys hparent hleaf]
  simp only [Bool.and_eq_true, decide_eq_true_eq, beq_iff_eq, List.length_pos_iff]
  exact and_congr_right' eq_comm

/-- The capability says of a record whether the path is there. -/
theorem exists_required {record : Json} (hrecord : record.isCollection = true) {field : String}
    (hfield : field ≠ "") (message : Option String) :
    ∃ i, Instance.make (.field .required) (.field field) message = .ok i
      ∧ i.evaluate record = .ok (isPresent record field) := by
  have hname := Operand.fieldName_field hfield
  have hprepared : Kind.prepare (.field .required) (.field field) = .ok [] := by
    rw [Kind.prepare_eq_check (by simp), Kind.check, hname]
    rfl
  refine ⟨_, Instance.make_of_prepared hprepared message, ?_⟩
  have hjudge : FieldTest.judge (.field field) record .required = .ok (isPresent record field) := by
    rw [FieldTest.judge, hname, requireRecord_of_isCollection hrecord]
    rfl
  exact hjudge

theorem isOnceUnder_iff {parent leaf : String} {record : Json} :
    isOnceUnder parent leaf record = true ↔ parentEntries parent record ≠ []
      ∧ ∀ entry ∈ parentEntries parent record, (resolvePath leaf entry).length = 1 := by
  simp [isOnceUnder]

/-- **What a required path requires.** For a list or a map without dots in its
keys, the capability holds for a path `parent.leaf` exactly if the field
`parent` has items and the leaves of all parents together are as many. If there
are as many parents as items, it holds whenever there is one leaf under every
parent, and if no parent has two, only then. There are as many if the parents
are plain. -/
theorem required_compares_totals {record : Json} {parent leaf : String}
    (hrecord : record.isCollection = true) (hkeys : record.hasSimpleKeys = true)
    (hparent : parent ≠ "") (hleaf : leaf ≠ "") (hdot : isDotted leaf = false)
    (message : Option String) :
    ∃ i passed, Instance.make (.field .required) (.field (parent ++ "." ++ leaf)) message = .ok i
      ∧ i.evaluate record = .ok passed
      ∧ (passed = true ↔ fieldItems record parent ≠ [] ∧
        ((parentEntries parent record).flatMap (resolvePath leaf)).length =
          (fieldItems record parent).length)
      ∧ ((fieldItems record parent).length = (parentEntries parent record).length →
        (isOnceUnder parent leaf record = true → passed = true)
        ∧ ((∀ entry ∈ parentEntries parent record, (resolvePath leaf entry).length ≤ 1) →
          passed = isOnceUnder parent leaf record))
      ∧ (PlainParents parent record → fieldItems record parent = parentEntries parent record) := by
  have hfield : parent ++ "." ++ leaf ≠ "" := by simp
  obtain ⟨i, hmake, heval⟩ := exists_required hrecord hfield message
  have hpresent := isPresent_leaf hkeys hparent hleaf hdot
  refine ⟨i, _, hmake, heval, hpresent, ?_, PlainParents.fieldItems_eq⟩
  intro hcount
  rw [← List.length_pos_iff, hcount, List.length_pos_iff] at hpresent
  constructor
  · intro honce
    obtain ⟨hne, hone⟩ := isOnceUnder_iff.mp honce
    exact hpresent.mpr ⟨hne, (length_flatMap_eq_iff fun entry he => (hone entry he).le).mpr hone⟩
  · intro hleaves
    rw [Bool.eq_iff_iff, hpresent, isOnceUnder_iff, length_flatMap_eq_iff hleaves]

/-- Teams with one user or a list of them. -/
def teamsWithUsers : Json :=
  .obj [("teams", .arr [
    .obj [("users", .arr [.obj [("email", .str "a")], .null,
      .obj [("name", .null), ("7", .obj [("email", .null)])]])],
    .obj [("users", .obj [("name", .str "b"), ("email", .obj [("email", .str "c")])])]])]

theorem required_compares_totals_in_teams :
    (teamsWithUsers.isCollection = true ∧ teamsWithUsers.hasSimpleKeys = true
        ∧ "teams.users" ≠ "" ∧ "email" ≠ "" ∧ isDotted "email" = false)
      ∧ ∃ i, Instance.make (.field .required) (.field "teams.users.email") none = .ok i
        ∧ (parentEntries "teams.users" teamsWithUsers).length = 3
        ∧ i.evaluate teamsWithUsers = .ok true := by
  have hkeys : teamsWithUsers.hasSimpleKeys = true := by decide
  obtain ⟨i, passed, hmake, heval, -, honce, hplain⟩ :=
    @required_compares_totals teamsWithUsers "teams.users" "email" rfl hkeys (by decide)
      (by decide) (by decide) none
  have hitems := hplain ⟨by decide +kernel, by decide +kernel⟩
  have hpassed : passed = true := (honce (congrArg List.length hitems)).1 (by decide +kernel)
  rw [hpassed] at heval
  exact ⟨⟨rfl, hkeys, by decide, by decide, by decide⟩, i, hmake, by decide +kernel, heval⟩

/-- The first user is a list of two, and the other has no email. -/
def usersInLists : Json :=
  .obj [("users", .arr [.arr [.obj [("email", .str "a")], .obj [("email", .str "b")]],
    .obj [("name", .str "c")]])]

/-- Users under their positions. -/
def usersAtPositions : Json :=
  .obj [("users", .obj [("0", .obj [("email", .str "a")]), ("1", .obj [("email", .str "b")])])]

/-- Two emails of one user are taken for those of two users, and complete users
under positions are taken for one. -/
theorem required_accepts_incomplete_parents :
    (∃ i, Instance.make (.field .required) (.field "users.email") none = .ok i
      ∧ isOnceUnder "users" "email" usersInLists = false ∧ i.evaluate usersInLists = .ok true)
    ∧ ∃ i, Instance.make (.field .required) (.field "users.email") none = .ok i
      ∧ isOnceUnder "users" "email" usersAtPositions = true
      ∧ i.evaluate usersAtPositions = .ok false := by
  have hlists : isPresent usersInLists "users.email" = true := by decide +kernel
  have hpositions : isPresent usersAtPositions "users.email" = false := by decide +kernel
  have hfield : "users.email" ≠ "" := by decide
  constructor
  · obtain ⟨i, hmake, heval⟩ := @exists_required usersInLists rfl "users.email" hfield none
    rw [hlists] at heval
    exact ⟨i, hmake, by decide +kernel, heval⟩
  · obtain ⟨i, hmake, heval⟩ := @exists_required usersAtPositions rfl "users.email" hfield none
    rw [hpositions] at heval
    exact ⟨i, hmake, by decide +kernel, heval⟩

end RecordRules
