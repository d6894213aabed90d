import RecordRules.Capability.Instance
import RecordRules.Capability.Name
import RecordRules.KeyedList

/-!
# Registries

A registry says what the names of capabilities stand for. It holds its entries
in the order in which their names were first registered, and beside them an
index from every name to the place of its entry. An entry that is registered
again takes the place of the old one. Names are looked up in their registered
spelling, so either spelling of a name finds its entry.

The index always agrees with the entries; that is part of what a registry is
(`index_eq`). So a registry behaves as the list of its entries under their
names, which the index only makes faster: what is looked up is the entry with
the name (`get?_eq_find?`), and an entry that is inserted changes the one with
its name or goes to the end (`entries_insert`).

A registered capability that is not built in is made by a constructor of its
own, which may do with the operand and the message as it likes.
-/

namespace RecordRules

/-! ## Entries -/

/-- How the instances of a registered capability are made. -/
inductive Constructor
  | builtin (kind : Kind)
  | custom (build : Operand → Option String → Except ConfigError Instance)

/-- A registered capability. -/
structure Entry where
  name : String
  shape : OperandShape
  constructor : Constructor
  titleCase_name : titleCase name = name

namespace Kind

theorem titleCase_name (k : Kind) : titleCase k.name = k.name := by
  have hall : ∀ k ∈ catalogue, titleChars k.name.toList = k.name.toList := by decide +kernel
  rw [titleCase, hall k k.mem_catalogue, String.ofList_toList]

theorem nodup_names : (catalogue.map name).Nodup := by decide +kernel

end Kind

namespace Entry

def ofKind (k : Kind) : Entry := ⟨k.name, k.shape, .builtin k, k.titleCase_name⟩

/-- An instance with an operand that has its shape already. -/
def construct (e : Entry) (operand : Operand) (message : Option String) :
    Except ConfigError Instance :=
  match e.constructor with
  | .builtin kind => Instance.make kind operand message
  | .custom build => build operand message

/-- An instance for a field with a raw operand. -/
def bind (e : Entry) (field : String) (operand : Operand) (message : Option String) :
    Except ConfigError Instance :=
  e.construct (operand.shaped e.shape field) message

end Entry

/-! ## Registries -/

/-- What names of capabilities stand for. -/
structure Registry where
  entries : List Entry
  /-- The place of every name among the entries. -/
  index : List (String × Nat)
  index_eq : index = (entries.map Entry.name).zipIdx
  nodup_names : (entries.map Entry.name).Nodup

namespace Registry

def empty : Registry := ⟨[], [], rfl, List.nodup_nil⟩

def builtin : Registry where
  entries := Kind.catalogue.map Entry.ofKind
  index := (Kind.catalogue.map Kind.name).zipIdx
  index_eq := by rw [List.map_map]; rfl
  nodup_names := by rw [List.map_map]; exact Kind.nodup_names

/-! ## Looking up -/

def get? (r : Registry) (name : String) : Option Entry :=
  (r.index.lookup (titleCase name)).bind (r.entries[·]?)

def resolve (r : Registry) (name : String) : Except ConfigError Entry :=
  match r.get? name with
  | some e => .ok e
  | none => .error (.unknownCapability name)

def contains (r : Registry) (name : String) : Bool := (r.get? name).isSome

def shapeOf? (r : Registry) (name : String) : Option OperandShape := (r.get? name).map Entry.shape

def names (r : Registry) : List String := r.entries.map Entry.name

def size (r : Registry) : Nat := r.entries.length

def isEmpty (r : Registry) : Bool := r.entries.isEmpty

theorem lookup_index (r : Registry) (name : String) :
    r.index.lookup name = r.names.idxOf? name := by
  rw [r.index_eq, KeyedList.lookup_zipIdx]
  simp [names]

theorem get?_eq_find? (r : Registry) (name : String) :
    r.get? name = KeyedList.find? Entry.name (titleCase name) r.entries := by
  rw [get?, lookup_index, KeyedList.find?_eq_getElem?]
  rfl

/-! ## Registering -/

/-- An entry in the place of its name leaves all names where they are. -/
theorem names_set {r : Registry} {e : Entry} {i : Nat}
    (h : r.index.lookup (titleCase e.name) = some i) :
    (r.entries.set i e).map Entry.name = r.names := by
  rw [e.titleCase_name, lookup_index, List.idxOf?_eq_some_iff] at h
  obtain ⟨hi, hname, -⟩ := h
  rw [List.map_set, ← hname]
  exact List.set_getElem_self hi

theorem notMem_names {r : Registry} {e : Entry} (h : r.index.lookup (titleCase e.name) = none) :
    e.name ∉ r.names := by
  rwa [e.titleCase_name, lookup_index, List.idxOf?_eq_none_iff] at h

/-- The registry with one more entry, which takes the place of one with the
same name. -/
def insert (r : Registry) (e : Entry) : Registry :=
  match h : r.index.lookup (titleCase e.name) with
  | some i =>
    { entries := r.entries.set i e
      index := r.index
      index_eq := by rw [names_set h, names, r.index_eq]
      nodup_names := by rw [names_set h]; exact r.nodup_names }
  | none =>
    { entries := r.entries ++ [e]
      index := r.index ++ [(titleCase e.name, r.entries.length)]
      index_eq := by
        rw [List.map_append, List.zipIdx_append, ← r.index_eq, e.titleCase_name]
        simp
      nodup_names := by
        rw [List.map_append, List.nodup_append]
        refine ⟨r.nodup_names, by simp, ?_⟩
        rintro name hname _ hlast rfl
        rw [List.mem_singleton.mp hlast] at hname
        exact notMem_names h hname }

theorem entries_insert (r : Registry) (e : Entry) :
    (r.insert e).entries = KeyedList.update Entry.name e.name e (fun _ => e) r.entries := by
  unfold insert
  split
  next i h =>
    rw [e.titleCase_name, lookup_index] at h
    exact (KeyedList.update_eq_set h e e).symm
  next h => exact (KeyedList.update_of_notMem (notMem_names h) e fun _ => e).symm

/-- Registers a capability with a constructor of its own. -/
def register (r : Registry) (name : String) (shape : OperandShape)
    (build : Operand → Option String → Except ConfigError Instance) : Registry :=
  r.insert ⟨titleCase name, shape, .custom build, titleCase_titleCase name⟩

end Registry

/-- The built-in capabilities in both spellings of their names. -/
def availableCapabilities : List (String × String) :=
  Kind.catalogue.map fun k => (k.name, snakeCase k.name)

end RecordRules
