import RecordRules.Condition
import RecordRules.Report

/-!
# Sets of validators

A set holds the validators that are declared for the fields of a record, the
instances that are already made for some of them, the conditions, and how
strict it is about both groups.

A declared validator is a `Binding`. Its instance is made when a record is at
hand, since its operand may refer to the record. Instances are made once and
for all by loading: `LoadedField.materialized` says how many of the first
bindings of a field have their instance among the loaded ones. Instances may
also be loaded directly, without a binding.
-/

namespace RecordRules

/-- A declared validator: a capability with its operand in shape. -/
structure Binding where
  entry : Entry
  value : Operand
  message : Option String

namespace Binding

/-- The instance for a record, with references put in place. -/
def materialize (record : Json) (b : Binding) : Except ConfigError Instance :=
  b.entry.construct (b.value.resolve record) b.message

def toRule (field : String) (b : Binding) : Rule := ⟨field, b.entry.name, b.value, b.message⟩

end Binding

/-- The validators declared for a field. -/
structure DeclaredField where
  field : String
  bindings : List Binding := []

/-- The instances loaded for a field. -/
structure LoadedField where
  field : String
  instances : List Instance := []
  /-- How many of the field's first bindings have their instance here. -/
  materialized : Nat := 0

/-- Validators and conditions over one kind of record. -/
structure ValidatorSet where
  registry : Registry
  declared : List DeclaredField := []
  loaded : List LoadedField := []
  conditions : List Condition := []
  strict : StrictMode := .both

namespace ValidatorSet

/-- The set without a rule, over some registry. -/
def withRegistry (registry : Registry) : ValidatorSet := { registry }

/-- The set without a rule, over the built-in capabilities. -/
def empty : ValidatorSet := withRegistry .builtin

/-! ## Inspection -/

def declaredField? (s : ValidatorSet) (field : String) : Option DeclaredField :=
  KeyedList.find? DeclaredField.field field s.declared

def loadedField? (s : ValidatorSet) (field : String) : Option LoadedField :=
  KeyedList.find? LoadedField.field field s.loaded

def bindings (s : ValidatorSet) (field : String) : List Binding :=
  (s.declaredField? field).elim [] DeclaredField.bindings

/-- The fields with declared validators, in order. -/
def fields (s : ValidatorSet) : List String := s.declared.map DeclaredField.field

def instances (s : ValidatorSet) (field : String) : List Instance :=
  (s.loadedField? field).elim [] LoadedField.instances

/-- How many of a field's bindings have a loaded instance. -/
def materialized (s : ValidatorSet) (field : String) : Nat :=
  (s.loadedField? field).elim 0 LoadedField.materialized

/-- The bindings of a field that have no loaded instance. -/
def pending (s : ValidatorSet) (field : String) : List Binding :=
  (s.bindings field).drop (s.materialized field)

/-- Something was loaded for the field. -/
def isLoaded (s : ValidatorSet) (field : String) : Bool := (s.loadedField? field).isSome

def hasValidators (s : ValidatorSet) : Bool := !s.declared.isEmpty

/-- Some instance is loaded. -/
def hasLoadedValidators (s : ValidatorSet) : Bool := s.loaded.any (!·.instances.isEmpty)

def hasConditions (s : ValidatorSet) : Bool := !s.conditions.isEmpty

/-- Strict about one group at least. -/
def isStrict (s : ValidatorSet) : Bool := s.strict != .none

end ValidatorSet

end RecordRules
