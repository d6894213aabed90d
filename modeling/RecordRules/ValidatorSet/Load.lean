import RecordRules.ValidatorSet.Declare

/-!
# Loading instances

Loading makes instances ahead of any evaluation. An instance can be loaded
directly; what its operand refers to is then put in place, if there is a
record to look it up in. Or all that is declared can be loaded against a
record, field by field: the bindings of a field that have no instance yet get
one, all or none of them. A field that fails ends the loading, and what was
loaded for the fields before it stays.
-/

namespace RecordRules

/-- The instance with references in its operand put in place. The operand is
checked again only if it changes. A null record is no record. -/
def Instance.resolve (record : Json) (i : Instance) : Except ConfigError Instance :=
  if record.isNull then .ok i
  else
    let resolved := i.operand.resolve record
    if resolved = i.operand then .ok i else i.setOperand resolved

/-- The field with more instances, of which the last `fromBindings` belong to
bindings. -/
def LoadedField.extend (instances : List Instance) (fromBindings : Nat) (l : LoadedField) :
    LoadedField :=
  { l with
    instances := l.instances ++ instances
    materialized := l.materialized + fromBindings }

/-- The set with more instances for a field, of which the last `fromBindings`
belong to bindings. -/
def ValidatorSet.addInstances (s : ValidatorSet) (field : String) (instances : List Instance)
    (fromBindings : Nat) : ValidatorSet :=
  { s with
    loaded := KeyedList.update LoadedField.field field { field }
      (.extend instances fromBindings) s.loaded }

namespace Building

/-- Loads an instance directly. -/
def loadValidator (field : String) (i : Instance) (record : Json) : Building Unit := do
  let i ← i.resolve record
  modify (·.addInstances field [i] 0)

def loadValidatorsToField (field : String) (instances : List Instance) (record : Json) :
    Building Unit :=
  instances.forM fun i => loadValidator field i record

/-- Loads what is declared for a field and has no instance yet. -/
def loadField (record : Json) (field : String) : Building Unit := do
  let instances ←
    (((← get).pending field).mapM (Binding.materialize record) : Except ConfigError (List Instance))
  unless instances.isEmpty do
    modify (·.addInstances field instances instances.length)

/-- Loads everything that is declared and has no instance yet. -/
def loadValidators (record : Json) : Building Unit := do
  (← get).fields.forM (loadField record)

end Building

namespace ValidatorSet

/-- The set with a field loaded. -/
def loadField (record : Json) (s : ValidatorSet) (field : String) :
    Except ConfigError ValidatorSet :=
  expectAll (s.after (Building.loadField record field))

/-- What a bulk load leaves, and its error. -/
def loadValidators (s : ValidatorSet) (record : Json) : ValidatorSet × Option ConfigError :=
  s.after (Building.loadValidators record)

/-- The set of ready instances of one field. -/
def ofInstances (field : String) (instances : List Instance) (strict : StrictMode) :
    ValidatorSet :=
  (empty.setStrict strict).addInstances field instances 0

end ValidatorSet

end RecordRules
