import RecordRules.ValidatorSet.Load

/-!
# Evaluating a record

A record is evaluated in two phases. The conditions come first; if they do
not let the record in, it is exempt and passes without any validation.
Otherwise every validator is run, and its boolean is recorded under its
field.

Which validators are run, and in which order, does not hang on the record:
`agenda` lists them. Loaded fields come first, each with its instances and
then its bindings that have none; the fields of which nothing is loaded
follow. An instance that is missing is made when its turn comes, so an error
in making it comes after the errors of those before it.
-/

namespace RecordRules

namespace ValidatorSet

/-! ## Conditions -/

def runCondition (record : Json) (c : Condition) : Except ConfigError ConditionOutcome := do
  let passed ← c.evaluate record
  return ⟨c.field, c.entry.name, passed, c.message⟩

/-- The group that the outcomes of conditions make. -/
def conditionStatus (outcomes : List ConditionOutcome) : PassStatus :=
  .ofCounts outcomes.length (outcomes.countP ConditionOutcome.passed)

/-- Conditions of that status let the record in. -/
def opens (strict : StrictMode) (status : PassStatus) : Bool :=
  if strict.conditionsStrict then status == .all else status.anyPassed

def runConditions (s : ValidatorSet) (record : Json) :
    Except ConfigError (List ConditionOutcome) :=
  s.conditions.mapM (runCondition record)

def evaluateConditions (s : ValidatorSet) (record : Json) : Except ConfigError Bool := do
  return opens s.strict (conditionStatus (← s.runConditions record))

/-! ## Validators -/

/-- A validator to be run. -/
inductive Task
  /-- An instance that is loaded. -/
  | ready (i : Instance)
  /-- A binding whose instance is still to be made. -/
  | pending (b : Binding)

/-- The instance of a task. -/
def Task.materialize (record : Json) : Task → Except ConfigError Instance
  | .ready i => .ok i
  | .pending b => b.materialize record

/-- What a capability of a field is run on. One that addresses its field
itself is run on the whole record. Any other is run on the value of the field;
where that is missing or null, on the whole record. -/
def subject (field : String) (i : Instance) (record : Json) : Json :=
  if i.operand.targetField.isSome then record
  else if isDotted field then (gather (resolvePath field record)).getD record
  else
    match record.get? field with
    | none | some .null => record
    | some v => v

/-- Everything that is run for a record, with its fields, in order. -/
def agenda (s : ValidatorSet) : List (String × Task) :=
  (s.loaded.flatMap fun l =>
    l.instances.map (fun i => (l.field, Task.ready i))
      ++ ((s.bindings l.field).drop l.materialized).map fun b => (l.field, Task.pending b))
  ++ ((s.declared.filter fun d => !s.isLoaded d.field).flatMap fun d =>
    d.bindings.map fun b => (d.field, Task.pending b))

def runTask (record : Json) (outcomes : List FieldOutcome) (task : String × Task) :
    Except ConfigError (List FieldOutcome) := do
  let (field, t) := task
  let i ← t.materialize record
  let passed ← i.evaluate (subject field i record)
  return FieldOutcome.record field passed i.message outcomes

def runValidators (s : ValidatorSet) (record : Json) : Except ConfigError (List FieldOutcome) :=
  s.agenda.foldlM (runTask record) []

/-- The group that the booleans of validators make. -/
def validationStatus (outcomes : List FieldOutcome) : PassStatus :=
  let bs := FieldOutcome.booleans outcomes
  .ofCounts bs.length (bs.countP id)

/-! ## Both phases -/

/-- The report on a record that the conditions do not let in. -/
def exemptReport (strict : StrictMode) (conditions : List ConditionOutcome) : Report where
  passed := true
  exempt := true
  strict := strict
  conditionStatus := some (conditionStatus conditions)
  validationStatus := none
  conditions := conditions
  fields := []

def validatedReport (strict : StrictMode) (conditionStatus : Option PassStatus)
    (conditions : List ConditionOutcome) (fields : List FieldOutcome) : Report where
  passed :=
    if strict.validationsStrict then !fields.any FieldOutcome.hasErrors
    else (validationStatus fields).anyPassed
  exempt := false
  strict := strict
  conditionStatus := conditionStatus
  validationStatus := some (validationStatus fields)
  conditions := conditions
  fields := fields

def evaluate (s : ValidatorSet) (record : Json) : Except ConfigError Report :=
  if s.hasConditions then do
    let outcomes ← s.runConditions record
    let status := conditionStatus outcomes
    if opens s.strict status then
      return validatedReport s.strict (some status) outcomes (← s.runValidators record)
    else return exemptReport s.strict outcomes
  else do
    return validatedReport s.strict none [] (← s.runValidators record)

end ValidatorSet

end RecordRules
