import RecordRules.Document.Build

/-!
# Histories of sets

A set has a start (`Start`) and is built by steps from there (`BuildStep`). A
step is run on the set (`BuildStep.run`) and may fail; the set goes on from
whatever the failed step left (`ValidatorSet.take`).

Apart from bulk loading, what a step does to a set hangs on the registry
alone. It comes to a list of attempts (`BuildStep.attempts`), each of which is a
change of the set or an error, and the changes are made up to the first error.
So a history comes down to a list of changes (`Change`), between which the set
may be loaded in bulk.
-/

namespace RecordRules

/-! ## Attempts -/

/-- What succeeded before the first error. -/
def successes {ε β : Type} : List (Except ε β) → List β
  | .ok b :: rs => b :: successes rs
  | _ => []

def firstError {ε β : Type} : List (Except ε β) → Option ε
  | [] => none
  | .ok _ :: rs => firstError rs
  | .error e :: _ => some e

/-! ## Changes -/

/-- A change of a set. -/
inductive Change
  /-- A binding is declared for a field. -/
  | bind (field : String) (b : Binding)
  /-- Ready instances are loaded for a field. -/
  | load (field : String) (instances : List Instance)
  /-- A condition is added. -/
  | gate (c : Condition)
  /-- The strictness is set. -/
  | strict (mode : StrictMode)

namespace Change

/-- The change that declares a validator. -/
def declaring (registry : Registry) (field capability : String) (value : Operand)
    (message : Option String) : Except ConfigError Change := do
  let b ← (ValidatorSet.withRegistry registry).bindingFor field capability value message
  return .bind field b

/-- The change that declares the validator of a rule. -/
def declaringRule (registry : Registry) (r : Rule) : Except ConfigError Change :=
  declaring registry r.field r.capability r.value r.message

/-- The change that declares the validator of an entry. -/
def declaringEntry (registry : Registry) (entry : RuleEntry) : Except ConfigError Change := do
  declaringRule registry (← entry.toRule registry)

/-- The change that adds the condition of an entry. -/
def gating (registry : Registry) (entry : RuleEntry) : Except ConfigError Change := do
  let rule ← entry.toRule registry
  return .gate (← Condition.ofRule registry rule)

/-- The change that loads an instance. -/
def loading (field : String) (record : Json) (i : Instance) : Except ConfigError Change := do
  return .load field [← i.resolve record]

def isLoad : Change → Bool
  | .load .. => true
  | _ => false

/-- The binding that the change declares for a field. -/
def bindingOn? (field : String) : Change → Option Binding
  | .bind f b => if f = field then some b else none
  | _ => none

/-- The instances that the change loads for a field. -/
def instancesOn (field : String) : Change → List Instance
  | .load f instances => if f = field then instances else []
  | _ => []

end Change

/-- The bindings that changes declare for a field, in order. -/
def declaredOn (field : String) (changes : List Change) : List Binding :=
  changes.filterMap (Change.bindingOn? field)

/-- The instances that changes load directly for a field, in order. -/
def loadedOn (field : String) (changes : List Change) : List Instance :=
  changes.flatMap (Change.instancesOn field)

def ValidatorSet.apply (s : ValidatorSet) : Change → ValidatorSet
  | .bind field b => s.addBinding field b
  | .load field instances => s.addInstances field instances 0
  | .gate c => s.addCondition c
  | .strict mode => s.setStrict mode

def ValidatorSet.applyAll (s : ValidatorSet) (changes : List Change) : ValidatorSet :=
  changes.foldl apply s

/-- Makes attempted changes up to the first error. -/
def ValidatorSet.tryAll (s : ValidatorSet) (attempts : List (Except ConfigError Change)) :
    ValidatorSet × Option ConfigError :=
  (s.applyAll (successes attempts), firstError attempts)

/-! ## Steps -/

/-- A step that builds a set. -/
inductive BuildStep
  | addValidator (field capability : String) (value : Operand) (message : Option String)
  | addValidatorsToField (field : String) (pairs : List (String × Operand))
  | addValidators (validators : List (String × List (String × Operand)))
  | addRule (r : Rule)
  | addValidatorFromRule (text : String)
  | addValidatorsFromRules (texts : List String)
  | loadValidator (field : String) (i : Instance) (record : Json)
  | loadValidatorsToField (field : String) (instances : List Instance) (record : Json)
  | loadValidators (record : Json)
  | addCondition (c : Condition)
  | addConditions (cs : List Condition)
  | addConditionFromRule (text : String)
  | addConditionsFromRules (texts : List String)
  | setStrict (mode : StrictMode)
  | setStrictLevel (level : Int)

namespace BuildStep

def run : BuildStep → Building Unit
  | .addValidator field capability value message =>
    Building.addValidator field capability value message
  | .addValidatorsToField field pairs => Building.addValidatorsToField field pairs
  | .addValidators validators => Building.addValidators validators
  | .addRule r => Building.addRule r
  | .addValidatorFromRule text => Building.addValidatorFromRule text
  | .addValidatorsFromRules texts => Building.addValidatorsFromRules texts
  | .loadValidator field i record => Building.loadValidator field i record
  | .loadValidatorsToField field instances record =>
    Building.loadValidatorsToField field instances record
  | .loadValidators record => Building.loadValidators record
  | .addCondition c => modify (·.addCondition c)
  | .addConditions cs => modify (·.addConditions cs)
  | .addConditionFromRule text => Building.addConditionFromRule text
  | .addConditionsFromRules texts => Building.addConditionsFromRules texts
  | .setStrict mode => modify (·.setStrict mode)
  | .setStrictLevel level => Building.setStrictLevel level

/-- What the step attempts over a registry, bulk loading apart. -/
def attempts (registry : Registry) : BuildStep → List (Except ConfigError Change)
  | .addValidator field capability value message =>
    [Change.declaring registry field capability value message]
  | .addValidatorsToField field pairs =>
    pairs.map fun (capability, value) => Change.declaring registry field capability value none
  | .addValidators validators =>
    (validators.flatMap fun (field, pairs) => pairs.map fun p => (field, p)).map
      fun (field, capability, value) => Change.declaring registry field capability value none
  | .addRule r => [Change.declaringRule registry r]
  | .addValidatorFromRule text => [Change.declaringEntry registry (.line text)]
  | .addValidatorsFromRules texts =>
    texts.map fun text => Change.declaringEntry registry (.line text)
  | .loadValidator field i record => [Change.loading field record i]
  | .loadValidatorsToField field instances record => instances.map (Change.loading field record)
  | .loadValidators _ => []
  | .addCondition c => [.ok (.gate c)]
  | .addConditions cs => cs.map fun c => .ok (.gate c)
  | .addConditionFromRule text => [Change.gating registry (.line text)]
  | .addConditionsFromRules texts => texts.map fun text => Change.gating registry (.line text)
  | .setStrict mode => [.ok (.strict mode)]
  | .setStrictLevel level =>
    match StrictMode.ofLevel? level with
    | some mode => [.ok (.strict mode)]
    | none => [.error (.invalidStrictLevel level)]

/-- The changes that the step makes over a registry, bulk loading apart. -/
def changes (registry : Registry) (st : BuildStep) : List Change :=
  successes (st.attempts registry)

def bulkRecord? : BuildStep → Option Json
  | .loadValidators record => some record
  | _ => none

def isBulkLoad (st : BuildStep) : Bool := st.bulkRecord?.isSome

/-- The step loads instances that no binding declares. -/
def loadsDirectly : BuildStep → Bool
  | .loadValidator .. | .loadValidatorsToField .. => true
  | _ => false

end BuildStep

namespace ValidatorSet

/-- Takes a step: the set it leaves, and the error if it failed. -/
def take (s : ValidatorSet) (st : BuildStep) : ValidatorSet × Option ConfigError := s.after st.run

/-- Takes steps in order, whether they fail or not. -/
def takeAll (s : ValidatorSet) (steps : List BuildStep) : ValidatorSet :=
  steps.foldl (fun s st => (s.take st).1) s

end ValidatorSet

/-! ## Starts -/

/-- How a set begins. -/
inductive Start
  | withRegistry (registry : Registry)
  | ofRules (texts : List String) (strict : StrictMode)
  | ofField (field : String) (pairs : List (String × Operand)) (strict : StrictMode)
  | ofInstances (field : String) (instances : List Instance) (strict : StrictMode)
  | ofDocument (registry : Registry) (d : Document)

namespace Start

def make : Start → Except ConfigError ValidatorSet
  | .withRegistry registry => .ok (ValidatorSet.withRegistry registry)
  | .ofRules texts strict => ValidatorSet.ofRules texts strict
  | .ofField field pairs strict => ValidatorSet.ofField field pairs strict
  | .ofInstances field instances strict => .ok (ValidatorSet.ofInstances field instances strict)
  | .ofDocument registry d => d.build registry

/-- The capabilities that are known from the start on. -/
def registry : Start → Registry
  | .withRegistry registry | .ofDocument registry _ => registry
  | _ => .builtin

/-- What is attempted at the start. -/
def attempts : Start → List (Except ConfigError Change)
  | .withRegistry _ => []
  | .ofRules texts strict =>
    .ok (.strict strict) :: texts.map fun text => Change.declaringEntry .builtin (.line text)
  | .ofField field pairs strict =>
    .ok (.strict strict) :: pairs.map fun (capability, value) =>
      Change.declaring .builtin field capability value none
  | .ofInstances field instances strict =>
    [.ok (.strict strict), .ok (.load field instances)]
  | .ofDocument registry d =>
    .ok (.strict d.strict)
      :: (d.conditions.map (Change.gating registry)
        ++ d.validators.map (Change.declaringEntry registry))

/-- The changes that are made at the start. -/
def changes (start : Start) : List Change := successes start.attempts

def build (start : Start) (steps : List BuildStep) : Except ConfigError ValidatorSet := do
  return (← start.make).takeAll steps

/-- All changes from the start on, bulk loading apart. -/
def history (start : Start) (steps : List BuildStep) : List Change :=
  start.changes ++ steps.flatMap (BuildStep.changes start.registry)

end Start

end RecordRules
