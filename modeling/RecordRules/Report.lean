import RecordRules.Json.Basic
import RecordRules.KeyedList
import RecordRules.Strictness

/-!
# Reports

A report is what an evaluation says about a record: whether the record
passed, whether the conditions exempted it, the outcome of every condition,
and for every field the booleans of its validators in the order in which they
were run, with a message for each that is false. Fields stand in the order in
which they were first evaluated.
-/

namespace RecordRules

/-- What became of a condition. -/
structure ConditionOutcome where
  field : String
  capability : String
  passed : Bool
  message : Option String
  deriving DecidableEq

/-- What became of the validators of a field. -/
structure FieldOutcome where
  field : String
  evaluated : List Bool := []
  errors : List String := []
  deriving DecidableEq

/-- What an evaluation says about a record. -/
structure Report where
  passed : Bool
  exempt : Bool
  strict : StrictMode
  conditionStatus : Option PassStatus
  validationStatus : Option PassStatus
  conditions : List ConditionOutcome
  fields : List FieldOutcome
  deriving DecidableEq

/-! ## Outcomes of fields -/

namespace FieldOutcome

/-- The outcome with one more boolean, and a message if it is false. -/
def add (passed : Bool) (message : String) (o : FieldOutcome) : FieldOutcome :=
  { o with
    evaluated := o.evaluated ++ [passed]
    errors := if passed then o.errors else o.errors ++ [message] }

def hasErrors (o : FieldOutcome) : Bool := !o.errors.isEmpty

/-- The outcomes with one more boolean for a field. -/
def record (field : String) (passed : Bool) (message : String) (os : List FieldOutcome) :
    List FieldOutcome :=
  KeyedList.update FieldOutcome.field field { field } (add passed message) os

def booleans (os : List FieldOutcome) : List Bool := os.flatMap FieldOutcome.evaluated

end FieldOutcome

namespace Report

/-! ## What a report tells -/

def field? (r : Report) (field : String) : Option FieldOutcome :=
  KeyedList.find? FieldOutcome.field field r.fields

def errors (r : Report) (field : String) : List String :=
  (r.field? field).elim [] FieldOutcome.errors

def hasErrors (r : Report) : Bool := r.fields.any FieldOutcome.hasErrors

def hasFieldErrors (r : Report) (field : String) : Bool := !(r.errors field).isEmpty

def errorFieldCount (r : Report) : Nat := r.fields.countP FieldOutcome.hasErrors

/-- The booleans of a field, if it was evaluated. -/
def evaluated? (r : Report) (field : String) : Option (List Bool) :=
  (r.field? field).map FieldOutcome.evaluated

def isEvaluated (r : Report) : Bool := !r.fields.isEmpty

def isFieldEvaluated (r : Report) (field : String) : Bool := (r.field? field).isSome

def errorMap (r : Report) : List (String × List String) :=
  (r.fields.filter FieldOutcome.hasErrors).map fun o => (o.field, o.errors)

end Report

/-! ## Written forms -/

def ConditionOutcome.toJson (o : ConditionOutcome) : Json :=
  .obj ([("field", .str o.field), ("capability", .str o.capability), ("passed", .bool o.passed)]
    ++ (o.message.map fun m => ("message", .str m)).toList)

/-- The outcome as a value; an empty list of messages is left out. -/
def FieldOutcome.toJson (o : FieldOutcome) : Json :=
  .obj ([("field", .str o.field), ("evaluated", .arr (o.evaluated.map Json.bool))]
    ++ if o.errors.isEmpty then [] else [("errors", .arr (o.errors.map Json.str))])

/-- The report as a value; what there is nothing to say about is left out. -/
def Report.toJson (r : Report) : Json :=
  .obj ([("passed", .bool r.passed), ("exempt", .bool r.exempt), ("strict", .str r.strict.name)]
    ++ (r.conditionStatus.map fun s => ("condition_status", .str s.name)).toList
    ++ (r.validationStatus.map fun s => ("validation_status", .str s.name)).toList
    ++ (if r.conditions.isEmpty then []
        else [("conditions", .arr (r.conditions.map ConditionOutcome.toJson))])
    ++ [("fields", .arr (r.fields.map FieldOutcome.toJson))])

end RecordRules
