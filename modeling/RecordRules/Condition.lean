import RecordRules.Reference
import RecordRules.Rule.Entry

/-!
# Conditions

A condition is a rule that decides whether a record is validated at all. Its
capability is looked up when the condition is made; its value is kept as it
was declared, and what the value refers to is looked up in every record anew.

A condition on a simple field requires the record to have that field, unless
it is told otherwise. A capability that addresses its field itself is run on
the whole record. Any other is run on the value of the field, which for a
path is its single match or the list of its matches; where there is none the
condition fails.
-/

namespace RecordRules

/-- A rule that decides whether a record is validated. -/
structure Condition where
  field : String
  entry : Entry
  value : Operand
  message : Option String := none
  requiresField : Bool := true

namespace Condition

/-! ## Making conditions -/

/-- A condition with an operand as it is, in whatever shape. -/
def new (registry : Registry) (field capability : String) (value : Operand) :
    Except ConfigError Condition := do
  let entry ← registry.resolve capability
  return { field, entry, value }

def ofRule (registry : Registry) (r : Rule) : Except ConfigError Condition := do
  let entry ← registry.resolve r.capability
  return { field := r.field, entry, value := r.value, message := r.message }

def read (registry : Registry) (text : String) : Except ConfigError Condition := do
  ofRule registry (← Rule.read registry text)

def toRule (c : Condition) : Rule := ⟨c.field, c.entry.name, c.value, c.message⟩

def render (c : Condition) : String := c.toRule.render

/-! ## Running conditions -/

/-- The instance that is run on a record. -/
def bind (c : Condition) (record : Json) : Except ConfigError Instance :=
  c.entry.bind c.field (c.value.resolve record) c.message

/-- The record lacks the simple field that the condition requires. -/
def lacksField (c : Condition) (record : Json) : Bool :=
  !isDotted c.field && c.requiresField && (record.get? c.field).isNone

/-- What the condition is run on. -/
def subject? (c : Condition) (record : Json) : Option Json :=
  if c.entry.shape.addressesField then some record
  else if isDotted c.field then gather (resolvePath c.field record)
  else record.get? c.field

def evaluate (c : Condition) (record : Json) : Except ConfigError Bool :=
  if c.lacksField record then .error (.missingField c.field)
  else do
    let i ← c.bind record
    match c.subject? record with
    | some subject => i.evaluate subject
    | none => return false

end Condition

end RecordRules
