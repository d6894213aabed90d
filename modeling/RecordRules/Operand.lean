import RecordRules.Json.Printer
import RecordRules.Text

/-!
# Operands

An operand is what a capability compares against. How it comes about is a
property of the capability, its *shape*: a capability takes the value as it is
given, or pairs it with the field that it looks up in the record itself, or
takes only the name of that field. `Operand.shaped` brings a raw operand into
a shape; what has the shape already is kept, so shaping again changes nothing
(`shaped_shaped`).
-/

namespace RecordRules

/-- How the operand of a capability is derived from a rule. -/
inductive OperandShape
  /-- The value as it is given. -/
  | scalar
  /-- A field of the record together with a value. -/
  | fieldKeyed
  /-- The name of a field; a value is dropped. -/
  | fieldName
  deriving DecidableEq, Repr

namespace OperandShape

def name : OperandShape → String
  | .scalar => "scalar"
  | .fieldKeyed => "field_keyed"
  | .fieldName => "field_name"

def all : List OperandShape := [.scalar, .fieldKeyed, .fieldName]

/-- Capabilities of the shape look their field up themselves and are run
against the whole record. -/
def addressesField : OperandShape → Bool
  | .scalar => false
  | .fieldKeyed | .fieldName => true

end OperandShape

/-- What a capability compares against. -/
inductive Operand
  /-- No value was given. -/
  | absent
  | scalar (value : Json)
  | list (items : List Json)
  /-- A value for the field that the capability inspects. -/
  | keyed (field : String) (value : Json)
  /-- The field whose contents the capability inspects. -/
  | field (name : String)
  deriving DecidableEq

namespace Operand

/-- The raw operand that a value gives: none for null, a list for a list. -/
def ofJson : Json → Operand
  | .null => .absent
  | .arr items => .list items
  | v => .scalar v

def isAbsent : Operand → Bool
  | .absent => true
  | _ => false

def scalar? : Operand → Option Json
  | .scalar v => some v
  | _ => none

def list? : Operand → Option (List Json)
  | .list items => some items
  | _ => none

/-- The field of the record that the operand points at. -/
def targetField : Operand → Option String
  | .keyed f _ | .field f => some f
  | _ => none

/-! ## Shaping -/

/-- The operand paired with a field. A map with one entry names the field
itself. -/
def keyedFor (field : String) : Operand → Operand
  | .keyed f v => .keyed f v
  | .scalar (.obj [(f, v)]) => .keyed f v
  | .scalar v => .keyed field v
  | .absent => .keyed field .null
  | .list items => .keyed field (.arr items)
  | .field name => .keyed name .null

/-- The operand that only names a field. -/
def namedFor (field : String) : Operand → Operand
  | .field name => .field name
  | _ => .field field

/-- A raw operand in the shape of a capability that is bound to `field`. -/
def shaped (shape : OperandShape) (field : String) (operand : Operand) : Operand :=
  match shape with
  | .scalar => operand
  | .fieldKeyed => operand.keyedFor field
  | .fieldName => operand.namedFor field

@[simp] theorem shaped_scalar (field : String) (o : Operand) : o.shaped .scalar field = o := rfl

theorem exists_keyedFor (field : String) (o : Operand) : ∃ f v, o.keyedFor field = .keyed f v := by
  unfold keyedFor
  split <;> exact ⟨_, _, rfl⟩

theorem exists_namedFor (field : String) (o : Operand) : ∃ f, o.namedFor field = .field f := by
  unfold namedFor
  split <;> exact ⟨_, rfl⟩

/-- Shaping again changes nothing, whatever field is named. -/
theorem shaped_shaped (shape : OperandShape) (field other : String) (o : Operand) :
    (o.shaped shape field).shaped shape other = o.shaped shape field := by
  cases shape with
  | scalar => rfl
  | fieldKeyed =>
    obtain ⟨f, v, h⟩ := exists_keyedFor field o
    simp only [shaped, h]
    rfl
  | fieldName =>
    obtain ⟨f, h⟩ := exists_namedFor field o
    simp only [shaped, h]
    rfl

/-! ## Written forms -/

def toJson : Operand → Json
  | .absent => .null
  | .scalar v => v
  | .list items => .arr items
  | .keyed f v => .obj [(f, v)]
  | .field f => .str f

/-- A value in a rule's value segment: text as it is, null as nothing. -/
def segmentText : Json → String
  | .str s => s
  | .null => ""
  | v => v.render

/-- The values in a rule's value segment. -/
def segmentList (items : List Json) : String := Text.joined "," (items.map segmentText)

/-- The value segment of a rule, empty for operands that need none. -/
def segment : Operand → String
  | .absent | .field _ => ""
  | .scalar v => segmentText v
  | .list items => segmentList items
  | .keyed _ (.arr items) => segmentList items
  | .keyed _ v => segmentText v

end Operand

end RecordRules
