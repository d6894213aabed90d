import RecordRules.Calendar.Written
import RecordRules.Capability.Kind
import RecordRules.Error
import RecordRules.Net.Ipv4
import RecordRules.Pattern.Reader
import RecordRules.Record.Loose

/-!
# What operands hold

Capabilities read their operands as a number, as a pair of bounds, as a
subnet, as patterns, or as plain values. Each reading either succeeds or
says what is wrong with the operand. `check` makes the reading that a
capability will need; an operand that passes it never fails at evaluation.
-/

namespace RecordRules

namespace Operand

/-- The values of an operand: a scalar's one value, a list's items. A scalar
that is a list itself, as a reference to a list gives, stands for its items;
null for a field is no value. -/
def values : Operand → List Json
  | .absent | .field _ => []
  | .scalar (.arr items) => items
  | .scalar v => [v]
  | .list items => items
  | .keyed _ (.arr items) => items
  | .keyed _ .null => []
  | .keyed _ v => [v]

def number (o : Operand) : Except OperandFault Binary64 :=
  let read (v : Json) : Except OperandFault Binary64 :=
    match asNumber v with
    | some x => .ok x
    | none => .error (.notNumeric v)
  match o with
  | .scalar v => read v
  | .keyed _ v => read v
  | _ => .error .notOneNumber

def numberPair (o : Operand) : Except OperandFault (Binary64 × Binary64) :=
  match o.values with
  | [low, high] =>
    match asNumber low, asNumber high with
    | some x, some y => .ok (x, y)
    | _, _ => .error .boundsNotNumeric
  | vs => .error (.boundCount vs.length)

def moment (v : Json) : Except OperandFault Moment :=
  match (valueText v).bind Moment.read? with
  | some m => .ok m
  | none => .error (.notADate v)

def momentPair (o : Operand) : Except OperandFault (Moment × Moment) :=
  match o.values with
  | [low, high] => do
    let a ← moment low
    let b ← moment high
    return (a, b)
  | vs => .error (.dateCount vs.length)

def subnet (o : Operand) : Except OperandFault Subnet :=
  match o.scalar?.bind valueText with
  | none => .error .noSubnet
  | some text =>
    match Subnet.read? text.toList with
    | some s => .ok s
    | none => .error (.notASubnet text)

/-- The pattern that a value's text is; a value without a text is the empty
pattern. -/
def pattern (v : Json) : Except OperandFault Pattern :=
  let text := (valueText v).getD ""
  match Pattern.ofOperand? text with
  | some p => .ok p
  | none => .error (.badPattern text)

/-- The patterns of an operand, of which there is one at least. -/
def patterns (o : Operand) : Except OperandFault (List Pattern) :=
  if o.values.isEmpty then .error .noPattern else o.values.mapM pattern

/-- The field and the value of an operand for items. -/
def entry (o : Operand) : Except OperandFault (String × Json) :=
  match o with
  | .keyed f v => if f.isEmpty then .error .emptyFieldName else .ok (f, v)
  | _ => .error .notKeyed

def fieldName (o : Operand) : Except OperandFault String :=
  match o with
  | .field f => if f.isEmpty then .error .emptyFieldName else .ok f
  | _ => .error .notAFieldName

end Operand

/-! ## What a capability needs -/

def discard {ε α : Type} (r : Except ε α) : Except ε Unit := r.map fun _ => ()

def ValueTest.check (o : Operand) : ValueTest → Except OperandFault Unit
  | .between _ | .lengthBetween _ => discard o.numberPair
  | .count _ | .threshold _ | .length | .lengthBound _ => discard o.number
  | .dateTimeBetween _ => discard o.momentPair
  | .isSubnetOf => discard o.subnet
  | .regEx => discard o.patterns
  | _ => .ok ()

def ItemTest.check (o : Operand) (t : ItemTest) : Except OperandFault Unit := do
  discard o.entry
  match t with
  | .beyond _ | .count _ => discard o.number
  | .equals _ | .contains _ => .ok ()

def Kind.check (o : Operand) : Kind → Except OperandFault Unit
  | .value t => t.check o
  | .item t => t.check o
  | .field _ => discard o.fieldName

end RecordRules
