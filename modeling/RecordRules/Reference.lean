import RecordRules.Operand
import RecordRules.Record.Loose
import RecordRules.Record.Path

/-!
# References between fields

A text in an operand may stand for a value of the record. In brackets,
`[name]`, it always does, by a key or a path; if the record has no such value
the text stays as it is. A bare text does where it is a key of the record and
no number. The name of a field that an operand points at is never replaced.
-/

namespace RecordRules

/-- The name between brackets. -/
def bracketReference? (text : String) : Option String :=
  match text.toList with
  | '[' :: rest =>
    match rest.reverse with
    | ']' :: inner =>
      let name := Text.trim inner.reverse
      if name.isEmpty then none else some (String.ofList name)
    | _ => none
  | _ => none

/-- What a text stands for in a record. -/
def resolveText (record : Json) (text : String) : Json :=
  match bracketReference? text with
  | some name => (gather (lookupField record name)).getD (.str text)
  | none => if (numberInText text).isSome then .str text else (record.get? text).getD (.str text)

/-- A value with what it refers to put in its place. -/
def resolveValue (record : Json) : Json → Json
  | .str text => resolveText record text
  | v => v

/-- An operand with what it refers to put in its place. -/
def Operand.resolve (record : Json) : Operand → Operand
  | .absent => .absent
  | .scalar v => .scalar (resolveValue record v)
  | .list items => .list (items.map (resolveValue record))
  | .keyed f v => .keyed f (resolveValue record v)
  | .field f => .field f

end RecordRules
