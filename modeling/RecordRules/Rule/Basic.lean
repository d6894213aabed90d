import RecordRules.Registry

/-!
# Rules

A rule binds a field to a capability, an operand and perhaps a message. It is
written on one line,

    field:capability[:value[,value]*][:message]

with the capability in the spelling of rules. `Rule.render` writes a rule and
`Rule.read` reads one. White space around the parts does not matter. The
message is everything after the third colon, so messages may hold colons. A
comma anywhere in the line, even in the message, makes the value a list. The
operand is then brought into the shape of its capability.
-/

namespace RecordRules

/-- A field bound to a capability and its operand. -/
structure Rule where
  field : String
  /-- The registered name of the capability. -/
  capability : String
  value : Operand
  message : Option String
  deriving DecidableEq

namespace Rule

/-! ## Writing -/

/-- The written form of a rule. A message needs the value segment in front of
it, even an empty one. -/
def render (r : Rule) : String :=
  let start := r.field ++ ":" ++ snakeCase r.capability
  let value := r.value.segment
  match r.message with
  | some message => start ++ ":" ++ value ++ ":" ++ message
  | none => if value.isEmpty then start else start ++ ":" ++ value

/-! ## Reading -/

/-- The parts of a written rule, without the white space around them. -/
def segments (text : String) : List String :=
  (Text.splitAtMost ':' 4 text.toList).map fun cs => String.ofList (Text.trim cs)

/-- The items of a value segment that is a list; empty ones are left out. -/
def listItems (segment : String) : List String :=
  (Text.pieces ',' segment).map Text.trimmed |>.filter (!·.isEmpty)

/-- The raw operand of a value segment. -/
def readValue (segment : String) (asList : Bool) : Operand :=
  if segment.isEmpty then .absent
  else if asList then
    match listItems segment with
    | [] => .absent
    | items => .list (items.map Json.str)
  else .scalar (.str segment)

/-- The rule with a raw operand, whose capability is looked up. -/
def resolve (registry : Registry) (field name : String) (value : Operand)
    (message : Option String) : Except ConfigError Rule := do
  let entry ← registry.resolve (titleCase name)
  return ⟨field, entry.name, value.shaped entry.shape field, message⟩

def read (registry : Registry) (text : String) : Except ConfigError Rule :=
  match segments text with
  | field :: name :: rest =>
    if field.isEmpty || name.isEmpty then .error (.malformedRule text)
    else
      let value := (rest[0]?).elim .absent fun s => readValue s (text.toList.contains ',')
      let message := (rest[1]?).filter (!·.isEmpty)
      resolve registry field name value message
  | _ => .error (.malformedRule text)

/-- The rules that several texts are, up to the first that is none. -/
def readAll (registry : Registry) (texts : List String) : Except ConfigError (List Rule) :=
  texts.mapM (read registry)

def toJson (r : Rule) : Json :=
  .obj ([("field", .str r.field), ("capability", .str r.capability), ("value", r.value.toJson)]
    ++ (r.message.map fun m => ("message", .str m)).toList)

end Rule

end RecordRules
