import RecordRules.Rule.Basic

/-!
# Rules in documents

A document holds a rule in one of two forms: the written line, or a map with
the field, the capability, and perhaps a value and a message (`RuleBinding`).
`RuleEntry.toRule` reads either form. `RuleEntry.ofRule` saves a rule as a
line where the line reads back as the same rule, and as a map otherwise;
`Rule.fitsLine` is the test. A line cannot hold empty or padded text, colons
or commas within a value, or a list of one; and where a single value is
meant, no comma may stand anywhere in the line.
-/

namespace RecordRules

/-- A rule as a map. -/
structure RuleBinding where
  field : String
  /-- The capability in either spelling. -/
  capability : String
  value : Option Json
  message : Option String
  deriving DecidableEq

/-- A rule in a document. -/
inductive RuleEntry
  | line (text : String)
  | binding (b : RuleBinding)
  deriving DecidableEq

/-! ## Reading -/

/-- The rule that a map describes. The message is taken as it is. -/
def RuleBinding.toRule (registry : Registry) (b : RuleBinding) : Except ConfigError Rule :=
  let field := Text.trimmed b.field
  let capability := Text.trimmed b.capability
  if field.isEmpty || capability.isEmpty then
    .error (.malformedRule (b.field ++ ":" ++ b.capability))
  else
    Rule.resolve registry field capability (b.value.elim .absent Operand.ofJson) b.message

def RuleEntry.toRule (registry : Registry) : RuleEntry → Except ConfigError Rule
  | .line text => Rule.read registry text
  | .binding b => b.toRule registry

/-! ## Saving -/

def isTrimmed (s : String) : Bool := Text.trimmed s == s

def isPlain : Json → Bool
  | .str s => !s.isEmpty && !s.toList.contains ',' && !s.toList.contains ':' && isTrimmed s
  | .num _ | .bool _ => true
  | _ => false

/-- The items can be a value segment that is a list. -/
def arePlain (items : List Json) : Bool := 1 < items.length && items.all isPlain

namespace Rule

/-- The operand can be a value segment. -/
def valueFits (r : Rule) : Bool :=
  match r.value with
  | .absent | .field _ => true
  | .scalar v => isPlain v
  | .list items => arePlain items
  | .keyed f v =>
    f == r.field &&
      match v with
      | .null => true
      | .arr items => arePlain items
      | v => isPlain v

def hasSingleValue (r : Rule) : Bool :=
  match r.value with
  | .scalar _ => true
  | .keyed _ .null | .keyed _ (.arr _) => false
  | .keyed _ _ => true
  | _ => false

/-- There is a comma outside the value. -/
def hasStrayComma (r : Rule) : Bool :=
  r.field.toList.contains ',' || r.message.any (·.toList.contains ',')

def messageFits (r : Rule) : Bool := r.message.all fun m => !m.isEmpty && isTrimmed m

/-- The rule can be saved as a line. -/
def fitsLine (r : Rule) : Bool :=
  r.valueFits && !r.field.toList.contains ':' && isTrimmed r.field && r.messageFits
    && !(r.hasSingleValue && r.hasStrayComma)

/-- The value of the map that a rule is saved as; a value that the shape of the
capability makes up again is left out. -/
def savedValue (r : Rule) : Option Json :=
  match r.value with
  | .absent | .field _ => none
  | .keyed f v =>
    if f = r.field then
      match v with
      | .null => none
      | v => some v
    else some (.obj [(f, v)])
  | o => some o.toJson

end Rule

/-- The entry that a rule is saved as. -/
def RuleEntry.ofRule (r : Rule) : RuleEntry :=
  if r.fitsLine then .line r.render
  else .binding ⟨r.field, snakeCase r.capability, r.savedValue, r.message⟩

/-! ## Written forms -/

def RuleBinding.toJson (b : RuleBinding) : Json :=
  .obj ([("field", .str b.field), ("capability", .str b.capability)]
    ++ (b.value.map fun v => ("value", v)).toList
    ++ (b.message.map fun m => ("message", .str m)).toList)

def RuleEntry.toJson : RuleEntry → Json
  | .line text => .str text
  | .binding b => b.toJson

end RecordRules
