import RecordRules.Document.Basic

/-!
# Documents as values

Values are taken for modes, rules and documents here. A mode is its name or
its number. A rule is a text or a map; the map must have a field and a
capability and may not have keys that rules know nothing of. A document is a
map of its sections, in which other keys do not matter. Maps may also be
given as lists of their values in order.

The entries of a map are looked at in order, and the first that is wrong is
reported (`DecodeError`).
-/

namespace RecordRules

/-- Why a value is not what it is taken for. -/
inductive DecodeError
  | unknownVariant (found : String) (known : List String)
  | invalidType (found : String) (expected : String)
  | invalidLength (length : Nat) (expected : String)
  | missingField (name : String)
  | unknownField (found : String) (known : List String)
  | notAnEntry
  | levelNotInteger (found : Number)
  | levelOutOfRange (level : Int)
  | notAMode
  deriving DecidableEq

namespace DecodeError

def ticked (name : String) : String := "`" ++ name ++ "`"

def choice : List String → String
  | [a] => ticked a
  | [a, b] => ticked a ++ " or " ++ ticked b
  | names => "one of " ++ Text.joined ", " (names.map ticked)

def message : DecodeError → String
  | .unknownVariant found known =>
    "unknown variant " ++ ticked found ++ ", expected " ++ choice known
  | .invalidType found expected => "invalid type: " ++ found ++ ", expected " ++ expected
  | .invalidLength n expected => "invalid length " ++ toString n ++ ", expected " ++ expected
  | .missingField name => "missing field " ++ ticked name
  | .unknownField found known => "unknown field " ++ ticked found ++ ", expected " ++ choice known
  | .notAnEntry => "data did not match any variant of untagged enum RuleEntry"
  | .levelNotInteger n => "strict level must be an integer, got " ++ n.render
  | .levelOutOfRange n => "strict level must be between 0 and 3, got " ++ toString n
  | .notAMode => "strict must be a string or an integer level"

end DecodeError

/-! ## Simple values -/

/-- A character of a text that is shown between quotes. -/
def shownChar (c : Char) : List Char :=
  if c = '"' then ['\\', '"']
  else if c = '\\' then ['\\', '\\']
  else if c = '\n' then ['\\', 'n']
  else if c = '\r' then ['\\', 'r']
  else if c = '\t' then ['\\', 't']
  else if c = '\x00' then ['\\', '0']
  else if c.toNat < 0x20 || (0x7F ≤ c.toNat && c.toNat < 0xA0) then
    ['\\', 'u', '\x7b'] ++ Nat.toDigits 16 c.toNat ++ ['\x7d']
  else [c]

def Json.found : Json → String
  | .null => "null"
  | .bool b => "boolean " ++ DecodeError.ticked (if b then "true" else "false")
  | .num (.int n) => "integer " ++ DecodeError.ticked (toString n.val)
  | .num (.float x) => "floating point " ++ DecodeError.ticked x.render
  | .str s => "string \"" ++ String.ofList (s.toList.flatMap shownChar) ++ "\""
  | .arr _ => "sequence"
  | .obj _ => "map"

/-- The value is something else than is expected. -/
def wrongType {α : Type} (v : Json) (expected : String) : Except DecodeError α :=
  .error (.invalidType v.found expected)

def decodeText : Json → Except DecodeError String
  | .str s => .ok s
  | v => wrongType v "a string"

def decodeOptionalText : Json → Except DecodeError (Option String)
  | .null => .ok none
  | v => (decodeText v).map some

def decodeList {α : Type} (decode : Json → Except DecodeError α) :
    Json → Except DecodeError (List α)
  | .arr items => items.mapM decode
  | v => wrongType v "a sequence"

def decodeName {α : Type} (name : α → String) (all : List α) (v : Json) : Except DecodeError α :=
  match v with
  | .str s =>
    match all.find? (name · == s) with
    | some a => .ok a
    | none => .error (.unknownVariant s (all.map name))
  | v => wrongType v "string or map"

def OperandShape.ofJson (v : Json) : Except DecodeError OperandShape :=
  decodeName OperandShape.name OperandShape.all v

def StrictMode.ofJson : Json → Except DecodeError StrictMode
  | .str s =>
    match StrictMode.ofName? s with
    | .some m => .ok m
    | .none => .error (.unknownVariant s (StrictMode.all.map StrictMode.name))
  | .num (.int n) =>
    if n.val < power 2 63 then
      match StrictMode.ofLevel? n.val with
      | .some m => .ok m
      | .none => .error (.levelOutOfRange n.val)
    else .error (.levelNotInteger (.int n))
  | .num n => .error (.levelNotInteger n)
  | _ => .error .notAMode

/-! ## Rules -/

/-- The parts of a rule's map that have been read. -/
structure BindingParts where
  field : Option String := none
  capability : Option String := none
  value : Option Json := none
  message : Option String := none

namespace BindingParts

def keys : List String := ["field", "capability", "value", "message"]

/-- A value that null takes away. -/
def presentValue : Json → Option Json
  | .null => none
  | v => some v

def put (p : BindingParts) (entry : String × Json) : Except DecodeError BindingParts := do
  let (key, v) := entry
  if key = "field" then return { p with field := some (← decodeText v) }
  else if key = "capability" then return { p with capability := some (← decodeText v) }
  else if key = "value" then return { p with value := presentValue v }
  else if key = "message" then return { p with message := ← decodeOptionalText v }
  else .error (.unknownField key keys)

/-- The rule, whose field and capability must be there. -/
def finish (p : BindingParts) : Except DecodeError RuleBinding :=
  match p.field, p.capability with
  | some field, some capability => .ok ⟨field, capability, p.value, p.message⟩
  | none, _ => .error (.missingField "field")
  | _, none => .error (.missingField "capability")

end BindingParts

/-- A map that is given as the list of its values. -/
def tooManyItems {α : Type} (length : Nat) : Except DecodeError α :=
  .error (.invalidLength length "fewer elements in array")

def RuleBinding.ofJson : Json → Except DecodeError RuleBinding
  | .obj entries => do (← entries.foldlM BindingParts.put {}).finish
  | .arr items =>
    match items with
    | [] => .error (.invalidLength 0 "struct RuleBinding with 4 elements")
    | [field] => do
      discard (decodeText field)
      .error (.invalidLength 1 "struct RuleBinding with 4 elements")
    | field :: capability :: rest => do
      let field ← decodeText field
      let capability ← decodeText capability
      let value := (rest[0]?).bind BindingParts.presentValue
      let message ← (rest[1]?).elim (.ok none) decodeOptionalText
      if rest.length > 2 then tooManyItems items.length
      else return ⟨field, capability, value, message⟩
  | v => wrongType v "struct RuleBinding"

def RuleEntry.ofJson (v : Json) : Except DecodeError RuleEntry :=
  match v with
  | .str text => .ok (.line text)
  | v =>
    match RuleBinding.ofJson v with
    | .ok b => .ok (.binding b)
    | .error _ => .error .notAnEntry

/-! ## Documents -/

namespace Document

def put (d : Document) (entry : String × Json) : Except DecodeError Document := do
  let (key, v) := entry
  if key = "strict" then return { d with strict := ← StrictMode.ofJson v }
  else if key = "conditions" then return { d with conditions := ← decodeList RuleEntry.ofJson v }
  else if key = "validators" then return { d with validators := ← decodeList RuleEntry.ofJson v }
  else return d

def ofJson : Json → Except DecodeError Document
  | .obj entries => entries.foldlM put {}
  | .arr items => do
    let d ← (["strict", "conditions", "validators"].zip items).foldlM put {}
    if items.length > 3 then tooManyItems items.length else return d
  | v => wrongType v "struct RuleSetDocument"

end Document

end RecordRules
