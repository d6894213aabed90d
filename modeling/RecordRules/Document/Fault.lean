import RecordRules.Document.Decode
import RecordRules.Document.Validate

/-!
# Why a text is no document

A text that holds no document has a cause for it (`DocumentFault`), which says
where the offence is. A cause is reported with its kind, its wording and the
path to the offence (`ParseError`); a report can also name a line and a
column. `LoadError` is what stops a set from being loaded: a text that holds
no document, a fault of the document, or a fault of a rule.
-/

namespace RecordRules

/-! ## Reports -/

/-- The kinds of offences in a text. -/
inductive OffenceKind
  | syntactic
  | typeMismatch
  | unknownVariant
  deriving DecidableEq, Repr

namespace OffenceKind

def all : List OffenceKind := [.syntactic, .typeMismatch, .unknownVariant]

def name : OffenceKind → String
  | .syntactic => "syntax"
  | .typeMismatch => "type_mismatch"
  | .unknownVariant => "unknown_variant"

def ofJson (v : Json) : Except DecodeError OffenceKind := decodeName name all v

end OffenceKind

/-- An entry of a map that is left out if there is no value. -/
def optionalEntry {α : Type} (key : String) (toJson : α → Json) (value : Option α) :
    List (String × Json) :=
  (value.map fun v => (key, toJson v)).toList

/-- A natural number as a value, or null beyond 64 bits. -/
def Json.ofNat (n : Nat) : Json :=
  match Integer.ofInt? n with
  | some i => .num (.int i)
  | none => .null

/-- A report on a text that holds no document. -/
structure ParseError where
  kind : OffenceKind
  message : String
  path : Option String := none
  line : Option Nat := none
  column : Option Nat := none
  deriving DecidableEq, Repr

namespace ParseError

/-- The wording of a report, behind its place if line and column are known. -/
def render (e : ParseError) : String :=
  match e.line, e.column with
  | some line, some column => toString line ++ ":" ++ toString column ++ ": " ++ e.message
  | _, _ => e.message

def toJson (e : ParseError) : Json :=
  .obj ([("kind", .str e.kind.name), ("message", .str e.message)]
    ++ optionalEntry "path" .str e.path ++ optionalEntry "line" .ofNat e.line
    ++ optionalEntry "column" .ofNat e.column)

end ParseError

def ValidationError.toJson (e : ValidationError) : Json :=
  .obj [("rule", .str e.rule), ("path", .str e.path), ("message", .str e.message)]

/-! ## Causes -/

/-- Why a text holds no document. A place is the path of an entry. -/
inductive DocumentFault
  | emptyText
  | severalDocuments
  | notYaml
  | rootNotMap
  | unknownSection (name : String)
  | sectionNotList (name : String)
  | entryNotRule (place : String)
  | fieldMissing (place key : String)
  | fieldUnknown (place key : String)
  | messageNotText (place : String)
  | undecodable (e : DecodeError)
  deriving DecidableEq

namespace DocumentFault

def kind : DocumentFault → OffenceKind
  | .emptyText | .severalDocuments | .notYaml => .syntactic
  | .rootNotMap | .unknownSection _ | .sectionNotList _ | .entryNotRule _ | .fieldMissing ..
  | .messageNotText _ => .typeMismatch
  | .fieldUnknown .. => .unknownVariant
  | .undecodable e =>
    match e with
    | .unknownVariant .. | .unknownField .. => .unknownVariant
    | .missingField _ | .invalidType .. => .typeMismatch
    | _ => .syntactic

def message : DocumentFault → String
  | .emptyText => "empty input"
  | .severalDocuments => "multi-document YAML is not supported"
  | .notYaml => "the text is not YAML"
  | .rootNotMap => "document root must be a YAML mapping"
  | .unknownSection name => "unknown top-level field: " ++ name
  | .sectionNotList name => "'" ++ name ++ "' must be a list of rules"
  | .entryNotRule place => "rule at " ++ place ++ " must be a string or a mapping"
  | .fieldMissing place key => "missing field " ++ DecodeError.ticked key ++ " at " ++ place
  | .fieldUnknown place key => "unknown field " ++ DecodeError.ticked key ++ " at " ++ place
  | .messageNotText place => "message at " ++ place ++ " must be a string"
  | .undecodable e => e.message

def path? : DocumentFault → Option String
  | .unknownSection name | .sectionNotList name => some name
  | .entryNotRule place => some place
  | .fieldMissing place key | .fieldUnknown place key => some (place ++ "." ++ key)
  | .messageNotText place => some (place ++ ".message")
  | _ => none

def report (f : DocumentFault) : ParseError where
  kind := f.kind
  message := f.message
  path := f.path?

end DocumentFault

/-! ## Loading -/

/-- What stops a set from being loaded. -/
inductive LoadError
  | parse (e : ParseError)
  | validation (e : ValidationError)
  | config (e : ConfigError)
  deriving DecidableEq

namespace LoadError

/-- The wording of an error with the stage that it comes from. -/
def message : LoadError → String
  | .parse e => "Parse error: " ++ e.render
  | .validation e => "Validation error: " ++ e.render
  | .config e => "Configuration error: " ++ e.message

def stage : LoadError → String
  | .parse _ => "Parse"
  | .validation _ => "Validation"
  | .config _ => "Config"

end LoadError

end RecordRules
