import RecordRules.Condition
import RecordRules.Document.Basic

/-!
# Validating documents

Validation finds everything that is wrong with a document, not only the first
fault, and builds nothing.

- V-001: every rule has a field and a capability;
- V-002: every capability is registered;
- V-003: every operand suits its capability;
- W-001: the document declares a rule;
- W-002: no rule is declared twice in a section;
- W-003: an operand that does not suit its capability looks like a reference,
  so that it is only judged at evaluation.

Every entry is judged on its own (`judgeEntry`); only W-002 looks at the
entries before it.
-/

namespace RecordRules

/-- A fault of a document. -/
structure ValidationError where
  rule : String
  path : String
  message : String
  deriving DecidableEq, Repr

def ValidationError.render (e : ValidationError) : String :=
  e.rule ++ " at " ++ e.path ++ ": " ++ e.message

/-- Something about a document that is no fault. -/
structure Warning where
  code : String
  path : Option String
  message : String
  deriving DecidableEq, Repr

/-- Everything found in a document. -/
structure ValidationResult where
  errors : List ValidationError
  warnings : List Warning
  deriving DecidableEq, Repr

def ValidationResult.isValid (r : ValidationResult) : Bool := r.errors.isEmpty

namespace Document

/-! ## References -/

def isNameStart (c : Char) : Bool := c.isAlpha || c == '_'

def isNameRest (c : Char) : Bool := isNameStart c || c.isDigit || c == '.'

/-- A dotted name, or anything in brackets that holds no closing bracket. -/
def looksLikeReference (text : String) : Bool :=
  match text.toList with
  | [] => false
  | '[' :: rest =>
    match rest.reverse with
    | ']' :: inner => !inner.isEmpty && !inner.contains ']'
    | _ => false
  | c :: rest => isNameStart c && rest.all isNameRest

/-- The value is a text that looks like a reference. -/
def isReferenceLike : Json → Bool
  | .str s => looksLikeReference s
  | _ => false

/-- Some value of the operand looks like a reference. -/
def mayHoldReference : Operand → Bool
  | .scalar (.arr items) | .keyed _ (.arr items) | .list items => items.any isReferenceLike
  | .scalar v | .keyed _ v => isReferenceLike v
  | .absent | .field _ => false

/-! ## Entries -/

/-- What an entry is found to be. -/
inductive EntryVerdict
  /-- It is no rule over the registry. -/
  | unreadable (e : ConfigError)
  /-- Its operand does not suit its capability. -/
  | unsuited (r : Rule) (e : ConfigError)
  /-- Its operand may suit its capability once references are put in place. -/
  | deferred (r : Rule) (e : ConfigError)
  | sound (r : Rule)

def judgeRule (registry : Registry) (r : Rule) : EntryVerdict :=
  match registry.get? r.capability with
  | none => .sound r
  | some entry =>
    match entry.construct r.value none with
    | .ok _ => .sound r
    | .error e => if mayHoldReference r.value then .deferred r e else .unsuited r e

def judgeEntry (registry : Registry) (entry : RuleEntry) : EntryVerdict :=
  match entry.toRule registry with
  | .error e => .unreadable e
  | .ok r => judgeRule registry r

namespace EntryVerdict

def rule? : EntryVerdict → Option Rule
  | .unreadable _ => none
  | .unsuited r _ | .deferred r _ | .sound r => some r

def readError? (path : String) : EntryVerdict → Option ValidationError
  | .unreadable e =>
    let code :=
      match e with
      | .unknownCapability _ => "V-002"
      | _ => "V-001"
    some ⟨code, path, e.message⟩
  | _ => none

def operandError? (path : String) : EntryVerdict → Option ValidationError
  | .unsuited _ e => some ⟨"V-003", path, e.message⟩
  | _ => none

/-- The warning that an operand is only judged at evaluation. -/
def referenceWarning? (path : String) : EntryVerdict → Option Warning
  | .deferred r e =>
    some ⟨"W-003", some path,
      "'" ++ r.render ++ "' is only valid once its field references resolve: " ++ e.message⟩
  | _ => none

end EntryVerdict

/-! ## Sections -/

def entryPath (name : String) (i : Nat) : String := name ++ "[" ++ toString i ++ "]"

/-- The entries of a section with their places and what they are found to be. -/
def judgeSection (registry : Registry) (name : String) (entries : List RuleEntry) :
    List (String × EntryVerdict) :=
  entries.zipIdx.map fun (entry, i) => (entryPath name i, judgeEntry registry entry)

/-- The warnings about written rules that were seen before. -/
def duplicateWarnings (seen : List String) : List (String × String) → List Warning
  | [] => []
  | (path, written) :: rest =>
    if seen.contains written then
      ⟨"W-002", some path, "duplicate rule '" ++ written ++ "'"⟩ :: duplicateWarnings seen rest
    else duplicateWarnings (written :: seen) rest

/-- The readable rules of a section in their written form, with their places. -/
def writtenRules (verdicts : List (String × EntryVerdict)) : List (String × String) :=
  verdicts.filterMap fun (path, v) => v.rule?.map fun r => (path, r.render)

def sectionErrors (verdicts : List (String × EntryVerdict)) : List ValidationError :=
  verdicts.filterMap (fun (path, v) => v.readError? path)
    ++ verdicts.filterMap fun (path, v) => v.operandError? path

def sectionWarnings (verdicts : List (String × EntryVerdict)) : List Warning :=
  verdicts.filterMap (fun (path, v) => v.referenceWarning? path)
    ++ duplicateWarnings [] (writtenRules verdicts)

def emptyWarning (d : Document) : List Warning :=
  if d.conditions.isEmpty && d.validators.isEmpty then
    [⟨"W-001", none, "document declares no conditions and no validators"⟩]
  else []

def validate (registry : Registry) (d : Document) : ValidationResult :=
  let conditions := judgeSection registry "conditions" d.conditions
  let validators := judgeSection registry "validators" d.validators
  ⟨sectionErrors conditions ++ sectionErrors validators,
    d.emptyWarning ++ sectionWarnings conditions ++ sectionWarnings validators⟩

end Document

end RecordRules
