import RecordRules.Document.Build
import RecordRules.Document.Fault
import RecordRules.Yaml.Printer
import RecordRules.Yaml.Reader

/-!
# Documents as texts

A document is written as YAML (`Document.write`) and read from YAML or JSON
(`Document.read`). The value that a text holds is checked part by part before
it is taken for a document, so that the first offence is reported with its
place (`Document.ofValue`): the root, the keys of the root, the conditions,
the validators, the mode. How a text holds a value is left to a reader and a
writer of values (`Document.readWith`, `Document.writeWith`).
`ValidatorSet.load` goes all the way from a text to the set that it declares.
-/

namespace RecordRules

namespace Document

/-! ## Checks -/

def sections : List String := ["strict", "conditions", "validators"]

/-- The value is a text. -/
def isTextAt (entries : List (String × Json)) (key : String) : Bool :=
  match entries.lookup key with
  | some (.str _) => true
  | _ => false

/-- The value is there and neither a text nor null. -/
def isOddMessage (entries : List (String × Json)) : Bool :=
  match entries.lookup "message" with
  | none | some .null | some (.str _) => false
  | some _ => true

def bindingFault? (place : String) (entries : List (String × Json)) : Option DocumentFault :=
  match ["field", "capability"].find? fun key => !isTextAt entries key with
  | some key => some (.fieldMissing place key)
  | none =>
    match entries.find? fun e => !BindingParts.keys.contains e.1 with
    | some (key, _) => some (.fieldUnknown place key)
    | none => if isOddMessage entries then some (.messageNotText place) else none

def entryFault? (place : String) : Json → Option DocumentFault
  | .str _ => none
  | .obj entries => bindingFault? place entries
  | _ => some (.entryNotRule place)

def sectionFault? (name : String) : Json → Option DocumentFault
  | .arr items => items.zipIdx.findSome? fun (item, i) => entryFault? (entryPath name i) item
  | _ => some (.sectionNotList name)

/-- The first offence of a document's map, its mode apart. -/
def mapFault? (entries : List (String × Json)) : Option DocumentFault :=
  match entries.find? fun e => !sections.contains e.1 with
  | some (key, _) => some (.unknownSection key)
  | none =>
    ["conditions", "validators"].findSome? fun name =>
      (entries.lookup name).bind (sectionFault? name)

/-- The document that a value is, or its first offence. -/
def ofValue : Json → Except DocumentFault Document
  | .obj entries =>
    match mapFault? entries with
    | some f => .error f
    | none =>
      match ofJson (.obj entries) with
      | .ok d => .ok d
      | .error e => .error (.undecodable e)
  | _ => .error .rootNotMap

/-! ## Texts -/

/-- A line that begins a document and holds nothing else. -/
def isMarkerLine : List Char → Bool
  | '-' :: '-' :: '-' :: rest => rest.all Text.isSpace
  | _ => false

/-- The text begins more than one document. Only marks at the start of a line
count, so that a block scalar may hold such lines. -/
def hasSeveralMarkers (cs : List Char) : Bool :=
  1 < (Text.splitOn '\n' cs).countP isMarkerLine

/-- The document that a text holds for a reader of values, or why it holds none. -/
def readWith (readValue? : String → Option Json) (text : String) :
    Except DocumentFault Document :=
  if text.toList.all Text.isSpace then .error .emptyText
  else if hasSeveralMarkers text.toList then .error .severalDocuments
  else
    match readValue? text with
    | some v => ofValue v
    | none => .error .notYaml

/-- The document that a text holds as YAML. -/
def read (text : String) : Except DocumentFault Document := readWith Yaml.read? text

/-- The text of a document in the form of a writer of values. -/
def writeWith (writeValue : Json → String) (d : Document) : String := writeValue d.toJson

def write (d : Document) : String := writeWith Yaml.write d

end Document

/-- The set that a text declares over a registry: the text is read, the
document is validated and the set is built. All faults of the document are
reported together. -/
def ValidatorSet.load (registry : Registry) (text : String) :
    Except (List LoadError) ValidatorSet :=
  match Document.read text with
  | .error f => .error [.parse f.report]
  | .ok d =>
    match (d.validate registry).errors with
    | [] =>
      match d.build registry with
      | .ok s => .ok s
      | .error e => .error [.config e]
    | es => .error (es.map .validation)

end RecordRules
