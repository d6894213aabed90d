import RecordRules.Json.Basic
import RecordRules.Text

/-!
# Fields of a record

A rule names a field of a record. A simple name is a key of the record; a
name with a dot in it is a path into nested data. A path follows the keys of
maps and steps through lists for free: `users.email` is the `email` of every
element of `users`. A key made only of digits is a position too, so that a
map from positions to elements reads like the list of them.

`resolvePath` collects what a path addresses, in document order. The walk
(`walk`) carries the path of the node it stands on; it takes the node whole
when that path is the target, and otherwise goes on only where the target
may still be reached (`leadsTo`).

`lookupField` and `fieldItems` are what the rules read: the values addressed,
and those values with lists opened and nulls left out.
-/

namespace RecordRules

/-! ## Paths -/

/-- A key that is a position in a list: digits only. -/
def isPosition (key : String) : Bool :=
  !key.isEmpty && key.toList.all Decimal.isDigit

/-- The path of the entry `key` below a node with the given path; the record
itself has none. -/
def extendPath (current : Option (List Char)) (key : String) : List Char :=
  match current with
  | some parent => parent ++ '.' :: key.toList
  | none => key.toList

/-- The path is the target or a dotted beginning of it. -/
def leadsTo (path target : List Char) : Bool :=
  path.isPrefixOf target &&
    match target.drop path.length with
    | [] => true
    | c :: _ => c == '.'

mutual

/-- The nodes with the target path at or below a node whose path is
`current`, none of them inside another. -/
def walk (target : List Char) (current : Option (List Char)) (node : Json) : List Json :=
  if current = some target then [node]
  else
    match node with
    | .obj entries => walkEntries target current entries
    | .arr items => walkItems target current items
    | _ => []

def walkItems (target : List Char) (current : Option (List Char)) : List Json → List Json
  | [] => []
  | item :: items => walk target current item ++ walkItems target current items

def walkEntries (target : List Char) (current : Option (List Char)) :
    List (String × Json) → List Json
  | [] => []
  | (key, child) :: entries =>
    (if isPosition key then walk target current child
      else
        let path := extendPath current key
        if leadsTo path target then walk target (some path) child else [])
      ++ walkEntries target current entries

end

/-- Every value that a dotted path addresses, in document order. The empty
path addresses nothing. -/
def resolvePath (target : String) (data : Json) : List Json :=
  if target.isEmpty then [] else walk target.toList none data

/-! ## Fields -/

def isDotted (field : String) : Bool := field.toList.contains '.'

/-- The values that a field addresses: the entry under a simple name, every
match of a path. -/
def lookupField (record : Json) (field : String) : List Json :=
  if isDotted field then resolvePath field record else (record.get? field).toList

/-- What a value contributes to the items of a field: a list its elements, any
other value itself, and nulls nothing. -/
def itemsOf : Json → List Json
  | .arr elements => elements.filter (!·.isNull)
  | .null => []
  | v => [v]

/-- The items of a field: the values it addresses, with lists opened and
nulls left out. -/
def fieldItems (record : Json) (field : String) : List Json :=
  (lookupField record field).flatMap itemsOf

/-- The one value that stands for all the matches of a path: the single match
itself, the list of several. -/
def gather : List Json → Option Json
  | [] => none
  | [v] => some v
  | vs => some (.arr vs)

end RecordRules
