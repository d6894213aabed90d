import RecordRules.Capability.Operands
import RecordRules.CardNumber
import RecordRules.Json.Reader
import RecordRules.Net.Email
import RecordRules.Net.Ipv6
import RecordRules.Record.Path

/-!
# What the capabilities say

A capability passes or fails an input, or cannot judge it at all. Tests of
values are run on a single value; the others look up their field in a record,
which must be a map or a list.

The tests of items see the items of a field (`fieldItems`): a list is opened
and nulls are left out, so a list under a simple name and a path with many
matches look the same. The tests of size measure one list instead. A simple
field must hold a list or a map. For a path, `HasOne` and `HasOnlyOne` count
the matches, and the others measure the first match. A missing field fails.
-/

namespace RecordRules

/-! ## Kinds of values -/

def Json.describe : Json → String
  | .null => "null"
  | .bool _ => "a boolean"
  | .num _ => "a number"
  | .str _ => "a string"
  | .arr _ => "a list"
  | .obj _ => "a map"

/-- The size of a list or a map. -/
def countOf (name : String) : Json → Except ConfigError Nat
  | .arr items => .ok items.length
  | .obj entries => .ok entries.length
  | v => .error (.invalidInput name (.notAList v.describe))

/-- A reading of the operand as a step of a judgement. -/
def orFaulty {α : Type} (name : String) (r : Except OperandFault α) : Except ConfigError α :=
  r.mapError (.invalidOperand name)

/-! ## Ranges -/

/-- Something lies between two ends, by the order of the lower end and it, and
of it and the upper end. -/
def Ends.holds : Ends → Ordering → Ordering → Bool
  | .exclusive, fromLow, toHigh => fromLow == .lt && toHigh == .lt
  | .inclusive, fromLow, toHigh => fromLow != .gt && toHigh != .gt

def Ends.holdsNumber (e : Ends) (low high x : Binary64) : Bool :=
  e.holds (low.compare x) (x.compare high)

def Ends.holdsMoment (e : Ends) (low high m : Moment) : Bool :=
  e.holds (low.compare m) (m.compare high)

/-! ## Single tests -/

/-- True, one, or a word for yes. -/
def isAccepted : Json → Bool
  | .bool b => b
  | .num n => n.toBinary64?.any fun x => Binary64.compareNat 1 x == .eq
  | .str s => ["1", "true", "yes"].contains (Text.lowercaseAscii s)
  | _ => false

/-- False, a word for no, or a number whose whole part is zero. -/
def isDeclined : Json → Bool
  | .bool b => !b
  | v =>
    (match v with
      | .str s => ["false", "no"].contains (Text.lowercaseAscii s)
      | _ => false)
      || (asNumber v).any Binary64.isBelowOne

/-- Text of such characters only, and not empty, or a number with such a
text. -/
def isTextOf (p : Char → Bool) : Json → Bool
  | .str s => !s.isEmpty && s.toList.all p
  | .num n => n.render.toList.all p
  | _ => false

/-- The texts of the input and of a scalar operand stand in a relation. -/
def relateTexts (r : List Char → List Char → Bool) (input : Json) (o : Operand) : Bool :=
  match valueText input, o.scalar?.bind valueText with
  | some s, some t => r s.toList t.toList
  | _, _ => false

/-- Every value of the operand occurs in the input, and there is one. -/
def containsAll (input : Json) (o : Operand) : Bool :=
  !o.values.isEmpty && o.values.all (containsValue input)

/-- Some value of the operand occurs in the input. -/
def containsAny (input : Json) (o : Operand) : Bool := o.values.any (containsValue input)

def isOneOf (listed : List Json) (v : Json) : Bool := listed.any (looseEq v)

/-- The text of a scalar operand, if it is to be searched as one text. -/
def searchedText : Operand → Option Json
  | .scalar (.arr _) => none
  | .scalar v => some v
  | _ => none

/-- Every element of a list is one of the operand's values; any other value
is, or its text is found in that of a scalar operand. -/
def isIncluded (input : Json) (o : Operand) : Bool :=
  match input, searchedText o with
  | .arr items, _ => items.all (isOneOf o.values)
  | _, some hay =>
    match valueText hay, valueText input with
    | some h, some n => Text.contains h n
    | _, _ => false
  | _, none => isOneOf o.values input

/-- No value of the operand is an element of a list; any other value is none
of them, and its text is not found in that of a scalar operand. -/
def isExcluded (input : Json) (o : Operand) : Bool :=
  match input, searchedText o with
  | .arr items, _ => !o.values.any fun d => items.any (looseEq · d)
  | _, some hay =>
    match valueText hay, valueText input with
    | some h, some n => !Text.contains h n
    | _, _ => true
  | _, none => !isOneOf o.values input

def testText (p : List Char → Bool) (input : Json) : Bool :=
  (valueText input).any fun s => p s.toList

/-! ## Tests of values -/

/-- What a test of values says about an input. `patterns` are the operand's
patterns where the test has any. -/
def ValueTest.judge (o : Operand) (patterns : List Pattern) (input : Json) (t : ValueTest) :
    Except ConfigError Bool :=
  match t with
  | .accepted => .ok (isAccepted input)
  | .declined => .ok (isDeclined input)
  | .alpha => .ok (isTextOf Char.isAlpha input)
  | .alphaNumeric => .ok (isTextOf Char.isAlphanum input)
  | .numeric => .ok (asNumber input).isSome
  | .between ends => do
    let (low, high) ← orFaulty t.name o.numberPair
    return (asNumber input).any (ends.holdsNumber low high)
  | .contains => .ok (containsAll input o)
  | .notContains => .ok !(containsAny input o)
  | .startsWith => .ok (relateTexts (fun s p => p.isPrefixOf s) input o)
  | .endsWith => .ok (relateTexts (fun s p => p.isSuffixOf s) input o)
  | .count relation => do
    let expected ← orFaulty t.name o.number
    let n ← countOf t.name input
    return relation.holds (Binary64.compareNat n expected)
  | .creditCard => .ok (testText CardNumber.isValid input)
  | .dateTimeBetween ends => do
    let (low, high) ← orFaulty t.name o.momentPair
    return ((valueText input).bind Moment.read?).any (ends.holdsMoment low high)
  | .email => .ok (testText Email.isEmail input)
  | .equal => .ok (looseEq input o.toJson)
  | .notEqual => .ok !(looseEq input o.toJson)
  | .threshold bound => do
    discard (orFaulty t.name o.number)
    return (o.scalar?.bind (compareNumbers input)).any bound.holds
  | .isIn => .ok (isOneOf o.values input)
  | .notIn => .ok !(isOneOf o.values input)
  | .included => .ok (isIncluded input o)
  | .excluded => .ok (isExcluded input o)
  | .ipv4 => .ok (testText (fun cs => (Ipv4.read? cs).isSome) input)
  | .ipv6 => .ok (testText Ipv6.isIpv6 input)
  | .isSubnetOf => do
    let s ← orFaulty t.name o.subnet
    match (valueText input).bind fun s => Ipv4.read? s.toList with
    | some address => return s.contains address
    | none => .error (.invalidInput t.name .notAnIpv4Address)
  | .isJson =>
    match input with
    | .str s => .ok (Json.read? s).isSome
    | _ => .ok false
  | .length => do
    let expected ← orFaulty t.name o.number
    return (textLength input).any fun n => Binary64.compareNat n expected == .eq
  | .lengthBound bound => do
    let expected ← orFaulty t.name o.number
    return (textLength input).any fun n => bound.holds (Binary64.compareNat n expected)
  | .lengthBetween ends => do
    let (low, high) ← orFaulty t.name o.numberPair
    return (textLength input).any fun n =>
      ends.holds (Binary64.compareNat n low).swap (Binary64.compareNat n high)
  | .notEmpty => .ok !(isBlank input)
  | .isEmpty => .ok (isBlank input)
  | .regEx => .ok ((valueText input).any fun s => patterns.all (·.isMatch s))

/-! ## Tests of items and fields -/

/-- The input is a map or a list, which fields can be looked up in. -/
def requireRecord (name : String) : Json → Except ConfigError Unit
  | .arr _ | .obj _ => .ok ()
  | v => .error (.invalidInput name (.notARecord v.describe))

/-- The size of a value, if there is one and it is not null. -/
def sizeOf? (name : String) : Option Json → Except ConfigError (Option Nat)
  | none | some .null => .ok none
  | some v => (countOf name v).map some

/-- The size of the one list that a field holds. -/
def listSize (name : String) (record : Json) (field : String) : Except ConfigError (Option Nat) :=
  if isDotted field then sizeOf? name (resolvePath field record).head?
  else sizeOf? name (record.get? field)

/-- How much a field holds: the size of its list, or the number of the matches
of a path that are not null. -/
def fieldSize (name : String) (record : Json) (field : String) : Except ConfigError (Option Nat) :=
  if isDotted field then .ok (some ((resolvePath field record).filter (!·.isNull)).length)
  else sizeOf? name (record.get? field)

/-- The part of a path before its last dot. -/
def parentPath? (field : String) : Option String :=
  match field.toList.reverse.dropWhile (· != '.') with
  | [] => none
  | _ :: parent => some (String.ofList parent.reverse)

/-- A simple field is there if it is a key. A path is there if there are
parents and as many ends of the path. -/
def isPresent (record : Json) (field : String) : Bool :=
  match parentPath? field with
  | none => (record.get? field).isSome
  | some parent =>
    let parents := (fieldItems record parent).length
    0 < parents && parents == (resolvePath field record).length

def ItemTest.judge (o : Operand) (record : Json) (t : ItemTest) : Except ConfigError Bool := do
  requireRecord t.name record
  let (field, value) ← orFaulty t.name o.entry
  let items := fieldItems record field
  match t with
  | .equals quota => return quota.holds (items.countP (looseEq · value))
  | .contains quota => return quota.holds (items.countP (containsValue · value))
  | .beyond bound => return items.any fun item => (compareNumbers item value).any bound.holds
  | .count relation =>
    let expected ← orFaulty t.name o.number
    let size ← listSize t.name record field
    return size.any fun n => relation.holds (Binary64.compareNat n expected)

def FieldTest.judge (o : Operand) (record : Json) (t : FieldTest) : Except ConfigError Bool := do
  requireRecord t.name record
  let field ← orFaulty t.name o.fieldName
  match t with
  | .has quota => return (← fieldSize t.name record field).any quota.holds
  | .hasOneNotEmpty => return (fieldItems record field).any (!isBlank ·)
  | .required => return isPresent record field

/-- What a built-in capability says about an input. -/
def Kind.judge (o : Operand) (patterns : List Pattern) (input : Json) :
    Kind → Except ConfigError Bool
  | .value t => t.judge o patterns input
  | .item t => t.judge o input
  | .field t => t.judge o input

end RecordRules
