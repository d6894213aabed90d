import RecordRules.Base64
import RecordRules.Json.Reader
import RecordRules.Text
import RecordRules.Yaml.Tag

/-!
# What scalars stand for

A scalar that is quoted, or written as a block, is text. What a plain scalar
stands for is decided by how it looks (`resolvePlain`): null, a boolean in any
of its spellings, an integer in base ten, sixteen, eight or two, a fractional
number, or else text. An infinity or a number that is none has no value of its
own and becomes the text of its usual spelling.

A tag can make a scalar null, or text as it stands, or text whose bytes are
written in base 64 (`scalarValue?`). Tags for other kinds of values are
refused, and tags of unknown meaning do not count.
-/

namespace RecordRules.Yaml

/-! ## Plain scalars -/

/-- The boolean that a word is, in small letters. -/
def boolean? (word : String) : Option Bool :=
  if ["true", "yes", "on", "y"].contains word then some true
  else if ["false", "no", "off", "n"].contains word then some false
  else none

def digitIn? (base : Nat) (c : Char) : Option Nat := (Json.hexValue? c).filter (· < base)

/-- The number that digits spell, in which underscores do not count. -/
def natural? (base : Nat) (cs : List Char) : Option Nat :=
  let ds := cs.filter (· != '_')
  if ds.isEmpty then none
  else do
    let ns ← ds.mapM (digitIn? base)
    return ns.foldl (fun n d => base * n + d) 0

/-- The number that digits spell, in the base that they are marked with. -/
def magnitude? : List Char → Option Nat
  | '0' :: 'x' :: ds | '0' :: 'X' :: ds => natural? 16 ds
  | '0' :: 'o' :: ds | '0' :: 'O' :: ds => natural? 8 ds
  | '0' :: 'b' :: ds | '0' :: 'B' :: ds => natural? 2 ds
  | ds => natural? 10 ds

/-- The integer that a text spells, if 64 bits hold it. -/
def integer? (cs : List Char) : Option Integer := do
  let (negative, ds) := Decimal.splitSign cs
  let n ← magnitude? ds
  Integer.ofInt? (if negative then -(n : Int) else n)

def infinityText (negative : Bool) : String := if negative then "-.inf" else ".inf"

/-- The infinity or the number that is none that a word in small letters is. -/
def notFinite? (word : List Char) : Option String :=
  let (negative, body) := Decimal.splitSign word
  let body := String.ofList body
  if [".inf", "inf", "infinity"].contains body then some (infinityText negative)
  else if [".nan", "nan"].contains body then some ".nan"
  else none

/-- What a fractional number is: its value, or the text of an infinity if it is
too large. -/
def ofDecimal (d : Decimal) : Json :=
  match d.toBinary64 with
  | some x => .num (.float x)
  | none => .str (infinityText d.negative)

def resolvePlain (text : String) : Json :=
  let cs := text.toList
  let word := Text.lowercaseAscii text
  if ["", "~", "null"].contains word then .null
  else
    match boolean? word with
    | some b => .bool b
    | none =>
      match integer? cs with
      | some n => .num (.int n)
      | none =>
        match notFinite? word.toList with
        | some s => .str s
        | none =>
          match Decimal.read? cs with
          | some d => ofDecimal d
          | none => .str text

/-! ## Tagged scalars -/

def looksNull (text : String) : Bool := ["", "~", "null"].contains (Text.lowercaseAscii text)

/-- The kinds of values that a scalar cannot be told to be. -/
def refusedKinds : List String := ["int", "float", "bool", "timestamp", "seq", "map"]

/-- The text whose bytes a text spells, between any white space. -/
def decodeBinary? (text : String) : Option String := do
  let bytes ← Base64.decode? (text.toList.filter fun c => !Text.isSpace c)
  String.fromUTF8? ⟨bytes.toArray⟩

/-- A scalar is null by its tag or, if it is plain, by how it looks. -/
def isNullScalar (isPlain : Bool) (tag : Option Tag) (text : String) : Bool :=
  tag.bind Tag.core? = some "null" || (isPlain && looksNull text)

/-- The text of a scalar that is not null, unless its tag refuses. -/
def scalarText? (tag : Option Tag) (text : String) : Option String :=
  match tag.bind Tag.core? with
  | some "binary" => decodeBinary? text
  | some kind => if refusedKinds.contains kind then none else some text
  | none => some text

/-- A scalar is text, however it looks. -/
def isTextScalar (isPlain : Bool) (tag : Option Tag) : Bool :=
  !isPlain || tag.any Tag.isNonSpecific
    || (tag.bind Tag.core?).any fun kind => kind = "str" || kind = "binary"

def scalarValue? (isPlain : Bool) (tag : Option Tag) (text : String) : Option Json := do
  if isNullScalar isPlain tag text then return .null
  else
    let s ← scalarText? tag text
    return if isTextScalar isPlain tag then .str s else resolvePlain s

end RecordRules.Yaml
