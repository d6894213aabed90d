import RecordRules.Json.Reader
import RecordRules.Yaml.Cursor

/-!
# Names and tags

A node may have a name, under which it can be meant again, and a tag that
says what it stands for. A tag is written in full, between angle brackets, or
as a handle with a suffix, where the handle is short for how many tags begin
(`Handles`). Some of the characters of a tag are written as their bytes.

A text may begin with lines of directions: one names the version of YAML,
others declare handles.
-/

namespace RecordRules.Yaml

/-! ## Characters -/

def isNameChar (c : Char) : Bool :=
  !isBlankChar c && c != '\n' && !isFlowMark c && c != '\ufeff'

def isUriChar (c : Char) : Bool :=
  (isWordChar c && c != '_') || "#;/?:@&=+$,_.!~*'()[]%".toList.contains c

/-- A character of a tag that is written with a handle. -/
def isSuffixChar (c : Char) : Bool := isUriChar c && !isFlowMark c && c != '!'

/-! ## Tags -/

/-- A tag: what its handle stands for, and the rest. -/
structure Tag where
  stem : String
  suffix : String
  deriving DecidableEq

/-- How the tags begin that YAML itself defines. -/
def coreStem : String := "tag:yaml.org,2002:"

def Tag.core? (t : Tag) : Option String := if t.stem = coreStem then some t.suffix else none

/-- The tag that says that its node is no more than it is written as. -/
def Tag.isNonSpecific (t : Tag) : Bool := t.stem == "" && t.suffix == "!"

/-- The handles that a text declares, and what they stand for. -/
abbrev Handles := List (String × String)

/-- A handle that has no meaning of its own. -/
def isNamedHandle (handle : String) : Bool :=
  let cs := handle.toList
  2 ≤ cs.length && cs.head? == some '!' && cs.getLast? == some '!'

/-- The tag that a handle and a suffix stand for, if the handle is declared or
needs not be. -/
def Handles.resolve? (declared : Handles) (handle suffix : String) : Option Tag :=
  match declared.lookup handle with
  | some stem => some ⟨stem, suffix⟩
  | none =>
    if handle = "!!" then some ⟨coreStem, suffix⟩
    else if isNamedHandle handle then none
    else some ⟨handle, suffix⟩

namespace Cursor

/-! ## Names -/

/-- The name behind the mark of a name or of a reference. -/
def readName? (c : Cursor) : Option (String × Cursor) :=
  let name := c.next.run isNameChar
  if name.isEmpty then none else some (String.ofList name, c.next.skip name.length)

/-! ## Escapes of bytes -/

/-- The byte that is written here. -/
def readByte? (c : Cursor) : Option (Nat × Cursor) :=
  match c.rest with
  | '%' :: high :: low :: _ => do
    let high ← Json.hexValue? high
    let low ← Json.hexValue? low
    return (16 * high + low, c.skip 3)
  | _ => none

/-- The number of bytes of a character that begins with a byte. -/
def byteCount? (first : Nat) : Option Nat :=
  if first < 0x80 then some 1
  else if first < 0xC0 then none
  else if first < 0xE0 then some 2
  else if first < 0xF0 then some 3
  else if first < 0xF8 then some 4
  else none

/-- So many more bytes, which follow a first one, as a number in base 256. -/
def readFollowing? : Nat → Nat → Cursor → Option (Nat × Cursor)
  | 0, code, c => some (code, c)
  | n + 1, code, c => do
    let (byte, c) ← c.readByte?
    if 0x80 ≤ byte && byte < 0xC0 then readFollowing? n (256 * code + byte) c else none

/-- The character whose number in base 256 the bytes here spell. -/
def readEscapedChar? (c : Cursor) : Option (Char × Cursor) := do
  let (first, c) ← c.readByte?
  let count ← byteCount? first
  let (code, c) ← readFollowing? (count - 1) first c
  if h : code.isValidChar then return (Char.ofNatAux code h, c) else none

/-- The characters from here that pass, in which bytes may stand for others. -/
def readUri? (p : Char → Bool) : Nat → List Char → Cursor → Option (List Char × Cursor)
  | 0, acc, c => some (acc.reverse, c)
  | fuel + 1, acc, c =>
    match c.peek? with
    | none => some (acc.reverse, c)
    | some ch =>
      if !p ch then some (acc.reverse, c)
      else if ch = '%' then
        match c.readEscapedChar? with
        | some (e, c) => readUri? p fuel (e :: acc) c
        | none => none
      else readUri? p fuel (ch :: acc) c.next

/-- The part of a tag from here whose characters pass. -/
def readUriPart? (p : Char → Bool) (c : Cursor) : Option (List Char × Cursor) :=
  readUri? p (c.rest.length + 1) [] c

/-! ## Tags and handles -/

/-- An exclamation mark, the word behind it, and one more such mark if there is
one. -/
def readHandle? (c : Cursor) : Option (String × Cursor) :=
  if c.peek? != some '!' then none
  else
    let word := c.next.run isWordChar
    let after := c.next.skip word.length
    if after.peek? == some '!' then some (String.ofList ('!' :: word ++ ['!']), after.next)
    else some (String.ofList ('!' :: word), after)

/-- The handle and the suffix of the tag here, of which a tag in full has only
the suffix. -/
def readTagParts? (c : Cursor) : Option ((String × String) × Cursor) := do
  if c.second? == some '<' then
    let (uri, c) ← (c.skip 2).readUriPart? isUriChar
    if c.peek? == some '>' then return (("", String.ofList uri), c.next) else none
  else
    let (handle, c) ← c.readHandle?
    let (rest, c) ← c.readUriPart? isSuffixChar
    if isNamedHandle handle then
      if rest.isEmpty then none else return ((handle, String.ofList rest), c)
    else
      let suffix := String.ofList (handle.toList.drop 1 ++ rest)
      return (if suffix = "" then ("", "!") else ("!", suffix), c)

/-- The handle and the suffix of the tag here. What follows stands apart. -/
def readTag? (inFlow : Bool) (c : Cursor) : Option ((String × String) × Cursor) := do
  let (tag, c) ← c.readTagParts?
  if c.atGap || (inFlow && c.sees isFlowMark) then return (tag, c) else none

/-! ## Directions -/

def skipNumber? (c : Cursor) : Option Cursor :=
  let digits := c.run Char.isDigit
  if digits.isEmpty || 9 < digits.length then none else some (c.skip digits.length)

/-- A version, as two numbers with a point between them. -/
def skipVersion? (c : Cursor) : Option Cursor := do
  let c ← c.skipBlanks.skipNumber?
  if c.peek? == some '.' then c.next.skipNumber? else none

/-- How the tags with a handle begin. -/
def readStem? (c : Cursor) : Option (String × Cursor) := do
  if c.peek? == some '!' then
    let (rest, c) ← c.next.readUriPart? isUriChar
    return (String.ofList ('!' :: rest), c)
  else if c.sees isSuffixChar then
    let (stem, c) ← c.readUriPart? isUriChar
    return (String.ofList stem, c)
  else none

def readDeclaration? (c : Cursor) : Option ((String × String) × Cursor) := do
  let (handle, c) ← c.skipBlanks.readHandle?
  if handle.toList.getLast? == some '!' then
    let (stem, c) ← c.skipBlanks.readStem?
    if c.atGap then return ((handle, stem), c) else none
  else none

end Cursor

end RecordRules.Yaml
