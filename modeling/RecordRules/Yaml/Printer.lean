import RecordRules.Json.Basic
import RecordRules.Number.Shortest
import RecordRules.Text

/-!
# Writing YAML

A value is written with one entry or item a line, lists and maps within
others two columns to the right. The first item or entry of a list or map
that is an item stands behind its dash. Empty lists and maps are written with
brackets.

A text is written plain where nothing but a text could stand behind it, and
else between double quotes; a single character that would mean something
stands between single quotes (`writeText`). Keys may look like some words
that values may not look like, but hold no colon (`writeKey`).
-/

namespace RecordRules.Yaml

/-! ## What a text must not look like -/

/-- Words that stand for something else than a text. -/
def reservedWords : List String := ["~", "null", "true", "false"]

/-- Words that stand for something else than a text in some places. -/
def ambiguousWords : List String := ["yes", "no", "on", "off", "y", "n", "nan", "inf"]

def unsigned : List Char → List Char
  | '+' :: cs | '-' :: cs => cs
  | cs => cs

/-- An infinity or a number that is none, with a point or with a sign. -/
def looksInfinite (word : List Char) : Bool :=
  let body := String.ofList (unsigned word)
  body == ".nan" || body == ".inf" || (body == "inf" && (unsigned word).length < word.length)

def areDigits (isDigit : Char → Bool) (cs : List Char) : Bool :=
  match cs.head?, cs.getLast? with
  | some first, some last =>
    isDigit first && isDigit last && cs.all fun c => isDigit c || c == '_'
  | _, _ => false

def isHexDigit (c : Char) : Bool :=
  Decimal.isDigit c || ('a' ≤ c && c ≤ 'f') || ('A' ≤ c && c ≤ 'F')

def looksBased : List Char → Bool
  | '0' :: 'x' :: ds | '0' :: 'X' :: ds => areDigits isHexDigit ds
  | '0' :: 'o' :: ds | '0' :: 'O' :: ds => areDigits (fun c => '0' ≤ c && c ≤ '7') ds
  | '0' :: 'b' :: ds | '0' :: 'B' :: ds => areDigits (fun c => c == '0' || c == '1') ds
  | _ => false

/-- Digits with a point before, between or behind them, or with none. -/
def looksFractional (cs : List Char) : Bool :=
  let whole := cs.takeWhile (· != '.')
  let fraction := (cs.dropWhile (· != '.')).drop 1
  if whole.isEmpty then areDigits Decimal.isDigit fraction
  else areDigits Decimal.isDigit whole
    && (fraction.isEmpty || areDigits Decimal.isDigit fraction)

def looksNumeric (cs : List Char) : Bool :=
  let body := unsigned cs
  let isMark := fun c : Char => c == 'e' || c == 'E'
  let mantissa := body.takeWhile fun c => !isMark c
  let exponent := body.dropWhile fun c => !isMark c
  looksBased body
    || (looksFractional mantissa
      && (exponent.isEmpty || areDigits Decimal.isDigit (unsigned (exponent.drop 1))))

/-- Characters that mean something at the start of a value. -/
def indicators : List Char := ",:[]\x7b\x7d#&*!|>'\"%@`".toList

/-- Something other than a text could begin like this. -/
def startsOddly : List Char → Bool
  | [] => true
  | [c] => c == '-' || c == '?' || c.isWhitespace || indicators.contains c
  | c :: d :: _ =>
    ((c == '-' || c == '?') && d.isWhitespace) || c.isWhitespace || indicators.contains c

/-- A character without a shape. -/
def isControl (c : Char) : Bool :=
  c.toNat < 0x20 || (0x7F ≤ c.toNat && c.toNat ≤ 0x9F)

/-- A colon with a space behind it, or at the end. -/
def hasLooseColon : List Char → Bool
  | ':' :: ' ' :: _ => true
  | [':'] => true
  | _ :: cs => hasLooseColon cs
  | [] => false

/-- A text that can be written plain as far as values and keys agree. -/
def isPlain (s : String) : Bool :=
  let cs := s.toList
  let word := Text.lowercaseAscii s
  !(reservedWords.contains word || looksInfinite word.toList || looksNumeric cs
    || startsOddly cs || cs.any isControl || cs.contains '#')

def isPlainValue (s : String) : Bool :=
  isPlain s && !ambiguousWords.contains (Text.lowercaseAscii s)
    && !hasLooseColon (Text.trim s.toList)

def isPlainKey (s : String) : Bool := isPlain s && !s.toList.contains ':'

/-! ## Scalars -/

def escaped (c : Char) : List Char :=
  if c = '\\' then ['\\', '\\']
  else if c = '"' then ['\\', '"']
  else if c = '\n' then ['\\', 'n']
  else if c = '\t' then ['\\', 't']
  else if c = '\r' then ['\\', 'r']
  else if c = '\u0085' then ['\\', 'N']
  else if isControl c then
    '\\' :: 'x' :: [(Nat.digitChar (c.toNat / 16)).toUpper, (Nat.digitChar (c.toNat % 16)).toUpper]
  else [c]

def doubleQuoted (s : String) : String :=
  String.ofList ('"' :: s.toList.flatMap escaped ++ ['"'])

def writeText (s : String) : String :=
  if ["-", ".", "#"].contains s then "'" ++ s ++ "'"
  else if isPlainValue s then s
  else doubleQuoted s

def writeKey (s : String) : String := if isPlainKey s then s else doubleQuoted s

def writeFloat (x : Binary64) : String :=
  let cs := x.render.toList
  let mantissa := cs.takeWhile (· != 'e')
  let exponent := cs.dropWhile (· != 'e')
  String.ofList (if mantissa.contains '.' then cs else mantissa ++ ['.', '0'] ++ exponent)

/-! ## Lines -/

/-- The lines of a construct as an item or entry: the first behind `lead`,
the others as far to the right as it is long. -/
def hang (lead : String) : List String → List String
  | [] => []
  | line :: lines =>
    let margin := String.ofList (List.replicate lead.length ' ')
    (lead ++ line) :: lines.map (margin ++ ·)

mutual

def lines : Json → List String
  | .null => ["null"]
  | .bool b => [if b then "true" else "false"]
  | .num (.int n) => [toString n.val]
  | .num (.float x) => [writeFloat x]
  | .str s => [writeText s]
  | .arr [] => ["[]"]
  | .obj [] => ["\x7b\x7d"]
  | .arr (item :: items) => itemLines (item :: items)
  | .obj (entry :: entries) => entryLines (entry :: entries)

def itemLines : List Json → List String
  | [] => []
  | item :: items => hang "- " (lines item) ++ itemLines items

/-- The lines of entries. A list or map that is not empty begins in the line
below its key. -/
def entryLines : List (String × Json) → List String
  | [] => []
  | (key, value) :: entries =>
    let body := lines value
    let entry :=
      match value with
      | .arr (_ :: _) | .obj (_ :: _) => (writeKey key ++ ":") :: body.map ("  " ++ ·)
      | _ => hang (writeKey key ++ ": ") body
    entry ++ entryLines entries

end

def write (v : Json) : String := String.join ((lines v).map (· ++ "\n"))

end RecordRules.Yaml
