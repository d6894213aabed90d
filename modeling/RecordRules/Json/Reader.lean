import RecordRules.Json.Basic

/-!
# Reading values

`Json.read?` reads a text that holds exactly one value, by the strict
grammar: no comments, no trailing commas, escapes only as listed, surrogate
escapes only in pairs, no control characters in text, and at most 127 maps
and lists around a value.

A number is an integer if it is written without point and exponent and 64
bits hold it; `-0` is not one, since no integer keeps the sign. Every other
number is fractional. Its digits are collected as long as 64 bits hold them;
the rest of the whole part only counts for the power of ten, the rest of the
fraction is passed over. The value is formed in three roundings, of the
collected digits, of the power of ten, and of their product or quotient, and
a value that is too large is an error.
-/

namespace RecordRules.Json

/-- A character that may stand between the parts of a value. -/
def isGap (c : Char) : Bool := c == ' ' || c == '\n' || c == '\t' || c == '\r'

/-- The text from its first character that is no gap. -/
def skipGap (cs : List Char) : List Char := cs.dropWhile isGap

/-! ## Numbers -/

/-- The largest number that the collected digits may reach. -/
def maxSignificand : Nat := power 2 64 - 1

/-- Digits appended to a number up to the first that 64 bits would not hold,
and the digits that are left. -/
def collectDigits (n : Nat) : List Char → Nat × List Char
  | [] => (n, [])
  | c :: cs =>
    let next := 10 * n + (Decimal.digit? c).getD 0
    if next ≤ maxSignificand then collectDigits next cs else (n, c :: cs)

def powerOfTen (n : Nat) : Option Binary64 := Decimal.toBinary64 ⟨false, 1, n⟩

def divPowerOfTen (x : Binary64) (n : Nat) : Option Binary64 := do
  x.div (← powerOfTen n)

/-- The value of collected digits times a power of ten. Powers beyond 10³⁰⁸
are taken off in two steps. -/
def scaled (significand : Nat) (exponent : Int) : Option Binary64 := do
  let x ← Binary64.ofInt significand
  if x.isZero then return x
  else if exponent > 308 then none
  else if exponent ≥ 0 then x.mul (← powerOfTen exponent.natAbs)
  else if exponent ≥ -308 then divPowerOfTen x exponent.natAbs
  else if exponent ≥ -616 then divPowerOfTen (← divPowerOfTen x 308) (exponent.natAbs - 308)
  else return .zero false

/-- The digits of a whole part: `0`, or digits that do not begin with it. -/
def readWhole? : List Char → Option (List Char × List Char)
  | '0' :: rest =>
    match rest with
    | c :: _ => if Decimal.isDigit c then none else some (['0'], rest)
    | [] => some (['0'], [])
  | cs =>
    let ds := cs.takeWhile Decimal.isDigit
    if ds.isEmpty then none else some (ds, cs.dropWhile Decimal.isDigit)

def readFraction? : List Char → Option (Option (List Char) × List Char)
  | '.' :: rest =>
    let ds := rest.takeWhile Decimal.isDigit
    if ds.isEmpty then none else some (some ds, rest.dropWhile Decimal.isDigit)
  | cs => some (none, cs)

def readPower? : List Char → Option (Option Int × List Char)
  | c :: rest =>
    if c = 'e' ∨ c = 'E' then
      let (negative, rest) := Decimal.splitSign rest
      let ds := rest.takeWhile Decimal.isDigit
      if ds.isEmpty then none
      else
        let n : Int := Decimal.ofDigits ds
        some (some (if negative then -n else n), rest.dropWhile Decimal.isDigit)
    else some (none, c :: rest)
  | [] => some (none, [])

/-- The number that a sign, the whole digits, the fraction's digits and the
exponent stand for. -/
def number? (negative : Bool) (whole : List Char) (fraction : Option (List Char))
    (power : Option Int) : Option Number :=
  let (n, dropped) := collectDigits 0 whole
  let asFloat (n : Nat) (e : Int) : Option Number := do
    let x ← scaled n e
    return .float (if negative then x.neg else x)
  match fraction, power with
  | none, none =>
    let value : Int := if negative then -(n : Int) else n
    if dropped.isEmpty && !(negative && n == 0) then
      match Integer.ofInt? value with
      | some i => some (.int i)
      | none => asFloat n 0
    else asFloat n dropped.length
  | fraction, power =>
    let ds := fraction.getD []
    let (n, passed) := collectDigits n ds
    asFloat n (dropped.length - (ds.length - passed.length : Nat) + power.getD 0)

/-- The number that a text begins with, and the rest. -/
def readNumber? (cs : List Char) : Option (Number × List Char) := do
  let (negative, cs) :=
    match cs with
    | '-' :: rest => (true, rest)
    | cs => (false, cs)
  let (whole, cs) ← readWhole? cs
  let (fraction, cs) ← readFraction? cs
  let (power, cs) ← readPower? cs
  return (← number? negative whole fraction power, cs)

/-! ## Text -/

def hexValue? (c : Char) : Option Nat :=
  if '0' ≤ c ∧ c ≤ '9' then some (c.toNat - '0'.toNat)
  else if 'a' ≤ c ∧ c ≤ 'f' then some (c.toNat - 'a'.toNat + 10)
  else if 'A' ≤ c ∧ c ≤ 'F' then some (c.toNat - 'A'.toNat + 10)
  else none

def readHex4? : List Char → Option (Nat × List Char)
  | a :: b :: c :: d :: rest => do
    let a ← hexValue? a
    let b ← hexValue? b
    let c ← hexValue? c
    let d ← hexValue? d
    return (((a * 16 + b) * 16 + c) * 16 + d, rest)
  | _ => none

/-- What follows `\u`: a code unit, or two that are a surrogate pair. -/
def readUnicodeEscape? (cs : List Char) : Option (Char × List Char) := do
  let (unit, rest) ← readHex4? cs
  if 0xDC00 ≤ unit ∧ unit ≤ 0xDFFF then none
  else if 0xD800 ≤ unit ∧ unit ≤ 0xDBFF then
    match rest with
    | '\\' :: 'u' :: rest =>
      let (low, rest) ← readHex4? rest
      if 0xDC00 ≤ low ∧ low ≤ 0xDFFF then
        return (Char.ofNat (0x10000 + (unit - 0xD800) * 0x400 + (low - 0xDC00)), rest)
      else none
    | _ => none
  else return (Char.ofNat unit, rest)

def readEscape? : List Char → Option (Char × List Char)
  | '"' :: rest => some ('"', rest)
  | '\\' :: rest => some ('\\', rest)
  | '/' :: rest => some ('/', rest)
  | 'b' :: rest => some ('\x08', rest)
  | 'f' :: rest => some ('\x0c', rest)
  | 'n' :: rest => some ('\n', rest)
  | 'r' :: rest => some ('\r', rest)
  | 't' :: rest => some ('\t', rest)
  | 'u' :: rest => readUnicodeEscape? rest
  | _ => none

/-- Text up to its closing quote; `acc` holds the characters before, last
first. The fuel is the length of the text. -/
def readChars? : Nat → List Char → List Char → Option (String × List Char)
  | 0, _, _ => none
  | _ + 1, _, [] => none
  | fuel + 1, acc, c :: rest =>
    if c = '"' then some (String.ofList acc.reverse, rest)
    else if c = '\\' then
      match readEscape? rest with
      | some (c, rest) => readChars? fuel (c :: acc) rest
      | none => none
    else if c.toNat < 0x20 then none
    else readChars? fuel (c :: acc) rest

def readText? (cs : List Char) : Option (String × List Char) :=
  readChars? (cs.length + 1) [] cs

/-! ## Values -/

/-- The entries with one more; a repeated key keeps its place and takes the
new value. -/
def putEntry (key : String) (value : Json) : List (String × Json) → List (String × Json)
  | [] => [(key, value)]
  | (k, v) :: es => if k = key then (k, value) :: es else (k, v) :: putEntry key value es

/-- The rest of a text that begins with the given word. -/
def afterWord? : List Char → List Char → Option (List Char)
  | [], cs => some cs
  | w :: ws, c :: cs => if w = c then afterWord? ws cs else none
  | _ :: _, [] => none

mutual

/-- The value that a text without a gap in front begins with. `depth` is how
many maps and lists may still be opened. -/
def readValue? : Nat → Nat → List Char → Option (Json × List Char)
  | 0, _, _ => none
  | _ + 1, _, [] => none
  | fuel + 1, depth, c :: rest =>
    if c = '"' then do
      let (s, rest) ← readText? rest
      return (.str s, rest)
    else if c = '[' then
      match depth, skipGap rest with
      | 0, _ => none
      | _ + 1, ']' :: rest => some (.arr [], rest)
      | depth + 1, rest => readItems? fuel depth [] rest
    else if c = '\x7b' then
      match depth, skipGap rest with
      | 0, _ => none
      | _ + 1, '\x7d' :: rest => some (.obj [], rest)
      | depth + 1, rest => readEntries? fuel depth [] rest
    else if c = 'n' then (afterWord? "ull".toList rest).map (Json.null, ·)
    else if c = 't' then (afterWord? "rue".toList rest).map (Json.bool true, ·)
    else if c = 'f' then (afterWord? "alse".toList rest).map (Json.bool false, ·)
    else do
      let (n, rest) ← readNumber? (c :: rest)
      return (.num n, rest)

/-- The items of a list from the next one on; `acc` holds those before, last
first. -/
def readItems? : Nat → Nat → List Json → List Char → Option (Json × List Char)
  | 0, _, _, _ => none
  | fuel + 1, depth, acc, cs => do
    let (v, rest) ← readValue? fuel depth cs
    match skipGap rest with
    | ',' :: rest => readItems? fuel depth (v :: acc) (skipGap rest)
    | ']' :: rest => return (.arr (v :: acc).reverse, rest)
    | _ => none

def readEntries? : Nat → Nat → List (String × Json) → List Char → Option (Json × List Char)
  | 0, _, _, _ => none
  | fuel + 1, depth, acc, cs => do
    match cs with
    | '"' :: rest =>
      let (key, rest) ← readText? rest
      match skipGap rest with
      | ':' :: rest =>
        let (v, rest) ← readValue? fuel depth (skipGap rest)
        let acc := putEntry key v acc
        match skipGap rest with
        | ',' :: rest => readEntries? fuel depth acc (skipGap rest)
        | '\x7d' :: rest => return (.obj acc, rest)
        | _ => none
      | _ => none
    | _ => none

end

/-- How many maps and lists may stand around a value. -/
def maxDepth : Nat := 127

def read? (text : String) : Option Json := do
  let cs := text.toList
  let (v, rest) ← readValue? (2 * cs.length + 2) maxDepth (skipGap cs)
  if (skipGap rest).isEmpty then some v else none

end RecordRules.Json
