import RecordRules.Calendar.Moment
import RecordRules.Number.Decimal
import RecordRules.Text

/-!
# Written moments

A date may be written in several ways, which are tried in turn. The first is
the strict timestamp (`Timestamp`): fields of fixed width, a fraction of a
second if wanted, and the offset of the clock from universal time, to which
the moment is brought. The others (`Layout`) are lists of fields and of what
stands between them; their numbers may be shorter than their place, and
white space in front of a number is passed over. A date without a time is
its midnight.
-/

namespace RecordRules

/-! ## Timestamps -/

namespace Timestamp

/-- A number of exactly `width` digits, and the rest. -/
def readFixed? (width : Nat) (cs : List Char) : Option (Nat × List Char) :=
  let ds := cs.take width
  if ds.length = width && ds.all Decimal.isDigit then some (Decimal.ofDigits ds, cs.drop width)
  else none

/-- The rest of a text after a character that one of `allowed` is. -/
def after? (allowed : List Char) : List Char → Option (List Char)
  | c :: rest => if allowed.contains c then some rest else none
  | [] => none

/-- The nanoseconds of a fraction: its first nine digits. -/
def nanosOf (ds : List Char) : Nat :=
  let ds := ds.take 9
  Decimal.ofDigits ds * power 10 (9 - ds.length)

/-- A fraction of a second in nanoseconds, if there is one. -/
def readFraction? : List Char → Option (Nat × List Char)
  | '.' :: rest =>
    let ds := rest.takeWhile Decimal.isDigit
    if ds.isEmpty then none else some (nanosOf ds, rest.dropWhile Decimal.isDigit)
  | cs => some (0, cs)

/-- The hours and minutes of an offset, in seconds. -/
def readOffsetSize? (cs : List Char) : Option (Int × List Char) := do
  let (hours, cs) ← readFixed? 2 cs
  let (minutes, cs) ← readFixed? 2 (← after? [':'] cs)
  if hours ≤ 23 && minutes ≤ 59 then some ((hours * 3600 + minutes * 60 : Nat), cs) else none

def readOffset? : List Char → Option (Int × List Char)
  | c :: rest =>
    if c = 'Z' ∨ c = 'z' then some (0, rest)
    else if c = '+' then readOffsetSize? rest
    else if c = '-' ∨ c = '\u2212' then (readOffsetSize? rest).map fun (n, cs) => (-n, cs)
    else none
  | [] => none

/-- The moment that a whole text is the timestamp of, in universal time. -/
def read? (cs : List Char) : Option Moment := do
  let (year, cs) ← readFixed? 4 cs
  let (month, cs) ← readFixed? 2 (← after? ['-'] cs)
  let (day, cs) ← readFixed? 2 (← after? ['-'] cs)
  let (hour, cs) ← readFixed? 2 (← after? ['T', 't', ' '] cs)
  let (minute, cs) ← readFixed? 2 (← after? [':'] cs)
  let (second, cs) ← readFixed? 2 (← after? [':'] cs)
  let (nano, cs) ← readFraction? cs
  let (offset, cs) ← readOffset? cs
  if !cs.isEmpty then none
  else
    let wall ← Moment.ofClock? (← dayNumber? year month day) hour minute second nano
    return wall.earlier offset

end Timestamp

/-! ## Layouts -/

/-- The fields of a date and a time that have been read so far. -/
structure DateFields where
  year : Int := 1
  month : Nat := 1
  day : Nat := 1
  hour : Nat := 0
  minute : Nat := 0
  second : Nat := 0

/-- A part of a layout. -/
inductive LayoutPart
  | year
  | month
  | day
  | hour
  | minute
  | second
  /-- A character that stands there. -/
  | mark (c : Char)
  /-- White space, or none. -/
  | gap
  deriving DecidableEq, Repr

namespace Layout

/-- A number of one to `width` digits, with white space in front. -/
def readNumber? (width : Nat) (cs : List Char) : Option (Nat × List Char) :=
  let cs := Text.trimStart cs
  let ds := (cs.take width).takeWhile Decimal.isDigit
  if ds.isEmpty then none else some (Decimal.ofDigits ds, cs.drop ds.length)

def readAllDigits? (cs : List Char) : Option (Nat × List Char) :=
  let ds := cs.takeWhile Decimal.isDigit
  if ds.isEmpty then none else some (Decimal.ofDigits ds, cs.dropWhile Decimal.isDigit)

/-- A year: up to four digits, or a sign and any number of them. -/
def readYear? (cs : List Char) : Option (Int × List Char) :=
  match Text.trimStart cs with
  | '-' :: rest => (readAllDigits? rest).map fun (n, cs) => (-(n : Int), cs)
  | '+' :: rest => (readAllDigits? rest).map fun (n, cs) => ((n : Int), cs)
  | rest => (readNumber? 4 rest).map fun (n, cs) => ((n : Int), cs)

def readPart? (fields : DateFields) (cs : List Char) :
    LayoutPart → Option (DateFields × List Char)
  | .year => (readYear? cs).map fun (n, cs) => ({ fields with year := n }, cs)
  | .month => (readNumber? 2 cs).map fun (n, cs) => ({ fields with month := n }, cs)
  | .day => (readNumber? 2 cs).map fun (n, cs) => ({ fields with day := n }, cs)
  | .hour => (readNumber? 2 cs).map fun (n, cs) => ({ fields with hour := n }, cs)
  | .minute => (readNumber? 2 cs).map fun (n, cs) => ({ fields with minute := n }, cs)
  | .second => (readNumber? 2 cs).map fun (n, cs) => ({ fields with second := n }, cs)
  | .mark c => (Timestamp.after? [c] cs).map (fields, ·)
  | .gap => some (fields, Text.trimStart cs)

def readParts? (fields : DateFields) (cs : List Char) :
    List LayoutPart → Option (DateFields × List Char)
  | [] => some (fields, cs)
  | part :: parts => do
    let (fields, cs) ← readPart? fields cs part
    readParts? fields cs parts

def read? (cs : List Char) (layout : List LayoutPart) : Option Moment := do
  let (fields, rest) ← readParts? {} cs layout
  if !rest.isEmpty then none
  else
    Moment.ofClock? (← dayNumber? fields.year fields.month fields.day)
      fields.hour fields.minute fields.second 0

def dashedDate : List LayoutPart := [.year, .mark '-', .month, .mark '-', .day]

def slashedDate : List LayoutPart := [.month, .mark '/', .day, .mark '/', .year]

def dottedDate : List LayoutPart := [.day, .mark '.', .month, .mark '.', .year]

def minutes : List LayoutPart := [.hour, .mark ':', .minute]

def seconds : List LayoutPart := minutes ++ [.mark ':', .second]

/-- The layouts in the order in which they are tried. -/
def all : List (List LayoutPart) :=
  [dashedDate ++ .gap :: seconds, dashedDate ++ .mark 'T' :: seconds,
    dashedDate ++ .gap :: minutes, slashedDate ++ .gap :: seconds,
    slashedDate ++ .gap :: minutes, dashedDate, slashedDate, dottedDate]

end Layout

/-- The moment that a text is, in the first way of writing that fits it. -/
def Moment.read? (text : String) : Option Moment :=
  let cs := Text.trim text.toList
  match Timestamp.read? cs with
  | some m => some m
  | none => Layout.all.findSome? (Layout.read? cs)

end RecordRules
