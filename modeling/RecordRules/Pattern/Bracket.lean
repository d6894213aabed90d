import RecordRules.Pattern.Basic
import RecordRules.Json.Reader

/-!
# Sets of characters in patterns

The parts of a pattern that stand for one character: escapes, and sets in
brackets. Brackets hold characters, ranges, named classes and further
brackets, joined by union where nothing stands between them, and by `&&`,
`--` and `~~` for intersection, difference and symmetric difference, all of
one rank and from left to right.

How a set is to be read hangs on the flags that are in force (`Flags`):
whether case matters, whether letters and digits are those of all scripts,
and whether white space and comments are passed over.
-/

namespace RecordRules

/-- The ways of reading a pattern that can be switched within it. -/
structure PatternFlags where
  ignoreCase : Bool := false
  multiLine : Bool := false
  dotAll : Bool := false
  spaced : Bool := false
  unicode : Bool := true
  crLf : Bool := false
  deriving DecidableEq, Repr

namespace PatternFlags

/-! ## Space and comments -/

/-- The text after a comment's line. -/
def afterLine (cs : List Char) : List Char := (cs.dropWhile (· != '\n')).drop 1

theorem length_afterLine (cs : List Char) : (afterLine cs).length ≤ cs.length := by
  unfold afterLine
  rw [List.length_drop]
  exact Nat.le_trans (Nat.sub_le _ _) (List.dropWhile_suffix _).length_le

def afterSpace : List Char → List Char
  | [] => []
  | c :: cs =>
    if Text.isSpace c then afterSpace cs
    else if c = '#' then afterSpace (afterLine cs)
    else c :: cs
termination_by cs => cs.length
decreasing_by
  · simp
  · have := length_afterLine cs
    simp
    omega

/-- The text that is read next: white space and comments do not count where
that flag is set. -/
def next (f : PatternFlags) (cs : List Char) : List Char := if f.spaced then afterSpace cs else cs

/-- The character after the one that is read now. -/
def peek? (f : PatternFlags) (cs : List Char) : Option Char := (f.next cs).head?

/-! ## Sets -/

/-- The set with the case of its characters left open, where that flag is
set. -/
def folded (f : PatternFlags) (s : CharSet) : CharSet :=
  if f.ignoreCase then
    if f.unicode then Unicode.foldedSet s
    else fun c => s c || s c.toLower || s c.toUpper
  else s

/-- A set or what is not in it. -/
def signed (negated : Bool) (s : CharSet) : CharSet := fun c => s c != negated

def single (f : PatternFlags) (c : Char) : CharSet := f.folded (· == c)

def word (f : PatternFlags) : CharSet :=
  if f.unicode then Unicode.isWordChar else fun c => c.isAlphanum || c == '_'

def digit (f : PatternFlags) : CharSet := if f.unicode then Unicode.isDecimalDigit else Char.isDigit

def space (f : PatternFlags) : CharSet :=
  if f.unicode then Text.isSpace
  else fun c => c == ' ' || (0x09 ≤ c.toNat && c.toNat ≤ 0x0D)

end PatternFlags

/-- What an escape or a plain character stands for. -/
inductive PatternAtom
  | literal (c : Char)
  | set (s : CharSet)
  | anchor (a : Anchor)

namespace PatternAtom

open PatternFlags

/-! ## Escapes -/

def isMeta (c : Char) : Bool := "\\.+*?()|[]\x7b\x7d^$#&-~".toList.contains c

/-- A character that may be escaped without need: the others of ASCII that are
no letters, digits or angle brackets. -/
def isEscapable (c : Char) : Bool :=
  isMeta c || (c.toNat < 0x80 && !c.isAlphanum && c != '<' && c != '>')

/-- The character with a hexadecimal number. -/
def charOfHex? (ds : List Char) : Option Char :=
  let n := ds.foldl (fun n c => 16 * n + (Json.hexValue? c).getD 0) 0
  if h : n.isValidChar then some (Char.ofNatAux n h) else none

/-- So many hexadecimal digits. The text begins with the first one. -/
def readHexDigits? (f : PatternFlags) : Nat → List Char → List Char → Option (Char × List Char)
  | 0, ds, cs => (charOfHex? ds.reverse).map (·, f.next cs)
  | n + 1, ds, cs =>
    match (if ds.isEmpty then cs else f.next cs) with
    | c :: rest => if (Json.hexValue? c).isSome then readHexDigits? f n (c :: ds) rest else none
    | [] => none

/-- Hexadecimal digits up to a closing brace. The text begins after the
opening one; the fuel is its length. -/
def readHexBraces? (f : PatternFlags) : Nat → List Char → List Char → Option (Char × List Char)
  | 0, _, _ => none
  | fuel + 1, ds, cs =>
    match f.next cs with
    | c :: rest =>
      if c = '\x7d' then
        if ds.isEmpty then none else (charOfHex? ds.reverse).map (·, f.next rest)
      else if (Json.hexValue? c).isSome then readHexBraces? f fuel (c :: ds) rest
      else none
    | [] => none

/-- A character by its number: in braces, or in `digits` digits. -/
def readHex? (f : PatternFlags) (digits : Nat) (cs : List Char) : Option (PatternAtom × List Char) :=
  match f.next cs with
  | '\x7b' :: rest => (readHexBraces? f (rest.length + 1) [] rest).map fun (c, r) => (.literal c, r)
  | cs => (readHexDigits? f digits [] cs).map fun (c, r) => (.literal c, r)

/-- The characters up to a closing brace, and the rest after it. -/
def readBraced? (f : PatternFlags) : Nat → List Char → List Char → Option (List Char × List Char)
  | 0, _, _ => none
  | fuel + 1, name, cs =>
    match f.next cs with
    | c :: rest =>
      if c = '\x7d' then some (name.reverse, rest) else readBraced? f fuel (c :: name) rest
    | [] => none

/-- The name and the value of a property, and whether it is asked to differ. -/
def splitProperty (name : List Char) : List Char × Option (Bool × List Char) :=
  match Text.splitOn '!' name with
  | before :: ('=' :: _) :: _ => (before, some (true, name.drop (before.length + 2)))
  | _ =>
    let mark : Char → Bool := if name.contains ':' then (· != ':') else (· != '=')
    match name.dropWhile mark with
    | [] => (name, none)
    | _ :: value => (name.takeWhile mark, some (false, value))

/-- The characters with a named property. -/
def propertySet? (name : List Char) : Option CharSet :=
  match splitProperty name with
  | (name, none) => Unicode.propertyNamed? name
  | (name, some (differs, value)) => (Unicode.propertyValueNamed? name value).map (signed differs)

def readProperty? (f : PatternFlags) (negated : Bool) (cs : List Char) :
    Option (PatternAtom × List Char) := do
  if !f.unicode then none
  let (name, rest) ←
    match f.next cs with
    | '\x7b' :: rest => readBraced? f (rest.length + 1) [] rest
    | '\\' :: _ => none
    | c :: rest => some ([c], f.next rest)
    | [] => none
  let s ← if name.length = 1 then Unicode.propertyNamed? name else propertySet? name
  return (.set (signed negated (f.folded s)), rest)

/-- The letters and dashes that a text begins with, white space passed over. -/
def readEdgeName (f : PatternFlags) : Nat → List Char → List Char → List Char × List Char
  | 0, name, cs => (name.reverse, cs)
  | fuel + 1, name, cs =>
    match cs with
    | c :: rest =>
      if c.isAlpha || c == '-' then readEdgeName f fuel (c :: name) (f.next rest)
      else (name.reverse, cs)
    | [] => (name.reverse, [])

/-- What follows `\b`: the edge of a word, or one of the named kinds of edge.
An open brace may also belong to a repetition of the edge. -/
def readWordEdge? (f : PatternFlags) (cs : List Char) : Option (PatternAtom × List Char) :=
  let plain : Option (PatternAtom × List Char) := some (.anchor (.wordEdge f.word), cs)
  match cs with
  | '\x7b' :: rest =>
    match f.next rest with
    | [] => none
    | c :: rest =>
      if c.isAlpha || c == '-' then
        match readEdgeName f (rest.length + 1) [] (c :: rest) with
        | (name, '\x7d' :: rest) =>
          match String.ofList name with
          | "start" => some (.anchor (.wordStart f.word), rest)
          | "end" => some (.anchor (.wordEnd f.word), rest)
          | "start-half" => some (.anchor (.noWordBefore f.word), rest)
          | "end-half" => some (.anchor (.noWordAfter f.word), rest)
          | _ => none
        | _ => none
      else plain
  | _ => plain

/-- A class that is given by one letter, after its backslash. Where letters
are those of ASCII only, its negation would not be made of characters. -/
def readClass? (f : PatternFlags) (s : CharSet) (negated : Bool) (rest : List Char) :
    Option (PatternAtom × List Char) :=
  if negated && !f.unicode then none else some (.set (signed negated s), rest)

def readEscape? (f : PatternFlags) : List Char → Option (PatternAtom × List Char)
  | [] => none
  | c :: rest =>
    if isEscapable c then some (.literal c, rest)
    else
      match c with
      | 'x' => readHex? f 2 rest
      | 'u' => readHex? f 4 rest
      | 'U' => readHex? f 8 rest
      | 'p' => readProperty? f false rest
      | 'P' => readProperty? f true rest
      | 'd' => readClass? f f.digit false rest
      | 'D' => readClass? f f.digit true rest
      | 's' => readClass? f f.space false rest
      | 'S' => readClass? f f.space true rest
      | 'w' => readClass? f f.word false rest
      | 'W' => readClass? f f.word true rest
      | 'a' => some (.literal '\x07', rest)
      | 'f' => some (.literal '\x0c', rest)
      | 't' => some (.literal '\t', rest)
      | 'n' => some (.literal '\n', rest)
      | 'r' => some (.literal '\r', rest)
      | 'v' => some (.literal '\x0b', rest)
      | 'A' => some (.anchor .textStart, rest)
      | 'z' => some (.anchor .textEnd, rest)
      | 'b' => readWordEdge? f rest
      | 'B' => some (.anchor (.noWordEdge f.word), rest)
      | '<' => some (.anchor (.wordStart f.word), rest)
      | '>' => some (.anchor (.wordEnd f.word), rest)
      | _ => none

end PatternAtom

namespace Bracket

open PatternFlags PatternAtom

/-! ## Brackets -/

/-- The classes that are named between colons, of ASCII characters. -/
def asciiClass? : String → Option CharSet
  | "alnum" => some Char.isAlphanum
  | "alpha" => some Char.isAlpha
  | "ascii" => some fun c => c.toNat < 0x80
  | "blank" => some fun c => c == '\t' || c == ' '
  | "cntrl" => some fun c => c.toNat < 0x20 || c.toNat == 0x7F
  | "digit" => some Char.isDigit
  | "graph" => some fun c => 0x21 ≤ c.toNat && c.toNat ≤ 0x7E
  | "lower" => some Char.isLower
  | "print" => some fun c => 0x20 ≤ c.toNat && c.toNat ≤ 0x7E
  | "punct" => some fun c => 0x21 ≤ c.toNat && c.toNat ≤ 0x7E && !c.isAlphanum
  | "space" => some fun c => c == ' ' || (0x09 ≤ c.toNat && c.toNat ≤ 0x0D)
  | "upper" => some Char.isUpper
  | "word" => some fun c => c.isAlphanum || c == '_'
  | "xdigit" => some fun c => (Json.hexValue? c).isSome
  | _ => none

/-- A class such as `[:alpha:]`, after its opening bracket. -/
def readAsciiClass? (f : PatternFlags) : List Char → Option (CharSet × List Char)
  | ':' :: rest =>
    let (negated, rest) :=
      match rest with
      | '^' :: rest => (true, rest)
      | rest => (false, rest)
    match rest.dropWhile (· != ':') with
    | ':' :: ']' :: after =>
      (asciiClass? (String.ofList (rest.takeWhile (· != ':')))).map fun s =>
        (signed negated (f.folded s), after)
    | _ => none
  | _ => none

/-- A way to join two sets. -/
inductive Operator
  | intersection
  | difference
  | symmetricDifference

/-- The joined sets; case is left open on both sides first. -/
def Operator.join (f : PatternFlags) (op : Operator) (a b : CharSet) : CharSet :=
  let a := f.folded a
  let b := f.folded b
  match op with
  | .intersection => fun c => a c && b c
  | .difference => fun c => a c && !b c
  | .symmetricDifference => fun c => a c != b c

/-- The set collected so far in a pair of brackets: what stood before the
last operator with that operator, and the union since. -/
structure Collected where
  joined : Option (CharSet × Operator) := none
  union : CharSet := fun _ => false

def Collected.add (k : Collected) (s : CharSet) : Collected :=
  { k with union := fun c => k.union c || s c }

def Collected.close (f : PatternFlags) (k : Collected) : CharSet :=
  match k.joined with
  | some (s, op) => op.join f s k.union
  | none => k.union

/-- Everything collected so far, with an operator behind it. -/
def Collected.push (f : PatternFlags) (k : Collected) (op : Operator) : Collected :=
  ⟨some (k.close f, op), fun _ => false⟩

def readItem? (f : PatternFlags) : List Char → Option (PatternAtom × List Char)
  | '\\' :: rest => readEscape? f rest
  | c :: rest => some (.literal c, rest)
  | [] => none

/-- A character that sets may hold: any, or only those of ASCII. -/
def admits (f : PatternFlags) (c : Char) : Bool := f.unicode || c.toNat < 0x80

/-- An item of a set, or a range of them. A dash before a closing bracket or
another dash makes no range. -/
def readRange? (f : PatternFlags) (cs : List Char) : Option (CharSet × List Char) := do
  let (first, rest) ← readItem? f cs
  let rest := f.next rest
  let isRange :=
    match rest with
    | '-' :: after => f.peek? after != some ']' && f.peek? after != some '-'
    | _ => false
  if isRange then
    let (second, rest) ← readItem? f (f.next (rest.drop 1))
    match first, second with
    | .literal lo, .literal hi =>
      if lo ≤ hi && admits f lo && admits f hi then
        some (fun c => lo ≤ c && c ≤ hi, rest)
      else none
    | _, _ => none
  else
    match first with
    | .literal c => if admits f c then some ((· == c), rest) else none
    | .set s => some (s, rest)
    | .anchor _ => none

/-- The dashes that a set begins with stand for themselves. -/
def readDashes (f : PatternFlags) : Nat → Collected → List Char → Collected × List Char
  | 0, k, cs => (k, cs)
  | fuel + 1, k, cs =>
    match cs with
    | '-' :: rest => readDashes f fuel (k.add (· == '-')) (f.next rest)
    | cs => (k, cs)

/-- The beginning of a set after its opening bracket: whether it is negated,
dashes, and a closing bracket that stands for itself. -/
def openSet (f : PatternFlags) (cs : List Char) : Bool × Collected × List Char :=
  let cs := f.next cs
  let (negated, cs) :=
    match cs with
    | '^' :: rest => (true, f.next rest)
    | cs => (false, cs)
  match cs with
  | '-' :: _ =>
    let (k, rest) := readDashes f cs.length {} cs
    (negated, k, rest)
  | ']' :: rest => (negated, ({} : Collected).add (· == ']'), f.next rest)
  | cs => (negated, {}, cs)

/-- The rest of a set up to its closing bracket. The fuel is the length of
the text. -/
def readRest? (f : PatternFlags) : Nat → Bool → Collected → List Char → Option (CharSet × List Char)
  | 0, _, _, _ => none
  | fuel + 1, negated, k, cs =>
    match f.next cs with
    | [] => none
    | '[' :: rest =>
      match readAsciiClass? f rest with
      | some (s, rest) => readRest? f fuel negated (k.add s) rest
      | none =>
        let (innerNegated, inner, rest) := openSet f rest
        match readRest? f fuel innerNegated inner rest with
        | some (s, rest) => readRest? f fuel negated (k.add s) rest
        | none => none
    | ']' :: rest =>
      if negated && !f.unicode then none
      else some (signed negated (f.folded (k.close f)), rest)
    | '&' :: '&' :: rest => readRest? f fuel negated (k.push f .intersection) rest
    | '-' :: '-' :: rest => readRest? f fuel negated (k.push f .difference) rest
    | '~' :: '~' :: rest => readRest? f fuel negated (k.push f .symmetricDifference) rest
    | cs =>
      match readRange? f cs with
      | some (s, rest) => readRest? f fuel negated (k.add s) rest
      | none => none

def read? (f : PatternFlags) (cs : List Char) : Option (CharSet × List Char) :=
  let (negated, k, rest) := openSet f cs
  readRest? f (cs.length + 1) negated k rest

end Bracket

end RecordRules
