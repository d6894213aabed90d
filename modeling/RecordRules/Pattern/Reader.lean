import RecordRules.Pattern.Bracket

/-!
# Reading patterns

A pattern is a list of alternatives, an alternative a sequence of pieces, and
a piece an atom with its repetitions. An atom is a character, an escape, a
set in brackets, a point or an anchor, or a group. Groups may be named, and
no two may share a name; they may switch flags for what is inside them, and
flags in parentheses of their own switch for the rest of the group around
them. Groups that look ahead or behind and references back to groups are not
part of the language, and a pattern with them is refused.

Whether a repetition is greedy makes no difference to whether there is a
match, so the mark for it is read and forgotten.

`Pattern.ofOperand?` also takes a pattern between slashes with flags behind
the second one.
-/

namespace RecordRules

open PatternFlags

/-! ## Flags -/

def PatternFlags.set? (f : PatternFlags) (value : Bool) : Char → Option PatternFlags
  | 'i' => some { f with ignoreCase := value }
  | 'm' => some { f with multiLine := value }
  | 's' => some { f with dotAll := value }
  | 'x' => some { f with spaced := value }
  | 'u' => some { f with unicode := value }
  | 'R' => some { f with crLf := value }
  | 'U' => some f
  | _ => none

/-- The flags after letters that set them and, behind a dash, letters that
clear them. No letter may be repeated, there is at most one dash, and it is
not the last. -/
def PatternFlags.switch? (f : PatternFlags) (value : Bool) (seen : List Char) :
    List Char → Option PatternFlags
  | [] => if seen.head? = some '-' then none else some f
  | c :: cs =>
    if seen.contains c then none
    else if c = '-' then f.switch? false (c :: seen) cs
    else
      match f.set? value c with
      | some f => f.switch? value (c :: seen) cs
      | none => none

/-! ## Atoms -/

/-- A piece of a sequence. A switch of flags is a piece that matches nothing
and cannot be repeated. -/
inductive PatternPiece
  | pattern (p : Pattern)
  | switch

/-- The sequence of pieces, of which the last comes first. -/
def PatternPiece.sequence (pieces : List PatternPiece) : Pattern :=
  pieces.foldl (fun tail piece =>
    match piece, tail with
    | .switch, tail => tail
    | .pattern p, .empty => p
    | .pattern p, tail => .seq p tail) .empty

/-- A point: any character, or any but the end of a line. Where letters are
those of ASCII only it would not stand for characters. -/
def PatternFlags.point? (f : PatternFlags) : Option Pattern :=
  if !f.unicode then none
  else if f.dotAll then some (.char fun _ => true)
  else if f.crLf then some (.char fun c => c != '\n' && c != '\r')
  else some (.char (· != '\n'))

def PatternFlags.caret (f : PatternFlags) : Anchor :=
  if !f.multiLine then .textStart else if f.crLf then .lineStartCrLf else .lineStart

def PatternFlags.dollar (f : PatternFlags) : Anchor :=
  if !f.multiLine then .textEnd else if f.crLf then .lineEndCrLf else .lineEnd

def PatternAtom.toPattern (f : PatternFlags) : PatternAtom → Pattern
  | .literal c => .char (f.single c)
  | .set s => .char s
  | .anchor a => .anchor a

def readAtom? (f : PatternFlags) : List Char → Option (Pattern × List Char)
  | [] => none
  | '\\' :: rest => (PatternAtom.readEscape? f rest).map fun (a, rest) => (a.toPattern f, rest)
  | '.' :: rest => f.point?.map (·, rest)
  | '^' :: rest => some (.anchor f.caret, rest)
  | '$' :: rest => some (.anchor f.dollar, rest)
  | c :: rest => some (.char (f.single c), rest)

/-! ## Repetitions -/

/-- A number with white space around it, if there is one. -/
def readCount? (f : PatternFlags) (cs : List Char) : Option (Nat × List Char) :=
  let rec digits : Nat → List Char → List Char → List Char × List Char
    | 0, ds, cs => (ds.reverse, cs)
    | fuel + 1, ds, cs =>
      match cs with
      | c :: rest =>
        if Decimal.isDigit c then digits fuel (c :: ds) (f.next rest) else (ds.reverse, cs)
      | [] => (ds.reverse, [])
  let (ds, rest) := digits cs.length [] (cs.dropWhile Text.isSpace)
  let n := Decimal.ofDigits ds
  if ds.isEmpty || n ≥ power 2 32 then none else some (n, f.next (rest.dropWhile Text.isSpace))

/-- The text after a mark of how to choose among matches. -/
def afterChoice : List Char → List Char
  | '?' :: rest => rest
  | rest => rest

/-- The bounds of a repetition between braces, after the opening one. -/
def readBounds? (f : PatternFlags) (cs : List Char) : Option ((Nat × Option Nat) × List Char) := do
  let (least, rest) ← readCount? f (f.next cs)
  let (most, rest) ←
    match rest with
    | ',' :: rest =>
      match f.next rest with
      | '\x7d' :: rest => some (none, '\x7d' :: rest)
      | rest => (readCount? f rest).map fun (n, rest) => (some n, rest)
    | rest => some (some least, rest)
  match rest with
  | '\x7d' :: rest =>
    if most.all (least ≤ ·) then some ((least, most), afterChoice (f.next rest)) else none
  | _ => none

/-- The last piece repeated; there must be one, and no switch of flags. -/
def repeatLast? (least : Nat) (most : Option Nat) : List PatternPiece → Option (List PatternPiece)
  | .pattern p :: pieces => some (.pattern (.times p least most) :: pieces)
  | _ => none

/-! ## Groups -/

def isNameChar (isFirst : Bool) (c : Char) : Bool :=
  if isFirst then c == '_' || Unicode.isAlphabetic c
  else c == '_' || c == '.' || c == '[' || c == ']' || Unicode.isAlphanumeric c

/-- A group's name up to the closing angle bracket. -/
def readName? (names : List (List Char)) (cs : List Char) : Option (List Char × List Char) :=
  let name := cs.takeWhile (· != '>')
  match cs.dropWhile (· != '>') with
  | _ :: rest =>
    let good := (name.head?.any (isNameChar true)) && name.tail.all (isNameChar false)
    if good && !names.contains name then some (name, rest) else none
  | [] => none

/-- What an opening parenthesis begins. -/
inductive GroupStart
  /-- A group, with its flags and the names given so far. -/
  | group (flags : PatternFlags) (names : List (List Char))
  /-- Flags for the rest of the group around. -/
  | switch (flags : PatternFlags)

/-- The beginning of a group, after its opening parenthesis. -/
def readGroupStart? (f : PatternFlags) (names : List (List Char)) (cs : List Char) :
    Option (GroupStart × List Char) :=
  let named (rest : List Char) : Option (GroupStart × List Char) :=
    (readName? names rest).map fun (name, rest) => (.group f (name :: names), rest)
  match f.next cs with
  | '?' :: 'P' :: '<' :: rest => named rest
  | '?' :: '<' :: rest => named rest
  | '?' :: rest =>
    let letters := rest.takeWhile fun c => c != ':' && c != ')'
    match f.switch? true [] letters, rest.drop letters.length with
    | some g, ':' :: rest => some (.group g names, rest)
    | some g, ')' :: rest => if letters.isEmpty then none else some (.switch g, rest)
    | _, _ => none
  | rest => some (.group f names, rest)

/-! ## Patterns -/

/-- What comes next in a pattern. -/
inductive PatternMark
  /-- The end of a group, or of the text. -/
  | finish
  /-- The bar between alternatives. -/
  | bar
  | start (s : GroupStart)
  | piece (p : Pattern)
  | repetition (least : Nat) (most : Option Nat)

/-- What comes next in a pattern, and the text after it. A closing parenthesis
is left. -/
def readMark? (f : PatternFlags) (names : List (List Char)) (cs : List Char) :
    Option (PatternMark × List Char) :=
  match f.next cs with
  | [] => some (.finish, [])
  | c :: rest =>
    if c = ')' then some (.finish, c :: rest)
    else if c = '|' then some (.bar, rest)
    else if c = '?' then some (.repetition 0 (some 1), afterChoice rest)
    else if c = '*' then some (.repetition 0 none, afterChoice rest)
    else if c = '+' then some (.repetition 1 none, afterChoice rest)
    else if c = '\x7b' then
      (readBounds? f rest).map fun ((least, most), rest) => (.repetition least most, rest)
    else if c = '(' then (readGroupStart? f names rest).map fun (s, rest) => (.start s, rest)
    else if c = '[' then (Bracket.read? f rest).map fun (s, rest) => (.piece (.char s), rest)
    else (readAtom? f (c :: rest)).map fun (p, rest) => (.piece p, rest)

/-- What has been read of a group: its alternatives but the last, and the
pieces of that one, both with the last first. -/
structure GroupSoFar where
  alternatives : List Pattern := []
  pieces : List PatternPiece := []

namespace GroupSoFar

def close (g : GroupSoFar) : Pattern :=
  g.alternatives.foldl (fun right left => .alt left right) (PatternPiece.sequence g.pieces)

def add (g : GroupSoFar) (p : PatternPiece) : GroupSoFar := { g with pieces := p :: g.pieces }

def branch (g : GroupSoFar) : GroupSoFar where
  alternatives := PatternPiece.sequence g.pieces :: g.alternatives

def repeat? (g : GroupSoFar) (least : Nat) (most : Option Nat) : Option GroupSoFar :=
  (repeatLast? least most g.pieces).map fun pieces => { g with pieces }

end GroupSoFar

/-- A group up to its closing parenthesis, which is left, or to the end of the
text, together with the names of all groups so far. Every round reads a
character at least, so the fuel is the length of the text. -/
def readGroup? : Nat → PatternFlags → List (List Char) → GroupSoFar → List Char →
    Option (Pattern × List (List Char) × List Char)
  | 0, _, _, _, _ => none
  | fuel + 1, f, names, g, cs =>
    match readMark? f names cs with
    | none => none
    | some (.finish, rest) => some (g.close, names, rest)
    | some (.bar, rest) => readGroup? fuel f names g.branch rest
    | some (.piece p, rest) => readGroup? fuel f names (g.add (.pattern p)) rest
    | some (.repetition least most, rest) =>
      match g.repeat? least most with
      | some g => readGroup? fuel f names g rest
      | none => none
    | some (.start (.switch inner), rest) => readGroup? fuel inner names (g.add .switch) rest
    | some (.start (.group inner names), rest) =>
      match readGroup? fuel inner names {} rest with
      | some (p, names, ')' :: rest) => readGroup? fuel f names (g.add (.pattern p)) rest
      | _ => none

namespace Pattern

/-- The pattern that a whole text is, read under some flags. -/
def readWith? (f : PatternFlags) (cs : List Char) : Option Pattern :=
  match readGroup? (cs.length + 1) f [] {} cs with
  | some (p, _, []) => some p
  | _ => none

/-- The parts of a text between slashes with letters of flags behind: the
pattern and the letters. The last slash ends the pattern. -/
def delimited? : List Char → Option (List Char × List Char)
  | '/' :: rest =>
    if rest.contains '/' then
      let letters := (rest.reverse.takeWhile (· != '/')).reverse
      if letters.all "imsxu".toList.contains then
        some (rest.take (rest.length - letters.length - 1), letters)
      else none
    else none
  | _ => none

/-- The pattern that an operand spells: between slashes with flags, or bare.
The flag `u` changes nothing, and no other may be repeated. -/
def ofOperand? (text : String) : Option Pattern :=
  match delimited? text.toList with
  | some (body, letters) =>
    match PatternFlags.switch? {} true [] (letters.filter (· != 'u')) with
    | some f => readWith? f body
    | none => none
  | none => readWith? {} text.toList

end Pattern

end RecordRules
