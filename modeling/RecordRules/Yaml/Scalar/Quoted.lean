import RecordRules.Json.Reader
import RecordRules.Yaml.Scalar.Plain

/-!
# Quoted scalars

Between single quotes a quote is written twice and all else stands for itself.
Between double quotes a backslash begins the spelling of a character, or takes
away the line end behind it. Other line ends are folded as in plain scalars,
with the blanks around them.
-/

namespace RecordRules.Yaml.Cursor

/-! ## Spelled characters -/

/-- The character with a number in so many hexadecimal digits. -/
def readCode? (digits : Nat) (c : Cursor) : Option (Char × Cursor) := do
  let ds := c.rest.take digits
  if ds.length ≠ digits then none
  else
    let ns ← ds.mapM Json.hexValue?
    let n := ns.foldl (fun n d => 16 * n + d) 0
    if h : n.isValidChar then some (Char.ofNatAux n h, c.skip digits) else none

/-- The character that a letter behind a backslash spells. -/
def spelled? : Char → Option Char
  | '0' => some '\x00'
  | 'a' => some '\x07'
  | 'b' => some '\x08'
  | 't' | '\t' => some '\t'
  | 'n' => some '\n'
  | 'v' => some '\x0b'
  | 'f' => some '\x0c'
  | 'r' => some '\r'
  | 'e' => some '\x1b'
  | ' ' => some ' '
  | '"' => some '"'
  | '/' => some '/'
  | '\\' => some '\\'
  | 'N' => some '\u0085'
  | '_' => some '\u00a0'
  | 'L' => some '\u2028'
  | 'P' => some '\u2029'
  | _ => none

/-- The character whose code unit, or pair of units, is here. -/
def readUnits? (c : Cursor) : Option (Char × Cursor) :=
  (Json.readUnicodeEscape? c.rest).map fun (ch, rest) =>
    (ch, c.skip (c.rest.length - rest.length))

/-- The character that is spelled behind a backslash. -/
def readSpelled? (c : Cursor) : Option (Char × Cursor) :=
  match c.peek? with
  | some 'x' => c.next.readCode? 2
  | some 'u' => c.next.readUnits?
  | some 'U' => c.next.readCode? 8
  | some ch => (spelled? ch).map fun e => (e, c.next)
  | none => none

/-! ## Lines -/

/-- Where a quoted scalar stands. -/
structure Enclosure where
  quote : Char
  inFlow : Bool
  /-- The column of the construct around. -/
  indent : Int

/-- The number of line ends up to the next character that is none and no
blank, and the place of it, from the start of a line on. No tab may indent a
line. -/
def quotedBreaks? (indent : Int) : Nat → Nat → Cursor → Option (Nat × Cursor)
  | 0, _, _ => none
  | fuel + 1, breaks, c =>
    let blanks := c.run isBlankChar
    let after := c.skip blanks.length
    if (blanks.take indent.toNat).contains '\t' then none
    else if after.atBreak then quotedBreaks? indent fuel (breaks + 1) after.next
    else some (breaks, after)

/-- A quoted scalar may go on in a line that begins here. -/
def allowsQuoted (e : Enclosure) (c : Cursor) : Bool :=
  !c.rest.isEmpty && !(c.column = 0 && c.atDocumentMark) && (e.inFlow || e.indent < c.column)

/-- A quoted scalar up to its closing quote. `acc` holds the text so far and
`blanks` the blanks behind it, both last first; a line end takes the blanks
away, unless a backslash takes the line end away. -/
def quotedFrom? (e : Enclosure) :
    Nat → List Char → List Char → Cursor → Option (String × Cursor)
  | 0, _, _, _ => none
  | fuel + 1, acc, blanks, c =>
    match c.peek? with
    | none => none
    | some ch =>
      if ch = e.quote then
        if e.quote = '\'' && c.second? == some '\'' then
          quotedFrom? e fuel ('\'' :: (blanks ++ acc)) [] (c.skip 2)
        else some (String.ofList (blanks ++ acc).reverse, c.next)
      else if ch = '\n' then
        match quotedBreaks? e.indent (c.rest.length + 1) 1 c.next with
        | none => none
        | some (breaks, next) =>
          if allowsQuoted e next then quotedFrom? e fuel ((foldBreaks breaks).reverse ++ acc) [] next
          else none
      else if isBlankChar ch then quotedFrom? e fuel acc (ch :: blanks) c.next
      else if ch = '\\' && e.quote = '"' then
        if c.second? == some '\n' then
          let line := c.skip 2
          if line.peek? == some e.quote then
            some (String.ofList (blanks ++ acc).reverse, line.next)
          else
            match quotedBreaks? e.indent (line.rest.length + 1) 0 line with
            | none => none
            | some (breaks, next) =>
              if allowsQuoted e next then
                quotedFrom? e fuel (List.replicate breaks '\n' ++ (blanks ++ acc)) [] next
              else none
        else
          match readSpelled? c.next with
          | some (s, next) => quotedFrom? e fuel (s :: (blanks ++ acc)) [] next
          | none => none
      else quotedFrom? e fuel (ch :: (blanks ++ acc)) [] c.next

/-- What may follow a quoted scalar that began in a line: nothing more in the
line, or the mark that ends it within brackets or as a key. -/
def allowsAfterQuoted (inFlow : Bool) (line : Nat) (c : Cursor) : Bool :=
  match c.peek? with
  | none | some '\n' => true
  | some ':' => inFlow || c.line == line
  | some ch => inFlow && (ch == ',' || ch == ']' || ch == '\x7d')

/-- The quoted scalar here, and the place behind it and the blanks that follow
it. -/
def readQuoted? (e : Enclosure) (c : Cursor) : Option (String × Cursor) := do
  let (text, after) ← quotedFrom? e (c.rest.length + 1) [] [] c.next
  let after ← after.skipLineGap?
  if allowsAfterQuoted e.inFlow c.line after then return (text, after) else none

end RecordRules.Yaml.Cursor
