/-!
# Places in a YAML text

Indentation is part of YAML, so a place in a text knows its line and column.
`Cursor` is such a place with the text that follows it. Before a text is read
its line ends become line feeds, and what follows a NUL is cut off
(`Cursor.ofText`).

What separates the parts of a text is skipped in three ways: the blanks and
the comment in the rest of a line (`lineGap?`), the blanks that a line begins
with, where tabs may not take the place of the spaces that indent it
(`skipMargin?`), and the comment alone (`skipComment`). Skipping takes
characters off the text and no others (`rest_skip`, `run_append_rest`).
-/

namespace RecordRules.Yaml

/-! ## Characters -/

def isBlankChar (c : Char) : Bool := c == ' ' || c == '\t'

/-- The end of the text or a character that separates: a blank or a line end. -/
def isGapOrEnd : Option Char → Bool
  | none => true
  | some c => isBlankChar c || c == '\n'

/-- A character that means something within brackets. -/
def isFlowMark (c : Char) : Bool := ",[]\x7b\x7d".toList.contains c

def isWordChar (c : Char) : Bool := c.isAlphanum || c == '_' || c == '-'

/-- The text with every line end as a line feed, up to its first NUL. -/
def normalize : List Char → List Char
  | '\r' :: '\n' :: cs => '\n' :: normalize cs
  | '\r' :: cs => '\n' :: normalize cs
  | '\x00' :: _ => []
  | c :: cs => c :: normalize cs
  | [] => []

def dropOrderMark : List Char → List Char
  | '\ufeff' :: cs => cs
  | cs => cs

/-! ## Places -/

/-- A place in a text. -/
structure Cursor where
  rest : List Char
  /-- The number of characters before the place. -/
  index : Nat := 0
  line : Nat := 0
  column : Nat := 0
  /-- Only blanks stand before the place in its line. -/
  atMargin : Bool := true

namespace Cursor

/-- The start of a text. One mark of the byte order belongs to the text's
encoding, and one more may begin the text itself. -/
def ofText (text : String) : Cursor :=
  { rest := normalize (dropOrderMark (dropOrderMark text.toList)) }

def peek? (c : Cursor) : Option Char := c.rest.head?

def second? (c : Cursor) : Option Char := (c.rest.drop 1).head?

def next (c : Cursor) : Cursor :=
  match c.rest with
  | [] => c
  | ch :: rest =>
    if ch = '\n' then ⟨rest, c.index + 1, c.line + 1, 0, true⟩
    else ⟨rest, c.index + 1, c.line, c.column + 1, c.atMargin && isBlankChar ch⟩

def skip : Nat → Cursor → Cursor
  | 0, c => c
  | n + 1, c => skip n c.next

@[simp] theorem rest_next (c : Cursor) : c.next.rest = c.rest.drop 1 := by
  unfold next
  split
  next h => simp [h]
  next h => split <;> simp [h]

/-- Skipping takes characters off the text and no others. -/
@[simp] theorem rest_skip (n : Nat) (c : Cursor) : (c.skip n).rest = c.rest.drop n := by
  induction n generalizing c with
  | zero => rfl
  | succ n ih => rw [skip, ih, rest_next, List.drop_drop, Nat.add_comm]

def run (p : Char → Bool) (c : Cursor) : List Char := c.rest.takeWhile p

def skipWhile (p : Char → Bool) (c : Cursor) : Cursor := c.skip (c.run p).length

/-- What passes and what is left behind it are the text. -/
theorem run_append_rest (p : Char → Bool) (c : Cursor) :
    c.run p ++ (c.skipWhile p).rest = c.rest := by
  rw [skipWhile, rest_skip, run]
  exact List.prefix_iff_eq_append.mp (List.takeWhile_prefix p)

def skipBlanks (c : Cursor) : Cursor := c.skipWhile isBlankChar

def skipToBreak (c : Cursor) : Cursor := c.skipWhile (· != '\n')

def atBreak (c : Cursor) : Bool := c.peek? == some '\n'

def atLineEnd (c : Cursor) : Bool := c.rest.isEmpty || c.atBreak

/-- A separating character is here, or the end of the text. -/
def atGap (c : Cursor) : Bool := isGapOrEnd c.peek?

def sees (p : Char → Bool) (c : Cursor) : Bool := c.peek?.any p

/-- The next character is the given one and stands alone. -/
def atIndicator (ch : Char) (c : Cursor) : Bool := c.peek? == some ch && isGapOrEnd c.second?

/-- Three such characters are here, with a gap behind. -/
def atTriple (ch : Char) (c : Cursor) : Bool :=
  c.rest.take 3 == [ch, ch, ch] && isGapOrEnd (c.rest.drop 3).head?

/-- A document begins or ends here, if the line does. -/
def atDocumentMark (c : Cursor) : Bool := c.atTriple '-' || c.atTriple '.'

/-! ## Gaps -/

/-- The place behind a comment, if there is one here. -/
def skipComment (c : Cursor) : Cursor := if c.peek? == some '#' then c.skipToBreak else c

/-- The rest of a line that says nothing. -/
structure LineGap where
  /-- The place behind it. -/
  after : Cursor
  hasTab : Bool
  hasSpace : Bool

/-- The blanks from here, and the comment behind them. A comment must stand
apart from what it follows. -/
def lineGap? (c : Cursor) : Option LineGap :=
  let blanks := c.run isBlankChar
  let after := c.skip blanks.length
  if blanks.isEmpty && after.peek? == some '#' then none
  else some ⟨after.skipComment, blanks.contains '\t', blanks.contains ' '⟩

/-- The place behind the blanks from here and the comment behind them. -/
def skipLineGap? (c : Cursor) : Option Cursor := c.lineGap?.map LineGap.after

/-- The place behind the blanks from here, in a line that is to be indented
by so many columns. Where a tab stands in one of those, the line must say
nothing. -/
def skipMargin? (indent : Int) (c : Cursor) : Option Cursor :=
  let blanks := c.run isBlankChar
  let after := c.skip blanks.length
  if (blanks.take (indent - c.column).toNat).contains '\t' then
    let after := after.skipComment
    if after.atLineEnd then some after else none
  else some after

end Cursor

end RecordRules.Yaml
