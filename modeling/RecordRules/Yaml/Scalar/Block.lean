import RecordRules.Number.Decimal
import RecordRules.Yaml.Cursor

/-!
# Block scalars

A block scalar consists of the lines below its indicator that are indented
further than the construct around it: by as many columns as a digit behind the
indicator says, or as its first line is. Its lines are kept as they are, or
folded where two lines that do not begin with a blank follow each other.
Another mark behind the indicator says what becomes of the line ends behind
the last line.
-/

namespace RecordRules.Yaml

/-- What becomes of the line ends behind a block scalar. -/
inductive Chomping
  | strip
  | clip
  | keep
  deriving DecidableEq

/-- The indicator of a block scalar and the marks behind it. -/
structure BlockStyle where
  isFolded : Bool
  chomping : Chomping
  /-- The columns that the lines are indented by. -/
  step : Option Nat

/-- The lines of a block scalar, and what is left of the text. -/
structure BlockLines where
  /-- The text up to the last character that is no line end, last first. -/
  text : List Char
  /-- A line end stands behind the last line. -/
  isEnded : Bool
  /-- The number of empty lines behind that. -/
  breaks : Nat
  after : Cursor

/-! ## The line ends behind -/

/-- The line ends behind the lines. A last line that the text ends in counts as
ended. -/
def Chomping.tail (chomping : Chomping) (indent : Nat) (ls : BlockLines) : List Char :=
  let atEnd := ls.after.rest.isEmpty && max indent 1 ≤ ls.after.column
  let ends := (if ls.isEnded then ['\n'] else []) ++ (if atEnd then ['\n'] else [])
  match chomping with
  | .strip => []
  | .clip => ends
  | .keep => ends ++ List.replicate ls.breaks '\n'

/-- What is left of a block scalar without lines, if the text ends in it. -/
def Chomping.empty (chomping : Chomping) (breaks : Nat) : List Char :=
  match chomping with
  | .strip => []
  | .clip => ['\n']
  | .keep => List.replicate (max breaks 1) '\n'

namespace Cursor

/-! ## The first line -/

/-- The mark for the line ends behind, if there is one. -/
def readChomping (c : Cursor) : Option Chomping × Cursor :=
  match c.peek? with
  | some '-' => (some .strip, c.next)
  | some '+' => (some .keep, c.next)
  | _ => (none, c)

/-- The digit for the columns, if there is one. It cannot be zero. -/
def readStep? (c : Cursor) : Option (Option Nat × Cursor) :=
  match c.peek?.bind Decimal.digit? with
  | none => some (none, c)
  | some 0 => none
  | some n => some (some n, c.next)

/-- The indicator of a block scalar and its marks, in either order. -/
def readStyle? (c : Cursor) : Option (BlockStyle × Cursor) := do
  let isFolded := c.peek? == some '>'
  let (first, c) := c.next.readChomping
  let (step, c) ← c.readStep?
  let (second, c) := if first.isSome then (first, c) else c.readChomping
  return (⟨isFolded, second.getD .clip, step⟩, c)

/-! ## Indentation -/

/-- The number of empty lines up to the next line that is none or is indented
far enough, and the place behind the spaces that indent it. -/
def blockBreaks (indent : Nat) : Nat → Nat → Cursor → Nat × Cursor
  | 0, breaks, c => (breaks, c)
  | fuel + 1, breaks, c =>
    let spaces := (c.rest.take (indent - c.column)).takeWhile (· == ' ')
    let c := c.skip spaces.length
    if c.atBreak then blockBreaks indent fuel (breaks + 1) c.next else (breaks, c)

/-- The number of empty lines up to the next that is none, the most columns
that one of these lines is indented by, and the place behind the spaces. -/
def firstBreaks : Nat → Nat → Nat → Cursor → Nat × Nat × Cursor
  | 0, breaks, widest, c => (breaks, widest, c)
  | fuel + 1, breaks, widest, c =>
    let c := c.skipWhile (· == ' ')
    let widest := max widest c.column
    if c.atBreak then firstBreaks fuel (breaks + 1) widest c.next else (breaks, widest, c)

/-- The column that lines without a mark for it begin at, by the widest of
the first. It is behind the column of the construct around. -/
def detectedIndent (outer : Int) (widest : Nat) : Nat := max widest (outer + 1).toNat

/-- The empty lines before the first line, the column of the lines, and the
place where the first line begins. -/
def readBlockIndent (outer : Int) (step : Option Nat) (c : Cursor) : Nat × Nat × Cursor :=
  let fuel := c.rest.length + 1
  match step with
  | some n =>
    let indent := outer.toNat + n
    let (breaks, c) := blockBreaks indent fuel 0 c
    (breaks, indent, c)
  | none =>
    let (breaks, widest, c) := firstBreaks fuel 0 0 c
    (breaks, detectedIndent outer widest, c)

/-! ## Lines -/

/-- What stands between two lines. -/
def lineJoint (isFolded afterLine : Bool) (breaks : Nat) : List Char :=
  if isFolded && afterLine && breaks = 0 then [' ']
  else List.replicate (breaks + if afterLine && !isFolded then 1 else 0) '\n'

/-- The lines of a block scalar from the one here on. `text` is what is there,
last first, and `wasSpaced` tells that its last line begins with a blank. -/
def blockFrom (isFolded : Bool) (indent : Nat) :
    Nat → List Char → Bool → Bool → Nat → Cursor → BlockLines
  | 0, text, isEnded, _, breaks, c => ⟨text, isEnded, breaks, c⟩
  | fuel + 1, text, isEnded, wasSpaced, breaks, c =>
    if c.column ≠ indent || c.rest.isEmpty || (indent = 0 && c.atTriple '.') then
      ⟨text, isEnded, breaks, c⟩
    else
      let isSpaced := c.sees isBlankChar
      let joint := lineJoint (isFolded && !wasSpaced && !isSpaced) isEnded breaks
      let line := c.run (· != '\n')
      let text := line.reverse ++ joint ++ text
      let after := c.skip line.length
      if after.rest.isEmpty then ⟨text, false, 0, after⟩
      else
        let (breaks, next) := blockBreaks indent (after.rest.length + 1) 0 after.next
        blockFrom isFolded indent fuel text true isSpaced breaks next

/-- The block scalar here, in a construct at a column, and the place behind
it. -/
def readBlock? (outer : Int) (c : Cursor) : Option (String × Cursor) := do
  let (style, head) ← c.readStyle?
  let head ← head.skipLineGap?
  if !head.atLineEnd then none
  else
    let body := head.next
    if body.peek? == some '\t' then none
    else
      let (breaks, indent, first) := body.readBlockIndent outer style.step
      if first.rest.isEmpty then
        let text := if first.line = c.line then [] else style.chomping.empty breaks
        return (String.ofList text, first)
      else if first.column < indent && outer < first.column then none
      else
        let ls := blockFrom style.isFolded indent (first.rest.length + 1) [] false false breaks first
        let text := ls.text.reverse ++ style.chomping.tail indent ls
        return (String.ofList text, ls.after)

end Cursor

end RecordRules.Yaml
