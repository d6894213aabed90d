import RecordRules.Yaml.Cursor

/-!
# Plain scalars

A plain scalar is a text without quotes. It goes on over line ends as long as
the lines are indented further than the construct around it, and ends where a
key would, at a comment, and within brackets at their marks. Its line ends are
folded: one becomes a space, and of several all but one stay.
-/

namespace RecordRules.Yaml

/-- What so many line ends between two parts of a scalar become. -/
def foldBreaks (breaks : Nat) : List Char :=
  if breaks = 1 then [' '] else List.replicate (breaks - 1) '\n'

/-- A plain scalar and the place behind it. -/
structure PlainScalar where
  text : List Char
  after : Cursor
  /-- The line in which a comment cuts it off. -/
  cutLine : Option Nat := none

namespace Cursor

/-- The next character can belong to a plain scalar, if it is no gap. -/
def allowsPlain (inFlow : Bool) (c : Cursor) : Bool :=
  match c.peek? with
  | some ':' => !isGapOrEnd c.second? && !(inFlow && c.second?.any isFlowMark)
  | some ch => !(inFlow && isFlowMark ch)
  | none => true

/-- The characters up to a gap or the end of a plain scalar, last first. -/
def plainWord (inFlow : Bool) : Nat → List Char → Cursor → List Char × Cursor
  | 0, acc, c => (acc, c)
  | fuel + 1, acc, c =>
    match c.peek? with
    | some ch =>
      if c.atGap || !c.allowsPlain inFlow then (acc, c)
      else plainWord inFlow fuel (ch :: acc) c.next
    | none => (acc, c)

/-- The number of line ends up to the next character that is none and no
blank, and the place of it. -/
def plainBreaks? (indent : Int) : Nat → Nat → Cursor → Option (Nat × Cursor)
  | 0, _, _ => none
  | fuel + 1, breaks, c => do
    let c ← if c.atMargin then c.skipMargin? indent else some c.skipBlanks
    if c.atBreak then plainBreaks? indent fuel (breaks + 1) c.next else return (breaks, c)

/-- What stands between two words of a plain scalar, and the place of the
second. -/
def plainGap? (indent : Int) (c : Cursor) : Option (List Char × Cursor) := do
  let blanks := c.run isBlankChar
  let (breaks, after) ← plainBreaks? indent (c.rest.length + 1) 0 c
  return (if breaks = 0 then blanks else foldBreaks breaks, after)

/-- A plain scalar from its next word on, which is to be put behind what is
there, last first, and the gap. -/
def plainFrom? (inFlow : Bool) (indent : Int) :
    Nat → List Char → List Char → Cursor → Option PlainScalar
  | 0, _, _, _ => none
  | fuel + 1, acc, gap, c =>
    if c.column = 0 && c.atDocumentMark then some ⟨acc.reverse, c, none⟩
    else if c.peek? == some '#' then
      let isCut := !acc.isEmpty && !c.atMargin && !inFlow
      some ⟨acc.reverse, c, if isCut then some c.line else none⟩
    else if inFlow && c.peek? == some '-' && c.second?.any isFlowMark then none
    else
      let (word, after) := plainWord inFlow (c.rest.length + 1) [] c
      if word.isEmpty then some ⟨acc.reverse, c, none⟩
      else
        let acc := word ++ gap.reverse ++ acc
        if after.rest.isEmpty || !after.atGap then some ⟨acc.reverse, after, none⟩
        else
          match plainGap? indent after with
          | none => none
          | some (gap, next) =>
            if !inFlow && (next.column : Int) < indent then some ⟨acc.reverse, next, none⟩
            else plainFrom? inFlow indent fuel acc gap next

/-- The plain scalar here, if there is one. Its lines are indented by so many
columns. -/
def readPlain? (inFlow : Bool) (indent : Int) (c : Cursor) : Option PlainScalar := do
  if inFlow && (c.column : Int) < indent then none
  else
    let s ← plainFrom? inFlow indent (c.rest.length + 1) [] [] c
    if s.text.isEmpty then none else return s

end Cursor

end RecordRules.Yaml
