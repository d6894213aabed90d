import RecordRules.Yaml.Scalar.Block
import RecordRules.Yaml.Scalar.Quoted
import RecordRules.Yaml.Tag
import RecordRules.Yaml.Token.Layout

/-!
# From a YAML text to its tokens

`Lexer` is a place in a text together with the layout up to there. A step
skips what separates the tokens, ends the constructs that the next line is not
indented for, and takes one token (`step?`); `tokenize` takes steps until the
text ends. If a step fails, the tokens that are certain by then are the answer
(`Layout.settled`), and the token for the end of the text is missing.
-/

namespace RecordRules.Yaml

/-- A place in a text and what is open there. -/
structure Lexer where
  place : Cursor
  layout : Layout := {}
  /-- The number of characters before the place where a value may follow its
  colon at once. -/
  adjacentAt : Nat := 0
  /-- The line in which a comment has cut off a plain scalar. -/
  cutLine : Option Nat := none

namespace Lexer

def peek? (l : Lexer) : Option Char := l.place.peek?

def inFlow (l : Lexer) : Bool := l.layout.inFlow

/-- The layout changed, and the text read on to a place. -/
def moved (l : Lexer) (y : Layout) (c : Cursor) : Lexer := { l with layout := y, place := c }

/-! ## Between tokens -/

/-- The place of the next character that is neither blank nor line end nor in
a comment. A key may begin in a new line. -/
def skipGaps? : Nat → Lexer → Option Lexer
  | 0, l => some l
  | fuel + 1, l => do
    let c := l.place
    let c ← if c.atMargin then c.skipMargin? l.layout.indent else some c.skipBlanks
    let c := c.skipComment
    if c.atBreak then
      skipGaps? fuel (l.moved (l.layout.setAllowsKey (l.layout.allowsKey || !l.inFlow)) c.next)
    else return { l with place := c }

/-- The next line would go on with a plain scalar that a comment has cut off. -/
def goesOnAfterCut (l : Lexer) : Bool :=
  let c := l.place
  l.cutLine.any (fun line => c.line == line + 1) && !l.inFlow && l.layout.indent < c.column
    && !c.rest.isEmpty && !c.atDocumentMark && c.allowsPlain false

def toToken? (l : Lexer) : Option Lexer := do
  let l ← l.skipGaps? (l.place.rest.length + 1)
  if l.goesOnAfterCut then none else return { l with cutLine := none }

/-! ## Documents -/

/-- The constructs that are open end, since no document goes on here. -/
def closeDocument? (l : Lexer) : Option Layout :=
  (l.layout.closeBlocks (-1)).dropKey?.map (Layout.setAllowsKey false)

def finish? (l : Lexer) : Option Lexer := do
  if l.inFlow then none
  else
    let y ← l.closeDocument?
    return l.moved (y.push .textEnd) l.place

/-- A document begins, or one ends; then nothing more is said in the line. -/
def documentMark? (isStart : Bool) (l : Lexer) : Option Lexer := do
  let y ← l.closeDocument?
  let c := l.place.skip 3
  if isStart then return l.moved (y.push .documentStart) c
  else
    let c ← c.skipLineGap?
    if c.atLineEnd then return l.moved (y.push .documentEnd) c else none

/-- The token of a line of directions, and the place where the line should
end. -/
def readDirective? (c : Cursor) : Option (Token × Cursor) := do
  let name := c.run isWordChar
  let c := c.skip name.length
  if name.isEmpty || !c.atGap then none
  else if name = "YAML".toList then return (.version, ← c.skipVersion?)
  else if name = "TAG".toList then
    let ((handle, stem), c) ← c.readDeclaration?
    return (.handle handle stem, c)
  else return (.reserved, c.skipToBreak)

def directive? (l : Lexer) : Option Lexer := do
  let y ← l.closeDocument?
  let (t, c) ← readDirective? l.place.next
  let c ← c.skipLineGap?
  if c.atLineEnd then return l.moved (y.push t) c.next else none

/-! ## Brackets -/

def openFlow? (isMap : Bool) (l : Lexer) : Option Lexer := do
  let y ← l.layout.openFlow? isMap l.place
  let c ← l.place.next.skipLineGap?
  return l.moved (y.push (if isMap then .flowMap else .flowList)) c

/-- A closing bracket. A value may follow at once if it ends a key. -/
def closeFlow? (isMap : Bool) (l : Lexer) : Option Lexer := do
  let y ← l.layout.closeFlow? isMap
  let c ← l.place.next.skipLineGap?
  let l := if y.inFlow then { l with adjacentAt := c.index } else l
  return l.moved (y.push (if isMap then .flowMapEnd else .flowListEnd)) c

def comma? (l : Lexer) : Option Lexer := do
  let y ← l.layout.dropKey?
  let c ← l.place.next.skipLineGap?
  return l.moved (((y.setAllowsKey true).closePair y.depth).push .comma) c

/-! ## Items, keys and values -/

/-- The dash before an item. A tab may stand behind it, but not before another
dash. -/
def item? (l : Lexer) : Option Lexer := do
  if l.inFlow || !l.layout.allowsKey then none
  else
    let y := l.layout.openBlock l.place.column none .blockList
    let gap ← l.place.next.lineGap?
    let c := gap.after
    if gap.hasTab && c.atIndicator '-' then none
    else
      let y := if c.atBreak || c.sees isFlowMark then y.openValue else y
      let y ← y.dropKey?
      return l.moved ((y.setAllowsKey true).push .item) c

/-- The place behind spaces, line ends and comments. -/
def skipLines : Nat → Cursor → Cursor
  | 0, c => c
  | fuel + 1, c =>
    let c := (c.skipWhile (· == ' ')).skipComment
    if c.atBreak then skipLines fuel c.next else c

def key? (l : Lexer) : Option Lexer := do
  if !l.inFlow && !l.layout.allowsKey then none
  else
    let y :=
      if l.inFlow then { l.layout with inFlowMap := true }
      else l.layout.openBlock l.place.column none .blockMap
    let y ← y.dropKey?
    let start := l.place.next
    let c := skipLines (start.rest.length + 1) start
    if !(start.sees fun ch => ch == ' ' || ch == '\n') || c.peek? == some '\t' then none
    else return l.moved ((y.setAllowsKey (!l.inFlow)).push .key) c

/-- The place behind a colon. A tab behind it needs a space before a word or a
dash. -/
def afterColon? (c : Cursor) : Option Cursor := do
  let after := c.next
  if after.peek? == some '\t' then
    let gap ← after.lineGap?
    if !gap.hasSpace && gap.after.sees isWordChar then none else return gap.after
  else return after

/-- The colon before a value. -/
def value? (l : Lexer) : Option Lexer := do
  let c ← afterColon? l.place
  let y ←
    match l.layout.keyStart with
    | some k => l.layout.closeKey? l.place k
    | none => l.layout.emptyKey? l.place
  return l.moved (y.push .value) c

/-- The colon before a value within brackets, without a gap behind it. -/
def flowValue? (l : Lexer) : Option Lexer :=
  let opens := l.place.second?.any fun ch => ch == '[' || ch == '\x7b'
  if opens && l.place.index ≠ l.adjacentAt then none else l.value?

/-! ## Names, tags and scalars -/

/-- The layout behind a token that may begin a key. -/
def started (l : Lexer) : Layout := (l.layout.saveKey l.place).setAllowsKey false

def name? (isReference : Bool) (l : Lexer) : Option Lexer := do
  let (name, c) ← l.place.readName?
  return l.moved (l.started.push (if isReference then .reference name else .anchor name)) c

def tag? (l : Lexer) : Option Lexer := do
  let ((handle, suffix), c) ← l.place.readTag? l.inFlow
  return l.moved (l.started.push (.tag handle suffix)) c

def block? (l : Lexer) : Option Lexer := do
  let y := (l.layout.saveKey l.place).leaveValues
  let (text, c) ← l.place.readBlock? y.indent
  return l.moved ((y.setAllowsKey true).push (.scalar false text)) c

/-- A quoted scalar. A value may follow at once if it is a key. -/
def quoted? (quote : Char) (l : Lexer) : Option Lexer := do
  let (text, c) ← l.place.readQuoted? ⟨quote, l.inFlow, l.layout.indent⟩
  let l ← (l.moved l.started c).toToken?
  return { l with adjacentAt := l.place.index, layout := l.layout.push (.scalar false text) }

/-- A plain scalar. A key may begin behind it in a new line. -/
def plain? (l : Lexer) : Option Lexer := do
  let y := l.started.leaveValues
  let s ← l.place.readPlain? l.inFlow (y.indent + 1)
  let y := if s.after.atMargin then y.setAllowsKey true else y
  let l := { l with cutLine := s.cutLine }
  return l.moved (y.push (.scalar true (String.ofList s.text))) s.after

/-! ## Steps -/

/-- A colon within brackets that ends a key without a gap behind it. -/
def atFlowValue (l : Lexer) : Bool :=
  l.inFlow && (l.place.second?.any isFlowMark || l.place.index == l.adjacentAt)

def tokenAt? (ch : Char) (l : Lexer) : Option Lexer :=
  let standsAlone := isGapOrEnd l.place.second?
  if ch = '[' then l.openFlow? false
  else if ch = '\x7b' then l.openFlow? true
  else if ch = ']' then l.closeFlow? false
  else if ch = '\x7d' then l.closeFlow? true
  else if ch = ',' then l.comma?
  else if ch = '-' && standsAlone then l.item?
  else if ch = '?' && standsAlone then l.key?
  else if ch = ':' && standsAlone then l.value?
  else if ch = ':' && l.atFlowValue then l.flowValue?
  else if ch = '*' then l.name? true
  else if ch = '&' then l.name? false
  else if ch = '!' then l.tag?
  else if (ch = '|' || ch = '>') && !l.inFlow then l.block?
  else if ch = '\'' || ch = '"' then l.quoted? ch
  else if "%@`".toList.contains ch then none
  else l.plain?

/-- A line may begin at the place: it is indented for the innermost construct,
or only closes a bracket. -/
def isIndented (l : Lexer) : Bool :=
  l.layout.indent ≤ l.place.column
    || (l.inFlow && l.place.sees fun ch => ch == ']' || ch == '\x7d' || ch == ',')

def step? (l : Lexer) : Option Lexer := do
  let l ← l.toToken?
  let c := l.place
  let y ← l.layout.dropStaleKey? c
  let l := l.moved (y.closeBlocks c.column) c
  match c.peek? with
  | none => l.finish?
  | some ch =>
    if c.column = 0 && ch = '%' then l.directive?
    else if c.column = 0 && c.atTriple '-' then l.documentMark? true
    else if c.column = 0 && c.atTriple '.' then l.documentMark? false
    else if l.isIndented then l.tokenAt? ch
    else none

def run : Nat → Lexer → List Token
  | 0, l => l.layout.settled l.place
  | fuel + 1, l =>
    match l.step? with
    | none => l.layout.settled l.place
    | some next =>
      if next.layout.tokens.head? = some .textEnd then next.layout.tokens.reverse
      else run fuel next

end Lexer

def tokenize (text : String) : List Token :=
  let c := Cursor.ofText text
  Lexer.run (c.rest.length + 2) { place := c }

end RecordRules.Yaml
