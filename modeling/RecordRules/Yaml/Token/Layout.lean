import RecordRules.Yaml.Cursor
import RecordRules.Yaml.Token

/-!
# The layout of a YAML text

`Layout` is what the tokens so far leave open: the constructs written by
indentation, with their columns; the brackets; and in each bracket, and
outside of all, the place where a key may have begun. Indentation only counts
outside of brackets.

A map has no token where it begins. A token that could begin a key is
remembered instead (`saveKey`), and if a colon follows, the tokens for the key
and for the map are put in front of it.
-/

namespace RecordRules.Yaml

/-- The start of what becomes a key if a colon follows. -/
structure KeyStart where
  /-- Nothing but a key can begin here. -/
  isRequired : Bool
  /-- The number of the first token. -/
  token : Nat
  place : Cursor

/-- A construct written by indentation. -/
structure Indent where
  /-- The column of the construct around. -/
  outer : Int
  /-- It is a list or a map, not only a value further to the right. -/
  isBlock : Bool

/-- What the tokens so far leave open. -/
structure Layout where
  /-- The tokens so far, the last first. -/
  tokens : List Token := []
  /-- Where a key may have begun in the innermost bracket. -/
  keyStart : Option KeyStart := none
  /-- The same in the brackets around, and outside of all. -/
  outerStarts : List (Option KeyStart) := []
  /-- A key may begin here. -/
  allowsKey : Bool := true
  /-- The column of the innermost construct. -/
  indent : Int := -1
  /-- The constructs, the innermost first. -/
  indents : List Indent := []
  /-- A colon belongs to an entry of a map, not to a pair that stands alone in
  a list. -/
  inFlowMap : Bool := false
  /-- For the lists in brackets, how many brackets stand around the pair that
  is being read in it. -/
  pairs : List (Option Nat) := []

namespace Layout

def depth (y : Layout) : Nat := y.outerStarts.length

def inFlow (y : Layout) : Bool := !y.outerStarts.isEmpty

/-! ## Tokens -/

def push (t : Token) (y : Layout) : Layout := { y with tokens := t :: y.tokens }

/-- One more token, in front of the one with a number. -/
def insert (number : Nat) (t : Token) (y : Layout) : Layout :=
  let behind := y.tokens.length - number
  { y with tokens := y.tokens.take behind ++ t :: y.tokens.drop behind }

/-- Whether a key may begin next. -/
def setAllowsKey (allowed : Bool) (y : Layout) : Layout := { y with allowsKey := allowed }

/-! ## Keys -/

def inBlock (y : Layout) : Bool := y.indents.head?.any Indent.isBlock

/-- If a key may begin here, it may have begun with the next token. -/
def saveKey (c : Cursor) (y : Layout) : Layout :=
  if y.allowsKey then
    let isRequired := !y.inFlow && y.indent == c.column && y.inBlock
    { y with keyStart := some ⟨isRequired, y.tokens.length, c⟩ }
  else y

/-- No key has begun. -/
def dropKey? (y : Layout) : Option Layout :=
  if y.keyStart.any KeyStart.isRequired then none else some { y with keyStart := none }

/-- Outside of brackets a key ends in the line in which it begins, within 1024
characters. -/
def isStale (c : Cursor) (y : Layout) (k : KeyStart) : Bool :=
  !y.inFlow && (k.place.line < c.line || k.place.index + 1024 < c.index)

/-- A key that should have ended before a place has not begun. -/
def dropStaleKey? (c : Cursor) (y : Layout) : Option Layout :=
  if y.keyStart.any (y.isStale c) then y.dropKey? else some y

/-- The tokens that are there to stay if the text cannot be read on from a
place: those before any that may have begun a key. -/
def settled (c : Cursor) (y : Layout) : List Token :=
  let blocks := fun k : KeyStart => !y.isStale c k || k.isRequired
  let starts := (y.keyStart :: y.outerStarts).filterMap fun k => k.filter blocks
  let count := starts.foldl (fun n k => min n k.token) y.tokens.length
  y.tokens.reverse.take count

/-! ## Indentation -/

/-- The innermost construct is left if it is only a value further to the
right. -/
def leaveValue (y : Layout) : Layout :=
  match y.indents with
  | i :: outer => if i.isBlock then y else { y with indent := i.outer, indents := outer }
  | [] => y

/-- All constructs up to the innermost list or map are left. -/
def leaveValues (y : Layout) : Layout := go y.indents y
where
  go : List Indent → Layout → Layout
    | [], y => { y with indents := [] }
    | i :: outer, y =>
      if i.isBlock then { y with indents := i :: outer } else go outer { y with indent := i.outer }

/-- A list or map begins at a column, if the innermost construct is not there
already. Its token stands at the end or in front of the one with a number. -/
def openBlock (column : Nat) (number : Option Nat) (t : Token) (y : Layout) : Layout :=
  if y.inFlow then y
  else
    let y := if y.indent ≤ column then y.leaveValue else y
    if y.indent < column then
      let y := { y with indents := ⟨y.indent, true⟩ :: y.indents, indent := column }
      match number with
      | some n => y.insert n t
      | none => y.push t
    else y

/-- What follows in a list or map is further to the right. -/
def openValue (y : Layout) : Layout :=
  if !y.inFlow && y.inBlock then
    { y with indents := ⟨y.indent, false⟩ :: y.indents, indent := y.indent + 1 }
  else y

def closeBlocks (column : Int) (y : Layout) : Layout :=
  if y.inFlow then y else go y.indents y
where
  go : List Indent → Layout → Layout
    | [], y => { y with indents := [] }
    | i :: outer, y =>
      if column < y.indent then
        let y := { y with indent := i.outer }
        go outer (if i.isBlock then y.push .blockEnd else y)
      else { y with indents := i :: outer }

/-! ## Brackets -/

def maxDepth : Nat := 255

def openFlow? (isMap : Bool) (c : Cursor) (y : Layout) : Option Layout :=
  let y := (y.saveKey c).openValue
  if maxDepth ≤ y.depth then none
  else
    let y := { y with
      keyStart := none, outerStarts := y.keyStart :: y.outerStarts, allowsKey := true }
    some (if isMap then { y with inFlowMap := true } else { y with pairs := none :: y.pairs })

/-- The pair that is being read at a depth ends. -/
def closePair (depth : Nat) (y : Layout) : Layout :=
  match y.pairs with
  | some d :: outer =>
    if d = depth then { y with inFlowMap := false, pairs := none :: outer }.push .flowMapEnd else y
  | _ => y

def closeFlow? (isMap : Bool) (y : Layout) : Option Layout := do
  match y.outerStarts with
  | [] => none
  | k :: outer =>
    let depth := y.depth
    let y ← y.dropKey?
    let y := { y with keyStart := k, outerStarts := outer, allowsKey := false }
    if isMap then return y
    else
      let y := y.closePair depth
      return { y with pairs := y.pairs.drop 1 }

/-! ## Values -/

/-- A colon next begins a pair that stands alone in a list. -/
def beginsPair (y : Layout) : Bool := !y.pairs.isEmpty && !y.inFlowMap

/-- The layout with a pair in the innermost list, if a colon begins one. -/
def markPair (y : Layout) : Layout :=
  if y.beginsPair then { y with pairs := some y.depth :: y.pairs.drop 1 } else y

/-- The tokens for a key, which ends before the colon at a place. A pair that
stands alone has its colon in the line in which it begins. -/
def closeKey? (c : Cursor) (k : KeyStart) (y : Layout) : Option Layout :=
  if y.beginsPair && k.place.line < c.line then none
  else
    let marked := y.markPair.insert k.token .key
    let marked := if y.beginsPair then marked.insert k.token .flowMap else marked
    let marked := (marked.openBlock k.place.column (some k.token) .blockMap).openValue
    some { marked with keyStart := none, allowsKey := false }

/-- The tokens for the colon at a place, before which no key ends. -/
def emptyKey? (c : Cursor) (y : Layout) : Option Layout :=
  let marked := if y.beginsPair then y.markPair.push .flowMap else y
  if y.inFlow then some (marked.setAllowsKey false)
  else if !y.allowsKey then none
  else some (((marked.openBlock c.column none .blockMap).openValue).setAllowsKey true)

end Layout

end RecordRules.Yaml
