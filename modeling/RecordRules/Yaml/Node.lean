import RecordRules.Yaml.Tag
import RecordRules.Yaml.Token

/-!
# Nodes of a YAML text

A YAML text is a tree of nodes: scalars, lists and maps. The tree is read off
the tokens by recursion (`readNode`). Any node may be left empty where the
next token ends its part of a list or map.

A node with a name can be meant again behind it, but not within it. Nodes are
numbered in the order in which their names come up, and a name means the node
that had it last; a reference to a node that is not finished has no answer.
-/

namespace RecordRules.Yaml

/-- A node of a text. -/
inductive Node
  | scalar (isPlain : Bool) (tag : Option Tag) (text : String)
  | list (items : List Node)
  | map (entries : List (Node × Node))
  deriving Inhabited

def Node.empty (tag : Option Tag) : Node := .scalar true tag ""

mutual

/-- The number of scalars in a node, with two for each list and map. -/
def Node.size : Node → Nat
  | .scalar .. => 1
  | .list items => itemsSize items + 2
  | .map entries => entriesSize entries + 2

def itemsSize : List Node → Nat
  | [] => 0
  | n :: ns => n.size + itemsSize ns

def entriesSize : List (Node × Node) → Nat
  | [] => 0
  | (k, v) :: es => k.size + v.size + entriesSize es

end

/-! ## What is left of a text -/

/-- The tokens that are left, and the nodes that have names. -/
structure Stream where
  tokens : List Token
  /-- The names and the numbers of their nodes, the last first. -/
  names : List (String × Nat) := []
  /-- The nodes that are finished, by their numbers. -/
  nodes : List (Nat × Node) := []
  /-- The size of all nodes that have been meant again. -/
  repeated : Nat := 0

namespace Stream

/-- The size that all nodes may have that are meant again. -/
def maxRepeated : Nat := 1000000

def peek? (s : Stream) : Option Token := s.tokens.head?

def next (s : Stream) : Stream := { s with tokens := s.tokens.drop 1 }

def nodeNamed? (s : Stream) (name : String) : Option Node :=
  (s.names.lookup name).bind fun n => s.nodes.lookup n

/-- The node that a name means, behind the reference to it. -/
def repeat? (s : Stream) (name : String) : Option (Node × Stream) := do
  let node ← s.nodeNamed? name
  let repeated := s.repeated + node.size
  if maxRepeated < repeated then none else return (node, { s with repeated := repeated })

def declare (s : Stream) (name : String) : Stream :=
  { s with names := (name, s.names.length) :: s.names }

def finish (s : Stream) (number : Nat) (node : Node) : Stream :=
  { s with nodes := (number, node) :: s.nodes }

end Stream

/-! ## Properties -/

/-- What stands before a node. -/
structure Properties where
  /-- The number of the node, if it has a name. -/
  number : Option Nat := none
  tag : Option Tag := none

def Properties.isGiven (p : Properties) : Bool := p.number.isSome || p.tag.isSome

def readAnchor (s : Stream) : Option Nat × Stream :=
  match s.peek? with
  | some (.anchor name) => (some s.names.length, s.next.declare name)
  | _ => (none, s)

def readTag? (declared : Handles) (s : Stream) : Option (Option Tag × Stream) :=
  match s.peek? with
  | some (.tag handle suffix) =>
    (declared.resolve? handle suffix).map fun tag => (some tag, s.next)
  | _ => some (none, s)

/-- The name and the tag of the next node, in either order. -/
def readProperties? (declared : Handles) (s : Stream) : Option (Properties × Stream) := do
  let (first, s) := readAnchor s
  let (tag, s) ← readTag? declared s
  let (number, s) := if first.isSome then (first, s) else readAnchor s
  return (⟨number, tag⟩, s)

/-! ## Nodes -/

/-- Where a node stands. -/
inductive Place
  /-- Within brackets. -/
  | flow
  /-- Where a list or map may be written by indentation. -/
  | block
  /-- The same, where the items of a list need not be indented further. -/
  | underKey
  deriving DecidableEq

mutual

def readNode (declared : Handles) : Nat → Place → Stream → Option (Node × Stream)
  | 0, _, _ => none
  | fuel + 1, place, s =>
    match s.peek? with
    | some (.reference name) => s.next.repeat? name
    | _ => do
      let (p, s) ← readProperties? declared s
      let (node, s) ← readContent declared fuel place p s
      match p.number with
      | some n => return (node, s.finish n node)
      | none => return (node, s)

def readContent (declared : Handles) : Nat → Place → Properties → Stream → Option (Node × Stream)
  | 0, _, _, _ => none
  | fuel + 1, place, p, s =>
    match s.peek? with
    | none => none
    | some (.scalar isPlain text) => some (.scalar isPlain p.tag text, s.next)
    | some .flowList => readFlowItems declared fuel true [] s.next
    | some .flowMap => readFlowEntries declared fuel true [] s.next
    | some t =>
      if t = .blockList ∧ place ≠ .flow then readBlockItems declared fuel [] s.next
      else if t = .blockMap ∧ place ≠ .flow then readBlockEntries declared fuel [] s.next
      else if t = .item ∧ place = .underKey then readLooseItems declared fuel [] s
      else if p.isGiven then some (.empty p.tag, s)
      else none

/-- The node here, which is empty if its part is over. -/
def readPart (declared : Handles) :
    Nat → Place → (Token → Bool) → Stream → Option (Node × Stream)
  | 0, _, _, _ => none
  | fuel + 1, place, isOver, s =>
    if s.peek?.any isOver then some (.empty none, s) else readNode declared fuel place s

/-- The value here, if there is a colon before it. -/
def readValue (declared : Handles) :
    Nat → Place → (Token → Bool) → Stream → Option (Node × Stream)
  | 0, _, _, _ => none
  | fuel + 1, place, isOver, s =>
    match s.peek? with
    | none => none
    | some .value => readPart declared fuel place isOver s.next
    | some _ => some (.empty none, s)

/-- The items of a list that is written by indentation. -/
def readBlockItems (declared : Handles) :
    Nat → List Node → Stream → Option (Node × Stream)
  | 0, _, _ => none
  | fuel + 1, items, s =>
    match s.peek? with
    | some .blockEnd => some (.list items.reverse, s.next)
    | some .item => do
      let isOver := fun t => t = .item || t = .blockEnd
      let (node, s) ← readPart declared fuel .block isOver s.next
      readBlockItems declared fuel (node :: items) s
    | _ => none

/-- The items of a list that are indented no further than the key before
them. -/
def readLooseItems (declared : Handles) :
    Nat → List Node → Stream → Option (Node × Stream)
  | 0, _, _ => none
  | fuel + 1, items, s =>
    match s.peek? with
    | none => none
    | some .item => do
      let isOver := fun t : Token => t = .item || t.endsBlockPart
      let (node, s) ← readPart declared fuel .block isOver s.next
      readLooseItems declared fuel (node :: items) s
    | some _ => some (.list items.reverse, s)

/-- The entries of a map that is written by indentation. A key may be left
out before its colon. -/
def readBlockEntries (declared : Handles) :
    Nat → List (Node × Node) → Stream → Option (Node × Stream)
  | 0, _, _ => none
  | fuel + 1, entries, s =>
    match s.peek? with
    | some .blockEnd => some (.map entries.reverse, s.next)
    | some .key => do
      let (key, s) ← readPart declared fuel .underKey Token.endsBlockPart s.next
      let (value, s) ← readValue declared fuel .underKey Token.endsBlockPart s
      readBlockEntries declared fuel ((key, value) :: entries) s
    | some .value => do
      let (value, s) ← readValue declared fuel .underKey Token.endsBlockPart s
      readBlockEntries declared fuel ((.empty none, value) :: entries) s
    | _ => none

/-- The items of a list in brackets, of which the first needs no comma. A pair
that stands alone is a map; behind its question mark it needs a key. -/
def readFlowItems (declared : Handles) :
    Nat → Bool → List Node → Stream → Option (Node × Stream)
  | 0, _, _, _ => none
  | fuel + 1, isFirst, items, s => do
    if s.peek? = some .flowListEnd then return (.list items.reverse, s.next)
    else if !isFirst && s.peek? ≠ some .comma then none
    else
      let s := if isFirst then s else s.next
      match s.peek? with
      | some .flowListEnd => return (.list items.reverse, s.next)
      | some .key =>
        let (key, s) ← readNode declared fuel .flow s.next
        let (value, s) ← readValue declared fuel .flow Token.endsFlowPart s
        readFlowItems declared fuel false (.map [(key, value)] :: items) s
      | _ =>
        let (node, s) ← readNode declared fuel .flow s
        readFlowItems declared fuel false (node :: items) s

/-- The entries of a map in braces, of which the first needs no comma. A node
that stands alone is a key without a value. -/
def readFlowEntries (declared : Handles) :
    Nat → Bool → List (Node × Node) → Stream → Option (Node × Stream)
  | 0, _, _, _ => none
  | fuel + 1, isFirst, entries, s => do
    if s.peek? = some .flowMapEnd then return (.map entries.reverse, s.next)
    else if !isFirst && s.peek? ≠ some .comma then none
    else
      let s := if isFirst then s else s.next
      match s.peek? with
      | some .flowMapEnd => return (.map entries.reverse, s.next)
      | some .key =>
        let (key, s) ← readPart declared fuel .flow
          (fun t => t = .value || t.endsFlowPart) s.next
        let (value, s) ← readValue declared fuel .flow Token.endsFlowPart s
        readFlowEntries declared fuel false ((key, value) :: entries) s
      | some .value =>
        let (value, s) ← readValue declared fuel .flow Token.endsFlowPart s
        readFlowEntries declared fuel false ((.empty none, value) :: entries) s
      | _ =>
        let (key, s) ← readNode declared fuel .flow s
        readFlowEntries declared fuel false ((key, .empty none) :: entries) s

end

end RecordRules.Yaml
