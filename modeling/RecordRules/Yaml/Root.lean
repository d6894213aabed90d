import RecordRules.Yaml.Node
import RecordRules.Yaml.Token.Lexer

/-!
# The root of a YAML text

A text holds one document: a node, before which lines of directions may stand
if a mark follows them (`root?`). Behind it no other document may begin; what
cannot be the beginning of one is passed over (`endsWell`).
-/

namespace RecordRules.Yaml

/-! ## Directions -/

/-- The handles that lines of directions declare, each only once, and the
tokens behind. The version may be named once. -/
def readDirections? : Bool → Handles → List Token → Option (Handles × List Token)
  | hasVersion, declared, .version :: ts =>
    if hasVersion then none else readDirections? true declared ts
  | hasVersion, declared, .handle name stem :: ts =>
    if (declared.lookup name).isSome then none
    else readDirections? hasVersion ((name, stem) :: declared) ts
  | hasVersion, declared, .reserved :: ts => readDirections? hasVersion declared ts
  | _, declared, ts => some (declared, ts)

/-- The handles declared, and the tokens behind the mark of a document. -/
def readDocumentStart? (ts : List Token) : Option (Handles × List Token) :=
  match readDirections? false [] ts with
  | some (declared, .documentStart :: ts) => some (declared, ts)
  | _ => none

/-! ## One document -/

/-- The tokens behind the marks that end documents. -/
def skipDocumentEnds (ts : List Token) : List Token := ts.dropWhile (· = .documentEnd)

/-- A document begins here with its mark or with directions. -/
def beginsMarked (ts : List Token) : Bool :=
  ts.head?.any fun t => t = .documentStart || t.isDirective

def readRoot? (ts : List Token) : Option (Node × Stream) := do
  let ts := skipDocumentEnds ts
  let fuel := 8 * ts.length + 8
  if ts.head? = some .textEnd then return (.empty none, ⟨ts, [], [], 0⟩)
  else if beginsMarked ts then
    let (declared, ts) ← readDocumentStart? ts
    readPart declared fuel .block Token.endsDocument ⟨ts, [], [], 0⟩
  else readNode [] fuel .block ⟨ts, [], [], 0⟩

/-! ## What follows -/

/-- A node begins here. -/
def beginsNode (declared : Handles) (s : Stream) : Bool :=
  match s.peek? with
  | some (.reference name) => (s.nodeNamed? name).isSome
  | _ =>
    match readProperties? declared s with
    | none => false
    | some (p, s) =>
      match s.peek? with
      | none => false
      | some (.scalar ..) | some .flowList | some .flowMap | some .blockList | some .blockMap => true
      | some _ => p.isGiven

def beginsMarkedDocument (s : Stream) : Bool :=
  match readDocumentStart? s.tokens with
  | none => false
  | some (declared, ts) =>
    ts.head?.any Token.endsDocument || beginsNode declared { s with tokens := ts }

/-- What is left behind a document does not begin another one. A text that
cannot be read on to its next token does not end well, and behind a document
without a mark at its end there can be no directions. -/
def endsWell (s : Stream) : Bool :=
  match s.peek? with
  | none => false
  | some .documentEnd =>
    let ts := skipDocumentEnds s.tokens
    if ts.head? = some .textEnd then true
    else if beginsMarked ts then !beginsMarkedDocument { s with tokens := ts }
    else !beginsNode [] { s with tokens := ts }
  | some .documentStart => !beginsMarkedDocument s
  | some t => !t.isDirective

def root? (text : String) : Option Node := do
  let (node, s) ← readRoot? (tokenize text)
  if endsWell s then return node else none

end RecordRules.Yaml
