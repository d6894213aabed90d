/-!
# Tokens of a YAML text

A text is first taken apart into tokens. Those of lists and maps that are
written by indentation have no text of their own: they stand where such a
construct begins, and where it ends because a line is indented less. The same
holds of the token before a key, which is known for one only by the colon
behind it.
-/

namespace RecordRules.Yaml

/-- A token of a text. -/
inductive Token
  /-- The line that names the version of YAML. -/
  | version
  /-- A line that says what a handle of tags stands for. -/
  | handle (name stem : String)
  /-- Another line of directions, without a meaning. -/
  | reserved
  | documentStart
  | documentEnd
  | textEnd
  /-- A list written by indentation begins. -/
  | blockList
  /-- A map written by indentation begins. -/
  | blockMap
  /-- A list or map written by indentation ends. -/
  | blockEnd
  /-- The opening bracket of a list. -/
  | flowList
  | flowListEnd
  /-- The opening brace of a map. -/
  | flowMap
  | flowMapEnd
  /-- The dash before an item. -/
  | item
  /-- The comma between items or entries within brackets. -/
  | comma
  /-- A key follows. -/
  | key
  /-- The colon before a value. -/
  | value
  /-- The name of a node that is meant once more. -/
  | reference (name : String)
  /-- The name that the node behind it is given. -/
  | anchor (name : String)
  /-- The tag of the node behind it. -/
  | tag (handle suffix : String)
  /-- The text of a scalar, and whether it is written without quotes. -/
  | scalar (isPlain : Bool) (text : String)
  deriving DecidableEq

def Token.isDirective : Token → Bool
  | .version | .handle .. | .reserved => true
  | _ => false

/-- A token at which a document that has said nothing is over. -/
def Token.endsDocument : Token → Bool
  | .documentStart | .documentEnd | .textEnd => true
  | t => t.isDirective

/-- A token at which a part of a list or map that is written by indentation is
over. -/
def Token.endsBlockPart : Token → Bool
  | .key | .value | .blockEnd => true
  | _ => false

/-- A token at which a value within brackets is over. -/
def Token.endsFlowPart : Token → Bool
  | .comma | .flowListEnd | .flowMapEnd => true
  | _ => false

end RecordRules.Yaml
