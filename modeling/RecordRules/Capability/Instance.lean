import RecordRules.Capability.Judge
import RecordRules.Capability.Message

/-!
# Capabilities with their operands

An instance is a capability together with an operand that can drive it. For
a built-in capability (`Builtin`) the operand is checked when the instance is
made (`Builtin.make`) and again when it is replaced (`Builtin.change`), so
that operand problems surface there and never when a record is judged. The
patterns of `RegEx` are read at the same time and kept beside the operand; the
last field says that they are the operand's own.

A change is made in place, and an instance is written to part by part: its
patterns are read and written first, and its operand after them. If the
patterns cannot be read nothing is written, so the patterns are the operand's
own whatever a change ends with (`OperandCells.agree_replace`).

A capability that is not built in (`CustomCapability`) has checks, wordings
and a judgement of its own.
-/

namespace RecordRules

/-! ## Built-in capabilities -/

/-- The patterns of an operand that can drive a capability; only one kind has
any. -/
def Kind.prepare (k : Kind) (o : Operand) : Except OperandFault (List Pattern) :=
  match k with
  | .value .regEx => o.patterns
  | k => (k.check o).map fun _ => []

/-- A built-in capability with an operand that can drive it. -/
structure Builtin where
  kind : Kind
  operand : Operand
  customMessage : Option String
  patterns : List Pattern
  prepared : kind.prepare operand = .ok patterns

namespace Builtin

/-- The capability with that operand, if it can drive it. -/
def make (kind : Kind) (operand : Operand) (message : Option String) :
    Except ConfigError Builtin :=
  match h : kind.prepare operand with
  | .ok patterns => .ok ⟨kind, operand, message, patterns, h⟩
  | .error fault => .error (.invalidOperand kind.name fault)

end Builtin

/-- The parts of a built-in capability that are written to. -/
structure OperandCells where
  operand : Operand
  patterns : List Pattern

namespace OperandCells

/-- The patterns are those of the operand, which can drive the capability. -/
def Agree (kind : Kind) (c : OperandCells) : Prop := kind.prepare c.operand = .ok c.patterns

/-- Another operand and its patterns are put in place, if it can drive the
capability. -/
def replace (kind : Kind) (operand : Operand) : ExceptT ConfigError (StateM OperandCells) Unit := do
  let patterns ← MonadExcept.ofExcept (orFaulty kind.name (kind.prepare operand))
  modify fun c => { c with patterns }
  modify fun c => { c with operand }

theorem run_replace (kind : Kind) (operand : Operand) (c : OperandCells) :
    (replace kind operand).run.run c =
      match kind.prepare operand with
      | .ok patterns => (.ok (), ⟨operand, patterns⟩)
      | .error fault => (.error (.invalidOperand kind.name fault), c) := by
  rw [replace]
  cases kind.prepare operand <;> rfl

/-- Whether the operand is put in place or not, cells that agree do so afterwards. -/
theorem agree_replace {kind : Kind} {c : OperandCells} (h : c.Agree kind) (operand : Operand) :
    ((replace kind operand).run.run c).2.Agree kind := by
  rw [run_replace]
  split
  next patterns hp => exact hp
  next fault hp => exact h

end OperandCells

namespace Builtin

def cells (b : Builtin) : OperandCells := ⟨b.operand, b.patterns⟩

theorem agree_cells (b : Builtin) : b.cells.Agree b.kind := b.prepared

/-- The operand is replaced in place; a capability remains also if the operand is
refused. -/
def change (b : Builtin) (operand : Operand) : Except ConfigError Unit × Builtin :=
  let run := (OperandCells.replace b.kind operand).run.run b.cells
  (run.1, ⟨b.kind, run.2.operand, b.customMessage, run.2.patterns,
    OperandCells.agree_replace b.agree_cells operand⟩)

/-- The capability with another operand: what a change makes of it, if it succeeds. -/
def setOperand (b : Builtin) (operand : Operand) : Except ConfigError Builtin :=
  let (outcome, b) := b.change operand
  outcome.map fun _ => b

def message (b : Builtin) : String := b.customMessage.getD (b.kind.message b.operand)

def evaluate (b : Builtin) (input : Json) : Except ConfigError Bool :=
  b.kind.judge b.operand b.patterns input

end Builtin

/-! ## Capabilities that are not built in -/

/-- A capability that is not built in: what it is called, which operands can
drive it, what its failures are reported as, and what it says about inputs. -/
structure CustomCapability where
  name : String
  check : Operand → Except ConfigError Unit
  message : Operand → String
  judge : Operand → Json → Except ConfigError Bool

/-- A capability that is not built in, with its operand. -/
structure Custom where
  capability : CustomCapability
  operand : Operand
  customMessage : Option String

namespace Custom

/-- The capability with another operand, if that can drive it too. -/
def setOperand (c : Custom) (operand : Operand) : Except ConfigError Custom := do
  c.capability.check operand
  return { c with operand }

def message (c : Custom) : String := c.customMessage.getD (c.capability.message c.operand)

end Custom

/-! ## Instances -/

/-- A capability with its operand. -/
inductive Instance
  | builtin (b : Builtin)
  | custom (c : Custom)

namespace Instance

/-- The built-in capability with that operand, if it can drive it. -/
def make (kind : Kind) (operand : Operand) (message : Option String) :
    Except ConfigError Instance :=
  (Builtin.make kind operand message).map .builtin

def name : Instance → String
  | .builtin b => b.kind.name
  | .custom c => c.capability.name

def operand : Instance → Operand
  | .builtin b => b.operand
  | .custom c => c.operand

/-- The operand is replaced in place. -/
def change (operand : Operand) : Instance → Except ConfigError Unit × Instance
  | .builtin b => (b.change operand).map id .builtin
  | .custom c =>
    match c.setOperand operand with
    | .ok c => (.ok (), .custom c)
    | .error e => (.error e, .custom c)

/-- The instance with another operand: what a change makes of it, if it succeeds. -/
def setOperand (operand : Operand) (i : Instance) : Except ConfigError Instance :=
  let (outcome, i) := i.change operand
  outcome.map fun _ => i

def message : Instance → String
  | .builtin b => b.message
  | .custom c => c.message

def evaluate (input : Json) : Instance → Except ConfigError Bool
  | .builtin b => b.evaluate input
  | .custom c => c.capability.judge c.operand input

end Instance

end RecordRules
