import RecordRules.Document.Basic
import RecordRules.ValidatorSet.Evaluate

/-!
# Documents and sets

`Document.build` makes the set that a document declares, and
`ValidatorSet.toDocument` saves the declared part of a set as a document. An
instance that was loaded directly has no declaration and is not saved.
-/

namespace RecordRules

namespace Document

def addConditionEntry (s : ValidatorSet) (entry : RuleEntry) :
    Except ConfigError ValidatorSet := do
  let rule ← entry.toRule s.registry
  return s.addCondition (← Condition.ofRule s.registry rule)

/-- Declares the validator that an entry describes. -/
def addValidatorEntry (s : ValidatorSet) (entry : RuleEntry) :
    Except ConfigError ValidatorSet := do
  s.addRule (← entry.toRule s.registry)

/-- The set that a document declares, or the error of the first entry that is
no rule over the registry. -/
def build (registry : Registry) (d : Document) : Except ConfigError ValidatorSet := do
  let s := (ValidatorSet.withRegistry registry).setStrict d.strict
  let s ← d.conditions.foldlM addConditionEntry s
  d.validators.foldlM addValidatorEntry s

end Document

/-- The declared part of a set. -/
def ValidatorSet.toDocument (s : ValidatorSet) : Document where
  strict := s.strict
  conditions := s.conditions.map fun c => RuleEntry.ofRule c.toRule
  validators := s.declared.flatMap fun d =>
    d.bindings.map fun b => RuleEntry.ofRule (b.toRule d.field)

end RecordRules
