import RecordRules.Rule.Entry
import RecordRules.Strictness

/-!
# Documents

A document declares a set of rules: how strict the set is, the conditions and
the validators. As a value it is a map; empty sections are left out of it.
-/

namespace RecordRules

/-- A declared set of rules. -/
structure Document where
  strict : StrictMode := .both
  conditions : List RuleEntry := []
  validators : List RuleEntry := []
  deriving DecidableEq

namespace Document

def sectionEntry (name : String) (entries : List RuleEntry) : List (String × Json) :=
  if entries.isEmpty then [] else [(name, .arr (entries.map RuleEntry.toJson))]

def toJson (d : Document) : Json :=
  .obj ([("strict", .str d.strict.name)]
    ++ sectionEntry "conditions" d.conditions ++ sectionEntry "validators" d.validators)

end Document

end RecordRules
