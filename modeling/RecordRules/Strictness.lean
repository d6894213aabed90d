/-!
# Strictness and outcomes of groups

Conditions and validations are judged as two groups. Being strict about a
group means that all of its checks must pass; otherwise one must. The four
modes name the groups that are judged strictly, and older configurations
number them from 0 to 3.

`PassStatus.ofCounts` sums a group up. A group without checks has passed
whole, and so has a group all of whose checks passed.
-/

namespace RecordRules

/-- The groups that are judged strictly. -/
inductive StrictMode
  | none
  | validationsOnly
  | conditionsOnly
  | both
  deriving DecidableEq, Repr, Inhabited

namespace StrictMode

def all : List StrictMode := [.none, .validationsOnly, .conditionsOnly, .both]

def name : StrictMode → String
  | .none => "none"
  | .validationsOnly => "validations_only"
  | .conditionsOnly => "conditions_only"
  | .both => "both"

def level : StrictMode → Nat
  | .none => 0
  | .validationsOnly => 1
  | .conditionsOnly => 2
  | .both => 3

def ofName? (s : String) : Option StrictMode := all.find? (·.name == s)

def ofLevel? (n : Int) : Option StrictMode := all.find? fun m => (m.level : Int) == n

def validationsStrict : StrictMode → Bool
  | .both | .validationsOnly => true
  | .none | .conditionsOnly => false

def conditionsStrict : StrictMode → Bool
  | .both | .conditionsOnly => true
  | .none | .validationsOnly => false

theorem ofLevel?_level (m : StrictMode) : ofLevel? m.level = some m := by cases m <;> rfl

theorem ofName?_name (m : StrictMode) : ofName? m.name = some m := by cases m <;> decide

end StrictMode

/-- What became of a group of checks. -/
inductive PassStatus
  | none
  | all
  | some
  deriving DecidableEq, Repr

namespace PassStatus

def ofCounts (total passed : Nat) : PassStatus :=
  if total = passed then .all
  else if 0 < passed then .some
  else .none

def anyPassed : PassStatus → Bool
  | .none => false
  | .all | .some => true

def name : PassStatus → String
  | .none => "none"
  | .all => "all"
  | .some => "some"

end PassStatus

end RecordRules
