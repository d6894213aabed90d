import RecordRules.Operand
import RecordRules.Number.Binary64

/-!
# The built-in capabilities

A capability is a test with a name. The built-in ones come in three families,
by what they are run against and by the shape of their operand: tests of a
value, tests of the items of a field that the operand names together with a
value, and tests of a field alone. Within a family many tests differ only in
the comparison that they make, so the comparisons are types of their own:

- `Bound`, the four ways to lie beyond a threshold,
- `Relation`, those and equality and its negation,
- `Ends`, whether a range contains its ends,
- `Quota`, whether one item at least or exactly one is asked for.

`Kind.catalogue` lists every built-in capability, and `mem_catalogue` says
that none is missing.
-/

namespace RecordRules

/-! ## Comparisons -/

/-- A way to lie beyond a threshold. -/
inductive Bound
  | above
  | atLeast
  | below
  | atMost
  deriving DecidableEq, Repr

/-- The bound holds of something that stands in that order to the threshold. -/
def Bound.holds : Bound → Ordering → Bool
  | .above, o => o == .gt
  | .atLeast, o => o != .lt
  | .below, o => o == .lt
  | .atMost, o => o != .gt

/-- A relation between a number and an expected one. -/
inductive Relation
  | equal
  | notEqual
  | bound (b : Bound)
  deriving DecidableEq, Repr

/-- The relation holds of something that stands in that order to what is
expected. -/
def Relation.holds : Relation → Ordering → Bool
  | .equal, o => o == .eq
  | .notEqual, o => o != .eq
  | .bound b, o => b.holds o

/-- Whether the ends of a range belong to it. -/
inductive Ends
  | exclusive
  | inclusive
  deriving DecidableEq, Repr

/-- How many items must pass. -/
inductive Quota
  | atLeastOne
  | exactlyOne
  deriving DecidableEq, Repr

def Quota.holds : Quota → Nat → Bool
  | .atLeastOne, n => 1 ≤ n
  | .exactlyOne, n => n == 1

/-! ## Kinds -/

/-- The tests of a value. -/
inductive ValueTest
  | accepted
  | declined
  | alpha
  | alphaNumeric
  | numeric
  | between (ends : Ends)
  | contains
  | notContains
  | startsWith
  | endsWith
  | count (relation : Relation)
  | creditCard
  | dateTimeBetween (ends : Ends)
  | email
  | equal
  | notEqual
  | threshold (bound : Bound)
  | isIn
  | notIn
  | included
  | excluded
  | ipv4
  | ipv6
  | isSubnetOf
  | isJson
  | length
  | lengthBetween (ends : Ends)
  | lengthBound (bound : Bound)
  | notEmpty
  | isEmpty
  | regEx
  deriving DecidableEq, Repr

/-- The tests of the items of a field against a value. -/
inductive ItemTest
  | equals (quota : Quota)
  | contains (quota : Quota)
  | beyond (bound : Bound)
  | count (relation : Relation)
  deriving DecidableEq, Repr

/-- The tests of a field. -/
inductive FieldTest
  | has (quota : Quota)
  | hasOneNotEmpty
  | required
  deriving DecidableEq, Repr

/-- A built-in capability. -/
inductive Kind
  | value (test : ValueTest)
  | item (test : ItemTest)
  | field (test : FieldTest)
  deriving DecidableEq, Repr

/-! ## Names and shapes -/

def ValueTest.name : ValueTest → String
  | .accepted => "Accepted"
  | .declined => "Declined"
  | .alpha => "Alpha"
  | .alphaNumeric => "AlphaNumeric"
  | .numeric => "Numeric"
  | .between .exclusive => "Between"
  | .between .inclusive => "BetweenInclude"
  | .contains => "Contains"
  | .notContains => "NotContains"
  | .startsWith => "StartsWith"
  | .endsWith => "EndsWith"
  | .count .equal => "CountEqual"
  | .count .notEqual => "CountNotEqual"
  | .count (.bound .above) => "CountGreaterThan"
  | .count (.bound .atLeast) => "CountGreaterThanEqual"
  | .count (.bound .below) => "CountLessThan"
  | .count (.bound .atMost) => "CountLessThanEqual"
  | .creditCard => "CreditCard"
  | .dateTimeBetween .exclusive => "DateTimeBetween"
  | .dateTimeBetween .inclusive => "DateTimeBetweenInclude"
  | .email => "Email"
  | .equal => "Equal"
  | .notEqual => "NotEqual"
  | .threshold .above => "GreaterThan"
  | .threshold .atLeast => "GreaterThanEqual"
  | .threshold .below => "LessThan"
  | .threshold .atMost => "LessThanEqual"
  | .isIn => "In"
  | .notIn => "NotIn"
  | .included => "Included"
  | .excluded => "Excluded"
  | .ipv4 => "Ipv4"
  | .ipv6 => "Ipv6"
  | .isSubnetOf => "IsSubnetOf"
  | .isJson => "IsJson"
  | .length => "Length"
  | .lengthBetween .exclusive => "LengthBetween"
  | .lengthBetween .inclusive => "LengthBetweenInclude"
  | .lengthBound .above => "LengthGt"
  | .lengthBound .atLeast => "LengthGte"
  | .lengthBound .below => "LengthLt"
  | .lengthBound .atMost => "LengthLte"
  | .notEmpty => "NotEmpty"
  | .isEmpty => "IsEmpty"
  | .regEx => "RegEx"

def ItemTest.name : ItemTest → String
  | .equals .atLeastOne => "HasOneThatEquals"
  | .equals .exactlyOne => "HasOnlyOneThatEquals"
  | .contains .atLeastOne => "HasOneThatContains"
  | .contains .exactlyOne => "HasOnlyOneThatContains"
  | .beyond .above => "HasOneGreaterThan"
  | .beyond .atLeast => "HasOneGreaterThanEqual"
  | .beyond .below => "HasOneLessThan"
  | .beyond .atMost => "HasOneLessThanEqual"
  | .count .equal => "HasCountEqual"
  | .count .notEqual => "HasCountNotEqual"
  | .count (.bound .above) => "HasCountGreaterThan"
  | .count (.bound .atLeast) => "HasCountGreaterThanEqual"
  | .count (.bound .below) => "HasCountLessThan"
  | .count (.bound .atMost) => "HasCountLessThanEqual"

def FieldTest.name : FieldTest → String
  | .has .atLeastOne => "HasOne"
  | .has .exactlyOne => "HasOnlyOne"
  | .hasOneNotEmpty => "HasOneNotEmpty"
  | .required => "Required"

/-! ## The catalogue -/

def Bound.all : List Bound := [.above, .atLeast, .below, .atMost]

def Relation.all : List Relation := .equal :: .notEqual :: Bound.all.map .bound

def ValueTest.all : List ValueTest :=
  List.flatten [
    [.accepted, .declined, .alpha, .alphaNumeric, .numeric, .between .exclusive,
      .between .inclusive, .contains, .notContains, .startsWith, .endsWith],
    Relation.all.map .count,
    [.creditCard, .dateTimeBetween .exclusive, .dateTimeBetween .inclusive, .email, .equal,
      .notEqual],
    Bound.all.map .threshold,
    [.isIn, .notIn, .included, .excluded, .ipv4, .ipv6, .isSubnetOf, .isJson, .length,
      .lengthBetween .exclusive, .lengthBetween .inclusive],
    Bound.all.map .lengthBound,
    [.notEmpty, .isEmpty, .regEx]]

def ItemTest.all : List ItemTest :=
  List.flatten [
    [.equals .atLeastOne, .equals .exactlyOne, .contains .atLeastOne, .contains .exactlyOne],
    Bound.all.map .beyond,
    Relation.all.map .count]

def FieldTest.all : List FieldTest :=
  [.has .atLeastOne, .has .exactlyOne, .hasOneNotEmpty, .required]

namespace Kind

/-- The registered name of a built-in capability. -/
def name : Kind → String
  | .value t => t.name
  | .item t => t.name
  | .field t => t.name

/-- The shape of the operand of a built-in capability. -/
def shape : Kind → OperandShape
  | .value _ => .scalar
  | .item _ => .fieldKeyed
  | .field _ => .fieldName

/-- Every built-in capability, in the order of the documentation. -/
def catalogue : List Kind :=
  List.flatten [ValueTest.all.map .value, ItemTest.all.map .item, FieldTest.all.map .field]

/-- No capability is missing from the catalogue. -/
theorem mem_catalogue (k : Kind) : k ∈ catalogue := by
  cases k with
  | value t =>
    cases t with
    | between e | dateTimeBetween e | lengthBetween e => cases e <;> decide
    | threshold b | lengthBound b => cases b <;> decide
    | count r =>
      cases r with
      | bound b => cases b <;> decide
      | _ => decide
    | _ => decide
  | item t =>
    cases t with
    | equals q | contains q => cases q <;> decide
    | beyond b => cases b <;> decide
    | count r =>
      cases r with
      | bound b => cases b <;> decide
      | _ => decide
  | field t =>
    cases t with
    | has q => cases q <;> decide
    | _ => decide

/-- No capability stands in the catalogue twice. -/
theorem catalogue_nodup : catalogue.Nodup := by decide

end Kind

end RecordRules
