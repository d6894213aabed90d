import RecordRules.Capability.Operands

/-!
# What a failure is reported as

Every capability has a message for the records that fail it, made from its
operand. It is used where a rule gives no message of its own.
-/

namespace RecordRules

/-- A value in a message: the text of a scalar, the written form of anything
else. -/
def messageText (v : Json) : String := (valueText v).getD v.render

namespace Operand

def describe : Operand → String
  | .absent => ""
  | .scalar v => messageText v
  | .list items => Text.joined ", " (items.map messageText)
  | .keyed _ .null => ""
  | .keyed _ (.arr items) => Text.joined ", " (items.map messageText)
  | .keyed _ v => messageText v
  | .field name => name

def describeEnds (o : Operand) : String × String :=
  match o.values with
  | [low, high] => ((valueText low).getD "", (valueText high).getD "")
  | _ => ("", "")

/-- The value that an operand pairs with a field, in a message. -/
def describeEntry : Operand → String
  | .keyed _ v => messageText v
  | _ => ""

end Operand

/-! ## Comparisons in words -/

def Bound.phrase : Bound → String
  | .above => "greater than"
  | .atLeast => "greater than or equal to"
  | .below => "less than"
  | .atMost => "less than or equal to"

def Relation.phrase : Relation → String
  | .equal => "be equal to"
  | .notEqual => "not be equal to"
  | .bound b => "be " ++ b.phrase

/-- What a field must do about a number of items, in words. -/
def Relation.itemPhrase : Relation → String
  | .equal => "must have"
  | .notEqual => "must not have"
  | .bound .above => "must have more than"
  | .bound .atLeast => "must have at least"
  | .bound .below => "must have fewer than"
  | .bound .atMost => "must have at most"

def Ends.phrase (low high : String) : Ends → String
  | .exclusive => "between '" ++ low ++ "' and '" ++ high ++ "'"
  | .inclusive => "between or equal to '" ++ low ++ "' and '" ++ high ++ "'"

def Quota.phrase : Quota → String
  | .atLeastOne => "at least one item"
  | .exactlyOne => "only one item"

def Quota.itemPhrase : Quota → String
  | .atLeastOne => "one item"
  | .exactlyOne => "only one item"

/-! ## Messages -/

def ValueTest.message (o : Operand) : ValueTest → String
  | .accepted => "The value must be either 'yes', '1', 1, 'true' or true."
  | .declined => "The value must be either 'no', '0', 0, 'false' or false."
  | .alpha => "The value must contain only alphabetic characters."
  | .alphaNumeric => "The value must contain only alphanumeric characters."
  | .numeric => "The value must be numeric."
  | .between ends | .dateTimeBetween ends =>
    "The value must be " ++ ends.phrase o.describeEnds.1 o.describeEnds.2 ++ "."
  | .contains => "The value must contain '" ++ o.describe ++ "'."
  | .notContains => "The value must not contain '" ++ o.describe ++ "'."
  | .startsWith => "The value must start with '" ++ o.describe ++ "'."
  | .endsWith => "The value must end with '" ++ o.describe ++ "'."
  | .count relation =>
    "The count of the input must " ++ relation.phrase ++ " '" ++ o.describe ++ "'."
  | .creditCard => "The value must be a valid credit card number."
  | .email => "The value must be a valid email format."
  | .equal => "The value must be equal to '" ++ o.describe ++ "'."
  | .notEqual => "The value must not be equal to '" ++ o.describe ++ "'."
  | .threshold bound => "The value must be " ++ bound.phrase ++ " '" ++ o.describe ++ "'."
  | .isIn => "The value must be one of '" ++ o.describe ++ "'."
  | .notIn => "The value must not be one of '" ++ o.describe ++ "'."
  | .included => "The value must be included."
  | .excluded => "The value must be excluded."
  | .ipv4 => "The value must be a valid IPv4 address."
  | .ipv6 => "The value must be a valid IPv6 address."
  | .isSubnetOf => "The value must be part of the subnet '" ++ o.describe ++ "'."
  | .isJson => "The value must be a valid JSON string."
  | .length => "The value length must be equal to '" ++ o.describe ++ "'."
  | .lengthBetween ends =>
    "The value length must be " ++ ends.phrase o.describeEnds.1 o.describeEnds.2 ++ "."
  | .lengthBound bound =>
    "The value length must be " ++ bound.phrase ++ " '" ++ o.describe ++ "'."
  | .notEmpty => "The value must not be empty."
  | .isEmpty => "The value must be empty."
  | .regEx => "The value format is not correct."

def ItemTest.message (o : Operand) (t : ItemTest) : String :=
  let field := o.targetField.getD ""
  let value := o.describeEntry
  match t with
  | .equals quota =>
    "The input must contain " ++ quota.itemPhrase ++ " of '" ++ field ++ "' equal to '" ++ value
      ++ "'."
  | .contains quota =>
    "The input must contain " ++ quota.itemPhrase ++ " of '" ++ field ++ "' that contains '"
      ++ value ++ "'."
  | .beyond bound =>
    "The input must contain one item of '" ++ field ++ "' that is " ++ bound.phrase ++ " '"
      ++ value ++ "'."
  | .count relation =>
    "The field '" ++ field ++ "' " ++ relation.itemPhrase ++ " " ++ value ++ " item(s)."

def FieldTest.message (o : Operand) (t : FieldTest) : String :=
  let field := o.targetField.getD ""
  match t with
  | .has quota => "The input must contain " ++ quota.phrase ++ " of '" ++ field ++ "'."
  | .hasOneNotEmpty =>
    "The input must contain one item of '" ++ field ++ "' that is not empty."
  | .required => "The field '" ++ field ++ "' is required."

def Kind.message (o : Operand) : Kind → String
  | .value t => t.message o
  | .item t => t.message o
  | .field t => t.message o

end RecordRules
