import RecordRules.Json.Printer

/-!
# What is wrong with a configuration

A record that fails its rules is no error. An error is a fault of the rules:
a rule that cannot be read, a capability that nobody registered, an operand
that cannot drive its capability, or an input of a kind that the capability
cannot judge. The causes are constructors; their wording is in `message`.
-/

namespace RecordRules

/-- Why an operand cannot drive a capability. -/
inductive OperandFault
  | notOneNumber
  | notNumeric (found : Json)
  | boundsNotNumeric
  | boundCount (count : Nat)
  | dateCount (count : Nat)
  | notADate (found : Json)
  | noPattern
  | badPattern (pattern : String)
  | noSubnet
  | notASubnet (text : String)
  | notKeyed
  | notAFieldName
  | emptyFieldName
  /-- The fault that a capability which is not built in finds, in its words. -/
  | custom (message : String)
  deriving DecidableEq

/-- Why an input cannot be judged. -/
inductive InputFault
  | notAList (found : String)
  | notARecord (found : String)
  | notAnIpv4Address
  /-- The fault that a capability which is not built in finds, in its words. -/
  | custom (message : String)
  deriving DecidableEq

/-- A fault of the rules. -/
inductive ConfigError
  | malformedRule (rule : String)
  | unknownCapability (name : String)
  | missingField (field : String)
  | invalidOperand (capability : String) (fault : OperandFault)
  | invalidInput (capability : String) (fault : InputFault)
  | invalidStrictLevel (level : Int)
  deriving DecidableEq

namespace OperandFault

/-- What is wrong in words. What the reader of patterns has to say about a pattern
that it cannot read stands behind it, and is left out here. -/
def message : OperandFault → String
  | .notOneNumber => "a single number is required"
  | .notNumeric found => "expected a number, got " ++ found.render
  | .boundsNotNumeric => "both bounds must be numbers"
  | .boundCount n => "exactly two bounds are required, got " ++ toString n
  | .dateCount n => "exactly two dates are required, got " ++ toString n
  | .notADate found => "cannot parse " ++ found.render ++ " as a date"
  | .noPattern => "a pattern is required"
  | .badPattern pattern => "invalid pattern '" ++ pattern ++ "'"
  | .noSubnet => "a subnet is required"
  | .notASubnet text => "'" ++ text ++ "' is not an IPv4 subnet"
  | .notKeyed => "expected a \x7bfield: value\x7d operand"
  | .notAFieldName => "expected a field name operand"
  | .emptyFieldName => "the field name is empty"
  | .custom message => message

end OperandFault

namespace InputFault

def message : InputFault → String
  | .notAList found => "the evaluated input must be a list, got " ++ found
  | .notARecord found => "the evaluated input must be a map or a list, got " ++ found
  | .notAnIpv4Address => "the IP address must be a valid IPv4 address"
  | .custom message => message

end InputFault

namespace ConfigError

def message : ConfigError → String
  | .malformedRule rule =>
    "malformed rule '" ++ rule
      ++ "': it must have at least a field and a validator, e.g. username:not_empty"
  | .unknownCapability name => "the validator '" ++ name ++ "' does not exist"
  | .missingField field => "the field '" ++ field ++ "' is not present in the input"
  | .invalidOperand capability fault =>
    "invalid value for '" ++ capability ++ "': " ++ fault.message
  | .invalidInput capability fault =>
    "invalid input for '" ++ capability ++ "': " ++ fault.message
  | .invalidStrictLevel level =>
    "strict level must be between 0 and 3, got " ++ toString level

def kind : ConfigError → String
  | .malformedRule _ => "MalformedRule"
  | .unknownCapability _ => "UnknownCapability"
  | .missingField _ => "MissingField"
  | .invalidOperand .. => "InvalidOperand"
  | .invalidInput .. => "InvalidInput"
  | .invalidStrictLevel _ => "InvalidStrictLevel"

end ConfigError

end RecordRules
