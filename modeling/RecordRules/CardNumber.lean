import RecordRules.Number.Decimal

/-!
# Card numbers

The last digit of a card number is a check digit. Counted from the right,
every second digit is doubled, nine is taken off a double above nine, and the
sum of all must be a multiple of ten. Spaces and dashes between the digits
do not count.
-/

namespace RecordRules.CardNumber

def isSeparator (c : Char) : Bool := c == ' ' || c == '-'

/-- The digits of a number without its separators; none if anything else
stands among them. -/
def digits? (cs : List Char) : Option (List Nat) :=
  (cs.filter (!isSeparator ·)).mapM Decimal.digit?

/-- What a digit counts in a place that is doubled. -/
def doubled (d : Nat) : Nat := if 2 * d > 9 then 2 * d - 9 else 2 * d

/-- The sum of digits that begin with the rightmost one; `double` says
whether the first of them is doubled. -/
def weigh (double : Bool) : List Nat → Nat
  | [] => 0
  | d :: ds => (if double then doubled d else d) + weigh (!double) ds

/-- At least two digits whose check sum is right. -/
def isValid (cs : List Char) : Bool :=
  match digits? cs with
  | some ds => 2 ≤ ds.length && weigh false ds.reverse % 10 == 0
  | none => false

end RecordRules.CardNumber
