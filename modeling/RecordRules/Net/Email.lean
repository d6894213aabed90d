import RecordRules.Text

/-!
# Email addresses

An address is a local part, an at sign and a domain. The local part is not
empty and made of letters, digits and a few signs. The domain has at least
two labels with dots between them. A label has at most 63 letters, digits
and dashes, and neither begins nor ends with a dash. Letters are ASCII
letters.
-/

namespace RecordRules.Email

def isLocalChar (c : Char) : Bool :=
  c.isAlphanum || ".!#$%&'*+/=?^_`\x7b|\x7d~-".toList.contains c

def isLabelChar (c : Char) : Bool := c.isAlphanum || c == '-'

def isLabel (cs : List Char) : Bool :=
  cs.all isLabelChar && cs.length ≤ 63
    && cs.head?.any Char.isAlphanum && cs.getLast?.any Char.isAlphanum

def isDomain (cs : List Char) : Bool :=
  let labels := Text.splitOn '.' cs
  2 ≤ labels.length && labels.all isLabel

/-- The whole text is an address. No part of an address but the sign itself
can hold an at sign, so the first one is the only one. -/
def isEmail (cs : List Char) : Bool :=
  let localPart := cs.takeWhile (· != '@')
  match cs.dropWhile (· != '@') with
  | [] => false
  | _ :: domain => !localPart.isEmpty && localPart.all isLocalChar && isDomain domain

end RecordRules.Email
