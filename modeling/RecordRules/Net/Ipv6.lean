import RecordRules.Json.Reader
import RecordRules.Net.Ipv4

/-!
# IPv6 addresses

An address is written as eight groups of one to four hexadecimal digits with
colons between them. Two colons in a row stand for all the groups that are
missing, of which there is at least one, and the last two groups may be
written as an IPv4 address. Only the form is checked here: `isIpv6` counts
groups and forgets what they hold.
-/

namespace RecordRules.Ipv6

def isHexDigit (c : Char) : Bool := (Json.hexValue? c).isSome

/-- What follows a group of digits; a fifth digit spoils the group. -/
def afterGroup? (cs : List Char) : Option (List Char) :=
  let ds := cs.takeWhile isHexDigit
  if ds.isEmpty || ds.length > 4 then none else some (cs.dropWhile isHexDigit)

/-- What follows the colon in front of every group but the first. -/
def afterSeparator? (isFirst : Bool) (cs : List Char) : Option (List Char) :=
  if isFirst then some cs
  else
    match cs with
    | ':' :: rest => some rest
    | _ => none

def afterIpv4? (cs : List Char) : Option (List Char) := (Ipv4.readStart? cs).map (·.2)

/-- The groups that a text begins with, at most `limit`: their number, whether
the last two were an IPv4 address, and the rest of the text. -/
def readGroups (isFirst : Bool) : Nat → List Char → Nat × Bool × List Char
  | 0, cs => (0, false, cs)
  | limit + 1, cs =>
    match (if limit = 0 then none else (afterSeparator? isFirst cs).bind afterIpv4?) with
    | some rest => (2, true, rest)
    | none =>
      match (afterSeparator? isFirst cs).bind afterGroup? with
      | some rest =>
        let (n, mixed, rest) := readGroups false limit rest
        (n + 1, mixed, rest)
      | none => (0, false, cs)

def isIpv6 (cs : List Char) : Bool :=
  let (front, mixed, rest) := readGroups true 8 cs
  if front = 8 then rest.isEmpty
  else
    match mixed, rest with
    | false, ':' :: ':' :: rest => (readGroups true (7 - front) rest).2.2.isEmpty
    | _, _ => false

end RecordRules.Ipv6
