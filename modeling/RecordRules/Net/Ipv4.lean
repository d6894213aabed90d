import RecordRules.Number.Decimal
import RecordRules.Text

/-!
# IPv4 addresses and subnets

An address is 32 bits, written as four octets: one to three digits each, no
leading zero, at most 255. A subnet is the set of the addresses that share
its leading bits. It is written as an address and the number of those bits
(`10.0.0.0/8`), where the other bits of the address do not matter, or as the
leading octets alone (`192.168.1`, with or without a dot at the end). The
numbers of a subnet are read more generously than those of an address: they
may have a plus sign and leading zeros.
-/

namespace RecordRules

/-- An IPv4 address. -/
abbrev Ipv4 := BitVec 32

namespace Ipv4

def ofOctets (a b c d : BitVec 8) : Ipv4 := a ++ b ++ c ++ d

/-- The octet that a text begins with, and the rest. A fourth digit or a
leading zero spoils it. -/
def readOctet? (cs : List Char) : Option (BitVec 8 × List Char) :=
  let ds := cs.takeWhile Decimal.isDigit
  let n := Decimal.ofDigits ds
  let leadingZero := ds.head? == some '0' && ds.length != 1
  if ds.isEmpty || ds.length > 3 || leadingZero || n > 255 then none
  else some (BitVec.ofNat 8 n, cs.dropWhile Decimal.isDigit)

def afterDot? : List Char → Option (List Char)
  | '.' :: rest => some rest
  | _ => none

/-- The address that a text begins with, and the rest. -/
def readStart? (cs : List Char) : Option (Ipv4 × List Char) := do
  let (a, cs) ← readOctet? cs
  let (b, cs) ← readOctet? (← afterDot? cs)
  let (c, cs) ← readOctet? (← afterDot? cs)
  let (d, cs) ← readOctet? (← afterDot? cs)
  return (ofOctets a b c d, cs)

def read? (cs : List Char) : Option Ipv4 :=
  match readStart? cs with
  | some (address, []) => some address
  | _ => none

end Ipv4

/-! ## Subnets -/

/-- The mask of the `length` leading bits. -/
def leadingBits (length : Nat) : Ipv4 :=
  if length = 0 then 0#32 else BitVec.allOnes 32 <<< (32 - length)

/-- The addresses whose masked bits are those of the network. -/
structure Subnet where
  network : Ipv4
  mask : Ipv4
  deriving DecidableEq, Repr

namespace Subnet

def contains (s : Subnet) (address : Ipv4) : Bool := address &&& s.mask == s.network

/-- The subnet of the addresses that share that many leading bits with the
given one. -/
def ofAddress (address : Ipv4) (length : Nat) : Subnet :=
  ⟨address &&& leadingBits length, leadingBits length⟩

/-- A number written in digits, with a plus sign or not. -/
def readNat? (cs : List Char) : Option Nat :=
  let ds :=
    match cs with
    | '+' :: rest => rest
    | cs => cs
  if ds.isEmpty || !ds.all Decimal.isDigit then none else some (Decimal.ofDigits ds)

/-- An address, a slash, and the number of leading bits. -/
def readSlashed? (address length : List Char) : Option Subnet := do
  let address ← Ipv4.read? (Text.trim address)
  let length ← readNat? (Text.trim length)
  if length > 32 then none else some (ofAddress address length)

def readPart? (cs : List Char) : Option (BitVec 8) := do
  let n ← readNat? cs
  if n > 255 then none else some (BitVec.ofNat 8 n)

/-- The subnet that begins with the given octets, of which there are one to
four. -/
def ofOctets? : List (BitVec 8) → Option Subnet
  | [a] => some ⟨Ipv4.ofOctets a 0#8 0#8 0#8, leadingBits 8⟩
  | [a, b] => some ⟨Ipv4.ofOctets a b 0#8 0#8, leadingBits 16⟩
  | [a, b, c] => some ⟨Ipv4.ofOctets a b c 0#8, leadingBits 24⟩
  | [a, b, c, d] => some ⟨Ipv4.ofOctets a b c d, leadingBits 32⟩
  | _ => none

/-- The text without the dots at its end. -/
def dropFinalDots (cs : List Char) : List Char := (cs.reverse.dropWhile (· == '.')).reverse

/-- The leading octets, with dots between them and perhaps at the end. -/
def readDotted? (cs : List Char) : Option Subnet := do
  let octets ← (Text.splitOn '.' (dropFinalDots (Text.trim cs))).mapM readPart?
  ofOctets? octets

def read? (cs : List Char) : Option Subnet :=
  match cs.dropWhile (· != '/') with
  | [] => readDotted? cs
  | _ :: length => readSlashed? (cs.takeWhile (· != '/')) length

end Subnet

end RecordRules
