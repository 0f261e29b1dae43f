import IterativeDns.Text.Numeral
import IterativeDns.Wire.Octets

/-!
# IPv4 addresses

This file holds the addresses of version 4 of the internet protocol: four octets, written in
decimal with dots between them.  Reading is strict: four numbers of one to three digits, none
above 255 and none with a leading zero.
-/

namespace IterativeDns

/-- An IPv4 address, by its octets in network order. -/
structure IPv4 where
  /-- The first octet. -/
  a : UInt8
  /-- The second octet. -/
  b : UInt8
  /-- The third octet. -/
  c : UInt8
  /-- The fourth octet. -/
  d : UInt8
deriving DecidableEq, Repr

namespace IPv4

/-- The octets of the address in network order. -/
def octets (address : IPv4) : Octets := [address.a, address.b, address.c, address.d]

/-- The address with the given first four octets; missing ones are zero. -/
def ofOctets (octets : Octets) : IPv4 where
  a := octets.getD 0 0
  b := octets.getD 1 0
  c := octets.getD 2 0
  d := octets.getD 3 0

/-- Octets of an address give the address back. -/
@[simp] theorem ofOctets_octets (address : IPv4) : ofOctets address.octets = address := rfl

/-! ## Text -/

/-- The address in decimal, with dots between the octets. -/
def text (address : IPv4) : String :=
  ".".intercalate (address.octets.map fun octet => Text.decimal octet.toNat)

/-- Reads one octet in decimal. -/
def readOctet (cs : List Char) : Option (UInt8 × List Char) :=
  match Text.readNumeral 10 3 false cs with
  | some (value, rest) => if value < 256 then some (UInt8.ofNat value, rest) else none
  | none => none

/-- Reads a dot and one more octet. -/
def readDotOctet : List Char → Option (UInt8 × List Char)
  | '.' :: cs => readOctet cs
  | _ => none

/-- Reads an address at the front of a text. -/
def read (cs : List Char) : Option (IPv4 × List Char) := do
  let (a, cs) ← readOctet cs
  let (b, cs) ← readDotOctet cs
  let (c, cs) ← readDotOctet cs
  let (d, cs) ← readDotOctet cs
  return (⟨a, b, c, d⟩, cs)

example : read "192.0.2.1:53".toList = some (⟨192, 0, 2, 1⟩, ":53".toList) := by cbv

example : read "192.0.02.1".toList = none ∧ read "192.0.2.256".toList = none := by
  constructor <;> cbv

end IPv4

end IterativeDns
