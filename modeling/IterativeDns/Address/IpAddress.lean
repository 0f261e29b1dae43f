import IterativeDns.Address.IPv6

/-!
# Addresses of hosts and of sockets

This file joins the two versions of internet addresses into one type, reads and writes it,
and adds the port for the address of a socket.
-/

namespace IterativeDns

/-- The address of a host. -/
inductive IpAddress where
  /-- An address of version 4. -/
  | v4 (address : IPv4)
  /-- An address of version 6. -/
  | v6 (address : IPv6)
deriving DecidableEq, Repr

namespace IpAddress

/-- The address in text. -/
def text : IpAddress → String
  | v4 address => address.text
  | v6 address => address.text

/-- Reads an address of either version at the front of a text. -/
def read (cs : List Char) : Option (IpAddress × List Char) :=
  match IPv4.read cs with
  | some (address, rest) => some (v4 address, rest)
  | none => (IPv6.read cs).map fun (address, rest) => (v6 address, rest)

/-- The address that a whole text denotes. -/
def parse? (text : String) : Option IpAddress :=
  match read text.toList with
  | some (address, []) => some address
  | _ => none

end IpAddress

/-- The address of a socket: a host and a port. -/
structure Endpoint where
  /-- The host. -/
  address : IpAddress
  /-- The port on the host. -/
  port : UInt16
deriving DecidableEq, Repr

/-- Host and port with a colon between them; an IPv6 address stands in brackets. -/
def Endpoint.text (endpoint : Endpoint) : String :=
  match endpoint.address with
  | .v4 address => address.text ++ ":" ++ Text.decimal endpoint.port.toNat
  | .v6 address => "[" ++ address.text ++ "]:" ++ Text.decimal endpoint.port.toNat

example : IpAddress.parse? "::1" = some (.v6 (IPv6.ofGroups [0, 0, 0, 0, 0, 0, 0, 1])) := by cbv

example : IpAddress.parse? "192.0.2.1 " = none ∧ IpAddress.parse? "1:2" = none := by
  constructor <;> cbv

end IterativeDns
