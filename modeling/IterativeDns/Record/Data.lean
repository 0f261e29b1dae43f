import IterativeDns.Address.IpAddress
import IterativeDns.Name.Compression

/-!
# Data of resource records

This file holds the data that records of each type carry.  Names in the data may be compressed
in a message and are written out in full; data of types that are not understood here is kept as
it is.
-/

namespace IterativeDns

/-- The data of a resource record. -/
inductive RecordData where
  /-- The IPv4 address of a host. -/
  | a (address : IPv4)
  /-- The IPv6 address of a host. -/
  | aaaa (address : IPv6)
  /-- A nameserver. -/
  | ns (server : Name)
  /-- The name that an alias stands for. -/
  | cname (target : Name)
  /-- The primary server of a zone, the mailbox of its keeper, its serial number and its times. -/
  | soa (primary mailbox : Name) (serial refresh retry expire minimum : UInt32)
  /-- A mail exchange with its preference. -/
  | mx (preference : UInt16) (exchange : Name)
  /-- The host and port of a service with its priority and weight. -/
  | srv (priority weight port : UInt16) (target : Name)
  /-- Data that is not understood. -/
  | raw (octets : Octets)
deriving DecidableEq, Repr

namespace RecordData

/-- The type whose records carry the data; data that is not understood belongs to none. -/
def type? : RecordData → Option RecordType
  | a _ => some .a
  | aaaa _ => some .aaaa
  | ns _ => some .ns
  | cname _ => some .cname
  | soa .. => some .soa
  | mx .. => some .mx
  | srv .. => some .srv
  | raw _ => none

/-- The address that the data holds. -/
def address? : RecordData → Option IpAddress
  | a address => some (.v4 address)
  | aaaa address => some (.v6 address)
  | _ => none

/-- The nameserver that the data names. -/
def nameserver? : RecordData → Option Name
  | ns server => some server
  | _ => none

/-- The name that the data is an alias for. -/
def aliasTarget? : RecordData → Option Name
  | cname target => some target
  | _ => none

/-- The name of the host or zone that the data leads to. -/
def domainName? : RecordData → Option Name
  | ns server => some server
  | cname target => some target
  | soa primary .. => some primary
  | mx _ exchange => some exchange
  | srv _ _ _ target => some target
  | _ => none

/-- The data in text. -/
def text : RecordData → String
  | a address => address.text
  | aaaa address => address.text
  | ns server => server.shown
  | cname target => target.shown
  | soa primary mailbox serial refresh retry expire minimum =>
    " ".intercalate ([primary.shown, mailbox.shown] ++
      [serial, refresh, retry, expire, minimum].map fun time => Text.decimal time.toNat)
  | mx preference exchange => Text.decimal preference.toNat ++ " " ++ exchange.shown
  | srv priority weight port target =>
    " ".intercalate ([priority, weight, port].map (fun number => Text.decimal number.toNat) ++
      [target.shown])
  | raw octets => s!"<unsupported, {octets.length} bytes>"

/-- The encoded data. -/
def encode : RecordData → Octets
  | a address => address.octets
  | aaaa address => address.octets
  | ns server => server.encode
  | cname target => target.encode
  | soa primary mailbox serial refresh retry expire minimum =>
    primary.encode ++ mailbox.encode ++
      [serial, refresh, retry, expire, minimum].flatMap Octets.ofUInt32
  | mx preference exchange => Octets.ofUInt16 preference ++ exchange.encode
  | srv priority weight port target =>
    [priority, weight, port].flatMap Octets.ofUInt16 ++ target.encode
  | raw octets => octets

/-- Reads the data of a record of a given type; `length` is the declared length, which only the
types that are not understood need. -/
def decode (type : RecordType) (length : UInt16) : Decoder RecordData :=
  match type with
  | .a => return .a (IPv4.ofOctets (← Decoder.take 4))
  | .aaaa => return .aaaa (IPv6.ofOctets (← Decoder.take 16))
  | .ns => return .ns (← Name.decode)
  | .cname => return .cname (← Name.decode)
  | .soa => do
    let primary ← Name.decode
    let mailbox ← Name.decode
    let serial ← Decoder.uint32
    let refresh ← Decoder.uint32
    let retry ← Decoder.uint32
    let expire ← Decoder.uint32
    let minimum ← Decoder.uint32
    return .soa primary mailbox serial refresh retry expire minimum
  | .mx => do
    let preference ← Decoder.uint16
    let exchange ← Name.decode
    return .mx preference exchange
  | .srv => do
    let priority ← Decoder.uint16
    let weight ← Decoder.uint16
    let port ← Decoder.uint16
    let target ← Name.decode
    return .srv priority weight port target
  | .any => return .raw (← Decoder.take length.toNat)
  | .other _ => return .raw (← Decoder.take length.toNat)

end RecordData

end IterativeDns
