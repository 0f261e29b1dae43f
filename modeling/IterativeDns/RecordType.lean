import IterativeDns.Text.Quoted

/-!
# Record types

This file holds the types of resource records: the eight that have a name here, and all
others by their code.  The main facts are that a code determines its type and that the order
of types is given by a number of its own for each type.
-/

namespace IterativeDns

/-- The type of a resource record, or of the records that a question asks for. -/
inductive RecordType where
  /-- The IPv4 address of a host. -/
  | a
  /-- A nameserver of a zone. -/
  | ns
  /-- The name that an alias stands for. -/
  | cname
  /-- The start of a zone of authority. -/
  | soa
  /-- A mail exchange. -/
  | mx
  /-- The IPv6 address of a host. -/
  | aaaa
  /-- The host and port of a service. -/
  | srv
  /-- Every type, in a question. -/
  | any
  /-- A type that has no name here, by its code. -/
  | other (code : UInt16)
deriving DecidableEq, Repr

namespace RecordType

/-! ## Codes -/

/-- The code of the type on the wire. -/
def code : RecordType → UInt16
  | a => 1
  | ns => 2
  | cname => 5
  | soa => 6
  | mx => 15
  | aaaa => 28
  | srv => 33
  | any => 255
  | other code => code

/-- The type with a given code. -/
def ofCode (code : UInt16) : RecordType :=
  if code = 1 then a
  else if code = 2 then ns
  else if code = 5 then cname
  else if code = 6 then soa
  else if code = 15 then mx
  else if code = 28 then aaaa
  else if code = 33 then srv
  else if code = 255 then any
  else other code

/-- The code of the type with a given code is that code. -/
@[simp] theorem code_ofCode (n : UInt16) : (ofCode n).code = n := by
  unfold ofCode
  repeat' split
  all_goals simp_all [code]

/-- The type is the one that its code determines. -/
def IsCanonical (type : RecordType) : Prop := ofCode type.code = type

instance (type : RecordType) : Decidable type.IsCanonical :=
  inferInstanceAs (Decidable (ofCode type.code = type))

/-- A type found by its code is canonical. -/
theorem isCanonical_ofCode (n : UInt16) : (ofCode n).IsCanonical := by
  rw [IsCanonical, code_ofCode]

/-! ## Text -/

/-- The name of the type, or its code in decimal. -/
def text : RecordType → String
  | a => "A"
  | ns => "NS"
  | cname => "CNAME"
  | soa => "SOA"
  | mx => "MX"
  | aaaa => "AAAA"
  | srv => "SRV"
  | any => "ANY"
  | other code => Text.decimal code.toNat

/-- The types that have a name. -/
def named : List RecordType := [a, ns, cname, soa, mx, aaaa, srv, any]

/-- The type with a given name, in upper or lower case. -/
def parse? (name : String) : Option RecordType :=
  named.find? fun type => type.text == name.toUpper

/-- The message for a text that names no type. -/
def unknownMessage (name : String) : String := "unknown record type " ++ Text.quoted name

/-! ## Order -/

/-- The place of the type in the order of types: the named ones come first, then the others by
their codes. -/
def rank : RecordType → Nat
  | a => 0
  | ns => 1
  | cname => 2
  | soa => 3
  | mx => 4
  | aaaa => 5
  | srv => 6
  | any => 7
  | other code => 8 + code.toNat

/-- Each type has a place of its own. -/
theorem rank_injective {s t : RecordType} (h : s.rank = t.rank) : s = t := by
  cases s <;> cases t <;> simp only [rank] at h <;>
    first
    | rfl
    | omega
    | exact congrArg other (UInt16.toNat_inj.1 (by omega))

end RecordType

end IterativeDns
