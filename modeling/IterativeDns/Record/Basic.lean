import IterativeDns.Question
import IterativeDns.Record.Data

/-!
# Resource records

This file holds resource records: an owner name, a type, a class, a time to live in seconds and
data.  A record does not know when it was stored; its age counts from a moment given beside it.
-/

namespace IterativeDns

/-- A moment, in milliseconds from a common start. -/
abbrev Instant := Int

/-- A resource record. -/
structure Record where
  /-- The owner of the record. -/
  name : Name
  /-- The type. -/
  type : RecordType
  /-- The class. -/
  classCode : UInt16
  /-- The time to live, in seconds. -/
  ttl : UInt32
  /-- The data. -/
  data : RecordData
deriving DecidableEq, Repr

namespace Record

/-- The query that the record answers. -/
def query (record : Record) : Query := ⟨record.name, record.type⟩

/-- The same class, time to live and data under another query. -/
def rekeyed (query : Query) (record : Record) : Record :=
  { record with name := query.name, type := query.type }

@[simp] theorem rekeyed_rekeyed (record : Record) (query query' : Query) :
    (record.rekeyed query).rekeyed query' = record.rekeyed query' := rfl

theorem rekeyed_eq_self {record : Record} {query : Query} (hname : record.name = query.name)
    (htype : record.type = query.type) : record.rekeyed query = record := by
  rw [rekeyed, ← hname, ← htype]

/-! ## Age -/

/-- The milliseconds from one moment to another, none if the second comes first. -/
def elapsed (stored now : Instant) : Nat := (now - stored).toNat

/-- The time to live of the record, stored at a moment, has passed. -/
def isExpired (record : Record) (stored now : Instant) : Bool :=
  record.ttl.toNat * 1000 ≤ elapsed stored now

/-- The whole seconds that the record, stored at a moment, has left. -/
def remainingTtl (record : Record) (stored now : Instant) : Nat :=
  record.ttl.toNat - elapsed stored now / 1000

/-- A record with seconds left has not expired. -/
theorem not_isExpired_of_remainingTtl_pos {record : Record} {stored now : Instant}
    (h : 0 < record.remainingTtl stored now) : record.isExpired stored now = false := by
  simp only [remainingTtl, isExpired, decide_eq_false_iff_not] at h ⊢
  omega

/-- A record with any time to live has not expired when it is stored. -/
theorem isExpired_self {record : Record} (h : 0 < record.ttl) (now : Instant) :
    record.isExpired now now = false := by
  have hpos : 0 < record.ttl.toNat := UInt32.lt_iff_toNat_lt.1 h
  have helapsed : elapsed now now = 0 := by simp [elapsed]
  rw [isExpired, helapsed]
  exact decide_eq_false (by omega)

/-! ## Encoding -/

/-- The encoded record; the length of its data is cut to sixteen bits. -/
def encode (record : Record) : Octets :=
  let data := record.data.encode
  record.name.encode ++ Octets.ofUInt16 record.type.code ++ Octets.ofUInt16 record.classCode ++
    Octets.ofUInt32 record.ttl ++ Octets.ofUInt16 (UInt16.ofNat data.length) ++ data

/-- The number of octets from the reader's position to the end. -/
def remainingOctets : Decoder Nat := return (← get).remaining

/-- Reads a record.  Its data must lie within the message and be exactly as long as declared. -/
def decode : Decoder Record := do
  let name ← Name.decode
  let type := RecordType.ofCode (← Decoder.uint16)
  let classCode ← Decoder.uint16
  let ttl ← Decoder.uint32
  let length ← Decoder.uint16
  let start ← get
  if start.remaining < length.toNat then throw (start.outOfBounds length.toNat)
  let data ← RecordData.decode type length
  let consumed := (← get).position - start.position
  if consumed ≠ length.toNat then throw (.dataLength type length consumed)
  return { name, type, classCode, ttl, data }

end Record

end IterativeDns
