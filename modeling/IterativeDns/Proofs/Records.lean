import IterativeDns.Proofs.Reading

/-!
# Records, written and read

A record is written as its name, its numbers and its data, with the length of the data in front of
it.  This file shows that each kind of data, and with it each record and each question, is read from
its encoding.  Only the spelling of names may change.

* `RecordData.names`, `RecordData.mapNames` — the names in data, and the same data with other names.
* `RecordData.reads_encode` — data is read from its encoding.
* `Record.IsSound` — a record that can be written without loss, and `Record.reads_encode` — **every
  sound record is read from its encoding.**
-/

namespace IterativeDns

/-! ## Addresses -/

namespace IPv6

theorem wordsOfOctets_ofUInt16_append (word : UInt16) (octets : Octets) :
    wordsOfOctets (Octets.ofUInt16 word ++ octets) = word :: wordsOfOctets octets := by
  have hword : Octets.ofUInt16 word = [UInt8.ofNat (word.toNat / 256), UInt8.ofNat word.toNat] :=
    rfl
  have hvalue := Octets.toNat_ofUInt16 word
  rw [hword] at hvalue
  rw [hword, List.cons_append, List.cons_append, wordsOfOctets, hvalue, UInt16.ofNat_toNat]
  rfl

theorem wordsOfOctets_flatMap (words : List UInt16) :
    wordsOfOctets (words.flatMap Octets.ofUInt16) = words := by
  induction words with
  | nil => rfl
  | cons word words ih => rw [List.flatMap_cons, wordsOfOctets_ofUInt16_append, ih]

/-- Octets of an address give the address back. -/
theorem ofOctets_octets (address : IPv6) : ofOctets address.octets = address := by
  obtain ⟨groups⟩ := address
  rw [ofOctets, octets, wordsOfOctets_flatMap, ofGroups]
  congr 1
  ext index hindex
  simp

theorem length_octets (address : IPv6) : address.octets.length = 16 := by
  simp [octets, List.length_flatMap, List.map_const']

end IPv6

/-! ## Names in records -/

namespace Name

/-- Someone vouches for the name: it was parsed, or read from a message. -/
def IsAccepted (name : Name) : Prop :=
  (∃ text, parse text = .ok name) ∨ ∃ reader after, decode reader = .ok name after

theorem IsAccepted.isValid {name : Name} (h : name.IsAccepted) : name.IsValid := by
  rcases h with ⟨text, hparse⟩ | ⟨reader, after, hdecode⟩
  · exact isValid_of_parse hparse
  · exact isValid_of_decode hdecode

theorem IsValid.length_encode_le {name : Name} (h : name.IsValid) : name.encode.length ≤ 255 := by
  rw [encode, length_encodeLabels]
  exact h.encodedLength_le

end Name

namespace RecordData

/-- The names in the data. -/
def names : RecordData → List Name
  | ns server => [server]
  | cname target => [target]
  | soa primary mailbox .. => [primary, mailbox]
  | mx _ exchange => [exchange]
  | srv _ _ _ target => [target]
  | _ => []

/-- The data with other names. -/
def mapNames (f : Name → Name) : RecordData → RecordData
  | ns server => ns (f server)
  | cname target => cname (f target)
  | soa primary mailbox serial refresh retry expire minimum =>
    soa (f primary) (f mailbox) serial refresh retry expire minimum
  | mx preference exchange => mx preference (f exchange)
  | srv priority weight port target => srv priority weight port (f target)
  | data => data

theorem mapNames_eq_self {f : Name → Name} {data : RecordData}
    (h : ∀ name ∈ data.names, f name = name) : data.mapNames f = data := by
  cases data <;> simp_all [names, mapNames]

end RecordData

theorem RecordType.eq_of_dataType? {type type' : RecordType} (h : type.dataType? = some type') :
    type = type' := by
  cases type <;> simp_all [dataType?]

/-! ## Data -/

namespace RecordData

variable {type : RecordType} {data : RecordData} {length : UInt16}

/-- **Data is read from its encoding,** for the type and the length that it has. -/
theorem reads_encode (hfits : data.type? = type.dataType?)
    (hnames : ∀ name ∈ data.names, name.IsValid) (hlength : length.toNat = data.encode.length) :
    (decode type length).Reads data.encode (data.mapNames Name.canonical) := by
  cases data with
  | a address =>
    obtain rfl := RecordType.eq_of_dataType? hfits.symm
    exact (Decoder.Reads.take address.octets).map fun octets => a (IPv4.ofOctets octets)
  | aaaa address =>
    obtain rfl := RecordType.eq_of_dataType? hfits.symm
    have hreads := (Decoder.Reads.take address.octets).map fun octets => aaaa (IPv6.ofOctets octets)
    rw [IPv6.ofOctets_octets, IPv6.length_octets] at hreads
    exact hreads
  | ns server =>
    obtain rfl := RecordType.eq_of_dataType? hfits.symm
    exact (Name.reads_encode (hnames server (by simp [names]))).map ns
  | cname target =>
    obtain rfl := RecordType.eq_of_dataType? hfits.symm
    exact (Name.reads_encode (hnames target (by simp [names]))).map cname
  | soa primary mailbox serial refresh retry expire minimum =>
    obtain rfl := RecordType.eq_of_dataType? hfits.symm
    rw [encode, List.append_assoc]
    refine (Name.reads_encode (hnames primary (by simp [names]))).bind ?_
    refine (Name.reads_encode (hnames mailbox (by simp [names]))).bind ?_
    refine (Decoder.Reads.uint32 serial).bind ((Decoder.Reads.uint32 refresh).bind ?_)
    refine (Decoder.Reads.uint32 retry).bind ((Decoder.Reads.uint32 expire).bind ?_)
    exact (Decoder.Reads.uint32 minimum).bind (.pure _)
  | mx preference exchange =>
    obtain rfl := RecordType.eq_of_dataType? hfits.symm
    refine (Decoder.Reads.uint16 preference).bind ?_
    exact (Name.reads_encode (hnames exchange (by simp [names]))).map (mx preference)
  | srv priority weight port target =>
    obtain rfl := RecordType.eq_of_dataType? hfits.symm
    rw [encode, List.flatMap_cons, List.flatMap_cons, List.flatMap_cons, List.flatMap_nil,
      List.append_nil, List.append_assoc, List.append_assoc]
    refine (Decoder.Reads.uint16 priority).bind ((Decoder.Reads.uint16 weight).bind ?_)
    refine (Decoder.Reads.uint16 port).bind ?_
    exact (Name.reads_encode (hnames target (by simp [names]))).map (srv priority weight port)
  | raw octets =>
    have hlength : length.toNat = octets.length := hlength
    have hreads := (Decoder.Reads.take octets).map raw
    rw [← hlength] at hreads
    cases type <;> simp only [type?, RecordType.dataType?, reduceCtorEq] at hfits
    · exact hreads
    · exact hreads

/-- The length of the data fits into sixteen bits, if it does where nothing is understood. -/
theorem length_encode_le (hnames : ∀ name ∈ data.names, name.IsValid)
    (hraw : ∀ octets, data = raw octets → octets.length ≤ 65535) : data.encode.length ≤ 65535 := by
  have hname : ∀ name ∈ data.names, name.encode.length ≤ 255 :=
    fun name hmem => (hnames name hmem).length_encode_le
  cases data with
  | a address =>
    show 4 ≤ 65535
    decide
  | aaaa address => simp [encode, IPv6.length_octets]
  | raw octets => exact hraw octets rfl
  | ns server =>
    have hserver := hname server (by simp [names])
    rw [encode]
    omega
  | cname target =>
    have htarget := hname target (by simp [names])
    rw [encode]
    omega
  | soa primary mailbox serial refresh retry expire minimum =>
    have hprimary := hname primary (by simp [names])
    have hmailbox := hname mailbox (by simp [names])
    simp only [encode, List.length_append, List.length_flatMap, Octets.length_ofUInt32,
      List.map_cons, List.map_nil, List.sum_cons, List.sum_nil]
    omega
  | mx preference exchange =>
    have hexchange := hname exchange (by simp [names])
    simp only [encode, List.length_append, Octets.length_ofUInt16]
    omega
  | srv priority weight port target =>
    have htarget := hname target (by simp [names])
    simp only [encode, List.length_append, List.length_flatMap, Octets.length_ofUInt16,
      List.map_cons, List.map_nil, List.sum_cons, List.sum_nil]
    omega

end RecordData

/-! ## Records -/

namespace Decoder.Reads

/-- The step of a decoder that has octets ahead, and more octets after them. -/
theorem step {α : Type} {decoder : Decoder α} {octets octets' : Octets} {value : α}
    (h : decoder.Reads octets value) {reader : Reader}
    (hahead : octets ++ octets' <+: reader.rest) :
    decoder reader = .ok value (reader.advance octets.length) ∧
      octets' <+: (reader.advance octets.length).rest :=
  ⟨h reader ((List.prefix_append _ _).trans hahead), Reader.prefix_rest_advance hahead⟩

end Decoder.Reads

namespace Record

/-- The owner of the record and the names in its data. -/
def names (record : Record) : List Name := record.name :: record.data.names

/-- The record with other names. -/
def mapNames (f : Name → Name) (record : Record) : Record :=
  { record with name := f record.name, data := record.data.mapNames f }

/-- A record that can be written without loss. -/
structure IsSound (record : Record) : Prop where
  /-- Its names were parsed or read. -/
  names : ∀ name ∈ record.names, name.IsAccepted
  /-- Its type is the one that its code stands for. -/
  type : record.type.IsCanonical
  /-- Its data is of the kind that its type calls for. -/
  data : record.DataFits
  /-- Data that is not understood is not too long. -/
  raw : ∀ octets, record.data = .raw octets → octets.length ≤ 65535

theorem mapNames_eq_self {f : Name → Name} {record : Record}
    (h : ∀ name ∈ record.names, f name = name) : record.mapNames f = record := by
  rw [mapNames, h record.name List.mem_cons_self, RecordData.mapNames_eq_self fun name hmem =>
    h name (List.mem_cons_of_mem record.name hmem)]

/-- **Every sound record is read from its encoding.** -/
theorem reads_encode {record : Record} (h : record.IsSound) :
    decode.Reads record.encode (record.mapNames Name.canonical) := by
  intro reader hahead
  have hnames : ∀ name ∈ record.data.names, name.IsValid := fun name hmem =>
    (h.names name (List.mem_cons_of_mem record.name hmem)).isValid
  have hlength := RecordData.length_encode_le hnames h.raw
  -- the length of the data is not cut
  have hdeclared : (UInt16.ofNat record.data.encode.length).toNat = record.data.encode.length := by
    rw [UInt16.toNat_ofNat', Nat.mod_eq_of_lt (by omega)]
  have hencode : record.encode = record.name.encode ++ (Octets.ofUInt16 record.type.code ++
      (Octets.ofUInt16 record.classCode ++ (Octets.ofUInt32 record.ttl ++
      (Octets.ofUInt16 (UInt16.ofNat record.data.encode.length) ++ record.data.encode)))) := by
    simp only [encode, List.append_assoc]
  rw [hencode] at hahead ⊢
  obtain ⟨hname, hahead⟩ := (Name.reads_encode (h.names _ List.mem_cons_self).isValid).step hahead
  obtain ⟨htype, hahead⟩ := (Decoder.Reads.uint16 _).step hahead
  obtain ⟨hclass, hahead⟩ := (Decoder.Reads.uint16 _).step hahead
  obtain ⟨httl, hahead⟩ := (Decoder.Reads.uint32 _).step hahead
  obtain ⟨hlength, hahead⟩ := (Decoder.Reads.uint16 _).step hahead
  have hdata := RecordData.reads_encode h.data hnames hdeclared _ hahead
  have hroom := Reader.length_le_remaining hahead
  simp only [Reader.advance_advance, List.length_append, Nat.add_assoc] at *
  refine decode_eq_ok.2 ⟨_, _, _, _, _, _, hname, htype, h.type.symm, hclass, httl, _, hlength, ?_,
    hdata, ?_⟩
  · rw [hdeclared]
    exact hroom
  · rw [hdeclared, Reader.advance, Reader.advance]
    simp only
    omega

end Record

end IterativeDns
