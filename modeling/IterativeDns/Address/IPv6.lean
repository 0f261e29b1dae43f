import IterativeDns.Address.IPv4

/-!
# IPv6 addresses

This file holds the addresses of version 6 of the internet protocol: eight groups of sixteen
bits.  In text a run of zero groups may be left out once and the last two groups may be written
as an IPv4 address.  Writing leaves out the longest run of two or more zero groups, the first
of equally long ones.
-/

namespace IterativeDns

/-- An IPv6 address, by its eight groups in network order. -/
structure IPv6 where
  /-- The groups in network order. -/
  groups : Vector UInt16 8
deriving DecidableEq, Repr

namespace IPv6

/-- The address with the given first eight groups; missing ones are zero. -/
def ofGroups (groups : List UInt16) : IPv6 where
  groups := Vector.ofFn fun i => groups.getD i 0

/-- The sixteen octets of the address in network order. -/
def octets (address : IPv6) : Octets := address.groups.toList.flatMap Octets.ofUInt16

/-- The 16-bit words that octets denote, taken two at a time. -/
def wordsOfOctets : Octets → List UInt16
  | high :: low :: rest => UInt16.ofNat (Octets.toNat [high, low]) :: wordsOfOctets rest
  | _ => []

/-- The address with the given first sixteen octets; missing ones are zero. -/
def ofOctets (octets : Octets) : IPv6 := ofGroups (wordsOfOctets octets)

/-! ## Writing -/

/-- The groups in hexadecimal, with colons between them. -/
def groupsText (groups : List UInt16) : String :=
  ":".intercalate (groups.map fun group => String.ofList (Text.numeral 16 group.toNat))

/-- The number of zero groups at the front. -/
def leadingZeros (groups : List UInt16) : Nat :=
  (groups.takeWhile (· == 0)).length

/-- Start and length of the longest run of zero groups, the first of equally long ones; the
groups given stand from position `start` on. -/
def longestZeroRun (start : Nat) : List UInt16 → Nat × Nat
  | [] => (start, 0)
  | group :: groups =>
    let here := leadingZeros (group :: groups)
    let later := longestZeroRun (start + 1) groups
    if later.2 ≤ here then (start, here) else later

/-- The IPv4 address that the address maps, if its first five groups are zero and the sixth has
all its bits set. -/
def mapped? (address : IPv6) : Option IPv4 :=
  match address.groups.toList with
  | [0, 0, 0, 0, 0, 0xffff, high, low] =>
    some (IPv4.ofOctets (Octets.ofUInt16 high ++ Octets.ofUInt16 low))
  | _ => none

/-- The address in text: a mapped IPv4 address in its own notation, otherwise the groups with
the longest run of at least two zero groups left out. -/
def text (address : IPv6) : String :=
  match address.mapped? with
  | some v4 => "::ffff:" ++ v4.text
  | none =>
    let groups := address.groups.toList
    let (start, length) := longestZeroRun 0 groups
    if 1 < length then
      groupsText (groups.take start) ++ "::" ++ groupsText (groups.drop (start + length))
    else groupsText groups

/-! ## Reading -/

/-- Reads the colon before a group, which the first group does not have. -/
def readSeparator (first : Bool) (cs : List Char) : Option (List Char) :=
  if first then some cs
  else
    match cs with
    | ':' :: rest => some rest
    | _ => none

/-- Reads an IPv4 address as two groups. -/
def readEmbedded (cs : List Char) : Option (List UInt16 × List Char) :=
  (IPv4.read cs).map fun (v4, rest) => (wordsOfOctets v4.octets, rest)

/-- Reads as many groups as there are, up to a limit, an IPv4 address standing for two; the
answer holds the groups, whether they ended in an IPv4 address, and the rest of the text. -/
def readGroups : (limit : Nat) → (first : Bool) → List Char → List UInt16 × Bool × List Char
  | 0, _, cs => ([], false, cs)
  | limit + 1, first, cs =>
    match readSeparator first cs with
    | none => ([], false, cs)
    | some inner =>
      match (if 1 ≤ limit then readEmbedded inner else none) with
      | some (pair, rest) => (pair, true, rest)
      | none =>
        match Text.readNumeral 16 4 true inner with
        | none => ([], false, cs)
        | some (value, rest) =>
          let (groups, embedded, rest) := readGroups limit false rest
          (UInt16.ofNat value :: groups, embedded, rest)

/-- Reads an address at the front of a text.  A double colon stands for at least one zero group,
and no IPv4 address may stand before it. -/
def read (cs : List Char) : Option (IPv6 × List Char) :=
  let (head, embedded, rest) := readGroups 8 true cs
  if head.length = 8 then some (ofGroups head, rest)
  else if embedded then none
  else
    match rest with
    | ':' :: ':' :: rest =>
      let (tail, _, rest) := readGroups (7 - head.length) true rest
      let gap := List.replicate (8 - head.length - tail.length) 0
      some (ofGroups (head ++ gap ++ tail), rest)
    | _ => none

example : read "2001:db8::192.0.2.1".toList
    = some (ofGroups [0x2001, 0xdb8, 0, 0, 0, 0, 0xc000, 0x201], []) := by cbv

example : text (ofGroups [0x2001, 0xdb8, 0, 0, 1, 0, 0, 1]) = "2001:db8::1:0:0:1" := by cbv

example : text (ofGroups [0, 0, 0, 0, 0, 0xffff, 0xc000, 0x201]) = "::ffff:192.0.2.1" := by cbv

end IPv6

end IterativeDns
