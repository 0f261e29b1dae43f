import IterativeDns.Name.Label
import IterativeDns.Text.Quoted
import IterativeDns.Text.Split

/-!
# Domain names

This file holds domain names as text, kept as written: labels with dots between them, and
perhaps a dot at the end.  The root is the name without labels.  A text is a name if no label
is empty or longer than 63 octets and the encoded name has at most 255 octets.  Names that
differ in the case of ASCII letters or in a dot at the end have the same normalized form.
-/

namespace IterativeDns

/-- A domain name, as written. -/
structure Name where
  /-- The text of the name. -/
  text : String
deriving DecidableEq, Repr

/-- Why a text is not a domain name. -/
inductive NameError where
  /-- The text has two dots in a row, or one at the start. -/
  | emptyLabel (text : String)
  /-- A label has more octets than a label may have. -/
  | labelTooLong (label : String)
  /-- The encoded name would have more octets than a name may have. -/
  | nameTooLong (text : String)
deriving DecidableEq, Repr

/-- The most octets in a label. -/
def maxLabelLength : Nat := 63

/-- The most octets in an encoded name, with the length octets and the last zero. -/
def maxNameLength : Nat := 255

/-- The reason in words. -/
def NameError.reason : NameError → String
  | emptyLabel text => Text.quoted text ++ " has an empty label"
  | labelTooLong label => s!"label {Text.quoted label} is longer than {maxLabelLength} bytes"
  | nameTooLong text =>
    s!"{Text.quoted text} is longer than {maxNameLength} bytes on the wire"

namespace Name

/-! ## Parts of a name -/

/-- The name of the root. -/
def root : Name := ⟨""⟩

/-- The labels of a name, as they are written. -/
def labels (name : Name) : List (List Char) :=
  (Text.splitAtChar '.' name.text.toList).filter (!·.isEmpty)

/-- The octets of each label. -/
def rawLabels (name : Name) : List Octets := name.labels.map Label.octetsOfText

/-- The name has no labels. -/
def isRoot (name : Name) : Bool := name.labels.isEmpty

/-- The name as it is shown: as written, but a dot for the root. -/
def shown (name : Name) : String := if name.isRoot then "." else name.text

/-- The name whose labels have the given octets. -/
def ofRawLabels (raw : List Octets) : Name :=
  ⟨String.ofList (Text.joinWith '.' (raw.map Label.escape))⟩

/-! ## Normalized names -/

/-- A text without the dot at its end, if it has one. -/
def dropFinalDot (cs : List Char) : List Char :=
  if cs.getLast? = some '.' then cs.dropLast else cs

/-- The name in lower case and without a dot at its end. -/
def normalized (name : Name) : Name :=
  ⟨String.ofList ((dropFinalDot name.text.toList).map Char.toLower)⟩

/-! ## Encoding -/

/-- A label as it is encoded: its length, cut to eight bits, and its octets. -/
def encodeLabel (raw : Octets) : Octets := UInt8.ofNat raw.length :: raw

/-- Labels as they are encoded: one after the other, and a zero octet. -/
def encodeLabels (raw : List Octets) : Octets := raw.flatMap encodeLabel ++ [0]

/-- The encoded name. -/
def encode (name : Name) : Octets := encodeLabels name.rawLabels

/-- The number of octets that labels take when they are encoded. -/
def labelsLength : List Octets → Nat
  | [] => 1
  | label :: raw => label.length + 1 + labelsLength raw

/-- The number of octets of the encoded name. -/
def encodedLength (name : Name) : Nat := labelsLength name.rawLabels

theorem encodeLabels_cons (label : Octets) (raw : List Octets) :
    encodeLabels (label :: raw) = encodeLabel label ++ encodeLabels raw := by
  simp [encodeLabels]

/-- Labels take as many octets as their length says. -/
theorem length_encodeLabels (raw : List Octets) :
    (encodeLabels raw).length = labelsLength raw := by
  induction raw with
  | nil => rfl
  | cons label raw ih =>
    rw [encodeLabels_cons, List.length_append, ih]
    rfl

/-! ## Reading a text -/

/-- What is wrong with one label of a text. -/
def labelFault? (text : String) (label : List Char) : Option NameError :=
  if label.isEmpty then some (.emptyLabel text)
  else if maxLabelLength < (Label.octetsOfText label).length then
    some (.labelTooLong (String.ofList label))
  else none

/-- What is wrong with the first bad label of a text; nothing is wrong with the root. -/
def labelsFault? (text : String) : Option NameError :=
  let trimmed := dropFinalDot text.toList
  if trimmed.isEmpty then none
  else (Text.splitAtChar '.' trimmed).findSome? (labelFault? text)

/-- The name that a text denotes.  Bad labels are reported before the length of the whole. -/
def parse (text : String) : Except NameError Name :=
  match labelsFault? text with
  | some fault => .error fault
  | none =>
    if maxNameLength < encodedLength ⟨text⟩ then .error (.nameTooLong text)
    else .ok ⟨text⟩

/-- A name is kept as written. -/
theorem text_of_parse {text : String} {name : Name} (h : parse text = .ok name) :
    name = ⟨text⟩ := by
  unfold parse at h
  split at h
  · cases h
  · split at h
    · cases h
    · exact (Except.ok.inj h).symm

example : (parse "www.example.com.").toOption = some ⟨"www.example.com."⟩ := by
  decide +kernel

example : labelsFault? "a..b" = some (.emptyLabel "a..b") := by decide +kernel

end Name

end IterativeDns
