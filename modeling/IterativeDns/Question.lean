import IterativeDns.Name.Compression

/-!
# Queries and questions

This file holds what a lookup asks for, a name and a record type, in two forms: the query, by
which records are also filed, and the question, which adds a class and travels in messages.
Queries are ordered by the text of their names, and then by type.
-/

namespace IterativeDns

/-- The class of the internet. -/
def internetClass : UInt16 := 1

/-- What is asked for: the records of one type under one name. -/
structure Query where
  /-- The name. -/
  name : Name
  /-- The type. -/
  type : RecordType
deriving DecidableEq, Repr

namespace Query

/-- The query for the normalized name. -/
def normalized (query : Query) : Query := { query with name := query.name.normalized }

/-- Name and type with a space between them. -/
def text (query : Query) : String := query.name.shown ++ " " ++ query.type.text

/-- The first query comes before the second, or is the same: by the text of the names, and then
by type. -/
def le (q r : Query) : Bool :=
  if q.name.text = r.name.text then q.type.rank ≤ r.type.rank else q.name.text < r.name.text

end Query

/-- A question of a message. -/
structure Question where
  /-- The name asked about. -/
  name : Name
  /-- The type of the records asked for. -/
  type : RecordType
  /-- The class of the records asked for. -/
  classCode : UInt16
deriving DecidableEq, Repr

namespace Question

/-- The question for the records of the internet that a query asks for. -/
def ofQuery (query : Query) : Question := ⟨query.name, query.type, internetClass⟩

/-- What the question asks for. -/
def query (question : Question) : Query := ⟨question.name, question.type⟩

/-- The encoded question. -/
def encode (question : Question) : Octets :=
  question.name.encode ++ Octets.ofUInt16 question.type.code ++ Octets.ofUInt16 question.classCode

/-- Reads a question. -/
def decode : Decoder Question := do
  let name ← Name.decode
  let type ← Decoder.uint16
  let classCode ← Decoder.uint16
  return ⟨name, RecordType.ofCode type, classCode⟩

end Question

end IterativeDns
