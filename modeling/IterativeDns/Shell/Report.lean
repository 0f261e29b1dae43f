import IterativeDns.Cache
import IterativeDns.Resolution.Trace
import IterativeDns.Text.Padding

/-!
# Reports of the shell

This file writes what the shell shows: the records found by a lookup, the events of its work, and
the live contents of the cache.  Everything is laid out in columns.
-/

namespace IterativeDns.Report

/-! ## Results -/

/-- One line about a query: name, type, time to live and data in columns. -/
def line (query : Query) (ttl data : String) : String :=
  " ".intercalate [Text.padRight 30 query.name.shown, Text.padRight 5 query.type.text,
    Text.padRight 8 ttl, data]

/-- The line about a record found for a query. -/
def recordLine (query : Query) (record : Record) : String :=
  line query (Text.decimal record.ttl.toNat) record.data.text

/-- The line that stands for no records. -/
def placeholder (query : Query) : String := line query "-1" "0.0.0.0"

/-- The lines about the records found for a query; there is always one. -/
def results (query : Query) : List Record → List String
  | [] => [placeholder query]
  | records => records.map (recordLine query)

/-! ## Events -/

/-- The line about a record in a response. -/
def responseLine (record : Record) : String :=
  "       " ++ " ".intercalate [Text.padRight 30 record.name.shown,
    Text.padRight 10 (Text.decimal record.ttl.toNat), Text.padRight 4 record.type.text,
    record.data.text]

/-- The lines about a section of a response: its heading and its records. -/
def sectionLines (message : Message) (part : Section) : List String :=
  let records := message.recordsOf part
  ("  " ++ part.title ++ " (" ++ Text.decimal records.length ++ ")") ::
    records.map responseLine

/-- The lines about an event. -/
def event : TraceEvent → List String
  | .querySent id query server _ =>
    ["", "", "Query ID     " ++ Text.decimal id.toNat ++ " " ++ query.name.shown ++ "  " ++
      query.type.text ++ " --> " ++ server.text]
  | .response _ message =>
    ("Response ID: " ++ Text.decimal message.id.toNat ++ " Authoritative = " ++
      (if message.isAuthoritative then "true" else "false")) ::
    Section.all.flatMap (sectionLines message)
  | .failed query reason => ["Lookup of " ++ query.text ++ " failed: " ++ reason.message]

/-! ## The cache -/

/-- The live records that are filed under a query, in the order of their data. -/
def liveRecords (cache : Cache) (now : Instant) (key : Query) : List Record :=
  (((cache.filed key).filter (·.isLive now)).map (·.record)).mergeSort fun a b =>
    a.data.text ≤ b.data.text

/-- The queries under which live records are filed, in their order. -/
def liveKeys (cache : Cache) (now : Instant) : List Query :=
  (cache.keys.filter fun key => !(liveRecords cache now key).isEmpty).mergeSort Query.le

/-- The lines about the live contents of the cache. -/
def dump (cache : Cache) (now : Instant) : List String :=
  (liveKeys cache now).flatMap fun key => results key (liveRecords cache now key)

end IterativeDns.Report
