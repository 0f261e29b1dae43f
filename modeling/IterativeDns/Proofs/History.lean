import IterativeDns.Resolution.Resolver
import Mathlib.Algebra.GroupWithZero.Nat

/-!
# Histories of a resolver

A resolver lives through many lookups.  Its history puts their transcripts one after the other,
with the time that passes between them, and this file reads off a history what a resolver ought to
know at its end: which messages arrived, and when.

* `Request.answer?` — the message that answers a request.  Nothing but the octets that were sent and
  the octets that came back in time decides about it.
* `History.arrivals` — the messages that arrived, with their moments, and `Cache.learned`, the
  cache that holds exactly their records.
* `Memory.Recalls` — the memory of a resolver agrees with a history.  It is the invariant that all
  parts of a lookup keep; here are the steps from which they are made.
-/

namespace IterativeDns

/-! ## What happens to a resolver -/

/-- Something that happens to a resolver. -/
inductive Occurrence where
  /-- An entry of the transcript of a lookup. -/
  | entry (entry : Entry)
  /-- Time that passes between lookups. -/
  | idle (milliseconds : Nat)

/-- All that happened to a resolver, the oldest first. -/
abbrev History := List Occurrence

/-- A transcript as a history. -/
def Transcript.history (transcript : Transcript) : History := transcript.map .entry

/-- The identifier that the datagram of a request carries. -/
def Request.id (request : Request) : UInt16 :=
  UInt16.ofNat (Octets.toNat (request.payload.take 2))

/-- The message that answers a request: a datagram came in time and holds a whole message, which is
a response and carries the identifier of the request. -/
def Request.answer? (request : Request) (delivery : Delivery) : Option Message :=
  match (delivery.awaited request).2 with
  | .failure _ => none
  | .datagram payload =>
    match Message.decode payload with
    | .error _ => none
    | .ok message =>
      if message.header.flags.isResponse = true ∧ message.id = request.id then some message
      else none

namespace Occurrence

/-- Something was sent. -/
def isExchange : Occurrence → Bool
  | entry (.exchanged _ _) => true
  | _ => false

/-- The milliseconds that pass. -/
def elapsed : Occurrence → Nat
  | entry (.exchanged request delivery) => (delivery.awaited request).1
  | entry _ => 0
  | idle milliseconds => milliseconds

/-- The message that arrives. -/
def answer? : Occurrence → Option Message
  | entry (.exchanged request delivery) => request.answer? delivery
  | _ => none

end Occurrence

/-- A message and the moment at which it arrived. -/
structure Arrival where
  /-- The message. -/
  message : Message
  /-- The moment. -/
  moment : Instant

/-- The cache after the records of messages were stored in it, one message after the other. -/
def Cache.learned (cache : Cache) (arrivals : List Arrival) : Cache :=
  arrivals.foldl (fun cache arrival => cache.insertAll arrival.message.records arrival.moment) cache

namespace History

/-- The milliseconds that passed. -/
def elapsed (past : History) : Nat := (past.map Occurrence.elapsed).sum

/-- The messages that arrived in a history that began at a moment, the oldest first. -/
def arrivals : Instant → History → List Arrival
  | _, [] => []
  | start, first :: rest =>
    let now := start + first.elapsed
    (first.answer?.map (⟨·, now⟩)).toList ++ arrivals now rest

/-- The message that came of what was sent last. -/
def latest? (past : History) : Option Message :=
  (past.reverse.find? Occurrence.isExchange).bind Occurrence.answer?

/-- A history split where something happens. -/
theorem eq_take_append_cons_drop {past : History} {moment : Nat} {occurrence : Occurrence}
    (h : past[moment]? = some occurrence) :
    past = past.take moment ++ occurrence :: past.drop (moment + 1) := by
  obtain ⟨hmoment, rfl⟩ := List.getElem?_eq_some_iff.1 h
  rw [← List.drop_eq_getElem_cons hmoment, List.take_append_drop]

/-! ## Histories in a row -/

@[simp] theorem elapsed_nil : elapsed [] = 0 := rfl

@[simp] theorem elapsed_append (past next : History) :
    (past ++ next).elapsed = past.elapsed + next.elapsed := by
  simp [elapsed]

@[simp] theorem elapsed_singleton (occurrence : Occurrence) :
    elapsed [occurrence] = occurrence.elapsed := by
  simp [elapsed]

@[simp] theorem arrivals_nil (start : Instant) : arrivals start [] = [] := rfl

theorem arrivals_append (start : Instant) (past next : History) :
    arrivals start (past ++ next) =
      arrivals start past ++ arrivals (start + past.elapsed) next := by
  induction past generalizing start with
  | nil => simp
  | cons first rest ih =>
    simp only [List.cons_append, arrivals, ih, List.append_assoc]
    congr 3
    simp [elapsed, Int.add_assoc]

theorem arrivals_singleton (start : Instant) (occurrence : Occurrence) :
    arrivals start [occurrence] =
      (occurrence.answer?.map (⟨·, start + occurrence.elapsed⟩)).toList := by
  simp [arrivals]

/-- What was sent last decides, whatever was noted since. -/
theorem latest?_append_of_forall {past next : History}
    (hnext : ∀ occurrence ∈ next, occurrence.isExchange = false) :
    (past ++ next).latest? = past.latest? := by
  have hnone : next.reverse.find? Occurrence.isExchange = none :=
    List.find?_eq_none.2 fun occurrence hmem => by
      simp [hnext occurrence (List.mem_reverse.1 hmem)]
  simp [latest?, List.find?_append, hnone]

theorem latest?_append_exchanged (past : History) (request : Request) (delivery : Delivery) :
    latest? (past ++ [.entry (.exchanged request delivery)]) = request.answer? delivery := by
  rw [latest?, List.reverse_append, List.reverse_singleton, List.singleton_append,
    List.find?_cons_of_pos (by rfl)]
  rfl

end History

end IterativeDns
