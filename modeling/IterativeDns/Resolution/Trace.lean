import IterativeDns.Message
import IterativeDns.Resolution.Error

/-!
# Tracing

This file holds what a resolver reports about its work while it is verbose, and the mailboxes of
those who subscribed to the reports.
-/

namespace IterativeDns

/-- A report of a resolver about its work. -/
inductive TraceEvent where
  /-- A query is about to be sent to a server; attempts count from zero. -/
  | querySent (id : UInt16) (query : Query) (server : IpAddress) (attempt : Nat)
  /-- A server sent a message that was accepted. -/
  | response (server : IpAddress) (message : Message)
  /-- A lookup failed. -/
  | failed (query : Query) (reason : ResolutionError)
deriving DecidableEq, Repr

/-- Who is told about the work of a resolver, and whether anyone is. -/
structure Tracer where
  /-- Events are reported. -/
  verbose : Bool := false
  /-- The events that each subscriber has not collected yet, the oldest first; a subscriber who
  left has no mailbox. -/
  mailboxes : List (Option (List TraceEvent)) := []
deriving DecidableEq, Repr

namespace Tracer

/-- Someone is told about events. -/
def isHeard (tracer : Tracer) : Bool := tracer.verbose && tracer.mailboxes.any (·.isSome)

/-- Puts an event into every mailbox. -/
def deliver (event : TraceEvent) (tracer : Tracer) : Tracer :=
  { tracer with mailboxes := tracer.mailboxes.map (·.map (· ++ [event])) }

/-- Adds a subscriber, whose number is the second component. -/
def subscribe (tracer : Tracer) : Tracer × Nat :=
  ({ tracer with mailboxes := tracer.mailboxes ++ [some []] }, tracer.mailboxes.length)

/-- Removes a subscriber. -/
def unsubscribe (subscriber : Nat) (tracer : Tracer) : Tracer :=
  { tracer with mailboxes := tracer.mailboxes.set subscriber none }

/-- The events in the mailbox of a subscriber. -/
def mail (subscriber : Nat) (tracer : Tracer) : List TraceEvent :=
  (tracer.mailboxes[subscriber]?.join).getD []

/-- Takes the events out of the mailbox of a subscriber. -/
def collect (subscriber : Nat) (tracer : Tracer) : List TraceEvent × Tracer :=
  (tracer.mail subscriber,
    { tracer with
      mailboxes := tracer.mailboxes.modify subscriber fun mailbox => mailbox.map fun _ => [] })

end Tracer

end IterativeDns
