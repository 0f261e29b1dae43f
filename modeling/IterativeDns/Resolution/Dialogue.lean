import IterativeDns.Resolution.Trace

/-!
# Dialogues with the network

This file holds lookups as dialogues: what a resolver asks of the outside, and how it goes on for
every reply.  The outside draws identifiers at random and carries datagrams.  A dialogue also notes
the steps that it takes, which no reply depends on.  A dialogue can be held with a network that is
given as a function of its own state, and leaves a transcript behind.  The main fact is that the
transcript of two dialogues in a row is that of the first followed by that of the second.
-/

namespace IterativeDns

/-! ## What is exchanged -/

/-- A datagram for a server and how long its reply is waited for. -/
structure Request where
  /-- The server. -/
  server : Endpoint
  /-- The octets of the datagram. -/
  payload : Octets
  /-- The milliseconds to wait for the reply. -/
  patience : Nat
deriving DecidableEq, Repr

/-- What comes of sending a datagram. -/
inductive Reply where
  /-- A datagram comes back. -/
  | datagram (payload : Octets)
  /-- Sending or receiving fails. -/
  | failure (error : TransportError)
deriving DecidableEq, Repr

/-- A reply and the time that passes before it comes. -/
inductive Delivery where
  /-- No reply ever comes. -/
  | never
  /-- The reply comes after a number of milliseconds. -/
  | after (delay : Nat) (reply : Reply)
deriving DecidableEq, Repr

/-- How a delivery looks to someone who waits only as long as a request says: the milliseconds
that pass, and the reply, which is a failure if none comes in time. -/
def Delivery.awaited (request : Request) : Delivery → Nat × Reply
  | never => (request.patience, .failure (.timeout request.server))
  | after delay reply =>
    if delay ≤ request.patience then (delay, reply)
    else (request.patience, .failure (.timeout request.server))

/-! ## Steps of a lookup -/

/-- Why a query is being resolved. -/
inductive Purpose where
  /-- It is the query of the lookup. -/
  | lookup
  /-- A server was referred to for the query. -/
  | referral
  /-- Its name is what an alias stands for. -/
  | aliasTarget
  /-- Its name is that of a nameserver without a known address. -/
  | nameserver
deriving DecidableEq, Repr

/-- The resolution of a query at a server, within a lookup. -/
structure Visit where
  /-- Why the query is being resolved. -/
  purpose : Purpose
  /-- The query. -/
  query : Query
  /-- The server. -/
  server : IpAddress
  /-- How many aliases and nameservers are being looked up around it. -/
  depth : Nat
  /-- How many referrals led to the server. -/
  referrals : Nat
deriving DecidableEq, Repr

/-- A step of a lookup. -/
inductive Step where
  /-- The resolution of a query at a server begins. -/
  | entered (visit : Visit)
  /-- The resolution of a query at a server ends. -/
  | left (visit : Visit) (answer : Answer)
  /-- A server sent a message that was accepted for a query. -/
  | accepted (query : Query) (server : IpAddress) (message : Message)
  /-- An event was reported. -/
  | traced (event : TraceEvent)

/-! ## Dialogues -/

/-- A program that talks to the network and ends with a value. -/
inductive Dialogue (α : Type) where
  /-- The end, with a value. -/
  | done (value : α)
  /-- An identifier is drawn at random. -/
  | drawId (next : UInt16 → Dialogue α)
  /-- A datagram is sent and its reply awaited. -/
  | exchange (request : Request) (next : Delivery → Dialogue α)
  /-- A step is noted. -/
  | note (step : Step) (next : Dialogue α)

namespace Dialogue

variable {α β γ : Type}

/-- One dialogue after the other. -/
def bind : Dialogue α → (α → Dialogue β) → Dialogue β
  | done value, rest => rest value
  | drawId next, rest => drawId fun id => (next id).bind rest
  | exchange request next, rest => exchange request fun delivery => (next delivery).bind rest
  | note step next, rest => note step (next.bind rest)

instance : Monad Dialogue where
  pure := done
  bind := bind

@[simp] theorem pure_eq (value : α) : (pure value : Dialogue α) = done value := rfl

@[simp] theorem bind_eq (first : Dialogue α) (rest : α → Dialogue β) :
    first >>= rest = first.bind rest := rfl

@[simp] theorem done_bind (value : α) (rest : α → Dialogue β) :
    (done value).bind rest = rest value := rfl

theorem bind_done (first : Dialogue α) : first.bind done = first := by
  induction first with
  | done value => rfl
  | drawId next ih => exact congrArg drawId (funext ih)
  | exchange request next ih => exact congrArg (exchange request) (funext ih)
  | note step next ih => exact congrArg (note step) ih

theorem bind_assoc (first : Dialogue α) (second : α → Dialogue β) (third : β → Dialogue γ) :
    (first.bind second).bind third = first.bind fun value => (second value).bind third := by
  induction first with
  | done value => rfl
  | drawId next ih => exact congrArg drawId (funext ih)
  | exchange request next ih => exact congrArg (exchange request) (funext ih)
  | note step next ih => exact congrArg (note step) ih

instance : LawfulMonad Dialogue :=
  LawfulMonad.mk' Dialogue bind_done (fun _ _ => rfl) bind_assoc

end Dialogue

/-! ## Holding a dialogue -/

/-- A network that a dialogue can be held with, as functions of its state. -/
structure Network (σ : Type) where
  /-- Draws an identifier. -/
  drawId : σ → UInt16 × σ
  /-- Carries a datagram. -/
  deliver : σ → Request → Delivery × σ

/-- One entry of a transcript. -/
inductive Entry where
  /-- An identifier was drawn. -/
  | drew (id : UInt16)
  /-- A datagram was sent, and this came of it. -/
  | exchanged (request : Request) (delivery : Delivery)
  /-- A step was noted. -/
  | noted (step : Step)

/-- All that happened in a dialogue, in order. -/
abbrev Transcript := List Entry

/-- A dialogue that was held. -/
structure Held (σ α : Type) where
  /-- The value at the end. -/
  value : α
  /-- What happened. -/
  transcript : Transcript
  /-- The state in which the network is left. -/
  network : σ

/-- The same dialogue with an entry before its transcript. -/
def Held.after {σ α : Type} (entry : Entry) (held : Held σ α) : Held σ α :=
  { held with transcript := entry :: held.transcript }

namespace Dialogue

variable {σ α β : Type}

/-- Holds a dialogue with a network. -/
def hold (network : Network σ) : Dialogue α → σ → Held σ α
  | done value, state => ⟨value, [], state⟩
  | drawId next, state =>
    let (id, state) := network.drawId state
    ((next id).hold network state).after (.drew id)
  | exchange request next, state =>
    let (delivery, state) := network.deliver state request
    ((next delivery).hold network state).after (.exchanged request delivery)
  | note step next, state => (next.hold network state).after (.noted step)

/-- Two dialogues in a row are held one after the other. -/
theorem hold_bind (network : Network σ) (first : Dialogue α) (rest : α → Dialogue β)
    (state : σ) :
    (first.bind rest).hold network state =
      let held := first.hold network state
      let heldRest := (rest held.value).hold network held.network
      ⟨heldRest.value, held.transcript ++ heldRest.transcript, heldRest.network⟩ := by
  induction first generalizing state with
  | done value => rfl
  | drawId next ih => simp only [bind, hold, Held.after, ih, List.cons_append]
  | exchange request next ih => simp only [bind, hold, Held.after, ih, List.cons_append]
  | note step next ih => simp only [bind, hold, Held.after, ih, List.cons_append]

end Dialogue

end IterativeDns
