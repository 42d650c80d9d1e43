import EditorLink.Session.Environment

/-!
# EditorLink — a session under observation

Callers outside a session send requests through it and wait for the answers in the background. After each
action the session runs until it rests; a `Report` tells what came of it.
-/

namespace EditorLink.Session

open Correlation (Outcome Ticket)
open Message (CallFault)

structure Caller where
  /-- The number of the action in which it sent its request. -/
  since : Nat
  ticket : Ticket
  /-- Whether the caller knows the id of its request. -/
  knowsId : Bool
  /-- What the caller makes of a result. -/
  view : Json → Except CallFault Json

/-- Whether a caller knows its request by an id. -/
def Caller.knows (c : Caller) (id : Nat) : Bool := c.knowsId && c.ticket.id == id

structure Settled where
  since : Nat
  id : Option Nat
  outcome : Outcome

/-- What an action led to. -/
structure Report where
  calls : List (String × Json)
  frames : List Bytes
  settled : List Settled
  phase : Phase
  pending : Nat

/-- A session and the callers outside it. -/
structure Observed (σ : Type) where
  state : State σ
  callers : List Caller := []
  /-- How many actions there were. -/
  actions : Nat := 0

namespace Observed

variable {σ : Type}

def modify (o : Observed σ) (f : State σ → State σ) : Observed σ := { o with state := f o.state }

/-- Sends a request and lets a caller wait for it; answers with the id. -/
def ask (o : Observed σ) (method : String) (params : Json) (knowsId : Bool)
    (view : Json → Except CallFault Json) : Nat × Observed σ :=
  let (ticket, state) := o.state.ask method params
  (ticket.id, { o with state, callers := o.callers ++ [⟨o.actions, ticket, knowsId, view⟩] })

def notify (o : Observed σ) (method : String) (params : Json) : Except CallFault Unit × Observed σ :=
  let (sent, state) := o.state.notify method params
  (sent, { o with state })

/-- The caller that knows its request by an id goes away. -/
def discard (o : Observed σ) (id : Nat) : Observed σ :=
  match o.callers.find? (·.knows id) with
  | some caller =>
    { o with
      state := o.state.discard caller.ticket
      callers := o.callers.filter fun c => !c.knows id }
  | none => o

/-- Lets each caller ask for its outcome; those that have one go. -/
def collect (o : Observed σ) : List Settled × Observed σ :=
  let (settled, callers, state) := o.callers.foldl (fun (settled, callers, state) caller =>
    match state.poll caller.ticket with
    | (some outcome, _, state) =>
      let id := if caller.knowsId then some caller.ticket.id else none
      (⟨caller.since, id, outcome.bind caller.view⟩ :: settled, callers, state)
    | (none, ticket, state) => (settled, { caller with ticket } :: callers, state))
    (([] : List Settled), ([] : List Caller), o.state)
  (settled.reverse, { o with callers := callers.reverse, state })

/-- The events behind the first `count`, the earliest first. -/
def since (count : Nat) (history : List Event) : List Event :=
  (history.take (history.length - count)).reverse

def call? : Event → Option (String × Json)
  | .called method params => some (method, params)
  | _ => none

def wrote? : Event → Option Bytes
  | .wrote bytes => some bytes
  | _ => none

/-- Lets the session rest after an action that started when `before` events had happened. Callers ask for
their outcomes before, since a request may have no time at all, and after. -/
def settle (handler : Handler σ) (before : Nat) (o : Observed σ) : Report × Observed σ :=
  let (early, o) := o.collect
  let (late, o) := (o.modify (·.rest handler)).collect
  let events := since before o.state.history
  ({ calls := events.filterMap call?
     frames := events.filterMap wrote?
     settled := (early ++ late).mergeSort fun a b => a.since ≤ b.since
     phase := o.state.phase
     pending := o.state.pending },
    { o with actions := o.actions + 1 })

end Observed
end EditorLink.Session
