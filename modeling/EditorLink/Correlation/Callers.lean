import EditorLink.Correlation.Ticket

/-!
# EditorLink — callers at a desk

Callers that make requests at one desk, under one clock. A caller holds a bare receipt, which only shows
what was delivered, or a ticket.
-/

namespace EditorLink.Correlation

open Message (CallFault)

inductive Held where
  | receipt
  | ticket (t : Ticket)

inductive Told where
  | outcome (outcome : Outcome)
  | pending
  /-- A receipt for which no outcome will come. -/
  | dropped
  /-- Nothing is held for this id. -/
  | gone

/-- A desk, a clock, and what callers hold. -/
structure Callers where
  desk : Desk := {}
  now : Nat := 0
  held : List (Nat × Held) := []

namespace Callers

/-- Makes `count` requests with bare receipts; answers with the last id. -/
def register : (count : Nat) → Callers → Option Nat × Callers
  | 0, c => (none, c)
  | count + 1, c =>
    let (id, desk) := c.desk.register
    let c := { c with desk, held := (id, .receipt) :: c.held }
    match register count c with
    | (none, c) => (some id, c)
    | (last, c) => (last, c)

def registerTicket (c : Callers) (timeout : Option Span) : Nat × Callers :=
  let (id, desk) := c.desk.register
  (id, { c with desk, held := (id, .ticket (.issue id c.now timeout)) :: c.held })

def settle (c : Callers) (id : Nat) (outcome : Outcome) : Except CallFault Unit × Callers :=
  match c.desk.settle id outcome with
  | .ok desk => (.ok (), { c with desk })
  | .error fault => (.error fault, c)

/-- The callers of these requests give up, one after the other. -/
def abandon (c : Callers) (ids : List Nat) : Callers :=
  { c with desk := ids.foldl Desk.abandon c.desk }

/-- Answers each of these requests with null; tells for which that was possible. -/
def probe (c : Callers) (ids : List Nat) : List Nat × Callers :=
  let (found, c) := ids.foldl (fun (found, c) id =>
    match settle c id (.ok .null) with
    | (.ok (), c) => (id :: found, c)
    | (.error _, c) => (found, c)) (([] : List Nat), c)
  (found.reverse, c)

def discard (c : Callers) (id : Nat) : Bool × Callers :=
  match c.held.lookup id with
  | none => (false, c)
  | some held =>
    let desk := match held with
      | .receipt => c.desk
      | .ticket t => t.discard c.desk
    (true, { c with desk, held := c.held.filter (·.1 != id) })

/-- Asks what has become of a request. A ticket stays, a receipt goes with its last word. -/
def poll (c : Callers) (id : Nat) : Told × Callers :=
  match c.held.lookup id with
  | none => (.gone, c)
  | some .receipt =>
    let forgotten := c.held.filter (·.1 != id)
    match c.desk.collect id with
    | (.delivered outcome, desk) => (.outcome outcome, { c with desk, held := forgotten })
    | (.waiting, desk) => (.pending, { c with desk })
    | (.lost, desk) => (.dropped, { c with desk, held := forgotten })
  | some (.ticket t) =>
    let (outcome, t, desk) := t.poll c.now c.desk
    let held := c.held.map fun (i, h) => if i == id then (i, .ticket t) else (i, h)
    (match outcome with
      | some outcome => .outcome outcome
      | none => .pending, { c with desk, held })

def advance (c : Callers) (span : Span) : Callers := { c with now := c.now + span.nanos }

/-- Tells all callers that the connection is gone; answers with their number. -/
def closeAll (c : Callers) : Nat × Callers :=
  let (count, desk) := c.desk.closeAll
  (count, { c with desk })

end Callers
end EditorLink.Correlation
