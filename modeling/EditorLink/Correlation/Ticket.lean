import EditorLink.Correlation.Table

/-!
# EditorLink — waiting for an answer

A `Desk` is a table of requests together with the outcomes that were delivered and not yet collected. A
caller holds a `Ticket` for its request and asks with it; a ticket may have a time after which it is
worthless.

* `Desk.collect` — what has become of a request;
* `Ticket.poll` — an outcome if there is one: what was delivered comes before the lapse of time;
* `Ticket.discard` — the caller goes away.
-/

namespace EditorLink.Correlation

open Message (CallFault)

/-- A table, and the outcomes that were not yet collected. -/
structure Desk where
  table : Table := {}
  uncollected : List Delivery := []

/-- What has become of a request. -/
inductive Receipt where
  | delivered (outcome : Outcome)
  | waiting
  /-- No outcome was delivered, and none will be. -/
  | lost

namespace Desk

/-- Takes in what the table delivers. -/
def take (d : Desk) (deliveries : List Delivery) (table : Table) : Desk :=
  { table, uncollected := deliveries ++ d.uncollected }

def register (d : Desk) : Nat × Desk :=
  let (id, deliveries, table) := d.table.register
  (id, d.take deliveries table)

def settle (d : Desk) (id : Nat) (outcome : Outcome) : Except CallFault Desk :=
  (d.table.settle id outcome).map fun (deliveries, table) => d.take deliveries table

def abandon (d : Desk) (id : Nat) : Desk := { d with table := d.table.abandon id }

/-- Tells all callers that the connection is gone. Answers with their number. -/
def closeAll (d : Desk) : Nat × Desk :=
  let (deliveries, table) := d.table.closeAll
  (deliveries.length, d.take deliveries table)

/-- What has become of a request; an outcome is collected once. -/
def collect (d : Desk) (id : Nat) : Receipt × Desk :=
  match d.uncollected.find? (·.id == id) with
  | some delivery =>
    (.delivered delivery.outcome, { d with uncollected := d.uncollected.filter (·.id != id) })
  | none => (if d.table.waiting.contains id then .waiting else .lost, d)

end Desk

/-- When a ticket lapses, on the clock of the connection, and how long it was good for. -/
structure Deadline where
  due : Nat
  after : Span
  deriving Repr, DecidableEq

/-- What the caller of a request holds. -/
structure Ticket where
  id : Nat
  deadline : Option Deadline := none
  /-- An outcome was handed out. -/
  done : Bool := false
  deriving Repr, DecidableEq

namespace Ticket

def issue (id now : Nat) (timeout : Option Span) : Ticket :=
  { id, deadline := timeout.map fun after => ⟨now + after.nanos, after⟩ }

def isDue (t : Ticket) (now : Nat) : Bool := t.deadline.any (·.due ≤ now)

/-- Asks for the outcome at `now`. A ticket gives one outcome; after that the connection counts as
gone. -/
def poll (t : Ticket) (now : Nat) (d : Desk) : Option Outcome × Ticket × Desk :=
  if t.done then (some (.error .closed), t, d)
  else
    match d.collect t.id with
    | (.delivered outcome, d) => (some outcome, { t with done := true }, d)
    | (.lost, d) => (some (.error .closed), { t with done := true }, d)
    | (.waiting, d) =>
      match t.deadline with
      | some deadline =>
        if deadline.due ≤ now then
          (some (.error (.timedOut t.id deadline.after)), { t with done := true }, d.abandon t.id)
        else (none, t, d)
      | none => (none, t, d)

/-- The caller goes away: a request without an outcome is given up. -/
def discard (t : Ticket) (d : Desk) : Desk := if t.done then d else d.abandon t.id

end Ticket
end EditorLink.Correlation
