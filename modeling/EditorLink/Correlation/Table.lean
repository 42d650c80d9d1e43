import EditorLink.Message.CallFault

/-!
# EditorLink — which requests are waited for

Each request of ours gets an id, counted from zero. The table knows the ids whose callers wait for an
answer, and those whose callers gave up, so that a late answer to them is no surprise.

* `register` — the next id;
* `settle` — an answer: it is delivered to the caller that waits, dropped for a caller that gave up, and
  refused otherwise;
* `abandon` — a caller gives up;
* `closeAll` — nobody is answered any more.

An operation says what it delivers; who collects it is not the matter of the table.
-/

namespace EditorLink.Correlation

open Message (CallFault)

abbrev Outcome := Except CallFault Json

/-- An outcome for the caller of a request. -/
structure Delivery where
  id : Nat
  outcome : Outcome

/-- The ids that are waited for and those that were given up. -/
structure Table where
  nextId : Nat := 0
  /-- Callers wait for an answer to these, the latest first. -/
  waiting : List Nat := []
  /-- Callers gave these up, ascending. -/
  abandoned : List Nat := []
  closed : Bool := false
  deriving Repr, DecidableEq

/-- How many ids of callers that gave up are kept. -/
def maxAbandoned : Nat := 1024

/-- Adds an id to ascending ids. -/
def insertAscending (id : Nat) : List Nat → List Nat
  | [] => [id]
  | i :: rest =>
    if id < i then id :: i :: rest
    else if id = i then i :: rest
    else i :: insertAscending id rest

/-- Adds an id to those given up. If there are too many, the smallest is forgotten. -/
def remember (id : Nat) (abandoned : List Nat) : List Nat :=
  let ids := insertAscending id abandoned
  if maxAbandoned < ids.length then ids.drop 1 else ids

namespace Table

def size (t : Table) : Nat := t.waiting.length

/-- Gives out the next id. A closed table lets nobody wait: the id is answered at once. -/
def register (t : Table) : Nat × List Delivery × Table :=
  let id := t.nextId
  if t.closed then (id, [⟨id, .error .closed⟩], { t with nextId := id + 1 })
  else (id, [], { t with nextId := id + 1, waiting := id :: t.waiting })

def settle (t : Table) (id : Nat) (outcome : Outcome) : Except CallFault (List Delivery × Table) :=
  if t.waiting.contains id then .ok ([⟨id, outcome⟩], { t with waiting := t.waiting.erase id })
  else if t.abandoned.contains id then .ok ([], { t with abandoned := t.abandoned.erase id })
  else .error (.unknownId (.int id))

/-- The caller of a request gives up; nothing happens if it does not wait. -/
def abandon (t : Table) (id : Nat) : Table :=
  if t.waiting.contains id then
    { t with waiting := t.waiting.erase id, abandoned := remember id t.abandoned }
  else t

/-- Tells all callers that the connection is gone, earliest first, and lets nobody wait again. -/
def closeAll (t : Table) : List Delivery × Table :=
  (t.waiting.reverse.map fun id => ⟨id, .error .closed⟩,
    { t with waiting := [], abandoned := [], closed := true })

end Table
end EditorLink.Correlation
