import EditorLink.Session.Routing
import EditorLink.Session.Working
import EditorLink.Session.Writing

/-!
# EditorLink — a session until it rests

All that can happen in a session without something new from outside: values are read, then tasks and the
writer have their turns. The end of reading lets the tasks run that waited for answers; when no task is left
the writer is told to stop, and its end is the end of the session.

* `takeTurns` — the turns of those that had one;
* `settleRound` — reading and turns, once;
* `finishDraining`, `finishFlushing` — the steps of the end;
* `rest` — rounds until nothing changes.
-/

namespace EditorLink.Session

open Message (CallFault)

namespace State

variable {σ : Type}

/-- Whether the session was started and is not over. -/
def isRunning (s : State σ) : Bool :=
  match s.phase with
  | .reading => true
  | .draining _ => true
  | .flushing _ => true
  | _ => false

/-- One turn. The writer carries out all commands in its queue. -/
def takeTurn (s : State σ) : Turn → State σ
  | .task worker => s.runWorker worker
  | .writer => s.writeAll s.queue.length

/-- The turns of those that had one. What they cause has its turn later. -/
def takeTurns (s : State σ) : State σ := s.turns.foldl takeTurn { s with turns := [] }

/-- The writer is told to stop. -/
def beginFlushing (s : State σ) (outcome : Except CallFault Unit) : State σ :=
  { s with phase := .flushing outcome }.command .stop

/-- When no task is left, the writer is told to stop. -/
def finishDraining (s : State σ) : State σ :=
  match s.phase with
  | .draining outcome =>
    if s.turns.isEmpty && s.blocked.isEmpty then s.beginFlushing outcome else s
  | _ => s

/-- How a session ends whose reading ended well, by the end of its writer; nothing as long as it goes
on. -/
def Writer.verdict? : Writer → Option (Except CallFault Unit)
  | .stopped => some (.ok ())
  | .failed fault => some (.error (.frame fault))
  | .crashed => some (.error .closed)
  | _ => none

/-- When the writer is at its end, the session is over. An earlier fault comes before one of the
writer. -/
def finishFlushing (s : State σ) : State σ :=
  match s.phase, Writer.verdict? s.writer with
  | .flushing (.error fault), some _ => { s with phase := .ended (.error fault) }
  | .flushing (.ok ()), some verdict => { s with phase := .ended verdict }
  | _, _ => s

/-- Reading and turns, once. Tasks cause no turn but that of the writer, which causes none. -/
def settleRound (handler : Handler σ) (s : State σ) : State σ :=
  let s := s.readAll handler (s.unread + 2)
  -- the second time for the writer, whom the tasks may have given something to do
  let s := s.takeTurns.takeTurns.finishDraining
  -- once more for the command to stop
  s.takeTurns.finishFlushing

/-- How many rounds are made: one for what came, one for a wish to end the session or a write that
failed in it, and one more, after which nothing is left to do. -/
def maxRounds : Nat := 3

/-- Rounds until the session rests. -/
def restWithin (handler : Handler σ) : (rounds : Nat) → State σ → State σ
  | 0, s => s
  | rounds + 1, s => if s.isRunning then restWithin handler rounds (s.settleRound handler) else s

/-- All that can happen without something new from outside. -/
def rest (handler : Handler σ) (s : State σ) : State σ := s.restWithin handler maxRounds

end State
end EditorLink.Session
