import EditorLink.Session.Schedule

/-!
# EditorLink — what reaches a session from outside

* `start`, `abort` — a session is started, or given up before that;
* `feed`, `endInput`, `failInput` — what the other side sends;
* `failWrites`, `breakWriter`, `hangUp` — how the other side takes what is written;
* `elapse` — time passes;
* `release` — a gate opens for those who wait at it.
-/

namespace EditorLink.Session

/-- When a waiting task is due, if it waits for an answer that has to come in time. -/
def Worker.due? (w : Worker) : Option Nat :=
  match w.progress with
  | .asking ticket _ => ticket.deadline.map (·.due)
  | _ => none

/-- Whether a waiting task waits for an answer that has not come in time. -/
def Worker.isDue (now : Nat) (w : Worker) : Bool := w.due?.any (· ≤ now)

/-- A task that waits at an open gate can go on. -/
def Worker.released (gate : String) (w : Worker) : Option Worker :=
  match w.progress with
  | .held name next => if name == gate then some { w with progress := .ready next } else none
  | _ => none

namespace State

variable {σ : Type}

def start (s : State σ) : State σ :=
  match s.phase with
  | .idle => { s with phase := .reading }.wakeWriter
  | _ => s

/-- Gives up a session that was not started: what was queued is lost. -/
def abort (s : State σ) : State σ :=
  match s.phase with
  | .idle => { s with phase := .discarded, queue := [] }
  | _ => s

/-- Something arrives at the source. -/
def arrive (s : State σ) (a : Framing.Arrival) : State σ :=
  { s with reader := { s.reader with source := s.reader.source ++ [a] } }

def feed (s : State σ) (bytes : Bytes) : State σ := s.arrive (.data bytes)

def endInput (s : State σ) : State σ := s.arrive .ended

def failInput (s : State σ) (reason : String) : State σ := s.arrive (.failed reason)

def failWrites (s : State σ) (reason : String) : State σ := { s with peer := .failing reason }

def breakWriter (s : State σ) : State σ := { s with peer := .breaking }

/-- The other side is gone: it sends nothing more, and writes fail. -/
def hangUp (s : State σ) : State σ := s.endInput.failWrites "broken pipe"

/-- Time passes. Tasks whose answers have not come in time can go on, the earliest first. -/
def elapse (s : State σ) (span : Span) : State σ :=
  let now := s.now + span.nanos
  let due := (s.blocked.filter (·.isDue now)).mergeSort fun a b => a.due?.getD 0 ≤ b.due?.getD 0
  { s with now, turns := s.turns ++ due.map .task, blocked := s.blocked.filter fun w => !w.isDue now }

/-- Opens a gate for the tasks that wait at it now. -/
def release (s : State σ) (gate : String) : State σ :=
  { s with
    turns := s.turns ++ (s.blocked.filterMap (·.released gate)).map .task
    blocked := s.blocked.filter fun w => (w.released gate).isNone }

end State
end EditorLink.Session
