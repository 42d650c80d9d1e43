import EditorLink.Session.State

/-!
# EditorLink — running tasks

A task runs until it has to wait or is done. What a task comes to is told to the sender of the request
behind which it runs; behind a notification nobody is told.

* `advance` — runs a program as far as it goes;
* `runWorker` — the turn of a task.
-/

namespace EditorLink.Session

open Message (RequestId)

namespace State

variable {σ : Type}

/-- Runs a program until it waits, which is answered with where it stands, or is done. -/
def advance (replyTo : Option RequestId) : Task → State σ → State σ × Option Progress
  | .finish result, s => (s.report replyTo (.ok result), none)
  | .fail fault, s => (s.report replyTo (.error (.ofHandlerFault fault)), none)
  | .crash message, s => (s.report replyTo (.error (.handlerFailed message)), none)
  | .notify method params next, s =>
    let (sent, s) := s.notify method params
    advance replyTo (next sent) s
  | .ask method params next, s =>
    let (ticket, s) := s.ask method params
    match s.poll ticket with
    | (some outcome, _, s) => advance replyTo (next outcome) s
    | (none, ticket, s) => (s, some (.asking ticket next))
  | .wait gate next, s => (s, some (.held gate next))
  | .close next, s => advance replyTo next s.close

/-- Lets a task go on from where it stands. -/
def resume (s : State σ) (replyTo : Option RequestId) : Progress → State σ × Option Progress
  | .ready task => advance replyTo task s
  | .held gate next => (s, some (.held gate next))
  | .asking ticket next =>
    match s.poll ticket with
    | (some outcome, _, s) => advance replyTo (next outcome) s
    | (none, ticket, s) => (s, some (.asking ticket next))

/-- The turn of a task; if it has to wait it goes behind those that wait already. -/
def runWorker (s : State σ) (w : Worker) : State σ :=
  match s.resume w.replyTo w.progress with
  | (s, none) => s
  | (s, some progress) => { s with blocked := s.blocked ++ [⟨w.replyTo, progress⟩] }

end State
end EditorLink.Session
