import EditorLink.Session.State

/-!
# EditorLink — the writer of a session

The writer takes one command after the other. A frame is written in pieces as the other side takes them;
when a write fails the writer is gone, and the session is asked to end.

* `takeCommand`, `push`, `flush` — the steps of a writer whose peer listens;
* `failWrite`, `crashWrite` — the ends of a writer;
* `write`, `writeAll` — all steps that one command, or the whole queue, leads to.
-/

namespace EditorLink.Session
namespace State

variable {σ : Type}

/-- The writer takes the next command. After the one to stop nothing is taken. -/
def takeCommand (s : State σ) : State σ :=
  match s.writer, s.queue with
  | .ready, .send frame :: queue => { s with writer := .writing frame, queue }
  | .ready, .stop :: _ => { s with writer := .stopped, queue := [] }
  | _, _ => s

/-- The other side takes at most `n` bytes of the frame that is being written. -/
def push (s : State σ) (n : Nat) : State σ :=
  match s.writer with
  | .writing left =>
    { s with writer := .writing (left.drop n) }.record (.wrote (left.take n))
  | _ => s

/-- A frame that was written to its end makes room for the next command. -/
def flush (s : State σ) : State σ :=
  match s.writer with
  | .writing [] => { s with writer := .ready }
  | _ => s

/-- A write or a flush fails: the writer is gone, what was queued is lost, and the session is asked to
end. -/
def failWrite (s : State σ) (reason : String) : State σ :=
  { s with writer := .failed (.stream reason), queue := [], closeAsked := true }

/-- The writer crashes: what was queued is lost, and nobody notices. -/
def crashWrite (s : State σ) : State σ := { s with writer := .crashed, queue := [] }

def write (s : State σ) : State σ :=
  let s := s.takeCommand
  match s.writer with
  | .writing left =>
    match s.peer with
    | .listening => (s.push left.length).flush
    | .failing reason => s.failWrite reason
    | .breaking => s.crashWrite
  | _ => s

/-- Carries out the commands in the queue. -/
def writeAll : (fuel : Nat) → State σ → State σ
  | 0, s => s
  | fuel + 1, s => if s.queue.isEmpty then s else writeAll fuel s.write

end State
end EditorLink.Session
