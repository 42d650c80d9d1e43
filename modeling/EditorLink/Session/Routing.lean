import EditorLink.Message.Incoming
import EditorLink.Session.State

/-!
# EditorLink — acting on what comes in

Each decoded value is acted on in the order in which it came.

* `settleResponse` — an answer goes to the caller that waits for it;
* `perform` — the reaction of the handler to a request or a notification is carried out at once, and its
  task, if there is one, is started;
* `receive`, `Admission.carryOut` — one value, up to the call of the handler and behind it;
* `readNext`, `heedClose` — the next value of the reader, and a wish to end the session;
* `read`, `readAll` — whichever of them it is time for, and all that have come;
* `stop` — the end of reading: no caller waits any longer.
-/

namespace EditorLink.Session

open Correlation (Outcome)
open Message (CallFault ErrorObject Malformed RequestId)

/-- Whether a task waits for the answer to a request. -/
def Worker.isAsking (w : Worker) (id : Nat) : Bool :=
  match w.progress with
  | .asking ticket _ => ticket.id == id
  | _ => false

namespace State

variable {σ : Type}

/-- Gives the waiting tasks that are chosen a turn. -/
def wake (s : State σ) (chosen : Worker → Bool) : State σ :=
  { s with
    turns := s.turns ++ (s.blocked.filter chosen).map .task
    blocked := s.blocked.filter fun w => !chosen w }

/-- Delivers an answer to the caller of a request. -/
def settle (s : State σ) (id : Nat) (outcome : Outcome) : Except CallFault (State σ) :=
  (s.desk.settle id outcome).map fun desk => { s with desk }.wake (·.isAsking id)

/-- The end of reading, and why: all callers are told that the connection is gone. -/
def stop (s : State σ) (outcome : Except CallFault Unit) : State σ :=
  { s with phase := .draining outcome, desk := s.desk.closeAll.2 }.wake fun w =>
    match w.progress with
    | .asking _ _ => true
    | _ => false

def passOver (s : State σ) (fault : CallFault) : Except CallFault (State σ) :=
  if s.config.strictResponses then .error fault else .ok s

def settleResponse (s : State σ) (id : Json) (outcome : Except ErrorObject Json) :
    Except CallFault (State σ) :=
  match id.natural? with
  | none => s.passOver (.unknownId id)
  | some n =>
    match s.settle n (outcome.mapError .remote) with
    | .ok s => .ok s
    | .error fault => s.passOver fault

/-- Carries out a reaction. The crash of a handler is told to the sender of a request. -/
def perform (replyTo : Option RequestId) (s : State σ) : Reaction → State σ
  | .silent => s
  | .crash message => s.report replyTo (.error (.handlerFailed message))
  | .start task => { s with turns := s.turns ++ [.task ⟨replyTo, .ready task⟩] }
  | .notify method params next =>
    let (sent, s) := s.notify method params
    perform replyTo s (next sent)
  | .close next => perform replyTo s.close next

/-- What acting on a value comes to at first. -/
inductive Admission (σ : Type) where
  /-- A response was settled. -/
  | settled (s : State σ)
  /-- A response that nobody waits for ends the session. -/
  | violated (s : State σ) (fault : CallFault)
  /-- The value is no message, and its sender is to be told. -/
  | refused (s : State σ) (malformed : Malformed)
  /-- The handler was called, and its reaction is to be carried out. -/
  | called (s : State σ) (replyTo : Option RequestId) (reaction : Reaction)

def call (handler : Handler σ) (s : State σ) (replyTo : Option RequestId) (method : String)
    (params : Json) : Admission σ :=
  let (reaction, memory) := handler s.memory method params
  .called ({ s with memory }.record (.called method params)) replyTo reaction

def receive (handler : Handler σ) (s : State σ) (value : Json) : Admission σ :=
  let s := s.record (.routed value)
  match Message.classify value with
  | .ok (.response id outcome) =>
    match s.settleResponse id outcome with
    | .ok s => .settled s
    -- such a response changes nothing
    | .error fault => .violated s fault
  | .ok (.request id method params) => s.call handler (some id) method params
  | .ok (.notification method params) => s.call handler none method params
  | .error malformed => .refused s malformed

/-- What reading once comes to. -/
inductive ReadStep (σ : Type) where
  /-- A value was acted on; more may have come. -/
  | routed (s : State σ)
  /-- There is nothing to read for now, or ever. -/
  | rested (s : State σ)

/-- Carries out what is left to do. -/
def Admission.carryOut : Admission σ → ReadStep σ
  | .settled s => .routed s
  | .violated s fault => .rested (s.stop (.error fault))
  | .refused s malformed =>
    .routed (s.report malformed.id (.error (.invalidRequest malformed.fault.message)))
  | .called s replyTo reaction => .routed (perform replyTo s reaction)

/-- Heeds a wish to end the session. -/
def heedClose (s : State σ) : State σ := { s with closeAsked := false }.stop (.ok ())

/-- Acts on the next value that has come, or notices the end. -/
def readNext (handler : Handler σ) (s : State σ) : ReadStep σ :=
  match s.reader.next with
  | (.frame value, reader) => ({ s with reader }.receive handler value).carryOut
  | (.fault fault, reader) => .rested ({ s with reader }.stop (.error (.frame fault)))
  | (.ended, reader) => .rested ({ s with reader }.stop (.ok ()))
  | (.waiting, reader) => .rested { s with reader }

/-- Goes on with reading. Somebody's wish to end the session is heeded first. -/
def read (handler : Handler σ) (s : State σ) : ReadStep σ :=
  if s.closeAsked then .rested s.heedClose else s.readNext handler

/-- Acts on all values that have come; each takes at least one byte, so the bytes at hand bound their
number. -/
def readAll (handler : Handler σ) : (fuel : Nat) → State σ → State σ
  | 0, s => s
  | fuel + 1, s =>
    match s.phase with
    | .reading =>
      match s.read handler with
      | .routed s => readAll handler fuel s
      | .rested s => s
    | _ => s

/-- A bound on the values that can still be read. -/
def unread (s : State σ) : Nat := s.reader.decoder.buffered + s.reader.source.size

end State
end EditorLink.Session
