import EditorLink.Correlation.Ticket
import EditorLink.Framing.Encoder
import EditorLink.Framing.Source
import EditorLink.Message.Outgoing
import EditorLink.Session.Handler

/-!
# EditorLink — the state of a session

A session joins a reader of frames, a desk of requests, the tasks of a handler, and a writer that takes
frames from a queue. This module holds the state and the operations that any part of a session may use:
sending, asking, answering.

* `Phase` — what the session is about: reading, then waiting for its tasks, then for its writer;
* `Writer` — where the writer stands in its queue;
* `State` — all of it, with a history of what happened;
* `Turn` — tasks and the writer have their turns one after the other;
* `State.send`, `State.notify`, `State.ask` — sending;
* `State.respond`, `State.report` — answering.

Nothing is sent when the writer is gone.
-/

namespace EditorLink.Session

open Correlation (Desk Ticket Delivery Outcome)
open Message (CallFault ErrorObject Outgoing RequestId)

structure Config where
  name : String := "cls"
  maxFrameBytes : Nat := Framing.defaultMaxFrameBytes
  requestTimeout : Option Span := none
  /-- Whether a response that nobody waits for ends the session. -/
  strictResponses : Bool := false
  deriving Repr, DecidableEq

inductive Phase where
  | idle
  /-- It was given up before it was started. -/
  | discarded
  | reading
  /-- It reads no more and waits for its tasks. -/
  | draining (outcome : Except CallFault Unit)
  /-- Its tasks are done and it waits for its writer. -/
  | flushing (outcome : Except CallFault Unit)
  | ended (result : Except CallFault Unit)

inductive Command where
  | send (frame : Bytes)
  | stop
  deriving Repr, DecidableEq

inductive Writer where
  /-- It takes the next command when there is one. -/
  | ready
  /-- It is in the middle of a frame, of which these bytes are left. -/
  | writing (left : Bytes)
  | stopped
  | failed (fault : Framing.Fault)
  | crashed
  deriving Repr, DecidableEq

/-- How the other side takes what is written to it. -/
inductive Peer where
  | listening
  | failing (reason : String)
  /-- The next write crashes the writer. -/
  | breaking
  deriving Repr, DecidableEq

inductive Progress where
  | ready (task : Task)
  | asking (ticket : Ticket) (next : Except CallFault Json → Task)
  | held (gate : String) (next : Task)

/-- A task, and the request that it answers; there is none behind a notification. -/
structure Worker where
  replyTo : Option RequestId
  progress : Progress

/-- Who has its turn. -/
inductive Turn where
  | task (worker : Worker)
  | writer

def Turn.isWriter : Turn → Bool
  | .task _ => false
  | .writer => true

/-- Something that happened in a session. -/
inductive Event where
  /-- A decoded value was acted on. -/
  | routed (value : Json)
  /-- The handler was called. -/
  | called (method : String) (params : Json)
  | queued (frame : Bytes)
  /-- The other side took these bytes. -/
  | wrote (bytes : Bytes)

/-- The state of a session whose handler remembers a `σ`. -/
structure State (σ : Type) where
  config : Config
  memory : σ
  phase : Phase := .idle
  reader : Framing.FrameReader
  desk : Desk := {}
  /-- The clock, in nanoseconds. -/
  now : Nat := 0
  /-- The tasks that can go on, and the writer if it has something to do, in the order of their turns. -/
  turns : List Turn := []
  /-- Tasks that wait, in the order in which they began to. -/
  blocked : List Worker := []
  queue : List Command := []
  writer : Writer := .ready
  peer : Peer := .listening
  /-- Somebody asked for the end of the session. -/
  closeAsked : Bool := false
  /-- What happened, the latest first. -/
  history : List Event := []

namespace State

variable {σ : Type}

/-- A session that was not started. -/
def create (config : Config) (memory : σ) : State σ :=
  { config, memory, reader := { decoder := Framing.Decoder.withLimit config.maxFrameBytes } }

def record (s : State σ) (e : Event) : State σ := { s with history := e :: s.history }

def accepting (s : State σ) : Bool :=
  match s.phase, s.writer with
  | .discarded, _ => false
  | _, .ready => true
  | _, .writing _ => true
  | _, _ => false

/-- Gives the writer a turn, unless it has one or the session was not started. -/
def wakeWriter (s : State σ) : State σ :=
  match s.phase with
  | .idle => s
  | _ => if s.turns.any Turn.isWriter then s else { s with turns := s.turns ++ [.writer] }

/-- Puts a command into the queue of the writer, if the writer takes commands. -/
def command (s : State σ) (c : Command) : State σ :=
  if s.accepting then { s with queue := s.queue ++ [c] }.wakeWriter else s

/-- Puts a frame into the queue, or says that the connection is gone. -/
def enqueue (s : State σ) (frame : Bytes) : Except CallFault Unit × State σ :=
  if s.accepting then (.ok (), (s.command (.send frame)).record (.queued frame))
  else (.error .closed, s)

def send (s : State σ) (m : Outgoing) : Except CallFault Unit × State σ :=
  s.enqueue (Framing.encode m.toJson)

def notify (s : State σ) (method : String) (params : Json) : Except CallFault Unit × State σ :=
  s.send (.notification method params)

/-- Gives out the ticket of a request that is not yet sent. -/
def issue (s : State σ) : Ticket × State σ :=
  let (id, desk) := s.desk.register
  (Ticket.issue id s.now s.config.requestTimeout, { s with desk })

/-- The outcome of a request that could not be sent is delivered at once, if it was not before. -/
def refuse (s : State σ) (id : Nat) (fault : CallFault) : State σ :=
  match s.desk.settle id (.error fault) with
  | .ok desk => { s with desk }
  | .error _ => s

/-- Sends the request of a ticket. -/
def dispatch (s : State σ) (id : Nat) (method : String) (params : Json) : State σ :=
  match s.send (.request id method params) with
  | (.ok (), s) => s
  | (.error fault, s) => s.refuse id fault

def ask (s : State σ) (method : String) (params : Json) : Ticket × State σ :=
  let (ticket, s) := s.issue
  (ticket, s.dispatch ticket.id method params)

/-- Answers a request; an answer that cannot be sent is dropped. -/
def respond (s : State σ) (id : RequestId) (outcome : Except ErrorObject Json) : State σ :=
  (s.send (.response id outcome)).2

/-- Answers the request, if there is one. -/
def report (s : State σ) (replyTo : Option RequestId) (outcome : Except ErrorObject Json) : State σ :=
  match replyTo with
  | some id => s.respond id outcome
  | none => s

/-- Asks for the outcome of a ticket. -/
def poll (s : State σ) (ticket : Ticket) : Option Outcome × Ticket × State σ :=
  let (outcome, ticket, desk) := ticket.poll s.now s.desk
  (outcome, ticket, { s with desk })

/-- The caller of a request goes away. -/
def discard (s : State σ) (ticket : Ticket) : State σ := { s with desk := ticket.discard s.desk }

def close (s : State σ) : State σ := { s with closeAsked := true }

/-- How many of our requests are waited for. -/
def pending (s : State σ) : Nat := s.desk.table.size

end State
end EditorLink.Session
