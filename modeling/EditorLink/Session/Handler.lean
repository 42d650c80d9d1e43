import EditorLink.Message.CallFault

/-!
# EditorLink — handlers

A handler says how a session reacts to the requests and notifications of the other side.

* `Task` — what goes on behind a message: a program that may send notifications, ask the other side and
  wait for its answer, wait at a gate, ask for the end of the session, and finally finishes, fails or
  crashes;
* `Reaction` — what happens at once when a message comes in, up to the start of a task;
* `Handler` — the reaction to each message, with a state of its own.

The state may be anything, such as the list of all reactions to come. So it is no restriction that
tasks do not share it with their handler: what a task reads there can be decided beforehand.
-/

namespace EditorLink.Session

open Message (CallFault HandlerFault)

/-- A program that runs behind a message. -/
inductive Task where
  | finish (result : Json)
  | fail (fault : HandlerFault)
  | crash (message : String)
  | notify (method : String) (params : Json) (next : Except CallFault Unit → Task)
  | ask (method : String) (params : Json) (next : Except CallFault Json → Task)
  | wait (gate : String) (next : Task)
  | close (next : Task)

/-- What happens at once when a message comes in. -/
inductive Reaction where
  /-- Nothing more, and no answer. -/
  | silent
  | crash (message : String)
  | start (task : Task)
  | notify (method : String) (params : Json) (next : Except CallFault Unit → Reaction)
  | close (next : Reaction)

/-- How messages are reacted to, given what the handler remembers. -/
abbrev Handler (σ : Type) := σ → String → Json → Reaction × σ

/-- What the other side is told of a crash that left no words. -/
def crashWords : String := "handler panicked"

end EditorLink.Session
