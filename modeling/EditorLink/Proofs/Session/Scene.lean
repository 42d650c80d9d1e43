import EditorLink.Proofs.Session.Errands
import EditorLink.Proofs.Session.Simulation

/-!
# EditorLink — a session with those outside

Those outside take part in a session by what they can do with it: something arrives, time passes, somebody asks
the other side, waits, goes away, or wants the session to end. Whoever asks holds a ticket of its own and
takes the steps of its request.

The interleaving lets those outside do anything at any time, also with tickets that nobody gave to them. A scene knows
who holds which ticket: each caller has its own, got it from the session, and uses it up. That is what a theorem about
requests needs, and every scene is a run of the interleaving (`Plays.runs`), so that what holds in all runs holds in
all scenes.

Nothing is assumed of when callers take their steps. A caller may get its ticket and never send, ask with its ticket at
any time, and go away once its frame was queued or refused; time may pass between any two steps, or not at all.

What is left out:

* what callers do with the outcomes. Whoever is told an outcome is gone from the scene, and makes another request as
  another caller;
* a caller that goes away in the middle of sending. Sending is a call that returns before its caller can do anything
  else, although others may take their steps meanwhile;
* which bytes the sink takes. That is up to the writer's steps, and may depend on nothing.

A condition on every moment of a play is part of its definition (`Plays`), so that a theorem can be about an other side
that always behaves, or about a session that is never disturbed.

## Results

* `Scene` — a session, those outside who ask something, and what has arrived so far;
* `Inner`, `Happens` — what a session does by itself, and what happens in a scene;
* `Plays` — any number of things, with a condition that holds at every moment;
* `Happens.step`, `Plays.runs` — a scene is a run of the interleaving;
* `Deed`, `Scene.act`, `Scene.play` — scenes that can be tried out, and `plays_of_play`.
-/

namespace EditorLink.Session

open Message (CallFault)

variable {σ : Type}

/-- A session with all that goes on in it, the requests of those outside, and what has arrived, in order. -/
structure Scene (σ : Type) extends World σ where
  callers : List Errand := []
  arrived : List Framing.Arrival := []

def Scene.create (config : Config) (memory : σ) : Scene σ := { toWorld := World.create config memory }

-- ---------------------------------------------------------------------------
-- What happens
-- ---------------------------------------------------------------------------

/-- What a session does by itself, once it is there. -/
inductive Inner (handler : Handler σ) : World σ → World σ → Prop
  | start (w : World σ) : Inner handler w { w with state := w.state.start }
  | abort (w : World σ) : Inner handler w { w with state := w.state.abort }
  | write {w : World σ} {s : State σ} (hrunning : w.state.isRunning = true)
    (hwrite : Writing w.state s) : Inner handler w { w with state := s }
  | await {w : World σ} {reader : Framing.FrameReader} (hphase : w.state.phase = .reading)
    (hloop : w.loop = .waiting) (hnext : w.state.reader.next = (.waiting, reader)) :
    Inner handler w { w with state := { w.state with reader } }
  | receive {w : World σ} {value : Json} {reader : Framing.FrameReader}
    (hphase : w.state.phase = .reading) (hloop : w.loop = .waiting)
    (hnext : w.state.reader.next = (.frame value, reader)) :
    Inner handler w ({ w with state := { w.state with reader } }.receive handler value)
  | cease {w : World σ} {s : State σ} {outcome : Except CallFault Unit}
    (hphase : w.state.phase = .reading) (hloop : w.loop = .waiting)
    (hcease : Ceases w.state s outcome) :
    Inner handler w { w with state := s, loop := .leaving outcome }
  | react {w : World σ} {t : Thread} (hloop : w.loop = .busy t) :
    Inner handler w
      ({ w with toCourse := (t.proceed w.toCourse).1 }.follow (t.proceed w.toCourse).2)
  | leave {w : World σ} {outcome : Except CallFault Unit} (hloop : w.loop = .leaving outcome) :
    Inner handler w { w with state := w.state.stop outcome, loop := .waiting }
  | proceed {w : World σ} {t : Thread} {front behind : List Thread}
    (hthreads : w.threads = front ++ t :: behind) :
    Inner handler w
      { w with
        toCourse := (t.proceed w.toCourse).1
        threads := front ++ (t.proceed w.toCourse).2.toList ++ behind }
  | drain {w : World σ} {outcome : Except CallFault Unit}
    (hphase : w.state.phase = .draining outcome) (hthreads : w.threads = []) :
    Inner handler w { w with state := w.state.beginFlushing outcome }
  | finish (w : World σ) : Inner handler w { w with state := w.state.finishFlushing }

/-- What is left of a request behind one of its steps. -/
def Errand.Next.errand? : Next → Option Errand
  | .goesOn e => some e
  | .done _ => none

/-- What happens in a scene. -/
inductive Happens (handler : Handler σ) : Scene σ → Scene σ → Prop
  | inner {sc : Scene σ} {w : World σ} (hinner : Inner handler sc.toWorld w) :
    Happens handler sc { sc with toWorld := w }
  | arrive (sc : Scene σ) (a : Framing.Arrival) :
    Happens handler sc { sc with state := sc.state.arrive a, arrived := sc.arrived ++ [a] }
  | meet (sc : Scene σ) (peer : Peer) : Happens handler sc { sc with state := { sc.state with peer } }
  | elapse (sc : Scene σ) (nanos : Nat) :
    Happens handler sc { sc with state := { sc.state with now := sc.state.now + nanos } }
  | close (sc : Scene σ) : Happens handler sc { sc with state := sc.state.close }
  | notify (sc : Scene σ) (method : String) (params : Json) :
    Happens handler sc { sc with toCourse := (sc.say .outside (.notification method params)).2 }
  /-- Somebody gets a ticket for a request, which it is going to send. -/
  | call (sc : Scene σ) (method : String) (params : Json) :
    Happens handler sc { sc with
      state := sc.state.issue.2
      callers := .requesting sc.state.issue.1 method params :: sc.callers }
  | carry {sc : Scene σ} {e : Errand} {front behind : List Errand}
    (hcallers : sc.callers = front ++ e :: behind) :
    Happens handler sc { sc with
      toCourse := (e.proceed .outside sc.toCourse).1
      callers := front ++ (e.proceed .outside sc.toCourse).2.errand?.toList ++ behind }
  /-- Somebody who waits for an outcome goes away. -/
  | drop {sc : Scene σ} {ticket : Correlation.Ticket} {front behind : List Errand}
    (hcallers : sc.callers = front ++ .asking ticket :: behind) :
    Happens handler sc
      { sc with state := sc.state.discard ticket, callers := front ++ behind }

/-- Any number of things that happen, behind each of which the condition holds. -/
abbrev Plays (handler : Handler σ) (holds : Scene σ → Prop) : Scene σ → Scene σ → Prop :=
  Relation.ReflTransGen fun sc sc' => Happens handler sc sc' ∧ holds sc'

-- ---------------------------------------------------------------------------
-- The interleaving
-- ---------------------------------------------------------------------------

variable {handler : Handler σ} {w w' : World σ} {sc sc' : Scene σ}

/-- What a session does by itself is a step of the interleaving. -/
theorem Inner.step (h : Inner handler w w') : Step handler w w' := by
  cases h with
  | start => exact .start w
  | abort => exact .abort w
  | write hrunning hwrite => exact .write hrunning hwrite
  | await hphase hloop hnext => exact .await hphase hloop hnext
  | receive hphase hloop hnext => exact .receive hphase hloop hnext
  | cease hphase hloop hcease => exact .cease hphase hloop hcease
  | react hloop => exact .react hloop
  | leave hloop => exact .leave hloop
  | proceed hthreads => exact .proceed hthreads
  | drain hphase hthreads => exact .drain hphase hthreads
  | finish => exact .finish w

/-- A step of a request from outside is a step of the interleaving. -/
theorem Errand.step (e : Errand) (w : World σ) :
    Step handler w { w with toCourse := (e.proceed .outside w.toCourse).1 } := by
  cases e with
  | requesting ticket method params =>
    rw [proceed_requesting]
    exact .say rfl
  | refused ticket fault => exact .outer (.refuse w.state ticket.id fault)
  | asking ticket =>
    rw [proceed_asking_outside]
    exact .outer (.poll w.state ticket)

/-- **What happens in a scene** is a step of the interleaving. -/
theorem Happens.step (h : Happens handler sc sc') : Step handler sc.toWorld sc'.toWorld := by
  cases h with
  | inner hinner => exact hinner.step
  | arrive a => exact .outer (.arrive sc.state a)
  | meet peer => exact .outer (.meet sc.state peer)
  | elapse nanos => exact .outer (.elapse sc.state nanos)
  | close => exact .outer (.close sc.state)
  | notify method params => exact .say rfl
  | call method params => exact .outer (.issue sc.state)
  | @carry e front behind hcallers => exact e.step sc.toWorld
  | @drop ticket front behind hcallers => exact .outer (.discard sc.state ticket)

/-- **A scene** is a run of the interleaving. -/
theorem Plays.runs {holds : Scene σ → Prop} (h : Plays handler holds sc sc') :
    Runs handler sc.toWorld sc'.toWorld := by
  induction h with
  | refl => exact .refl
  | tail _ hlast ih => exact ih.tail hlast.1.step

-- ---------------------------------------------------------------------------
-- Trying out
-- ---------------------------------------------------------------------------

/-- Something that can be tried in a scene. Threads and callers are named by their places. -/
inductive Deed where
  | start
  | take
  | push (n : Nat)
  | flush
  | fail (reason : String)
  /-- The read loop takes its next step. -/
  | read
  | heed
  | proceed (k : Nat)
  | drain
  | finish
  | arrive (a : Framing.Arrival)
  | elapse (nanos : Nat)
  | call (method : String) (params : Json)
  | carry (k : Nat)
  | drop (k : Nat)

/-- The writer is let go on. -/
def World.writing (w : World σ) (f : State σ → State σ) : Option (World σ) :=
  if w.state.isRunning then some { w with state := f w.state } else none

/-- The read loop takes its next step, if there is one. -/
def World.reads (handler : Handler σ) (w : World σ) : Option (World σ) :=
  match w.loop, w.state.phase with
  | .busy t, _ =>
    let (c, t) := t.proceed w.toCourse
    some ({ w with toCourse := c }.follow t)
  | .leaving outcome, _ => some { w with state := w.state.stop outcome, loop := .waiting }
  | .waiting, .reading =>
    match w.state.reader.next with
    | (.frame value, reader) => some ({ w with state := { w.state with reader } }.receive handler value)
    | (.fault fault, reader) =>
      some { w with state := { w.state with reader }, loop := .leaving (.error (.frame fault)) }
    | (.ended, reader) => some { w with state := { w.state with reader }, loop := .leaving (.ok ()) }
    | (.waiting, reader) => some { w with state := { w.state with reader } }
  | _, _ => none

def Scene.act (handler : Handler σ) (sc : Scene σ) : Deed → Option (Scene σ)
  | .start => some { sc with state := sc.state.start }
  | .take => (sc.writing State.takeCommand).map fun w => { sc with toWorld := w }
  | .push n => (sc.writing (·.push n)).map fun w => { sc with toWorld := w }
  | .flush => (sc.writing State.flush).map fun w => { sc with toWorld := w }
  | .fail reason =>
    match sc.state.writer with
    | .writing _ => (sc.writing (·.failWrite reason)).map fun w => { sc with toWorld := w }
    | _ => none
  | .read => (sc.reads handler).map fun w => { sc with toWorld := w }
  | .heed =>
    match sc.loop, sc.state.phase, sc.state.closeAsked with
    | .waiting, .reading, true =>
      some { sc with state := { sc.state with closeAsked := false }, loop := .leaving (.ok ()) }
    | _, _, _ => none
  | .proceed k =>
    match sc.threads.drop k with
    | t :: behind =>
      let (c, t) := t.proceed sc.toCourse
      some { sc with toCourse := c, threads := sc.threads.take k ++ t.toList ++ behind }
    | [] => none
  | .drain =>
    match sc.state.phase, sc.threads with
    | .draining outcome, [] => some { sc with state := sc.state.beginFlushing outcome }
    | _, _ => none
  | .finish => some { sc with state := sc.state.finishFlushing }
  | .arrive a => some { sc with state := sc.state.arrive a, arrived := sc.arrived ++ [a] }
  | .elapse nanos => some { sc with state := { sc.state with now := sc.state.now + nanos } }
  | .call method params =>
    some { sc with
      state := sc.state.issue.2
      callers := .requesting sc.state.issue.1 method params :: sc.callers }
  | .carry k =>
    match sc.callers.drop k with
    | e :: behind =>
      let (c, next) := e.proceed .outside sc.toCourse
      some { sc with toCourse := c, callers := sc.callers.take k ++ next.errand?.toList ++ behind }
    | [] => none
  | .drop k =>
    match sc.callers.drop k with
    | .asking ticket :: behind =>
      some { sc with state := sc.state.discard ticket, callers := sc.callers.take k ++ behind }
    | _ => none

/-- One deed after the other, as long as they can be done and the condition holds behind each. -/
def Scene.play (handler : Handler σ) (holds : Scene σ → Bool) : List Deed → Scene σ → Option (Scene σ)
  | [], sc => some sc
  | deed :: rest, sc =>
    match sc.act handler deed with
    | some sc' => if holds sc' then play handler holds rest sc' else none
    | none => none

/-- A step of the writer that can be tried out is one that can happen. -/
theorem inner_of_writing {f : State σ → State σ} (hf : Writing w.state (f w.state))
    (h : w.writing f = some w') : Inner handler w w' := by
  rw [World.writing] at h
  split at h
  · rename_i hrunning
    cases h
    exact .write hrunning hf
  · cases h

/-- So is a step of the read loop. -/
theorem inner_of_reads (h : w.reads handler = some w') : Inner handler w w' := by
  rw [World.reads] at h
  split at h
  · rename_i hloop
    cases h
    exact .react hloop
  · rename_i hloop
    cases h
    exact .leave hloop
  · rename_i hloop hphase
    split at h <;> rename_i hnext <;> cases h
    · exact .receive hphase hloop hnext
    · exact .cease hphase hloop (.fault hnext)
    · exact .cease hphase hloop (.ended hnext)
    · exact .await hphase hloop hnext
  · cases h

/-- Who stands at a place has some before it and some behind it. -/
theorem eq_of_drop {α : Type} {xs behind : List α} {x : α} {k : Nat} (h : xs.drop k = x :: behind) :
    xs = xs.take k ++ x :: behind := by
  rw [← h, List.take_append_drop]

/-- **A deed that can be done** is something that happens. -/
theorem happens_of_act {deed : Deed} (h : sc.act handler deed = some sc') :
    Happens handler sc sc' := by
  have hinner : ∀ {x : Option (World σ)}, (∀ w, x = some w → Inner handler sc.toWorld w) →
      (x.map fun w => { sc with toWorld := w }) = some sc' → Happens handler sc sc' := by
    intro x hx h
    obtain ⟨w, hw, rfl⟩ := Option.map_eq_some_iff.mp h
    exact .inner (hx w hw)
  cases deed with
  | start => cases h; exact .inner (.start _)
  | take => exact hinner (fun w hw => inner_of_writing (.take _) hw) h
  | push n => exact hinner (fun w hw => inner_of_writing (.push _ n) hw) h
  | flush => exact hinner (fun w hw => inner_of_writing (.flush _) hw) h
  | fail reason =>
    rw [Scene.act] at h
    split at h
    · rename_i hwriting
      exact hinner (fun w hw => inner_of_writing (.fail hwriting reason) hw) h
    · cases h
  | read => exact hinner (fun w hw => inner_of_reads hw) h
  | heed =>
    rw [Scene.act] at h
    split at h
    · rename_i hloop hphase hasked
      cases h
      exact .inner (.cease hphase hloop (.closed hasked))
    · cases h
  | proceed k =>
    rw [Scene.act] at h
    split at h
    · rename_i hdrop
      cases h
      exact .inner (.proceed (eq_of_drop hdrop))
    · cases h
  | drain =>
    rw [Scene.act] at h
    split at h
    · rename_i hphase hthreads
      cases h
      exact .inner (.drain hphase hthreads)
    · cases h
  | finish => cases h; exact .inner (.finish _)
  | arrive a => cases h; exact .arrive sc a
  | elapse nanos => cases h; exact .elapse sc nanos
  | call method params => cases h; exact .call sc method params
  | carry k =>
    rw [Scene.act] at h
    split at h
    · rename_i hdrop
      cases h
      exact .carry (eq_of_drop hdrop)
    · cases h
  | drop k =>
    rw [Scene.act] at h
    split at h
    · rename_i hdrop
      cases h
      exact .drop (eq_of_drop hdrop)
    · cases h

/-- **What is played** plays. -/
theorem plays_of_play {check : Scene σ → Bool} {holds : Scene σ → Prop}
    (hholds : ∀ {sc}, check sc = true → holds sc) {deeds : List Deed}
    (h : sc.play handler check deeds = some sc') : Plays handler holds sc sc' := by
  induction deeds generalizing sc with
  | nil =>
    cases h
    exact .refl
  | cons deed rest ih =>
    rw [Scene.play] at h
    split at h
    · rename_i hact
      split at h
      · rename_i hcheck
        exact .head ⟨happens_of_act hact, hholds hcheck⟩ (ih h)
      · cases h
    · cases h

end EditorLink.Session
