import EditorLink.Proofs.Session.Standing
import Mathlib.Logic.Relation

/-!
# EditorLink — all orders in which things can happen

`State.rest` lets a session run in one order. Here the read loop, each task, the writer and those
outside take their steps in any order, one access to what they share at a time. A task that waits at
a gate may go on whenever it likes, a read may find any arrival, a write may take any number of
bytes and may fail.

What is one step: to take in a value and to call the handler for it, or to settle it at the desk; each thing that a
reaction or a task does, one by one; to give out a ticket, to queue a frame, to undo a registration, to ask with a
ticket, each for itself, so that a request is several steps and anything may come between them; to take a command,
to write some bytes, to flush. No step is forced: whoever can go on may go on, and may as well never do so.

What is left out:

* who is woken by whom. A task may take a step at any time, so that there are more orders here than in a session that
  runs; what holds in all of them holds in those;
* fairness, and with it every claim that something happens in the end. Results about an end are for runs that have
  one;
* a run that is dropped while it is under way. A session can be given up before it is started (`State.abort`), and else
  comes to its end by its own steps;
* what tasks and handler share besides what they say. A handler remembers what its calls leave to it, and its tasks do
  not change that.

A course notes what was said by whom, what messages came to, and what those who handle them were told. No step reads
these notes back; they are there for the theorems.

## Results

* `Saying`, `Concluded`, `Telling` — who said what, what each message came to, and who was told what;
* `Thread.proceed` — one step of the handling of a message;
* `Step`, `Runs` — one step of anybody, and any number of them;
* `Stage.ComesTo` — what the handling of a message may still come to, whatever it is told;
* `proceed_cases` — a step of a thread moves on, says something, or concludes.
-/

namespace EditorLink.Message

def Outgoing.isResponse : Outgoing → Bool
  | .response _ _ => true
  | _ => false

end EditorLink.Message

namespace EditorLink.Session

open Correlation (Outcome Ticket)
open Message (CallFault ErrorObject HandlerFault MessageFault Outgoing RequestId)

-- ---------------------------------------------------------------------------
-- What is noted
-- ---------------------------------------------------------------------------

/-- A value that was taken in, how many there were before it, and how the handler reacted, if it was
called. -/
structure Occurrence where
  number : Nat
  value : Json
  reaction : Option Reaction

/-- The value that is taken in next. -/
def Intake.upcoming {σ : Type} (handler : Handler σ) (i : Intake σ) (value : Json) : Occurrence :=
  ⟨i.routed.length, value, (handler.meet i.memory value).1⟩

inductive Origin where
  /-- Whoever handles this message. -/
  | message (o : Occurrence)
  | outside

/-- A message that somebody wants to go out. -/
structure Saying where
  origin : Origin
  message : Outgoing

def Saying.frame (m : Saying) : Bytes := Framing.encode m.message.toJson

/-- What the handling of a message came to. -/
inductive Conclusion where
  | settled
  | refused (fault : MessageFault)
  | silent
  | crashed (message : String)
  | finished (result : Json)
  | failed (fault : HandlerFault)

/-- What is told of a conclusion, if somebody is to be told. -/
def Conclusion.answer? : Conclusion → Option (Except ErrorObject Json)
  | .settled => none
  | .refused fault => some (.error (.invalidRequest fault.message))
  | .silent => none
  | .crashed message => some (.error (.handlerFailed message))
  | .finished result => some (.ok result)
  | .failed fault => some (.error (.ofHandlerFault fault))

structure Concluded where
  occurrence : Occurrence
  conclusion : Conclusion

/-- Whoever handles a message asked with a ticket at some time, and was told what came of its
request. -/
structure Telling where
  occurrence : Occurrence
  ticket : Ticket
  outcome : Outcome
  /-- The clock of the session at that moment. -/
  time : Nat

/-- A session, what was said in it, what its messages came to, and what those who handle them were
told, each in order. -/
structure Course (σ : Type) where
  state : State σ
  said : List Saying := []
  concluded : List Concluded := []
  told : List Telling := []

namespace Course

variable {σ : Type}

def say (c : Course σ) (origin : Origin) (m : Outgoing) : Except CallFault Unit × Course σ :=
  let (sent, state) := c.state.send m
  (sent, { c with state, said := c.said ++ [⟨origin, m⟩] })

def note (c : Course σ) (o : Occurrence) (k : Conclusion) : Course σ :=
  { c with concluded := c.concluded ++ [⟨o, k⟩] }

/-- Somebody is told the outcome of a request; of those outside it is not noted. -/
def tell (c : Course σ) (origin : Origin) (ticket : Ticket) (outcome : Outcome) : Course σ :=
  match origin with
  | .message o => { c with told := c.told ++ [⟨o, ticket, outcome, c.state.now⟩] }
  | .outside => c

/-- Concludes the handling of a message and answers it. -/
def conclude (c : Course σ) (o : Occurrence) (replyTo : Option RequestId) (k : Conclusion) :
    Course σ :=
  match replyTo, k.answer? with
  | some id, some outcome => ((c.note o k).say (.message o) (.response id outcome)).2
  | _, _ => c.note o k

/-- Saying something leaves the phase alone. -/
theorem phase_say (c : Course σ) (origin : Origin) (m : Outgoing) :
    (c.say origin m).2.state.phase = c.state.phase := by
  obtain ⟨queue, h⟩ := c.state.standing_send_eq m
  exact congrArg Standing.phase h

theorem intake_say (c : Course σ) (origin : Origin) (m : Outgoing) :
    (c.say origin m).2.state.intake = c.state.intake := by
  obtain ⟨queue, h⟩ := c.state.standing_send_eq m
  exact congrArg Standing.intake h

/-- A conclusion is told, or it is not. -/
theorem conclude_cases (c : Course σ) (o : Occurrence) (replyTo : Option RequestId)
    (k : Conclusion) :
    (∃ id outcome, replyTo = some id ∧ k.answer? = some outcome ∧
        c.conclude o replyTo k = ((c.note o k).say (.message o) (.response id outcome)).2) ∨
      (replyTo = none ∨ k.answer? = none) ∧ c.conclude o replyTo k = c.note o k := by
  unfold conclude
  cases replyTo with
  | none => exact .inr ⟨.inl rfl, rfl⟩
  | some id =>
    cases k.answer? with
    | none => exact .inr ⟨.inr rfl, rfl⟩
    | some outcome => exact .inl ⟨id, outcome, rfl, rfl, rfl⟩

/-- A conclusion of which nobody is told is only noted. -/
theorem conclude_of_none (c : Course σ) (o : Occurrence) (replyTo : Option RequestId)
    {k : Conclusion} (hk : k.answer? = none) : c.conclude o replyTo k = c.note o k := by
  obtain ⟨id, outcome, -, hsome, -⟩ | ⟨-, heq⟩ := c.conclude_cases o replyTo k
  · rw [hk] at hsome
    cases hsome
  · exact heq

theorem phase_conclude (c : Course σ) (o : Occurrence) (replyTo : Option RequestId)
    (k : Conclusion) :
    (c.conclude o replyTo k).state.phase = c.state.phase := by
  obtain ⟨id, outcome, -, -, h⟩ | ⟨-, h⟩ := c.conclude_cases o replyTo k
  · rw [h, phase_say]
    rfl
  · rw [h]
    rfl

theorem intake_conclude (c : Course σ) (o : Occurrence) (replyTo : Option RequestId)
    (k : Conclusion) :
    (c.conclude o replyTo k).state.intake = c.state.intake := by
  obtain ⟨id, outcome, -, -, h⟩ | ⟨-, h⟩ := c.conclude_cases o replyTo k
  · rw [h, intake_say]
    rfl
  · rw [h]
    rfl

end Course

-- ---------------------------------------------------------------------------
-- The handling of a message
-- ---------------------------------------------------------------------------

/-- How far the handling of a message is. -/
inductive Stage where
  /-- The handler was called, and the read loop carries out its reaction. -/
  | reacting (reaction : Reaction)
  | running (task : Task)
  /-- A ticket was given out for a request, which is to be sent. -/
  | requesting (ticket : Ticket) (method : String) (params : Json) (next : Except CallFault Json →
    Task)
  /-- The request could not be sent. -/
  | refused (ticket : Ticket) (fault : CallFault) (next : Except CallFault Json → Task)
  | asking (ticket : Ticket) (next : Except CallFault Json → Task)
  | held (gate : String) (next : Task)

/-- The handling of a message, and the request that it answers; there is none behind a
notification. -/
structure Thread where
  occurrence : Occurrence
  replyTo : Option RequestId
  stage : Stage

namespace Thread

variable {σ : Type}

def movedTo (t : Thread) (stage : Stage) : Thread := { t with stage }

def origin (t : Thread) : Origin := .message t.occurrence

def reacts (t : Thread) : Bool :=
  match t.stage with
  | .reacting _ => true
  | _ => false

/-- One step; a thread that concludes is gone. -/
def proceed (t : Thread) (c : Course σ) : Course σ × Option Thread :=
  match t.stage with
  | .reacting .silent => (c.conclude t.occurrence t.replyTo .silent, none)
  | .reacting (.crash message) => (c.conclude t.occurrence t.replyTo (.crashed message), none)
  | .reacting (.start task) => (c, some (t.movedTo (.running task)))
  | .reacting (.notify method params next) =>
    let (sent, c) := c.say t.origin (.notification method params)
    (c, some (t.movedTo (.reacting (next sent))))
  | .reacting (.close next) => ({ c with state := c.state.close }, some (t.movedTo (.reacting next)))
  | .running (.finish result) => (c.conclude t.occurrence t.replyTo (.finished result), none)
  | .running (.fail fault) => (c.conclude t.occurrence t.replyTo (.failed fault), none)
  | .running (.crash message) => (c.conclude t.occurrence t.replyTo (.crashed message), none)
  | .running (.notify method params next) =>
    let (sent, c) := c.say t.origin (.notification method params)
    (c, some (t.movedTo (.running (next sent))))
  | .running (.ask method params next) =>
    let (ticket, state) := c.state.issue
    ({ c with state }, some (t.movedTo (.requesting ticket method params next)))
  | .running (.wait gate next) => (c, some (t.movedTo (.held gate next)))
  | .running (.close next) => ({ c with state := c.state.close }, some (t.movedTo (.running next)))
  | .requesting ticket method params next =>
    match c.say t.origin (.request ticket.id method params) with
    | (.ok (), c) => (c, some (t.movedTo (.asking ticket next)))
    | (.error fault, c) => (c, some (t.movedTo (.refused ticket fault next)))
  | .refused ticket fault next =>
    ({ c with state := c.state.refuse ticket.id fault }, some (t.movedTo (.asking ticket next)))
  | .asking ticket next =>
    match c.state.poll ticket with
    | (some outcome, _, state) =>
      (({ c with state } : Course σ).tell t.origin ticket outcome,
        some (t.movedTo (.running (next outcome))))
    | (none, ticket, state) => ({ c with state }, some (t.movedTo (.asking ticket next)))
  | .held _ next => (c, some (t.movedTo (.running next)))

end Thread

-- ---------------------------------------------------------------------------
-- What it may come to
-- ---------------------------------------------------------------------------

/-- What a task may come to, whatever it is told on the way. -/
inductive Task.ComesTo : Task → Conclusion → Prop
  | finish (result : Json) : (finish result).ComesTo (.finished result)
  | fail (fault : HandlerFault) : (fail fault).ComesTo (.failed fault)
  | crash (message : String) : (crash message).ComesTo (.crashed message)
  | notify {method : String} {params : Json} {next : Except CallFault Unit → Task} {k : Conclusion}
    (sent : Except CallFault Unit) : (next sent).ComesTo k → (notify method params next).ComesTo k
  | ask {method : String} {params : Json} {next : Except CallFault Json → Task} {k : Conclusion}
    (outcome : Except CallFault Json) :
    (next outcome).ComesTo k → (ask method params next).ComesTo k
  | wait {gate : String} {next : Task} {k : Conclusion} :
      next.ComesTo k → (wait gate next).ComesTo k
  | close {next : Task} {k : Conclusion} : next.ComesTo k → (close next).ComesTo k

/-- What a reaction and its task may come to. -/
inductive Reaction.ComesTo : Reaction → Conclusion → Prop
  | silent : silent.ComesTo .silent
  | crash (message : String) : (crash message).ComesTo (.crashed message)
  | start {task : Task} {k : Conclusion} : task.ComesTo k → (start task).ComesTo k
  | notify {method : String} {params : Json} {next : Except CallFault Unit →
    Reaction} {k : Conclusion}
    (sent : Except CallFault Unit) : (next sent).ComesTo k → (notify method params next).ComesTo k
  | close {next : Reaction} {k : Conclusion} : next.ComesTo k → (close next).ComesTo k

/-- What a thread may come to from a stage. -/
def Stage.ComesTo (k : Conclusion) : Stage → Prop
  | .reacting reaction => reaction.ComesTo k
  | .running task => task.ComesTo k
  | .requesting _ _ _ next => ∃ outcome, (next outcome).ComesTo k
  | .refused _ _ next => ∃ outcome, (next outcome).ComesTo k
  | .asking _ next => ∃ outcome, (next outcome).ComesTo k
  | .held _ next => next.ComesTo k

/-- What a value may come to: if the handler is called for it, what came of the call. -/
def Occurrence.MayComeTo (o : Occurrence) (k : Conclusion) : Prop :=
  match Message.classify o.value with
  | .ok (.response _ _) => k = .settled
  | .ok _ => ∃ reaction, o.reaction = some reaction ∧ reaction.ComesTo k
  | .error malformed => k = .refused malformed.fault

/-- The request that is answered when a value is. -/
def replyTo? (value : Json) : Option RequestId :=
  match Message.classify value with
  | .ok (.request id _ _) => some id
  | .error malformed => malformed.id
  | _ => none

/-- **A step of a thread** says nothing and moves on, says something that is no response and moves
on, or comes to its conclusion. -/
theorem Thread.proceed_cases {σ : Type} (t : Thread) (c : Course σ) :
    (∃ s told stage, t.proceed c = ({ c with state := s, told }, some (t.movedTo stage)) ∧
        s.standing = c.state.standing ∧ ∀ k, stage.ComesTo k → t.stage.ComesTo k) ∨
      (∃ m stage, t.proceed c = ((c.say t.origin m).2, some (t.movedTo stage)) ∧
        m.isResponse = false ∧ ∀ k, stage.ComesTo k → t.stage.ComesTo k) ∨
      ∃ k, t.proceed c = (c.conclude t.occurrence t.replyTo k, none) ∧ t.stage.ComesTo k := by
  obtain ⟨o, replyTo, stage⟩ := t
  cases stage with
  | reacting reaction =>
    cases reaction with
    | silent => exact .inr (.inr ⟨_, rfl, .silent⟩)
    | crash message => exact .inr (.inr ⟨_, rfl, .crash message⟩)
    | start task => exact .inl ⟨c.state, c.told, .running task, rfl, rfl, fun _ h => .start h⟩
    | notify method params next =>
      exact .inr (.inl ⟨.notification method params, .reacting (next _), rfl, rfl, fun _ h =>
        .notify _ h⟩)
    | close next =>
      exact .inl ⟨c.state.close, c.told, .reacting next, rfl, State.standing_close _, fun _ h => .close h⟩
  | running task =>
    cases task with
    | finish result => exact .inr (.inr ⟨_, rfl, .finish result⟩)
    | fail fault => exact .inr (.inr ⟨_, rfl, .fail fault⟩)
    | crash message => exact .inr (.inr ⟨_, rfl, .crash message⟩)
    | notify method params next =>
      exact .inr (.inl ⟨.notification method params, .running (next _), rfl, rfl, fun _ h =>
        .notify _ h⟩)
    | ask method params next =>
      exact .inl ⟨c.state.issue.2, c.told, .requesting c.state.issue.1 method params next, rfl,
        State.standing_issue _, fun _ ⟨outcome, h⟩ => .ask outcome h⟩
    | wait gate next => exact .inl ⟨c.state, c.told, .held gate next, rfl, rfl, fun _ h => .wait h⟩
    | close next =>
      exact .inl ⟨c.state.close, c.told, .running next, rfl, State.standing_close _, fun _ h => .close h⟩
  | requesting ticket method params next =>
    refine .inr (.inl ⟨.request ticket.id method params, ?_⟩)
    cases hsent : (c.state.send (.request ticket.id method params)).1 with
    | ok u => exact ⟨.asking ticket next, by simp [proceed, Course.say, hsent, origin], rfl,
      fun _ h => h⟩
    | error fault =>
      exact ⟨.refused ticket fault next, by simp [proceed, Course.say, hsent, origin], rfl,
        fun _ h => h⟩
  | refused ticket fault next =>
    exact .inl ⟨c.state.refuse ticket.id fault, c.told, .asking ticket next, rfl,
      State.standing_refuse _ _ _,
      fun _ h => h⟩
  | asking ticket next =>
    have hpoll := c.state.standing_poll ticket
    rcases heq : c.state.poll ticket with ⟨_ | outcome, ticket', s⟩
    · rw [heq] at hpoll
      exact .inl ⟨s, c.told, .asking ticket' next, by simp [proceed, heq], hpoll, fun _ h => h⟩
    · rw [heq] at hpoll
      exact .inl ⟨s, c.told ++ [⟨o, ticket, outcome, s.now⟩], .running (next outcome),
        by simp [proceed, heq, Course.tell, origin], hpoll, fun _ h =>
        ⟨outcome, h⟩⟩
  | held gate next => exact .inl ⟨c.state, c.told, .running next, rfl, rfl, fun _ h => h⟩

/-- A step of a thread leaves the phase to the read loop. -/
theorem Thread.phase_proceed (t : Thread) (c : Course σ) :
    (t.proceed c).1.state.phase = c.state.phase := by
  obtain ⟨s, told, stage, h, hs, -⟩ | ⟨m, stage, h, -⟩ | ⟨k, h, -⟩ := t.proceed_cases c
  · rw [h]
    exact State.phase_eq_of_standing hs
  · rw [h, Course.phase_say]
  · rw [h, Course.phase_conclude]

-- ---------------------------------------------------------------------------
-- Everybody
-- ---------------------------------------------------------------------------

inductive Loop where
  | waiting
  | busy (t : Thread)
  | leaving (outcome : Except CallFault Unit)

/-- A session with all that goes on in it. -/
structure World (σ : Type) extends Course σ where
  loop : Loop := .waiting
  threads : List Thread := []

namespace World

variable {σ : Type}

def create (config : Config) (memory : σ) : World σ := { state := State.create config memory }

def receive (handler : Handler σ) (w : World σ) (value : Json) : World σ :=
  let o := w.state.intake.upcoming handler value
  match w.state.receive handler value with
  | .settled s => { w with toCourse := { w.toCourse with state := s }.conclude o none .settled }
  | .violated s fault =>
    { w with
      toCourse := { w.toCourse with state := s }.conclude o none .settled
      loop := .leaving (.error fault) }
  | .refused s malformed =>
    { w with
      toCourse :=
        { w.toCourse with state := s }.conclude o malformed.id (.refused malformed.fault) }
  | .called s replyTo reaction =>
    { w with state := s, loop := .busy ⟨o, replyTo, .reacting reaction⟩ }

/-- **Taking in a value** notes it, and either concludes at once or starts its handling. -/
theorem receive_cases (handler : Handler σ) (w : World σ) (value : Json) :
    ∃ s, s.standing = { w.state.standing with intake := w.state.intake.take handler value } ∧
      ((∃ loop k, (loop = w.loop ∨ ∃ outcome, loop = .leaving outcome) ∧
          (w.state.intake.upcoming handler value).MayComeTo k ∧
          w.receive handler value =
            { w with
              toCourse :=
                { w.toCourse with state := s }.conclude (w.state.intake.upcoming handler value)
                (replyTo? value) k
              loop }) ∨
        ∃ reaction,
          (∀ k, reaction.ComesTo k → (w.state.intake.upcoming handler value).MayComeTo k) ∧
          w.receive handler value =
            { w with
              state := s
              loop := .busy
                ⟨w.state.intake.upcoming handler value, replyTo? value, .reacting reaction⟩ }) := by
  refine ⟨(w.state.receive handler value).state, State.standing_receive handler w.state value, ?_⟩
  rw [receive]
  cases hclass : Message.classify value with
  | error malformed =>
    refine .inl ⟨w.loop, .refused malformed.fault, .inl rfl, ?_, ?_⟩
    · simp [Occurrence.MayComeTo, Intake.upcoming, Handler.meet, hclass]
    · simp [State.receive, replyTo?, hclass, State.Admission.state]
  | ok message =>
    cases message with
    | response id outcome =>
      have hcomes : (w.state.intake.upcoming handler value).MayComeTo .settled := by
        simp [Occurrence.MayComeTo, Intake.upcoming, Handler.meet, hclass]
      cases hsettle : (w.state.record (.routed value)).settleResponse id outcome with
      | ok s =>
        refine .inl ⟨w.loop, .settled, .inl rfl, hcomes, ?_⟩
        simp [State.receive, replyTo?, hclass, hsettle, State.Admission.state]
      | error fault =>
        refine .inl ⟨.leaving (.error fault), .settled, .inr ⟨_, rfl⟩, hcomes, ?_⟩
        simp [State.receive, replyTo?, hclass, hsettle, State.Admission.state]
    | request id method params =>
      refine .inr ⟨(handler w.state.memory method params).1, ?_, ?_⟩
      · intro k h
        simpa [Occurrence.MayComeTo, Intake.upcoming, State.intake, Handler.meet, hclass] using h
      · simp [State.receive, State.call, State.record, replyTo?, hclass, State.Admission.state]
    | notification method params =>
      refine .inr ⟨(handler w.state.memory method params).1, ?_, ?_⟩
      · intro k h
        simpa [Occurrence.MayComeTo, Intake.upcoming, State.intake, Handler.meet, hclass] using h
      · simp [State.receive, State.call, State.record, replyTo?, hclass, State.Admission.state]

/-- The read loop gives a thread away when the reaction is carried out. -/
def follow (w : World σ) (t : Option Thread) : World σ :=
  match t with
  | none => { w with loop := .waiting }
  | some t =>
    if t.reacts then { w with loop := .busy t }
    else { w with loop := .waiting, threads := w.threads ++ [t] }

/-- Taking in a value does not end the reading by itself. -/
theorem phase_receive (handler : Handler σ) (w : World σ) (value : Json) :
    (w.receive handler value).state.phase = w.state.phase := by
  obtain ⟨s, hs, ⟨loop, k, -, -, h⟩ | ⟨reaction, -, h⟩⟩ := w.receive_cases handler value
  · rw [h]
    exact (Course.phase_conclude _ _ _ _).trans (congrArg Standing.phase hs)
  · rw [h]
    exact congrArg Standing.phase hs

theorem follow_toCourse (w : World σ) (t : Option Thread) : (w.follow t).toCourse = w.toCourse := by
  unfold follow
  split
  · rfl
  · split <;> rfl

end World

variable {σ : Type}

/-- What those outside do to a session without saying anything. They may hold any tickets. -/
inductive Outer : State σ → State σ → Prop
  | arrive (s : State σ) (a : Framing.Arrival) : Outer s (s.arrive a)
  | meet (s : State σ) (peer : Peer) : Outer s { s with peer }
  | elapse (s : State σ) (nanos : Nat) : Outer s { s with now := s.now + nanos }
  | issue (s : State σ) : Outer s s.issue.2
  | refuse (s : State σ) (id : Nat) (fault : CallFault) : Outer s (s.refuse id fault)
  | poll (s : State σ) (ticket : Ticket) : Outer s (s.poll ticket).2.2
  | discard (s : State σ) (ticket : Ticket) : Outer s (s.discard ticket)
  | close (s : State σ) : Outer s s.close

/-- Those outside change nothing of where a session stands. -/
theorem Outer.standing {s s' : State σ} (h : Outer s s') : s'.standing = s.standing := by
  cases h with
  | refuse id fault => exact State.standing_refuse s id fault
  | arrive a => rfl
  | meet peer => rfl
  | elapse nanos => rfl
  | issue => rfl
  | poll ticket => rfl
  | discard ticket => rfl
  | close => rfl

/-- The steps of the writer. A write can fail at any byte of a frame, and behind the last. -/
inductive Writing : State σ → State σ → Prop
  | take (s : State σ) : Writing s s.takeCommand
  | push (s : State σ) (n : Nat) : Writing s (s.push n)
  | flush (s : State σ) : Writing s s.flush
  | fail {s : State σ} {left : Bytes} (hwriting : s.writer = .writing left) (reason : String) :
    Writing s (s.failWrite reason)
  | crash {s : State σ} {left : Bytes} (hwriting : s.writer = .writing left) :
      Writing s s.crashWrite

/-- The writer leaves the phase alone. -/
theorem Writing.phase {s s' : State σ} (h : Writing s s') : s'.phase = s.phase := by
  cases h with
  | take => unfold State.takeCommand; split <;> rfl
  | push n => unfold State.push; split <;> rfl
  | flush => unfold State.flush; split <;> rfl
  | fail hwriting reason => rfl
  | crash hwriting => rfl

theorem Writing.intake {s s' : State σ} (h : Writing s s') : s'.intake = s.intake := by
  cases h with
  | take => unfold State.takeCommand; split <;> rfl
  | push n =>
    unfold State.push
    split
    · exact State.intake_record rfl _
    · rfl
  | flush => unfold State.flush; split <;> rfl
  | fail hwriting reason => rfl
  | crash hwriting => rfl

/-- Why the read loop ends, by itself: what its reader finds, or a wish that it heeds. -/
inductive Ceases : State σ → State σ → Except CallFault Unit → Prop
  | fault {s : State σ} {fault : Framing.Fault} {reader : Framing.FrameReader}
    (hnext : s.reader.next = (.fault fault, reader)) :
    Ceases s { s with reader } (.error (.frame fault))
  | ended {s : State σ} {reader : Framing.FrameReader} (hnext : s.reader.next = (.ended, reader)) :
    Ceases s { s with reader } (.ok ())
  | closed {s : State σ} (hasked : s.closeAsked = true) :
      Ceases s { s with closeAsked := false } (.ok ())

/-- The end of reading is settled before anything else changes. -/
theorem Ceases.standing {s s' : State σ} {outcome : Except CallFault Unit}
    (h : Ceases s s' outcome) :
    s'.standing = s.standing := by
  cases h <;> rfl

inductive Step (handler : Handler σ) : World σ → World σ → Prop
  | outer {w : World σ} {s : State σ} (houter : Outer w.state s) :
      Step handler w { w with state := s }
  | say {w : World σ} {m : Outgoing} (hm : m.isResponse = false) :
    Step handler w { w with toCourse := (w.say .outside m).2 }
  | start (w : World σ) : Step handler w { w with state := w.state.start }
  | abort (w : World σ) : Step handler w { w with state := w.state.abort }
  | write {w : World σ} {s : State σ} (hrunning : w.state.isRunning = true)
    (hwrite : Writing w.state s) :
    Step handler w { w with state := s }
  | await {w : World σ} {reader : Framing.FrameReader} (hphase : w.state.phase = .reading)
    (hloop : w.loop = .waiting) (hnext : w.state.reader.next = (.waiting, reader)) :
    Step handler w { w with state := { w.state with reader } }
  | receive {w : World σ} {value : Json} {reader : Framing.FrameReader}
    (hphase : w.state.phase = .reading) (hloop : w.loop = .waiting)
    (hnext : w.state.reader.next = (.frame value, reader)) :
    Step handler w ({ w with state := { w.state with reader } }.receive handler value)
  | cease {w : World σ} {s : State σ} {outcome : Except CallFault Unit}
    (hphase : w.state.phase = .reading) (hloop : w.loop = .waiting)
    (hcease : Ceases w.state s outcome) :
    Step handler w { w with state := s, loop := .leaving outcome }
  | react {w : World σ} {t : Thread} (hloop : w.loop = .busy t) :
    Step handler w ({ w with toCourse := (t.proceed w.toCourse).1 }.follow (t.proceed w.toCourse).2)
  | leave {w : World σ} {outcome : Except CallFault Unit} (hloop : w.loop = .leaving outcome) :
    Step handler w { w with state := w.state.stop outcome, loop := .waiting }
  | proceed {w : World σ} {t : Thread} {front behind : List Thread}
    (hthreads : w.threads = front ++ t :: behind) :
    Step handler w
      { w with
        toCourse := (t.proceed w.toCourse).1
        threads := front ++ (t.proceed w.toCourse).2.toList ++ behind }
  | drain {w : World σ} {outcome : Except CallFault Unit}
    (hphase : w.state.phase = .draining outcome)
    (hthreads : w.threads = []) : Step handler w { w with state := w.state.beginFlushing outcome }
  | finish (w : World σ) : Step handler w { w with state := w.state.finishFlushing }

abbrev Runs (handler : Handler σ) : World σ → World σ → Prop := Relation.ReflTransGen (Step handler)

end EditorLink.Session
