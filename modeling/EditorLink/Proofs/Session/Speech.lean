import EditorLink.Proofs.Session.Teardown

/-!
# EditorLink — what is said for a message

A task is a program: what it says, in which order, follows from its text and from what it is told of its
requests. So it does when tasks and all others take their steps in any order: of all that is said, what is said
for one message is what the reaction to it says, given what whoever handles it was told so far.

The two go together. A session notes what it is told by whom (`Course.told`), with the ticket and the outcome that
the desk gave out for it; a relation between all that is told and all that is said, to the end of the program, then
fixes what is said. As long as the message is handled it fixes the first of it, whatever is told later: the
relation is asked for the rest, and the invariant appends what came before.

Sending is no such source. Whether a frame was taken is told to the program as well, and the relation allows
either answer at any time: what a program makes of it is not followed here.

## Results

* `Task.Utters`, `Reaction.Utters`, `Stage.Utters` — all that a program may say from a point on to its end, and
  what it is told meanwhile;
* `exists_utters` — a program can come to its end, whatever it is told;
* `Thread.utters` — one step of a thread says the next of it, or is told the next;
* `Step.kind` — each step is about one thread, one value, or neither;
* `saidOf`, `toldOf` — what was said for a message, and what was told;
* `Spoken`, `Spoken.step`, `spoken_run` — what was said for each message, and what may follow it.
-/

namespace EditorLink.Session

open Correlation (Outcome Ticket)
open Message (CallFault HandlerFault Outgoing RequestId)
open scoped List

variable {σ : Type}

-- ---------------------------------------------------------------------------
-- Programs
-- ---------------------------------------------------------------------------

/-- What is said of a conclusion. -/
def Conclusion.replies (k : Conclusion) (replyTo : Option RequestId) : List Outgoing :=
  match replyTo, k.answer? with
  | some id, some outcome => [.response id outcome]
  | _, _ => []

/-- All that a task may say, to its end, if this is what it is told of its requests, one after the other. -/
inductive Task.Utters (replyTo : Option RequestId) : Task → List Telling → List Outgoing → Prop
  | finish (result : Json) :
    Utters replyTo (finish result) [] (Conclusion.replies (.finished result) replyTo)
  | fail (fault : HandlerFault) :
    Utters replyTo (fail fault) [] (Conclusion.replies (.failed fault) replyTo)
  | crash (message : String) :
    Utters replyTo (crash message) [] (Conclusion.replies (.crashed message) replyTo)
  | notify {method : String} {params : Json} {next : Except CallFault Unit → Task} {told : List Telling}
    {rest : List Outgoing} (sent : Except CallFault Unit) (h : Utters replyTo (next sent) told rest) :
    Utters replyTo (notify method params next) told (.notification method params :: rest)
  | ask {method : String} {params : Json} {next : Except CallFault Json → Task} {told : List Telling}
    {rest : List Outgoing} (τ : Telling) (h : Utters replyTo (next τ.outcome) told rest) :
    Utters replyTo (ask method params next) (τ :: told) (.request τ.ticket.id method params :: rest)
  | wait {gate : String} {next : Task} {told : List Telling} {rest : List Outgoing}
    (h : Utters replyTo next told rest) : Utters replyTo (wait gate next) told rest
  | close {next : Task} {told : List Telling} {rest : List Outgoing} (h : Utters replyTo next told rest) :
    Utters replyTo (close next) told rest

/-- All that a reaction and its task may say, if this is what the task is told. -/
inductive Reaction.Utters (replyTo : Option RequestId) : Reaction → List Telling → List Outgoing → Prop
  | silent : Utters replyTo silent [] (Conclusion.replies .silent replyTo)
  | crash (message : String) :
    Utters replyTo (crash message) [] (Conclusion.replies (.crashed message) replyTo)
  | start {task : Task} {told : List Telling} {rest : List Outgoing} (h : task.Utters replyTo told rest) :
    Utters replyTo (start task) told rest
  | notify {method : String} {params : Json} {next : Except CallFault Unit → Reaction}
    {told : List Telling} {rest : List Outgoing} (sent : Except CallFault Unit)
    (h : Utters replyTo (next sent) told rest) :
    Utters replyTo (notify method params next) told (.notification method params :: rest)
  | close {next : Reaction} {told : List Telling} {rest : List Outgoing} (h : Utters replyTo next told rest) :
    Utters replyTo (close next) told rest

/-- Whoever holds the ticket is told something first, and goes on with that. -/
def Leads (replyTo : Option RequestId) (ticket : Ticket) (next : Except CallFault Json → Task)
    (told : List Telling) (said : List Outgoing) : Prop :=
  ∃ τ behind, τ.ticket = ticket ∧ told = τ :: behind ∧ (next τ.outcome).Utters replyTo behind said

/-- All that a thread may say from a stage on, if this is what it is told. -/
def Stage.Utters (replyTo : Option RequestId) : Stage → List Telling → List Outgoing → Prop
  | .reacting reaction, told, said => reaction.Utters replyTo told said
  | .running task, told, said => task.Utters replyTo told said
  | .requesting ticket method params next, told, said =>
    ∃ rest, Leads replyTo ticket next told rest ∧ said = .request ticket.id method params :: rest
  | .refused ticket _ next, told, said => Leads replyTo ticket next told said
  | .asking ticket next, told, said => Leads replyTo ticket next told said
  | .held _ next, told, said => next.Utters replyTo told said

section Utters

variable {replyTo : Option RequestId}

/-- **A task can come to its end** if it is told this outcome whenever it asks. -/
theorem Task.exists_utters (o : Occurrence) (outcome : Outcome) (task : Task) :
    ∃ told rest, task.Utters replyTo told rest ∧ ∀ τ ∈ told, τ.outcome = outcome := by
  induction task with
  | finish result => exact ⟨[], _, .finish result, List.forall_mem_nil _⟩
  | fail fault => exact ⟨[], _, .fail fault, List.forall_mem_nil _⟩
  | crash message => exact ⟨[], _, .crash message, List.forall_mem_nil _⟩
  | notify method params next ih =>
    obtain ⟨told, rest, h, htold⟩ := ih (.ok ())
    exact ⟨told, _, .notify _ h, htold⟩
  | ask method params next ih =>
    obtain ⟨told, rest, h, htold⟩ := ih outcome
    exact ⟨_, _, .ask ⟨o, { id := 0 }, outcome, 0⟩ h, List.forall_mem_cons.mpr ⟨rfl, htold⟩⟩
  | wait gate next ih =>
    obtain ⟨told, rest, h, htold⟩ := ih
    exact ⟨told, rest, .wait h, htold⟩
  | close next ih =>
    obtain ⟨told, rest, h, htold⟩ := ih
    exact ⟨told, rest, .close h, htold⟩

/-- So can a reaction. -/
theorem Reaction.exists_utters (o : Occurrence) (outcome : Outcome) (reaction : Reaction) :
    ∃ told rest, reaction.Utters replyTo told rest ∧ ∀ τ ∈ told, τ.outcome = outcome := by
  induction reaction with
  | silent => exact ⟨[], _, .silent, List.forall_mem_nil _⟩
  | crash message => exact ⟨[], _, .crash message, List.forall_mem_nil _⟩
  | start task =>
    obtain ⟨told, rest, h, htold⟩ := task.exists_utters o outcome
    exact ⟨told, rest, .start h, htold⟩
  | notify method params next ih =>
    obtain ⟨told, rest, h, htold⟩ := ih (.ok ())
    exact ⟨told, _, .notify _ h, htold⟩
  | close next ih =>
    obtain ⟨told, rest, h, htold⟩ := ih
    exact ⟨told, rest, .close h, htold⟩

/-- Whoever holds a ticket can be told this outcome for it. -/
theorem exists_leads (o : Occurrence) (outcome : Outcome) (ticket : Ticket)
    (next : Except CallFault Json → Task) :
    ∃ told rest, Leads replyTo ticket next told rest ∧ ∀ τ ∈ told, τ.outcome = outcome := by
  obtain ⟨told, rest, h, htold⟩ := (next outcome).exists_utters o outcome
  exact ⟨_, rest, ⟨⟨o, ticket, outcome, 0⟩, told, rfl, rfl, h⟩, List.forall_mem_cons.mpr ⟨rfl, htold⟩⟩

/-- So can a thread, wherever it stands. -/
theorem Stage.exists_utters (o : Occurrence) (outcome : Outcome) (stage : Stage) :
    ∃ told rest, stage.Utters replyTo told rest ∧ ∀ τ ∈ told, τ.outcome = outcome := by
  cases stage with
  | reacting reaction => exact reaction.exists_utters o outcome
  | running task => exact task.exists_utters o outcome
  | requesting ticket method params next =>
    obtain ⟨told, rest, h, htold⟩ := exists_leads o outcome ticket next
    exact ⟨told, _, ⟨rest, h, rfl⟩, htold⟩
  | refused ticket fault next => exact exists_leads o outcome ticket next
  | asking ticket next => exact exists_leads o outcome ticket next
  | held gate next => exact next.exists_utters o outcome

end Utters

-- ---------------------------------------------------------------------------
-- One thread
-- ---------------------------------------------------------------------------

/-- What is said when a message comes to its conclusion. -/
theorem Course.said_replies (c : Course σ) (o : Occurrence) (replyTo : Option RequestId)
    (k : Conclusion) :
    (c.conclude o replyTo k).said = c.said ++ (k.replies replyTo).map (Saying.mk (.message o)) := by
  unfold conclude Conclusion.replies
  cases replyTo with
  | none => exact (List.append_nil _).symm
  | some id =>
    cases k.answer? with
    | none => exact (List.append_nil _).symm
    | some outcome => rfl

/-- Whoever comes to its conclusion is told nothing of a request. -/
theorem Course.told_conclude (c : Course σ) (o : Occurrence) (replyTo : Option RequestId) (k : Conclusion) :
    (c.conclude o replyTo k).told = c.told := by
  obtain ⟨id, outcome, -, -, h⟩ | ⟨-, h⟩ := c.conclude_cases o replyTo k <;> rw [h] <;> rfl

/-- What a step of a thread comes to: it says something, or is told something, and goes on or concludes. -/
structure Thread.Speaks (t : Thread) (c c' : Course σ) (t' : Option Thread) (words : List Outgoing)
    (news : List Telling) : Prop where
  said : c'.said = c.said ++ words.map (Saying.mk t.origin)
  told : c'.told = c.told ++ news
  /-- It is told the outcome that the desk gives out for its ticket. -/
  heard : ∀ τ ∈ news, τ.occurrence = t.occurrence ∧ τ.time = c.state.now ∧
    t.stage.errand? = some (.asking τ.ticket) ∧ (c.state.poll τ.ticket).1 = some τ.outcome
  next : (∃ k, t' = none ∧ c'.concluded = c.concluded ++ [⟨t.occurrence, k⟩] ∧
      t.stage.Utters t.replyTo news words) ∨
    ∃ stage, t' = some (t.movedTo stage) ∧ c'.concluded = c.concluded ∧
      ∀ told rest, stage.Utters t.replyTo told rest →
        t.stage.Utters t.replyTo (news ++ told) (words ++ rest)

/-- **A step of a thread** says the next of what it may say, or is told the next. -/
theorem Thread.utters (t : Thread) (c : Course σ) :
    ∃ words news, t.Speaks c (t.proceed c).1 (t.proceed c).2 words news := by
  have hconcludes : ∀ k : Conclusion, t.proceed c = (c.conclude t.occurrence t.replyTo k, none) →
      t.stage.Utters t.replyTo [] (k.replies t.replyTo) →
      ∃ words news, t.Speaks c (t.proceed c).1 (t.proceed c).2 words news := by
    intro k h hutters
    rw [h]
    exact ⟨k.replies t.replyTo, [], c.said_replies _ _ k,
      (c.told_conclude _ _ k).trans (List.append_nil _).symm, List.forall_mem_nil _,
      .inl ⟨k, rfl, c.concluded_conclude _ _ k, hutters⟩⟩
  have hquiet : ∀ (s : State σ) (stage : Stage),
      t.proceed c = ({ c with state := s }, some (t.movedTo stage)) →
      (∀ told rest, stage.Utters t.replyTo told rest → t.stage.Utters t.replyTo told rest) →
      ∃ words news, t.Speaks c (t.proceed c).1 (t.proceed c).2 words news := by
    intro s stage h hutters
    rw [h]
    exact ⟨[], [], (List.append_nil _).symm, (List.append_nil _).symm, List.forall_mem_nil _,
      .inr ⟨stage, rfl, rfl, hutters⟩⟩
  have hsays : ∀ (m : Outgoing) (stage : Stage),
      t.proceed c = ((c.say t.origin m).2, some (t.movedTo stage)) →
      (∀ told rest, stage.Utters t.replyTo told rest → t.stage.Utters t.replyTo told (m :: rest)) →
      ∃ words news, t.Speaks c (t.proceed c).1 (t.proceed c).2 words news := by
    intro m stage h hutters
    rw [h]
    exact ⟨[m], [], rfl, (List.append_nil _).symm, List.forall_mem_nil _, .inr ⟨stage, rfl, rfl, hutters⟩⟩
  obtain ⟨o, replyTo, stage⟩ := t
  cases stage with
  | reacting reaction =>
    cases reaction with
    | silent => exact hconcludes .silent rfl .silent
    | crash message => exact hconcludes (.crashed message) rfl (.crash message)
    | start task => exact hquiet c.state (.running task) rfl fun _ _ => .start
    | notify method params next =>
      exact hsays (.notification method params) (.reacting (next _)) rfl fun _ _ h => .notify _ h
    | close next => exact hquiet c.state.close (.reacting next) rfl fun _ _ => .close
  | running task =>
    cases task with
    | finish result => exact hconcludes (.finished result) rfl (.finish result)
    | fail fault => exact hconcludes (.failed fault) rfl (.fail fault)
    | crash message => exact hconcludes (.crashed message) rfl (.crash message)
    | notify method params next =>
      exact hsays (.notification method params) (.running (next _)) rfl fun _ _ h => .notify _ h
    | ask method params next =>
      refine hquiet c.state.issue.2 (.requesting c.state.issue.1 method params next) rfl ?_
      rintro told said ⟨rest, ⟨τ, behind, hticket, rfl, h⟩, rfl⟩
      rw [← hticket]
      exact .ask τ h
    | wait gate next => exact hquiet c.state (.held gate next) rfl fun _ _ => .wait
    | close next => exact hquiet c.state.close (.running next) rfl fun _ _ => .close
  | requesting ticket method params next =>
    have hproceed := Thread.proceed_errand (t := ⟨o, replyTo, .requesting ticket method params next⟩)
      (e := .requesting ticket method params) rfl c
    rw [Errand.proceed_requesting] at hproceed
    refine hsays _ _ hproceed ?_
    -- whether it was sent or not, its outcome is waited for
    intro told rest h
    split at h <;> exact ⟨rest, h, rfl⟩
  | refused ticket fault next =>
    exact hquiet (c.state.refuse ticket.id fault) (.asking ticket next) rfl fun _ _ h => h
  | asking ticket next =>
    rcases hpoll : c.state.poll ticket with ⟨_ | outcome, ticket', s⟩
    · have hsame : ticket' = ticket := by
        have hdesk : ticket.poll c.state.now c.state.desk = (none, ticket', s.desk) := by
          simp only [State.poll, Prod.mk.injEq] at hpoll
          obtain ⟨houtcome, hticket, rfl⟩ := hpoll
          rw [← houtcome, ← hticket]
        exact (Ticket.eq_of_poll_none hdesk).1
      rw [hsame] at hpoll
      exact hquiet s (.asking ticket next) (by simp [proceed, hpoll]) fun _ _ h => h
    · -- the one step that is told something, which is noted
      have hproceed : Thread.proceed ⟨o, replyTo, .asking ticket next⟩ c =
          ({ c with state := s, told := c.told ++ [⟨o, ticket, outcome, c.state.now⟩] },
            some ⟨o, replyTo, .running (next outcome)⟩) := by
        have hnow : s.now = c.state.now := by
          have hstate : (c.state.poll ticket).2.2.now = c.state.now := rfl
          rwa [hpoll] at hstate
        simp [proceed, hpoll, Course.tell, origin, movedTo, hnow]
      rw [hproceed]
      refine ⟨[], [⟨o, ticket, outcome, c.state.now⟩], (List.append_nil _).symm, rfl, ?_,
        .inr ⟨.running (next outcome), rfl, rfl, fun told rest h => ⟨_, told, rfl, rfl, h⟩⟩⟩
      intro τ hτ
      obtain rfl := List.mem_singleton.mp hτ
      exact ⟨rfl, rfl, rfl, by rw [hpoll]⟩
  | held gate next => exact hquiet c.state (.running next) rfl fun _ _ h => h

/-- A step of a thread takes nothing in. -/
theorem Thread.routed_proceed (t : Thread) (c : Course σ) : (t.proceed c).1.state.routed = c.state.routed :=
  (t.sameReading_proceed c).routed

-- ---------------------------------------------------------------------------
-- What a step is about
-- ---------------------------------------------------------------------------

/-- While the read loop waits the threads are at work. -/
theorem World.atWork_of_waiting {w : World σ} (h : w.loop = .waiting) : w.atWork = w.threads := by
  rw [atWork, h]
  rfl

/-- While it is busy the thread of the read loop is at work as well. -/
theorem World.atWork_of_busy {w : World σ} {t : Thread} (h : w.loop = .busy t) :
    w.atWork = t :: w.threads := by
  rw [atWork, h]
  rfl

/-- What a step is about. -/
inductive Step.Kind (handler : Handler σ) (w w' : World σ) : Prop
  /-- No message is handled, and nobody says anything but those outside. -/
  | other (words : List Outgoing) (hintake : w'.state.intake = w.state.intake)
    (hsaid : w'.said = w.said ++ words.map (Saying.mk .outside)) (hconcluded : w'.concluded = w.concluded)
    (hthreads : w'.threads = w.threads) (hloop : w'.loop.thread? = w.loop.thread?) (htold : w'.told = w.told)
  /-- A value is taken in for which no handler is called. -/
  | concludes {value : Json} {s : State σ} {loop : Loop} {k : Conclusion}
    (hphase : w.state.phase = .reading) (hloop : w.loop = .waiting)
    (hintake : s.intake = w.state.intake.take handler value)
    (hreaction : (w.state.intake.upcoming handler value).reaction = none) (hidle : loop.thread? = none)
    (h : w' = { w with
      toCourse := ({ w.toCourse with state := s } : Course σ).conclude
        (w.state.intake.upcoming handler value) (replyTo? value) k
      loop })
  /-- A value is taken in, and the read loop carries out the reaction of the handler. -/
  | begins {value : Json} {s : State σ} {reaction : Reaction} (hphase : w.state.phase = .reading)
    (hloop : w.loop = .waiting) (hintake : s.intake = w.state.intake.take handler value)
    (hreaction : (w.state.intake.upcoming handler value).reaction = some reaction)
    (h : w' = { w with
      state := s
      loop := .busy
        ⟨w.state.intake.upcoming handler value, replyTo? value, .reacting reaction⟩ })
  /-- The read loop goes on with a reaction. -/
  | reacts {t : Thread} (hloop : w.loop = .busy t)
    (h : w' = ({ w with toCourse := (t.proceed w.toCourse).1 } : World σ).follow (t.proceed w.toCourse).2)
  | proceeds {t : Thread} {front behind : List Thread} (hthreads : w.threads = front ++ t :: behind)
    (h : w' = { w with
      toCourse := (t.proceed w.toCourse).1
      threads := front ++ (t.proceed w.toCourse).2.toList ++ behind })

/-- Behind a value the read loop is busy if the handler was called. -/
theorem World.thread?_receive (handler : Handler σ) {w : World σ} (hloop : w.loop = .waiting)
    (value : Json) :
    (w.receive handler value).loop.thread? = (w.state.intake.upcoming handler value).reaction.map
      fun reaction => ⟨w.state.intake.upcoming handler value, replyTo? value, .reacting reaction⟩ := by
  have hidle : w.loop.thread? = none := by rw [hloop]; rfl
  unfold receive State.receive Intake.upcoming Handler.meet replyTo?
  cases Message.classify value with
  | error malformed => exact hidle
  | ok message =>
    cases message with
    | request id method params => rfl
    | notification method params => rfl
    | response id outcome =>
      cases hsettle : (w.state.record (.routed value)).settleResponse id outcome with
      | ok s =>
        simp only [hsettle]
        exact hidle
      | error fault =>
        simp only [hsettle]
        rfl

/-- A value that is taken in. -/
theorem World.kind_receive (handler : Handler σ) {w : World σ} (hphase : w.state.phase = .reading)
    (hloop : w.loop = .waiting) (reader : Framing.FrameReader) (value : Json) :
    Step.Kind handler w (({ w with state := { w.state with reader } } : World σ).receive handler value) := by
  let w₀ : World σ := { w with state := { w.state with reader } }
  have hthread := w₀.thread?_receive handler hloop value
  obtain ⟨s, hs, ⟨loop, k, hleft, -, heq⟩ | ⟨reaction, -, heq⟩⟩ := w₀.receive_cases handler value
  · have hidle : loop.thread? = none := by
      rcases hleft with rfl | ⟨outcome, rfl⟩
      · exact congrArg Loop.thread? hloop
      · rfl
    rw [heq] at hthread
    have hreaction := Option.map_eq_none_iff.mp (hthread.symm.trans hidle)
    exact .concludes hphase hloop (congrArg Standing.intake hs) hreaction hidle heq
  · rw [heq] at hthread
    obtain ⟨reaction', hreaction, hsame⟩ := Option.map_eq_some_iff.mp hthread.symm
    cases hsame
    exact .begins hphase hloop (congrArg Standing.intake hs) hreaction heq

/-- **Each step** is of one of these kinds. -/
theorem Step.kind {handler : Handler σ} {w w' : World σ} (h : Step handler w w') :
    Step.Kind handler w w' := by
  have hother : ∀ {s : State σ} {loop : Loop}, s.intake = w.state.intake →
      loop.thread? = w.loop.thread? → Step.Kind handler w { w with state := s, loop } :=
    fun hintake hloop => .other [] hintake (List.append_nil _).symm rfl rfl hloop rfl
  cases h with
  | outer houter => exact hother (State.intake_eq_of_standing houter.standing) rfl
  | @say m hm => exact .other [m] (w.intake_say _ _) rfl rfl rfl rfl rfl
  | start => exact hother w.state.sameReading_start.intake rfl
  | abort => exact hother w.state.intake_abort rfl
  | write hrunning hwrite => exact hother hwrite.intake rfl
  | await hphase hloop hnext => exact hother rfl rfl
  | @receive value reader hphase hloop hnext => exact w.kind_receive handler hphase hloop reader value
  | cease hphase hloop hcease =>
    exact hother (State.intake_eq_of_standing hcease.standing) (by rw [hloop]; rfl)
  | react hloop => exact .reacts hloop rfl
  | leave hloop => exact hother (w.state.sameReading_stop _).intake (by rw [hloop]; rfl)
  | proceed hthreads => exact .proceeds hthreads rfl
  | drain hphase hthreads => exact hother (w.state.intake_beginFlushing _) rfl
  | finish => exact hother w.state.sameReading_finishFlushing.intake rfl

-- ---------------------------------------------------------------------------
-- What is said for a message
-- ---------------------------------------------------------------------------

/-- What was said for the message with this number. -/
def saidOf (n : Nat) (said : List Saying) : List Outgoing :=
  (said.filter (·.origin.isOf n)).map (·.message)

theorem saidOf_append (n : Nat) (said more : List Saying) :
    saidOf n (said ++ more) = saidOf n said ++ saidOf n more := by
  rw [saidOf, List.filter_append, List.map_append]
  rfl

/-- What is said for the message itself counts. -/
theorem saidOf_words {n : Nat} {origin : Origin} (h : origin.isOf n = true) (words : List Outgoing) :
    saidOf n (words.map (Saying.mk origin)) = words := by
  have hall : (words.map (Saying.mk origin)).filter (·.origin.isOf n) = words.map (Saying.mk origin) := by
    rw [List.filter_eq_self]
    intro m hm
    obtain ⟨word, -, rfl⟩ := List.mem_map.mp hm
    exact h
  rw [saidOf, hall, List.map_map]
  exact List.map_id _

/-- What is said for others does not. -/
theorem saidOf_eq_nil {n : Nat} {said : List Saying} (h : ∀ m ∈ said, m.origin.isOf n = false) :
    saidOf n said = [] := by
  have hnone : said.filter (·.origin.isOf n) = [] := by
    rw [List.filter_eq_nil_iff]
    intro m hm
    rw [h m hm]
    exact Bool.false_ne_true
  rw [saidOf, hnone, List.map_nil]

/-- What others say does not count. -/
theorem saidOf_others {n : Nat} {origin : Origin} (h : origin.isOf n = false) (said : List Saying)
    (words : List Outgoing) : saidOf n (said ++ words.map (Saying.mk origin)) = saidOf n said := by
  have hnone : saidOf n (words.map (Saying.mk origin)) = [] := by
    apply saidOf_eq_nil
    intro m hm
    obtain ⟨word, -, rfl⟩ := List.mem_map.mp hm
    exact h
  rw [saidOf_append, hnone, List.append_nil]

/-- One more speaks. -/
theorem forall_origin_append {P : Occurrence → Prop} {said : List Saying} {origin : Origin}
    {words : List Outgoing} (h : ∀ m ∈ said, ∀ o, m.origin = .message o → P o)
    (hnew : ∀ o, origin = .message o → P o) :
    ∀ m ∈ said ++ words.map (Saying.mk origin), ∀ o, m.origin = .message o → P o := by
  intro m hm o ho
  rcases List.mem_append.mp hm with hm | hm
  · exact h m hm o ho
  · obtain ⟨word, -, rfl⟩ := List.mem_map.mp hm
    exact hnew o ho

/-- What whoever handles the message with this number was told of requests. -/
def toldOf (n : Nat) (told : List Telling) : List Telling := told.filter (·.occurrence.number == n)

theorem toldOf_append (n : Nat) (told more : List Telling) :
    toldOf n (told ++ more) = toldOf n told ++ toldOf n more := List.filter_append ..

/-- What is told to whoever handles the message counts. -/
theorem toldOf_own {o : Occurrence} {news : List Telling} (h : ∀ τ ∈ news, τ.occurrence = o) :
    toldOf o.number news = news := by
  rw [toldOf, List.filter_eq_self]
  intro τ hτ
  rw [h τ hτ]
  exact beq_self_eq_true o.number

/-- What others are told does not count. -/
theorem toldOf_eq_nil {n : Nat} {told : List Telling} (h : ∀ τ ∈ told, τ.occurrence.number ≠ n) :
    toldOf n told = [] := by
  rw [toldOf, List.filter_eq_nil_iff]
  intro τ hτ heq
  exact h τ hτ (beq_iff_eq.mp heq)

/-- All that may be said for a message to its end, if the handler is called for it and this is what is told of
the requests that are made for it. -/
def Occurrence.Utters (o : Occurrence) (told : List Telling) (said : List Outgoing) : Prop :=
  ∀ reaction, o.reaction = some reaction → reaction.Utters (replyTo? o.value) told said

/-- What was said for each message, and what was told, while these threads are at work, and what may follow it. -/
structure Spoken (c : Course σ) (threads : List Thread) : Prop where
  known : ∀ m ∈ c.said, ∀ o, m.origin = .message o → o.number < c.state.routed.length
  heard : ∀ τ ∈ c.told, τ.occurrence.number < c.state.routed.length
  underway : ∀ t ∈ threads, ∀ told rest, t.stage.Utters t.replyTo told rest →
    t.occurrence.Utters (toldOf t.occurrence.number c.told ++ told)
      (saidOf t.occurrence.number c.said ++ rest)
  done : ∀ e ∈ c.concluded,
    e.occurrence.Utters (toldOf e.occurrence.number c.told) (saidOf e.occurrence.number c.said)

variable {handler : Handler σ} {config : Config} {memory : σ} {w w' : World σ}

/-- Messages are numbered below the number of values that were taken in. -/
theorem State.number_lt_of_mem {s : State σ} {o : Occurrence} (h : o ∈ s.occurrences handler memory) :
    o.number < s.routed.length := by
  have hmem : o.number ∈ (s.occurrences handler memory).map (·.number) := List.mem_map_of_mem h
  rw [occurrences, Intake.number_occurrences, List.mem_range'_1] at hmem
  simpa using hmem.2

/-- The reaction to a message is that of the handler, with something that it remembered. -/
theorem Intake.exists_reaction {i : Intake σ} {values : List Json} {o : Occurrence}
    (h : o ∈ i.occurrences handler values) : ∃ memory, o.reaction = (handler.meet memory o.value).1 := by
  induction values generalizing i with
  | nil => cases h
  | cons value rest ih =>
    rcases List.mem_cons.mp h with rfl | h
    · exact ⟨i.memory, rfl⟩
    · exact ih h

namespace Answers

variable {c : Course σ} {threads : List Thread}

theorem number_lt (h : Answers handler memory c threads) {t : Thread} (ht : t ∈ threads) :
    t.occurrence.number < c.state.routed.length :=
  State.number_lt_of_mem (h.once.mem_iff.mp (List.mem_append_left _ (List.mem_map_of_mem ht)))

theorem number_lt_of_concluded (h : Answers handler memory c threads) {e : Concluded}
    (he : e ∈ c.concluded) : e.occurrence.number < c.state.routed.length :=
  State.number_lt_of_mem (h.once.mem_iff.mp (List.mem_append_right _ (List.mem_map_of_mem he)))

/-- Nobody else handles the message of a thread, and it was not handled before. -/
theorem number_ne {t : Thread} (h : Answers handler memory c (t :: threads)) :
    (∀ t' ∈ threads, t.occurrence.number ≠ t'.occurrence.number) ∧
      ∀ e ∈ c.concluded, t.occurrence.number ≠ e.occurrence.number := by
  have hnodup := (h.once.map (·.number)).nodup_iff.mpr (nodup_occurrences memory c.state)
  rw [List.map_cons, List.cons_append, List.map_cons, List.nodup_cons, List.map_append, List.map_map,
    List.map_map, List.mem_append, not_or] at hnodup
  obtain ⟨⟨hthreads, hconcluded⟩, -⟩ := hnodup
  refine ⟨?_, ?_⟩
  · intro t' ht' heq
    exact hthreads (heq ▸ List.mem_map_of_mem ht')
  · intro e he heq
    exact hconcluded (heq ▸ List.mem_map_of_mem he)

end Answers

theorem isOf_of_ne {o : Occurrence} {n : Nat} (h : o.number ≠ n) : (Origin.message o).isOf n = false :=
  beq_eq_false_iff_ne.mpr h

section Speaks

variable {t : Thread} {c c' : Course σ} {t' : Option Thread} {words : List Outgoing} {news : List Telling}

/-- What a step says comes behind what was said for the message. -/
theorem Thread.Speaks.saidOf_own (h : t.Speaks c c' t' words news) :
    saidOf t.occurrence.number c'.said = saidOf t.occurrence.number c.said ++ words := by
  have hmine : t.origin.isOf t.occurrence.number = true := beq_self_eq_true t.occurrence.number
  rw [h.said, saidOf_append, saidOf_words hmine]

/-- A thread says nothing for other messages. -/
theorem Thread.Speaks.saidOf_other (h : t.Speaks c c' t' words news) {n : Nat}
    (hne : t.occurrence.number ≠ n) : saidOf n c'.said = saidOf n c.said := by
  have hnot : t.origin.isOf n = false := isOf_of_ne hne
  rw [h.said, saidOf_others hnot]

/-- What a step is told comes behind what was told for the message. -/
theorem Thread.Speaks.toldOf_own (h : t.Speaks c c' t' words news) :
    toldOf t.occurrence.number c'.told = toldOf t.occurrence.number c.told ++ news := by
  rw [h.told, toldOf_append, Session.toldOf_own fun τ hτ => (h.heard τ hτ).1]

theorem Thread.Speaks.toldOf_other (h : t.Speaks c c' t' words news) {n : Nat}
    (hne : t.occurrence.number ≠ n) : toldOf n c'.told = toldOf n c.told := by
  have hnone : toldOf n news = [] := by
    apply toldOf_eq_nil
    intro τ hτ
    rw [(h.heard τ hτ).1]
    exact hne
  rw [h.told, toldOf_append, hnone, List.append_nil]

end Speaks

/-- At first nothing was said. -/
theorem spoken_create (config : Config) (memory : σ) :
    Spoken (World.create config memory).toCourse [] :=
  ⟨by simp [World.create], by simp [World.create], by simp, by simp [World.create]⟩

namespace Spoken

variable {c c' : Course σ} {threads threads' : List Thread}

theorem perm (h : Spoken c threads) (hperm : threads ~ threads') : Spoken c threads' :=
  ⟨h.known, h.heard, fun t ht => h.underway t (hperm.mem_iff.mpr ht), h.done⟩

/-- What those outside say, and what else changes, is nothing to the messages. -/
theorem other (h : Spoken c threads) {words : List Outgoing}
    (hrouted : c'.state.routed = c.state.routed)
    (hsaid : c'.said = c.said ++ words.map (Saying.mk .outside)) (htold : c'.told = c.told)
    (hconcluded : c'.concluded = c.concluded) : Spoken c' threads := by
  have hsame : ∀ n, saidOf n c'.said = saidOf n c.said := by
    intro n
    rw [hsaid, saidOf_others rfl]
  refine ⟨?_, ?_, ?_, ?_⟩
  · rw [hsaid, hrouted]
    exact forall_origin_append h.known nofun
  · rw [htold, hrouted]
    exact h.heard
  · intro t ht
    rw [hsame, htold]
    exact h.underway t ht
  · intro e he
    rw [hsame, htold]
    exact h.done e (hconcluded ▸ he)

/-- **A step of a thread** says the next for its message, or is told the next. -/
theorem proceed {t : Thread} (h : Spoken c (t :: threads)) (hanswers : Answers handler memory c (t :: threads)) :
    Spoken (t.proceed c).1 ((t.proceed c).2.toList ++ threads) := by
  have hrouted := t.routed_proceed c
  obtain ⟨hthreads, hconcluded⟩ := hanswers.number_ne
  have hmine := hanswers.number_lt List.mem_cons_self
  obtain ⟨words, news, hwords⟩ := t.utters c
  refine ⟨?_, ?_, ?_, ?_⟩
  · rw [hwords.said, hrouted]
    refine forall_origin_append h.known ?_
    intro o ho
    cases ho
    exact hmine
  · rw [hwords.told, hrouted]
    intro τ hτ
    rcases List.mem_append.mp hτ with hτ | hτ
    · exact h.heard τ hτ
    · rw [(hwords.heard τ hτ).1]
      exact hmine
  · intro t' ht' told rest hutters
    rcases List.mem_append.mp ht' with ht' | ht'
    · rcases hwords.next with ⟨k, hnone, -, -⟩ | ⟨stage, hsome, -, hstage⟩
      · rw [hnone] at ht'
        cases ht'
      · rw [hsome] at ht'
        obtain rfl := List.mem_singleton.mp ht'
        -- what the step said and was told goes before the rest
        have hbefore := h.underway t List.mem_cons_self _ _ (hstage told rest hutters)
        rw [← List.append_assoc, ← List.append_assoc, ← hwords.saidOf_own, ← hwords.toldOf_own] at hbefore
        exact hbefore
    · have hne := hthreads t' ht'
      rw [hwords.saidOf_other hne, hwords.toldOf_other hne]
      exact h.underway t' (List.mem_cons_of_mem _ ht') told rest hutters
  · have hold : ∀ e ∈ c.concluded, e.occurrence.Utters
        (toldOf e.occurrence.number (t.proceed c).1.told) (saidOf e.occurrence.number (t.proceed c).1.said) := by
      intro e he
      rw [hwords.saidOf_other (hconcluded e he), hwords.toldOf_other (hconcluded e he)]
      exact h.done e he
    intro e he
    rcases hwords.next with ⟨k, -, hmore, hutters⟩ | ⟨stage, -, hsame, -⟩
    · rw [hmore] at he
      rcases List.mem_append.mp he with he | he
      · exact hold e he
      · obtain rfl := List.mem_singleton.mp he
        rw [hwords.saidOf_own, hwords.toldOf_own]
        exact h.underway t List.mem_cons_self news words hutters
    · exact hold e (hsame ▸ he)

/-- Of a message that was not taken in nothing was said. -/
theorem saidOf_upcoming (h : Spoken c threads) : saidOf c.state.routed.length c.said = [] := by
  apply saidOf_eq_nil
  intro m hm
  cases horigin : m.origin with
  | outside => rfl
  | message o => exact isOf_of_ne (Nat.ne_of_lt (h.known m hm o horigin))

/-- Nor was anybody told anything for it. -/
theorem toldOf_upcoming (h : Spoken c threads) : toldOf c.state.routed.length c.told = [] :=
  toldOf_eq_nil fun τ hτ => Nat.ne_of_lt (h.heard τ hτ)

/-- One more value was taken in. What was said for the others stays as it was. -/
theorem take (h : Spoken c threads) {s : State σ} {value : Json}
    (hrouted : s.routed = c.state.routed ++ [value]) : Spoken { c with state := s } threads := by
  have hmore : c.state.routed.length ≤ s.routed.length := by
    rw [hrouted, List.length_append]
    exact Nat.le_add_right _ _
  exact ⟨fun m hm o ho => Nat.lt_of_lt_of_le (h.known m hm o ho) hmore,
    fun τ hτ => Nat.lt_of_lt_of_le (h.heard τ hτ) hmore, h.underway, h.done⟩

/-- A value that was taken in just now is at work. -/
theorem begin (h : Spoken c threads) {s : State σ} {value : Json}
    (hintake : s.intake = c.state.intake.take handler value) {reaction : Reaction}
    (hreaction : (c.state.intake.upcoming handler value).reaction = some reaction) :
    Spoken { c with state := s }
      (⟨c.state.intake.upcoming handler value, replyTo? value, .reacting reaction⟩ :: threads) := by
  have htake := h.take (s := s) (congrArg Intake.routed hintake)
  refine ⟨htake.known, htake.heard, ?_, htake.done⟩
  intro t ht told rest hutters
  rcases List.mem_cons.mp ht with rfl | ht
  · intro reaction' hreaction'
    obtain rfl := Option.some.inj (hreaction.symm.trans hreaction')
    have hsaid : saidOf (c.state.intake.upcoming handler value).number c.said = [] := h.saidOf_upcoming
    have htold : toldOf (c.state.intake.upcoming handler value).number c.told = [] := h.toldOf_upcoming
    rw [hsaid, htold]
    exact hutters
  · exact htake.underway t ht told rest hutters

/-- A value that was taken in just now is concluded without a call of the handler. -/
theorem conclude (h : Spoken c threads) (hanswers : Answers handler memory c threads) {s : State σ}
    {value : Json} (hintake : s.intake = c.state.intake.take handler value)
    (hreaction : (c.state.intake.upcoming handler value).reaction = none) (k : Conclusion) :
    Spoken (({ c with state := s } : Course σ).conclude (c.state.intake.upcoming handler value)
      (replyTo? value) k) threads := by
  have htake := h.take (s := s) (congrArg Intake.routed hintake)
  generalize ho : c.state.intake.upcoming handler value = o at hreaction ⊢
  have hnumber : o.number = c.state.routed.length := by rw [← ho]; rfl
  have hsaid := ({ c with state := s } : Course σ).said_replies o (replyTo? value) k
  have htold := ({ c with state := s } : Course σ).told_conclude o (replyTo? value) k
  have hconcluded := ({ c with state := s } : Course σ).concluded_conclude o (replyTo? value) k
  have hrouted : (({ c with state := s } : Course σ).conclude o (replyTo? value) k).state.routed =
      s.routed := congrArg Intake.routed (Course.intake_conclude _ o (replyTo? value) k)
  have hmore : s.routed.length = c.state.routed.length + 1 := by
    have hvalue : s.routed = c.state.routed ++ [value] := congrArg Intake.routed hintake
    rw [hvalue, List.length_append, List.length_singleton]
  have hothers : ∀ {n}, n < c.state.routed.length →
      saidOf n (({ c with state := s } : Course σ).conclude o (replyTo? value) k).said =
        saidOf n c.said := by
    intro n hn
    rw [hsaid, saidOf_others (isOf_of_ne (by omega))]
  refine ⟨?_, ?_, ?_, ?_⟩
  · rw [hsaid, hrouted]
    refine forall_origin_append htake.known ?_
    intro o' ho'
    cases ho'
    omega
  · rw [htold, hrouted]
    exact htake.heard
  · intro t ht
    rw [hothers (hanswers.number_lt ht), htold]
    exact htake.underway t ht
  · intro e he
    rw [hconcluded] at he
    rcases List.mem_append.mp he with he | he
    · rw [hothers (hanswers.number_lt_of_concluded he), htold]
      exact htake.done e he
    · obtain rfl := List.mem_singleton.mp he
      intro reaction hsome
      rw [hreaction] at hsome
      cases hsome

/-- **One step** of anybody. -/
theorem step (h : Spoken w.toCourse w.atWork) (hanswers : Answers handler memory w.toCourse w.atWork)
    (hstep : Step handler w w') : Spoken w'.toCourse w'.atWork := by
  cases hstep.kind with
  | other words hintake hsaid hconcluded hthreads hloop htold =>
    have hwork : w'.atWork = w.atWork := by rw [World.atWork, World.atWork, hthreads, hloop]
    rw [hwork]
    exact h.other (congrArg Intake.routed hintake) hsaid htold hconcluded
  | concludes hphase hloop hintake hreaction hidle heq =>
    rw [heq, World.atWork, hidle]
    rw [World.atWork_of_waiting hloop] at h hanswers
    exact h.conclude hanswers hintake hreaction _
  | begins hphase hloop hintake hreaction heq =>
    rw [heq]
    rw [World.atWork_of_waiting hloop] at h
    exact h.begin hintake hreaction
  | @reacts t hloop heq =>
    rw [World.atWork_of_busy hloop] at h hanswers
    let w₁ : World σ := { w with toCourse := (t.proceed w.toCourse).1 }
    have hfollow : (w₁.follow (t.proceed w.toCourse).2).atWork ~
        (t.proceed w.toCourse).2.toList ++ w.threads := w₁.atWork_follow _
    rw [heq, World.follow_toCourse]
    exact (h.proceed hanswers).perm hfollow.symm
  | @proceeds t front behind hthreads heq =>
    -- the thread that takes the step comes first, and what is left of it goes back
    have hfirst : w.atWork ~ t :: (w.loop.thread?.toList ++ front ++ behind) := by
      rw [World.atWork, hthreads, ← List.append_assoc]
      exact List.perm_middle
    have hback := List.perm_append_comm_assoc (t.proceed w.toCourse).2.toList
      (w.loop.thread?.toList ++ front) behind
    rw [heq]
    refine ((h.perm hfirst).proceed (hanswers.perm hfirst)).perm ?_
    simpa only [World.atWork, List.append_assoc] using hback

end Spoken

/-- **Whatever happens**, what is said for each message is what the reaction to it says, given what it is told. -/
theorem spoken_run (hrun : Runs handler (World.create config memory) w) : Spoken w.toCourse w.atWork := by
  induction hrun with
  | refl => exact spoken_create config memory
  | tail hbefore hlast ih => exact ih.step (Answers.run hbefore) hlast

end EditorLink.Session
