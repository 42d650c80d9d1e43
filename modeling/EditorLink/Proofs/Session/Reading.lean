import EditorLink.Proofs.Session.Delivery
import EditorLink.Proofs.Session.Scene

/-!
# EditorLink — whether a session reads

Reading ends for a reason, which the session keeps until it is over. Only a writer that is broken can put
another in place of a good one. Whatever else happens in a session leaves its reading alone.

What a session is to end with stands in different places as the end goes on: with the read loop, when it is about to
leave; with the phase, while tasks are waited for and while the writer finishes; and in the result at last. `outcome?`
looks in all of them, so that a reason can be followed from the moment at which it is settled. In the last step a
good outcome may become the fault of the writer; a bad one stays.

The steps of a scene are sorted by what they do to reading (`World.Reads`): a read finds nothing, a value is taken in,
reading ends for one of its reasons, the reason moves on, or nothing of the kind happens. Lemmas on what is routed, on
calls and on the end of a session take these kinds as their cases.

## Results

* `World.outcome?` — what a session is to end with, as soon as that is settled;
* `State.SameReading` — nothing is read, taken in, or given to the handler;
* `World.Reads`, `Inner.reads`, `Happens.reads` — whatever happens is a step of reading, or leaves it alone;
* `World.noted_receive`, `World.outcome?_receive` — a value that is taken in is noted, and only a response that is not
  expected ends the reading.
-/

namespace EditorLink.Session

open Message (CallFault)

variable {σ : Type}

/-- What is settled once reading is over. -/
def Phase.outcome? : Phase → Option (Except CallFault Unit)
  | .draining outcome => some outcome
  | .flushing outcome => some outcome
  | .ended result => some result
  | _ => none

def Loop.outcome? : Loop → Option (Except CallFault Unit)
  | .leaving outcome => some outcome
  | _ => none

/-- What a session is to end with, as soon as that is settled. -/
def World.outcome? (w : World σ) : Option (Except CallFault Unit) :=
  w.state.phase.outcome?.or w.loop.outcome?

/-- What the phase holds is the outcome. -/
theorem World.outcome?_of_phase {w : World σ} {outcome : Except CallFault Unit}
    (h : w.state.phase.outcome? = some outcome) : w.outcome? = some outcome := by
  rw [outcome?, h, Option.some_or]

/-- The outcome depends on phase and read loop only. -/
theorem World.outcome?_congr {w w' : World σ} (hphase : w'.state.phase = w.state.phase)
    (hloop : w'.loop = w.loop) : w'.outcome? = w.outcome? := by
  rw [outcome?, outcome?, hphase, hloop]

/-- A session that goes on to another phase, which settles what the one before it did. -/
theorem World.outcome?_rephase {w w' : World σ}
    (hphase : w'.state.phase.outcome? = w.state.phase.outcome?) (hloop : w'.loop = w.loop) :
    w'.outcome? = w.outcome? := by
  rw [outcome?, outcome?, hphase, hloop]

/-- Whoever follows a thread does not leave. -/
theorem World.outcome?_follow (w : World σ) (t : Option Thread) : (w.follow t).loop.outcome? = none := by
  unfold follow
  split
  · rfl
  · split <;> rfl

-- ---------------------------------------------------------------------------
-- Leaving the reading alone
-- ---------------------------------------------------------------------------

namespace State

/-- The calls of the handler, in order. -/
def calls (s : State σ) : List (String × Json) := s.history.reverse.filterMap Observed.call?

theorem calls_of_history {s s' : State σ} (h : s'.history = s.history) : s'.calls = s.calls := by
  rw [calls, h, calls]

theorem calls_record {e : Event} (h : Observed.call? e = none) (s : State σ) :
    (s.record e).calls = s.calls := by
  simp [calls, record, h]

/-- The reader, what was taken in, and the calls of the handler stay as they are. -/
structure SameReading (s s' : State σ) : Prop where
  reader : s'.reader = s.reader
  config : s'.config = s.config
  intake : s'.intake = s.intake
  calls : s'.calls = s.calls

variable {s s' s'' : State σ}

namespace SameReading

theorem routed (h : s.SameReading s') : s'.routed = s.routed := congrArg Intake.routed h.intake

theorem refl (s : State σ) : s.SameReading s := ⟨rfl, rfl, rfl, rfl⟩

theorem trans (h : s.SameReading s') (h' : s'.SameReading s'') : s.SameReading s'' :=
  ⟨h'.reader.trans h.reader, h'.config.trans h.config, h'.intake.trans h.intake,
    h'.calls.trans h.calls⟩

/-- A quiet step leaves reading alone. -/
theorem of_quiet (h : s.Quiet s') : s.SameReading s' :=
  ⟨h.reader, h.config, congrArg Standing.intake h.standing, calls_of_history h.history⟩

end SameReading

theorem sameReading_send (s : State σ) (m : Message.Outgoing) : s.SameReading (s.send m).2 := by
  cases h : s.accepting with
  | true =>
    have hquiet := quiet_send h m
    have hcalls := calls_of_history hquiet.history
    refine ⟨hquiet.reader, hquiet.config, congrArg Standing.intake (standing_send h m), ?_⟩
    exact hcalls.trans (s.calls_record (e := .queued _) rfl)
  | false =>
    rw [send_of_not_accepting h]
    exact .refl s

theorem sameReading_start (s : State σ) : s.SameReading s.start := by
  obtain ⟨phase, h⟩ := s.quiet_start
  have hphase : s.SameReading { s with phase } := ⟨rfl, rfl, rfl, rfl⟩
  exact hphase.trans (.of_quiet h)

theorem sameReading_abort (s : State σ) : s.SameReading s.abort := by
  rw [abort]
  split <;> exact ⟨rfl, rfl, rfl, rfl⟩

theorem sameReading_stop (s : State σ) (outcome : Except CallFault Unit) :
    s.SameReading (s.stop outcome) := ⟨rfl, rfl, rfl, rfl⟩

theorem sameReading_beginFlushing (s : State σ) (outcome : Except CallFault Unit) :
    s.SameReading (s.beginFlushing outcome) := by
  rw [beginFlushing, command]
  split
  · have hqueue : s.SameReading { s with phase := .flushing outcome, queue := s.queue ++ [.stop] } :=
      ⟨rfl, rfl, rfl, rfl⟩
    exact hqueue.trans (.of_quiet (quiet_wakeWriter _))
  · exact ⟨rfl, rfl, rfl, rfl⟩

theorem phase_beginFlushing (s : State σ) (outcome : Except CallFault Unit) :
    (s.beginFlushing outcome).phase = .flushing outcome := by
  rw [beginFlushing, command]
  split
  · exact (quiet_wakeWriter _).phase
  · rfl

theorem sameReading_finishFlushing (s : State σ) : s.SameReading s.finishFlushing := by
  obtain ⟨phase, h⟩ := s.quiet_finishFlushing
  have hphase : s.SameReading { s with phase } := ⟨rfl, rfl, rfl, rfl⟩
  exact hphase.trans (.of_quiet h)

end State

/-- The writer leaves reading alone. -/
theorem Writing.sameReading {s s' : State σ} (h : Writing s s') : s.SameReading s' := by
  refine ⟨?_, ?_, h.intake, ?_⟩ <;> cases h with
  | take => unfold State.takeCommand; split <;> rfl
  | push n =>
    unfold State.push
    split
    · first | rfl | exact State.calls_record rfl _
    · rfl
  | flush => unfold State.flush; split <;> rfl
  | fail hwriting reason => rfl
  | crash hwriting => rfl

theorem Course.sameReading_conclude (c : Course σ) (o : Occurrence)
    (replyTo : Option Message.RequestId) (k : Conclusion) :
    c.state.SameReading (c.conclude o replyTo k).state := by
  obtain ⟨id, outcome, -, -, h⟩ | ⟨-, h⟩ := c.conclude_cases o replyTo k <;> rw [h]
  · exact (c.note o k).state.sameReading_send _
  · exact .refl _

theorem Thread.sameReading_proceed (t : Thread) (c : Course σ) :
    c.state.SameReading (t.proceed c).1.state := by
  obtain ⟨s, told, h, hs⟩ | ⟨m, h⟩ | ⟨k, h⟩ := t.proceed_quiet c <;> rw [h]
  · exact .of_quiet hs
  · exact c.state.sameReading_send m
  · exact c.sameReading_conclude _ _ _

-- ---------------------------------------------------------------------------
-- By itself
-- ---------------------------------------------------------------------------

variable {handler : Handler σ} {w w' : World σ}

/-- How a session changes that leaves its reading alone: it goes on to the end that is settled, or finds
another when its writer is broken. -/
structure World.LeavesReading (w w' : World σ) : Prop where
  same : w.state.SameReading w'.state
  outcome : w'.outcome? = w.outcome? ∨ ∃ verdict, State.Writer.verdict? w.state.writer = some verdict ∧
    w.outcome? = some (.ok ()) ∧ w'.outcome? = some verdict

/-- Phase and read loop are the same, and nothing was read. -/
theorem World.LeavesReading.of_same (hsame : w.state.SameReading w'.state)
    (hphase : w'.state.phase = w.state.phase) (hloop : w'.loop = w.loop) : w.LeavesReading w' :=
  ⟨hsame, .inl (World.outcome?_congr hphase hloop)⟩

/-- How a session changes as to its reading. -/
inductive World.Reads (handler : Handler σ) (w : World σ) : World σ → Prop
  | leaves {w' : World σ} (hleaves : w.LeavesReading w') : Reads handler w w'
  | waits {reader : Framing.FrameReader} (hphase : w.state.phase = .reading) (hloop : w.loop = .waiting)
    (hnext : w.state.reader.next = (.waiting, reader)) :
    Reads handler w { w with state := { w.state with reader } }
  | takes {value : Json} {reader : Framing.FrameReader} (hphase : w.state.phase = .reading)
    (hloop : w.loop = .waiting) (hnext : w.state.reader.next = (.frame value, reader)) :
    Reads handler w ({ w with state := { w.state with reader } }.receive handler value)
  | ceases {s : State σ} {outcome : Except CallFault Unit} (hphase : w.state.phase = .reading)
    (hloop : w.loop = .waiting) (hcease : Ceases w.state s outcome) :
    Reads handler w { w with state := s, loop := .leaving outcome }

/-- A session that waits in its read loop is to end with nothing yet. -/
theorem World.outcome?_of_reading (hphase : w.state.phase = .reading) (hloop : w.loop = .waiting) :
    w.outcome? = none := by
  rw [outcome?, hphase, hloop]
  rfl

/-- **By itself** a session reads, or leaves its reading alone. -/
theorem Inner.reads (h : Inner handler w w') (horder : Orderly w) : w.Reads handler w' := by
  cases h with
  | start =>
    refine .leaves ⟨w.state.sameReading_start, .inl (World.outcome?_rephase ?_ rfl)⟩
    rcases w.state.standing_start with hs | ⟨hphase, hs⟩
    · exact congrArg Phase.outcome? (State.phase_eq_of_standing hs)
    · have hphase' : w.state.start.phase = .reading := congrArg Standing.phase hs
      rw [hphase, hphase']
      rfl
  | abort =>
    refine .leaves ⟨w.state.sameReading_abort, .inl (World.outcome?_rephase ?_ rfl)⟩
    rcases w.state.standing_abort with hs | ⟨hphase, hphase'⟩
    · exact congrArg Phase.outcome? (State.phase_eq_of_standing hs)
    · rw [hphase, hphase']
      rfl
  | write hrunning hwrite => exact .leaves (.of_same hwrite.sameReading hwrite.phase rfl)
  | await hphase hloop hnext => exact .waits hphase hloop hnext
  | receive hphase hloop hnext => exact .takes hphase hloop hnext
  | cease hphase hloop hcease => exact .ceases hphase hloop hcease
  -- a read loop that is at work, or goes on, has settled nothing
  | @react t hloop =>
    refine .leaves ⟨?_, .inl ?_⟩
    · rw [World.follow_toCourse]
      exact t.sameReading_proceed w.toCourse
    · rw [World.outcome?, World.outcome?_follow, World.follow_toCourse, t.phase_proceed,
        World.outcome?, hloop]
      rfl
  | @leave outcome hloop =>
    have hphase : w.state.phase = .reading := horder.reading.resolve_left (by simp [hloop])
    refine .leaves ⟨w.state.sameReading_stop outcome, .inl ?_⟩
    rw [World.outcome?, World.outcome?, hphase, hloop]
    rfl
  | @proceed t front behind hthreads =>
    exact .leaves (.of_same (t.sameReading_proceed w.toCourse) (t.phase_proceed w.toCourse) rfl)
  | @drain outcome hphase hthreads =>
    refine .leaves ⟨w.state.sameReading_beginFlushing outcome, .inl (World.outcome?_rephase ?_ rfl)⟩
    rw [w.state.phase_beginFlushing, hphase]
    rfl
  | finish =>
    refine .leaves ⟨w.state.sameReading_finishFlushing, ?_⟩
    rw [State.finishFlushing]
    split
    · rename_i hphase hverdict
      exact .inl (World.outcome?_rephase (by rw [hphase]; rfl) rfl)
    -- what the writer says counts when reading ended well
    · rename_i verdict hphase hverdict
      refine .inr ⟨verdict, hverdict, World.outcome?_of_phase ?_, World.outcome?_of_phase rfl⟩
      rw [hphase]
      rfl
    · exact .inl rfl

/-- **In a scene** something arrives, or the session reads, or leaves its reading alone. -/
theorem Happens.reads {sc sc' : Scene σ} (h : Happens handler sc sc') (horder : Orderly sc.toWorld) :
    (∃ a, sc' = { sc with state := sc.state.arrive a, arrived := sc.arrived ++ [a] }) ∨
      sc'.arrived = sc.arrived ∧ sc.toWorld.Reads handler sc'.toWorld := by
  -- whoever says something or deals with the desk leaves the reading alone
  have hquiet : ∀ {s : State σ} {told : List Telling}, sc.state.Quiet s →
      sc.toWorld.Reads handler { sc.toWorld with state := s, told } :=
    fun hs => .leaves (.of_same (.of_quiet hs) hs.phase rfl)
  cases h with
  | inner hinner => exact .inr ⟨rfl, hinner.reads horder⟩
  | arrive a => exact .inl ⟨a, rfl⟩
  | meet peer => exact .inr ⟨rfl, .leaves (.of_same ⟨rfl, rfl, rfl, rfl⟩ rfl rfl)⟩
  | elapse nanos => exact .inr ⟨rfl, .leaves (.of_same ⟨rfl, rfl, rfl, rfl⟩ rfl rfl)⟩
  | close => exact .inr ⟨rfl, hquiet rfl⟩
  | notify method params =>
    exact .inr ⟨rfl, .leaves (.of_same (sc.state.sameReading_send _) (sc.phase_say _ _) rfl)⟩
  | call method params => exact .inr ⟨rfl, hquiet rfl⟩
  | @carry e front behind hcallers =>
    refine .inr ⟨rfl, ?_⟩
    obtain ⟨ticket, method, params, -, h⟩ | ⟨s, told, h, hs⟩ := e.proceed_cases .outside sc.toCourse
    · simp only [h]
      exact .leaves (.of_same (sc.state.sameReading_send _) (sc.phase_say _ _) rfl)
    · simp only [h]
      exact hquiet hs
  | drop hcallers => exact .inr ⟨rfl, hquiet rfl⟩

-- ---------------------------------------------------------------------------
-- Taking in
-- ---------------------------------------------------------------------------

namespace World

/-- **A value that is taken in** is noted, and the handler is called for it if it is a call. -/
theorem noted_receive (handler : Handler σ) (w : World σ) (value : Json) :
    (w.receive handler value).state.reader = w.state.reader ∧
      (w.receive handler value).state.config = w.state.config ∧
      (w.receive handler value).state.routed = w.state.routed ++ [value] ∧
      (w.receive handler value).state.calls = w.state.calls ++ (callOf? value).toList := by
  have hquiet := w.state.quiet_receive handler value
  have hrouted : (w.state.receive handler value).state.routed = w.state.routed ++ [value] := by
    have hintake := congrArg Standing.intake (w.state.standing_receive handler value)
    exact congrArg Intake.routed hintake
  have hcalls : (w.state.receive handler value).state.calls =
      w.state.calls ++ (callOf? value).toList := by
    rw [State.calls_of_history hquiet.history, State.noted, State.calls, State.calls]
    rcases callOf? value with _ | ⟨method, params⟩
    · simp [Observed.call?]
    · simp only [Option.map_some, Option.toList_some, List.singleton_append, List.reverse_cons,
        List.append_assoc, List.filterMap_append]
      rfl
  -- what is told of the value changes none of this
  have hsame : (w.state.receive handler value).state.SameReading (w.receive handler value).state := by
    let c : Course σ := { w.toCourse with state := (w.state.receive handler value).state }
    obtain h | ⟨o, replyTo, k, h⟩ := w.course_receive handler value <;> rw [h]
    · exact .refl _
    · exact c.sameReading_conclude o replyTo k
  exact ⟨hsame.reader.trans hquiet.reader, hsame.config.trans hquiet.config,
    hsame.routed.trans hrouted, hsame.calls.trans hcalls⟩

/-- **Only a response that is not expected** ends the reading of a session that takes it in. -/
theorem outcome?_receive (handler : Handler σ) (hphase : w.state.phase = .reading)
    (hloop : w.loop = .waiting) (value : Json) :
    (w.receive handler value).outcome? = none ∨
      ∃ id outcome fault, Message.classify value = .ok (.response id outcome) ∧
        (w.state.record (.routed value)).settleResponse id outcome = .error fault ∧
        (w.receive handler value).outcome? = some (.error fault) := by
  have hreads : (w.receive handler value).state.phase.outcome? = none := by
    rw [phase_receive, hphase]
    rfl
  rw [outcome?, hreads, Option.none_or]
  cases hclass : Message.classify value with
  | error malformed =>
    refine .inl ?_
    simp only [receive, State.receive, hclass, hloop]
    rfl
  | ok message =>
    cases message with
    | request id method params =>
      refine .inl ?_
      simp only [receive, State.receive, State.call, hclass]
      rfl
    | notification method params =>
      refine .inl ?_
      simp only [receive, State.receive, State.call, hclass]
      rfl
    | response id outcome =>
      cases hsettle : (w.state.record (.routed value)).settleResponse id outcome with
      | ok s =>
        refine .inl ?_
        simp only [receive, State.receive, hclass, hsettle, hloop]
        rfl
      | error fault =>
        refine .inr ⟨id, outcome, fault, rfl, hsettle, ?_⟩
        simp only [receive, State.receive, hclass, hsettle]
        rfl

end World

end EditorLink.Session
