import EditorLink.Proofs.Session.Interleaving

/-!
# EditorLink — what is said is written

As long as no write fails, everything that is said goes through the queue and is written in the
order in which it was said. The writer is told to stop when no message is handled any more, so that
what comes behind the command to stop was said outside.

The lane is the way of a saying: it is delivered, or it is being written, or it waits in the queue. A session that was
told to stop has sayings of those outside behind the command, which are lost, and a session whose writer broke may
have lost anything. These are the ways in which a lane can stand, and each step leads from one of them to another.

Two facts about the end carry the result. The command to stop is queued when no thread is left (`Orderly`), so that no
response is said behind it; and a session ends only when its writer has come to that command or is broken. Those
outside may say something at any time, also when the session has ended.

## Results

* `Orderly` — when messages are handled and when not;
* `Lane` — where the sayings are: written, in the queue, or lost behind the command to stop;
* `Lane.step`, `lane_run` — every step keeps them there;
* `Lane.written` — at the end all that was said of messages is written.
-/

namespace EditorLink.Session

open Message (CallFault Outgoing RequestId)

-- ---------------------------------------------------------------------------
-- Phases
-- ---------------------------------------------------------------------------

/-- Whether no message is handled any more. -/
def Phase.isOver : Phase → Bool
  | .flushing _ => true
  | .ended _ => true
  | _ => false

/-- Whether a write failed. -/
def Writer.isBroken : Writer → Bool
  | .failed _ => true
  | .crashed => true
  | _ => false

/-- What a writer that is not at its end has still to write of its frame. -/
def Writer.left? : Writer → Option Bytes
  | .ready => some []
  | .writing left => some left
  | _ => none

variable {σ : Type}

namespace State

/-- Nothing is taken by a writer at its end. -/
theorem not_accepting_of_left?_none {s : State σ} (h : s.writer.left? = none) :
    s.accepting = false := by
  rw [accepting]
  split <;> simp_all [Writer.left?]

/-- Frames are taken as long as the session was not given up and its writer is there. -/
theorem accepting_iff (s : State σ) :
    s.accepting = true ↔ s.phase ≠ .discarded ∧ ∃ left, s.writer.left? = some left := by
  rw [accepting]
  split <;> simp_all [Writer.left?]

end State

-- ---------------------------------------------------------------------------
-- When messages are handled
-- ---------------------------------------------------------------------------

/-- The read loop is at work only while the session reads, and when all is over no
thread is left. -/
structure Orderly (w : World σ) : Prop where
  reading : w.loop = .waiting ∨ w.state.phase = .reading
  closing : w.state.phase.isOver = true → w.threads = []

/-- A session that was not started handles nothing. -/
theorem orderly_create (config : Config) (memory : σ) : Orderly (World.create config memory) :=
  ⟨.inl rfl, fun _ => rfl⟩

/-- Nothing that leaves the phase disturbs the order. -/
theorem Orderly.congr {w : World σ} (h : Orderly w) {c : Course σ}
    (hphase : c.state.phase = w.state.phase) :
    Orderly { w with toCourse := c } := by
  refine ⟨h.reading.imp_right hphase.trans, ?_⟩
  intro hover
  have hover' : w.state.phase.isOver = true := by rw [← hphase]; exact hover
  exact h.closing hover'

/-- A session that does not read may go on to another phase. -/
theorem Orderly.rephase {w : World σ} (h : Orderly w) (hphase : w.state.phase ≠ .reading)
    {c : Course σ}
    (hover : c.state.phase.isOver = true → w.threads = []) : Orderly { w with toCourse := c } :=
  ⟨.inl (h.reading.resolve_right hphase), hover⟩

/-- A session that reads is in order whatever goes on. -/
theorem orderly_of_reading {w : World σ} (h : w.state.phase = .reading) : Orderly w := by
  refine ⟨.inr h, ?_⟩
  intro hover
  rw [h] at hover
  cases hover

/-- **Every step** keeps the order of a session. -/
theorem Orderly.step {handler : Handler σ} {w w' : World σ} (h : Orderly w)
    (hstep : Step handler w w') :
    Orderly w' := by
  cases hstep with
  | outer houter => exact h.congr (State.phase_eq_of_standing houter.standing)
  | say hm => exact h.congr (w.phase_say _ _)
  | start =>
    rcases w.state.standing_start with heq | ⟨-, heq⟩
    · exact h.congr (State.phase_eq_of_standing heq)
    · exact orderly_of_reading (congrArg Standing.phase heq)
  | abort =>
    rcases w.state.standing_abort with heq | ⟨hphase, heq⟩
    · exact h.congr (State.phase_eq_of_standing heq)
    · refine h.rephase (by simp [hphase]) ?_
      intro hover
      simp [heq, Phase.isOver] at hover
  | write hrunning hwrite => exact h.congr hwrite.phase
  | await hphase hloop hnext => exact h.congr rfl
  | receive hphase hloop hnext =>
    exact orderly_of_reading ((World.phase_receive _ _ _).trans hphase)
  | cease hphase hloop hcease =>
    exact orderly_of_reading ((State.phase_eq_of_standing hcease.standing).trans hphase)
  -- only a session that reads has a busy read loop
  | @react t hloop =>
    have hphase : w.state.phase = .reading := h.reading.resolve_left (by simp [hloop])
    refine orderly_of_reading ?_
    rw [World.follow_toCourse]
    exact (t.phase_proceed _).trans hphase
  | leave hloop => exact ⟨.inl rfl, nofun⟩
  | @proceed t front behind hthreads =>
    have hphase := t.phase_proceed w.toCourse
    refine ⟨h.reading.imp_right hphase.trans, ?_⟩
    intro hover
    -- a step of a thread keeps the phase, and there is a thread
    have hover' : w.state.phase.isOver = true := by rw [← hphase]; exact hover
    have hnone : w.threads = [] := h.closing hover'
    simp [hthreads] at hnone
  | drain hphase hthreads =>
    have hkept : w.state.phase ≠ .reading := by simp [hphase]
    exact h.rephase hkept fun _ => hthreads
  | finish =>
    rcases w.state.standing_finishFlushing with heq | ⟨outcome, result, verdict, hphase, -, -⟩
    · exact h.congr (State.phase_eq_of_standing heq)
    · have hover : w.state.phase.isOver = true := by rw [hphase]; rfl
      exact h.rephase (by simp [hphase]) fun _ => h.closing hover

-- ---------------------------------------------------------------------------
-- Where the sayings are
-- ---------------------------------------------------------------------------

def Saying.command (m : Saying) : Command := .send m.frame

/-- A writer that is there has written these sayings, but for what is left of the last. -/
structure Writes (c : Course σ) (delivered : List Saying) : Prop where
  phase : c.state.phase ≠ .discarded
  written : ∃ left, c.state.writer.left? = some left ∧
    c.state.output ++ left = delivered.flatMap Saying.frame

/-- What stands in the queue behind the sayings that will be written: nothing, or when all is over
the command to stop and what was said outside since. -/
inductive Behind (phase : Phase) : List Command → List Saying → Prop
  | nothing (hover : phase.isOver = false) : Behind phase [] []
  | stop {late : List Saying} {outcome : Except CallFault Unit} (hphase : phase = .flushing outcome)
    (hlate : ∀ m ∈ late, m.origin = .outside) : Behind phase (.stop :: late.map Saying.command) late

/-- Where the sayings are. -/
inductive Lane (c : Course σ) : Prop
  /-- A write failed, or the session was given up. -/
  | lost (hlost : c.state.writer.isBroken = true ∨ c.state.phase = .discarded)
  | alive (delivered waiting late : List Saying) {behind : List Command}
    (hwrites : Writes c delivered) (hsaid : c.said = delivered ++ waiting ++ late)
    (hqueue : c.state.queue = waiting.map Saying.command ++ behind)
    (hbehind : Behind c.state.phase behind late)
  /-- The writer was told to stop. -/
  | stopped (delivered late : List Saying) (hstopped : c.state.writer = .stopped)
    (hover : c.state.phase.isOver = true)
    (houtput : c.state.output = delivered.flatMap Saying.frame)
    (hsaid : c.said = delivered ++ late) (hlate : ∀ m ∈ late, m.origin = .outside)

/-- A writer that is at work takes frames. -/
theorem Writes.accepting {c : Course σ} {delivered : List Saying} (h : Writes c delivered) :
    c.state.accepting = true :=
  (State.accepting_iff _).mpr ⟨h.phase, h.written.imp fun _ hw => hw.1⟩

/-- What a writer does matters only by its output and by what is left. -/
theorem Writes.congr {c c' : Course σ} {delivered : List Saying} (h : Writes c delivered)
    (hphase : c'.state.phase ≠ .discarded) (hwriter : c'.state.writer = c.state.writer)
    (houtput : c'.state.output = c.state.output) : Writes c' delivered :=
  ⟨hphase, by rw [hwriter, houtput]; exact h.written⟩

/-- A broken writer has nothing in hand. -/
theorem Writer.left?_of_isBroken {w : Writer} (h : w.isBroken = true) : w.left? = none := by
  cases w <;> first | rfl | cases h

theorem lane_create (config : Config) (memory : σ) :
    Lane (World.create config memory).toCourse := by
  -- nothing is written of nothing, and nothing is queued
  have hwrites : Writes (World.create config memory).toCourse [] := ⟨nofun, [], rfl, rfl⟩
  exact .alive [] [] [] hwrites rfl rfl (.nothing rfl)

namespace Lane

variable {c c' : Course σ}

/-- What was taken in does not matter. -/
theorem congr (h : Lane c) {intake : Intake σ}
    (hs : c'.state.standing = { c.state.standing with intake }) (hsaid : c'.said = c.said) :
    Lane c' := by
  have hphase : c'.state.phase = c.state.phase := congrArg Standing.phase hs
  have hwriter : c'.state.writer = c.state.writer := congrArg Standing.writer hs
  have houtput : c'.state.output = c.state.output := congrArg Standing.output hs
  cases h with
  | lost hlost => exact .lost (by rwa [hwriter, hphase])
  | alive delivered waiting late hwrites hs' hqueue hbehind =>
    exact .alive delivered waiting late (hwrites.congr (hphase ▸ hwrites.phase) hwriter houtput)
      (hsaid.trans hs')
      ((congrArg Standing.queue hs).trans hqueue) (hphase ▸ hbehind)
  | stopped delivered late hstopped hover hout hs' hlate =>
    exact .stopped delivered late (hwriter.trans hstopped) (hphase ▸ hover) (houtput.trans hout)
      (hsaid.trans hs') hlate

/-- Somebody says something. When all is over nobody does but those outside. -/
theorem say (h : Lane c) {origin : Origin} (m : Outgoing)
    (horigin : c.state.phase.isOver = true → origin = .outside) : Lane (c.say origin m).2 := by
  have hphase := c.phase_say origin m
  cases h with
  -- what is said into a broken session may be lost
  | lost hlost =>
    obtain ⟨queue, hs⟩ := c.state.standing_send_eq m
    have hwriter : (c.say origin m).2.state.writer = c.state.writer := congrArg Standing.writer hs
    exact .lost (by rwa [hphase, hwriter])
  | alive delivered waiting late hwrites hsaid hqueue hbehind =>
    have hs : (c.say origin m).2.state.standing = _ := State.standing_send hwrites.accepting m
    have hwrites' : Writes (c.say origin m).2 delivered :=
      hwrites.congr (hphase ▸ hwrites.phase) (congrArg Standing.writer hs)
        (congrArg Standing.output hs)
    have hqueue' : (c.say origin m).2.state.queue = _ := congrArg Standing.queue hs
    cases hbehind with
    -- the saying waits behind the others
    | nothing hover =>
      refine .alive delivered (waiting ++ [⟨origin, m⟩]) [] hwrites' ?_ ?_
        (.nothing (hphase ▸ hover))
      · simp [Course.say, hsaid]
      · simp [hqueue', hqueue, Saying.command, Saying.frame]
    -- the command to stop is in the queue, and the saying comes behind it
    | stop hflushing hlate =>
      have hover : c.state.phase.isOver = true := by rw [hflushing]; rfl
      have houtside : origin = .outside := horigin hover
      refine .alive delivered waiting (late ++ [⟨origin, m⟩]) hwrites' ?_ ?_
        (.stop (hphase.trans hflushing) ?_)
      · simp [Course.say, hsaid]
      · simp [hqueue', hqueue, Saying.command, Saying.frame]
      · simpa [or_imp, forall_and, houtside] using hlate
  | stopped delivered late hstopped hover houtput hsaid hlate =>
    -- the writer has stopped: the frame goes nowhere
    have hrefuses : c.state.accepting = false :=
      State.not_accepting_of_left?_none (by rw [hstopped]; rfl)
    have hstate : (c.say origin m).2.state = c.state := by
      rw [Course.say, State.send_of_not_accepting hrefuses]
    refine .stopped delivered (late ++ [⟨origin, m⟩]) (hstate ▸ hstopped) (hstate ▸ hover)
      (hstate ▸ houtput) ?_ ?_
    · simp [Course.say, hsaid]
    · simpa [or_imp, forall_and, horigin hover] using hlate

/-- A message of a session that is not over comes to its conclusion. -/
theorem conclude (h : Lane c) (hopen : c.state.phase.isOver = false) (o : Occurrence)
    (replyTo : Option RequestId) (k : Conclusion) : Lane (c.conclude o replyTo k) := by
  have hnote : Lane (c.note o k) := h.congr rfl rfl
  obtain ⟨id, outcome, -, -, heq⟩ | ⟨-, heq⟩ := c.conclude_cases o replyTo k
  · rw [heq]
    refine hnote.say _ ?_
    intro hover
    simp [Course.note, hopen] at hover
  · rw [heq]
    exact hnote

/-- **A step of a thread** leaves the lane in order, as long as messages are handled. -/
theorem proceed (h : Lane c) (hopen : c.state.phase.isOver = false) (t : Thread) :
    Lane (t.proceed c).1 := by
  obtain ⟨s, told, stage, heq, hs, -⟩ | ⟨m, stage, heq, -⟩ | ⟨k, heq, -⟩ := t.proceed_cases c
  · rw [heq]
    exact h.congr hs rfl
  · rw [heq]
    refine h.say m ?_
    intro hover
    simp [hopen] at hover
  · rw [heq]
    exact h.conclude hopen _ _ _

end Lane

-- ---------------------------------------------------------------------------
-- The writer
-- ---------------------------------------------------------------------------

/-- A writer at its end does nothing more. -/
theorem Writing.eq_of_left?_none {s s' : State σ} (h : Writing s s')
    (hnone : s.writer.left? = none) :
    s' = s := by
  cases h with
  | take => unfold State.takeCommand; split <;> simp_all [Writer.left?]
  | push n => unfold State.push; split <;> simp_all [Writer.left?]
  | flush => unfold State.flush; split <;> simp_all [Writer.left?]
  | fail hwriting reason => simp [hwriting, Writer.left?] at hnone
  | crash hwriting => simp [hwriting, Writer.left?] at hnone

namespace State

variable {s : State σ}

theorem takeCommand_of_send {frame : Bytes} {queue : List Command} (hwriter : s.writer = .ready)
    (hqueue : s.queue = .send frame :: queue) :
    s.takeCommand = { s with writer := .writing frame, queue } := by
  simp [takeCommand, hwriter, hqueue]

theorem takeCommand_of_stop {queue : List Command} (hwriter : s.writer = .ready)
    (hqueue : s.queue = .stop :: queue) :
    s.takeCommand = { s with writer := .stopped, queue := [] } := by
  simp [takeCommand, hwriter, hqueue]

theorem takeCommand_of_nil (hqueue : s.queue = []) : s.takeCommand = s := by
  simp [takeCommand, hqueue]

theorem takeCommand_of_writing {left : Bytes} (hwriter : s.writer = .writing left) :
    s.takeCommand = s := by
  simp [takeCommand, hwriter]

theorem push_of_writing {left : Bytes} (hwriter : s.writer = .writing left) (n : Nat) :
    s.push n = { s with writer := .writing (left.drop n) }.record (.wrote (left.take n)) := by
  simp [push, hwriter]

end State

/-- A writer that is there is ready, or it is in the middle of a frame. -/
theorem Writer.of_left? {w : Writer} {left : Bytes} (h : w.left? = some left) :
    w = .ready ∧ left = [] ∨ w = .writing left := by
  cases w <;> simp_all [left?]

section Alive

variable {c : Course σ} {delivered waiting late : List Saying} {behind : List Command}
  (hwrites : Writes c delivered) (hsaid : c.said = delivered ++ waiting ++ late)
  (hqueue : c.state.queue = waiting.map Saying.command ++ behind)
  (hbehind : Behind c.state.phase behind late)

include hwrites hsaid hqueue hbehind

/-- The writer takes the next command: a saying, or the one to stop. -/
theorem lane_takeCommand : Lane { c with state := c.state.takeCommand } := by
  obtain ⟨left, hleft, hwritten⟩ := hwrites.written
  rcases Writer.of_left? hleft with ⟨hready, rfl⟩ | hwriting
  -- ready: all of what it took before is out
  · rw [List.append_nil] at hwritten
    cases waiting with
    | cons m waiting =>
      rw [State.takeCommand_of_send hready hqueue]
      refine .alive (delivered ++ [m]) waiting late ⟨hwrites.phase, m.frame, rfl, ?_⟩ ?_ rfl hbehind
      · show c.state.output ++ m.frame = _
        rw [hwritten, List.flatMap_append, List.flatMap_singleton]
      · rw [hsaid, List.append_cons]
    | nil =>
      cases hbehind with
      | nothing hover =>
        rw [State.takeCommand_of_nil hqueue]
        exact .alive delivered [] [] hwrites hsaid hqueue (.nothing hover)
      -- the sayings have run out, so that the next command is the one to stop; what is behind it is
      -- lost
      | stop hflushing hlate =>
        rw [State.takeCommand_of_stop hready hqueue]
        have hover : c.state.phase.isOver = true := by rw [hflushing]; rfl
        have hsaid' : c.said = delivered ++ late := by rw [hsaid, List.append_nil]
        exact .stopped delivered late rfl hover hwritten hsaid' hlate
  -- in the middle of a frame nothing is taken
  · rw [State.takeCommand_of_writing hwriting]
    exact .alive delivered waiting late hwrites hsaid hqueue hbehind

/-- What is taken of a frame is not left of it. -/
theorem lane_push (n : Nat) : Lane { c with state := c.state.push n } := by
  obtain ⟨left, hleft, hwritten⟩ := hwrites.written
  rcases Writer.of_left? hleft with ⟨hready, rfl⟩ | hwriting
  · have hidle : c.state.push n = c.state := by simp [State.push, hready]
    rw [hidle]
    exact .alive delivered waiting late hwrites hsaid hqueue hbehind
  · rw [State.push_of_writing hwriting]
    refine .alive delivered waiting late ⟨hwrites.phase, left.drop n, rfl, ?_⟩ hsaid hqueue hbehind
    -- the bytes move from what is left to what is out
    rw [State.output_record]
    show c.state.output ++ left.take n ++ left.drop n = _
    rw [List.append_assoc, List.take_append_drop, hwritten]

theorem lane_flush : Lane { c with state := c.state.flush } := by
  have hstay : Lane c := .alive delivered waiting late hwrites hsaid hqueue hbehind
  obtain ⟨left, hleft, hwritten⟩ := hwrites.written
  rw [State.flush]
  split
  · rename_i hwriting
    rw [hwriting] at hleft
    cases hleft
    exact .alive delivered waiting late ⟨hwrites.phase, [], rfl, hwritten⟩ hsaid hqueue hbehind
  · exact hstay

end Alive

namespace Lane

variable {c : Course σ}

/-- Whatever the writer does, the sayings stay in their lane. -/
theorem write (h : Lane c) {s : State σ} (hwrite : Writing c.state s) :
    Lane { c with state := s } := by
  cases h with
  -- a broken writer does nothing, and a session that was given up stays so
  | lost hlost =>
    rcases hlost with hbroken | hdiscarded
    · have hidle : s = c.state := hwrite.eq_of_left?_none (Writer.left?_of_isBroken hbroken)
      rw [hidle]
      exact .lost (.inl hbroken)
    · exact .lost (.inr (hwrite.phase.trans hdiscarded))
  | stopped delivered late hstopped hover houtput hsaid hlate =>
    have hnone : c.state.writer.left? = none := by rw [hstopped]; rfl
    have hidle : s = c.state := hwrite.eq_of_left?_none hnone
    rw [hidle]
    exact .stopped delivered late hstopped hover houtput hsaid hlate
  | alive delivered waiting late hwrites hsaid hqueue hbehind =>
    cases hwrite with
    | take => exact lane_takeCommand hwrites hsaid hqueue hbehind
    | push n => exact lane_push hwrites hsaid hqueue hbehind n
    | flush => exact lane_flush hwrites hsaid hqueue hbehind
    | fail hwriting reason => exact .lost (.inl rfl)
    | crash hwriting => exact .lost (.inl rfl)

-- ---------------------------------------------------------------------------
-- Phases
-- ---------------------------------------------------------------------------

/-- The session goes on to another phase before it is over. -/
theorem rephase (h : Lane c) (hopen : c.state.phase.isOver = false) {s : State σ} {phase : Phase}
    (hs : s.standing = { c.state.standing with phase }) (hopen' : phase.isOver = false)
    (hkept : c.state.phase ≠ .discarded ∧ phase ≠ .discarded) : Lane { c with state := s } := by
  have hphase : s.phase = phase := congrArg Standing.phase hs
  have hwriter : s.writer = c.state.writer := congrArg Standing.writer hs
  cases h with
  | lost hlost =>
    have hbroken : c.state.writer.isBroken = true := hlost.resolve_right hkept.1
    refine .lost (.inl ?_)
    show s.writer.isBroken = true
    rw [hwriter]
    exact hbroken
  | alive delivered waiting late hwrites hsaid hqueue hbehind =>
    cases hbehind with
    | nothing hover =>
      have houtput : s.output = c.state.output := congrArg Standing.output hs
      have hqueue' : s.queue = c.state.queue := congrArg Standing.queue hs
      have hkept' : s.phase ≠ .discarded := by rw [hphase]; exact hkept.2
      have hopen'' : s.phase.isOver = false := by rw [hphase]; exact hopen'
      exact .alive delivered waiting [] (hwrites.congr hkept' hwriter houtput) hsaid
        (hqueue'.trans hqueue) (.nothing hopen'')
    -- the command to stop is given behind all of this
    | stop hflushing hlate => simp [hflushing, Phase.isOver] at hopen
  | stopped delivered late hstopped hover houtput hsaid hlate => simp [hopen] at hover

/-- The writer is told to stop when no message is handled any more. -/
theorem beginFlushing (h : Lane c) {outcome : Except CallFault Unit}
    (hphase : c.state.phase = .draining outcome) :
    Lane { c with state := c.state.beginFlushing outcome } := by
  -- the session as it is when the command is given
  let s : State σ := { c.state with phase := .flushing outcome }
  show Lane { c with state := s.command .stop }
  cases h with
  | lost hlost =>
    have hbroken : c.state.writer.isBroken = true := hlost.resolve_right (by simp [hphase])
    have hrefuses : s.accepting = false :=
      State.not_accepting_of_left?_none (Writer.left?_of_isBroken hbroken)
    rw [State.command_of_not_accepting hrefuses]
    exact .lost (.inl hbroken)
  | alive delivered waiting late hwrites hsaid hqueue hbehind =>
    cases hbehind with
    | nothing hover =>
      have haccepts : s.accepting = true :=
        (State.accepting_iff s).mpr ⟨nofun, hwrites.written.imp fun _ hw => hw.1⟩
      have hs := State.standing_command haccepts .stop
      have hphase' : (s.command .stop).phase = .flushing outcome := congrArg Standing.phase hs
      have hwriter : (s.command .stop).writer = c.state.writer := congrArg Standing.writer hs
      have houtput : (s.command .stop).output = c.state.output := congrArg Standing.output hs
      have hkept : (s.command .stop).phase ≠ .discarded := by rw [hphase']; nofun
      have hstop : (s.command .stop).queue = waiting.map Saying.command ++ [.stop] := by
        have hqueue' : (s.command .stop).queue = c.state.queue ++ [.stop] :=
          congrArg Standing.queue hs
        rw [hqueue', hqueue, List.append_nil]
      have hlast : Behind (s.command .stop).phase (.stop :: [].map Saying.command) [] :=
        .stop hphase' (by simp)
      exact .alive delivered waiting [] (hwrites.congr hkept hwriter houtput) hsaid hstop hlast
    -- it was not given before
    | stop hflushing hlate => simp [hphase] at hflushing
  | stopped delivered late hstopped hover houtput hsaid hlate =>
    simp [hphase, Phase.isOver] at hover

/-- The session ends when its writer has. -/
theorem finishFlushing (h : Lane c) : Lane { c with state := c.state.finishFlushing } := by
  rcases c.state.standing_finishFlushing with hs | ⟨outcome, result, verdict, hphase, hverdict, hs⟩
  · exact h.congr hs rfl
  · have hphase' : c.state.finishFlushing.phase = .ended result := congrArg Standing.phase hs
    have hwriter : c.state.finishFlushing.writer = c.state.writer := congrArg Standing.writer hs
    cases h with
    | lost hlost =>
      have hbroken : c.state.writer.isBroken = true := hlost.resolve_right (by simp [hphase])
      refine .lost (.inl ?_)
      show c.state.finishFlushing.writer.isBroken = true
      rw [hwriter]
      exact hbroken
    | alive delivered waiting late hwrites hsaid hqueue hbehind =>
      -- a writer that is still there has no verdict
      obtain ⟨left, hleft, -⟩ := hwrites.written
      rcases Writer.of_left? hleft with ⟨hready, -⟩ | hwriting
      · simp [hready, State.Writer.verdict?] at hverdict
      · simp [hwriting, State.Writer.verdict?] at hverdict
    | stopped delivered late hstopped hover houtput hsaid hlate =>
      have houtput' : c.state.finishFlushing.output = c.state.output := congrArg Standing.output hs
      have hover' : c.state.finishFlushing.phase.isOver = true := by rw [hphase']; rfl
      exact .stopped delivered late (hwriter.trans hstopped) hover' (houtput'.trans houtput) hsaid
        hlate

/-- **One step** of anybody keeps the sayings in their lane. -/
theorem step {handler : Handler σ} {w w' : World σ} (h : Lane w.toCourse) (horder : Orderly w)
    (hstep : Step handler w w') : Lane w'.toCourse := by
  have hreading : ∀ {p : Phase}, p = .reading → p.isOver = false := fun hp => hp ▸ rfl
  cases hstep with
  | outer houter => exact h.congr houter.standing rfl
  | say hm => exact h.say _ fun _ => rfl
  | start =>
    rcases w.state.standing_start with hs | ⟨hphase, hs⟩
    · exact h.congr hs rfl
    · have hopen : w.state.phase.isOver = false := by rw [hphase]; rfl
      exact h.rephase hopen hs rfl ⟨by simp [hphase], nofun⟩
  | abort =>
    rcases w.state.standing_abort with hs | ⟨-, hphase⟩
    · exact h.congr hs rfl
    · exact .lost (.inr hphase)
  | write hrunning hwrite => exact h.write hwrite
  | await hphase hloop hnext => exact h.congr rfl rfl
  | @receive value reader hphase hloop hnext =>
    have hread : Lane { w.toCourse with state := { w.state with reader } } := h.congr rfl rfl
    obtain ⟨s, hs, ⟨loop, k, -, -, heq⟩ | ⟨reaction, -, heq⟩⟩ :=
      World.receive_cases handler { w with state := { w.state with reader } } value
    · rw [heq]
      have hnoted : Lane { w.toCourse with state := s } := hread.congr hs rfl
      have hphase' : s.phase = w.state.phase := congrArg Standing.phase hs
      -- what is answered at once is answered while the session reads
      exact hnoted.conclude (hreading (hphase'.trans hphase)) _ _ _
    · rw [heq]
      exact hread.congr hs rfl
  | cease hphase hloop hcease => exact h.congr hcease.standing rfl
  | @react t hloop =>
    have hphase : w.state.phase = .reading := horder.reading.resolve_left (by simp [hloop])
    rw [World.follow_toCourse]
    exact h.proceed (hreading hphase) t
  | leave hloop =>
    have hphase : w.state.phase = .reading := horder.reading.resolve_left (by simp [hloop])
    exact h.rephase (hreading hphase) (State.standing_stop _ _) rfl ⟨by simp [hphase], nofun⟩
  | @proceed t front behind hthreads =>
    have hopen : w.state.phase.isOver = false := by
      -- a thread is at work, so that not all is over
      rw [Bool.eq_false_iff]
      intro hover
      have hnone : w.threads = [] := horder.closing hover
      simp [hthreads] at hnone
    exact h.proceed hopen t
  | drain hphase hthreads => exact h.beginFlushing hphase
  | finish => exact h.finishFlushing

end Lane

/-- Every run of a session is in order and keeps the sayings in their lane. -/
theorem lane_run {handler : Handler σ} {config : Config} {memory : σ} {w : World σ}
    (hrun : Runs handler (World.create config memory) w) : Orderly w ∧ Lane w.toCourse := by
  induction hrun with
  | refl => exact ⟨orderly_create config memory, lane_create config memory⟩
  -- the order comes with the lane: a step of a thread may answer only before all is over
  | tail _ hstep ih => exact ⟨ih.1.step hstep, ih.2.step ih.1 hstep⟩

/-- **All is written.** When a session has ended and no write failed, what was written is what was
said, up to where only those outside spoke. -/
theorem Lane.written {c : Course σ} (h : Lane c) {result : Except CallFault Unit}
    (hended : c.state.phase = .ended result) (hwrites : c.state.writer.isBroken = false) :
    ∃ delivered late, c.said = delivered ++ late ∧ c.state.output = delivered.flatMap Saying.frame ∧
      ∀ m ∈ late, m.origin = .outside := by
  -- at the end the writer has stopped: the other two places are closed
  cases h with
  | lost hlost => simp [hended, hwrites] at hlost
  | alive delivered waiting late _ _ _ hbehind =>
    cases hbehind with
    | nothing hover => simp [hended, Phase.isOver] at hover
    | stop hflushing => simp [hended] at hflushing
  | stopped delivered late _ _ houtput hsaid hlate => exact ⟨delivered, late, hsaid, houtput, hlate⟩

end EditorLink.Session
