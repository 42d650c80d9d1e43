import EditorLink.Proofs.Session.Errands
import EditorLink.Proofs.Session.OneAnswer

/-!
# EditorLink — what is on the wire

Whoever says something puts a whole frame into the queue, and the writer takes the frames out one after the
other. So what the other side has taken is at all times a piece, from the front, of all that was queued, whoever
queued it and wherever a write fails.

The line is what decides this: whether frames are taken, the writer, its queue, and three records, of what was said, of
what was queued and of what was written. Every step of anybody does one of few things to it (`Line.Goes`), or leaves it
alone; a write may take any number of bytes, none or more than one command at a time being no special cases, and may
fail at any byte of a frame.

Two invariants are kept. In the first the bytes that were written, those in the writer's hand and those in the queue
are together the frames that were queued (`Line.Whole`). The second begins when the writer is told to stop: all that was
queued by then is written or before the command (`Line.Sealed`), so that a run which ends without a broken writer has
written it all.

Flushing the sink behind a frame is a step without bytes. What the sink does with them is not followed.

## Results

* `State.queued` — the frames that were put into the queue, in order;
* `Line` — what the bytes on their way are decided by, and `Line.Goes`, all that happens to it;
* `Step.line` — a step of anybody is one of these;
* `Line.Whole` — where the bytes of the frames are, with its step lemma;
* `Line.Sealed` — where they are when the writer was told to stop;
* `wire_integrity` — what it comes to for every run.
-/

namespace EditorLink.Session

open Message (CallFault Outgoing RequestId)

def queued? : Event → Option Bytes
  | .queued frame => some frame
  | _ => none

def Command.frame? : Command → Option Bytes
  | .send frame => some frame
  | .stop => none

variable {σ : Type}

namespace State

/-- The frames that were put into the queue, in order. -/
def queued (s : State σ) : List Bytes := s.history.reverse.filterMap queued?

/-- A note adds a frame, if it is of one that is queued. -/
theorem queued_record (s : State σ) (e : Event) :
    (s.record e).queued = s.queued ++ (queued? e).toList := by
  cases e <;> simp [queued, record, queued?]

theorem queued_of_history {s s' : State σ} (h : s'.history = s.history) : s'.queued = s.queued := by
  rw [queued, h, queued]

end State

-- ---------------------------------------------------------------------------
-- The line
-- ---------------------------------------------------------------------------

/-- Whether frames are taken, the writer with its queue, the bytes that were written, the frames that were
queued, and all that was said. -/
structure Line where
  taking : Bool
  writer : Writer
  queue : List Command
  output : Bytes
  queued : List Bytes
  said : List Saying

namespace Line

/-- What was said and is queued: what is said is queued in the order in which it is said, and nothing behind what
could not be queued. -/
def entered (l : Line) : List Saying := l.said.take l.queued.length

/-- Something is said: its frame is queued if frames are taken. -/
def say (l : Line) (m : Saying) : Line :=
  if l.taking then
    { l with queue := l.queue ++ [.send m.frame], queued := l.queued ++ [m.frame], said := l.said ++ [m] }
  else { l with said := l.said ++ [m] }

/-- The writer is told to stop. -/
def stop (l : Line) : Line := if l.taking then { l with queue := l.queue ++ [.stop] } else l

/-- What happens to the line. -/
inductive Goes : Line → Line → Prop
  | keeps (l : Line) : Goes l l
  | speaks (l : Line) (m : Saying) : Goes l (l.say m)
  | stops (l : Line) : Goes l l.stop
  /-- The session is given up. -/
  | ends (l : Line) : Goes l { l with taking := false, queue := [] }
  /-- The writer takes a frame, when all is out that it had. -/
  | takes {l : Line} {frame : Bytes} {queue : List Command} (htaking : l.taking = true)
    (hleft : l.writer.left? = some []) (hqueue : l.queue = .send frame :: queue) :
    Goes l { l with writer := .writing frame, queue }
  | halts {l : Line} {queue : List Command} (htaking : l.taking = true)
    (hleft : l.writer.left? = some []) (hqueue : l.queue = .stop :: queue) :
    Goes l { l with taking := false, writer := .stopped, queue := [] }
  | pushes {l : Line} {left : Bytes} {writer : Writer} (htaking : l.taking = true)
    (hleft : l.writer.left? = some left) (n : Nat) (hwriter : writer.left? = some (left.drop n)) :
    Goes l { l with writer, output := l.output ++ left.take n }
  | breaks {l : Line} {left : Bytes} {writer : Writer} (htaking : l.taking = true)
    (hleft : l.writer.left? = some left)
    (hbroken : (∃ reason, writer = .failed (.stream reason)) ∨ writer = .crashed) :
    Goes l { l with taking := false, writer, queue := [] }

end Line

namespace Course

def line (c : Course σ) : Line :=
  ⟨c.state.accepting, c.state.writer, c.state.queue, c.state.output, c.state.queued, c.said⟩

/-- What a session takes in, and what it is about, does not matter as long as it is not given up. -/
theorem line_eq {c c' : Course σ} (intake : Intake σ) (phase : Phase)
    (hs : c'.state.standing = { c.state.standing with intake, phase })
    (hphase : phase = .discarded ↔ c.state.phase = .discarded)
    (hqueued : c'.state.queued = c.state.queued) (hsaid : c'.said = c.said) : c'.line = c.line := by
  have hphase' : c'.state.phase = phase := congrArg Standing.phase hs
  have hwriter : c'.state.writer = c.state.writer := congrArg Standing.writer hs
  have hqueue : c'.state.queue = c.state.queue := congrArg Standing.queue hs
  have houtput : c'.state.output = c.state.output := congrArg Standing.output hs
  have haccepting : c'.state.accepting = c.state.accepting := by
    rw [Bool.eq_iff_iff, State.accepting_iff, State.accepting_iff, hphase', hwriter, ne_eq, ne_eq,
      hphase]
  rw [line, line, haccepting, hwriter, hqueue, houtput, hqueued, hsaid]

/-- The line knows nothing of the desk, nor of what those who handle messages are told. -/
theorem line_of_quiet {c : Course σ} {s : State σ} {told : List Telling} (h : c.state.Quiet s) :
    ({ c with state := s, told } : Course σ).line = c.line :=
  line_eq c.state.intake c.state.phase h.standing Iff.rfl
    (State.queued_of_history h.history) rfl

/-- **Saying something** queues its frame, if frames are taken. -/
theorem line_say (c : Course σ) (origin : Origin) (m : Outgoing) :
    (c.say origin m).2.line = c.line.say ⟨origin, m⟩ := by
  cases h : c.state.accepting with
  | false =>
    have hsame : (c.say origin m).2 = { c with said := c.said ++ [⟨origin, m⟩] } := by
      rw [say, State.send_of_not_accepting h]
    rw [hsame, Line.say, line, line, h]
    rfl
  | true =>
    have hs := State.standing_send h m
    have hphase := c.phase_say origin m
    have hqueue : (c.say origin m).2.state.queue = _ := congrArg Standing.queue hs
    have hwriter : (c.say origin m).2.state.writer = c.state.writer := congrArg Standing.writer hs
    have houtput : (c.say origin m).2.state.output = c.state.output := congrArg Standing.output hs
    have haccepting : (c.say origin m).2.state.accepting = true := by
      rw [State.accepting_iff] at h ⊢
      rwa [hphase, hwriter]
    have hqueued : (c.say origin m).2.state.queued =
        c.state.queued ++ [Framing.encode m.toJson] := by
      show (c.state.send m).2.queued = _
      rw [State.send, State.enqueue, if_pos h, State.queued_record, State.command, if_pos h]
      refine congrArg (· ++ _) (State.queued_of_history ?_)
      unfold State.wakeWriter
      split
      · rfl
      · split <;> rfl
    rw [line, haccepting, hwriter, hqueue, houtput, hqueued, Line.say, line, h]
    rfl

/-- A conclusion says something, or leaves the line alone. -/
theorem line_conclude (c : Course σ) (o : Occurrence) (replyTo : Option RequestId)
    (k : Conclusion) : c.line.Goes (c.conclude o replyTo k).line := by
  obtain ⟨id, outcome, -, -, h⟩ | ⟨-, h⟩ := c.conclude_cases o replyTo k
  · rw [h, line_say]
    exact .speaks c.line _
  · rw [h]
    exact .keeps c.line

/-- **A step of a thread** says one thing at most. -/
theorem line_proceed (c : Course σ) (t : Thread) : c.line.Goes (t.proceed c).1.line := by
  obtain ⟨s, told, h, hs⟩ | ⟨m, h⟩ | ⟨k, h⟩ := t.proceed_quiet c
  · rw [h, line_of_quiet hs]
    exact .keeps c.line
  · rw [h, line_say]
    exact .speaks c.line _
  · rw [h]
    exact c.line_conclude _ _ _

end Course

-- ---------------------------------------------------------------------------
-- The writer
-- ---------------------------------------------------------------------------

section Writer

variable {c : Course σ}

/-- A writer that is still there takes frames as it did. -/
theorem Course.line_writer (htaking : c.state.accepting = true) (writer : Writer) {left : Bytes}
    (hleft : writer.left? = some left) (queue : List Command) :
    ({ c with state := { c.state with writer, queue } } : Course σ).line =
      { c.line with writer, queue } := by
  have hstill : ({ c.state with writer, queue } : State σ).accepting = c.state.accepting := by
    rw [htaking, State.accepting_iff]
    exact ⟨((State.accepting_iff _).mp htaking).1, left, hleft⟩
  rw [line, hstill]
  rfl

/-- A writer that is gone leaves its queue behind. -/
theorem Course.line_gone (writer : Writer) (hnone : writer.left? = none) (closeAsked : Bool) :
    ({ c with state := { c.state with writer, queue := [], closeAsked } } : Course σ).line =
      { c.line with taking := false, writer, queue := [] } := by
  rw [line, State.not_accepting_of_left?_none hnone]
  rfl

theorem Course.line_wrote (c : Course σ) (bytes : Bytes) :
    ({ c with state := c.state.record (.wrote bytes) } : Course σ).line =
      { c.line with output := c.line.output ++ bytes } := by
  have hqueued : (c.state.record (.wrote bytes)).queued = c.state.queued :=
    (c.state.queued_record _).trans (List.append_nil _)
  rw [line, State.output_record, hqueued]
  rfl

/-- **A step of the writer** on the line. -/
theorem Writing.line {s : State σ} (h : Writing c.state s) (hrunning : c.state.isRunning = true) :
    c.line.Goes ({ c with state := s } : Course σ).line := by
  have hidle : c.line.Goes ({ c with state := c.state } : Course σ).line := .keeps c.line
  cases hleft : c.state.writer.left? with
  | none =>
    rw [h.eq_of_left?_none hleft]
    exact hidle
  | some left =>
    have htaking : c.state.accepting = true := by
      refine (State.accepting_iff _).mpr ⟨?_, left, hleft⟩
      intro hphase
      rw [State.isRunning, hphase] at hrunning
      cases hrunning
    cases h with
    | take =>
      rcases Writer.of_left? hleft with ⟨hready, rfl⟩ | hwriting
      · rcases hqueue : c.state.queue with _ | ⟨⟨frame⟩ | _, queue⟩
        · rw [State.takeCommand_of_nil hqueue]
          exact hidle
        · rw [State.takeCommand_of_send hready hqueue, Course.line_writer htaking (.writing frame) rfl]
          exact .takes htaking hleft hqueue
        · rw [State.takeCommand_of_stop hready hqueue, Course.line_gone .stopped rfl c.state.closeAsked]
          exact .halts htaking hleft hqueue
      · rw [State.takeCommand_of_writing hwriting]
        exact hidle
    | push n =>
      rcases Writer.of_left? hleft with ⟨hready, rfl⟩ | hwriting
      · have hsame : c.state.push n = c.state := by simp [State.push, hready]
        rw [hsame]
        exact hidle
      · let rest : Writer := .writing (left.drop n)
        have hrest : ({ c with state := { c.state with writer := rest } } : Course σ).line =
            { c.line with writer := rest } := Course.line_writer htaking rest rfl c.state.queue
        rw [State.push_of_writing hwriting]
        refine (Course.line_wrote { c with state := { c.state with writer := rest } } _) ▸ ?_
        rw [hrest]
        exact .pushes htaking hleft n rfl
    | flush =>
      rw [State.flush]
      split
      · rename_i hwriting
        rw [hwriting] at hleft
        cases hleft
        -- nothing was left, so that nothing is written
        have hflushed : c.line.Goes { c.line with writer := .ready, output := c.line.output ++ [] } :=
          .pushes htaking (congrArg Writer.left? hwriting) 0 rfl
        rw [List.append_nil] at hflushed
        rw [Course.line_writer htaking .ready rfl c.state.queue]
        exact hflushed
      · exact hidle
    | fail hwriting reason =>
      rw [State.failWrite, Course.line_gone (.failed (.stream reason)) rfl true]
      exact .breaks htaking hleft (.inl ⟨reason, rfl⟩)
    | crash hwriting =>
      rw [State.crashWrite, Course.line_gone .crashed rfl c.state.closeAsked]
      exact .breaks htaking hleft (.inr rfl)

end Writer

-- ---------------------------------------------------------------------------
-- Everybody
-- ---------------------------------------------------------------------------

theorem Outer.history {s s' : State σ} (h : Outer s s') : s'.history = s.history := by
  cases h with
  | refuse id fault => exact (s.quiet_refuse id fault).history
  | _ => rfl

theorem Ceases.history {s s' : State σ} {outcome : Except CallFault Unit} (h : Ceases s s' outcome) :
    s'.history = s.history := by
  cases h <;> rfl

/-- A value that is taken in is put nowhere. -/
theorem State.queued_receive (handler : Handler σ) (s : State σ) (value : Json) :
    (s.receive handler value).state.queued = s.queued := by
  rw [queued_of_history (s.quiet_receive handler value).history, noted, queued, queued]
  cases callOf? value <;> simp [queued?]

/-- The command to stop goes into the queue. -/
theorem Course.line_beginFlushing (c : Course σ) {outcome : Except CallFault Unit}
    (hphase : c.state.phase = .draining outcome) :
    ({ c with state := c.state.beginFlushing outcome } : Course σ).line = c.line.stop := by
  let c₁ : Course σ := { c with state := { c.state with phase := .flushing outcome } }
  have hline : c₁.line = c.line :=
    line_eq c.state.intake (.flushing outcome) rfl (by simp [hphase]) rfl rfl
  rw [← hline]
  show ({ c with state := c₁.state.command .stop } : Course σ).line = _
  cases h : c₁.state.accepting with
  | false =>
    have htaking : c₁.line.taking = false := h
    rw [State.command_of_not_accepting h, Line.stop, if_neg (by simp [htaking])]
  | true =>
    have htaking : c₁.line.taking = true := h
    let c₂ : Course σ := { c₁ with state := { c₁.state with queue := c₁.state.queue ++ [.stop] } }
    rw [Line.stop, if_pos htaking, State.command, if_pos h]
    exact line_of_quiet (c := c₂) (State.quiet_wakeWriter _)

/-- **A step of anybody** on the line. -/
theorem Step.line {handler : Handler σ} {w w' : World σ} (h : Step handler w w')
    (horder : Orderly w) : w.line.Goes w'.line := by
  -- what leaves the standing, apart from the phase and what was taken in, leaves the line
  have hkeeps : ∀ (c : Course σ) (intake : Intake σ) (phase : Phase),
      c.state.standing = { w.state.standing with intake, phase } →
      (phase = .discarded ↔ w.state.phase = .discarded) → c.state.history = w.state.history →
      c.said = w.said → w.line.Goes c.line := by
    intro c intake phase hs hphase hhistory hsaid
    rw [Course.line_eq intake phase hs hphase (State.queued_of_history hhistory) hsaid]
    exact .keeps w.line
  cases h with
  | @outer s houter =>
    exact hkeeps { w.toCourse with state := s } w.state.intake w.state.phase houter.standing Iff.rfl
      houter.history rfl
  | @say m hm =>
    rw [Course.line_say]
    exact .speaks w.line _
  | start =>
    obtain ⟨phase, hquiet⟩ := w.state.quiet_start
    rcases w.state.standing_start with hs | ⟨hphase, hs⟩
    · exact hkeeps { w.toCourse with state := w.state.start } w.state.intake w.state.phase hs Iff.rfl
        hquiet.history rfl
    · exact hkeeps { w.toCourse with state := w.state.start } w.state.intake .reading hs
        (by simp [hphase]) hquiet.history rfl
  | abort =>
    rw [State.abort]
    split
    · exact .ends w.line
    · exact .keeps w.line
  | write hrunning hwrite => exact hwrite.line hrunning
  | await hphase hloop hnext => exact .keeps w.line
  | @receive value reader hphase hloop hnext =>
    let w₀ : World σ := { w with state := { w.state with reader } }
    let c : Course σ := { w₀.toCourse with state := (w₀.state.receive handler value).state }
    have hline : c.line = w.line :=
      Course.line_eq (c := w.toCourse) (w.state.intake.take handler value) w.state.phase
        (State.standing_receive handler w₀.state value) Iff.rfl
        (State.queued_receive handler w₀.state value) rfl
    rw [← hline]
    rcases World.course_receive handler w₀ value with h | ⟨o, replyTo, k, h⟩
    · exact h ▸ .keeps c.line
    · exact h ▸ c.line_conclude o replyTo k
  | @cease s outcome hphase hloop hcease =>
    exact hkeeps { w.toCourse with state := s } w.state.intake w.state.phase hcease.standing Iff.rfl
      hcease.history rfl
  | @react t hloop =>
    rw [World.follow_toCourse]
    exact w.line_proceed t
  | @leave outcome hloop =>
    have hphase : w.state.phase = .reading := horder.reading.resolve_left (by simp [hloop])
    exact hkeeps { w.toCourse with state := w.state.stop outcome } w.state.intake (.draining outcome)
      rfl (by simp [hphase]) rfl rfl
  | @proceed t front behind hthreads => exact w.line_proceed t
  | drain hphase hthreads =>
    rw [Course.line_beginFlushing _ hphase]
    exact .stops w.line
  | finish =>
    obtain ⟨phase, hquiet⟩ := w.state.quiet_finishFlushing
    rcases w.state.standing_finishFlushing with hs | ⟨outcome, result, verdict, hphase, -, hs⟩
    · exact hkeeps { w.toCourse with state := w.state.finishFlushing } w.state.intake w.state.phase hs
        Iff.rfl hquiet.history rfl
    · exact hkeeps { w.toCourse with state := w.state.finishFlushing } w.state.intake (.ended result)
        hs (by simp [hphase]) hquiet.history rfl

-- ---------------------------------------------------------------------------
-- Where the bytes are
-- ---------------------------------------------------------------------------

namespace Line

/-- The bytes of the frames in the queue. -/
def waiting (l : Line) : Bytes := (l.queue.filterMap Command.frame?).flatten

/-- Where the bytes of the frames are. -/
inductive Whole (l : Line) : Prop
  /-- They are written, but for what is left of one frame and for those in the queue. -/
  | taking {left : Bytes} (htaking : l.taking = true) (hleft : l.writer.left? = some left)
    (hqueued : l.queued = l.said.map Saying.frame)
    (hbytes : l.output ++ left ++ l.waiting = l.queued.flatten)
  /-- No more frames are taken, and what is not written may be lost. -/
  | shut (htaking : l.taking = false) (hqueued : l.queued <+: l.said.map Saying.frame)
    (hbytes : l.output <+: l.queued.flatten)

variable {l l' : Line}

namespace Whole

theorem queued (h : l.Whole) : l.queued <+: l.said.map Saying.frame := by
  cases h with
  | taking htaking hleft hqueued hbytes => exact hqueued ▸ List.prefix_rfl
  | shut htaking hqueued hbytes => exact hqueued

theorem written (h : l.Whole) : l.output <+: l.queued.flatten := by
  cases h with
  | @taking left htaking hleft hqueued hbytes =>
    rw [List.append_assoc] at hbytes
    exact ⟨_, hbytes⟩
  | shut htaking hqueued hbytes => exact hbytes

/-- What was written stays, when no more is taken. -/
theorem close (h : l.Whole) (writer : Writer) :
    Whole { l with taking := false, writer, queue := [] } := .shut rfl h.queued h.written

/-- **Whatever happens to the line**, the bytes stay where they belong. -/
theorem step (h : l.Whole) (hgo : l.Goes l') : l'.Whole := by
  cases hgo with
  | keeps => exact h
  | ends => exact h.close l.writer
  | halts htaking hleft hqueue => exact h.close .stopped
  | breaks htaking hleft hbroken => exact h.close _
  | speaks m =>
    cases h with
    | @taking left htaking hleft hqueued hbytes =>
      rw [say, if_pos htaking]
      refine .taking htaking hleft (by simp [hqueued]) ?_
      -- the new frame is the last of those that wait
      simp [← hbytes, waiting, Command.frame?]
    | shut htaking hqueued hbytes =>
      rw [say, if_neg (by simp [htaking])]
      refine .shut htaking ?_ hbytes
      rw [List.map_append]
      exact hqueued.trans (List.prefix_append _ _)
  | stops =>
    cases h with
    | taking htaking hleft hqueued hbytes =>
      rw [stop, if_pos htaking]
      refine .taking htaking hleft hqueued ?_
      have hwaiting : waiting { l with queue := l.queue ++ [.stop] } = l.waiting := by
        rw [waiting, List.filterMap_append]
        exact congrArg List.flatten (List.append_nil _)
      exact (congrArg _ hwaiting).trans hbytes
    | shut htaking hqueued hbytes =>
      rw [stop, if_neg (by simp [htaking])]
      exact .shut htaking hqueued hbytes
  | @takes frame queue htaking hleft hqueue =>
    cases h with
    | taking _ hleft' hqueued hbytes =>
      obtain rfl := Option.some.inj (hleft.symm.trans hleft')
      refine .taking htaking rfl hqueued ?_
      rw [← hbytes]
      simp [waiting, hqueue, Command.frame?]
    | shut hshut => simp [htaking] at hshut
  | pushes htaking hleft n hwriter =>
    cases h with
    | taking _ hleft' hqueued hbytes =>
      obtain rfl := Option.some.inj (hleft.symm.trans hleft')
      refine .taking htaking hwriter hqueued ?_
      -- the bytes move from what is left to what is written
      rw [← hbytes, List.append_assoc l.output, List.take_append_drop]
      rfl
    | shut hshut => simp [htaking] at hshut

end Whole

/-- **A broken writer** stays as it is, and writes nothing. -/
theorem Goes.of_isBroken (hgo : l.Goes l') (h : l.writer.isBroken = true) :
    l'.writer = l.writer ∧ l'.output = l.output := by
  have hnone := Writer.left?_of_isBroken h
  cases hgo with
  | keeps => exact ⟨rfl, rfl⟩
  | speaks m => unfold say; split <;> exact ⟨rfl, rfl⟩
  | stops => unfold stop; split <;> exact ⟨rfl, rfl⟩
  | ends => exact ⟨rfl, rfl⟩
  | takes htaking hleft hqueue => simp [hnone] at hleft
  | halts htaking hleft hqueue => simp [hnone] at hleft
  | pushes htaking hleft n hwriter => simp [hnone] at hleft
  | breaks htaking hleft hbroken => simp [hnone] at hleft

/-- What a writer that was told to stop has to write is settled: it is written, but for what is left of one
frame and for the frames before the command to stop. -/
inductive Sealed (target : Bytes) (l : Line) : Prop
  | flushing {left : Bytes} {waiting : List Bytes} {behind : List Command}
    (hleft : l.writer.left? = some left) (hqueue : l.queue = waiting.map .send ++ .stop :: behind)
    (hbytes : l.output ++ left ++ waiting.flatten = target)
  | stopped (hwriter : l.writer = .stopped) (hbytes : l.output = target)
  | lost (htaking : l.taking = false) (hwriter : l.writer ≠ .stopped)

/-- **Every step** keeps the bytes before the command to stop. -/
theorem Sealed.step {target : Bytes} (h : l.Sealed target) (hgo : l.Goes l') : l'.Sealed target := by
  cases h with
  | @flushing left waiting behind hleft hqueue hbytes =>
    have hthere : l.writer ≠ .stopped := by
      intro hstopped
      rw [hstopped] at hleft
      cases hleft
    -- what is queued now stands behind the command to stop
    have hqueues : ∀ c, l.queue ++ [c] = waiting.map .send ++ .stop :: (behind ++ [c]) := by
      intro c
      rw [hqueue, List.append_assoc]
      rfl
    cases hgo with
    | keeps => exact .flushing hleft hqueue hbytes
    | speaks m =>
      unfold say
      split
      · exact .flushing hleft (hqueues _) hbytes
      · exact .flushing hleft hqueue hbytes
    | stops =>
      unfold stop
      split
      · exact .flushing hleft (hqueues _) hbytes
      · exact .flushing hleft hqueue hbytes
    | ends => exact .lost rfl hthere
    | @takes frame queue htaking hleft' hqueue' =>
      obtain rfl := Option.some.inj (hleft.symm.trans hleft')
      cases waiting with
      | nil => simp [hqueue'] at hqueue
      | cons first waiting =>
        rw [hqueue', List.map_cons, List.cons_append, List.cons.injEq, Command.send.injEq] at hqueue
        obtain ⟨rfl, hqueue⟩ := hqueue
        refine .flushing rfl hqueue ?_
        rw [← hbytes]
        simp
    | halts htaking hleft' hqueue' =>
      obtain rfl := Option.some.inj (hleft.symm.trans hleft')
      cases waiting with
      | nil => exact .stopped rfl (by simpa using hbytes)
      | cons first waiting => simp [hqueue'] at hqueue
    | pushes htaking hleft' n hwriter =>
      obtain rfl := Option.some.inj (hleft.symm.trans hleft')
      refine .flushing hwriter hqueue ?_
      rw [← hbytes, List.append_assoc l.output, List.take_append_drop]
    | breaks htaking hleft' hbroken =>
      refine .lost rfl ?_
      rintro rfl
      rcases hbroken with ⟨reason, hfailed⟩ | hcrashed
      · cases hfailed
      · cases hcrashed
  | stopped hwriter hbytes =>
    have hnone : l.writer.left? = none := by rw [hwriter]; rfl
    cases hgo with
    | keeps => exact .stopped hwriter hbytes
    | speaks m => unfold say; split <;> exact .stopped hwriter hbytes
    | stops => unfold stop; split <;> exact .stopped hwriter hbytes
    | ends => exact .stopped hwriter hbytes
    | takes htaking hleft hqueue => simp [hnone] at hleft
    | halts htaking hleft hqueue => simp [hnone] at hleft
    | pushes htaking hleft n hwriter => simp [hnone] at hleft
    | breaks htaking hleft hbroken => simp [hnone] at hleft
  | lost htaking hwriter =>
    cases hgo with
    | keeps => exact .lost htaking hwriter
    | speaks m => rw [say, if_neg (by simp [htaking])]; exact .lost htaking hwriter
    | stops => rw [stop, if_neg (by simp [htaking])]; exact .lost htaking hwriter
    | ends => exact .lost rfl hwriter
    | takes htaking' => simp [htaking] at htaking'
    | halts htaking' => simp [htaking] at htaking'
    | pushes htaking' => simp [htaking] at htaking'
    | breaks htaking' => simp [htaking] at htaking'

end Line

-- ---------------------------------------------------------------------------
-- Runs
-- ---------------------------------------------------------------------------

variable {handler : Handler σ} {config : Config} {memory : σ} {w w' : World σ}

/-- A run keeps what each thing that happens to the line keeps. -/
theorem Line.along {P : Line → Prop} (hstep : ∀ {l l'}, P l → Line.Goes l l' → P l')
    (horder : Orderly w) (hw : P w.line) (hrun : Runs handler w w') : P w'.line := by
  have hboth : Orderly w' ∧ P w'.line := by
    induction hrun with
    | refl => exact ⟨horder, hw⟩
    | tail _ hgo ih => exact ⟨ih.1.step hgo, hstep ih.2 (hgo.line ih.1)⟩
  exact hboth.2

/-- **The bytes of the frames** are all there, at any moment of a run. -/
theorem whole_run (hrun : Runs handler (World.create config memory) w) : w.line.Whole :=
  Line.along (fun h hgo => h.step hgo) (orderly_create config memory) (.taking rfl rfl rfl rfl) hrun

/-- A run of which the writer is told to stop at `w₁`, when nobody handles a message any more. -/
structure StopsAt (handler : Handler σ) (w₀ w₁ w : World σ) : Prop where
  before : Runs handler w₀ w₁
  idle : w₁.threads = []
  after : ∃ outcome, w₁.state.phase = .draining outcome ∧
    Runs handler { w₁ with state := w₁.state.beginFlushing outcome } w

/-- All is over only behind the command to stop. -/
theorem Step.isOver (h : Step handler w w') (hover : w'.state.phase.isOver = true) :
    w.state.phase.isOver = true ∨ ∃ outcome, w.state.phase = .draining outcome ∧ w.threads = [] ∧
      w' = { w with state := w.state.beginFlushing outcome } := by
  have hkept : w'.state.phase = w.state.phase → w.state.phase.isOver = true := fun h => h ▸ hover
  cases h with
  | outer houter => exact .inl (hkept (State.phase_eq_of_standing houter.standing))
  | say hm => exact .inl (hkept (w.phase_say _ _))
  | start =>
    rcases w.state.standing_start with hs | ⟨-, hs⟩
    · exact .inl (hkept (State.phase_eq_of_standing hs))
    · have hphase : w.state.start.phase = .reading := congrArg Standing.phase hs
      simp [hphase, Phase.isOver] at hover
  | abort =>
    rcases w.state.standing_abort with hs | ⟨-, hphase⟩
    · exact .inl (hkept (State.phase_eq_of_standing hs))
    · simp [hphase, Phase.isOver] at hover
  | write hrunning hwrite => exact .inl (hkept hwrite.phase)
  | await hphase hloop hnext => exact .inl hover
  | receive hphase hloop hnext => exact .inl (hkept (World.phase_receive _ _ _))
  | cease hphase hloop hcease =>
    exact .inl (hkept (State.phase_eq_of_standing hcease.standing))
  | @react t hloop =>
    rw [World.follow_toCourse] at hkept
    exact .inl (hkept (t.phase_proceed _))
  | leave hloop => cases hover
  | @proceed t front behind hthreads => exact .inl (hkept (t.phase_proceed _))
  | drain hphase hthreads => exact .inr ⟨_, hphase, hthreads, rfl⟩
  | finish =>
    rcases w.state.standing_finishFlushing with hs | ⟨outcome, result, verdict, hphase, -, -⟩
    · exact .inl (hkept (State.phase_eq_of_standing hs))
    · exact .inl (by rw [hphase]; rfl)

/-- A session that is over was told to stop at some moment, or was lost. -/
theorem exists_stopsAt (hrun : Runs handler (World.create config memory) w)
    (hover : w.state.phase.isOver = true) :
    ∃ w₁, StopsAt handler (World.create config memory) w₁ w := by
  induction hrun with
  | refl => cases hover
  | @tail w w' hrun hstep ih =>
    rcases hstep.isOver hover with hover | ⟨outcome, hphase, hthreads, rfl⟩
    · obtain ⟨w₁, hbefore, hidle, outcome, hphase, hafter⟩ := ih hover
      exact ⟨w₁, hbefore, hidle, outcome, hphase, hafter.tail hstep⟩
    · exact ⟨w, hrun, hthreads, outcome, hphase, .refl⟩

/-- A session that has ended without a failed write has a writer that has stopped. -/
theorem Lane.stopped_of_ended {c : Course σ} (h : Lane c) {result : Except CallFault Unit}
    (hended : c.state.phase = .ended result) (hwrites : c.state.writer.isBroken = false) :
    c.state.writer = .stopped := by
  cases h with
  | lost hlost => simp [hended, hwrites] at hlost
  | alive delivered waiting late _ _ _ hbehind =>
    cases hbehind with
    | nothing hover => simp [hended, Phase.isOver] at hover
    | stop hflushing => simp [hended] at hflushing
  | stopped delivered late hstopped => exact hstopped

/-- **When the writer is told to stop**, what it has to write is what was queued. -/
theorem Lane.sealed {c : Course σ} (h : Lane c) (hwhole : c.line.Whole)
    {outcome : Except CallFault Unit} (hphase : c.state.phase = .draining outcome) :
    c.line.stop.Sealed c.state.queued.flatten := by
  cases h with
  | lost hlost =>
    have hbroken : c.state.writer.isBroken = true := hlost.resolve_right (by simp [hphase])
    have htaking : c.line.taking = false :=
      State.not_accepting_of_left?_none (Writer.left?_of_isBroken hbroken)
    rw [Line.stop, if_neg (by simp [htaking])]
    refine .lost htaking ?_
    intro hstopped
    have hstopped' : c.state.writer = .stopped := hstopped
    rw [hstopped'] at hbroken
    cases hbroken
  | alive delivered waiting late hwrites hsaid hqueue hbehind =>
    cases hbehind with
    | nothing hover =>
      have htaking : c.line.taking = true := hwrites.accepting
      obtain ⟨left, hleft, hwritten⟩ := hwrites.written
      rw [Line.stop, if_pos htaking]
      have hframes : c.state.queue = (waiting.map Saying.frame).map .send := by
        rw [hqueue, List.append_nil, List.map_map]
        rfl
      have hstop : c.line.queue ++ [.stop] = (waiting.map Saying.frame).map .send ++ [.stop] :=
        congrArg (· ++ [Command.stop]) hframes
      refine .flushing hleft hstop ?_
      -- the frames were queued as they were said
      cases hwhole with
      | taking _ _ hqueued _ =>
        have hqueued' : c.state.queued = c.said.map Saying.frame := hqueued
        show c.state.output ++ left ++ _ = _
        rw [hqueued', hsaid, hwritten]
        simp [List.flatMap_def]
      | shut hshut => simp [htaking] at hshut
    | stop hflushing => simp [hphase] at hflushing
  | stopped delivered late hstopped hover => simp [hphase, Phase.isOver] at hover

/-- **Wire integrity.** In whatever order things happen, however much the other side takes at a time and wherever
a write fails: the frames that were queued are those of the first sayings, and what was written is a piece of
them from the front. Behind a failed write nothing is written any more. When a session has ended and no write
failed, there was a time when its writer was told to stop, and what was written is all that was queued by
then. -/
theorem wire_integrity (hrun : Runs handler (World.create config memory) w) :
    (w.state.queued <+: w.said.map Saying.frame ∧ w.state.output <+: w.state.queued.flatten) ∧
      (w.state.writer.isBroken = true → ∀ w', Runs handler w w' → w'.state.output = w.state.output) ∧
      ∀ result, w.state.phase = .ended result → w.state.writer.isBroken = false →
        (∃ w₁, StopsAt handler (World.create config memory) w₁ w) ∧
          ∀ w₁, StopsAt handler (World.create config memory) w₁ w →
            w.state.output = w₁.state.queued.flatten := by
  have horder := (lane_run hrun).1
  refine ⟨⟨(whole_run hrun).queued, (whole_run hrun).written⟩, ?_, ?_⟩
  · intro hbroken w' hrun'
    have hstays := Line.along (P := fun l => l.writer.isBroken = true ∧ l.output = w.state.output)
      (fun h hgo => by
        obtain ⟨hwriter, houtput⟩ := hgo.of_isBroken h.1
        exact ⟨hwriter ▸ h.1, houtput.trans h.2⟩) horder ⟨hbroken, rfl⟩ hrun'
    exact hstays.2
  · intro result hended hwrites
    refine ⟨exists_stopsAt hrun (by rw [hended]; rfl), ?_⟩
    rintro w₁ ⟨hbefore, hidle, outcome, hphase, hafter⟩
    obtain ⟨horder₁, hlane₁⟩ := lane_run hbefore
    have hstep : Step handler w₁ _ := .drain hphase hidle
    have hsealed := hlane₁.sealed (whole_run hbefore) hphase
    rw [← Course.line_beginFlushing _ hphase] at hsealed
    -- from there on only what was queued by then is written, and the writer stops behind it
    have hstopped : w.line.writer = .stopped := (lane_run hrun).2.stopped_of_ended hended hwrites
    have hend := Line.along (fun h hgo => h.step hgo) (horder₁.step hstep) hsealed hafter
    cases hend with
    | flushing hleft =>
      rw [hstopped] at hleft
      cases hleft
    | stopped hwriter hbytes => exact hbytes
    | lost htaking hwriter => exact absurd hstopped hwriter

/-- A session whose first frame is torn: behind five bytes of it a write fails. -/
def tornInFirstFrame : World Unit :=
  let w := World.create {} ()
  let w := { w with state := w.state.start }
  let w := { w with toCourse := (w.say .outside (.notification "m" .null)).2 }
  { w with state := (w.state.takeCommand.push 5).failWrite "gone" }

/-- It comes of these five steps. -/
theorem tornInFirstFrame_run : Runs Rehearsal.handler (World.create {} ()) tornInFirstFrame := by
  have hstart : Step Rehearsal.handler (World.create {} ()) _ := .start _
  exact Relation.ReflTransGen.single hstart
    |>.tail (.say (m := .notification "m" .null) rfl)
    |>.tail (.write rfl (.take _))
    |>.tail (.write rfl (.push _ 5))
    |>.tail (.write rfl (.fail rfl "gone"))

/-- A frame that is torn, and a session that comes to its end. -/
theorem wire_integrity_torn :
    (∃ w', Runs Rehearsal.handler tornInFirstFrame w' ∧ w'.said.length = 2 ∧
        tornInFirstFrame.state.output.length = 5 ∧ w'.state.output = tornInFirstFrame.state.output) ∧
      ∃ w w₁ : World Unit, w.state.phase = .ended (.ok ()) ∧ w.state.output ≠ [] ∧
        StopsAt Rehearsal.handler (World.create {} ()) w₁ w ∧
        w.state.output = w₁.state.queued.flatten := by
  constructor
  · have hsay : Step Rehearsal.handler tornInFirstFrame _ := .say (m := .notification "n" .null) rfl
    have hbroken : tornInFirstFrame.state.writer.isBroken = true := rfl
    exact ⟨_, .single hsay, rfl, by decide +kernel,
      (wire_integrity tornInFirstFrame_run).2.1 hbroken _ (.single hsay)⟩
  · obtain ⟨w, hrun, -, hmirrors⟩ := driven_rehearsed.settles
    have hended : w.state.phase = .ended (.ok ()) :=
      hmirrors.phase.trans (Phase.eq_of_endedWell rehearsed_ends.1)
    have hwrites : w.state.writer.isBroken = false := by
      rw [hmirrors.writer]
      exact rehearsed_ends.2.1
    have hwritten : w.state.output ≠ [] := by
      rw [hmirrors.output]
      decide +kernel
    obtain ⟨⟨w₁, hstops⟩, hall⟩ := (wire_integrity hrun).2.2 _ hended hwrites
    exact ⟨w, w₁, hended, hwritten, hstops, hall w₁ hstops⟩

end EditorLink.Session
