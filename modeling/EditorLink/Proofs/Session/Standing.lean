import EditorLink.Session.Observed

/-!
# EditorLink — where a session stands

Of all that a session holds, its course is decided by little: its phase, its writer with its
queue, the values that were taken in with what the handler remembers of them, and the bytes
that were written.

Each operation of a session has one lemma here, which says what it does to these parts; most of them leave all of them
alone, and the equation says so at once. Whoever proves an invariant of the course of a session cites these lemmas and
does not unfold the operations.

What was taken in and what was written are not kept for themselves. They are read off the history, which the session
writes and does not read; so a lemma about a note in the history stands behind each of them.

Left out are the desk, the reader and the clock, the settings, and who is next. The desk has lemmas of its own in
`EditorLink.Proofs.Correlation.Desk`, reading is in `EditorLink.Proofs.Session.Reading`, and turns are in
`EditorLink.Proofs.Session.Tasks`.

## Results

* `Handler.meet` — how a handler meets a value, be it a message for it or not;
* `State.intake`, `State.output` — what was taken in, and what was written;
* `Standing` — all of it;
* `standing_…` — what each operation does to it; most do nothing.
-/

namespace EditorLink.Session

open Correlation (Outcome Ticket)
open Message (CallFault ErrorObject Outgoing RequestId)

def routed? : Event → Option Json
  | .routed value => some value
  | _ => none

variable {σ : Type}

/-- How a handler meets a value. It is called for requests and notifications. -/
def Handler.meet (handler : Handler σ) (memory : σ) (value : Json) : Option Reaction × σ :=
  match Message.classify value with
  | .ok (.request _ method params) =>
    let (reaction, memory) := handler memory method params
    (some reaction, memory)
  | .ok (.notification method params) =>
    let (reaction, memory) := handler memory method params
    (some reaction, memory)
  | _ => (none, memory)

/-- The values that were taken in, and what the handler remembers of them. -/
structure Intake (σ : Type) where
  routed : List Json
  memory : σ

/-- One more value is taken in. -/
def Intake.take (handler : Handler σ) (i : Intake σ) (value : Json) : Intake σ :=
  ⟨i.routed ++ [value], (handler.meet i.memory value).2⟩

structure Standing (σ : Type) where
  phase : Phase
  queue : List Command
  writer : Writer
  output : Bytes
  intake : Intake σ

namespace State

/-- The values that were acted on, in order. -/
def routed (s : State σ) : List Json := s.history.reverse.filterMap routed?

def intake (s : State σ) : Intake σ := ⟨s.routed, s.memory⟩

/-- The bytes that the other side took, in order. -/
def output (s : State σ) : Bytes := (s.history.reverse.filterMap Observed.wrote?).flatten

def standing (s : State σ) : Standing σ := ⟨s.phase, s.queue, s.writer, s.output, s.intake⟩

section Standing

variable {s s' : State σ} (h : s'.standing = s.standing)

include h

theorem phase_eq_of_standing : s'.phase = s.phase := congrArg (·.phase) h

theorem intake_eq_of_standing : s'.intake = s.intake := congrArg (·.intake) h

end Standing

/-- A note adds the bytes of a write, if it is of one. -/
theorem output_record (s : State σ) (e : Event) :
    (s.record e).output = s.output ++ (Observed.wrote? e).getD [] := by
  cases e <;> simp [output, record, Observed.wrote?]

/-- A note adds a value, if it is of one that is taken in. -/
theorem routed_record (s : State σ) (e : Event) :
    (s.record e).routed = s.routed ++ (routed? e).toList := by
  cases e <;> simp [routed, record, routed?]

/-- A note of another kind takes nothing in. -/
theorem intake_record {e : Event} (hr : routed? e = none) (s : State σ) :
    (s.record e).intake = s.intake := by
  rw [intake, routed_record, hr, Option.toList_none, List.append_nil]
  rfl

/-- Most events leave a session where it stands. -/
theorem standing_record {e : Event} (hw : Observed.wrote? e = none) (hr : routed? e = none)
    (s : State σ) :
    (s.record e).standing = s.standing := by
  rw [standing, output_record, intake_record hr, hw, Option.getD_none, List.append_nil]
  rfl

-- ---------------------------------------------------------------------------
-- Requests of ours
-- ---------------------------------------------------------------------------

theorem standing_issue (s : State σ) : s.issue.2.standing = s.standing := rfl

theorem standing_poll (s : State σ) (ticket : Ticket) :
    (s.poll ticket).2.2.standing = s.standing := rfl

theorem standing_close (s : State σ) : s.close.standing = s.standing := rfl

theorem standing_refuse (s : State σ) (id : Nat) (fault : CallFault) :
    (s.refuse id fault).standing = s.standing := by
  rw [refuse]
  split <;> rfl

theorem standing_settle {s s' : State σ} {id : Nat} {outcome : Outcome}
    (h : s.settle id outcome = .ok s') :
    s'.standing = s.standing := by
  rw [settle] at h
  cases hdesk : s.desk.settle id outcome with
  | error fault =>
    rw [hdesk] at h
    cases h
  | ok desk =>
    rw [hdesk] at h
    cases h
    rfl

theorem standing_passOver {s s' : State σ} {fault : CallFault} (h : s.passOver fault = .ok s') :
    s'.standing = s.standing := by
  rw [passOver] at h
  split at h <;> cases h
  rfl

theorem standing_settleResponse {s s' : State σ} {id : Json} {outcome : Except ErrorObject Json}
    (h : s.settleResponse id outcome = .ok s') : s'.standing = s.standing := by
  rw [settleResponse] at h
  split at h
  -- the id is no number
  · exact standing_passOver h
  · split at h
    · rename_i hsettle
      cases h
      exact standing_settle hsettle
    · exact standing_passOver h

-- ---------------------------------------------------------------------------
-- Sending
-- ---------------------------------------------------------------------------

theorem standing_wakeWriter (s : State σ) : s.wakeWriter.standing = s.standing := by
  rw [wakeWriter]
  split
  · rfl
  · split <;> rfl

/-- A command is queued behind all others. -/
theorem standing_command {s : State σ} (h : s.accepting = true) (c : Command) :
    (s.command c).standing = { s.standing with queue := s.queue ++ [c] } := by
  rw [command, if_pos h, standing_wakeWriter]
  rfl

/-- Without a writer commands are lost. -/
theorem command_of_not_accepting {s : State σ} (h : s.accepting = false) (c : Command) :
    s.command c = s := by
  rw [command, if_neg (by simp [h])]

/-- A writer that takes commands gets the frame of what is sent. -/
theorem standing_send {s : State σ} (h : s.accepting = true) (m : Outgoing) :
    (s.send m).2.standing =
      { s.standing with queue := s.queue ++ [.send (Framing.encode m.toJson)] } := by
  rw [send, enqueue, if_pos h]
  -- the note of the frame does not count, the command does
  exact (standing_record rfl rfl _).trans (standing_command h _)

/-- Without a writer nothing can be sent, and whoever tries is told so. -/
theorem send_of_not_accepting {s : State σ} (h : s.accepting = false) (m : Outgoing) :
    s.send m = (.error .closed, s) := by
  rw [send, enqueue, if_neg (by simp [h])]

/-- Whatever is sent, only the queue can change. -/
theorem standing_send_eq (s : State σ) (m : Outgoing) :
    ∃ queue, (s.send m).2.standing = { s.standing with queue } := by
  cases h : s.accepting with
  | true => exact ⟨_, standing_send h m⟩
  | false => exact ⟨s.queue, by rw [send_of_not_accepting h]; rfl⟩

theorem phase_send (s : State σ) (m : Outgoing) : (s.send m).2.phase = s.phase := by
  obtain ⟨queue, h⟩ := s.standing_send_eq m
  exact congrArg Standing.phase h

theorem phase_report (s : State σ) (replyTo : Option RequestId)
    (outcome : Except ErrorObject Json) :
    (s.report replyTo outcome).phase = s.phase := by
  cases replyTo with
  | none => rfl
  | some id => exact s.phase_send _

-- ---------------------------------------------------------------------------
-- Taking in
-- ---------------------------------------------------------------------------

/-- The state in which a value leaves the session at first. -/
def Admission.state : Admission σ → State σ
  | .settled s => s
  | .violated s _ => s
  | .refused s _ => s
  | .called s _ _ => s

/-- A value that is noted is taken in; what the handler makes of it comes with the call. -/
theorem standing_record_routed (s : State σ) (value : Json) :
    (s.record (.routed value)).standing =
      { s.standing with intake := ⟨s.routed ++ [value], s.memory⟩ } := by
  rw [standing, intake, output_record, routed_record]
  simp [Observed.wrote?, routed?, standing, record]

/-- A value that is taken in is noted, and the handler remembers it. -/
theorem standing_receive (handler : Handler σ) (s : State σ) (value : Json) :
    (s.receive handler value).state.standing =
      { s.standing with intake := s.intake.take handler value } := by
  -- requests and notifications call the handler alike
  have hcall : ∀ replyTo method params,
      ((s.record (.routed value)).call handler replyTo method params).state.standing =
        { s.standing with intake := ⟨s.routed ++ [value], (handler s.memory method params).2⟩ } :=
    fun _ method params => (standing_record rfl rfl _).trans
      (standing_record_routed { s with memory := (handler s.memory method params).2 } value)
  unfold receive Intake.take Handler.meet
  cases Message.classify value with
  | error malformed => exact s.standing_record_routed value
  | ok message =>
    cases message with
    | response id outcome =>
      cases hsettle : (s.record (.routed value)).settleResponse id outcome with
      | ok settled =>
        simp only [hsettle]
        exact (standing_settleResponse hsettle).trans (s.standing_record_routed value)
      | error fault =>
        simp only [hsettle]
        exact s.standing_record_routed value
    | request id method params => exact hcall _ _ _
    | notification method params => exact hcall _ _ _

-- ---------------------------------------------------------------------------
-- Phases
-- ---------------------------------------------------------------------------

/-- Starting begins the reading, unless the session was started or given up before. -/
theorem standing_start (s : State σ) :
    s.start.standing = s.standing ∨
      s.phase = .idle ∧ s.start.standing = { s.standing with phase := .reading } := by
  rw [start]
  split
  · rename_i hphase
    exact .inr ⟨hphase, standing_wakeWriter _⟩
  · exact .inl rfl

/-- Giving up does something only before the start. -/
theorem standing_abort (s : State σ) :
    s.abort.standing = s.standing ∨ s.phase = .idle ∧ s.abort.phase = .discarded := by
  rw [abort]
  split
  · rename_i hphase
    exact .inr ⟨hphase, rfl⟩
  · exact .inl rfl

theorem intake_abort (s : State σ) : s.abort.intake = s.intake := by
  unfold abort
  split <;> rfl

theorem intake_beginFlushing (s : State σ) (outcome : Except CallFault Unit) :
    (s.beginFlushing outcome).intake = s.intake := by
  unfold beginFlushing command
  split
  · exact congrArg Standing.intake (standing_wakeWriter _)
  · rfl

/-- **The end of a session**: flushing is done when the writer has its verdict. -/
theorem standing_finishFlushing (s : State σ) :
    s.finishFlushing.standing = s.standing ∨
      ∃ outcome result verdict, s.phase = .flushing outcome ∧
        Writer.verdict? s.writer = some verdict ∧
        s.finishFlushing.standing = { s.standing with phase := .ended result } := by
  rw [finishFlushing]
  split
  · rename_i hphase hverdict
    exact .inr ⟨_, _, _, hphase, hverdict, rfl⟩
  · rename_i hphase hverdict
    exact .inr ⟨_, _, _, hphase, hverdict, rfl⟩
  · exact .inl rfl

/-- **The end of reading**: tasks are waited for. -/
theorem standing_stop (s : State σ) (outcome : Except CallFault Unit) :
    (s.stop outcome).standing = { s.standing with phase := .draining outcome } := rfl

end State
end EditorLink.Session
