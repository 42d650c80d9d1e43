import EditorLink.Proofs.Session.Interleaving

/-!
# EditorLink — what goes on without a word

Most of what is done to a session says nothing, takes nothing in and leaves its reader alone: it changes the
desk, the wish to end the session, or who is next.

`Quiet` names what may change and says that the rest is the same, as one equation between states. So whoever has a
quiet step can read off that any other part is unchanged, without a lemma for each pair of operation and part; the
lemmas on standing, history, reader, phase and settings are such readings. Steps one after the other are quiet as well.

Taking in a value is not quiet, but it is so apart from two notes in the history. Starting a session, and the end of
its flushing, change the phase and are quiet besides that.

## Results

* `State.Quiet` — nothing else changes;
* `quiet_…` — the operations of which that holds;
* `State.noted`, `State.quiet_receive` — a value that is taken in is noted, and the rest is quiet;
* `World.course_receive` — what the read loop does with it is at most a conclusion.
-/

namespace EditorLink.Session

open Message (CallFault ErrorObject RequestId)

variable {σ : Type}

/-- What a message calls the handler with, if it does. -/
def callOf? (value : Json) : Option (String × Json) :=
  match Message.classify value with
  | .ok (.request _ method params) => some (method, params)
  | .ok (.notification method params) => some (method, params)
  | _ => none

/-- A request or a notification calls the handler, and nothing else does. -/
theorem callOf?_eq_some {value : Json} {method : String} {params : Json} :
    callOf? value = some (method, params) ↔
      (∃ id, Message.classify value = .ok (.request id method params)) ∨
        Message.classify value = .ok (.notification method params) := by
  rw [callOf?]
  cases Message.classify value with
  | error malformed => simp
  | ok message => cases message <;> simp

namespace State

/-- Nothing changes but the desk, the wish to end the session, and who is next. -/
def Quiet (s s' : State σ) : Prop :=
  s' = { s with
    desk := s'.desk, closeAsked := s'.closeAsked, turns := s'.turns, blocked := s'.blocked }

variable {s s' s'' : State σ}

namespace Quiet

theorem trans (h : s.Quiet s') (h' : s'.Quiet s'') : s.Quiet s'' := by
  rw [Quiet, h', h]

theorem standing (h : s.Quiet s') : s'.standing = s.standing := by
  rw [h]
  rfl

theorem history (h : s.Quiet s') : s'.history = s.history := by rw [h]

theorem reader (h : s.Quiet s') : s'.reader = s.reader := by rw [h]

theorem phase (h : s.Quiet s') : s'.phase = s.phase := by rw [h]

theorem config (h : s.Quiet s') : s'.config = s.config := by rw [h]

end Quiet

/-- Undoing a registration is a matter of the desk. -/
theorem quiet_refuse (s : State σ) (id : Nat) (fault : CallFault) : s.Quiet (s.refuse id fault) := by
  unfold refuse
  split <;> rfl

theorem quiet_wakeWriter (s : State σ) : s.Quiet s.wakeWriter := by
  unfold wakeWriter
  split
  · rfl
  · split <;> rfl

/-- What is sent goes into the queue and is noted, if frames are taken. -/
theorem quiet_send (h : s.accepting = true) (m : Message.Outgoing) :
    ({ s with
        queue := s.queue ++ [.send (Framing.encode m.toJson)]
        history := .queued (Framing.encode m.toJson) :: s.history } : State σ).Quiet (s.send m).2 := by
  rw [send, enqueue, if_pos h, command, if_pos h]
  unfold wakeWriter
  split
  · rfl
  · split <;> rfl

/-- Passing over a response changes nothing. -/
theorem quiet_passOver {fault : CallFault} (h : s.passOver fault = .ok s') : s.Quiet s' := by
  rw [passOver] at h
  split at h <;> cases h
  rfl

/-- Settling a request is a matter of the desk, and of who waits for it. -/
theorem quiet_settle {id : Nat} {outcome : Correlation.Outcome} (h : s.settle id outcome = .ok s') :
    s.Quiet s' := by
  rw [settle] at h
  cases hdesk : s.desk.settle id outcome <;> rw [hdesk] at h <;> cases h
  rfl

/-- So is a response, if it is taken or passed over. -/
theorem quiet_settleResponse {id : Json} {outcome : Except ErrorObject Json}
    (h : s.settleResponse id outcome = .ok s') : s.Quiet s' := by
  rw [settleResponse] at h
  split at h
  · exact quiet_passOver h
  · split at h
    · rename_i hsettle
      cases h
      exact quiet_settle hsettle
    · exact quiet_passOver h

/-- Starting changes the phase, and who is next. -/
theorem quiet_start (s : State σ) : ∃ phase, ({ s with phase } : State σ).Quiet s.start := by
  rw [start]
  split
  · exact ⟨.reading, quiet_wakeWriter _⟩
  · exact ⟨s.phase, rfl⟩

theorem quiet_finishFlushing (s : State σ) :
    ∃ phase, ({ s with phase } : State σ).Quiet s.finishFlushing := by
  rw [finishFlushing]
  split
  · exact ⟨.ended (.error _), rfl⟩
  · exact ⟨.ended _, rfl⟩
  · exact ⟨s.phase, rfl⟩

/-- A value is noted, and the call of the handler if there is one. -/
def noted (handler : Handler σ) (s : State σ) (value : Json) : State σ :=
  { s with
    memory := (handler.meet s.memory value).2
    history := ((callOf? value).map fun (method, params) => .called method params).toList ++
      .routed value :: s.history }

/-- **A value that is taken in** is noted, and all else is quiet. -/
theorem quiet_receive (handler : Handler σ) (s : State σ) (value : Json) :
    (s.noted handler value).Quiet (s.receive handler value).state := by
  unfold receive noted callOf? Handler.meet
  cases Message.classify value with
  | error malformed => rfl
  | ok message =>
    cases message with
    | request id method params => rfl
    | notification method params => rfl
    | response id outcome =>
      cases hsettle : (s.record (.routed value)).settleResponse id outcome with
      | ok settled =>
        simp only [hsettle]
        exact quiet_settleResponse hsettle
      | error fault =>
        simp only [hsettle]
        rfl

end State

/-- What the read loop does with a value is at most a conclusion. -/
theorem World.course_receive (handler : Handler σ) (w : World σ) (value : Json) :
    (w.receive handler value).toCourse =
        { w.toCourse with state := (w.state.receive handler value).state } ∨
      ∃ o replyTo k, (w.receive handler value).toCourse =
        ({ w.toCourse with state := (w.state.receive handler value).state }).conclude o replyTo k := by
  rw [receive]
  cases w.state.receive handler value with
  | settled s => exact .inr ⟨w.state.intake.upcoming handler value, none, .settled, rfl⟩
  | violated s fault => exact .inr ⟨w.state.intake.upcoming handler value, none, .settled, rfl⟩
  | refused s malformed =>
    exact .inr ⟨w.state.intake.upcoming handler value, malformed.id, .refused malformed.fault, rfl⟩
  | called s replyTo reaction => exact .inl rfl

end EditorLink.Session
