import EditorLink.Proofs.Session.Standing

/-!
# EditorLink — a session apart from who is next

Turns and waiting lists say which task is next. Apart from that a session is its core, and what an
operation makes of the core does not depend on who is next.

This is what lets the session as it runs, in one order, be compared with the interleaving, which has no turns: both
have the same core at corresponding moments (`EditorLink.Proofs.Session.Simulation`). Each operation has one lemma,
of one form: from sessions with the same core it leads to sessions with the same core, and it gives the same result.
Operations that only change turns leave the core as it is.

The tasks themselves are not part of the core. Where they stand is compared apart from it, as a list in any order
(`EditorLink.Proofs.Session.Tasks`).

## Results

* `State.core` — the core;
* `core_…` — sessions with the same core come to the same by each operation;
* `alike_receive` — a value is taken in alike.
-/

namespace EditorLink.Session

open Message (CallFault ErrorObject Outgoing RequestId)

variable {σ : Type}

namespace State

/-- A session without those who are next. -/
def core (s : State σ) : State σ := { s with turns := [], blocked := [] }

/-- Who is next does not matter. -/
theorem eq_of_core {s s' : State σ} (h : s'.core = s.core) :
    s' = { s with turns := s'.turns, blocked := s'.blocked } := by
  cases s
  cases s'
  simp_all [core]

-- ---------------------------------------------------------------------------
-- Without regard to the core
-- ---------------------------------------------------------------------------

theorem core_wakeWriter (s : State σ) : s.wakeWriter.core = s.core := by
  unfold wakeWriter
  split
  · rfl
  · split <;> rfl

/-- What a command in the queue makes of the core, spelled out. -/
theorem core_command (s : State σ) (c : Command) :
    (s.command c).core =
      if s.accepting then { s.core with queue := s.queue ++ [c] } else s.core := by
  rw [command]
  split
  · exact core_wakeWriter _
  · rfl

/-- Whether something can be sent is known from the core. -/
theorem send_fst (s : State σ) (m : Outgoing) :
    (s.send m).1 = if s.accepting then .ok () else .error .closed := by
  rw [send, enqueue]
  split <;> rfl

/-- What sending makes of the core, spelled out. -/
theorem core_send_eq (s : State σ) (m : Outgoing) :
    (s.send m).2.core =
      if s.accepting then
        (s.command (.send (Framing.encode m.toJson))).core.record
          (.queued (Framing.encode m.toJson))
      else s.core := by
  rw [send, enqueue]
  split <;> rfl

/-- What two sessions with the same core come to is the same. -/
theorem same_cases {x y : Except CallFault (State σ)} (h : x.map core = y.map core) :
    (∃ fault, x = .error fault ∧ y = .error fault) ∨ ∃ u v, x = .ok u ∧ y = .ok v ∧
      u.core = v.core := by
  cases x <;> cases y <;> simp_all [Except.map]

-- ---------------------------------------------------------------------------
-- With the same core
-- ---------------------------------------------------------------------------

variable {handler : Handler σ} {s s' : State σ}

theorem core_close (h : s'.core = s.core) : s'.close.core = s.close.core := by
  rw [eq_of_core h]
  rfl

theorem core_issue (h : s'.core = s.core) :
    s'.issue.1 = s.issue.1 ∧ s'.issue.2.core = s.issue.2.core := by
  rw [eq_of_core h]
  exact ⟨rfl, rfl⟩

theorem core_poll (h : s'.core = s.core) (ticket : Correlation.Ticket) :
    (s'.poll ticket).1 = (s.poll ticket).1 ∧ (s'.poll ticket).2.1 = (s.poll ticket).2.1 ∧
      (s'.poll ticket).2.2.core = (s.poll ticket).2.2.core := by
  rw [eq_of_core h]
  exact ⟨rfl, rfl, rfl⟩

theorem core_refuse (h : s'.core = s.core) (id : Nat) (fault : CallFault) :
    (s'.refuse id fault).core = (s.refuse id fault).core := by
  rw [eq_of_core h]
  unfold refuse
  simp only
  split <;> rfl

theorem core_send (h : s'.core = s.core) (m : Outgoing) :
    (s'.send m).1 = (s.send m).1 ∧ (s'.send m).2.core = (s.send m).2.core := by
  rw [send_fst, send_fst, core_send_eq, core_send_eq, core_command, core_command, eq_of_core h]
  exact ⟨rfl, rfl⟩

theorem core_report (h : s'.core = s.core) (replyTo : Option RequestId)
    (outcome : Except ErrorObject Json) :
    (s'.report replyTo outcome).core = (s.report replyTo outcome).core := by
  cases replyTo with
  | none => exact h
  | some id => exact (core_send h _).2

theorem core_stop (h : s'.core = s.core) (outcome : Except CallFault Unit) :
    (s'.stop outcome).core = (s.stop outcome).core := by
  rw [eq_of_core h]
  rfl

theorem core_takeCommand (h : s'.core = s.core) : s'.takeCommand.core = s.takeCommand.core := by
  rw [eq_of_core h]
  unfold takeCommand
  simp only
  split <;> rfl

theorem core_push (h : s'.core = s.core) (n : Nat) : (s'.push n).core = (s.push n).core := by
  rw [eq_of_core h]
  unfold push
  simp only
  split <;> rfl

theorem core_flush (h : s'.core = s.core) : s'.flush.core = s.flush.core := by
  rw [eq_of_core h]
  unfold flush
  simp only
  split <;> rfl

theorem core_failWrite (h : s'.core = s.core) (reason : String) :
    (s'.failWrite reason).core = (s.failWrite reason).core := by
  rw [eq_of_core h]
  rfl

theorem core_crashWrite (h : s'.core = s.core) : s'.crashWrite.core = s.crashWrite.core := by
  rw [eq_of_core h]
  rfl

theorem core_start (h : s'.core = s.core) : s'.start.core = s.start.core := by
  have hphase : s'.phase = s.phase := congrArg (·.phase) h
  rw [start, start, hphase]
  split
  · rw [core_wakeWriter, core_wakeWriter]
    exact congrArg (fun u : State σ => { u with phase := .reading }) h
  · exact h

theorem core_abort (h : s'.core = s.core) : s'.abort.core = s.abort.core := by
  rw [eq_of_core h]
  unfold abort
  simp only
  split <;> rfl

theorem core_beginFlushing (h : s'.core = s.core) (outcome : Except CallFault Unit) :
    (s'.beginFlushing outcome).core = (s.beginFlushing outcome).core := by
  rw [beginFlushing, beginFlushing, core_command, core_command, eq_of_core h]
  rfl

theorem core_finishFlushing (h : s'.core = s.core) :
    s'.finishFlushing.core = s.finishFlushing.core := by
  rw [eq_of_core h]
  unfold finishFlushing
  simp only
  split <;> rfl

-- ---------------------------------------------------------------------------
-- Taking in
-- ---------------------------------------------------------------------------

/-- An outcome comes to the desk, or it is refused. -/
theorem core_settle (h : s'.core = s.core) (n : Nat) (outcome : Correlation.Outcome) :
    (s'.settle n outcome).map core = (s.settle n outcome).map core := by
  rw [eq_of_core h, settle, settle]
  cases s.desk.settle n outcome <;> rfl

/-- Whether a response that is not expected is passed over depends on the settings. -/
theorem core_passOver (h : s'.core = s.core) (fault : CallFault) :
    (s'.passOver fault).map core = (s.passOver fault).map core := by
  have hstrict : s'.config = s.config := congrArg (·.config) h
  rw [passOver, passOver, hstrict]
  split
  · rfl
  · exact congrArg Except.ok h

theorem core_settleResponse (h : s'.core = s.core) (id : Json) (outcome : Except ErrorObject Json) :
    (s'.settleResponse id outcome).map core = (s.settleResponse id outcome).map core := by
  rw [settleResponse, settleResponse]
  cases id.natural? with
  | none => exact core_passOver h _
  | some n =>
    simp only
    -- both settle it, or neither does
    rcases same_cases (core_settle h n (outcome.mapError .remote)) with
      ⟨fault, h₁, h₂⟩ | ⟨u, v, h₁, h₂, hcore⟩ <;> rw [h₁, h₂]
    · exact core_passOver h fault
    · exact congrArg Except.ok hcore

/-- A value comes to the same at first, but for those who are next. -/
inductive Admission.Alike : Admission σ → Admission σ → Prop
  | settled {u v : State σ} (h : u.core = v.core) : Alike (.settled u) (.settled v)
  | violated {u v : State σ} (h : u.core = v.core) (fault : CallFault) :
    Alike (.violated u fault) (.violated v fault)
  | refused {u v : State σ} (h : u.core = v.core) (malformed : Message.Malformed) :
    Alike (.refused u malformed) (.refused v malformed)
  | called {u v : State σ} (h : u.core = v.core) (replyTo : Option RequestId)
    (reaction : Reaction) :
    Alike (.called u replyTo reaction) (.called v replyTo reaction)

theorem alike_call (h : s'.core = s.core) (replyTo : Option RequestId) (method : String)
    (params : Json) :
    (s'.call handler replyTo method params).Alike (s.call handler replyTo method params) := by
  have hmemory : s'.memory = s.memory := congrArg (·.memory) h
  rw [call, call, hmemory]
  rcases handler s.memory method params with ⟨reaction, memory⟩
  exact .called (congrArg (fun u : State σ => { u with memory }.record (.called method params)) h)
    replyTo reaction

/-- **A value** is taken in alike, whatever it is. -/
theorem alike_receive (h : s'.core = s.core) (value : Json) :
    (s'.receive handler value).Alike (s.receive handler value) := by
  -- the note of the value is part of the core
  have hnoted : (s'.record (.routed value)).core = (s.record (.routed value)).core := by
    rw [eq_of_core h]
    rfl
  rw [receive, receive]
  cases Message.classify value with
  | error malformed => exact .refused hnoted malformed
  | ok message =>
    cases message with
    | response id outcome =>
      simp only
      rcases same_cases (core_settleResponse hnoted id outcome) with
        ⟨fault, h₁, h₂⟩ | ⟨u, v, h₁, h₂, hcore⟩ <;> rw [h₁, h₂]
      · exact .violated hnoted fault
      · exact .settled hcore
    | request id method params => exact alike_call hnoted (some id) method params
    | notification method params => exact alike_call hnoted none method params

end State
end EditorLink.Session
