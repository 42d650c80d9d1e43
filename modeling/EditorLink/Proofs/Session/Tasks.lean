import EditorLink.Proofs.Session.Standing

/-!
# EditorLink — the tasks of a session

A task has a turn or waits. Operations leave the tasks as they are, in another order at most; only
the turn of a task, and a gate that opens, change where a task stands.

The order of tasks is that of their turns, which changes with every task that is woken: an outcome that comes to the
desk, a timeout, and a gate all move a task from those that wait to those with a turn. For what follows it is enough
that no task is lost, made or changed by that, and so the lemmas are about permutations where the order may change and
about equality where it does not.

The second part is about when a session runs: from its start until its writer is at its end. Tasks and the writer have
turns only then, so that the lemmas on turns take this as a hypothesis.

## Results

* `State.workers` — the tasks, those with a turn first;
* `workers_…` — what each operation does to them;
* `isRunning_…` — a session runs until its writer is at its end.
-/

namespace EditorLink.Session

open Message (CallFault ErrorObject Outgoing RequestId)
open scoped List

variable {σ : Type}

def Turn.worker? : Turn → Option Worker
  | .task worker => some worker
  | .writer => none

namespace State

def workers (s : State σ) : List Worker := s.turns.filterMap Turn.worker? ++ s.blocked

/-- The tasks of their own turns. -/
theorem filterMap_worker?_task (xs : List Worker) :
    (xs.map Turn.task).filterMap Turn.worker? = xs := by
  rw [List.filterMap_map]
  exact List.filterMap_some

-- ---------------------------------------------------------------------------
-- Sending and asking
-- ---------------------------------------------------------------------------

theorem workers_wakeWriter (s : State σ) : s.wakeWriter.workers = s.workers := by
  unfold wakeWriter
  split
  · rfl
  · split
    · rfl
    · simp [workers, Turn.worker?]

/-- Queueing a frame may wake the writer, and no task. -/
theorem workers_send (s : State σ) (m : Outgoing) : (s.send m).2.workers = s.workers := by
  rw [send, enqueue]
  split
  · rename_i h
    rw [command, if_pos h]
    exact workers_wakeWriter _
  · rfl

theorem workers_report (s : State σ) (replyTo : Option RequestId)
    (outcome : Except ErrorObject Json) :
    (s.report replyTo outcome).workers = s.workers := by
  cases replyTo with
  | none => rfl
  | some id => exact s.workers_send _

theorem workers_refuse (s : State σ) (id : Nat) (fault : CallFault) :
    (s.refuse id fault).workers = s.workers := by
  unfold refuse
  split <;> rfl

theorem workers_ask (s : State σ) (method : String) (params : Json) :
    (s.ask method params).2.workers = s.workers := by
  show (s.issue.2.dispatch s.issue.1.id method params).workers = _
  have hsend := s.issue.2.workers_send (.request s.issue.1.id method params)
  rw [dispatch]
  -- a request that cannot be sent is refused, which is no matter of tasks
  rcases heq :
      s.issue.2.send (.request s.issue.1.id method params) with ⟨_ | u, s'⟩ <;> rw [heq] at hsend
  · exact (s'.workers_refuse _ _).trans hsend
  · exact hsend

theorem workers_beginFlushing (s : State σ) (outcome : Except CallFault Unit) :
    (s.beginFlushing outcome).workers = s.workers := by
  unfold beginFlushing command
  split
  · exact workers_wakeWriter _
  · rfl

theorem workers_finishFlushing (s : State σ) : s.finishFlushing.workers = s.workers := by
  unfold finishFlushing
  split <;> rfl

theorem workers_start (s : State σ) : s.start.workers = s.workers := by
  rw [start]
  split
  · exact workers_wakeWriter _
  · rfl

theorem workers_abort (s : State σ) : s.abort.workers = s.workers := by
  rw [abort]
  split <;> rfl

theorem workers_takeCommand (s : State σ) : s.takeCommand.workers = s.workers := by
  unfold takeCommand
  split <;> rfl

theorem workers_push (s : State σ) (n : Nat) : (s.push n).workers = s.workers := by
  unfold push
  split <;> rfl

theorem workers_flush (s : State σ) : s.flush.workers = s.workers := by
  unfold flush
  split <;> rfl

-- ---------------------------------------------------------------------------
-- Turns
-- ---------------------------------------------------------------------------

/-- A task that has asked looks for its answer. -/
theorem advance_ask (s : State σ) (replyTo : Option RequestId) (method : String) (params : Json)
    (next : Except CallFault Json → Task) :
    s.advance replyTo (.ask method params next) =
      (s.ask method params).2.resume replyTo (.asking (s.ask method params).1 next) := by
  rw [advance, resume]

/-- A task that waits for an outcome goes on with it, and the others stay. -/
theorem workers_asking {replyTo : Option RequestId} {next : Except CallFault Json → Task}
    (hnext : ∀ outcome (s : State σ), (advance replyTo (next outcome) s).1.workers = s.workers)
    (s : State σ) (ticket : Correlation.Ticket) :
    (s.resume replyTo (.asking ticket next)).1.workers = s.workers := by
  have hpolled : (s.poll ticket).2.2.workers = s.workers := rfl
  rw [resume]
  rcases hpoll : s.poll ticket with ⟨_ | outcome, ticket', s'⟩ <;> rw [hpoll] at hpolled
  · exact hpolled
  · exact (hnext outcome s').trans hpolled

/-- A task that runs changes no other. -/
theorem workers_advance (replyTo : Option RequestId) (task : Task) (s : State σ) :
    (advance replyTo task s).1.workers = s.workers := by
  -- on the program
  induction task generalizing s with
  | finish result => exact s.workers_report _ _
  | fail fault => exact s.workers_report _ _
  | crash message => exact s.workers_report _ _
  | notify method params next ih => exact (ih _ _).trans (s.workers_send _)
  | ask method params next ih =>
    rw [advance_ask]
    exact (workers_asking ih _ _).trans (s.workers_ask method params)
  | wait gate next ih => rfl
  | close next ih => exact ih _

/-- **A turn of a task** leaves the other tasks as they are. -/
theorem workers_resume (s : State σ) (replyTo : Option RequestId) (progress : Progress) :
    (s.resume replyTo progress).1.workers = s.workers := by
  cases progress with
  | ready task => exact workers_advance replyTo task s
  | held gate next => rfl
  | asking ticket next =>
    exact workers_asking (fun outcome => workers_advance replyTo (next outcome)) s ticket

-- ---------------------------------------------------------------------------
-- Waiting no more
-- ---------------------------------------------------------------------------

variable {handler : Handler σ} {s s' : State σ}

/-- Those who get a turn do not wait any more. -/
theorem workers_wake (s : State σ) (chosen : Worker → Bool) :
    (s.wake chosen).workers ~ s.workers := by
  rw [workers, wake, List.filterMap_append, filterMap_worker?_task, List.append_assoc, workers]
  exact (List.filter_append_perm chosen s.blocked).append_left _

/-- The end of reading wakes those who wait for an outcome. -/
theorem workers_stop (s : State σ) (outcome : Except CallFault Unit) :
    (s.stop outcome).workers ~ s.workers :=
  workers_wake _ _

/-- Those whose time has come only change their place. -/
theorem workers_elapse (s : State σ) (span : Span) : (s.elapse span).workers ~ s.workers := by
  rw [workers, elapse, List.filterMap_append, filterMap_worker?_task, List.append_assoc, workers]
  refine List.Perm.append_left _ ?_
  exact ((List.mergeSort_perm _ _).append_right _).trans (List.filter_append_perm _ _)

/-- Where the tasks stand when a gate is open. -/
def opened (gate : String) (xs : List Worker) : List Worker :=
  xs.map fun x => (x.released gate).getD x

/-- **A gate opens** for those who wait there, and they get turns. -/
theorem workers_release (s : State σ) (gate : String) :
    (s.release gate).workers ~ s.turns.filterMap Turn.worker? ++ opened gate s.blocked := by
  -- those who can go on come first, which is another order of the same tasks
  have hopened : ∀ xs : List Worker,
      xs.filterMap (·.released gate) ++ xs.filter (fun x => (x.released gate).isNone) ~
        opened gate xs := by
    intro xs
    induction xs with
    | nil => exact .refl _
    | cons x rest ih =>
      rw [opened, List.map_cons]
      cases hx : x.released gate with
      | none =>
        rw [List.filterMap_cons_none hx, List.filter_cons, if_pos (by rw [hx]; rfl)]
        exact List.perm_middle.trans (ih.cons x)
      | some y =>
        rw [List.filterMap_cons_some hx, List.filter_cons, if_neg (by rw [hx]; simp)]
        exact ih.cons y
  rw [workers, release, List.filterMap_append, filterMap_worker?_task, List.append_assoc]
  exact (hopened _).append_left _

theorem workers_passOver {fault : CallFault} (h : s.passOver fault = .ok s') :
    s'.workers = s.workers := by
  rw [passOver] at h
  split at h <;> cases h
  rfl

/-- An outcome may wake the task that waits for it. -/
theorem workers_settle {n : Nat} {outcome : Correlation.Outcome} (h : s.settle n outcome = .ok s') :
    s'.workers ~ s.workers := by
  rw [settle] at h
  cases hdesk : s.desk.settle n outcome <;> rw [hdesk] at h <;> cases h
  exact workers_wake _ _

theorem workers_settleResponse {id : Json} {outcome : Except ErrorObject Json}
    (h : s.settleResponse id outcome = .ok s') : s'.workers ~ s.workers := by
  rw [settleResponse] at h
  split at h
  · exact .of_eq (workers_passOver h)
  · split at h
    · rename_i hsettle
      cases h
      exact workers_settle hsettle
    · exact .of_eq (workers_passOver h)

/-- **A value is taken in**: the tasks are the same, before a new one is started. -/
theorem workers_receive (s : State σ) (value : Json) :
    (s.receive handler value).state.workers ~ s.workers := by
  rw [receive]
  split
  · split
    · rename_i hsettle
      exact (workers_settleResponse hsettle :)
    · exact .refl _
  · exact .refl _
  · exact .refl _
  · exact .refl _

-- ---------------------------------------------------------------------------
-- Phases
-- ---------------------------------------------------------------------------

/-- Carrying out a reaction leaves the phase alone. -/
theorem phase_perform (replyTo : Option RequestId) (reaction : Reaction) (s : State σ) :
    (perform replyTo s reaction).phase = s.phase := by
  induction reaction generalizing s with
  | silent => rfl
  | crash message => exact s.phase_report _ _
  | start task => rfl
  | notify method params next ih => exact (ih _ _).trans (s.phase_send _)
  | close next ih => exact ih _

/-- Whether a session runs depends on its phase. -/
theorem isRunning_of_phase (h : s'.phase = s.phase) : s'.isRunning = s.isRunning := by
  rw [isRunning, isRunning, h]

def ReadStep.state : ReadStep σ → State σ
  | .routed s => s
  | .rested s => s

/-- A session that reads goes on, to the end of its reading at most. -/
theorem isRunning_read (h : s.isRunning = true) : (s.read handler).state.isRunning = true := by
  rw [read]
  split
  · rfl
  · rw [readNext]
    split
    · rename_i value reader hnext
      -- taking in a value keeps the phase, and so does carrying out what it comes to
      have hphase := congrArg Standing.phase (standing_receive handler { s with reader } value)
      have hrunning := (isRunning_of_phase hphase).trans h
      cases hreceive : { s with reader }.receive handler value with
      | settled s₁ =>
        rw [hreceive] at hrunning
        exact hrunning
      | violated s₁ fault => rfl
      | refused s₁ malformed =>
        rw [hreceive] at hrunning
        exact (isRunning_of_phase (phase_report _ _ _)).trans hrunning
      | called s₁ replyTo reaction =>
        rw [hreceive] at hrunning
        exact (isRunning_of_phase (phase_perform _ _ _)).trans hrunning
    · rfl
    · rfl
    · exact h

/-- It runs on when it has read all there is. -/
theorem isRunning_readAll (fuel : Nat) (h : s.isRunning = true) :
    (s.readAll handler fuel).isRunning = true := by
  induction fuel generalizing s with
  | zero => exact h
  | succ fuel ih =>
    rw [readAll]
    split
    · have hread : (s.read handler).state.isRunning = true := isRunning_read h
      cases hstep : s.read handler with
      | routed s₁ =>
        rw [hstep] at hread
        exact ih hread
      | rested s₁ =>
        rw [hstep] at hread
        exact hread
    · exact h

theorem isRunning_finishDraining (h : s.isRunning = true) : s.finishDraining.isRunning = true := by
  rw [finishDraining]
  split
  · split
    · unfold beginFlushing command
      split
      · exact isRunning_of_phase (congrArg Standing.phase (standing_wakeWriter _))
      · rfl
    · exact h
  · exact h

end State
end EditorLink.Session
