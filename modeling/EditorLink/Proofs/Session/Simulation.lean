import EditorLink.Proofs.Session.Pursuit

/-!
# EditorLink — a session as it runs is one of the interleavings

`State.rest` and the operations from outside drive a session in one order. Each of them is some
steps of the interleaving, in which the tasks of the session are the threads.

The session and the interleaving mirror each other if they have the same core and if threads and tasks stand at the
same places, in any order. From there on the session is followed operation by operation: what it does in one go, the
interleaving does in some steps, and both mirror each other again. Some operations are followed in the middle of
others, such as turns within a round; then the tasks that are about to have their turns are counted in (`next`).

Coming to rest is a loop of rounds: reading, turns of tasks, turns of the writer, and the steps of the end. It has fuel,
and following it is by induction on that; how much fuel there is does not matter to the result, which is about where
the session has come to.

What holds in all interleavings thus holds in the session as it runs. The converse is not claimed.

## Results

* `Mirrors` — a session and an interleaving that stand at the same place;
* `Follows`, `Settles` — the interleaving comes to where the session goes;
* `Mirrors.rest` — coming to rest, built from rounds, reading, turns and the steps of the end;
* `Operates`, `Driven` — what can be done with a session, and the sessions that come of it;
* `Driven.settles` — each of them is mirrored by a run of the interleaving.
-/

namespace EditorLink.Session

open Message (CallFault ErrorObject Outgoing RequestId)
open scoped List

variable {σ : Type}

-- ---------------------------------------------------------------------------
-- A session and its interleaving
-- ---------------------------------------------------------------------------

/-- A session and an interleaving with the same core, whose threads stand where the tasks of the
session and those that are about to have their turns do. -/
structure Mirrors (next : List Worker) (s : State σ) (w : World σ) : Prop where
  core : w.state.core = s.core
  threads : w.threads.map Thread.face ~ (next ++ s.workers).map Worker.face

/-- Some steps lead to a mirror of a session. They leave the phase and the read loop as they are. -/
def Follows (handler : Handler σ) (w : World σ) (next : List Worker) (s : State σ) : Prop :=
  ∃ w', Runs handler w w' ∧ w'.loop = w.loop ∧ w'.state.phase = w.state.phase ∧ Mirrors next s w'

variable {handler : Handler σ} {next next' : List Worker} {s s' : State σ} {w : World σ}

/-- One operation after the other is followed by the steps of both. -/
theorem Follows.trans (h : Follows handler w next s)
    (hgo : ∀ {w'}, w'.loop = w.loop → w'.state.phase = w.state.phase → Mirrors next s w' →
      Follows handler w' next' s') : Follows handler w next' s' := by
  -- the second part starts where the first has come to
  obtain ⟨w₁, hrun₁, hloop₁, hphase₁, hmirrors⟩ := h
  obtain ⟨w₂, hrun₂, hloop₂, hphase₂, hmirrors'⟩ := hgo hloop₁ hphase₁ hmirrors
  exact ⟨w₂, hrun₁.trans hrun₂, hloop₂.trans hloop₁, hphase₂.trans hphase₁, hmirrors'⟩

/-- A task that is next stands where some thread does. -/
theorem exists_thread {x : Worker} {others : List Worker}
    (h : w.threads.map Thread.face ~ (x :: others).map Worker.face) :
    ∃ t front behind, w.threads = front ++ t :: behind ∧ t.face = x.face ∧
      (front ++ behind).map Thread.face ~ others.map Worker.face := by
  -- the face of the task is among those of the threads
  have hmem : x.face ∈ w.threads.map Thread.face := h.mem_iff.mpr (by simp)
  obtain ⟨t, ht, hface⟩ := List.mem_map.mp hmem
  obtain ⟨front, behind, hsplit⟩ := List.append_of_mem ht
  refine ⟨t, front, behind, hsplit, hface, ?_⟩
  rw [hsplit, List.map_append, List.map_cons, hface] at h
  rw [List.map_append]
  exact (List.perm_middle.symm.trans h).cons_inv

/-- What has become of a thread stands in its place. -/
theorem perm_replace {front behind : List Thread} {others : List Worker}
    (h : (front ++ behind).map Thread.face ~ others.map Worker.face) (t : Option Thread) :
    (front ++ t.toList ++ behind).map Thread.face ~
      others.map Worker.face ++ t.toList.map Thread.face := by
  have hlast : front ++ t.toList ++ behind ~ front ++ behind ++ t.toList := by
    rw [List.append_assoc, List.append_assoc]
    exact List.perm_append_comm.append_left front
  refine (hlast.map _).trans ?_
  rw [List.map_append]
  exact h.append_right _

namespace Mirrors

/-- Where they mirror each other nothing needs to be done. -/
theorem follows (h : Mirrors next s w) : Follows handler w next s := ⟨w, .refl, rfl, rfl, h⟩

theorem phase (h : Mirrors next s w) : w.state.phase = s.phase := congrArg (·.phase) h.core

theorem writer (h : Mirrors next s w) : w.state.writer = s.writer := congrArg (·.writer) h.core

theorem output (h : Mirrors next s w) : w.state.output = s.output := congrArg (·.output) h.core

theorem intake (h : Mirrors next s w) : w.state.intake = s.intake := congrArg (·.intake) h.core

theorem routed (h : Mirrors next s w) : w.state.routed = s.routed := congrArg (·.routed) h.core

/-- **The turn of a task** is some steps of its thread. -/
theorem runWorker {x : Worker} (h : Mirrors (x :: next) s w) :
    Follows handler w next (s.runWorker x) := by
  obtain ⟨hcore', hworkers⟩ := s.workers_runWorker x
  obtain ⟨t, front, behind, hsplit, hface, hothers⟩ := exists_thread h.threads
  obtain ⟨hreply, hstage⟩ := Prod.mk.inj hface
  obtain ⟨c', t', hgo, hcore, hstands⟩ := comes_resume h.core t x.progress
  rw [← hstage] at hgo
  -- what is left of the thread is what is left of the task
  have hstays : t'.toList.map Thread.face =
      ((s.resume x.replyTo x.progress).2.map (Worker.mk x.replyTo)).toList.map Worker.face := by
    rw [← hreply, ← Option.toList_map, hstands, ← Option.toList_map, Option.map_map]
    rfl
  refine ⟨_, hgo.runs rfl hsplit, rfl, hgo.phase, ?_, ?_⟩
  · rw [hcore', ← hreply]
    exact hcore
  · have hall := perm_replace hothers t'
    rw [hstays, ← List.map_append] at hall
    rw [hworkers, ← List.append_assoc]
    exact hall

/-- What a session does with what it shares with its interleaving, its tasks staying where
they are. -/
theorem along (h : Mirrors next s w) {c : Course σ} (hcore : c.state.core = s'.core)
    (hworkers : s'.workers ~ s.workers) : Mirrors next s' { w with toCourse := c } :=
  ⟨hcore, h.threads.trans ((hworkers.symm.append_left next).map _)⟩

end Mirrors

-- ---------------------------------------------------------------------------
-- The writer and the turns
-- ---------------------------------------------------------------------------

namespace Mirrors

/-- A step of the writer of a session is one of its interleaving. -/
theorem writing (h : Mirrors next s w) (hrunning : s.isRunning = true) {u : State σ}
    (hwrite : Writing w.state u) (hcore : u.core = s'.core) (hworkers : s'.workers = s.workers) :
    Follows handler w next s' := by
  have hrunning' : w.state.isRunning = true := (State.isRunning_of_phase h.phase).trans hrunning
  exact ⟨_, .single (.write hrunning' hwrite), rfl, hwrite.phase, h.along hcore (.of_eq hworkers)⟩

/-- The writer of a session carries out a command in some steps. -/
theorem write (h : Mirrors next s w) (hrunning : s.isRunning = true) :
    Follows handler w next s.write := by
  -- first the command is taken; what comes then depends on the peer
  refine (h.writing hrunning (.take _) (State.core_takeCommand h.core)
    s.workers_takeCommand).trans ?_
  intro w₁ _ hphase h₁
  have hrunning₁ : s.takeCommand.isRunning = true :=
    (State.isRunning_of_phase (Writing.take s).phase).trans hrunning
  rw [State.write]
  cases hwriter : s.takeCommand.writer with
  | writing left =>
    have hwriting : w₁.state.writer = .writing left := (congrArg (·.writer) h₁.core).trans hwriter
    cases hpeer : s.takeCommand.peer with
    | listening =>
      refine (h₁.writing hrunning₁ (.push _ left.length) (State.core_push h₁.core _)
        (State.workers_push _ _)).trans ?_
      intro w₂ _ _ h₂
      have hrunning₂ : (s.takeCommand.push left.length).isRunning = true :=
        (State.isRunning_of_phase (Writing.push _ _).phase).trans hrunning₁
      exact h₂.writing hrunning₂ (.flush _) (State.core_flush h₂.core) (State.workers_flush _)
    | failing reason =>
      exact h₁.writing hrunning₁ (.fail hwriting reason) (State.core_failWrite h₁.core reason) rfl
    | breaking => exact h₁.writing hrunning₁ (.crash hwriting) (State.core_crashWrite h₁.core) rfl
  | _ => exact h₁.follows

/-- **The writer's turn** is some of its steps. -/
theorem writeAll (fuel : Nat) (h : Mirrors next s w) (hrunning : s.isRunning = true) :
    Follows handler w next (s.writeAll fuel) := by
  -- on the number of commands; the session still runs behind each
  induction fuel generalizing s w with
  | zero => exact h.follows
  | succ fuel ih =>
    rw [State.writeAll]
    split
    · exact h.follows
    · refine (h.write hrunning).trans ?_
      intro w₁ _ hphase h₁
      have hkept : s.write.phase = s.phase := h₁.phase.symm.trans (hphase.trans h.phase)
      have hrunning₁ : s.write.isRunning = true := (State.isRunning_of_phase hkept).trans hrunning
      exact ih h₁ hrunning₁

/-- **A turn** of a task or of the writer. -/
theorem takeTurn (turn : Turn) (h : Mirrors (turn.worker?.toList ++ next) s w)
    (hrunning : s.isRunning = true) :
    Follows handler w next (s.takeTurn turn) := by
  cases turn with
  | task x => exact h.runWorker
  | writer => exact h.writeAll _ hrunning

/-- **The turns** of those that had one are some steps of the interleaving. -/
theorem takeTurns (h : Mirrors [] s w) (hrunning : s.isRunning = true) :
    Follows handler w [] s.takeTurns := by
  -- over the turns that are left, whose tasks are those about to go on
  have hturns : ∀ (turns : List Turn) {s : State σ} {w : World σ}, s.isRunning = true →
      Mirrors (turns.filterMap Turn.worker?) s w →
        Follows handler w [] (turns.foldl State.takeTurn s) := by
    intro turns
    induction turns with
    | nil => exact fun _ h => h.follows
    | cons turn turns ih =>
      intro s w hrunning h
      have hfirst : (turn :: turns).filterMap Turn.worker? =
          turn.worker?.toList ++ turns.filterMap Turn.worker? := by
        cases turn <;> rfl
      rw [hfirst] at h
      refine (h.takeTurn turn hrunning).trans ?_
      intro w₁ _ hphase h₁
      have hkept : (s.takeTurn turn).phase = s.phase := h₁.phase.symm.trans (hphase.trans h.phase)
      have hrunning₁ : (s.takeTurn turn).isRunning = true :=
        (State.isRunning_of_phase hkept).trans hrunning
      exact ih hrunning₁ h₁
  exact hturns s.turns (s := { s with turns := [] }) hrunning ⟨h.core, h.threads⟩

end Mirrors

-- ---------------------------------------------------------------------------
-- Reading
-- ---------------------------------------------------------------------------

/-- Some steps lead to a mirror of a session whose read loop waits. -/
def Settles (handler : Handler σ) (w : World σ) (s : State σ) : Prop :=
  ∃ w', Runs handler w w' ∧ w'.loop = .waiting ∧ Mirrors [] s w'

/-- One step before. -/
theorem Settles.head (h : Settles handler w s) {w₀ : World σ} (hstep : Step handler w₀ w) :
    Settles handler w₀ s := by
  obtain ⟨w', hrun, hloop, hmirrors⟩ := h
  exact ⟨w', .head hstep hrun, hloop, hmirrors⟩

namespace Mirrors

/-- **Carrying out a reaction** is some steps of the read loop. -/
theorem perform (reaction : Reaction) {t : Thread} (h : Mirrors [] s w)
    (hloop : w.loop = .busy (t.movedTo (.reacting reaction))) :
    Settles handler w (State.perform t.replyTo s reaction) := by
  -- on the reaction: the read loop is busy with the thread until a task starts or it is over
  induction reaction generalizing s w with
  | silent =>
    have hcore := congrArg (·.state.core) (w.toCourse.conclude_of_none t.occurrence t.replyTo
      (rfl : Conclusion.answer? .silent = none))
    exact ⟨_, .single (.react hloop), rfl, hcore.trans h.core, h.threads⟩
  | crash message =>
    refine ⟨_, .single (.react hloop), rfl, core_conclude h.core _ _ rfl, ?_⟩
    rw [State.perform, State.workers_report]
    exact h.threads
  | start task =>
    refine ⟨_, .single (.react hloop), rfl, h.core, ?_⟩
    have hworkers : (State.perform t.replyTo s (.start task)).workers ~
        s.workers ++ [⟨t.replyTo, .ready task⟩] := by
      simp only [State.perform, State.workers, List.filterMap_append, List.append_assoc]
      exact List.perm_append_comm.append_left _
    show (w.threads ++ [t.movedTo (.running task)]).map Thread.face ~ _
    rw [List.map_append]
    refine (h.threads.append_right _).trans (.trans ?_ (hworkers.map _).symm)
    rw [List.nil_append, List.map_append]
    exact .refl _
  | notify method params next ih =>
    obtain ⟨hsent, hcore⟩ := State.core_send h.core (.notification method params)
    let w₁ : World σ :=
      { w with
        toCourse := (w.say t.origin (.notification method params)).2
        loop := .busy (t.movedTo (.reacting (next (s.notify method params).1))) }
    have hsay : Step handler w w₁ := by
      have hreact : Step handler w _ := .react hloop
      simp only [w₁, State.notify, ← hsent]
      exact hreact
    have hworkers : s.workers ~ (s.notify method params).2.workers := .of_eq (s.workers_send _).symm
    have hmirrors : Mirrors [] (s.notify method params).2 w₁ :=
      ⟨hcore, h.threads.trans (hworkers.map _)⟩
    exact (ih _ hmirrors rfl).head hsay
  | close next ih =>
    let w₁ : World σ := { w with state := w.state.close, loop := .busy (t.movedTo (.reacting next)) }
    have hclose : Step handler w w₁ := .react hloop
    have hmirrors : Mirrors [] s.close w₁ := ⟨State.core_close h.core, h.threads⟩
    exact (ih hmirrors rfl).head hclose

theorem stop (h : Mirrors [] s w) {outcome : Except CallFault Unit}
    (hloop : w.loop = .leaving outcome) :
    Settles handler w (s.stop outcome) :=
  ⟨_, .single (.leave hloop), rfl, State.core_stop h.core outcome,
    h.threads.trans ((s.workers_stop outcome).symm.map _)⟩

/-- **Acting on a value** is some steps of the read loop. -/
theorem receive (h : Mirrors [] s w) (hphase : s.phase = .reading) (hloop : w.loop = .waiting)
    {value : Json} {reader : Framing.FrameReader} (hnext : s.reader.next = (.frame value, reader)) :
    Settles handler w ({ s with reader }.receive handler value).carryOut.state := by
  let s₀ : State σ := { s with reader }
  let w₀ : World σ := { w with state := { w.state with reader } }
  have hcore₀ : w₀.state.core = s₀.core := congrArg (fun u : State σ => { u with reader }) h.core
  have hreader : w.state.reader = s.reader := congrArg (·.reader) h.core
  have hnext' : w.state.reader.next = (.frame value, reader) := hreader ▸ hnext
  have hstep : Step handler w (w₀.receive handler value) :=
    .receive (h.phase.trans hphase) hloop hnext'
  have halike : (w₀.state.receive handler value).Alike (s₀.receive handler value) :=
    State.alike_receive hcore₀ value
  have hworkers : (s₀.receive handler value).state.workers ~ s₀.workers := s₀.workers_receive value
  rw [World.receive] at hstep
  -- only that both come to something alike matters from here
  generalize w₀.state.receive handler value = x at halike hstep
  show Settles handler w (s₀.receive handler value).carryOut.state
  generalize s₀.receive handler value = y at halike hworkers
  have hthreads : ∀ {v : State σ}, v.workers ~ s₀.workers →
      w.threads.map Thread.face ~ v.workers.map Worker.face := by
    intro v hv
    exact h.threads.trans (hv.symm.map _)
  cases halike with
  | settled hcore => exact ⟨_, .single hstep, hloop, hcore, hthreads hworkers⟩
  | violated hcore fault =>
    refine Settles.head (stop ?_ rfl) hstep
    exact ⟨hcore, hthreads hworkers⟩
  | refused hcore malformed =>
    refine ⟨_, .single hstep, hloop, core_conclude hcore _ _ rfl, ?_⟩
    exact hthreads ((State.workers_report _ _ _).symm ▸ hworkers)
  | called hcore replyTo reaction =>
    let t : Thread := ⟨w₀.state.intake.upcoming handler value, replyTo, .reacting reaction⟩
    refine Settles.head (perform reaction (t := t) ?_ rfl) hstep
    exact ⟨hcore, hthreads hworkers⟩

/-- The read loop ends, and callers are told. -/
theorem cease (h : Mirrors [] s w) (hphase : s.phase = .reading) (hloop : w.loop = .waiting)
    {u : State σ}
    {outcome : Except CallFault Unit} (hcease : Ceases w.state u outcome) (hcore : u.core = s'.core)
    (hworkers : s'.workers = s.workers) : Settles handler w (s'.stop outcome) := by
  have hstep : Step handler w { w with state := u, loop := .leaving outcome } :=
    .cease (h.phase.trans hphase) hloop hcease
  have hmirrors : Mirrors [] s' { w with state := u, loop := .leaving outcome } := by
    refine ⟨hcore, ?_⟩
    rw [hworkers]
    exact h.threads
  exact (hmirrors.stop rfl).head hstep

/-- **Reading once** is some steps of the read loop. -/
theorem read (h : Mirrors [] s w) (hphase : s.phase = .reading) (hloop : w.loop = .waiting) :
    Settles handler w (s.read handler).state := by
  have hreader : w.state.reader = s.reader := congrArg (·.reader) h.core
  have hasked : w.state.closeAsked = s.closeAsked := congrArg (·.closeAsked) h.core
  have hcore : ∀ reader : Framing.FrameReader,
      ({ w.state with reader } : State σ).core = ({ s with reader } : State σ).core := by
    intro reader
    exact congrArg (fun u : State σ => { u with reader }) h.core
  rw [State.read]
  split
  · -- a wish to end the session comes first
    rename_i hclose
    have hcore' :
        ({ w.state with closeAsked := false } : State σ).core =
          { s with closeAsked := false }.core :=
      congrArg (fun u : State σ => { u with closeAsked := false }) h.core
    exact h.cease hphase hloop (.closed (hasked.trans hclose)) hcore' rfl
  · rw [State.readNext]
    -- then what the reader finds: a value, a fault, the end, or nothing
    rcases hnext : s.reader.next with ⟨value | fault | _ | _, reader⟩
    · exact h.receive hphase hloop hnext
    · exact h.cease hphase hloop (.fault (hreader ▸ hnext)) (hcore reader) rfl
    · exact h.cease hphase hloop (.ended (hreader ▸ hnext)) (hcore reader) rfl
    · have hstep : Step handler w { w with state := { w.state with reader } } :=
        .await (h.phase.trans hphase) hloop (hreader ▸ hnext)
      exact ⟨_, .single hstep, hloop, hcore reader, h.threads⟩

/-- **Reading** until nothing is left to read. -/
theorem readAll (fuel : Nat) (h : Mirrors [] s w) (hloop : w.loop = .waiting) :
    Settles handler w (s.readAll handler fuel) := by
  induction fuel generalizing s w with
  | zero => exact ⟨w, .refl, hloop, h⟩
  | succ fuel ih =>
    rw [State.readAll]
    split
    · rename_i hphase
      obtain ⟨w₁, hrun₁, hloop₁, h₁⟩ := h.read hphase hloop
      cases hread : s.read handler with
      | routed s₁ =>
        rw [hread] at h₁
        obtain ⟨w₂, hrun₂, hloop₂, h₂⟩ := ih h₁ hloop₁
        exact ⟨w₂, hrun₁.trans hrun₂, hloop₂, h₂⟩
      | rested s₁ =>
        rw [hread] at h₁
        exact ⟨w₁, hrun₁, hloop₁, h₁⟩
    · exact ⟨w, .refl, hloop, h⟩

end Mirrors

-- ---------------------------------------------------------------------------
-- Rest
-- ---------------------------------------------------------------------------

namespace Mirrors

/-- **The command to stop** is given when no thread is left. -/
theorem finishDraining (h : Mirrors [] s w) (hloop : w.loop = .waiting) :
    Settles handler w s.finishDraining := by
  rw [State.finishDraining]
  split
  · rename_i outcome hphase
    split
    · rename_i hidle
      rw [Bool.and_eq_true, List.isEmpty_iff, List.isEmpty_iff] at hidle
      -- no turn and nobody waiting: no task, and so no thread
      have hnone : s.workers = [] := by rw [State.workers, hidle.1, hidle.2]; rfl
      have hthreads : w.threads = [] := by
        have hall := h.threads
        rw [hnone] at hall
        exact List.map_eq_nil_iff.mp hall.eq_nil
      have hstep : Step handler w _ := .drain (h.phase.trans hphase) hthreads
      have hcore := State.core_beginFlushing h.core outcome
      have hworkers := s.workers_beginFlushing outcome
      refine ⟨_, .single hstep, hloop, hcore, ?_⟩
      rw [hworkers]
      exact h.threads
    · exact ⟨w, .refl, hloop, h⟩
  · exact ⟨w, .refl, hloop, h⟩

theorem finishFlushing (h : Mirrors [] s w) (hloop : w.loop = .waiting) :
    Settles handler w s.finishFlushing := by
  have hcore := State.core_finishFlushing h.core
  refine ⟨_, .single (.finish w), hloop, hcore, ?_⟩
  rw [s.workers_finishFlushing]
  exact h.threads

/-- A session runs as long as its interleaving keeps the phase. -/
theorem running {w' : World σ} (h : Mirrors next s w) (h' : Mirrors next' s' w')
    (hphase : w'.state.phase = w.state.phase) (hrunning : s.isRunning = true) :
    s'.isRunning = true :=
  (State.isRunning_of_phase (h'.phase.symm.trans (hphase.trans h.phase))).trans hrunning

/-- **A round** is some steps of the interleaving. -/
theorem settleRound (h : Mirrors [] s w) (hloop : w.loop = .waiting)
    (hrunning : s.isRunning = true) :
    Settles handler w (s.settleRound handler) := by
  -- reading, turns, the turns that they caused, the command to stop, its turn, the end
  obtain ⟨w₁, hrun₁, hloop₁, h₁⟩ := h.readAll (s.unread + 2) hloop
  have hrunning₁ : (s.readAll handler (s.unread + 2)).isRunning = true :=
    State.isRunning_readAll (s.unread + 2) hrunning
  obtain ⟨w₂, hrun₂, hloop₂, hphase₂, h₂⟩ := h₁.takeTurns hrunning₁
  have hrunning₂ := h₁.running h₂ hphase₂ hrunning₁
  obtain ⟨w₃, hrun₃, hloop₃, hphase₃, h₃⟩ := h₂.takeTurns hrunning₂
  have hrunning₃ := h₂.running h₃ hphase₃ hrunning₂
  obtain ⟨w₄, hrun₄, hloop₄, h₄⟩ := h₃.finishDraining (hloop₃.trans (hloop₂.trans hloop₁))
  obtain ⟨w₅, hrun₅, hloop₅, -, h₅⟩ := h₄.takeTurns (State.isRunning_finishDraining hrunning₃)
  obtain ⟨w₆, hrun₆, hloop₆, h₆⟩ := h₅.finishFlushing (hloop₅.trans hloop₄)
  exact ⟨w₆, hrun₁.trans (hrun₂.trans (hrun₃.trans (hrun₄.trans (hrun₅.trans hrun₆)))), hloop₆, h₆⟩

/-- **Coming to rest** is a run of the interleaving. -/
theorem rest (h : Mirrors [] s w) (hloop : w.loop = .waiting) :
    Settles handler w (s.rest handler) := by
  -- on the rounds
  have hwithin : ∀ (rounds : Nat) {s : State σ} {w : World σ}, Mirrors [] s w → w.loop = .waiting →
      Settles handler w (s.restWithin handler rounds) := by
    intro rounds
    induction rounds with
    | zero => exact fun h hloop => ⟨_, .refl, hloop, h⟩
    | succ rounds ih =>
      intro s w h hloop
      rw [State.restWithin]
      split
      · rename_i hrunning
        obtain ⟨w₁, hrun₁, hloop₁, h₁⟩ := h.settleRound hloop hrunning
        obtain ⟨w₂, hrun₂, hloop₂, h₂⟩ := ih h₁ hloop₁
        exact ⟨w₂, hrun₁.trans hrun₂, hloop₂, h₂⟩
      · exact ⟨w, .refl, hloop, h⟩
  exact hwithin State.maxRounds h hloop

end Mirrors

-- ---------------------------------------------------------------------------
-- From outside
-- ---------------------------------------------------------------------------

namespace Mirrors

/-- What those outside do is one step of theirs. -/
theorem outer (h : Mirrors [] s w) (hloop : w.loop = .waiting) {u : State σ}
    (houter : Outer w.state u)
    (hcore : u.core = s'.core) (hworkers : s'.workers ~ s.workers) : Settles handler w s' :=
  ⟨_, .single (.outer houter), hloop, h.along hcore hworkers⟩

theorem start (h : Mirrors [] s w) (hloop : w.loop = .waiting) : Settles handler w s.start :=
  ⟨_, .single (.start w), hloop, h.along (State.core_start h.core) (.of_eq s.workers_start)⟩

theorem abort (h : Mirrors [] s w) (hloop : w.loop = .waiting) : Settles handler w s.abort :=
  ⟨_, .single (.abort w), hloop, h.along (State.core_abort h.core) (.of_eq s.workers_abort)⟩

theorem say (h : Mirrors [] s w) {m : Outgoing} (hm : m.isResponse = false) :
    Follows handler w [] (s.send m).2 :=
  ⟨_, .single (.say hm), rfl, w.phase_say _ _,
    h.along (State.core_send h.core m).2 (.of_eq (s.workers_send m))⟩

/-- **A request from outside** takes its steps one after the other. -/
theorem ask (h : Mirrors [] s w) (hloop : w.loop = .waiting) (method : String) (params : Json) :
    Settles handler w (s.ask method params).2 := by
  have hissued : Settles handler w s.issue.2 :=
    h.outer hloop (.issue _) (State.core_issue h.core).2 (.refl _)
  obtain ⟨w₁, hrun₁, hloop₁, h₁⟩ := hissued
  let m : Outgoing := .request s.issue.1.id method params
  obtain ⟨w₂, hrun₂, hloop₂, -, h₂⟩ := h₁.say (m := m) rfl
  show Settles handler w (s.issue.2.dispatch s.issue.1.id method params)
  rw [State.dispatch]
  rcases hsend : s.issue.2.send m with ⟨_ | u, s₂⟩ <;> rw [hsend] at h₂
  · -- the request could not be sent
    obtain ⟨w₃, hrun₃, hloop₃, h₃⟩ := h₂.outer (hloop₂.trans hloop₁) (.refuse _ _ _)
      (State.core_refuse h₂.core _ _) (.of_eq (s₂.workers_refuse _ _))
    exact ⟨w₃, hrun₁.trans (hrun₂.trans hrun₃), hloop₃, h₃⟩
  · exact ⟨w₂, hrun₁.trans hrun₂, hloop₂.trans hloop₁, h₂⟩

/-- The thread of a task that waits at a gate goes on. -/
theorem open_one {front rest : List Worker} {x y : Worker} {gate : String}
    (h : w.threads.map Thread.face ~ (front ++ x :: rest).map Worker.face)
    (hx : x.released gate = some y) :
    ∃ threads, Runs handler w { w with threads } ∧
      threads.map Thread.face ~ (front ++ [y] ++ rest).map Worker.face := by
  obtain ⟨t, before, behind, hsplit, hface, hothers⟩ :=
    exists_thread (h.trans (List.perm_middle.map Worker.face))
  obtain ⟨hreply, hstage⟩ := Prod.mk.inj hface
  rw [Worker.released] at hx
  cases hprogress : x.progress with
  | held name next =>
    rw [hprogress] at hx hstage
    have hy : y = ⟨x.replyTo, .ready next⟩ := by
      simp only at hx
      split at hx <;> cases hx
      rfl
    -- the thread is held, and goes on with what is behind the gate
    have hgo : t.proceed w.toCourse = (w.toCourse, some (t.movedTo (.running next))) := by
      simp [Thread.proceed, hstage, Progress.stage]
    have hstep : Step handler w _ := .proceed hsplit
    rw [hgo] at hstep
    have hback : front ++ rest ++ [y] ~ front ++ [y] ++ rest := by
      rw [List.append_assoc, List.append_assoc]
      exact List.perm_append_comm.append_left front
    have hsame : (some (t.movedTo (.running next))).toList.map Thread.face = [y].map Worker.face := by
      rw [hy, Option.toList_some, List.map_singleton, List.map_singleton, Thread.face, Thread.movedTo,
        hreply]
      rfl
    refine ⟨_, .single hstep, (perm_replace hothers _).trans ?_⟩
    rw [hsame, ← List.map_append]
    exact hback.map _
  | _ => simp [hprogress] at hx

/-- **Opening a gate** lets the threads that wait at it go on. -/
theorem release (h : Mirrors [] s w) (hloop : w.loop = .waiting) (gate : String) :
    Settles handler w (s.release gate) := by
  -- one task after the other, those that are still to go on last
  have hopen : ∀ (xs front : List Worker) {w : World σ},
      w.threads.map Thread.face ~ (front ++ xs).map Worker.face →
      ∃ threads, Runs handler w { w with threads } ∧
        threads.map Thread.face ~ (front ++ State.opened gate xs).map Worker.face := by
    intro xs
    induction xs with
    | nil => exact fun front w h => ⟨w.threads, .refl, h⟩
    | cons x rest ih =>
      intro front w h
      obtain ⟨threads₁, hrun₁, h₁⟩ : ∃ threads₁, Runs handler w { w with threads := threads₁ } ∧
          threads₁.map Thread.face ~
            (front ++ [(x.released gate).getD x] ++ rest).map Worker.face := by
        rcases hx : x.released gate with _ | y
        · exact ⟨w.threads, .refl, by simpa using h⟩
        · exact open_one h hx
      obtain ⟨threads₂, hrun₂, h₂⟩ := ih (w := { w with threads := threads₁ }) _ h₁
      exact ⟨threads₂, hrun₁.trans hrun₂, by simpa [State.opened] using h₂⟩
  obtain ⟨threads, hrun, hthreads⟩ := hopen s.blocked (s.turns.filterMap Turn.worker?) h.threads
  exact ⟨_, hrun, hloop, h.core, hthreads.trans ((s.workers_release gate).symm.map _)⟩

end Mirrors

-- ---------------------------------------------------------------------------
-- Every session
-- ---------------------------------------------------------------------------

/-- What can be done with a session. -/
inductive Operates (handler : Handler σ) : State σ → State σ → Prop
  | start (s : State σ) : Operates handler s s.start
  | abort (s : State σ) : Operates handler s s.abort
  | arrive (s : State σ) (a : Framing.Arrival) : Operates handler s (s.arrive a)
  | meet (s : State σ) (peer : Peer) : Operates handler s { s with peer }
  | elapse (s : State σ) (span : Span) : Operates handler s (s.elapse span)
  | release (s : State σ) (gate : String) : Operates handler s (s.release gate)
  | ask (s : State σ) (method : String) (params : Json) : Operates handler s (s.ask method params).2
  | notify (s : State σ) (method : String) (params : Json) :
      Operates handler s (s.notify method params).2
  | poll (s : State σ) (ticket : Correlation.Ticket) : Operates handler s (s.poll ticket).2.2
  | discard (s : State σ) (ticket : Correlation.Ticket) : Operates handler s (s.discard ticket)
  | close (s : State σ) : Operates handler s s.close
  | rest (s : State σ) : Operates handler s (s.rest handler)

/-- The sessions that can be come to. -/
def Driven (handler : Handler σ) (config : Config) (memory : σ) : State σ → Prop :=
  Relation.ReflTransGen (Operates handler) (State.create config memory)

/-- **One operation** is some steps of the interleaving. -/
theorem Operates.settles (hop : Operates handler s s') (h : Mirrors [] s w)
    (hloop : w.loop = .waiting) :
    Settles handler w s' := by
  cases hop with
  | start => exact h.start hloop
  | abort => exact h.abort hloop
  | arrive a =>
    have hcore := congrArg (fun u : State σ => u.arrive a) h.core
    exact h.outer hloop (.arrive _ a) hcore (.refl _)
  | meet peer =>
    have hcore := congrArg (fun u : State σ => { u with peer }) h.core
    exact h.outer hloop (.meet _ peer) hcore (.refl _)
  | elapse span =>
    have hcore := congrArg (fun u : State σ => { u with now := u.now + span.nanos }) h.core
    exact h.outer hloop (.elapse _ span.nanos) hcore (s.workers_elapse span)
  | release gate => exact h.release hloop gate
  | ask method params => exact h.ask hloop method params
  | notify method params =>
    obtain ⟨w', hrun, hloop', -, h'⟩ := h.say (m := .notification method params) rfl
    exact ⟨w', hrun, hloop'.trans hloop, h'⟩
  | poll ticket =>
    exact h.outer hloop (.poll _ ticket) (State.core_poll h.core ticket).2.2 (.refl _)
  | discard ticket =>
    have hcore := congrArg (fun u : State σ => u.discard ticket) h.core
    exact h.outer hloop (.discard _ ticket) hcore (.refl _)
  | close => exact h.outer hloop (.close _) (State.core_close h.core) (.refl _)
  | rest => exact h.rest hloop

/-- **Every session** that can be come to is mirrored by a run of the interleaving. -/
theorem Driven.settles {config : Config} {memory : σ} (h : Driven handler config memory s) :
    Settles handler (World.create config memory) s := by
  induction h with
  | refl => exact ⟨_, .refl, rfl, rfl, .refl _⟩
  -- the read loop waits between any two operations
  | tail _ hop ih =>
    obtain ⟨w₁, hrun₁, hloop₁, h₁⟩ := ih
    obtain ⟨w₂, hrun₂, hloop₂, h₂⟩ := hop.settles h₁ hloop₁
    exact ⟨w₂, hrun₁.trans hrun₂, hloop₂, h₂⟩

end EditorLink.Session
