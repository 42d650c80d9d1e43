import EditorLink.Proofs.Session.Core
import EditorLink.Proofs.Session.Interleaving
import EditorLink.Proofs.Session.Tasks

/-!
# EditorLink — one thread at a time

When it is the turn of a task the session runs it until it waits or is done. In the interleaving
that is some steps of one thread, with nobody in between.

A turn is computed by recursion on the program of the task; the steps of a thread go one thing at a time. The
comparison follows the program: for each thing that it does there is a step, or two for a request that is sent at
once, and the rest of the turn follows from the rest of the program. A request for which there is an outcome already is
answered within the same turn, as it is in the session.

Both sides are compared by their cores, so that the order of turns, which the interleaving does not have, is left out
(`EditorLink.Proofs.Session.Core`).

## Results

* `Pursues` — some steps of one thread;
* `Comes` — they lead to where the task stands after its turn;
* `comes_resume` — for each task there are such steps.
-/

namespace EditorLink.Session

open Message (CallFault ErrorObject Outgoing RequestId)

variable {σ : Type}

def Progress.stage : Progress → Stage
  | .ready task => .running task
  | .asking ticket next => .asking ticket next
  | .held gate next => .held gate next

def Worker.face (x : Worker) : Option RequestId × Stage := (x.replyTo, x.progress.stage)

def Thread.face (t : Thread) : Option RequestId × Stage := (t.replyTo, t.stage)

-- ---------------------------------------------------------------------------
-- Some steps of one thread
-- ---------------------------------------------------------------------------

/-- Some steps of one thread, the last of which may be its conclusion. -/
inductive Pursues : Course σ → Thread → Course σ → Option Thread → Prop
  | rest (c : Course σ) (t : Thread) : Pursues c t c (some t)
  | gone {c c' : Course σ} {t : Thread} (hstep : t.proceed c = (c', none)) : Pursues c t c' none
  | step {c c₁ c' : Course σ} {t t₁ : Thread} {t' : Option Thread}
    (hstep : t.proceed c = (c₁, some t₁)) (hrest : Pursues c₁ t₁ c' t') : Pursues c t c' t'

namespace Pursues

variable {handler : Handler σ} {c c' : Course σ} {t : Thread} {t' : Option Thread}

/-- They are steps of the interleaving. -/
theorem runs (h : Pursues c t c' t') {w : World σ} (hc : w.toCourse = c)
    {front behind : List Thread} (ht : w.threads = front ++ t :: behind) :
    Runs handler w { w with toCourse := c', threads := front ++ t'.toList ++ behind } := by
  -- on the steps: each is one of the thread that stands between `front` and `behind`
  induction h generalizing w with
  | rest c t =>
    subst hc
    have hsame : w = { w with threads := front ++ (some t).toList ++ behind } := by
      rw [Option.toList_some, List.append_assoc, List.singleton_append, ← ht]
    rw [← hsame]
  | @gone c c' t hstep =>
    subst hc
    have hstep' : Step handler w _ := .proceed ht
    rw [hstep] at hstep'
    exact .single hstep'
  | @step c c₁ c' t t₁ t' hstep hrest ih =>
    subst hc
    have hstep' : Step handler w _ := .proceed ht
    rw [hstep] at hstep'
    have hnext : front ++ (some t₁).toList ++ behind = front ++ t₁ :: behind := by simp
    exact .head hstep' (ih rfl hnext)

theorem phase (h : Pursues c t c' t') : c'.state.phase = c.state.phase := by
  induction h with
  | rest c t => rfl
  | @gone c c' t hstep => rw [← t.phase_proceed c, hstep]
  | @step c c₁ c' t t₁ t' hstep hrest ih => rw [ih, ← t.phase_proceed c, hstep]

end Pursues

-- ---------------------------------------------------------------------------
-- What a session makes of a conclusion or a question
-- ---------------------------------------------------------------------------

/-- A conclusion of which somebody is told is the answer that the session gives. -/
theorem core_conclude {c : Course σ} {s : State σ} (h : c.state.core = s.core) (o : Occurrence)
    (replyTo : Option RequestId) {k : Conclusion} {outcome : Except ErrorObject Json}
    (hk : k.answer? = some outcome) :
    (c.conclude o replyTo k).state.core = (s.report replyTo outcome).core := by
  obtain ⟨id, outcome', rfl, hk', heq⟩ | ⟨hnone, heq⟩ := c.conclude_cases o replyTo k
  · -- somebody is told, and told what the session reports
    obtain rfl : outcome' = outcome := Option.some.inj (hk'.symm.trans hk)
    rw [heq]
    exact State.core_report h (some id) outcome'
  · obtain rfl : replyTo = none := hnone.resolve_right (by simp [hk])
    rw [heq]
    exact h

/-- A thread that asks comes to wait for its answer, whether its request can be sent or not. -/
theorem pursues_ask {c : Course σ} {s : State σ} (h : c.state.core = s.core) (t : Thread)
    (method : String) (params : Json) (next : Except CallFault Json → Task) :
    ∃ c₁ : Course σ, c₁.state.core = (s.ask method params).2.core ∧
      ∀ {c' t'}, Pursues c₁ (t.movedTo (.asking (s.ask method params).1 next)) c' t' →
        Pursues c (t.movedTo (.running (.ask method params next))) c' t' := by
  obtain ⟨hticket, hissued⟩ := State.core_issue h
  let m : Outgoing := .request s.issue.1.id method params
  let c₁ : Course σ := { c with state := c.state.issue.2 }
  have hsent : (c₁.state.send m).1 = (s.issue.2.send m).1 := (State.core_send hissued m).1
  have hcore : (c₁.say t.origin m).2.state.core = (s.issue.2.send m).2.core :=
    (State.core_send hissued m).2
  -- first the ticket, then the request, then the delivery of the fault if there is one
  have hissue : (t.movedTo (.running (.ask method params next))).proceed c =
      (c₁, some (t.movedTo (.requesting s.issue.1 method params next))) := by
    rw [← hticket]
    rfl
  have hdispatch : (s.ask method params).2 = s.issue.2.dispatch s.issue.1.id method params := rfl
  rw [hdispatch, State.dispatch]
  rcases hsend : s.issue.2.send m with ⟨_ | u, s₂⟩ <;> rw [hsend] at hsent hcore
  · rename_i fault
    have hsay : (t.movedTo (.requesting s.issue.1 method params next)).proceed c₁ =
        ((c₁.say t.origin m).2, some (t.movedTo (.refused s.issue.1 fault next))) := by
      simp [Thread.proceed, Thread.movedTo, Thread.origin, Course.say, m, hsent]
    exact ⟨{ (c₁.say t.origin m).2 with state := _ }, State.core_refuse hcore _ _,
      fun hgo => .step hissue (.step hsay (.step rfl hgo))⟩
  · have hsay : (t.movedTo (.requesting s.issue.1 method params next)).proceed c₁ =
        ((c₁.say t.origin m).2, some (t.movedTo (.asking s.issue.1 next))) := by
      simp [Thread.proceed, Thread.movedTo, Thread.origin, Course.say, m, hsent]
    exact ⟨(c₁.say t.origin m).2, hcore, fun hgo => .step hissue (.step hsay hgo)⟩

/-- A thread that waits for an answer looks for it as its task does. -/
theorem pursues_poll {c : Course σ} {s : State σ} (h : c.state.core = s.core) (t : Thread)
    (ticket : Correlation.Ticket) (next : Except CallFault Json → Task) :
    ∃ c₁ : Course σ, c₁.state.core = (s.poll ticket).2.2.core ∧
      (t.movedTo (.asking ticket next)).proceed c = (c₁, some (t.movedTo
        (match (s.poll ticket).1 with
        | some outcome => .running (next outcome)
        | none => .asking (s.poll ticket).2.1 next))) := by
  obtain ⟨houtcome, hticket, hcore⟩ := State.core_poll h ticket
  rw [← houtcome, ← hticket]
  rcases hpoll : c.state.poll ticket with ⟨_ | outcome, ticket', s'⟩ <;> rw [hpoll] at hcore
  · exact ⟨{ c with state := s' }, hcore, by simp [Thread.proceed, Thread.movedTo, hpoll]⟩
  · -- what it is told is noted, which is nothing to the session
    exact ⟨({ c with state := s' } : Course σ).tell t.origin ticket outcome, hcore,
      by simp [Thread.proceed, Thread.movedTo, Thread.origin, hpoll]⟩

-- ---------------------------------------------------------------------------
-- The turn of a task
-- ---------------------------------------------------------------------------

/-- What a thread comes to when it goes on from where its task stands. -/
def Comes (c : Course σ) (t : Thread) (stage : Stage) (after : State σ × Option Progress) : Prop :=
  ∃ c' t', Pursues c (t.movedTo stage) c' t' ∧ c'.state.core = after.1.core ∧
    t'.map Thread.face = after.2.map fun p => (t.replyTo, p.stage)

/-- A thread that looks for its answer goes on with what it finds. -/
theorem comes_asking {c : Course σ} {s : State σ} (h : c.state.core = s.core) (t : Thread)
    {next : Except CallFault Json → Task}
    (hnext : ∀ outcome {c : Course σ} {s : State σ}, c.state.core = s.core →
      Comes c t (.running (next outcome)) (s.advance t.replyTo (next outcome)))
    (ticket : Correlation.Ticket) :
    Comes c t (.asking ticket next) (s.resume t.replyTo (.asking ticket next)) := by
  obtain ⟨c₁, hcore, hlook⟩ := pursues_poll h t ticket next
  rw [State.resume]
  rcases hpoll : s.poll ticket with ⟨_ | outcome, ticket', s'⟩ <;> rw [hpoll] at hcore hlook
  · -- no answer yet: the thread waits as its task does
    exact ⟨c₁, _, .step hlook (.rest _ _), hcore, rfl⟩
  · obtain ⟨c', t', hgo, hcore', hface⟩ := hnext outcome hcore
    exact ⟨c', t', .step hlook hgo, hcore', hface⟩

/-- **Running a task** until it waits or is done is some steps of its thread. -/
theorem comes_running (task : Task) {c : Course σ} {s : State σ} (h : c.state.core = s.core)
    (t : Thread) :
    Comes c t (.running task) (s.advance t.replyTo task) := by
  -- on the program: one step for each of its instructions, three for a question
  induction task generalizing c s with
  | finish result => exact ⟨_, none, .gone rfl, core_conclude h _ _ rfl, rfl⟩
  | fail fault => exact ⟨_, none, .gone rfl, core_conclude h _ _ rfl, rfl⟩
  | crash message => exact ⟨_, none, .gone rfl, core_conclude h _ _ rfl, rfl⟩
  | notify method params next ih =>
    obtain ⟨hsent, hcore⟩ := State.core_send h (.notification method params)
    have hsay : (t.movedTo (.running (.notify method params next))).proceed c =
        ((c.say t.origin (.notification method params)).2,
          some (t.movedTo (.running (next (s.notify method params).1)))) := by
      rw [State.notify, ← hsent]
      rfl
    obtain ⟨c', t', hgo, hcore', hface⟩ := ih (s.notify method params).1
      (c := (c.say t.origin (.notification method params)).2)
        (s := (s.notify method params).2) hcore
    exact ⟨c', t', .step hsay hgo, hcore', hface⟩
  | ask method params next ih =>
    obtain ⟨c₁, hcore, hask⟩ := pursues_ask h t method params next
    rw [State.advance_ask]
    obtain ⟨c', t', hgo, hcore', hface⟩ := comes_asking hcore t ih (s.ask method params).1
    exact ⟨c', t', hask hgo, hcore', hface⟩
  | wait gate next ih => exact ⟨c, some (t.movedTo (.held gate next)), .step rfl (.rest _ _), h, rfl⟩
  | close next ih =>
    obtain ⟨c', t', hgo, hcore, hface⟩ :=
      ih (c := { c with state := c.state.close }) (State.core_close h)
    exact ⟨c', t', .step rfl hgo, hcore, hface⟩

/-- A task goes on from where it stands as its thread does. -/
theorem comes_resume {c : Course σ} {s : State σ} (h : c.state.core = s.core) (t : Thread)
    (progress : Progress) : Comes c t progress.stage (s.resume t.replyTo progress) := by
  cases progress with
  | ready task => exact comes_running task h t
  | asking ticket next =>
    exact comes_asking h t (fun outcome _ _ h => comes_running (next outcome) h t) ticket
  | held gate next => exact ⟨c, some (t.movedTo (.held gate next)), .rest _ _, h, rfl⟩

/-- What a turn leaves of a task waits. -/
theorem State.workers_runWorker (s : State σ) (x : Worker) :
    (s.runWorker x).core = (s.resume x.replyTo x.progress).1.core ∧
      (s.runWorker x).workers =
        s.workers ++ ((s.resume x.replyTo x.progress).2.map (Worker.mk x.replyTo)).toList := by
  have hworkers := s.workers_resume x.replyTo x.progress
  rw [runWorker]
  rcases heq : s.resume x.replyTo x.progress with ⟨s', _ | progress⟩ <;> rw [heq] at hworkers
  · exact ⟨rfl, by simpa using hworkers⟩
  · -- it goes to the end of those who wait
    refine ⟨rfl, ?_⟩
    rw [← hworkers]
    simp [workers]

end EditorLink.Session
