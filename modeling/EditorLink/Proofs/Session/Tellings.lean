import EditorLink.Proofs.Session.Fatality

/-!
# EditorLink — what those who handle messages are told

Whoever handles a message and asks the other side waits with a ticket until the desk gives out an outcome for it.
What it is told then is noted in the course, with the ticket and the time. A note is no more than what happened:
the outcome is the one with which the ticket was polled, in that step and by that thread. So for each note there is
a moment of the session to which it belongs, and at that moment the outcome is of one of three kinds:

* a response with the id of the ticket was taken in, and the outcome is what it says;
* the connection is gone: the desk is closed, or the writer has stopped or broken;
* the time of the ticket is up. The ticket was given out by this session, so that its time is the one that the
  session was made with, counted from when it was given out.

The moment itself matters. A session that was closed since would explain that somebody was told so before, and time
goes on, so that sooner or later each request could have timed out. Of two responses with one id it is the poll that
says which was given out.

## Results

* `World.Polls` — somebody at work asks with its ticket and is told;
* `Step.told` — a step notes only what a ticket was polled with;
* `Step.later` — the clock goes on, and a session keeps its settings;
* `Issued`, `issued_run` — the tickets of those at work were given out by the session;
* `polled_plays` — what was told was told at some moment of the session;
* `Telling.Came`, `came_plays` — what can come of a request that is made for a message.
-/

namespace EditorLink.Session

open Correlation (Desk Outcome Ticket)
open Message (CallFault Outgoing RequestId)

variable {σ : Type}

-- ---------------------------------------------------------------------------
-- Each note is of a poll
-- ---------------------------------------------------------------------------

/-- A thread at work asked with the ticket, at this moment, and the desk gave out the outcome. -/
def World.Polls (w : World σ) (τ : Telling) : Prop :=
  (∃ t ∈ w.atWork, t.occurrence = τ.occurrence ∧ t.stage.errand? = some (.asking τ.ticket)) ∧
    τ.time = w.state.now ∧ (w.state.poll τ.ticket).1 = some τ.outcome

variable {handler : Handler σ} {config : Config} {memory : σ} {w w' : World σ}

/-- A thread notes what it is told when it polls. -/
theorem Thread.told_proceed {t : Thread} (ht : t ∈ w.atWork) :
    ∃ news, (t.proceed w.toCourse).1.told = w.told ++ news ∧ ∀ τ ∈ news, w.Polls τ := by
  obtain ⟨words, news, hspeaks⟩ := t.utters w.toCourse
  refine ⟨news, hspeaks.told, ?_⟩
  intro τ hτ
  obtain ⟨hmine, htime, hasking, hpoll⟩ := hspeaks.heard τ hτ
  exact ⟨⟨t, ht, hmine.symm, hasking⟩, htime, hpoll⟩

/-- Whoever is busy with the read loop is at work. -/
theorem World.mem_atWork_of_busy {t : Thread} (hloop : w.loop = .busy t) : t ∈ w.atWork := by
  rw [atWork_of_busy hloop]
  exact List.mem_cons_self

theorem World.mem_atWork_of_threads {t : Thread} {front behind : List Thread}
    (hthreads : w.threads = front ++ t :: behind) : t ∈ w.atWork := by
  rw [atWork, hthreads]
  exact List.mem_append_right _ (List.mem_append_right _ List.mem_cons_self)

/-- **A step notes what a ticket was polled with**, if anything. -/
theorem Step.told (h : Step handler w w') :
    ∃ news, w'.told = w.told ++ news ∧ ∀ τ ∈ news, w.Polls τ := by
  cases h.kind with
  | other words hintake hsaid hconcluded hthreads hloop htold =>
    exact ⟨[], htold.trans (List.append_nil _).symm, List.forall_mem_nil _⟩
  | concludes hphase hloop hintake hreaction hidle heq =>
    refine ⟨[], ?_, List.forall_mem_nil _⟩
    rw [heq, List.append_nil]
    exact Course.told_conclude _ _ _ _
  | begins hphase hloop hintake hreaction heq =>
    refine ⟨[], ?_, List.forall_mem_nil _⟩
    rw [heq, List.append_nil]
  | reacts hloop heq =>
    rw [heq, World.follow_toCourse]
    exact Thread.told_proceed (World.mem_atWork_of_busy hloop)
  | proceeds hthreads heq =>
    rw [heq]
    exact Thread.told_proceed (World.mem_atWork_of_threads hthreads)

-- ---------------------------------------------------------------------------
-- The clock
-- ---------------------------------------------------------------------------

/-- The clock has gone on, or stands still, and the settings are the same. -/
structure State.Later (s s' : State σ) : Prop where
  now : s.now ≤ s'.now
  config : s'.config = s.config

namespace State

variable {s s' : State σ}

theorem later_of_eq (hnow : s'.now = s.now) (hconfig : s'.config = s.config) : s.Later s' :=
  ⟨Nat.le_of_eq hnow.symm, hconfig⟩

theorem later_of_quiet (h : s.Quiet s') : s.Later s' := later_of_eq (by rw [h]) h.config

theorem later_send (s : State σ) (m : Outgoing) : s.Later (s.send m).2 := by
  cases htaking : s.accepting with
  | true =>
    have hquiet := quiet_send htaking m
    exact later_of_eq (by rw [hquiet]) hquiet.config
  | false =>
    rw [send_of_not_accepting htaking]
    exact later_of_eq rfl rfl

end State

theorem Course.later_conclude (c : Course σ) (o : Occurrence) (replyTo : Option RequestId)
    (k : Conclusion) : c.state.Later (c.conclude o replyTo k).state := by
  obtain ⟨id, outcome, -, -, h⟩ | ⟨-, h⟩ := c.conclude_cases o replyTo k <;> rw [h]
  · exact (c.note o k).state.later_send _
  · exact State.later_of_eq rfl rfl

theorem Thread.later_proceed (t : Thread) (c : Course σ) : c.state.Later (t.proceed c).1.state := by
  obtain ⟨s, told, h, hs⟩ | ⟨m, h⟩ | ⟨k, h⟩ := t.proceed_quiet c <;> rw [h]
  · exact State.later_of_quiet hs
  · exact c.state.later_send m
  · exact c.later_conclude _ _ _

theorem World.later_receive (handler : Handler σ) (w : World σ) (value : Json) :
    w.state.Later (w.receive handler value).state := by
  have hreceive : w.state.Later (w.state.receive handler value).state := by
    have hquiet := w.state.quiet_receive handler value
    exact State.later_of_eq (by rw [hquiet]; rfl) hquiet.config
  rcases w.course_receive handler value with h | ⟨o, replyTo, k, h⟩ <;> rw [h]
  · exact hreceive
  · have hconclude := Course.later_conclude
      ({ w.toCourse with state := (w.state.receive handler value).state } : Course σ) o replyTo k
    exact ⟨hreceive.now.trans hconclude.now, hconclude.config.trans hreceive.config⟩

/-- Those outside let time pass. -/
theorem Outer.later {s s' : State σ} (h : Outer s s') : s.Later s' := by
  cases h with
  | elapse nanos => exact ⟨Nat.le_add_right _ _, rfl⟩
  | refuse id fault => exact State.later_of_quiet (s.quiet_refuse id fault)
  | arrive | meet | issue | poll | discard | close => exact State.later_of_eq rfl rfl

theorem Writing.later {s s' : State σ} (h : Writing s s') : s.Later s' := by
  refine State.later_of_eq ?_ h.sameReading.config
  cases h with
  | take => unfold State.takeCommand; split <;> rfl
  | push n => unfold State.push; split <;> rfl
  | flush => unfold State.flush; split <;> rfl
  | fail | crash => rfl

/-- **Each step** leaves the clock or lets it go on, and keeps the settings. -/
theorem Step.later (h : Step handler w w') : w.state.Later w'.state := by
  have hphased : ∀ {phase : Phase} {s : State σ}, ({ w.state with phase } : State σ).Quiet s →
      w.state.Later s := fun hs => State.later_of_eq (by rw [hs]) hs.config
  cases h with
  | outer houter => exact houter.later
  | say hm => exact w.state.later_send _
  | start =>
    obtain ⟨phase, hstart⟩ := w.state.quiet_start
    exact hphased hstart
  | abort =>
    rw [State.abort]
    split <;> exact State.later_of_eq rfl rfl
  | write hrunning hwrite => exact hwrite.later
  | await | leave => exact State.later_of_eq rfl rfl
  | @receive value reader hphase hloop hnext =>
    obtain ⟨hnow, hconfig⟩ := World.later_receive handler { w with state := { w.state with reader } } value
    exact ⟨hnow, hconfig⟩
  | cease hphase hloop hcease => cases hcease <;> exact State.later_of_eq rfl rfl
  | @react t hloop =>
    rw [World.follow_toCourse]
    exact t.later_proceed w.toCourse
  | @proceed t front behind hthreads => exact t.later_proceed w.toCourse
  | @drain outcome hphase hthreads =>
    refine State.later_of_eq ?_ (w.state.sameReading_beginFlushing outcome).config
    rw [State.beginFlushing, State.command]
    split
    · rw [State.quiet_wakeWriter]
    · rfl
  | finish =>
    obtain ⟨phase, hfinish⟩ := w.state.quiet_finishFlushing
    exact hphased hfinish

-- ---------------------------------------------------------------------------
-- Tickets
-- ---------------------------------------------------------------------------

/-- The ticket was given out by a session with these settings, at this time or before. -/
def IssuedBy (config : Config) (now : Nat) (ticket : Ticket) : Prop :=
  ∃ since ≤ now, ticket = .issue ticket.id since config.requestTimeout

/-- A ticket that was given out by then was given out by any later time. -/
theorem IssuedBy.mono {now now' : Nat} {ticket : Ticket} (h : IssuedBy config now ticket)
    (hnow : now ≤ now') : IssuedBy config now' ticket := by
  obtain ⟨since, hsince, hticket⟩ := h
  exact ⟨since, hsince.trans hnow, hticket⟩

/-- A thread whose ticket, if it has one, was given out by the session. -/
def Thread.Issued (config : Config) (now : Nat) (t : Thread) : Prop :=
  ∀ e, t.stage.errand? = some e → IssuedBy config now e.ticket

/-- So it is for the ticket of a thread. -/
theorem Thread.Issued.mono {now now' : Nat} {t : Thread} (h : t.Issued config now) (hnow : now ≤ now') :
    t.Issued config now' := fun e he => (h e he).mono hnow

/-- A thread that does not ask has no ticket. -/
theorem Thread.issued_of_none {now : Nat} {t : Thread} (h : t.stage.errand? = none) : t.Issued config now := by
  intro e he
  rw [h] at he
  cases he

/-- A request goes on with the ticket that it has. -/
theorem Errand.ticket_proceed {e e' : Errand} {origin : Origin} {c : Course σ}
    (h : (e.proceed origin c).2 = .goesOn e') : e'.ticket = e.ticket := by
  cases e with
  | requesting ticket method params =>
    rw [proceed_requesting] at h
    cases h
    split <;> rfl
  | refused ticket fault =>
    cases h
    rfl
  | asking ticket =>
    rw [proceed] at h
    rcases hpoll : c.state.poll ticket with ⟨_ | outcome, ticket', s⟩ <;> rw [hpoll] at h <;> cases h
    have hdesk : ticket.poll c.state.now c.state.desk = (none, ticket', s.desk) := by
      simp only [State.poll, Prod.mk.injEq] at hpoll
      obtain ⟨houtcome, hticket, rfl⟩ := hpoll
      rw [← houtcome, ← hticket]
    exact (Ticket.eq_of_poll_none hdesk).1

/-- **A step of a thread** gives it a ticket of the session, or leaves it the one that it has. -/
theorem Thread.Issued.proceed {t t' : Thread} {c : Course σ} (h : t.Issued config c.state.now)
    (hconfig : c.state.config = config) (hnext : (t.proceed c).2 = some t') :
    t'.Issued config c.state.now := by
  have hgoes := t.goes c
  rw [hnext] at hgoes
  generalize (t.proceed c).1 = c' at hgoes
  cases hgoes with
  | quietly hs hbefore hafter => exact issued_of_none hafter
  | notifies hbefore hafter => exact issued_of_none hafter
  | issues hbefore =>
    intro e he
    cases he
    rw [← hconfig]
    exact ⟨c.state.now, Nat.le_refl _, rfl⟩
  | @errand e next hbefore =>
    intro e' he'
    have hmine : IssuedBy config c.state.now e.ticket := h e (by rw [hbefore, Errand.errand?_stage])
    cases hgo : (e.proceed t.origin c).2 with
    | done outcome =>
      rw [movedTo, hgo] at he'
      cases he'
    | goesOn e'' =>
      rw [movedTo, hgo, Errand.Next.stage, Errand.errand?_stage] at he'
      cases he'
      rw [Errand.ticket_proceed hgo]
      exact hmine

/-- Each ticket of those at work was given out by a session with these settings. -/
structure Issued (config : Config) (w : World σ) : Prop where
  settings : w.state.config = config
  tickets : ∀ t ∈ w.atWork, t.Issued config w.state.now

theorem issued_create (config : Config) (memory : σ) : Issued config (World.create config memory) :=
  ⟨rfl, List.forall_mem_nil _⟩

/-- **Whatever happens**, tickets are given out by the session. -/
theorem Issued.step (h : Issued config w) (hstep : Step handler w w') : Issued config w' := by
  have hlater := hstep.later
  refine ⟨hlater.config.trans h.settings, ?_⟩
  -- who is at work stays so with its ticket, but for the thread that takes the step
  have hstays : ∀ t ∈ w.atWork, t.Issued config w'.state.now :=
    fun t ht => (h.tickets t ht).mono hlater.now
  have hmoved : ∀ {t t'}, t ∈ w.atWork → (t.proceed w.toCourse).2 = some t' →
      t'.Issued config w'.state.now :=
    fun ht hnext => ((h.tickets _ ht).proceed h.settings hnext).mono hlater.now
  intro t' ht'
  cases hstep.kind with
  | other words hintake hsaid hconcluded hthreads hloop htold =>
    rw [World.atWork, hthreads, hloop] at ht'
    exact hstays t' ht'
  | concludes hphase hloop hintake hreaction hidle heq =>
    rw [heq, World.atWork, hidle] at ht'
    exact hstays t' (List.mem_append_right _ ht')
  | begins hphase hloop hintake hreaction heq =>
    rw [heq] at ht'
    rcases List.mem_cons.mp ht' with rfl | ht'
    · exact Thread.issued_of_none rfl
    · exact hstays t' (List.mem_append_right _ ht')
  | @reacts t hloop heq =>
    rw [heq] at ht'
    rcases List.mem_append.mp ((World.atWork_follow _ _).mem_iff.mp ht') with ht' | ht'
    · exact hmoved (World.mem_atWork_of_busy hloop) (Option.mem_toList.mp ht')
    · exact hstays t' (List.mem_append_right _ ht')
  | @proceeds t front behind hthreads heq =>
    rw [heq, World.atWork] at ht'
    simp only [List.mem_append, Option.mem_toList] at ht'
    have hother : ∀ {u}, u ∈ front ∨ u ∈ behind → u ∈ w.atWork := by
      intro u hu
      rw [World.atWork, hthreads]
      simp only [List.mem_append, List.mem_cons]
      exact .inr (hu.imp_right .inr)
    rcases ht' with hbusy | (hfront | hmine) | hbehind
    · exact hstays t' (List.mem_append_left _ (Option.mem_toList.mpr hbusy))
    · exact hstays t' (hother (.inl hfront))
    · exact hmoved (World.mem_atWork_of_threads hthreads) hmine
    · exact hstays t' (hother (.inr hbehind))

/-- **Whatever happens**, those at work have tickets of this session. -/
theorem issued_run (hrun : Runs handler (World.create config memory) w) : Issued config w := by
  induction hrun with
  | refl => exact issued_create config memory
  | tail _ hlast ih => exact ih.step hlast

-- ---------------------------------------------------------------------------
-- What came of requests
-- ---------------------------------------------------------------------------

/-- What comes of a request that is made for a message, at the moment when its ticket is polled. The ticket was given
out with the timeout of the settings, now or before. What is told is what a response with its id says that was taken
in, or that the connection is gone, and then it is, or that the time of the ticket is up, and then it is. -/
structure Telling.Came (config : Config) (w : World σ) (τ : Telling) : Prop where
  polls : w.Polls τ
  issued : ∃ since ≤ w.state.now, τ.ticket = .issue τ.ticket.id since config.requestTimeout
  outcome : (∃ value ∈ w.state.routed, Tells value ⟨τ.ticket.id, τ.outcome⟩) ∨
    (τ.outcome = .error .closed ∧
      (w.state.desk.table.closed = true ∨ w.state.writer = .stopped ∨ w.state.writer.isBroken = true)) ∨
    ∃ deadline, τ.ticket.deadline = some deadline ∧ deadline.due ≤ w.state.now ∧
      τ.outcome = .error (.timedOut τ.ticket.id deadline.after)

variable {holds : Scene σ → Prop} {sc : Scene σ}

/-- **What was told was told at some moment of the session**, at which a ticket was polled with it. -/
theorem polled_plays (h : Plays handler holds (Scene.create config memory) sc) :
    ∀ τ ∈ sc.told, ∃ earlier : Scene σ, Plays handler holds (Scene.create config memory) earlier ∧
      Plays handler holds earlier sc ∧ earlier.toWorld.Polls τ := by
  induction h with
  | refl => exact List.forall_mem_nil _
  | @tail sc sc' hplays hlast ih =>
    obtain ⟨news, htold, hnews⟩ := hlast.1.step.told
    intro τ hτ
    rw [htold] at hτ
    rcases List.mem_append.mp hτ with hold | hnew
    · obtain ⟨earlier, hbefore, hbehind, hpolls⟩ := ih τ hold
      exact ⟨earlier, hbefore, hbehind.tail hlast, hpolls⟩
    · exact ⟨sc, hplays, .single hlast, hnews τ hnew⟩

/-- Whoever polls is told what came of its request. -/
theorem came_of_polls (h : Plays handler holds (Scene.create config memory) sc) {τ : Telling}
    (hpolls : sc.toWorld.Polls τ) : τ.Came config sc.toWorld := by
  obtain ⟨⟨t, ht, hmine, hasking⟩, htime, hpoll⟩ := hpolls
  have hrun := Plays.runs h
  have hanswerable := answerable_plays h
  have herrand : .asking τ.ticket ∈ sc.callers ++ sc.errands :=
    List.mem_append_right _ (List.mem_filterMap.mpr ⟨t, ht, hasking⟩)
  have hfresh : τ.ticket.done = false := hanswerable.fresh _ herrand
  have hknown : sc.state.desk.Knows τ.ticket.id := hanswerable.known _ herrand
  refine ⟨⟨⟨t, ht, hmine, hasking⟩, htime, hpoll⟩, (issued_run hrun).tickets t ht _ hasking, ?_⟩
  rcases Ticket.told_of_knows hfresh hknown hpoll with ⟨δ, hδ, hid, houtcome⟩ | hlapses
  · rcases (told_plays h).told δ hδ with hclosed | ⟨value, hvalue, htells⟩
    · have hgone : Gone sc.state.accepting sc.state.desk := hanswerable.told δ hδ hclosed
      refine .inr (.inl ⟨houtcome.symm.trans hclosed,
        hgone.imp_right fun hshut => State.writer_of_not_accepting hshut ?_⟩)
      -- a session that was given up before it was started took nothing in, and nobody handles a message
      intro hphase
      have hnothing : sc.state.routed = [] := fresh_run hrun (.inr hphase)
      have hnumber := (Answers.run hrun).number_lt ht
      rw [hnothing] at hnumber
      cases hnumber
    · have hsame : δ = ⟨τ.ticket.id, τ.outcome⟩ := by rw [← hid, ← houtcome]
      exact .inl ⟨value, hvalue, hsame ▸ htells⟩
  · exact .inr (.inr hlapses)

/-- **What those who handle messages are told** came of their requests, at the moment when it was told. -/
theorem came_plays (h : Plays handler holds (Scene.create config memory) sc) :
    ∀ τ ∈ sc.told, ∃ earlier : Scene σ, Plays handler holds (Scene.create config memory) earlier ∧
      Plays handler holds earlier sc ∧ τ.Came config earlier.toWorld := by
  intro τ hτ
  obtain ⟨earlier, hbefore, hbehind, hpolls⟩ := polled_plays h τ hτ
  exact ⟨earlier, hbefore, hbehind, came_of_polls hbefore hpolls⟩

end EditorLink.Session
