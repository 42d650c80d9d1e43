import EditorLink.Proofs.Correlation.Closing
import EditorLink.Proofs.Session.Dispatch

/-!
# EditorLink — nobody is left waiting

The end of reading closes the desk, while others may be about to send requests, in the middle of one, or waiting
for an outcome. However their steps fall between those of the teardown: once the session has ended nobody waits
for anything, and nobody will.

The proof follows phase and desk. Every step is one of a few moves (`Moves`): the desk is worked at, the session is
started or given up, reading ends and closes the desk, tasks are done, or the session is over. From the end of reading
on the desk is closed, and nothing opens it again (`World.Tidy`); a session that is over takes no frame. From these two
follows all the rest: a ticket brings something whenever it is asked with, a request that is made later is told at
once, and something that is said later is refused.

A request may have its ticket when reading ends and be queued after that. Its caller was told by then that the
connection is gone, if it asks; that its frame goes out all the same is the subject of
`EditorLink.Proofs.Session.Refusal`.

## Results

* `Moves`, `Step.moves` — what each step does to the phase and to the desk;
* `World.Tidy`, `tidy_run` — the desk is closed from the end of reading on;
* `refuses_of_ended`, `ended_run` — a session that has ended takes no frame, and nothing begins anew;
* `World.Deserted`, `nobody_waits` — what is true at the end.
-/

namespace EditorLink.Session

open Correlation (Desk)
open Message (CallFault RequestId)

variable {σ : Type}

-- ---------------------------------------------------------------------------
-- Phase and desk
-- ---------------------------------------------------------------------------

/-- What a session goes through, and what is done at its desk meanwhile. -/
inductive Moves (p : Phase) (d : Desk) : Phase → Desk → Prop
  | works {d' : Desk} (h : d.Goes d') : Moves p d p d'
  | starts (hphase : p = .idle) : Moves p d .reading d
  | aborts (hphase : p = .idle) : Moves p d .discarded d
  | stops (hphase : p = .reading) (outcome : Except CallFault Unit) :
    Moves p d (.draining outcome) d.closeAll.2
  | drains {outcome : Except CallFault Unit} (hphase : p = .draining outcome) :
    Moves p d (.flushing outcome) d
  | ends {outcome : Except CallFault Unit} (hphase : p = .flushing outcome)
    (result : Except CallFault Unit) : Moves p d (.ended result) d

/-- Whatever the move, the desk sees one thing that can be done at it. -/
theorem Moves.desk {p p' : Phase} {d d' : Desk} (h : Moves p d p' d') : d.Goes d' := by
  cases h with
  | works h => exact h
  | starts hphase => exact .keeps
  | aborts hphase => exact .keeps
  | stops hphase outcome => exact .closes
  | drains hphase => exact .keeps
  | ends hphase result => exact .keeps

/-- Where neither the phase nor the desk changes nothing moves. -/
theorem moves_of_eq {s s' : State σ} (hphase : s'.phase = s.phase) (hdesk : s'.desk = s.desk) :
    Moves s.phase s.desk s'.phase s'.desk := by
  rw [hphase, hdesk]
  exact .works .keeps

/-- A request that could not be sent is settled, or it was before. -/
theorem State.goes_refuse (s : State σ) (id : Nat) (fault : CallFault) :
    s.desk.Goes (s.refuse id fault).desk := by
  rw [refuse]
  cases hsettle : s.desk.settle id (.error fault) with
  | ok desk => exact .settles hsettle
  | error fault => exact .keeps

/-- A conclusion is not about the desk. -/
theorem Course.desk_conclude (c : Course σ) (o : Occurrence) (replyTo : Option RequestId)
    (k : Conclusion) : (c.conclude o replyTo k).state.desk = c.state.desk := by
  obtain ⟨id, outcome, -, -, h⟩ | ⟨-, h⟩ := c.conclude_cases o replyTo k
  · rw [h]
    exact State.desk_send _ _
  · rw [h]
    rfl

/-- A step of a request is one thing at the desk, or none. -/
theorem Errand.desk (e : Errand) (origin : Origin) (c : Course σ) :
    c.state.desk.Goes (e.proceed origin c).1.state.desk := by
  cases e with
  | requesting ticket method params =>
    have hsend : (c.say origin (.request ticket.id method params)).2.state.desk = c.state.desk :=
      c.state.desk_send _
    rw [proceed_requesting, hsend]
    exact .keeps
  | refused ticket fault => exact c.state.goes_refuse ticket.id fault
  | asking ticket =>
    obtain ⟨told, h⟩ := proceed_asking origin c ticket
    rw [h]
    exact .polls ticket c.state.now

theorem Thread.Goes.desk {t : Thread} {c c' : Course σ} {t' : Option Thread} (h : t.Goes c c' t') :
    c.state.desk.Goes c'.state.desk := by
  cases h with
  | quietly hs hbefore hafter => rcases hs with rfl | rfl <;> exact .keeps
  | @notifies method params stage hbefore hafter =>
    have hsend : (c.say t.origin (.notification method params)).2.state.desk = c.state.desk :=
      c.state.desk_send _
    rw [hsend]
    exact .keeps
  | issues hbefore => exact .registers
  | @errand e next hbefore => exact e.desk t.origin c
  | concludes k hbefore =>
    rw [c.desk_conclude]
    exact .keeps

/-- **A step of a thread** at the desk. -/
theorem Thread.desk (t : Thread) (c : Course σ) : c.state.desk.Goes (t.proceed c).1.state.desk :=
  (t.goes c).desk

theorem World.desk_receive (handler : Handler σ) (w : World σ) (value : Json) :
    w.state.desk.Goes (w.receive handler value).state.desk := by
  have htold : (w.receive handler value).state.desk = (w.state.receive handler value).state.desk := by
    rcases World.course_receive handler w value with h | ⟨o, replyTo, k, h⟩
    · rw [h]
    · rw [h]
      exact Course.desk_conclude _ o replyTo k
  rw [htold]
  rcases State.desk_receive handler w.state value with ⟨id, outcome, n, -, -, hsettle⟩ | ⟨hdesk, -⟩
  · exact .settles hsettle
  · rw [hdesk]
    exact .keeps

theorem Outer.desk {s s' : State σ} (h : Outer s s') : s.desk.Goes s'.desk := by
  cases h with
  | arrive a => exact .keeps
  | meet peer => exact .keeps
  | elapse nanos => exact .keeps
  | issue => exact .registers
  | refuse id fault => exact s.goes_refuse id fault
  | poll ticket => exact .polls ticket s.now
  | discard ticket => exact .discards ticket
  | close => exact .keeps

variable {handler : Handler σ} {config : Config} {memory : σ} {w w' : World σ}
  {result : Except CallFault Unit}

/-- **Each step** moves the phase on and leaves the desk, or does one thing at the desk; only the end of reading
does both. -/
theorem Step.moves (h : Step handler w w') (horder : Orderly w) :
    Moves w.state.phase w.state.desk w'.state.phase w'.state.desk := by
  have hworks : ∀ {s : State σ}, s.phase = w.state.phase → w.state.desk.Goes s.desk →
      Moves w.state.phase w.state.desk s.phase s.desk := by
    intro s hphase hdesk
    rw [hphase]
    exact .works hdesk
  cases h with
  | outer houter => exact hworks (State.phase_eq_of_standing houter.standing) houter.desk
  | say hm => exact moves_of_eq (w.phase_say _ _) (State.desk_send _ _)
  | start =>
    rw [w.state.desk_start]
    rcases w.state.standing_start with hs | ⟨hidle, hs⟩
    · rw [State.phase_eq_of_standing hs]
      exact .works .keeps
    · have hphase : w.state.start.phase = .reading := congrArg Standing.phase hs
      rw [hphase]
      exact .starts hidle
  | abort =>
    rw [State.abort]
    split
    · exact .aborts (by assumption)
    · exact .works .keeps
  | write hrunning hwrite => exact moves_of_eq hwrite.phase hwrite.desk
  | await hphase hloop hnext => exact .works .keeps
  | @receive value reader hphase hloop hnext =>
    let w₀ : World σ := { w with state := { w.state with reader } }
    exact hworks (w₀.phase_receive handler value) (w₀.desk_receive handler value)
  | cease hphase hloop hcease => cases hcease <;> exact .works .keeps
  | @react t hloop =>
    rw [World.follow_toCourse]
    exact hworks (t.phase_proceed _) (t.desk _)
  | @leave outcome hloop =>
    exact .stops (horder.reading.resolve_left (by simp [hloop])) outcome
  | @proceed t front behind hthreads => exact hworks (t.phase_proceed _) (t.desk _)
  | @drain outcome hphase hthreads =>
    rw [w.state.phase_beginFlushing, w.state.desk_beginFlushing]
    exact .drains hphase
  | finish =>
    rw [State.finishFlushing]
    split
    · exact .ends (by assumption) _
    · exact .ends (by assumption) _
    · exact .works .keeps

-- ---------------------------------------------------------------------------
-- The teardown
-- ---------------------------------------------------------------------------

/-- Whether reading is at its end. -/
def Phase.isPastReading : Phase → Bool
  | .draining _ => true
  | .flushing _ => true
  | .ended _ => true
  | _ => false

/-- The desk is in order, and it is closed from the end of reading on. -/
structure World.Tidy (w : World σ) : Prop where
  order : Orderly w
  sound : w.state.desk.Sound
  closed : w.state.phase.isPastReading = true → w.state.desk.table.closed = true

/-- **Every step** keeps the desk closed behind the end of reading. -/
theorem World.Tidy.step (h : w.Tidy) (hstep : Step handler w w') : w'.Tidy := by
  have hmoves := hstep.moves h.order
  refine ⟨h.order.step hstep, h.sound.step hmoves.desk, ?_⟩
  have hclosed := h.closed
  revert hclosed
  generalize w.state.phase = p, w.state.desk = d, w'.state.phase = p', w'.state.desk = d' at hmoves
  intro hclosed hpast
  cases hmoves with
  | works hgo => exact hgo.closed (hclosed hpast)
  | starts hphase => cases hpast
  | aborts hphase => cases hpast
  | stops hphase outcome => rfl
  | drains hphase => exact hclosed (hphase ▸ rfl)
  | ends hphase result => exact hclosed (hphase ▸ rfl)

/-- **Every run** keeps the desk in order, and closes it with the end of reading. -/
theorem tidy_run (hrun : Runs handler (World.create config memory) w) : w.Tidy := by
  induction hrun with
  | refl => exact ⟨orderly_create config memory, Desk.sound_empty, nofun⟩
  | tail _ hlast ih => exact ih.step hlast

/-- A session that has ended takes no frame: its writer is at its end. -/
theorem refuses_of_ended (hrun : Runs handler (World.create config memory) w)
    (hended : w.state.phase = .ended result) : w.state.accepting = false := by
  apply State.not_accepting_of_left?_none
  cases (lane_run hrun).2 with
  | lost hlost => exact Writer.left?_of_isBroken (hlost.resolve_right (by simp [hended]))
  | alive delivered waiting late _ _ _ hbehind =>
    -- a writer that is still there waits for the command to stop, or has it before it
    cases hbehind with
    | nothing hover => simp [hended, Phase.isOver] at hover
    | stop hflushing => simp [hended] at hflushing
  | stopped delivered late hstopped => rw [hstopped]; rfl

/-- **A session that has ended** stays ended, and its desk stays shut. -/
theorem ended_run (hrun : Runs handler (World.create config memory) w)
    (hended : w.state.phase = .ended result) {since : Nat} (hshut : w.state.desk.Shut since)
    (hlater : Runs handler w w') : w'.state.phase = .ended result ∧ w'.state.desk.Shut since := by
  induction hlater with
  | refl => exact ⟨hended, hshut⟩
  | @tail w₁ w₂ hbefore hlast ih =>
    have hmoves := hlast.moves (tidy_run (hrun.trans hbefore)).order
    refine ⟨?_, ih.2.step hmoves.desk⟩
    have hphase := ih.1
    generalize w₁.state.phase = p, w₁.state.desk = d, w₂.state.phase = p', w₂.state.desk = d'
      at hmoves hphase
    subst hphase
    cases hmoves with
    | works hgo => rfl
    | starts h => cases h
    | aborts h => cases h
    | stops h outcome => cases h
    | drains h => cases h
    | ends h result => cases h

/-- The steps of a request: it gets its ticket, cannot be sent, and is refused. -/
theorem runs_ask (handler : Handler σ) (hrefuses : w.state.accepting = false) (method : String) (params : Json) :
    (w.state.ask method params).1 = w.state.issue.1 ∧
      Runs handler { w with state := w.state.issue.2 } { w with state := (w.state.ask method params).2 } := by
  refine ⟨rfl, .single ?_⟩
  have hissue : w.state.issue.2.accepting = false := hrefuses
  have hasked : (w.state.ask method params).2 = w.state.issue.2.refuse w.state.issue.1.id .closed := by
    show w.state.issue.2.dispatch w.state.issue.1.id method params = _
    rw [State.dispatch, State.send_of_not_accepting hissue]
  rw [hasked]
  exact .outer (.refuse w.state.issue.2 w.state.issue.1.id .closed)

/-- Nobody waits for anything, and nobody will. -/
structure World.Deserted (handler : Handler σ) (w : World σ) : Prop where
  closed : w.state.desk.table.closed = true
  nobody : w.state.desk.table.waiting = []
  /-- Whoever has the ticket of a request is told an outcome when it asks. -/
  ready : ∀ ticket, ∃ outcome, (w.state.poll ticket).1 = some outcome
  notify : ∀ method params, (w.state.notify method params).1 = .error .closed
  /-- Whoever makes a request is told that the connection is gone, whatever happens before it asks. -/
  ask : ∀ method params w',
    Runs handler { w with state := (w.state.ask method params).2 } w' →
      (w'.state.poll (w.state.ask method params).1).1 = some (.error .closed)
  /-- So it is whatever happens between the steps of the request, which nobody can send. -/
  slowly : ∀ w', Runs handler { w with state := w.state.issue.2 } w' →
    (∀ m, (w'.state.send m).1 = .error .closed) ∧
      (w'.state.poll w.state.issue.1).1 = some (.error .closed)

/-- At the moment when the session has ended. -/
theorem deserted_of_ended (hrun : Runs handler (World.create config memory) w)
    (hended : w.state.phase = .ended result) : w.Deserted handler := by
  have htidy := tidy_run hrun
  have hclosed : w.state.desk.table.closed = true := htidy.closed (by rw [hended]; rfl)
  have hrefuses := refuses_of_ended hrun hended
  -- whoever gets a ticket now gets an id that was not given out
  have hshut := htidy.sound.shut hclosed
  have hissue : Step handler w { w with state := w.state.issue.2 } := .outer (.issue w.state)
  have hslowly : ∀ w', Runs handler { w with state := w.state.issue.2 } w' →
      (∀ m, (w'.state.send m).1 = .error .closed) ∧
        (w'.state.poll w.state.issue.1).1 = some (.error .closed) := by
    intro w' hlater
    have hlater' : Runs handler w w' := hlater.head hissue
    obtain ⟨hended', hshut'⟩ := ended_run hrun hended hshut hlater'
    have hlate : w.state.desk.table.nextId ≤ w.state.issue.1.id :=
      Nat.le_of_eq w.state.desk.id_register.symm
    refine ⟨?_, hshut'.poll hlate w'.state.now⟩
    intro m
    rw [State.send_fst, refuses_of_ended (hrun.trans hlater') hended', if_neg Bool.false_ne_true]
  constructor
  case closed => exact hclosed
  case nobody => exact htidy.sound.table.closed hclosed
  case ready =>
    intro ticket
    rcases htidy.sound.poll hclosed ticket w.state.now with ⟨δ, -, -, hpoll⟩ | hpoll
    · exact ⟨_, hpoll⟩
    · exact ⟨_, hpoll⟩
  case notify =>
    intro method params
    rw [State.notify, State.send_fst, hrefuses, if_neg Bool.false_ne_true]
  case ask =>
    intro method params w' hlater
    obtain ⟨hticket, hruns⟩ := runs_ask handler hrefuses method params
    rw [hticket]
    exact (hslowly w' (hruns.trans hlater)).2
  case slowly => exact hslowly

/-- **Teardown leaves nobody waiting.** Whatever the handler and those outside do, in whatever order, and for
whatever reason reading ended: once the session has ended, nobody waits for anything, and nobody will, whatever
happens later. -/
theorem nobody_waits (hrun : Runs handler (World.create config memory) w)
    (hended : w.state.phase = .ended result) :
    ∀ w', Runs handler w w' → w'.state.phase = .ended result ∧ w'.Deserted handler := by
  intro w' hlater
  have htidy := tidy_run hrun
  have hclosed : w.state.desk.table.closed = true := htidy.closed (by rw [hended]; rfl)
  obtain ⟨hended', -⟩ := ended_run hrun hended (htidy.sound.shut hclosed) hlater
  exact ⟨hended', deserted_of_ended (hrun.trans hlater) hended'⟩

/-- Two requests, one of which is being written when the writer fails. The other comes to be sent behind the end of
reading, and is refused behind the end of the session. -/
def halfSent : List Deed :=
  [.start, .call "m" .null, .call "n" .null, .carry 1, .take, .push 5, .fail "gone", .heed, .read, .carry 0,
    .drain, .finish, .carry 0]

/-- A session that ends over a write while one waits and one is about to send. -/
theorem nobody_waits_half_sent :
    ∃ (sc : Scene Unit) (fault : CallFault),
      Runs Rehearsal.handler (World.create {} ()) sc.toWorld ∧
      sc.state.phase = .ended (.error fault) ∧ sc.callers.map (·.ticket.id) = [1, 0] ∧
      ∀ w', Runs Rehearsal.handler sc.toWorld w' →
        w'.state.phase = .ended (.error fault) ∧ w'.Deserted Rehearsal.handler := by
  have hplay : (Scene.play Rehearsal.handler (fun _ => true) halfSent (Scene.create {} ())).any
      (fun sc => sc.state.phase.endedBadly && sc.callers.map (·.ticket.id) == [1, 0]) = true := by
    decide +kernel
  obtain ⟨sc, hscene, hfacts⟩ := (Option.any_eq_true _ _).mp hplay
  rw [Bool.and_eq_true, beq_iff_eq] at hfacts
  have hplays : Plays Rehearsal.handler (fun _ => True) (Scene.create {} ()) sc :=
    plays_of_play (fun _ => trivial) hscene
  have hruns : Runs Rehearsal.handler (World.create {} ()) sc.toWorld := hplays.runs
  obtain ⟨fault, hended⟩ := Phase.eq_of_endedBadly hfacts.1
  exact ⟨sc, fault, hruns, hended, hfacts.2, nobody_waits hruns hended⟩

end EditorLink.Session
