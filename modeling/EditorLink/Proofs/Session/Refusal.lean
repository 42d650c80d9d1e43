import EditorLink.Proofs.Correlation.Lifetime
import EditorLink.Proofs.Session.Numbering

/-!
# EditorLink — a request that is refused

A request can be refused in two places: the desk lets nobody wait once it is closed, and the queue takes no frame once
the writer is gone. If the queue refuses, the registration is undone. If the desk refuses, the frame is queued all the
same, as long as the writer is there: between the end of reading and the end of the writer a caller is told that the
connection is gone, and the other side gets a request whose answer nobody waits for.

The request is made here while nothing else happens, from its ticket to the moment at which its caller waits or was
refused; what comes of it then depends on the desk and on the writer at that moment. All combinations are told apart,
and each by an equivalence: the caller waits and one frame was queued, it is refused and none was, or it is refused and
one was. It does not matter whether a task or somebody outside makes the request.

A request that is interrupted by others can come to the same ends, as the two places look at the session at two
moments. It is not the subject here.

## Results

* `Course.ask`, `Asks` — a request that is made while nothing else happens, by anybody, and `Asks.plays`, its steps;
* `Course.sees_watch`, `Course.requested_ask` — what its caller has before it, and what was queued;
* `Course.Underway`, `Course.Refused`, `Course.Stranded` — what may become of it;
* `request_underway_refused_or_stranded` — which of them, and when;
* `request_stranded` — a request that is queued though its caller is refused.
-/

namespace EditorLink.Session

open Correlation (Desk Fate Op Ticket Watch)
open Message (CallFault)

variable {σ : Type}

-- ---------------------------------------------------------------------------
-- Making a request
-- ---------------------------------------------------------------------------

/-- A request is made, and nothing else happens meanwhile: it gets a ticket and is sent, or refused. -/
def Course.ask (c : Course σ) (origin : Origin) (method : String) (params : Json) : Ticket × Course σ :=
  let (ticket, state) := c.state.issue
  match ({ c with state } : Course σ).say origin (.request ticket.id method params) with
  | (.ok (), c) => (ticket, c)
  | (.error fault, c) => (ticket, { c with state := c.state.refuse ticket.id fault })

/-- Somebody outside makes a request, or a task does that has come to it. -/
inductive Asks (sc : Scene σ) (method : String) (params : Json) : Ticket → Scene σ → Prop
  | outside : Asks sc method params (sc.ask .outside method params).1
    { sc with
      toCourse := (sc.ask .outside method params).2
      callers := .asking (sc.ask .outside method params).1 :: sc.callers }
  | inside {t : Thread} {front behind : List Thread} {next : Except CallFault Json → Task}
    (hthreads : sc.threads = front ++ t :: behind) (hstage : t.stage = .running (.ask method params next)) :
    Asks sc method params (sc.ask t.origin method params).1
      { sc with
        toCourse := (sc.ask t.origin method params).2
        threads := front ++ t.movedTo (.asking (sc.ask t.origin method params).1 next) :: behind }

namespace Course

variable (c : Course σ) (origin : Origin) (method : String) (params : Json)

/-- The session with the ticket given out. -/
def issued : Course σ := { c with state := c.state.issue.2 }

/-- The session with the request said, be it queued or not. -/
def asked : Course σ := (c.issued.say origin (.request c.state.issue.1.id method params)).2

/-- The three steps of a request, in one. -/
theorem ask_eq :
    c.ask origin method params =
      (c.state.issue.1,
        if c.state.accepting then c.asked origin method params
        else { c.asked origin method params with
          state := (c.asked origin method params).state.refuse c.state.issue.1.id .closed }) := by
  have hsent : (c.issued.say origin (.request c.state.issue.1.id method params)).1 =
      if c.state.accepting then .ok () else .error .closed := c.issued.state.send_fst _
  show (match c.issued.say origin (.request c.state.issue.1.id method params) with
    | (.ok (), c') => (c.state.issue.1, c')
    | (.error fault, c') => (c.state.issue.1, { c' with state := c'.state.refuse c.state.issue.1.id fault })) = _
  rw [asked]
  rcases hsay : c.issued.say origin (.request c.state.issue.1.id method params) with ⟨sent, c'⟩
  rw [hsay] at hsent
  subst hsent
  cases c.state.accepting <;> rfl

/-- The caller has the ticket that was given out first. -/
theorem ticket_ask : (c.ask origin method params).1 = c.state.issue.1 :=
  congrArg Prod.fst (c.ask_eq origin method params)

/-- What a session comes to does not depend on who makes the request. -/
theorem state_ask :
    ((c.ask origin method params).1, (c.ask origin method params).2.state) = c.state.ask method params := by
  show _ = (c.state.issue.1, c.state.issue.2.dispatch c.state.issue.1.id method params)
  have hsent := c.state.issue.2.send_fst (.request c.state.issue.1.id method params)
  have haccepting : c.state.issue.2.accepting = c.state.accepting := rfl
  rw [ask_eq, State.dispatch]
  rcases hsay : c.state.issue.2.send (.request c.state.issue.1.id method params) with ⟨sent, s⟩
  have hasked : (c.asked origin method params).state = s := congrArg Prod.snd hsay
  rw [hsay, haccepting] at hsent
  subst hsent
  cases c.state.accepting
  · exact congrArg (fun s : State σ => (c.state.issue.1, s.refuse c.state.issue.1.id .closed)) hasked
  · exact congrArg (Prod.mk c.state.issue.1) hasked

/-- The steps of a request, one behind the other. -/
theorem proceeds_ask (ticket : Ticket) (hticket : ticket = c.state.issue.1) :
    (Errand.requesting ticket method params).proceed origin c.issued =
        ((c.ask origin method params).2, .goesOn (.asking ticket)) ∨
      ∃ c', (Errand.requesting ticket method params).proceed origin c.issued =
          (c', .goesOn (.refused ticket .closed)) ∧
        (Errand.refused ticket .closed).proceed origin c' =
          ((c.ask origin method params).2, .goesOn (.asking ticket)) := by
  have haccepting : c.issued.state.accepting = c.state.accepting := rfl
  rw [Errand.proceed_requesting, haccepting, ask_eq, hticket]
  cases c.state.accepting
  · exact .inr ⟨_, rfl, rfl⟩
  · exact .inl rfl

end Course

variable {handler : Handler σ} {config : Config} {memory : σ} {sc sc' : Scene σ} {method : String} {params : Json}
  {ticket : Ticket}

/-- Whoever takes the steps of a request, one behind the other, comes to wait for its outcome. -/
theorem plays_steps {embed : Course σ → Errand → Scene σ} {origin : Origin}
    (hstep : ∀ {c c' e e'}, e.proceed origin c = (c', .goesOn e') →
      Plays handler (fun _ => True) (embed c e) (embed c' e'))
    (c : Course σ) (method : String) (params : Json) :
    Plays handler (fun _ => True) (embed c.issued (.requesting c.state.issue.1 method params))
      (embed (c.ask origin method params).2 (.asking (c.ask origin method params).1)) := by
  rw [c.ticket_ask origin method params]
  rcases c.proceeds_ask origin method params _ rfl with hsent | ⟨c', hlost, hrefused⟩
  · exact hstep hsent
  · exact (hstep hlost).trans (hstep hrefused)

/-- A request from outside takes a step. -/
theorem plays_carry {callers : List Errand} {c c' : Course σ} {e e' : Errand}
    (hproceed : e.proceed .outside c = (c', .goesOn e')) :
    Plays handler (fun _ => True) { sc with toCourse := c, callers := e :: callers }
      { sc with toCourse := c', callers := e' :: callers } := by
  have hfirst : e :: callers = [] ++ e :: callers := rfl
  have hcarry : Happens handler { sc with toCourse := c, callers := e :: callers } _ := .carry hfirst
  rw [hproceed] at hcarry
  exact .single ⟨hcarry, trivial⟩

/-- A thread takes a step, and goes on. -/
theorem plays_proceed {t t' : Thread} {front behind : List Thread} {c c' : Course σ}
    (hproceed : t.proceed c = (c', some t')) :
    Plays handler (fun _ => True) { sc with toCourse := c, threads := front ++ t :: behind }
      { sc with toCourse := c', threads := front ++ t' :: behind } := by
  have hinner : Inner handler { sc.toWorld with toCourse := c, threads := front ++ t :: behind } _ := .proceed rfl
  rw [hproceed] at hinner
  have hthreads : front ++ [t'] ++ behind = front ++ t' :: behind := by rw [List.append_assoc]; rfl
  have hhappens : Happens handler { sc with toCourse := c, threads := front ++ t :: behind } _ :=
    .inner (hthreads ▸ hinner)
  exact .single ⟨hhappens, trivial⟩

/-- **Making a request** is something that happens, step by step. -/
theorem Asks.plays (h : Asks sc method params ticket sc') : Plays handler (fun _ => True) sc sc' := by
  cases h with
  | outside =>
    have hcall : Happens handler sc _ := .call sc method params
    exact .head ⟨hcall, trivial⟩ (plays_steps plays_carry sc.toCourse method params)
  | @inside t front behind next hthreads hstage =>
    let embed (c : Course σ) (e : Errand) : Scene σ :=
      { sc with toCourse := c, threads := front ++ t.movedTo (e.stage next) :: behind }
    have hissue : t.proceed sc.toCourse =
        (sc.issued, some (t.movedTo (.requesting sc.state.issue.1 method params next))) := by
      rw [Thread.proceed, hstage]
      rfl
    have hcall : Plays handler (fun _ => True) { sc with threads := front ++ t :: behind } _ := plays_proceed hissue
    have hstep : ∀ {c c' e e'}, e.proceed t.origin c = (c', .goesOn e') →
        Plays handler (fun _ => True) (embed c e) (embed c' e') := by
      intro c c' e e' hproceed
      have hthread : (t.movedTo (e.stage next)).proceed c =
          ((e.proceed t.origin c).1, some (t.movedTo ((e.proceed t.origin c).2.stage next))) :=
        Thread.proceed_errand rfl c
      rw [hproceed] at hthread
      exact plays_proceed hthread
    rw [← hthreads] at hcall
    exact hcall.trans (plays_steps hstep sc.toCourse method params)

-- ---------------------------------------------------------------------------
-- What comes of it
-- ---------------------------------------------------------------------------

/-- A request that could not be sent is answered at the desk. -/
theorem State.desk_refuse (s : State σ) (id : Nat) (fault : CallFault) :
    (s.refuse id fault).desk = s.desk.does (.settle id (.error fault)) := by
  rw [refuse, Desk.does]
  cases s.desk.settle id (.error fault) <;> rfl

namespace Course

variable (c : Course σ) (origin : Origin) (method : String) (params : Json)

/-- The desk is where the ticket comes from, and where it is answered if the request cannot be sent. -/
theorem desk_ask :
    (c.ask origin method params).2.state.desk =
      if c.state.accepting then c.state.desk.register.2
      else c.state.desk.register.2.does (.settle c.state.desk.table.nextId (.error .closed)) := by
  have hasked : (c.asked origin method params).state.desk = c.state.desk.register.2 := c.issued.state.desk_send _
  have hid : c.state.issue.1.id = c.state.desk.table.nextId := c.state.desk.id_register
  rw [ask_eq]
  cases c.state.accepting with
  | true => exact hasked
  | false =>
    show ((c.asked origin method params).state.refuse c.state.issue.1.id .closed).desk = _
    rw [State.desk_refuse, hasked, hid, if_neg Bool.false_ne_true]

/-- Whether somebody waits for an answer to a request that is made now: the desk is open, and its frame is taken. -/
def answerable : Bool := c.state.accepting && !c.state.desk.table.closed

/-- Whoever made a request, as it stands with its ticket. -/
def watch : Watch :=
  { ticket := (c.ask origin method params).1
    desk := (c.ask origin method params).2.state.desk
    now := (c.ask origin method params).2.state.now }

/-- **Whoever made a request** waits if the desk was open and the frame was taken, and else is told that the connection
is gone. -/
theorem sees_watch (hsound : c.state.desk.Sound) :
    (c.watch origin method params).Sees c.state.desk.table.nextId
      (c.state.config.requestTimeout.map fun after => ⟨c.state.now + after.nanos, after⟩)
      (if c.answerable then .waiting else .fulfilled (.error .closed)) := by
  let id := c.state.desk.table.nextId
  let refusal : Op := .settle id (.error .closed)
  have hbegun := Watch.sees_begin hsound c.state.now c.state.config.requestTimeout
  have hfate : c.state.desk.fate [] = if c.state.desk.table.closed then .fulfilled (.error .closed) else .waiting := rfl
  have hticket : (c.ask origin method params).1 = .issue c.state.desk.register.1 c.state.now _ :=
    c.ticket_ask origin method params
  rw [watch, hticket, desk_ask, answerable]
  cases c.state.accepting with
  | true =>
    have hsees := hbegun.elapses (c.ask origin method params).2.state.now
    rw [hfate] at hsees
    cases hclosed : c.state.desk.table.closed <;> rw [hclosed] at hsees <;> exact hsees
  | false =>
    have hrefused : (c.state.desk.fate []).behind id [refusal] = .fulfilled (.error .closed) := by
      rw [hfate]
      split
      · rfl
      · exact if_pos rfl
    have hsees := (hbegun.works refusal).elapses (c.ask origin method params).2.state.now
    rw [hrefused] at hsees
    exact hsees

/-- **What is queued** for a request is its frame, if frames are taken. -/
theorem requested_ask (hwhole : c.line.Whole) :
    (c.ask origin method params).2.requested =
      c.requested ++ if c.state.accepting then [c.state.issue.1.id] else [] := by
  have hissued : c.issued.line = c.line := rfl
  have hasked : (c.asked origin method params).requested =
      c.requested ++ if c.state.accepting then [c.state.issue.1.id] else [] := by
    show (c.issued.say origin _).2.line.sent = _
    rw [line_say, Line.sent_say (hissued ▸ hwhole)]
    rfl
  rw [ask_eq]
  cases haccepting : c.state.accepting with
  | true =>
    rw [haccepting] at hasked
    exact hasked
  | false =>
    rw [haccepting] at hasked
    -- refusing it queues nothing
    show (Course.line _).sent = _
    rw [if_neg Bool.false_ne_true, line_of_quiet (State.quiet_refuse _ _ _)]
    exact hasked

/-- Somebody waits under this ticket, and one frame with its id was queued. -/
structure Underway (ticket : Ticket) : Prop where
  waits : ticket.id ∈ c.state.desk.table.waiting
  queued : c.requested.count ticket.id = 1

/-- The ticket brings a fault, and no frame with its id was queued. -/
structure Refused (ticket : Ticket) : Prop where
  told : ∃ fault, (c.state.poll ticket).1 = some (.error fault)
  unqueued : ticket.id ∉ c.requested

/-- The ticket brings that the connection is gone, nobody waits under it, and one frame with its id was queued. -/
structure Stranded (ticket : Ticket) : Prop where
  told : (c.state.poll ticket).1 = some (.error .closed)
  forsaken : ticket.id ∉ c.state.desk.table.waiting
  queued : c.requested.count ticket.id = 1

section

variable (hsound : c.state.desk.Sound) (hwhole : c.line.Whole) (hnew : c.state.desk.table.nextId ∉ c.requested)

include hsound in
/-- Somebody waits under the id of a new request exactly if the desk is open and frames are taken. -/
theorem waiting_ask_iff :
    (c.ask origin method params).1.id ∈ (c.ask origin method params).2.state.desk.table.waiting ↔
      c.answerable = true := by
  have hsees := c.sees_watch origin method params hsound
  have hid : (c.ask origin method params).1.id = c.state.desk.table.nextId := hsees.id_ticket
  rw [hid]
  refine hsees.waiting.trans ?_
  cases c.answerable
  · exact iff_of_false (fun h => Fate.noConfusion h.2) Bool.false_ne_true
  · exact iff_of_true ⟨rfl, rfl⟩ rfl

include hsound in
/-- A caller that is refused is told that the connection is gone. -/
theorem poll_ask (hrefused : c.answerable = false) :
    ((c.ask origin method params).2.state.poll (c.ask origin method params).1).1 = some (.error .closed) := by
  have hsees := c.sees_watch origin method params hsound
  rw [hrefused] at hsees
  exact hsees.asks_of_untold Fate.noConfusion rfl

include hsound hwhole hnew in
/-- One frame with its id is queued if frames are taken. -/
theorem count_ask :
    (c.ask origin method params).2.requested.count (c.ask origin method params).1.id =
      if c.state.accepting then 1 else 0 := by
  have hid : (c.ask origin method params).1.id = c.state.desk.table.nextId :=
    (c.sees_watch origin method params hsound).id_ticket
  have hissued : c.state.issue.1.id = c.state.desk.table.nextId := c.state.desk.id_register
  rw [c.requested_ask origin method params hwhole, hid, hissued, List.count_append, List.count_eq_zero_of_not_mem hnew]
  cases c.state.accepting
  · rfl
  · simp

end

end Course

/-- **What becomes of a request** is settled when it is made, whoever makes it, and at whatever moment of a session.

* It is under way, with its frame queued once, if frames are taken and the desk is open.
* It is refused, and nothing is queued for it, if no frames are taken.
* It is stranded if frames are taken but the desk is closed: its caller is told that the connection is gone, and its
  frame is queued. -/
theorem request_underway_refused_or_stranded
    (h : Plays handler (fun _ => True) (Scene.create config memory) sc)
    (hasks : Asks sc method params ticket sc') :
    (Plays handler (fun _ => True) sc sc' ∧ (ticket, sc'.state) = sc.state.ask method params ∧
        sc'.entered.map Saying.frame = sc'.state.queued) ∧
      (sc'.Underway ticket ↔ sc.state.accepting = true ∧ sc.state.desk.table.closed = false) ∧
      (sc'.Refused ticket ↔ sc.state.accepting = false) ∧
      (sc'.Stranded ticket ↔ sc.state.accepting = true ∧ sc.state.desk.table.closed = true) := by
  have hrun := Plays.runs h
  have hplays : Plays handler (fun _ => True) sc sc' := hasks.plays
  have hsound := (tidy_run hrun).sound
  have hwhole : sc.line.Whole := whole_run hrun
  have hnew : sc.state.desk.table.nextId ∉ sc.requested := (numbered_plays h).sent.next_not_mem
  obtain ⟨origin, hticket, hcourse⟩ : ∃ origin, ticket = (sc.ask origin method params).1 ∧
      sc'.toCourse = (sc.ask origin method params).2 := by
    cases hasks with
    | outside => exact ⟨_, rfl, rfl⟩
    | inside hthreads hstage => exact ⟨_, rfl, rfl⟩
  have hwaiting := sc.waiting_ask_iff origin method params hsound
  have hpoll := sc.poll_ask origin method params hsound
  have hcount := sc.count_ask origin method params hsound hwhole hnew
  rw [← hcourse, ← hticket] at hwaiting hpoll hcount
  rw [Course.answerable, Bool.and_eq_true, Bool.not_eq_true'] at hwaiting
  rw [Course.answerable, Bool.and_eq_false_iff, Bool.not_eq_false'] at hpoll
  refine ⟨⟨hplays, ?_, Course.frames_entered (whole_run (Plays.runs (h.trans hplays)))⟩, ?_, ?_, ?_⟩
  · rw [← sc.state_ask origin method params, ← hticket, ← hcourse]
  · constructor
    · rintro ⟨hwaits, -⟩
      exact hwaiting.mp hwaits
    · intro hboth
      exact ⟨hwaiting.mpr hboth, by rw [hcount, if_pos hboth.1]⟩
  · constructor
    · rintro ⟨-, hunqueued⟩
      rw [Bool.eq_false_iff]
      intro haccepting
      rw [if_pos haccepting] at hcount
      exact hunqueued (List.count_pos_iff.mp (by omega))
    · intro hshut
      rw [hshut, if_neg Bool.false_ne_true] at hcount
      exact ⟨⟨.closed, hpoll (.inl hshut)⟩, List.count_eq_zero.mp hcount⟩
  · constructor
    · rintro ⟨-, hforsaken, hone⟩
      have haccepting : sc.state.accepting = true := by
        by_contra hshut
        rw [if_neg hshut] at hcount
        omega
      refine ⟨haccepting, ?_⟩
      by_contra hopen
      exact hforsaken (hwaiting.mpr ⟨haccepting, Bool.eq_false_iff.mpr hopen⟩)
    · rintro ⟨haccepting, hclosed⟩
      refine ⟨hpoll (.inr hclosed), fun hwaits => ?_, by rw [hcount, if_pos haccepting]⟩
      have hopen := (hwaiting.mp hwaits).2
      rw [hclosed] at hopen
      cases hopen

/-- The writer fails, and a task makes a request. -/
def brokenOff : List Deed :=
  [.start, .call "a" .null, .carry 0, .take, .fail "gone",
    .arrive (.data (Framing.encode (Message.request 1 "ask" (.obj [("method", .str "b")])))), .read, .read]

/-- Whether a thread is about to make a request. -/
def Stage.isAboutToAsk : Stage → Bool
  | .running (.ask _ _ _) => true
  | _ => false

/-- A request that is refused, of a task whose session has lost its writer. -/
theorem request_refused_broken_off :
    ∃ (sc sc' : Scene Unit) (ticket : Ticket) (method : String) (params : Json),
      Plays Rehearsal.handler (fun _ => True) (Scene.create {} ()) sc ∧ Asks sc method params ticket sc' ∧
        sc'.Refused ticket ∧ ¬ sc'.Underway ticket ∧ ¬ sc'.Stranded ticket := by
  have hplay : ((Scene.create {} ()).play Rehearsal.handler (fun _ => true) brokenOff).any (fun sc =>
      !sc.state.accepting && sc.threads.any (·.stage.isAboutToAsk)) = true := by
    decide +kernel
  obtain ⟨sc, hscene, hfacts⟩ := (Option.any_eq_true _ _).mp hplay
  rw [Bool.and_eq_true, Bool.not_eq_true', List.any_eq_true] at hfacts
  obtain ⟨hshut, t, ht, habout⟩ := hfacts
  have hplays : Plays Rehearsal.handler (fun _ => True) (Scene.create {} ()) sc :=
    plays_of_play (fun _ => trivial) hscene
  obtain ⟨front, behind, hthreads⟩ := List.append_of_mem ht
  obtain ⟨method, params, next, hstage⟩ : ∃ method params next, t.stage = .running (.ask method params next) := by
    unfold Stage.isAboutToAsk at habout
    split at habout
    · exact ⟨_, _, _, ‹_›⟩
    · cases habout
  have hasks : Asks sc method params _ _ := .inside hthreads hstage
  obtain ⟨-, hunderway, hrefused, hstranded⟩ := request_underway_refused_or_stranded hplays hasks
  rw [hshut] at hunderway hrefused hstranded
  exact ⟨sc, _, _, method, params, hplays, hasks, hrefused.mpr rfl, fun h => Bool.noConfusion (hunderway.mp h).1,
    fun h => Bool.noConfusion (hstranded.mp h).1⟩

/-- A task is held at a gate when reading ends. -/
def heldAtEnd : List Deed :=
  [.start, .arrive (.data (Framing.encode (Message.request 1 "gate" (.obj [("name", .str "g")])))), .read, .read,
    .proceed 0, .arrive .ended, .read, .read]

/-- **A request is queued though its caller is refused**, if reading has ended and a task is still at work. -/
theorem request_stranded :
    ∃ (sc sc' : Scene Unit) (ticket : Ticket),
      Plays Rehearsal.handler (fun _ => True) (Scene.create {} ()) sc ∧ Asks sc "m" .null ticket sc' ∧
        sc'.requested = [ticket.id] ∧ sc'.state.desk.table.waiting = [] ∧ sc'.threads.length = 1 ∧
        ¬ sc'.Underway ticket ∧ ¬ sc'.Refused ticket := by
  have hplay : ((Scene.create {} ()).play Rehearsal.handler (fun _ => true) heldAtEnd).any (fun sc =>
      (sc.ask .outside "m" .null).2.requested == [(sc.ask .outside "m" .null).1.id] &&
        (sc.ask .outside "m" .null).2.state.desk.table.waiting == [] && sc.threads.length == 1) = true := by
    decide +kernel
  obtain ⟨sc, hscene, hfacts⟩ := (Option.any_eq_true _ _).mp hplay
  rw [Bool.and_eq_true, Bool.and_eq_true, beq_iff_eq, beq_iff_eq, beq_iff_eq] at hfacts
  obtain ⟨⟨hrequested, hnobody⟩, hthreads⟩ := hfacts
  have hplays : Plays Rehearsal.handler (fun _ => True) (Scene.create {} ()) sc :=
    plays_of_play (fun _ => trivial) hscene
  refine ⟨sc, _, _, hplays, .outside, hrequested, hnobody, hthreads, ?_, ?_⟩
  · rintro ⟨hwaits, -⟩
    rw [hnobody] at hwaits
    cases hwaits
  · rintro ⟨-, hunqueued⟩
    exact hunqueued (hrequested ▸ List.mem_singleton.mpr rfl)

end EditorLink.Session
