import EditorLink.Proofs.Correlation.Desk
import EditorLink.Proofs.Session.Inbound
import EditorLink.Proofs.Session.Ledger
import EditorLink.Proofs.Session.Wire

/-!
# EditorLink — the books of our requests

What becomes of our requests is decided by a few things: the desk, the requests that are under way, those
that were queued, and the values that were taken in.

The books are these things and nothing else of a session, and `Books.Goes` lists all that can happen to them: a request
is made, its frame is queued or cannot be queued, it is refused, asked with, or dropped; a response settles one of
them or is passed over; reading ends; the desk is closed. Each step of a scene is one of these, or leaves the books
alone (`Happens.books`). So an invariant of our requests is proved for the kinds of `Goes` and holds in every scene.
The ledger, the numbers of requests and what callers are told are three such invariants, in modules of their own.

Requests of those outside and of tasks stand in one list, as nothing here depends on who made them. The order of that
list does not matter; a thread that goes on is moved to the front of it for the step.

## Results

* `Line.sent` — the ids of the requests that were queued;
* `Books`, `Books.Goes` — these things, and all that happens to them;
* `Errand.books`, `Thread.books`, `World.books_receive` — what the parts of a session do to them;
* `Happens.books` — whatever happens in a scene is one of these.
-/

namespace EditorLink.Message

/-- The id of a request of ours. -/
def Outgoing.requestId? : Outgoing → Option Nat
  | .request id _ _ => some id
  | _ => none

end EditorLink.Message

namespace EditorLink.Session

open Correlation (Desk Outcome Ticket)
open Message (CallFault ErrorObject Outgoing RequestId)
open scoped List

variable {σ : Type}

/-- What comes of the first and what comes of the others. -/
theorem filterMap_cons_append {α β : Type} (f : α → Option β) (x : α) (xs : List α) :
    (x :: xs).filterMap f = (f x).toList ++ xs.filterMap f := by
  rw [List.filterMap_cons]
  cases f x <;> rfl

-- ---------------------------------------------------------------------------
-- What was queued
-- ---------------------------------------------------------------------------

/-- The ids in the request frames that were queued, in order. -/
def Line.sent (l : Line) : List Nat := l.entered.filterMap (·.message.requestId?)

/-- Something is said: if it is a request, and frames are taken, then its id is the last of them. -/
theorem Line.sent_say {l : Line} (h : l.Whole) (m : Saying) :
    (l.say m).sent = l.sent ++ if l.taking then m.message.requestId?.toList else [] := by
  have hle : l.queued.length ≤ l.said.length := by
    have hlength := h.queued.length_le
    rwa [List.length_map] at hlength
  cases h with
  | taking htaking hleft hqueued hbytes =>
    have hall : l.queued.length = l.said.length := by rw [hqueued, List.length_map]
    have hboth : (l.said ++ [m]).take (l.said.length + [m.frame].length) = l.said ++ [m] :=
      List.take_of_length_le (by simp)
    rw [say, if_pos htaking, if_pos htaking, sent, sent, entered, entered, List.length_append, hall, hboth,
      List.take_of_length_le (Nat.le_of_eq rfl), List.filterMap_append, filterMap_cons_append,
      List.filterMap_nil, List.append_nil]
  | shut htaking hqueued hbytes =>
    rw [say, if_neg (by simp [htaking]), if_neg (by simp [htaking]), List.append_nil, sent, sent, entered, entered,
      List.take_append_of_le_length hle]

/-- Whether the end of reading is still to come. -/
def Phase.isOpen : Phase → Bool
  | .idle => true
  | .reading => true
  | _ => false

-- ---------------------------------------------------------------------------
-- The books
-- ---------------------------------------------------------------------------

/-- Whether the end of reading is still to come, the desk, the requests under way, the ids of those that were
queued, and the values that were taken in. -/
structure Books where
  reading : Bool
  desk : Desk
  errands : List Errand
  sent : List Nat
  routed : List Json

/-- What happens to the books, while frames are taken or not. -/
inductive Books.Goes (taking : Bool) : Books → Books → Prop
  | keeps (b : Books) : Goes taking b b
  /-- The requests under way are taken in another order. -/
  | before {b b' : Books} {es : List Errand} (hperm : b.errands ~ es)
    (hgo : Goes taking { b with errands := es } b') : Goes taking b b'
  | behind {b b' : Books} {es : List Errand} (hgo : Goes taking b b') (hperm : b'.errands ~ es) :
    Goes taking b { b' with errands := es }
  | issues (b : Books) (now : Nat) (timeout : Option Span) (method : String) (params : Json) :
    Goes taking b { b with
      desk := b.desk.register.2
      errands := .requesting (.issue b.desk.register.1 now timeout) method params :: b.errands }
  | sends {b : Books} {ticket : Ticket} {method : String} {params : Json} {es : List Errand}
    (h : b.errands = .requesting ticket method params :: es) :
    Goes taking b { b with errands := .asking ticket :: es, sent := b.sent ++ [ticket.id] }
  | fails {b : Books} {ticket : Ticket} {method : String} {params : Json} {es : List Errand}
    (h : b.errands = .requesting ticket method params :: es) (hshut : taking = false) :
    Goes taking b { b with errands := .refused ticket .closed :: es }
  | refuses {b : Books} {ticket : Ticket} {fault : CallFault} {es : List Errand}
    (h : b.errands = .refused ticket fault :: es) :
    Goes taking b { b with
      desk := (b.desk.settle ticket.id (.error fault)).toOption.getD b.desk
      errands := .asking ticket :: es }
  /-- Whoever waits for an outcome gets it, and goes. -/
  | polls {b : Books} {ticket : Ticket} {es : List Errand} (h : b.errands = .asking ticket :: es)
    (now : Nat) : Goes taking b { b with desk := (ticket.poll now b.desk).2.2, errands := es }
  | drops {b : Books} {ticket : Ticket} {es : List Errand} (h : b.errands = .asking ticket :: es) :
    Goes taking b { b with desk := ticket.discard b.desk, errands := es }
  /-- A response is taken in and settled. -/
  | settles {b : Books} {value id : Json} {outcome : Except ErrorObject Json} {n : Nat} {desk : Desk}
    (hreading : b.reading = true) (hclass : Message.classify value = .ok (.response id outcome))
    (hid : id.natural? = some n) (hsettle : b.desk.settle n (outcome.mapError .remote) = .ok desk) :
    Goes taking b { b with desk, routed := b.routed ++ [value] }
  /-- A value is taken in that settles nothing. -/
  | passes {b : Books} {value : Json} (hreading : b.reading = true)
    (hidle : ∀ id outcome n, Message.classify value = .ok (.response id outcome) →
      id.natural? = some n → ∃ fault, b.desk.settle n (outcome.mapError .remote) = .error fault) :
    Goes taking b { b with routed := b.routed ++ [value] }
  /-- The session is given up. -/
  | ends (b : Books) : Goes taking b { b with reading := false }
  | closes (b : Books) : Goes taking b { b with reading := false, desk := b.desk.closeAll.2 }

-- ---------------------------------------------------------------------------
-- Saying something
-- ---------------------------------------------------------------------------

theorem State.desk_send (s : State σ) (m : Outgoing) : (s.send m).2.desk = s.desk := by
  have hcore : (s.send m).2.core.desk = s.core.desk := by
    rw [core_send_eq, core_command]
    split <;> rfl
  exact hcore

namespace Course

variable {c c' : Course σ} {es : List Errand}

def books (c : Course σ) (es : List Errand) : Books :=
  ⟨c.state.phase.isOpen, c.state.desk, es, c.line.sent, c.state.routed⟩

/-- The books depend on these parts of a course only. -/
theorem books_congr (hphase : c'.state.phase.isOpen = c.state.phase.isOpen)
    (hdesk : c'.state.desk = c.state.desk) (hsaid : c'.said = c.said)
    (hqueued : c'.state.queued = c.state.queued) (hrouted : c'.state.routed = c.state.routed) :
    c'.books es = c.books es := by
  have hsent : c'.line.sent = c.line.sent := by
    show (c'.said.take c'.state.queued.length).filterMap _ = _
    rw [hsaid, hqueued]
    rfl
  rw [books, books, hphase, hdesk, hsent, hrouted]

/-- **Saying something** matters if it is a request and is queued. -/
theorem books_say (hwhole : c.line.Whole) (origin : Origin) (m : Outgoing) :
    (c.say origin m).2.books es =
      { c.books es with
        sent := c.line.sent ++ if c.state.accepting then m.requestId?.toList else [] } := by
  have hrouted : (c.say origin m).2.state.routed = c.state.routed :=
    congrArg Intake.routed (c.intake_say origin m)
  have hdesk : (c.say origin m).2.state.desk = c.state.desk := c.state.desk_send m
  rw [books, c.phase_say, hdesk, line_say, Line.sent_say hwhole, hrouted]
  rfl

/-- What is said that is no request does not change them. -/
theorem books_say_of_none (hwhole : c.line.Whole) (origin : Origin) {m : Outgoing}
    (hm : m.requestId? = none) : (c.say origin m).2.books es = c.books es := by
  rw [books_say hwhole, hm, Option.toList_none, ite_self, List.append_nil]
  rfl

/-- What somebody is told is not in the books. -/
theorem books_tell (c : Course σ) (origin : Origin) (ticket : Ticket) (outcome : Outcome) :
    (c.tell origin ticket outcome).books es = c.books es := by
  cases origin <;> rfl

/-- Neither is a conclusion. -/
theorem books_conclude (hwhole : c.line.Whole) (o : Occurrence) (replyTo : Option RequestId)
    (k : Conclusion) : (c.conclude o replyTo k).books es = c.books es := by
  obtain ⟨id, outcome, -, -, h⟩ | ⟨-, h⟩ := c.conclude_cases o replyTo k
  · have hnote : (c.note o k).line.Whole := hwhole
    rw [h, books_say_of_none hnote _ rfl]
    rfl
  · rw [h]
    rfl

end Course

-- ---------------------------------------------------------------------------
-- Requests under way
-- ---------------------------------------------------------------------------

/-- **A step of an errand** in the books. -/
theorem Errand.books (e : Errand) (origin : Origin) {c : Course σ} (hwhole : c.line.Whole)
    (es : List Errand) :
    (c.books (e :: es)).Goes c.state.accepting
      ((e.proceed origin c).1.books ((e.proceed origin c).2.errand?.toList ++ es)) := by
  cases e with
  | requesting ticket method params =>
    rw [proceed_requesting, Course.books_say hwhole]
    cases htaking : c.state.accepting with
    | true => exact .sends rfl
    | false =>
      rw [if_neg Bool.false_ne_true, if_neg Bool.false_ne_true, List.append_nil]
      exact .fails rfl rfl
  | refused ticket fault =>
    have hrefuse : c.state.refuse ticket.id fault =
        { c.state with
          desk := (c.state.desk.settle ticket.id (.error fault)).toOption.getD c.state.desk } := by
      rw [State.refuse]
      cases c.state.desk.settle ticket.id (.error fault) <;> rfl
    rw [proceed, hrefuse]
    exact .refuses rfl
  | asking ticket =>
    rcases hpoll : ticket.poll c.state.now c.state.desk with ⟨_ | outcome, ticket', desk⟩
    -- whoever gets nothing leaves the desk as it is
    · obtain ⟨rfl, rfl⟩ := Ticket.eq_of_poll_none hpoll
      simp only [proceed, State.poll, hpoll]
      exact .keeps _
    · have hdesk : (ticket.poll c.state.now c.state.desk).2.2 = desk := by rw [hpoll]
      simp only [proceed, State.poll, hpoll, Course.books_tell]
      exact hdesk ▸ .polls rfl c.state.now

/-- **A step of a thread** does to the books what its request does, if it has one. -/
theorem Thread.Goes.books {t : Thread} {c c' : Course σ} {t' : Option Thread} (h : t.Goes c c' t')
    (hwhole : c.line.Whole) (es : List Errand) :
    (c.books (t.stage.errand?.toList ++ es)).Goes c.state.accepting
      (c'.books ((t'.bind (·.stage.errand?)).toList ++ es)) := by
  cases h with
  | quietly hs hbefore hafter =>
    rw [hbefore, Option.bind_some, movedTo, hafter]
    rcases hs with rfl | rfl <;> exact .keeps _
  | notifies hbefore hafter =>
    rw [hbefore, Option.bind_some, movedTo, hafter, Course.books_say_of_none hwhole _ rfl]
    exact .keeps _
  | issues hbefore =>
    rw [hbefore, Option.bind_some, movedTo, Errand.errand?_stage]
    exact .issues _ c.state.now c.state.config.requestTimeout _ _
  | @errand e next hbefore =>
    have hafter : ((e.proceed t.origin c).2.stage next).errand? = (e.proceed t.origin c).2.errand? := by
      cases (e.proceed t.origin c).2 with
      | goesOn e => exact e.errand?_stage next
      | done outcome => rfl
    rw [hbefore, Errand.errand?_stage, Option.bind_some, movedTo, hafter]
    exact e.books t.origin hwhole es
  | concludes k hbefore =>
    rw [hbefore, Course.books_conclude hwhole]
    exact .keeps _

/-- **A step of a thread** in the books. -/
theorem Thread.books (t : Thread) {c : Course σ} (hwhole : c.line.Whole) (es : List Errand) :
    (c.books (t.stage.errand?.toList ++ es)).Goes c.state.accepting
      ((t.proceed c).1.books (((t.proceed c).2.bind (·.stage.errand?)).toList ++ es)) :=
  (t.goes c).books hwhole es

-- ---------------------------------------------------------------------------
-- By itself
-- ---------------------------------------------------------------------------

/-- The requests of those who handle messages. -/
def World.errands (w : World σ) : List Errand := w.atWork.filterMap (·.stage.errand?)

/-- The request of a thread may be taken first. -/
theorem perm_errands (outside : List Errand) (front behind : List Thread) (t : Option Thread) :
    outside ++ (front ++ t.toList ++ behind).filterMap (·.stage.errand?) ~
      (t.bind (·.stage.errand?)).toList ++
        (outside ++ (front ++ behind).filterMap (·.stage.errand?)) := by
  have hfirst : t.toList.filterMap (·.stage.errand?) = (t.bind (·.stage.errand?)).toList := by
    cases t with
    | none => rfl
    | some t =>
      rw [Option.toList_some, filterMap_cons_append, List.filterMap_nil, List.append_nil,
        Option.bind_some]
  simp only [List.filterMap_append, hfirst, List.append_assoc]
  rw [← List.append_assoc outside, ← List.append_assoc outside]
  exact List.perm_append_comm_assoc _ _ _

/-- One of the threads takes a step. -/
theorem Course.books_proceed {c : Course σ} (hwhole : c.line.Whole) (outside : List Errand)
    (front behind : List Thread) (t : Thread) :
    (c.books (outside ++ (front ++ [t] ++ behind).filterMap (·.stage.errand?))).Goes c.state.accepting
      ((t.proceed c).1.books
        (outside ++ (front ++ (t.proceed c).2.toList ++ behind).filterMap (·.stage.errand?))) :=
  .before (perm_errands outside front behind (some t))
    (.behind (t.books hwhole _) (perm_errands outside front behind _).symm)

/-- **A response** settles a request, or it changes nothing. -/
theorem State.settleResponse_cases (s : State σ) (id : Json) (outcome : Except ErrorObject Json) :
    (∃ n desk s', id.natural? = some n ∧ s.desk.settle n (outcome.mapError .remote) = .ok desk ∧
        s.settleResponse id outcome = .ok s' ∧ s'.desk = desk) ∨
      (∀ n, id.natural? = some n →
          ∃ fault, s.desk.settle n (outcome.mapError .remote) = .error fault) ∧
        (s.settleResponse id outcome = .ok s ∨ ∃ fault, s.settleResponse id outcome = .error fault) := by
  have hpassOver : ∀ fault, s.passOver fault = .ok s ∨ ∃ fault', s.passOver fault = .error fault' := by
    intro fault
    rw [passOver]
    split
    · exact .inr ⟨fault, rfl⟩
    · exact .inl rfl
  rw [settleResponse]
  cases hid : id.natural? with
  | none => exact .inr ⟨by simp, hpassOver _⟩
  | some n =>
    simp only [settle]
    cases hdesk : s.desk.settle n (outcome.mapError .remote) with
    | ok desk => exact .inl ⟨n, desk, _, rfl, hdesk, rfl, rfl⟩
    | error fault =>
      refine .inr ⟨?_, hpassOver _⟩
      intro n' hn'
      obtain rfl := Option.some.inj hn'
      exact ⟨fault, hdesk⟩

/-- A value that is taken in settles a request, or leaves the desk as it is. -/
theorem State.desk_receive (handler : Handler σ) (s : State σ) (value : Json) :
    (∃ id outcome n, Message.classify value = .ok (.response id outcome) ∧ id.natural? = some n ∧
        s.desk.settle n (outcome.mapError .remote) = .ok (s.receive handler value).state.desk) ∨
      (s.receive handler value).state.desk = s.desk ∧
        ∀ id outcome n, Message.classify value = .ok (.response id outcome) → id.natural? = some n →
          ∃ fault, s.desk.settle n (outcome.mapError .remote) = .error fault := by
  rw [receive]
  cases hclass : Message.classify value with
  | error malformed => exact .inr ⟨rfl, by simp⟩
  | ok message =>
    cases message with
    | request id method params => exact .inr ⟨rfl, by simp⟩
    | notification method params => exact .inr ⟨rfl, by simp⟩
    | response id outcome =>
      rcases (s.record (.routed value)).settleResponse_cases id outcome with
        ⟨n, desk, s', hid, hdesk, hsettle, rfl⟩ | ⟨hidle, hsettle | ⟨fault, hsettle⟩⟩
      · simp only [hsettle]
        exact .inl ⟨id, outcome, n, rfl, hid, hdesk⟩
      all_goals
        simp only [hsettle]
        refine .inr ⟨rfl, ?_⟩
        intro id' outcome' n hsame hid
        cases hsame
        exact hidle n hid

/-- A value that is taken in is put down, and what is told of it is no request. -/
theorem World.books_receive_eq (handler : Handler σ) {w : World σ} (hwhole : w.line.Whole)
    (value : Json) (es : List Errand) :
    (w.receive handler value).books es =
      { w.books es with
        desk := (w.state.receive handler value).state.desk
        routed := w.state.routed ++ [value] } := by
  let c : Course σ := { w.toCourse with state := (w.state.receive handler value).state }
  have hstanding := State.standing_receive handler w.state value
  have hline : c.line = w.line :=
    Course.line_eq (c := w.toCourse) (w.state.intake.take handler value) w.state.phase hstanding Iff.rfl
      (State.queued_receive handler w.state value) rfl
  have htold : (w.receive handler value).books es = c.books es := by
    rcases World.course_receive handler w value with h | ⟨o, replyTo, k, h⟩
    · rw [h]
    · rw [h]
      exact Course.books_conclude (hline ▸ hwhole) o replyTo k
  have hopen : c.state.phase.isOpen = w.state.phase.isOpen :=
    congrArg Phase.isOpen (congrArg Standing.phase hstanding)
  have hrouted : c.state.routed = w.state.routed ++ [value] :=
    congrArg Intake.routed (congrArg Standing.intake hstanding)
  rw [htold, Course.books, hopen, hline, hrouted]
  rfl

/-- **Taking in a value** in the books. -/
theorem World.books_receive (handler : Handler σ) {w : World σ} (hphase : w.state.phase = .reading)
    (hwhole : w.line.Whole) (value : Json) (es : List Errand) :
    (w.books es).Goes w.state.accepting ((w.receive handler value).books es) := by
  have hopen : w.state.phase.isOpen = true := by rw [hphase]; rfl
  rw [books_receive_eq handler hwhole]
  rcases State.desk_receive handler w.state value with
    ⟨id, outcome, n, hclass, hid, hsettle⟩ | ⟨hdesk, hidle⟩
  · exact .settles hopen hclass hid hsettle
  · rw [hdesk]
    exact .passes hopen hidle

theorem Writing.desk {s s' : State σ} (h : Writing s s') : s'.desk = s.desk := by
  cases h with
  | take => unfold State.takeCommand; split <;> rfl
  | push n => unfold State.push; split <;> rfl
  | flush => unfold State.flush; split <;> rfl
  | fail hwriting reason => rfl
  | crash hwriting => rfl

theorem Writing.queued {s s' : State σ} (h : Writing s s') : s'.queued = s.queued := by
  cases h with
  | take => unfold State.takeCommand; split <;> rfl
  | push n =>
    unfold State.push
    split
    · exact (State.queued_record _ _).trans (List.append_nil _)
    · rfl
  | flush => unfold State.flush; split <;> rfl
  | fail hwriting reason => rfl
  | crash hwriting => rfl

namespace State

/-- What was taken in is noted in the history. -/
theorem routed_of_history {s s' : State σ} (h : s'.history = s.history) : s'.routed = s.routed := by
  rw [routed, h, routed]

theorem desk_wakeWriter (s : State σ) : s.wakeWriter.desk = s.desk := by
  unfold wakeWriter
  split
  · rfl
  · split <;> rfl

theorem desk_start (s : State σ) : s.start.desk = s.desk := by
  rw [start]
  split
  · exact desk_wakeWriter _
  · rfl

theorem desk_beginFlushing (s : State σ) (outcome : Except CallFault Unit) :
    (s.beginFlushing outcome).desk = s.desk := by
  rw [beginFlushing, command]
  split
  · exact desk_wakeWriter _
  · rfl

theorem history_beginFlushing (s : State σ) (outcome : Except CallFault Unit) :
    (s.beginFlushing outcome).history = s.history := by
  rw [beginFlushing, command]
  split
  · exact (quiet_wakeWriter _).history
  · rfl

end State

variable {handler : Handler σ} {w w' : World σ} {sc sc' : Scene σ}

/-- A value that is taken in has no request of ours yet. -/
theorem World.errands_receive (handler : Handler σ) (w : World σ) (hloop : w.loop = .waiting)
    (value : Json) : (w.receive handler value).errands = w.errands := by
  obtain ⟨s, -, ⟨loop, k, hloops, -, h⟩ | ⟨reaction, -, h⟩⟩ := w.receive_cases handler value
  · have hnone : loop.thread? = w.loop.thread? := by
      rcases hloops with rfl | ⟨outcome, rfl⟩
      · rfl
      · rw [hloop]
        rfl
    rw [h, errands, errands, atWork, atWork, hnone]
  · rw [h, errands, errands, atWork, atWork, hloop]
    rfl

/-- **What a session does by itself** in the books. -/
theorem Inner.books (h : Inner handler w w') (horder : Orderly w) (hwhole : w.line.Whole)
    (outside : List Errand) :
    (w.books (outside ++ w.errands)).Goes w.state.accepting (w'.books (outside ++ w'.errands)) := by
  -- what leaves the desk, and what was queued and taken in, does not matter
  have hkeeps : ∀ {s : State σ}, s.phase.isOpen = w.state.phase.isOpen → s.desk = w.state.desk →
      s.queued = w.state.queued → s.routed = w.state.routed →
      (w.books (outside ++ w.errands)).Goes w.state.accepting
        (Course.books { w.toCourse with state := s } (outside ++ w.errands)) := by
    intro s hphase hdesk hqueued hrouted
    have hbooks : Course.books { w.toCourse with state := s } (outside ++ w.errands) =
        w.toCourse.books (outside ++ w.errands) :=
      Course.books_congr hphase hdesk rfl hqueued hrouted
    exact hbooks ▸ .keeps _
  have hquiet : ∀ {s : State σ}, s.phase.isOpen = w.state.phase.isOpen → s.desk = w.state.desk →
      s.history = w.state.history →
      (w.books (outside ++ w.errands)).Goes w.state.accepting
        (Course.books { w.toCourse with state := s } (outside ++ w.errands)) :=
    fun hphase hdesk hhistory => hkeeps hphase hdesk (State.queued_of_history hhistory)
      (State.routed_of_history hhistory)
  cases h with
  | start =>
    obtain ⟨phase, hstart⟩ := w.state.quiet_start
    refine hquiet ?_ w.state.desk_start hstart.history
    rcases w.state.standing_start with hs | ⟨hphase, hs⟩
    · exact congrArg Phase.isOpen (State.phase_eq_of_standing hs)
    · have hphase' : w.state.start.phase = .reading := congrArg Standing.phase hs
      rw [hphase, hphase']
      rfl
  | abort =>
    rw [State.abort]
    split
    · exact .ends _
    · exact .keeps _
  | @write s hrunning hwrite =>
    have hrouted : s.routed = w.state.routed := congrArg Intake.routed hwrite.intake
    exact hkeeps (congrArg Phase.isOpen hwrite.phase) hwrite.desk hwrite.queued hrouted
  | await hphase hloop hnext => exact .keeps _
  | @receive value reader hphase hloop hnext =>
    let w₀ : World σ := { w with state := { w.state with reader } }
    have herrands : (w₀.receive handler value).errands = w.errands := w₀.errands_receive handler hloop value
    have hwhole₀ : w₀.line.Whole := hwhole
    rw [herrands]
    exact w₀.books_receive handler hphase hwhole₀ value (outside ++ w.errands)
  | @cease s outcome hphase hloop hcease =>
    have herrands : World.errands { w with state := s, loop := .leaving outcome } = w.errands := by
      rw [World.errands, World.errands, World.atWork, World.atWork, hloop]
      rfl
    rw [herrands]
    cases hcease <;> exact .keeps _
  | @react t hloop =>
    have hbefore : w.atWork = [] ++ [t] ++ w.threads := by
      rw [World.atWork, hloop]
      rfl
    -- the read loop goes on with the thread or gives it away
    let w₁ : World σ := { w with toCourse := (t.proceed w.toCourse).1 }
    have hfollow : (w₁.follow (t.proceed w.toCourse).2).errands ~
        ([] ++ (t.proceed w.toCourse).2.toList ++ w.threads).filterMap fun t : Thread => t.stage.errand? :=
      (w₁.atWork_follow _).filterMap _
    rw [World.errands, hbefore, World.follow_toCourse]
    exact .behind (Course.books_proceed hwhole outside [] w.threads t) (hfollow.symm.append_left outside)
  | @leave outcome hloop =>
    have hphase : w.state.phase = .reading := horder.reading.resolve_left (by simp [hloop])
    have herrands : World.errands { w with state := w.state.stop outcome, loop := .waiting } = w.errands := by
      rw [World.errands, World.errands, World.atWork, World.atWork, hloop]
      rfl
    rw [herrands]
    exact .closes _
  | @proceed t front behind hthreads =>
    have hbefore : w.atWork = w.loop.thread?.toList ++ front ++ [t] ++ behind := by
      rw [World.atWork, hthreads]
      simp
    have hafter : w.loop.thread?.toList ++ (front ++ (t.proceed w.toCourse).2.toList ++ behind) =
        w.loop.thread?.toList ++ front ++ (t.proceed w.toCourse).2.toList ++ behind := by
      simp
    rw [World.errands, hbefore]
    show Books.Goes _ _ (Course.books _ (outside ++ (_ ++ _ : List Thread).filterMap _))
    rw [hafter]
    exact Course.books_proceed hwhole outside _ behind t
  | @drain outcome hphase hthreads =>
    refine hquiet ?_ (w.state.desk_beginFlushing outcome) (w.state.history_beginFlushing outcome)
    rw [w.state.phase_beginFlushing, hphase]
    rfl
  | finish =>
    rw [State.finishFlushing]
    split
    · rename_i hphase hverdict
      exact hquiet (by rw [hphase]; rfl) rfl rfl
    · rename_i hphase hverdict
      exact hquiet (by rw [hphase]; rfl) rfl rfl
    · exact .keeps _

-- ---------------------------------------------------------------------------
-- In a scene
-- ---------------------------------------------------------------------------

/-- The requests of those outside, and of those who handle messages. -/
def Scene.books (sc : Scene σ) : Books := sc.toCourse.books (sc.callers ++ sc.errands)

/-- **Whatever happens in a scene** happens to the books. -/
theorem Happens.books (h : Happens handler sc sc') (horder : Orderly sc.toWorld)
    (hwhole : sc.line.Whole) : sc.books.Goes sc.state.accepting sc'.books := by
  cases h with
  | inner hinner => exact hinner.books horder hwhole sc.callers
  | arrive a => exact .keeps _
  | meet peer => exact .keeps _
  | elapse nanos => exact .keeps _
  | close => exact .keeps _
  | notify method params =>
    have hsaid : (sc.say .outside (.notification method params)).2.books (sc.callers ++ sc.errands) =
        sc.toCourse.books (sc.callers ++ sc.errands) := Course.books_say_of_none hwhole .outside rfl
    show Books.Goes _ _ (Course.books _ (sc.callers ++ sc.errands))
    rw [hsaid]
    exact .keeps _
  | call method params => exact .issues _ sc.state.now sc.state.config.requestTimeout _ _
  | @carry e front behind hcallers =>
    have hbefore : sc.callers ++ sc.errands ~ e :: (front ++ behind ++ sc.errands) := by
      rw [hcallers, List.append_assoc, List.append_assoc]
      exact List.perm_middle
    have hafter : (e.proceed .outside sc.toCourse).2.errand?.toList ++ (front ++ behind ++ sc.errands) ~
        front ++ (e.proceed .outside sc.toCourse).2.errand?.toList ++ behind ++ sc.errands := by
      rw [List.append_assoc front behind, List.append_assoc, List.append_assoc]
      exact List.perm_append_comm_assoc _ _ _
    exact .before hbefore (.behind (e.books .outside hwhole _) hafter)
  | @drop ticket front behind hcallers =>
    have hbefore : sc.callers ++ sc.errands ~ .asking ticket :: (front ++ behind ++ sc.errands) := by
      rw [hcallers, List.append_assoc, List.append_assoc]
      exact List.perm_middle
    exact .before hbefore (.drops rfl)

end EditorLink.Session
