import EditorLink.Proofs.Session.Books
import EditorLink.Proofs.Session.OneAnswer

/-!
# EditorLink — a well-behaved other side

With strict responses a session ends when a response comes that nobody waits for. That does not happen to an
other side which answers each request at most once, and no request that was not written to it, as long as not too
many requests are given up and still unanswered.

How the other side behaves is a condition on a moment: of all that has arrived, each response has the id of a request
whose frame was written to its last byte by then, and no id comes twice. It is required at every moment of a play,
and so is the room for requests that were given up (`HasRoom`); both are conditions on what can be seen from outside
or counted by whoever makes the requests, and neither mentions the table.

What a session does by itself is not restricted. Tasks may ask, wait and give up as they like, timeouts may come before
or behind an answer, and answers may come when their callers are gone.

## Results

* `Scene.Behaves` — how the other side behaves;
* `Books.Fit`, `Books.Fit.step` — the invariant: the ledger is kept, and open while the session reads;
* `Books.Fit.expects` — a response of such an other side is expected;
* `never_blamed` — the session never ends over one.
-/

namespace EditorLink.Session

open Correlation (Desk Outcome Table Ticket)
open Message (CallFault ErrorObject)

variable {σ : Type}

-- ---------------------------------------------------------------------------
-- Responses
-- ---------------------------------------------------------------------------

/-- The id of a response, as it came. -/
def responseId? (value : Json) : Option Json :=
  match Message.classify value with
  | .ok (.response id _) => some id
  | _ => none

/-- The ids of the responses among some values, in order. -/
def responseIds (values : List Json) : List Json := values.filterMap responseId?

/-- The requests that are answered by some values, in order. -/
def answeredBy (values : List Json) : List Nat := (responseIds values).filterMap Json.natural?

/-- The id of a response, as it stands in the value. -/
theorem responseId?_of_response {value id : Json} {outcome : Except ErrorObject Json}
    (h : Message.classify value = .ok (.response id outcome)) : responseId? value = some id := by
  rw [responseId?, h]

/-- Only responses have one. -/
theorem responseId?_eq_some {value id : Json} (h : responseId? value = some id) :
    ∃ outcome, Message.classify value = .ok (.response id outcome) := by
  rw [responseId?] at h
  split at h
  · rename_i outcome hclass
    cases h
    exact ⟨outcome, hclass⟩
  · cases h

/-- Answers are in the order in which their values were taken in. -/
theorem answeredBy_concat (values : List Json) (value : Json) :
    answeredBy (values ++ [value]) = answeredBy values ++ answeredBy [value] := by
  simp only [answeredBy, responseIds, List.filterMap_append]

/-- A response with the number of a request answers that. -/
theorem answeredBy_response {value id : Json} {n : Nat} (h : responseId? value = some id)
    (hid : id.natural? = some n) : answeredBy [value] = [n] := by
  simp [answeredBy, responseIds, h, hid]

theorem answeredBy_of_none {value : Json} (h : responseId? value = none) : answeredBy [value] = [] := by
  simp [answeredBy, responseIds, h]

-- ---------------------------------------------------------------------------
-- The invariant
-- ---------------------------------------------------------------------------

namespace Books

def ledger (b : Books) : Ledger := ⟨b.desk.table, b.errands, b.sent, answeredBy b.routed⟩

/-- Each response that was taken in is the only one to a request that was queued. -/
structure Mannered (b : Books) : Prop where
  asked : ∀ raw ∈ responseIds b.routed, ∃ id ∈ b.sent, raw.natural? = some id
  once : (answeredBy b.routed).Nodup

/-- The ledger is kept, and open as long as the end of reading is still to come. -/
structure Fit (b : Books) : Prop where
  kept : b.ledger.Kept
  opened : b.reading = true → b.desk.table.closed = false

variable {b b' : Books}

/-- **A response of a well-behaved other side** is expected. -/
theorem Fit.expects (h : b.Fit) (hreading : b.reading = true) {value : Json}
    (hmanners : Mannered { b with routed := b.routed ++ [value] }) {id : Json}
    {outcome : Except ErrorObject Json}
    (hclass : Message.classify value = .ok (.response id outcome)) :
    ∃ n, id.natural? = some n ∧ answeredBy [value] = [n] ∧
      ∀ told : Outcome, ∃ done, b.desk.table.settle n told = .ok done ∧
        Ledger.Kept ⟨done.2, b.errands, b.sent, answeredBy b.routed ++ [n]⟩ := by
  have hresponse := responseId?_of_response hclass
  have hmem : id ∈ responseIds (b.routed ++ [value]) := by
    rw [responseIds, List.filterMap_append]
    exact List.mem_append_right _ (by simp [hresponse])
  obtain ⟨n, hsent, hid⟩ := hmanners.asked id hmem
  have hanswered := answeredBy_response hresponse hid
  have honce := hmanners.once
  rw [answeredBy_concat, hanswered] at honce
  have hfirst : n ∉ answeredBy b.routed := by
    intro hmem
    exact (List.nodup_append.mp honce).2.2 n hmem n (List.mem_singleton.mpr rfl) rfl
  exact ⟨n, hid, hanswered, fun told => h.kept.answer (h.opened hreading) hsent hfirst told⟩

/-- Whoever holds a ticket looks for its outcome, or goes away. -/
theorem Fit.giveUp (h : b.Fit) (hroom : b'.ledger.InRoom) {ticket : Ticket} {es : List Errand}
    (herrands : b.errands = .asking ticket :: es)
    (hdesk : b'.desk.table = b.desk.table ∨ b'.desk.table = b.desk.table.abandon ticket.id)
    (hsent : b'.sent = b.sent) (hrouted : b'.routed = b.routed) :
    Ledger.Kept ⟨b'.desk.table, .asking ticket :: es, b.sent, answeredBy b.routed⟩ ∧
      b'.desk.table.closed = b.desk.table.closed := by
  have hkept : Ledger.Kept ⟨b.desk.table, .asking ticket :: es, b.sent, answeredBy b.routed⟩ :=
    herrands ▸ h.kept
  rcases hdesk with hdesk | hdesk
  · rw [hdesk]
    exact ⟨hkept, rfl⟩
  · rw [ledger, hdesk, hsent, hrouted] at hroom
    rw [hdesk]
    exact ⟨hkept.abandon hroom, (b.desk.table.step_abandon ticket.id).2.2.2⟩

/-- **Whatever happens to the books**, they stay fit if the other side behaves and there is room. -/
theorem Fit.step {taking : Bool} (h : b.Fit) (hgo : b.Goes taking b') (hmanners : b'.Mannered)
    (hroom : b'.ledger.InRoom) : b'.Fit := by
  induction hgo with
  | keeps b => exact h
  | before hperm hgo ih => exact ih ⟨h.kept.perm hperm, h.opened⟩ hmanners hroom
  | behind hgo hperm ih =>
    have hfit := ih h ⟨hmanners.asked, hmanners.once⟩ hroom
    exact ⟨hfit.kept.perm hperm, hfit.opened⟩
  | issues b now timeout method params =>
    have hid : b.desk.table.register.1 = b.desk.table.nextId := by
      rw [Table.register]
      split <;> rfl
    refine ⟨h.kept.issue hid method params, ?_⟩
    intro hreading
    have hclosed := b.desk.table.step_register.2.2.2
    exact hclosed.trans (h.opened hreading)
  | sends hes =>
    have hkept := h.kept
    rw [ledger, hes] at hkept
    exact ⟨hkept.send, h.opened⟩
  | fails hes hshut =>
    have hkept := h.kept
    rw [ledger, hes] at hkept
    exact ⟨hkept.fail .closed, h.opened⟩
  | @refuses b ticket fault es hes =>
    have hkept := h.kept
    rw [ledger, hes] at hkept
    have hunsent : ticket.id ∉ b.sent := hkept.unsent _ List.mem_cons_self rfl
    have htable := Desk.table_of_refuse (fun hmem => hunsent (hkept.abandoned _ hmem).1) fault
    refine ⟨?_, ?_⟩
    · rw [ledger, htable]
      exact hkept.refuse
    · rw [htable]
      exact h.opened
  | @polls b ticket es hes now =>
    obtain ⟨hkept, hclosed⟩ := h.giveUp hroom hes (ticket.table_of_poll now _) rfl rfl
    exact ⟨hkept.forget, fun hreading => hclosed.trans (h.opened hreading)⟩
  | @drops b ticket es hes =>
    obtain ⟨hkept, hclosed⟩ := h.giveUp hroom hes (ticket.table_of_discard _) rfl rfl
    exact ⟨hkept.forget, fun hreading => hclosed.trans (h.opened hreading)⟩
  | settles hreading hclass hid hsettle =>
    obtain ⟨n, hid', hanswered, hexpected⟩ :=
      h.expects hreading ⟨hmanners.asked, hmanners.once⟩ hclass
    obtain rfl := Option.some.inj (hid.symm.trans hid')
    obtain ⟨done, hdone, hkept⟩ := hexpected _
    obtain ⟨done', hdone', htable, -⟩ := Desk.of_settle hsettle
    have hclosed := Desk.closed_of_settle hsettle
    obtain rfl := Except.ok.inj (hdone.symm.trans hdone')
    refine ⟨?_, fun hreading => hclosed.trans (h.opened hreading)⟩
    rw [ledger, htable, answeredBy_concat, hanswered]
    exact hkept
  -- a value that settles nothing is no response
  | @passes b value hreading hidle =>
    have hnone : responseId? value = none := by
      rw [Option.eq_none_iff_forall_ne_some]
      intro id hresponse
      obtain ⟨outcome, hclass⟩ := responseId?_eq_some hresponse
      obtain ⟨n, hid, -, hexpected⟩ := h.expects hreading ⟨hmanners.asked, hmanners.once⟩ hclass
      obtain ⟨done, hdone, -⟩ := hexpected (outcome.mapError .remote)
      obtain ⟨fault, hsettle⟩ := hidle id outcome n hclass hid
      rw [Desk.settle, hdone] at hsettle
      cases hsettle
    refine ⟨?_, h.opened⟩
    rw [ledger, answeredBy_concat, answeredBy_of_none hnone, List.append_nil]
    exact h.kept
  | ends b => exact ⟨h.kept, by simp⟩
  | closes b => exact ⟨h.kept.close, by simp⟩

end Books

-- ---------------------------------------------------------------------------
-- The other side
-- ---------------------------------------------------------------------------

/-- The sayings whose frames lie wholly within the first `n` bytes. -/
def sayingsWithin (n : Nat) : List Saying → List Saying
  | [] => []
  | m :: rest =>
    if m.frame.length ≤ n then m :: sayingsWithin (n - m.frame.length) rest else []

/-- What was written to the last byte was said first. -/
theorem sayingsWithin_front (n : Nat) (said : List Saying) : sayingsWithin n said <+: said := by
  induction said generalizing n with
  | nil => exact List.prefix_rfl
  | cons m rest ih =>
    rw [sayingsWithin]
    split
    · exact List.cons_prefix_cons.mpr ⟨rfl, ih _⟩
    · exact List.nil_prefix

/-- The ids of the requests that were written to their last byte. -/
def Line.asked (l : Line) : List Nat :=
  (sayingsWithin l.output.length l.entered).filterMap (·.message.requestId?)

/-- A request that was written was queued. -/
theorem Line.mem_sent_of_mem_asked {l : Line} {id : Nat} (h : id ∈ l.asked) : id ∈ l.sent :=
  ((sayingsWithin_front _ _).filterMap _).subset h

namespace Scene

/-- The values whose frames have arrived, up to the first that cannot be read. -/
def delivered (sc : Scene σ) : List Json := sc.inbound.readAll.1

/-- The other side has answered requests only that were written to it, by their ids, and each at most once. -/
def Behaves (sc : Scene σ) : Prop :=
  (∀ raw ∈ responseIds sc.delivered, ∃ id ∈ sc.line.asked, raw.natural? = some id) ∧
    (answeredBy sc.delivered).Nodup

instance (sc : Scene σ) : Decidable sc.Behaves := by unfold Behaves; infer_instance

/-- No more than 1024 requests are given up for which no answer was taken in, as long as answers are taken. -/
def HasRoom (sc : Scene σ) : Prop := sc.books.ledger.InRoom

instance (sc : Scene σ) : Decidable sc.HasRoom := by unfold HasRoom; infer_instance

end Scene

variable {handler : Handler σ} {sc sc' : Scene σ}

/-- What was taken in of what a well-behaved other side has sent. -/
theorem Scene.Behaves.mannered (h : sc.Behaves) (hrouted : sc.state.routed <+: sc.delivered) :
    sc.books.Mannered := by
  have hresponses : responseIds sc.state.routed <+: responseIds sc.delivered := hrouted.filterMap _
  constructor
  · intro raw hraw
    obtain ⟨id, hasked, hid⟩ := h.1 raw (hresponses.subset hraw)
    exact ⟨id, Line.mem_sent_of_mem_asked hasked, hid⟩
  · exact h.2.sublist (hresponses.filterMap _).sublist

/-- Nobody is blamed for a response by the end that is settled. -/
def World.Unblamed (w : World σ) : Prop := ∀ raw, w.outcome? ≠ some (.error (.unknownId raw))

/-- **Nobody is blamed** for a response that is expected. -/
theorem World.Reads.unblamed {w w' : World σ} (h : w.Reads handler w') (hwhole : w.line.Whole)
    (hunblamed : w.Unblamed)
    (hexpected : ∀ value, w.state.phase = .reading → w'.state.routed = w.state.routed ++ [value] →
      w'.line.sent = w.line.sent → ∀ id outcome, Message.classify value = .ok (.response id outcome) →
        ∃ n desk, id.natural? = some n ∧ w.state.desk.settle n (outcome.mapError .remote) = .ok desk) :
    w'.Unblamed := by
  intro raw hblamed
  cases h with
  | leaves hleaves =>
    rcases hleaves.outcome with hsame | ⟨verdict, hverdict, -, hends⟩
    · exact hunblamed raw (hsame ▸ hblamed)
    -- a writer does not speak of responses
    · have hverdict' : verdict = .error (.unknownId raw) := Option.some.inj (hends.symm.trans hblamed)
      cases hwriter : w.state.writer <;> simp_all [State.Writer.verdict?]
  | waits hphase hloop hnext =>
    exact hunblamed raw ((World.outcome?_congr rfl rfl).symm.trans hblamed)
  | @takes value reader hphase hloop hnext =>
    let w₀ : World σ := { w with state := { w.state with reader } }
    rcases w₀.outcome?_receive handler hphase hloop value with
      hopen | ⟨id, outcome, fault, hclass, hsettle, -⟩
    · rw [hopen] at hblamed
      cases hblamed
    · have hwhole₀ : w₀.line.Whole := hwhole
      have hsent : (w₀.receive handler value).line.sent = w.line.sent :=
        congrArg Books.sent (w₀.books_receive_eq handler hwhole₀ value [])
      obtain ⟨n, desk, hid, hdesk⟩ :=
        hexpected value hphase (w₀.noted_receive handler value).2.2.1 hsent id outcome hclass
      rcases (w₀.state.record (.routed value)).settleResponse_cases id outcome with
        ⟨_, _, _, -, -, hsettled, -⟩ | ⟨hidle, -⟩
      · rw [hsettled] at hsettle
        cases hsettle
      · obtain ⟨fault', hdesk'⟩ := hidle n hid
        cases hdesk.symm.trans hdesk'
  | @ceases s outcome hphase hloop hcease =>
    have hphase' : s.phase = .reading := (State.phase_eq_of_standing hcease.standing).trans hphase
    rw [World.outcome?, hphase'] at hblamed
    have houtcome : outcome = .error (.unknownId raw) := Option.some.inj hblamed
    cases hcease <;> cases houtcome

/-- **Whatever happens**, the books stay fit and nobody is blamed. -/
theorem Happens.unblamed (h : Happens handler sc sc') (horder : Orderly sc.toWorld)
    (hwhole : sc.line.Whole) (hfit : sc.books.Fit) (hmanners : sc'.books.Mannered)
    (hunblamed : sc.Unblamed) : sc'.Unblamed := by
  obtain ⟨a, rfl⟩ | ⟨-, hreads⟩ := h.reads horder
  · exact hunblamed
  · refine hreads.unblamed hwhole hunblamed ?_
    intro value hphase hrouted hsent id outcome hclass
    have hreading : sc.books.reading = true := congrArg Phase.isOpen hphase
    have hrouted' : sc'.books.routed = sc.books.routed ++ [value] := hrouted
    have hsent' : sc'.books.sent = sc.books.sent := hsent
    have hmanners' : Books.Mannered { sc.books with routed := sc.books.routed ++ [value] } := by
      obtain ⟨hasked, honce⟩ := hmanners
      rw [hrouted', hsent'] at hasked
      rw [hrouted'] at honce
      exact ⟨hasked, honce⟩
    obtain ⟨n, hid, -, hexpected⟩ := hfit.expects hreading hmanners' hclass
    obtain ⟨done, hdone, -⟩ := hexpected (outcome.mapError .remote)
    refine ⟨n, sc.state.desk.take done.1 done.2, hid, ?_⟩
    have hdone' : sc.state.desk.table.settle n (outcome.mapError .remote) = .ok done := hdone
    rw [Desk.settle, hdone']
    rfl

/-- **A well-behaved other side is never blamed.** Whatever those outside and the handler do, in whatever order, and
however requests are given up: if the other side answers only what was written to it, each request at most
once, and no more than 1024 requests are at any moment given up and still unanswered, then a session, strict or
not, does not end over a response that it does not know. -/
theorem never_blamed {config : Config} {memory : σ}
    (h : Plays handler (fun sc => sc.Behaves ∧ sc.HasRoom) (Scene.create config memory) sc) (raw : Json) :
    sc.state.phase ≠ .ended (.error (.unknownId raw)) := by
  have hinv : sc.books.Fit ∧ sc.Unblamed := by
    induction h with
    | refl => exact ⟨⟨Ledger.kept_empty, fun _ => rfl⟩, nofun⟩
    | @tail sc sc' hplays hlast ih =>
      obtain ⟨hfit, hunblamed⟩ := ih
      obtain ⟨hhappens, hbehaves, hroom⟩ := hlast
      have horder := orderly_plays hplays
      have hwhole := whole_run (Plays.runs hplays)
      have hmanners := hbehaves.mannered (routed_plays (hplays.tail ⟨hhappens, hbehaves, hroom⟩))
      exact ⟨hfit.step (hhappens.books horder hwhole) hmanners hroom,
        hhappens.unblamed horder hwhole hfit hmanners hunblamed⟩
  intro hended
  exact hinv.2 raw (World.outcome?_of_phase (by rw [hended]; rfl))

/-- A request is written and given up, and then its answer comes. -/
def lateAnswer : List Deed :=
  [.start, .call "m" .null, .carry 0, .take, .push 100, .flush, .drop 0,
    .arrive (.data (Framing.encode (Message.response (.number 0) (.ok .null)))), .read,
    .arrive .ended, .read, .read, .drain, .take, .finish]

/-- An answer that comes late. -/
theorem never_blamed_late :
    ∃ sc : Scene Unit,
      Plays Rehearsal.handler (fun sc => sc.Behaves ∧ sc.HasRoom)
        (Scene.create { strictResponses := true } ()) sc ∧
      answeredBy sc.state.routed = [0] ∧ sc.state.phase = .ended (.ok ()) ∧
      ∀ raw, sc.state.phase ≠ .ended (.error (.unknownId raw)) := by
  have hplay : (Scene.play Rehearsal.handler (fun sc => decide (sc.Behaves ∧ sc.HasRoom)) lateAnswer
      (Scene.create { strictResponses := true } ())).any (fun sc =>
        sc.state.phase.endedWell && answeredBy sc.state.routed == [0]) = true := by
    decide +kernel
  obtain ⟨sc, hscene, hfacts⟩ := (Option.any_eq_true _ _).mp hplay
  rw [Bool.and_eq_true, beq_iff_eq] at hfacts
  have hplays : Plays Rehearsal.handler (fun sc => sc.Behaves ∧ sc.HasRoom)
      (Scene.create { strictResponses := true } ()) sc :=
    plays_of_play of_decide_eq_true hscene
  exact ⟨sc, hplays, hfacts.2, Phase.eq_of_endedWell hfacts.1, never_blamed hplays⟩

end EditorLink.Session
