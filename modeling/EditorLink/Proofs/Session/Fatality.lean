import EditorLink.Proofs.Correlation.Awaiting
import EditorLink.Proofs.Session.Numbering

/-!
# EditorLink — faults that end a session, and faults that do not

A fault says of itself whether it ends the whole session. A session ends with none but such; the caller of a request
is told of one only when the connection is gone for it, which is never said before the desk is closed or the writer
is at its end.

The first part is about the end. A session settles what it ends with when its reader gives a fault, when a response is
not expected and it is strict, or when its writer broke; a body that cannot be read is a fault of the frame, and fatal.
The invariant follows the outcome from the moment at which it is settled (`World.Reads.fatal`).

The second part is about callers. Of all that is put down for them only "closed" is fatal: a response is settled with
the error of the other side, and a ticket whose time is up brings a timeout. "Closed" is put down by closing the desk,
by registering at a closed one, or for a request that could not be queued; the last happens only when frames are not
taken any more. A session that was given up before it was started takes no frames either, and is left out of the
statement about the writer.

## Results

* `Framing.FrameReader.fault_of_next` — what a reader faults is what it reads;
* `Line.Goes.taking`, `Line.Goes.failed` — a line is shut once and for all, and breaks for a reason;
* `World.Reads.fatal` — the invariant of the end that is settled;
* `Answerable`, `Answerable.step` — the invariant of tickets, and of what is put down for them;
* `fatal_faults` — the main result.
-/

namespace EditorLink.Framing

-- ---------------------------------------------------------------------------
-- Faults of reading
-- ---------------------------------------------------------------------------

/-- A body can only be unreadable. -/
theorem Decoder.fault_of_decodeBody {d d' : Decoder} {length : Nat} {fault : Fault}
    (h : d.decodeBody length = (.error fault, d')) : ∃ text, fault = .invalidBody text := by
  rw [decodeBody] at h
  split at h
  · cases h
  · rw [parseBody] at h
    split at h <;> cases h
    exact ⟨_, rfl⟩

/-- A decoder that takes in frames faults none that is to be written. -/
theorem Decoder.fault_of_decode {d d' : Decoder} {fault : Fault} (h : d.decode = (.error fault, d'))
    (text : Json.TextFault) : fault ≠ .unwritable text := by
  rintro rfl
  cases hwait : d.awaiting with
  | body length =>
    rw [decode_of_body hwait] at h
    obtain ⟨_, hbody⟩ := fault_of_decodeBody h
    cases hbody
  | header =>
    cases hmark : endMark? d.skipLineBreaks.buffer with
    | none =>
      rw [decode_of_no_mark hwait hmark] at h
      split at h <;> cases h
    | some stop =>
      rw [decode_of_mark hwait hmark] at h
      cases hblock : Header.accept d.maxFrameBytes (d.skipLineBreaks.buffer.take stop) with
      | ok length =>
        rw [hblock] at h
        obtain ⟨_, hbody⟩ := fault_of_decodeBody h
        cases hbody
      | error reason =>
        rw [hblock] at h
        cases h
        rw [Header.accept] at hblock
        split at hblock
        · cases hblock
        · split at hblock
          · rename_i hlength
            cases hblock
            rcases Header.fault_of_lengthOf hlength with hfault | ⟨_, hfault⟩ | hfault <;> cases hfault
          · split at hblock <;> cases hblock

/-- At the end of a stream a frame can only be cut off. -/
theorem Decoder.fault_of_finish {d : Decoder} {fault : Fault} (h : d.finish = .error fault) :
    fault = .unexpectedEnd := by
  rw [finish] at h
  split at h
  · exact (Except.error.inj h).symm
  · split at h
    · cases h
    · exact (Except.error.inj h).symm

/-- **A reader** faults nothing that is to be written. -/
theorem FrameReader.fault_of_next {r r' : FrameReader} {fault : Fault} (h : r.next = (.fault fault, r'))
    (text : Json.TextFault) : fault ≠ .unwritable text := by
  have hfinds := Finds.of_next h
  clear h
  generalize hreading : Reading.fault fault = reading at hfinds
  induction hfinds with
  | frame hdecode => cases hreading
  | fault hdecode =>
    cases hreading
    exact Decoder.fault_of_decode hdecode text
  | nothing hdecode hread => cases hreading
  | closed failure hdecode hread =>
    rintro rfl
    unfold atClose at hreading
    split at hreading
    · cases hreading
    · split at hreading
      · cases hreading
      · rename_i hfinish
        cases hreading
        cases Decoder.fault_of_finish hfinish
  | data hdecode hread hrest ih => exact ih hreading

end EditorLink.Framing

namespace EditorLink.Session

open Correlation (Desk Ticket)
open Message (CallFault)
open scoped List

variable {σ : Type}

-- ---------------------------------------------------------------------------
-- The end of the line
-- ---------------------------------------------------------------------------

namespace Line

variable {l l' : Line}

/-- A line that is shut is not opened again. -/
theorem Goes.taking (h : l.Goes l') (hshut : l.taking = false) : l'.taking = false := by
  cases h with
  | keeps => exact hshut
  | speaks m =>
    rw [say, if_neg (by simp [hshut])]
    exact hshut
  | stops =>
    rw [stop, if_neg (by simp [hshut])]
    exact hshut
  | ends => rfl
  | takes htaking hleft hqueue => exact hshut
  | halts htaking hleft hqueue => rfl
  | pushes htaking hleft n hwriter => exact hshut
  | breaks htaking hleft hbroken => rfl

/-- A writer fails for a reason of the stream. -/
theorem Goes.failed (h : l.Goes l') {fault : Framing.Fault} (hfailed : l'.writer = .failed fault) :
    l.writer = .failed fault ∨ ∃ reason, fault = .stream reason := by
  cases h with
  | keeps => exact .inl hfailed
  | speaks m =>
    rw [say] at hfailed
    split at hfailed <;> exact .inl hfailed
  | stops =>
    rw [stop] at hfailed
    split at hfailed <;> exact .inl hfailed
  | ends => exact .inl hfailed
  | takes htaking hleft hqueue => cases hfailed
  | halts htaking hleft hqueue => cases hfailed
  | pushes htaking hleft n hwriter =>
    obtain rfl : _ = Writer.failed fault := hfailed
    cases hwriter
  | breaks htaking hleft hbroken =>
    obtain rfl : _ = Writer.failed fault := hfailed
    rcases hbroken with ⟨reason, hreason⟩ | hcrashed
    · exact .inr ⟨reason, Writer.failed.inj hreason⟩
    · cases hcrashed

end Line

variable {handler : Handler σ} {config : Config} {memory : σ} {w w' : World σ}

/-- **A writer fails** for a reason that its sink gives. -/
theorem failed_run (hrun : Runs handler (World.create config memory) w) {fault : Framing.Fault}
    (hfailed : w.state.writer = .failed fault) : ∃ reason, fault = .stream reason := by
  have hreasons := Line.along (P := fun l => ∀ fault, l.writer = .failed fault → ∃ reason, fault = .stream reason)
    (fun h hgo fault hfailed => (hgo.failed hfailed).elim (h fault) id) (orderly_create config memory) nofun hrun
  exact hreasons fault hfailed

-- ---------------------------------------------------------------------------
-- The end of a session
-- ---------------------------------------------------------------------------

/-- What a session is to end with, if it is a fault, is a fatal one. -/
def World.EndsFatally (w : World σ) : Prop :=
  ∀ fault, w.outcome? = some (.error fault) → fault.isFatal = true

/-- The words of a writer at its end are fatal. -/
theorem fatal_of_verdict? {writer : Writer} {fault : CallFault}
    (hreason : ∀ fault, writer = .failed fault → ∃ reason, fault = .stream reason)
    (h : State.Writer.verdict? writer = some (.error fault)) : fault.isFatal = true := by
  cases writer with
  | failed reason =>
    cases h
    obtain ⟨_, rfl⟩ := hreason reason rfl
    rfl
  | crashed =>
    cases h
    rfl
  | ready => cases h
  | writing left => cases h
  | stopped => cases h

/-- Whoever is not waited for is not known. -/
theorem State.fault_of_settle {s : State σ} {n : Nat} {outcome : Correlation.Outcome} {fault : CallFault}
    (h : s.settle n outcome = .error fault) : ∃ id, fault = .unknownId id := by
  rw [settle, Desk.settle, Correlation.Table.settle] at h
  split at h
  · cases h
  · split at h <;> cases h
    exact ⟨_, rfl⟩

/-- A response that ends a session is blamed on its id. -/
theorem State.fault_of_settleResponse {s : State σ} {id : Json} {outcome : Except Message.ErrorObject Json}
    {fault : CallFault} (h : s.settleResponse id outcome = .error fault) : ∃ id, fault = .unknownId id := by
  have hpassOver : ∀ {reason}, s.passOver reason = .error fault → fault = reason := by
    intro reason hpass
    rw [passOver] at hpass
    split at hpass <;> cases hpass
    rfl
  rw [settleResponse] at h
  split at h
  · exact ⟨_, hpassOver h⟩
  · split at h
    · cases h
    · rename_i hsettle
      obtain rfl := hpassOver h
      exact fault_of_settle hsettle

/-- A fault of a frame that was read is fatal. -/
theorem fatal_of_frame {fault : Framing.Fault} (h : ∀ text, fault ≠ .unwritable text) :
    (CallFault.frame fault).isFatal = true := by
  cases fault with
  | unwritable text => exact absurd rfl (h text)
  | _ => rfl

/-- **A session ends fatally**, if it ends with a fault: one of the reader, one of the writer, or a response that is
not expected. -/
theorem World.Reads.fatal (h : w.Reads handler w') (hfatal : w.EndsFatally)
    (hreason : ∀ fault, w.state.writer = .failed fault → ∃ reason, fault = .stream reason) : w'.EndsFatally := by
  intro fault hends
  cases h with
  | leaves hleaves =>
    rcases hleaves.outcome with hsame | ⟨verdict, hverdict, -, hends'⟩
    · exact hfatal fault (hsame ▸ hends)
    · obtain rfl := Option.some.inj (hends'.symm.trans hends)
      exact fatal_of_verdict? hreason hverdict
  | waits hphase hloop hnext => exact hfatal fault hends
  | @takes value reader hphase hloop hnext =>
    let w₀ : World σ := { w with state := { w.state with reader } }
    rcases w₀.outcome?_receive handler hphase hloop value with hopen | ⟨id, outcome, fault', -, hsettle, hends'⟩
    · rw [hopen] at hends
      cases hends
    · obtain rfl := Except.error.inj (Option.some.inj (hends'.symm.trans hends))
      obtain ⟨_, rfl⟩ := State.fault_of_settleResponse hsettle
      rfl
  | @ceases s outcome hphase hloop hcease =>
    have hphase' : s.phase = .reading := (State.phase_eq_of_standing hcease.standing).trans hphase
    rw [World.outcome?, hphase'] at hends
    have houtcome : outcome = .error fault := Option.some.inj hends
    cases hcease with
    | fault hnext =>
      cases houtcome
      exact fatal_of_frame (Framing.FrameReader.fault_of_next hnext)
    | ended hnext => cases houtcome
    | closed hasked => cases houtcome

/-- **A session ends** with no other faults. -/
theorem fatal_plays {holds : Scene σ → Prop} {sc : Scene σ}
    (h : Plays handler holds (Scene.create config memory) sc) : sc.EndsFatally := by
  induction h with
  | refl =>
    intro fault hends
    cases hends
  | tail hplays hlast ih =>
    rcases hlast.1.reads (orderly_plays hplays) with ⟨a, rfl⟩ | ⟨-, hreads⟩
    · exact ih
    · exact hreads.fatal ih fun fault => failed_run (Plays.runs hplays)

-- ---------------------------------------------------------------------------
-- Tickets
-- ---------------------------------------------------------------------------

/-- There is a reason to tell callers that the connection is gone: the desk is closed, or frames are not taken. -/
def Gone (taking : Bool) (d : Desk) : Prop := d.table.closed = true ∨ taking = false

/-- The invariant of a desk and of requests under way, while frames are taken or not: each ticket is known at the desk
and has brought nothing yet, and nobody is refused, or told that the connection is gone, without a reason. -/
structure Answerable (taking : Bool) (d : Desk) (es : List Errand) : Prop where
  fresh : ∀ e ∈ es, e.ticket.done = false
  known : ∀ e ∈ es, d.Knows e.ticket.id
  refused : ∀ ticket fault, .refused ticket fault ∈ es → taking = false
  told : ∀ δ ∈ d.uncollected, δ.outcome = .error .closed → Gone taking d

theorem answerable_empty (taking : Bool) : Answerable taking {} [] where
  fresh _ he := absurd he List.not_mem_nil
  known _ he := absurd he List.not_mem_nil
  refused _ _ he := absurd he List.not_mem_nil
  told _ hδ := absurd hδ List.not_mem_nil

namespace Answerable

variable {taking taking' : Bool} {d d' : Desk} {e : Errand} {es es' : List Errand}

theorem perm (h : Answerable taking d es) (hperm : es ~ es') : Answerable taking d es' where
  fresh e he := h.fresh e (hperm.mem_iff.mpr he)
  known e he := h.known e (hperm.mem_iff.mpr he)
  refused ticket fault hmem := h.refused ticket fault (hperm.mem_iff.mpr hmem)
  told := h.told

/-- Frames that are not taken any more are a reason. -/
theorem shut (h : Answerable taking d es) (hshut : taking = false → taking' = false) : Answerable taking' d es where
  fresh := h.fresh
  known := h.known
  refused ticket fault hmem := hshut (h.refused ticket fault hmem)
  told δ hδ hclosed := (h.told δ hδ hclosed).imp_right hshut

theorem tail (h : Answerable taking d (e :: es)) : Answerable taking d es where
  fresh := (List.forall_mem_cons.mp h.fresh).2
  known := (List.forall_mem_cons.mp h.known).2
  refused ticket fault hmem := h.refused ticket fault (List.mem_cons_of_mem e hmem)
  told := h.told

theorem cons (h : Answerable taking d es) (hfresh : e.ticket.done = false) (hknown : d.Knows e.ticket.id)
    (hrefused : ∀ ticket fault, e = .refused ticket fault → taking = false) : Answerable taking d (e :: es) where
  fresh := List.forall_mem_cons.mpr ⟨hfresh, h.fresh⟩
  known := List.forall_mem_cons.mpr ⟨hknown, h.known⟩
  refused ticket fault hmem :=
    (List.mem_cons.mp hmem).elim (fun heq => hrefused ticket fault heq.symm) (h.refused ticket fault)
  told := h.told

/-- A request that is another step on its way, with the same ticket. -/
theorem next {e' : Errand} (h : Answerable taking d (e :: es)) (hticket : e'.ticket = e.ticket)
    (hrefused : ∀ ticket fault, e' = .refused ticket fault → taking = false) : Answerable taking d (e' :: es) :=
  h.tail.cons (hticket ▸ h.fresh e List.mem_cons_self) (hticket ▸ h.known e List.mem_cons_self) hrefused

/-- Something is done at the desk that makes it forget none of these tickets, and tells nobody anything without a
reason. -/
theorem goes (h : Answerable taking d es) (hgo : d.Goes d') (hknown : ∀ e ∈ es, d'.Knows e.ticket.id)
    (htold : ∀ δ ∈ d'.uncollected, δ ∈ d.uncollected ∨ (δ.outcome = .error .closed → Gone taking d')) :
    Answerable taking d' es where
  fresh := h.fresh
  known := hknown
  refused := h.refused
  told δ hδ hclosed := by
    rcases htold δ hδ with hold | hnew
    · exact (h.told δ hold hclosed).imp_left hgo.closed
    · exact hnew hclosed

theorem register (h : Answerable taking d es) : Answerable taking d.register.2 es := by
  refine h.goes .registers (fun e he => (h.known e he).register) ?_
  intro δ hδ
  have hmem : δ ∈ (d.table.step .register).1 ++ d.uncollected := hδ
  refine (List.mem_append.mp hmem).symm.imp_right ?_
  -- only at a closed desk somebody who registers is told something
  intro hnew _
  have hclosed : d.table.closed = true := (Correlation.Table.reaches_of_mem_step hnew).1.1
  exact .inl (Desk.Goes.registers.closed hclosed)

theorem settle (h : Answerable taking d es) {n : Nat} {outcome : Correlation.Outcome}
    (hsettle : d.settle n outcome = .ok d') (hgone : outcome = .error .closed → Gone taking d') :
    Answerable taking d' es := by
  refine h.goes (.settles hsettle) (fun e he => (h.known e he).settle hsettle) ?_
  intro δ hδ
  rcases Desk.uncollected_of_settle hsettle hδ with rfl | hold
  · exact .inr hgone
  · exact .inl hold

theorem closeAll (h : Answerable taking d es) : Answerable taking d.closeAll.2 es :=
  h.goes .closes (fun e he => (h.known e he).closeAll) fun _ _ => .inr fun _ => .inl rfl

/-- Whoever gets an outcome or goes away leaves what is there for others. -/
theorem poll {ticket : Ticket} (h : Answerable taking d es) (hothers : ∀ e ∈ es, e.ticket.id ≠ ticket.id)
    (now : Nat) : Answerable taking (ticket.poll now d).2.2 es :=
  h.goes (.polls ticket now) (fun e he => (h.known e he).poll (hothers e he) now)
    fun _ hδ => .inl (ticket.uncollected_of_poll now d hδ)

theorem discard {ticket : Ticket} (h : Answerable taking d es) (hothers : ∀ e ∈ es, e.ticket.id ≠ ticket.id) :
    Answerable taking (ticket.discard d) es :=
  h.goes (.discards ticket) (fun e he => (h.known e he).discard (hothers e he))
    fun _ hδ => .inl (ticket.uncollected_of_discard d ▸ hδ)

end Answerable

variable {taking : Bool} {b b' : Books}

theorem ne_of_nodup {e : Errand} {es : List Errand} (h : (heldIds (e :: es)).Nodup) :
    ∀ e' ∈ es, e'.ticket.id ≠ e.ticket.id := by
  intro e' he' heq
  have hmem : e'.ticket.id ∈ heldIds es := List.mem_map_of_mem he'
  rw [heq] at hmem
  exact (List.nodup_cons.mp h).1 hmem

/-- **Whatever happens to the books**, tickets are answerable. -/
theorem Answerable.step (h : Answerable taking b.desk b.errands) (hdistinct : (heldIds b.errands).Nodup)
    (hgo : b.Goes taking b') : Answerable taking b'.desk b'.errands := by
  induction hgo with
  | keeps b => exact h
  | before hperm hgo ih => exact ih (h.perm hperm) ((hperm.map _).nodup_iff.mp hdistinct)
  | behind hgo hperm ih => exact (ih h hdistinct).perm hperm
  | issues b now timeout method params =>
    refine h.register.cons rfl ?_ fun _ _ heq => nomatch heq
    show b.desk.register.2.Knows b.desk.register.1
    rw [b.desk.id_register]
    exact b.desk.knows_register
  | sends hes =>
    rw [hes] at h
    exact h.next rfl fun _ _ heq => nomatch heq
  | fails hes hshut =>
    rw [hes] at h
    exact h.next rfl fun _ _ _ => hshut
  | @refuses b ticket fault es hes =>
    rw [hes] at h
    have hshut : taking = false := h.refused ticket fault List.mem_cons_self
    have hasking : Answerable taking b.desk (.asking ticket :: es) :=
      h.next rfl fun _ _ heq => nomatch heq
    cases hsettle : b.desk.settle ticket.id (.error fault) with
    | error reason => exact hasking
    | ok desk => exact hasking.settle hsettle fun _ => .inr hshut
  | polls hes now =>
    rw [hes] at h hdistinct
    exact h.tail.poll (ne_of_nodup hdistinct) now
  | drops hes =>
    rw [hes] at h hdistinct
    exact h.tail.discard (ne_of_nodup hdistinct)
  | @settles b value id outcome n desk hreading hclass hid hsettle =>
    refine h.settle hsettle fun hclosed => ?_
    -- the other side does not speak for the connection
    cases outcome <;> cases hclosed
  | passes hreading hidle => exact h
  | ends b => exact h
  | closes b => exact h.closeAll

/-- **Whatever happens**, whoever asks has a ticket that will bring something. -/
theorem answerable_plays {holds : Scene σ → Prop} {sc : Scene σ}
    (h : Plays handler holds (Scene.create config memory) sc) :
    Answerable sc.state.accepting sc.state.desk (sc.callers ++ sc.errands) := by
  induction h with
  | refl => exact answerable_empty true
  | @tail sc sc' hplays hlast ih =>
    have horder := orderly_plays hplays
    have hgo := hlast.1.books horder (whole_run (Plays.runs hplays))
    have hshut : sc.state.accepting = false → sc'.state.accepting = false := (hlast.1.step.line horder).taking
    exact (Answerable.step (b := sc.books) ih (numbered_plays hplays).held.nodup hgo).shut hshut

/-- Frames are taken in a session that was started until its writer is at its end. -/
theorem State.writer_of_not_accepting {s : State σ} (hshut : s.accepting = false) (hphase : s.phase ≠ .discarded) :
    s.writer = .stopped ∨ s.writer.isBroken = true := by
  have hleft : ∀ left, s.writer.left? ≠ some left := by
    intro left hleft
    have htaking : s.accepting = true := (accepting_iff s).mpr ⟨hphase, left, hleft⟩
    rw [hshut] at htaking
    cases htaking
  cases hwriter : s.writer with
  | ready => exact absurd (congrArg Writer.left? hwriter) (hleft [])
  | writing left => exact absurd (congrArg Writer.left? hwriter) (hleft left)
  | stopped => exact .inl rfl
  | failed fault => exact .inr rfl
  | crashed => exact .inr rfl

/-- **A fault is fatal** exactly if it says so. Whatever the handler, those outside and the other side do, in whatever
order: a session that ends with a fault ends with a fatal one. Whoever is told a fault about a request of its own is
told a fatal one only if it is that the connection is gone; and in a session that was started this is not told
before the desk is closed, or the writer has stopped or broken. -/
theorem fatal_faults {holds : Scene σ → Prop} {sc : Scene σ}
    (h : Plays handler holds (Scene.create config memory) sc) :
    (∀ fault, sc.state.phase = .ended (.error fault) → fault.isFatal = true) ∧
      ∀ ticket fault, .asking ticket ∈ sc.callers ++ sc.errands →
        (sc.state.poll ticket).1 = some (.error fault) →
          (fault.isFatal = true ↔ fault = .closed) ∧
          (fault = .closed → sc.state.phase ≠ .discarded →
            sc.state.desk.table.closed = true ∨ sc.state.writer = .stopped ∨ sc.state.writer.isBroken = true) := by
  refine ⟨?_, ?_⟩
  · intro fault hended
    refine fatal_plays h fault (World.outcome?_of_phase ?_)
    rw [hended]
    rfl
  · intro ticket fault hasking hpoll
    have hanswerable := answerable_plays h
    have hfresh : ticket.done = false := hanswerable.fresh _ hasking
    have hknown : sc.state.desk.Knows ticket.id := hanswerable.known _ hasking
    rcases Ticket.told_of_knows hfresh hknown hpoll with ⟨δ, hδ, -, houtcome⟩ | ⟨deadline, -, -, htimedOut⟩
    case inr =>
      obtain rfl := Except.error.inj htimedOut
      exact ⟨⟨nofun, nofun⟩, nofun⟩
    refine ⟨⟨?_, ?_⟩, ?_⟩
    · intro hfatal
      rcases (told_plays h).told δ hδ with hclosed | ⟨value, -, id, outcome, -, -, htells⟩
      · exact Except.error.inj (houtcome.symm.trans hclosed)
      · -- what the other side answers with is no end
        rw [houtcome] at htells
        cases outcome <;> cases htells
        cases hfatal
    · rintro rfl
      rfl
    · rintro rfl hstarted
      exact (hanswerable.told δ hδ houtcome).imp_right fun hshut => State.writer_of_not_accepting hshut hstarted

/-- Whether somebody among those outside would be told that the connection is gone. -/
def Scene.tellsGone (sc : Scene σ) : Bool :=
  sc.callers.any fun
    | .asking ticket =>
      match (sc.state.poll ticket).1 with
      | some (.error .closed) => true
      | _ => false
    | _ => false

/-- Somebody would be told that the connection is gone. -/
theorem Scene.exists_of_tellsGone {sc : Scene σ} (h : sc.tellsGone = true) :
    ∃ ticket, .asking ticket ∈ sc.callers ++ sc.errands ∧ (sc.state.poll ticket).1 = some (.error .closed) := by
  obtain ⟨e, he, hgone⟩ := List.any_eq_true.mp h
  split at hgone
  · split at hgone
    · rename_i ticket _ hpoll
      exact ⟨ticket, List.mem_append_left _ he, hpoll⟩
    · cases hgone
  · cases hgone

/-- A write fails, and behind it a request cannot be queued. -/
def writeFailsBetweenCalls : List Deed :=
  [.start, .call "a" .null, .carry 0, .take, .fail "gone", .call "b" .null, .carry 0, .carry 0]

/-- The session comes to its end. -/
def drainAndFinish : List Deed := [.heed, .read, .drain, .finish]

/-- A caller is told that the connection is gone while the desk is open, and the session ends with the fault of its
writer. -/
theorem fatal_faults_broken :
    ∃ (sc sc' : Scene Unit) (ticket : Ticket) (fault : CallFault),
      Plays Rehearsal.handler (fun _ => True) (Scene.create {} ()) sc ∧
      .asking ticket ∈ sc.callers ++ sc.errands ∧ (sc.state.poll ticket).1 = some (.error .closed) ∧
      sc.state.desk.table.closed = false ∧ sc.state.writer.isBroken = true ∧
      Plays Rehearsal.handler (fun _ => True) sc sc' ∧ sc'.state.phase = .ended (.error fault) ∧
      fault.isFatal = true := by
  have hplay : ((Scene.create {} ()).play Rehearsal.handler (fun _ => true) writeFailsBetweenCalls).any (fun sc =>
      sc.tellsGone && !sc.state.desk.table.closed && sc.state.phase.isOpen && sc.state.writer != .stopped &&
        (sc.play Rehearsal.handler (fun _ => true) drainAndFinish).any fun sc' =>
          sc'.state.phase.endedBadly) = true := by
    decide +kernel
  obtain ⟨sc, hscene, hfacts⟩ := (Option.any_eq_true _ _).mp hplay
  simp only [Bool.and_eq_true, Bool.not_eq_true', bne_iff_ne] at hfacts
  obtain ⟨⟨⟨⟨htells, hdesk⟩, hopen⟩, hstopped⟩, hplay'⟩ := hfacts
  obtain ⟨sc', hscene', hended⟩ := (Option.any_eq_true _ _).mp hplay'
  have hplays : Plays Rehearsal.handler (fun _ => True) (Scene.create {} ()) sc :=
    plays_of_play (fun _ => trivial) hscene
  have hplays' : Plays Rehearsal.handler (fun _ => True) sc sc' := plays_of_play (fun _ => trivial) hscene'
  obtain ⟨ticket, hasking, hpoll⟩ := Scene.exists_of_tellsGone htells
  obtain ⟨fault, hphase⟩ := Phase.eq_of_endedBadly hended
  have hstarted : sc.state.phase ≠ .discarded := by
    intro hphase
    rw [hphase] at hopen
    cases hopen
  have hbroken : sc.state.writer.isBroken = true := by
    rcases ((fatal_faults hplays).2 ticket .closed hasking hpoll).2 rfl hstarted with hclosed | hwriter | hbroken
    · rw [hdesk] at hclosed
      cases hclosed
    · exact absurd hwriter hstopped
    · exact hbroken
  exact ⟨sc, sc', ticket, fault, hplays, hasking, hpoll, hdesk, hbroken, hplays', hphase,
    (fatal_faults (hplays.trans hplays')).1 fault hphase⟩

end EditorLink.Session
