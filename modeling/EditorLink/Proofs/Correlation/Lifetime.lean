import EditorLink.Proofs.Correlation.Closing
import EditorLink.Proofs.Correlation.Settling
import Mathlib.Data.List.Induction
import Mathlib.Logic.Relation

/-!
# EditorLink — the life of a ticket

A caller registers and gets a ticket, whose time counts from then on. It asks with it when it likes, and goes away
when it likes; meanwhile time passes, answers come in, other callers come and go, and the desk may be closed. The
first thing the ticket brings can be told from what happened: what was delivered, be it late, or else that the time is
up, from the deadline on and not before. After that the ticket brings nothing new, and it never leaves anybody waiting.

Time is counted in whole steps of the clock, and it passes between the calls of the caller and not within one. A
deadline is a number of such steps behind the registration; a timeout so long that no clock reaches it is a matter of
the host and does not occur here, since a ticket with such a timeout cannot be made there.

What happens at the desk may be anything but for one thing: nobody else gives up this very request, or collects for
it (`Meddles`). Others have tickets with other ids, so that a session never does that.

## Results

* `Happening`, `Watch` — what happens next to a ticket, and a caller that looks after one;
* `Desk.fate`, `elapsed`, `lapse` — what becomes of its request, and when its time is up, read off what happened;
* `Watch.Sees` — the invariant: what the caller has before it at each moment;
* `ticket_life` — what the ticket brings, and what it leaves in the table.
-/

namespace EditorLink.Correlation

open Message (CallFault)

-- ---------------------------------------------------------------------------
-- What happens next to a ticket
-- ---------------------------------------------------------------------------

/-- Takes the answer if the table does, and makes nothing of one that is refused. -/
def Desk.does (d : Desk) : Op → Desk
  | .register => d.register.2
  | .settle id outcome => (d.settle id outcome).toOption.getD d
  | .abandon id => d.abandon id
  | .closeAll => d.closeAll.2

/-- What may happen while a caller holds a ticket. -/
inductive Happening where
  /-- The caller asks for the outcome. -/
  | asks
  | elapses (nanos : Nat)
  /-- Somebody else registers, answers, gives up or closes the desk. -/
  | works (op : Op)
  /-- Somebody else collects what is there for it. -/
  | collects (id : Nat)

namespace Happening

def op? : Happening → Option Op
  | .works op => some op
  | _ => none

def nanos : Happening → Nat
  | .elapses nanos => nanos
  | _ => 0

/-- Whether somebody else does what is up to the caller under this id alone. -/
def Meddles (id : Nat) : Happening → Prop
  | .works op => op = .abandon id
  | .collects i => i = id
  | _ => False

end Happening

/-- How much time passes. -/
def elapsed : List Happening → Nat
  | [] => 0
  | event :: rest => event.nanos + elapsed rest

/-- A caller with its ticket, at a desk, under a clock. -/
structure Watch where
  ticket : Ticket
  desk : Desk
  now : Nat
  /-- What the ticket has brought, in order. -/
  told : List Outcome := []

namespace Watch

/-- A caller registers. -/
def begin (d : Desk) (now : Nat) (timeout : Option Span) : Watch :=
  { ticket := .issue d.register.1 now timeout, desk := d.register.2, now }

/-- What the ticket brings if the caller asks. -/
def asks (w : Watch) : Option Outcome := (w.ticket.poll w.now w.desk).1

def step (w : Watch) : Happening → Watch
  | .asks =>
    let (outcome, ticket, desk) := w.ticket.poll w.now w.desk
    { w with ticket, desk, told := w.told ++ outcome.toList }
  | .elapses nanos => { w with now := w.now + nanos }
  | .works op => { w with desk := w.desk.does op }
  | .collects id => { w with desk := (w.desk.collect id).2 }

def run (w : Watch) (events : List Happening) : Watch := events.foldl step w

/-- The desk that is left if the caller goes away. -/
def leaves (w : Watch) : Desk := w.ticket.discard w.desk

end Watch

-- ---------------------------------------------------------------------------
-- What becomes of a request
-- ---------------------------------------------------------------------------

def Fate.outcome? : Fate → Option Outcome
  | .fulfilled outcome => some outcome
  | _ => none

/-- What operations make of a request of which this has become. -/
def Fate.behind (id : Nat) (ops : List Op) : Fate → Fate
  | .waiting => decided id ops
  | fate => fate

/-- What becomes of a request that is registered next at a desk, if these things happen then. -/
def Desk.fate (d : Desk) (events : List Happening) : Fate :=
  if d.table.closed then .fulfilled (.error .closed) else decided d.table.nextId (events.filterMap Happening.op?)

/-- The news that the time of a ticket is up, once it is. -/
def lapse (id : Nat) (timeout : Option Span) (elapsed : Nat) : Option Outcome :=
  (timeout.filter (·.nanos ≤ elapsed)).map fun after => .error (.timedOut id after)

variable {d : Desk} {id : Nat} {op : Op}

/-- What is decided stays decided. -/
theorem Fate.behind_of_ne_waiting {fate : Fate} (h : fate ≠ .waiting) (ops : List Op) : fate.behind id ops = fate := by
  cases fate with
  | waiting => exact absurd rfl h
  | fulfilled outcome => rfl
  | abandoned => rfl

/-- The later operations decide if the first have not. -/
theorem decided_append (id : Nat) (ops more : List Op) :
    decided id (ops ++ more) = (decided id ops).behind id more := by
  induction ops with
  | nil => rfl
  | cons op rest ih =>
    cases op with
    | register => exact ih
    | settle i outcome =>
      rw [List.cons_append, decided, decided]
      split
      · rfl
      · exact ih
    | abandon i =>
      rw [List.cons_append, decided, decided]
      split
      · rfl
      · exact ih
    | closeAll => rfl

/-- A request is not given up unless somebody gives it up. -/
theorem decided_ne_abandoned {ops : List Op} (h : .abandon id ∉ ops) : decided id ops ≠ .abandoned := by
  induction ops with
  | nil => exact Fate.noConfusion
  | cons op rest ih =>
    have hrest := ih fun hmem => h (List.mem_cons_of_mem op hmem)
    cases op with
    | register => exact hrest
    | settle i outcome =>
      rw [decided]
      split
      · exact Fate.noConfusion
      · exact hrest
    | abandon i =>
      have hi : i ≠ id := by
        rintro rfl
        exact h List.mem_cons_self
      rw [decided, if_neg hi]
      exact hrest
    | closeAll => exact Fate.noConfusion

/-- What has become of a request is not changed by what happens then. -/
theorem Desk.fate_append (d : Desk) (events : List Happening) (event : Happening) :
    d.fate (events ++ [event]) = (d.fate events).behind d.table.nextId event.op?.toList := by
  unfold fate
  by_cases hclosed : d.table.closed = true
  · rw [if_pos hclosed, if_pos hclosed]
    rfl
  · rw [if_neg hclosed, if_neg hclosed, List.filterMap_append, decided_append]
    cases event <;> rfl

/-- So with all that happens, if nobody meddles. -/
theorem Desk.fate_ne_abandoned {events : List Happening} (h : ∀ event ∈ events, ¬ event.Meddles d.table.nextId) :
    d.fate events ≠ .abandoned := by
  rw [fate]
  split
  · exact Fate.noConfusion
  · refine decided_ne_abandoned fun hmem => ?_
    obtain ⟨event, hevent, hop⟩ := List.mem_filterMap.mp hmem
    cases event with
    | works op => exact h _ hevent (Option.some.inj hop)
    | asks => cases hop
    | elapses nanos => cases hop
    | collects i => cases hop

/-- Unless it is given up, a request without an outcome waits. -/
theorem Fate.outcome?_eq_none_iff {fate : Fate} (h : fate ≠ .abandoned) : fate.outcome? = none ↔ fate = .waiting := by
  cases fate with
  | waiting => exact iff_of_true rfl rfl
  | fulfilled outcome => exact iff_of_false (Option.some_ne_none outcome) Fate.noConfusion
  | abandoned => exact absurd rfl h

/-- **One operation** leaves whoever waits waiting exactly if it does not decide. -/
theorem Table.Sound.waiting_step_iff {t : Table} (h : t.Sound) (hid : id ∈ t.waiting) (op : Op) :
    id ∈ (t.step op).2.waiting ↔ decided id [op] = .waiting := by
  cases op with
  | register =>
    rw [t.step_register.2.1]
    refine iff_of_true ?_ rfl
    split
    · exact hid
    · exact List.mem_cons_of_mem _ hid
  | settle i outcome =>
    rw [(t.step_settle i outcome).2.1, h.nodup.mem_erase_iff, decided]
    by_cases hi : i = id
    · simp [hi]
    · simp [hi, Ne.symm hi, hid, decided]
  | abandon i =>
    rw [(t.step_abandon i).2.1, h.nodup.mem_erase_iff, decided]
    by_cases hi : i = id
    · simp [hi]
    · simp [hi, Ne.symm hi, hid, decided]
  | closeAll =>
    rw [t.step_closeAll.2.1]
    exact iff_of_false List.not_mem_nil Fate.noConfusion

/-- What one operation delivers to an id. -/
theorem Table.Sound.answersTo_step {t : Table} (h : t.Sound) (hgiven : id < t.nextId) (op : Op) :
    answersTo id (t.step op).1 = if id ∈ t.waiting then (decided id [op]).brings id else [] := by
  have hone : answersTo id (t.step op).1 = answersTo id (deliveries t [op]) := by
    rw [deliveries, deliveries, List.append_nil]
  rw [hone]
  split
  · exact answersTo_of_waiting h ‹_› [op]
  · exact answersTo_of_not_waiting hgiven ‹_› [op]

-- ---------------------------------------------------------------------------
-- At the desk
-- ---------------------------------------------------------------------------

namespace Desk

/-- **Whatever is done at a desk** is an operation of its table, and what that delivers is put down. -/
theorem does_eq (d : Desk) (op : Op) : d.does op = d.take (d.table.step op).1 (d.table.step op).2 := by
  cases op with
  | register => rfl
  | settle id outcome =>
    rw [does, Desk.settle, Table.step]
    cases d.table.settle id outcome <;> rfl
  | abandon id => rfl
  | closeAll => rfl

/-- Every operation can be done at a desk. -/
theorem goes_does (d : Desk) (op : Op) : d.Goes (d.does op) := by
  cases op with
  | register => exact .registers
  | settle id outcome =>
    cases hsettle : d.settle id outcome with
    | error fault =>
      rw [does, hsettle]
      exact .keeps
    | ok d' =>
      rw [does, hsettle]
      exact .settles hsettle
  | abandon id => exact .discards { id }
  | closeAll => exact .closes

/-- The invariant of a desk, through any number of things that are done at it. -/
theorem Sound.reached {d d' : Desk} (h : d.Sound) (hreached : Relation.ReflTransGen Goes d d') : d'.Sound := by
  induction hreached with
  | refl => exact h
  | tail _ hgo ih => exact ih.step hgo

/-- Collecting keeps the invariant, whoever collects. -/
theorem Sound.collect (h : d.Sound) (i : Nat) : (d.collect i).2.Sound := by
  refine ⟨?_, ?_⟩
  · rw [d.table_collect]
    exact h.table
  · intro δ hδ
    rw [d.table_collect]
    exact h.given δ (d.uncollected_collect i hδ)

/-- What is there for one is not collected by another. -/
theorem answersTo_collect {i : Nat} (hi : i ≠ id) :
    answersTo id (d.collect i).2.uncollected = answersTo id d.uncollected := by
  rw [collect]
  split
  · rw [answersTo, answersTo, List.filter_filter]
    congr 1
    funext δ
    by_cases hδ : δ.id = id
    · simp [hδ, Ne.symm hi]
    · simp [hδ]
  · rfl

/-- What is found for an id is the first that was put down for it. -/
theorem find?_eq_head? (d : Desk) (id : Nat) :
    d.uncollected.find? (·.id == id) = (answersTo id d.uncollected).head? := by
  rw [answersTo, List.head?_filter]

/-- What was put down is collected. -/
theorem collect_of_answer {outcome : Outcome} (h : answersTo id d.uncollected = [⟨id, outcome⟩]) :
    (d.collect id).1 = .delivered outcome := by
  rw [collect, find?_eq_head?, h]
  rfl

/-- As long as somebody waits there is nothing to collect. -/
theorem collect_of_waiting (h : answersTo id d.uncollected = []) (hwaiting : id ∈ d.table.waiting) :
    d.collect id = (.waiting, d) := by
  rw [collect, find?_eq_head?, h]
  simp [hwaiting]

end Desk

namespace Ticket

variable {t : Ticket}

/-- **A ticket that has brought nothing** brings what was put down for it. -/
theorem poll_of_answer (hdone : t.done = false) {outcome : Outcome}
    (h : answersTo t.id d.uncollected = [⟨t.id, outcome⟩]) (now : Nat) :
    t.poll now d = (some outcome, { t with done := true }, (d.collect t.id).2) := by
  have hcollect := Desk.collect_of_answer h
  rw [poll, if_neg (by simp [hdone])]
  generalize d.collect t.id = found at hcollect
  obtain ⟨receipt, left⟩ := found
  cases hcollect
  rfl

/-- **A ticket whose request waits** brings that its time is up, once it is. -/
theorem poll_of_waiting (hdone : t.done = false) (h : answersTo t.id d.uncollected = [])
    (hwaiting : t.id ∈ d.table.waiting) (now : Nat) :
    t.poll now d =
      match t.deadline.filter (·.due ≤ now) with
      | some deadline => (some (.error (.timedOut t.id deadline.after)), { t with done := true }, d.abandon t.id)
      | none => (none, t, d) := by
  rw [poll, if_neg (by simp [hdone]), Desk.collect_of_waiting h hwaiting]
  cases t.deadline with
  | none => rfl
  | some deadline =>
    rw [Option.filter_some]
    by_cases hdue : deadline.due ≤ now <;> simp [hdue]

/-- A ticket that has brought something brings nothing more, and does not touch the desk. -/
theorem poll_of_done (hdone : t.done = true) (now : Nat) (d : Desk) :
    t.poll now d = (some (.error .closed), t, d) := by
  rw [poll, if_pos hdone]

end Ticket

-- ---------------------------------------------------------------------------
-- What a caller has before it
-- ---------------------------------------------------------------------------

namespace Watch

/-- **What a caller has before it** whose request came to this: its ticket as it was issued, marked once it was told
something; the answer at the desk, until it was told; and its id among those who wait, as long as nothing was decided
and it was not told that its time is up. -/
structure Sees (w : Watch) (id : Nat) (deadline : Option Deadline) (fate : Fate) : Prop where
  ticket : w.ticket = { id, deadline, done := !w.told.isEmpty }
  sound : w.desk.Sound
  given : id < w.desk.table.nextId
  waiting : id ∈ w.desk.table.waiting ↔ w.told = [] ∧ fate = .waiting
  answers : w.told = [] → answersTo id w.desk.uncollected = fate.brings id

variable {w : Watch} {deadline : Option Deadline} {fate : Fate}

theorem Sees.id_ticket (h : w.Sees id deadline fate) : w.ticket.id = id := by rw [h.ticket]

theorem Sees.deadline_ticket (h : w.Sees id deadline fate) : w.ticket.deadline = deadline := by rw [h.ticket]

/-- A caller that was told nothing has a ticket that is still good. -/
theorem Sees.done_of_untold (h : w.Sees id deadline fate) (huntold : w.told = []) : w.ticket.done = false := by
  rw [h.ticket, huntold]
  rfl

/-- Once something was told the ticket is used up. -/
theorem Sees.done_of_told (h : w.Sees id deadline fate) (htold : w.told ≠ []) : w.ticket.done = true := by
  rw [h.ticket]
  simp [htold]

/-- Once a caller was told something its id does not wait. -/
theorem Sees.not_waiting_of_told (h : w.Sees id deadline fate) (htold : w.told ≠ []) :
    id ∉ w.desk.table.waiting := fun hid => htold (h.waiting.mp hid).1

/-- The clock is no matter of what a caller has before it. -/
theorem Sees.elapses (h : w.Sees id deadline fate) (now : Nat) : Sees { w with now } id deadline fate :=
  ⟨h.ticket, h.sound, h.given, h.waiting, h.answers⟩

/-- The caller that has just registered. -/
theorem sees_begin {d : Desk} (hd : d.Sound) (now : Nat) (timeout : Option Span) :
    (begin d now timeout).Sees d.table.nextId (timeout.map fun after => ⟨now + after.nanos, after⟩) (d.fate []) := by
  obtain ⟨hdelivers, hwaiting, hnext, -⟩ := d.table.step_register
  have hnew : d.table.nextId ∉ d.table.waiting := fun hid => Nat.lt_irrefl _ (hd.table.given _ hid)
  -- nothing is there for an id that was not given out
  have hnothing : answersTo d.table.nextId d.uncollected = [] := by
    rw [answersTo, List.filter_eq_nil_iff]
    intro δ hδ heq
    exact Nat.ne_of_lt (hd.given δ hδ) (beq_iff_eq.mp heq)
  have hdesk : (begin d now timeout).desk = d.does .register := rfl
  refine ⟨by rw [← d.id_register]; rfl, hd.step .registers, ?_, ?_, fun _ => ?_⟩
  · rw [hdesk, d.does_eq, Desk.take, hnext]
    exact Nat.lt_succ_self _
  · rw [hdesk, d.does_eq, Desk.take, hwaiting, Desk.fate]
    by_cases hclosed : d.table.closed = true
    · rw [if_pos hclosed, if_pos hclosed]
      exact iff_of_false hnew fun h => Fate.noConfusion h.2
    · rw [if_neg hclosed, if_neg hclosed]
      exact iff_of_true List.mem_cons_self ⟨rfl, rfl⟩
  · rw [hdesk, d.does_eq, Desk.take, hdelivers, answersTo_append, hnothing, List.append_nil, Desk.fate]
    by_cases hclosed : d.table.closed = true
    · rw [if_pos hclosed, if_pos hclosed, answersTo_self]
      rfl
    · rw [if_neg hclosed, if_neg hclosed]
      rfl

/-- Asking is one poll at the moment of the clock. -/
theorem step_asks {outcome : Option Outcome} {ticket : Ticket} {desk : Desk}
    (h : w.ticket.poll w.now w.desk = (outcome, ticket, desk)) :
    w.step .asks = { w with ticket, desk, told := w.told ++ outcome.toList } := by
  rw [step, h]

/-- A caller that was told something, and whose id does not wait. -/
theorem sees_of_told (hticket : w.ticket = { id, deadline, done := true }) (hsound : w.desk.Sound)
    (hgiven : id < w.desk.table.nextId) (hgone : id ∉ w.desk.table.waiting) (htold : w.told ≠ []) :
    w.Sees id deadline fate := by
  refine ⟨?_, hsound, hgiven, iff_of_false hgone fun h => htold h.1, fun huntold => absurd huntold htold⟩
  rw [hticket, List.isEmpty_eq_false_iff.mpr htold, Bool.not_false]

/-- **The caller asks.** It is told something at most, and then it does not wait. -/
theorem Sees.asks (h : w.Sees id deadline fate) (hfate : fate ≠ .abandoned) : (w.step .asks).Sees id deadline fate := by
  have hid := h.id_ticket
  by_cases htold : w.told = []
  case neg =>
    -- the ticket brings nothing new
    have hdone := h.done_of_told htold
    rw [step_asks (Ticket.poll_of_done hdone w.now w.desk)]
    refine sees_of_told ?_ h.sound h.given (h.not_waiting_of_told htold) (by simp)
    rw [h.ticket, List.isEmpty_eq_false_iff.mpr htold, Bool.not_false]
  case pos =>
    have hdone := h.done_of_untold htold
    have hanswers := h.answers htold
    have hdeadline := h.deadline_ticket
    cases fate with
    | waiting =>
      have hwaiting := h.waiting.mpr ⟨htold, rfl⟩
      have hpoll := Ticket.poll_of_waiting hdone (hid ▸ hanswers) (hid ▸ hwaiting) w.now
      cases hdue : w.ticket.deadline.filter (·.due ≤ w.now) with
      | none =>
        rw [hdue] at hpoll
        rw [step_asks hpoll, Option.toList_none, List.append_nil]
        exact h
      | some lapsed =>
        rw [hdue] at hpoll
        rw [step_asks hpoll, hid, hdeadline]
        obtain ⟨-, hleft, hnext, -⟩ := w.desk.table.step_abandon id
        refine sees_of_told rfl (h.sound.step (.discards { id })) (hnext.symm ▸ h.given) ?_ (by simp)
        show id ∉ (w.desk.table.step (.abandon id)).2.waiting
        rw [hleft]
        exact h.sound.table.nodup.not_mem_erase
    | fulfilled outcome =>
      have hgone : id ∉ w.desk.table.waiting := fun hmem => Fate.noConfusion (h.waiting.mp hmem).2
      have htable := w.desk.table_collect id
      rw [step_asks (Ticket.poll_of_answer hdone (hid.symm ▸ hanswers) w.now), hid, hdeadline]
      exact sees_of_told rfl (h.sound.collect id) (htable ▸ h.given) (htable ▸ hgone) (by simp)
    | abandoned => exact absurd rfl hfate

/-- **The table works**, for this caller or for others. -/
theorem Sees.works (h : w.Sees id deadline fate) (op : Op) :
    (w.step (.works op)).Sees id deadline (fate.behind id [op]) := by
  have hdesk : (w.step (.works op)).desk = w.desk.take (w.desk.table.step op).1 (w.desk.table.step op).2 :=
    w.desk.does_eq op
  have hgiven : id < (w.desk.table.step op).2.nextId := Nat.lt_of_lt_of_le h.given (w.desk.table.nextId_le_step op)
  have hanswers : w.told = [] → answersTo id ((w.desk.table.step op).1 ++ w.desk.uncollected) =
      (if id ∈ w.desk.table.waiting then (decided id [op]).brings id else []) ++ fate.brings id := by
    intro htold
    rw [answersTo_append, h.sound.table.answersTo_step h.given, h.answers htold]
  by_cases hwaiting : id ∈ w.desk.table.waiting
  · -- the operation decides, or it does not
    obtain ⟨htold, rfl⟩ := h.waiting.mp hwaiting
    refine ⟨h.ticket, h.sound.step (w.desk.goes_does op), hdesk ▸ hgiven, ?_, fun _ => ?_⟩ <;> rw [hdesk]
    · exact (h.sound.table.waiting_step_iff hwaiting op).trans (and_iff_right htold).symm
    · rw [if_pos hwaiting] at hanswers
      exact (hanswers htold).trans (List.append_nil _)
  · -- nothing comes to an id that does not wait, and nothing is decided about it
    have hdecided : w.told = [] → fate.behind id [op] = fate :=
      fun htold => Fate.behind_of_ne_waiting (fun heq => hwaiting (h.waiting.mpr ⟨htold, heq⟩)) [op]
    refine ⟨h.ticket, h.sound.step (w.desk.goes_does op), hdesk ▸ hgiven, ?_, fun htold => ?_⟩ <;> rw [hdesk]
    · refine iff_of_false (Table.not_waiting_step h.given hwaiting op) ?_
      rintro ⟨htold, heq⟩
      rw [hdecided htold] at heq
      exact hwaiting (h.waiting.mpr ⟨htold, heq⟩)
    · rw [hdecided htold]
      rw [if_neg hwaiting] at hanswers
      exact hanswers htold

/-- Somebody else collects. -/
theorem Sees.collects (h : w.Sees id deadline fate) {i : Nat} (hi : i ≠ id) :
    (w.step (.collects i)).Sees id deadline fate := by
  have htable : (w.step (.collects i)).desk.table = w.desk.table := w.desk.table_collect i
  refine ⟨h.ticket, h.sound.collect i, htable ▸ h.given, htable ▸ h.waiting, ?_⟩
  intro htold
  exact (Desk.answersTo_collect hi).trans (h.answers htold)

/-- **Whatever happens**, but for what is up to the caller alone. -/
theorem Sees.step (h : w.Sees id deadline fate) (hfate : fate ≠ .abandoned) {event : Happening}
    (hevent : ¬ event.Meddles id) : (w.step event).Sees id deadline (fate.behind id event.op?.toList) := by
  have hsame : fate.behind id [] = fate := by cases fate <;> rfl
  cases event with
  | asks =>
    show (w.step .asks).Sees id deadline (fate.behind id [])
    rw [hsame]
    exact h.asks hfate
  | elapses nanos =>
    show (w.step (.elapses nanos)).Sees id deadline (fate.behind id [])
    rw [hsame]
    exact h.elapses _
  | works op => exact h.works op
  | collects i =>
    show (w.step (.collects i)).Sees id deadline (fate.behind id [])
    rw [hsame]
    exact h.collects hevent

theorem run_append (w : Watch) (events : List Happening) (event : Happening) :
    w.run (events ++ [event]) = (w.run events).step event := List.foldl_concat _ _ _ _

/-- **Whatever happened since it registered**, a caller has before it what its request came to. -/
theorem sees_run (hd : d.Sound) (now : Nat) (timeout : Option Span) {events : List Happening}
    (hevents : ∀ event ∈ events, ¬ event.Meddles d.table.nextId) :
    ((begin d now timeout).run events).Sees d.table.nextId
      (timeout.map fun after => ⟨now + after.nanos, after⟩) (d.fate events) := by
  -- what happens last finds what happened before decided
  induction events using List.reverseRecOn with
  | nil => exact sees_begin hd now timeout
  | append_singleton events event ih =>
    have hbefore : ∀ e ∈ events, ¬ e.Meddles d.table.nextId :=
      fun e he => hevents e (List.mem_append_left _ he)
    have hlast : ¬ event.Meddles d.table.nextId := hevents event (by simp)
    rw [run_append, d.fate_append]
    exact (ih hbefore).step (Desk.fate_ne_abandoned hbefore) hlast

/-- The clock goes on by the time that has passed. -/
theorem now_run (w : Watch) (events : List Happening) : (w.run events).now = w.now + elapsed events := by
  induction events generalizing w with
  | nil => rfl
  | cons event rest ih =>
    have hstep : (w.step event).now = w.now + event.nanos := by cases event <;> rfl
    have hrun : w.run (event :: rest) = (w.step event).run rest := rfl
    rw [hrun, ih, hstep, elapsed, Nat.add_assoc]

-- ---------------------------------------------------------------------------
-- What the ticket brings, and what it leaves
-- ---------------------------------------------------------------------------

/-- **The first thing a ticket brings** is what was delivered, or that its time is up. -/
theorem Sees.asks_of_untold (h : w.Sees id deadline fate) (hfate : fate ≠ .abandoned) (htold : w.told = []) :
    w.asks = fate.outcome?.or
      ((deadline.filter (·.due ≤ w.now)).map fun lapsed => .error (.timedOut id lapsed.after)) := by
  have hid := h.id_ticket
  have hdone := h.done_of_untold htold
  have hanswers := h.answers htold
  have hdeadline := h.deadline_ticket
  cases fate with
  | waiting =>
    have hwaiting := h.waiting.mpr ⟨htold, rfl⟩
    rw [Watch.asks, Ticket.poll_of_waiting hdone (hid ▸ hanswers) (hid ▸ hwaiting), hid, hdeadline]
    cases deadline.filter (·.due ≤ w.now) <;> rfl
  | fulfilled outcome =>
    rw [Watch.asks, Ticket.poll_of_answer hdone (hid.symm ▸ hanswers)]
    rfl
  | abandoned => exact absurd rfl hfate

/-- The deadline that is kept with the ticket says the same as the timeout and the time that has passed. -/
theorem lapse_eq (id now : Nat) (timeout : Option Span) (elapsed : Nat) :
    (((timeout.map fun after => (⟨now + after.nanos, after⟩ : Deadline)).filter (·.due ≤ now + elapsed)).map
      fun lapsed => (.error (.timedOut id lapsed.after) : Outcome)) = lapse id timeout elapsed := by
  cases timeout with
  | none => rfl
  | some after =>
    rw [lapse, Option.map_some, Option.filter_some, Option.filter_some]
    by_cases hdue : after.nanos ≤ elapsed
    · simp [hdue]
    · simp [hdue]

/-- Whoever goes away gives up its request, if it was not told anything. -/
theorem Sees.table_leaves (h : w.Sees id deadline fate) :
    w.leaves.table = if id ∈ w.desk.table.waiting then w.desk.table.abandon id else w.desk.table := by
  rw [leaves, Ticket.discard]
  by_cases htold : w.told = []
  · rw [h.done_of_untold htold, if_neg Bool.false_ne_true, h.id_ticket]
    split
    · rfl
    · exact Table.abandon_of_not_waiting ‹_›
  · rw [h.done_of_told htold, if_pos rfl, if_neg (h.not_waiting_of_told htold)]

/-- Nobody waits for one that went away. -/
theorem Sees.not_waiting_leaves (h : w.Sees id deadline fate) (later : List Op) :
    id ∉ (w.leaves.table.run later).waiting := by
  rw [h.table_leaves]
  split
  · obtain ⟨-, hleft, hnext, -⟩ := w.desk.table.step_abandon id
    have hgiven : id < (w.desk.table.step (.abandon id)).2.nextId := by
      rw [hnext]
      exact h.given
    have hgone : id ∉ (w.desk.table.step (.abandon id)).2.waiting := by
      rw [hleft]
      exact h.sound.table.nodup.not_mem_erase
    exact Table.not_waiting_run hgiven hgone later
  · exact Table.not_waiting_run h.given ‹_› later

end Watch

/-- **The life of a ticket**, whatever time it has, and whatever happens in whatever order from when it was issued.

* As long as it brought nothing, it brings what was delivered by now, late or not; else that its time is up, exactly
  from the deadline on, which counts from when it was issued; else nothing yet.
* Once it brought something it only brings that the connection is gone.
* Its id waits exactly as long as it brought nothing and nothing was delivered; then dropping it gives the request up,
  and else dropping it leaves the table as it is. Behind it the id waits no more. -/
theorem ticket_life {d : Desk} (hd : Relation.ReflTransGen Desk.Goes {} d) (now : Nat) (timeout : Option Span)
    (events : List Happening) (hevents : ∀ event ∈ events, ¬ event.Meddles d.table.nextId) :
    let id := d.table.nextId
    let w := (Watch.begin d now timeout).run events
    (w.told = [] → w.asks = (d.fate events).outcome?.or (lapse id timeout (elapsed events))) ∧
      (w.told ≠ [] → w.asks = some (.error .closed)) ∧
      (id ∈ w.desk.table.waiting ↔ w.told = [] ∧ (d.fate events).outcome? = none) ∧
      w.leaves.table = (if id ∈ w.desk.table.waiting then w.desk.table.abandon id else w.desk.table) ∧
      ∀ later, id ∉ (w.leaves.table.run later).waiting := by
  intro id w
  have hsees : w.Sees id _ (d.fate events) := Watch.sees_run (Desk.sound_empty.reached hd) now timeout hevents
  have hfate := Desk.fate_ne_abandoned hevents
  refine ⟨fun htold => ?_, fun htold => ?_, ?_, hsees.table_leaves, hsees.not_waiting_leaves⟩
  · rw [hsees.asks_of_untold hfate htold, Watch.now_run, ← Watch.lapse_eq id now]
    rfl
  · rw [Watch.asks, Ticket.poll_of_done (hsees.done_of_told htold)]
  · rw [Fate.outcome?_eq_none_iff hfate]
    exact hsees.waiting

/-- A ticket for five nanoseconds. Seven go by before its caller asks for the first time, and behind them comes the
answer to it, or to another request. -/
def answeredLate (id : Nat) : List Happening := [.elapses 7, .works (.settle id (.ok .null))]

/-- An answer that comes before the ticket is asked with again is told, and the timeout is not; without one it is the
other way round. -/
theorem ticket_life_late :
    (∀ event ∈ answeredLate 1, ¬ event.Meddles 1) ∧ (∀ event ∈ answeredLate 0, ¬ event.Meddles 1) ∧
      ((Watch.begin ({} : Desk).register.2 0 (some ⟨5⟩)).run (answeredLate 1)).asks = some (.ok .null) ∧
      ((Watch.begin ({} : Desk).register.2 0 (some ⟨5⟩)).run (answeredLate 0)).asks =
        some (.error (.timedOut 1 ⟨5⟩)) := by
  have hreached : Relation.ReflTransGen Desk.Goes {} ({} : Desk).register.2 := .single .registers
  have hown : ∀ event ∈ answeredLate 1, ¬ event.Meddles 1 := by simp [answeredLate, Happening.Meddles]
  have hother : ∀ event ∈ answeredLate 0, ¬ event.Meddles 1 := by simp [answeredLate, Happening.Meddles]
  refine ⟨hown, hother, ?_, ?_⟩
  · exact (ticket_life hreached 0 (some ⟨5⟩) (answeredLate 1) hown).1 rfl
  · exact (ticket_life hreached 0 (some ⟨5⟩) (answeredLate 0) hother).1 rfl

end EditorLink.Correlation
