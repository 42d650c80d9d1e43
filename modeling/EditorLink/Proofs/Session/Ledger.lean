import EditorLink.Proofs.Correlation.Representation
import EditorLink.Proofs.Session.Errands

/-!
# EditorLink — the ledger of our requests

The table of requests knows nothing of frames. The ledger puts it beside the requests that are under way, those that
were queued, and those that the other side has answered.

A response to a request that was queued and not yet answered is to be expected. It is, unless the table has forgotten
the request: somebody gave it up, and too many others were given up besides. The table forgets the smallest of more
than 1024 ids; the ledger counts the requests that were queued, for which nobody waits, and which are not answered
(`forsaken`), and as long as there are 1024 of them at most none that matters is forgotten.

A request may be given up before its frame is queued, when its time is up at once or its caller goes away early; then
it is remembered before it is sent, and counts from then on. A request whose frame could not be queued is not counted,
as no answer to it can come.

## Results

* `Ledger.forsaken` — requests that were queued, for which nobody waits, and which are not answered;
* `Ledger.Kept` — the invariant: as long as the table is open, each request that was queued is waited
  for, remembered, or answered;
* `Kept.issue`, `Kept.send`, `Kept.fail`, `Kept.refuse`, `Kept.abandon`, `Kept.forget`, `Kept.close` — whatever is
  done keeps it;
* `Kept.answer` — an answer to a request that was queued is expected.
-/

namespace EditorLink

open scoped List

namespace Session

open Correlation (Outcome Table Ticket)
open Message (CallFault)

namespace Errand

def ticket : Errand → Ticket
  | .requesting ticket _ _ => ticket
  | .refused ticket _ => ticket
  | .asking ticket => ticket

/-- The request is not queued, or not yet. -/
def isUnsent : Errand → Bool
  | .asking _ => false
  | _ => true

def isRequesting : Errand → Bool
  | .requesting _ _ _ => true
  | _ => false

end Errand

/-- A table, the requests that are under way, the ids of those that were queued, and the ids that the other
side has answered. -/
structure Ledger where
  table : Table
  errands : List Errand
  sent : List Nat
  answered : List Nat

namespace Ledger

/-- Requests that were queued, for which nobody waits, and which are not answered. -/
def forsaken (l : Ledger) : List Nat :=
  l.sent.filter fun id => id ∉ l.table.waiting ∧ id ∉ l.answered

/-- There are no more of them than are remembered, as long as answers are taken. -/
def InRoom (l : Ledger) : Prop := l.table.closed = false → l.forsaken.length ≤ 1024

instance (l : Ledger) : Decidable l.InRoom := by unfold InRoom; infer_instance

/-- The invariant of the ledger. -/
structure Kept (l : Ledger) : Prop where
  sound : l.table.Sound
  /-- Each request has a ticket of its own. -/
  distinct : (l.errands.map (·.ticket.id)).Nodup
  given : ∀ e ∈ l.errands, e.ticket.id < l.table.nextId
  sentGiven : ∀ id ∈ l.sent, id < l.table.nextId
  unsent : ∀ e ∈ l.errands, e.isUnsent = true → e.ticket.id ∉ l.sent
  /-- A request that is to be sent is waited for. -/
  registered : l.table.closed = false → ∀ e ∈ l.errands, e.isRequesting = true →
    e.ticket.id ∈ l.table.waiting
  waiting : ∀ id ∈ l.table.waiting, id ∈ l.sent ∨ ∃ e ∈ l.errands, e.isUnsent = true ∧ e.ticket.id = id
  once : l.table.abandoned.Nodup
  abandoned : ∀ id ∈ l.table.abandoned, id ∈ l.sent ∧ id ∉ l.table.waiting ∧ id ∉ l.answered
  answered : ∀ id ∈ l.answered, id ∈ l.sent ∧ id ∉ l.table.waiting
  /-- No request that was queued is unknown. -/
  known : l.table.closed = false → ∀ id ∈ l.sent,
    id ∈ l.table.waiting ∨ id ∈ l.table.abandoned ∨ id ∈ l.answered

theorem kept_empty : Kept ⟨{}, [], [], []⟩ where
  sound := Table.sound_empty
  distinct := List.nodup_nil
  given := by simp
  sentGiven := by simp
  unsent := by simp
  registered := by simp
  waiting := by simp
  once := List.nodup_nil
  abandoned := by simp
  answered := by simp
  known := by simp

namespace Kept

variable {t : Table} {es es' : List Errand} {e : Errand} {sent answered : List Nat} {ticket : Ticket}

theorem perm (h : Kept ⟨t, es, sent, answered⟩) (hperm : es ~ es') : Kept ⟨t, es', sent, answered⟩ where
  sound := h.sound
  distinct := (hperm.map _).nodup_iff.mp h.distinct
  given e he := h.given e (hperm.mem_iff.mpr he)
  sentGiven := h.sentGiven
  unsent e he := h.unsent e (hperm.mem_iff.mpr he)
  registered hopen e he := h.registered hopen e (hperm.mem_iff.mpr he)
  waiting id hid := (h.waiting id hid).imp_right fun ⟨e, he, h⟩ => ⟨e, hperm.mem_iff.mp he, h⟩
  once := h.once
  abandoned := h.abandoned
  answered := h.answered
  known := h.known

/-- The ticket of a request is in nobody else's hands. -/
theorem ne_of_mem (h : Kept ⟨t, e :: es, sent, answered⟩) {e' : Errand} (he : e' ∈ es) :
    e'.ticket.id ≠ e.ticket.id := by
  intro heq
  have hdistinct := h.distinct
  rw [List.map_cons, List.nodup_cons] at hdistinct
  exact hdistinct.1 (heq ▸ List.mem_map_of_mem he)

/-- A request that is waited for and of which the ticket is with somebody who waits was queued. -/
theorem sent_of_waiting (h : Kept ⟨t, e :: es, sent, answered⟩) (he : e.isUnsent = false)
    (hwaiting : e.ticket.id ∈ t.waiting) : e.ticket.id ∈ sent := by
  rcases h.waiting _ hwaiting with hsent | ⟨e', hmem, hunsent, heq⟩
  · exact hsent
  · rcases List.mem_cons.mp hmem with rfl | hrest
    · simp [he] at hunsent
    · exact absurd heq (h.ne_of_mem hrest)

-- ---------------------------------------------------------------------------
-- Requests under way
-- ---------------------------------------------------------------------------

/-- A request gets a ticket of its own. -/
theorem issue (h : Kept ⟨t, es, sent, answered⟩) (hid : ticket.id = t.nextId) (method : String)
    (params : Json) :
    Kept ⟨t.register.2.2, .requesting ticket method params :: es, sent, answered⟩ := by
  have hsound : t.register.2.2.Sound := h.sound.step .register
  obtain ⟨-, hwaiting, hnext, hclosed⟩ := t.step_register
  simp only [Table.step] at hwaiting hnext hclosed
  have habandoned : t.register.2.2.abandoned = t.abandoned := by
    rw [Table.register]
    split <;> rfl
  -- those that were given out before wait as they did
  have hold : ∀ {id}, id < t.nextId → (id ∈ t.register.2.2.waiting ↔ id ∈ t.waiting) := by
    intro id hlt
    rw [hwaiting]
    split
    · rfl
    · rw [List.mem_cons, or_iff_right (Nat.ne_of_lt hlt)]
  constructor
  case sound => exact hsound
  case distinct =>
    rw [List.map_cons, List.nodup_cons]
    refine ⟨?_, h.distinct⟩
    intro hmem
    obtain ⟨e, he, heq⟩ := List.mem_map.mp hmem
    have heq' : e.ticket.id = t.nextId := heq.trans hid
    exact Nat.ne_of_lt (h.given e he) heq'
  case given =>
    intro e he
    rw [hnext]
    rcases List.mem_cons.mp he with rfl | he
    · exact Nat.lt_succ_of_le (Nat.le_of_eq hid)
    · exact Nat.lt_succ_of_lt (h.given e he)
  case sentGiven =>
    intro id hsent
    rw [hnext]
    exact Nat.lt_succ_of_lt (h.sentGiven id hsent)
  case unsent =>
    intro e he hunsent hsent
    rcases List.mem_cons.mp he with rfl | he
    · exact Nat.ne_of_lt (h.sentGiven _ hsent) hid
    · exact h.unsent e he hunsent hsent
  case registered =>
    intro hopen e he hrequesting
    rcases List.mem_cons.mp he with rfl | he
    · rw [hwaiting, if_neg (by rw [← hclosed, hopen]; exact Bool.false_ne_true)]
      exact List.mem_cons.mpr (.inl hid)
    · exact (hold (h.given e he)).mpr (h.registered (hclosed ▸ hopen) e he hrequesting)
  case waiting =>
    intro id hid'
    by_cases hnew : id = t.nextId
    · exact .inr ⟨_, List.mem_cons_self, rfl, hid.trans hnew.symm⟩
    · have hwaited : id ∈ t.waiting := by
        rw [hwaiting] at hid'
        split at hid'
        · exact hid'
        · exact (List.mem_cons.mp hid').resolve_left hnew
      rcases h.waiting id hwaited with hasked | ⟨e, he, hunsent, heq⟩
      · exact .inl hasked
      · exact .inr ⟨e, List.mem_cons_of_mem _ he, hunsent, heq⟩
  case once =>
    rw [habandoned]
    exact h.once
  case abandoned =>
    intro id hid'
    rw [habandoned] at hid'
    obtain ⟨hsent, hwaits, hanswered⟩ := h.abandoned id hid'
    exact ⟨hsent, fun hmem => hwaits ((hold (h.sentGiven id hsent)).mp hmem), hanswered⟩
  case answered =>
    intro id hanswered
    obtain ⟨hsent, hwaits⟩ := h.answered id hanswered
    exact ⟨hsent, fun hmem => hwaits ((hold (h.sentGiven id hsent)).mp hmem)⟩
  case known =>
    intro hopen id hsent
    rw [habandoned, hold (h.sentGiven id hsent)]
    exact h.known (hclosed ▸ hopen) id hsent

/-- A request that is queued is waited for from then on. -/
theorem send {method : String} {params : Json}
    (h : Kept ⟨t, .requesting ticket method params :: es, sent, answered⟩) :
    Kept ⟨t, .asking ticket :: es, sent ++ [ticket.id], answered⟩ := by
  have hmine : ticket.id < t.nextId := h.given _ List.mem_cons_self
  have hsent : ∀ {id}, id ∈ sent → id ∈ sent ++ [ticket.id] := List.mem_append_left _
  constructor
  case sound => exact h.sound
  case distinct => exact h.distinct
  case given =>
    intro e he
    rcases List.mem_cons.mp he with rfl | he
    · exact hmine
    · exact h.given e (List.mem_cons_of_mem _ he)
  case sentGiven =>
    intro id hid
    rcases List.mem_append.mp hid with hid | hid
    · exact h.sentGiven id hid
    · rw [List.mem_singleton.mp hid]
      exact hmine
  case unsent =>
    intro e he hunsent hmem
    rcases List.mem_cons.mp he with rfl | he
    · cases hunsent
    · rcases List.mem_append.mp hmem with hmem | hmem
      · exact h.unsent e (List.mem_cons_of_mem _ he) hunsent hmem
      · exact h.ne_of_mem he (List.mem_singleton.mp hmem)
  case registered =>
    intro hopen e he hrequesting
    rcases List.mem_cons.mp he with rfl | he
    · cases hrequesting
    · exact h.registered hopen e (List.mem_cons_of_mem _ he) hrequesting
  case waiting =>
    intro id hid
    rcases h.waiting id hid with hmem | ⟨e, he, hunsent, heq⟩
    · exact .inl (hsent hmem)
    · rcases List.mem_cons.mp he with rfl | he
      · exact .inl (List.mem_append_right _ (List.mem_singleton.mpr heq.symm))
      · exact .inr ⟨e, List.mem_cons_of_mem _ he, hunsent, heq⟩
  case once => exact h.once
  case abandoned => exact fun id hid => (h.abandoned id hid).imp_left hsent
  case answered => exact fun id hid => (h.answered id hid).imp_left hsent
  case known =>
    intro hopen id hid
    rcases List.mem_append.mp hid with hid | hid
    · exact h.known hopen id hid
    · rw [List.mem_singleton.mp hid]
      exact .inl (h.registered hopen _ List.mem_cons_self rfl)

/-- A request that cannot be queued is still not queued. -/
theorem fail {method : String} {params : Json}
    (h : Kept ⟨t, .requesting ticket method params :: es, sent, answered⟩) (fault : CallFault) :
    Kept ⟨t, .refused ticket fault :: es, sent, answered⟩ where
  sound := h.sound
  distinct := h.distinct
  given := List.forall_mem_cons.mpr (List.forall_mem_cons.mp h.given)
  sentGiven := h.sentGiven
  unsent := by
    obtain ⟨hmine, hothers⟩ := List.forall_mem_cons.mp h.unsent
    exact List.forall_mem_cons.mpr ⟨hmine, hothers⟩
  registered hopen :=
    List.forall_mem_cons.mpr ⟨nofun, (List.forall_mem_cons.mp (h.registered hopen)).2⟩
  waiting id hid := by
    rcases h.waiting id hid with hmem | ⟨e, he, hunsent, heq⟩
    · exact .inl hmem
    · rcases List.mem_cons.mp he with rfl | he
      · exact .inr ⟨_, List.mem_cons_self, rfl, heq⟩
      · exact .inr ⟨e, List.mem_cons_of_mem _ he, hunsent, heq⟩
  once := h.once
  abandoned := h.abandoned
  answered := h.answered
  known := h.known

/-- Whoever has a ticket for which no answer can come any more waits for its outcome. -/
theorem wait (h : Kept ⟨t, e :: es, sent, answered⟩) (hgone : e.ticket.id ∉ t.waiting) :
    Kept ⟨t, .asking e.ticket :: es, sent, answered⟩ where
  sound := h.sound
  distinct := h.distinct
  given := List.forall_mem_cons.mpr (List.forall_mem_cons.mp h.given)
  sentGiven := h.sentGiven
  unsent := List.forall_mem_cons.mpr ⟨nofun, (List.forall_mem_cons.mp h.unsent).2⟩
  registered hopen :=
    List.forall_mem_cons.mpr ⟨nofun, (List.forall_mem_cons.mp (h.registered hopen)).2⟩
  waiting id hid := by
    rcases h.waiting id hid with hmem | ⟨e', he, hunsent, heq⟩
    · exact .inl hmem
    · rcases List.mem_cons.mp he with rfl | he
      · exact absurd (heq ▸ hid) hgone
      · exact .inr ⟨e', List.mem_cons_of_mem _ he, hunsent, heq⟩
  once := h.once
  abandoned := h.abandoned
  answered := h.answered
  known := h.known

/-- Whoever waited for an outcome is gone. -/
theorem forget (h : Kept ⟨t, .asking ticket :: es, sent, answered⟩) :
    Kept ⟨t, es, sent, answered⟩ where
  sound := h.sound
  distinct := (List.nodup_cons.mp h.distinct).2
  given := (List.forall_mem_cons.mp h.given).2
  sentGiven := h.sentGiven
  unsent := (List.forall_mem_cons.mp h.unsent).2
  registered hopen := (List.forall_mem_cons.mp (h.registered hopen)).2
  waiting id hid := by
    rcases h.waiting id hid with hmem | ⟨e, he, hunsent, heq⟩
    · exact .inl hmem
    · rcases List.mem_cons.mp he with rfl | he
      · cases hunsent
      · exact .inr ⟨e, he, hunsent, heq⟩
  once := h.once
  abandoned := h.abandoned
  answered := h.answered
  known := h.known

-- ---------------------------------------------------------------------------
-- Waiting no more
-- ---------------------------------------------------------------------------

/-- A request that is not to be sent any more stops being waited for, and its id is found elsewhere. -/
theorem takeOut (h : Kept ⟨t, es, sent, answered⟩) (id : Nat) {abandoned answered' : List Nat}
    (hwanted : ∀ e ∈ es, e.isRequesting = true → e.ticket.id ≠ id) (honce : abandoned.Nodup)
    (habandoned : ∀ i ∈ abandoned, i ∈ sent ∧ i ∉ t.waiting.erase id ∧ i ∉ answered')
    (hanswered : ∀ i ∈ answered', i ∈ sent ∧ i ∉ t.waiting.erase id)
    (hknown : t.closed = false → ∀ i ∈ sent,
      i ∈ t.waiting.erase id ∨ i ∈ abandoned ∨ i ∈ answered') :
    Kept ⟨{ t with waiting := t.waiting.erase id, abandoned }, es, sent, answered'⟩ where
  sound := h.sound.erase rfl rfl rfl
  distinct := h.distinct
  given := h.given
  sentGiven := h.sentGiven
  unsent := h.unsent
  registered hopen e he hrequesting :=
    (List.mem_erase_of_ne (hwanted e he hrequesting)).mpr (h.registered hopen e he hrequesting)
  waiting i hi := h.waiting i (List.mem_of_mem_erase hi)
  once := honce
  abandoned := habandoned
  answered := hanswered
  known := hknown

/-- The outcome of a request that could not be queued is delivered. -/
theorem refuse {fault : CallFault} (h : Kept ⟨t, .refused ticket fault :: es, sent, answered⟩) :
    Kept ⟨{ t with waiting := t.waiting.erase ticket.id }, .asking ticket :: es, sent, answered⟩ := by
  have hunsent : ticket.id ∉ sent := h.unsent _ List.mem_cons_self rfl
  have hgone : ticket.id ∉ t.waiting.erase ticket.id := h.sound.nodup.not_mem_erase
  have hless : ∀ {i}, i ∉ t.waiting → i ∉ t.waiting.erase ticket.id :=
    fun hi hmem => hi (List.mem_of_mem_erase hmem)
  refine (h.takeOut ticket.id ?_ h.once ?_ ?_ ?_).wait (e := .refused ticket fault) hgone
  · intro e he hrequesting
    rcases List.mem_cons.mp he with rfl | he
    · cases hrequesting
    · exact h.ne_of_mem he
  · intro i hi
    obtain ⟨hsent, hwaits, hanswered⟩ := h.abandoned i hi
    exact ⟨hsent, hless hwaits, hanswered⟩
  · exact fun i hi => (h.answered i hi).imp_right hless
  · intro hopen i hi
    have hne : i ≠ ticket.id := fun heq => hunsent (heq ▸ hi)
    rw [List.mem_erase_of_ne hne]
    exact h.known hopen i hi

/-- **Giving up** moves a request from those that are waited for to those that are remembered, and as long as
there is room none of them is forgotten. -/
theorem abandon (h : Kept ⟨t, .asking ticket :: es, sent, answered⟩)
    (hroom : InRoom ⟨t.abandon ticket.id, es', sent, answered⟩) :
    Kept ⟨t.abandon ticket.id, .asking ticket :: es, sent, answered⟩ := by
  by_cases hwaits : ticket.id ∈ t.waiting
  · have hsent : ticket.id ∈ sent := h.sent_of_waiting rfl hwaits
    have hanswered : ticket.id ∉ answered := fun hmem => (h.answered _ hmem).2 hwaits
    have hfresh : ticket.id ∉ t.abandoned := fun hmem => (h.abandoned _ hmem).2.1 hwaits
    have hgone : ticket.id ∉ t.waiting.erase ticket.id := h.sound.nodup.not_mem_erase
    have hopen : t.closed = false := by
      rw [Bool.eq_false_iff]
      intro hclosed
      rw [h.sound.closed hclosed] at hwaits
      cases hwaits
    have hless : ∀ {i}, i ∉ t.waiting → i ∉ t.waiting.erase ticket.id :=
      fun hi hmem => hi (List.mem_of_mem_erase hmem)
    rw [Table.abandon, if_pos (List.contains_iff_mem.mpr hwaits)] at hroom ⊢
    -- whoever is remembered is forsaken, and so is the one who gives up now
    have hall : ∀ i ∈ ticket.id :: t.abandoned,
        i ∈ sent ∧ i ∉ t.waiting.erase ticket.id ∧ i ∉ answered := by
      intro i hi
      rcases List.mem_cons.mp hi with rfl | hi
      · exact ⟨hsent, hgone, hanswered⟩
      · obtain ⟨hsent, hwaits, hanswered⟩ := h.abandoned i hi
        exact ⟨hsent, hless hwaits, hanswered⟩
    have honce : (ticket.id :: t.abandoned).Nodup := List.nodup_cons.mpr ⟨hfresh, h.once⟩
    have hcount : (ticket.id :: t.abandoned).length ≤ 1024 := by
      refine Nat.le_trans (List.subperm_of_subset honce ?_).length_le (hroom hopen)
      intro i hi
      exact List.mem_filter.mpr ⟨(hall i hi).1, decide_eq_true (hall i hi).2⟩
    have hperm := Correlation.remember_perm hfresh hcount
    refine h.takeOut ticket.id ?_ (hperm.nodup_iff.mpr honce) ?_ ?_ ?_
    · intro e he hrequesting
      rcases List.mem_cons.mp he with rfl | he
      · cases hrequesting
      · exact h.ne_of_mem he
    · exact fun i hi => hall i (hperm.mem_iff.mp hi)
    · exact fun i hi => (h.answered i hi).imp_right hless
    · intro _ i hi
      rw [hperm.mem_iff, List.mem_cons]
      by_cases hi' : i = ticket.id
      · exact .inr (.inl (.inl hi'))
      · rw [List.mem_erase_of_ne hi']
        exact (h.known hopen i hi).imp_right (Or.imp_left .inr)
  · rw [Table.abandon, if_neg (by rwa [List.contains_iff_mem])]
    exact h

-- ---------------------------------------------------------------------------
-- The other side
-- ---------------------------------------------------------------------------

/-- **An answer to a request that was queued** is expected, unless it was answered before. -/
theorem answer (h : Kept ⟨t, es, sent, answered⟩) (hopen : t.closed = false) {id : Nat}
    (hsent : id ∈ sent) (hfirst : id ∉ answered) (outcome : Outcome) :
    ∃ done, t.settle id outcome = .ok done ∧ Kept ⟨done.2, es, sent, answered ++ [id]⟩ := by
  have hwanted : ∀ e ∈ es, e.isRequesting = true → e.ticket.id ≠ id := by
    intro e he hrequesting heq
    have hunsent : e.isUnsent = true := by cases e <;> first | rfl | cases hrequesting
    exact h.unsent e he hunsent (heq ▸ hsent)
  have hless : ∀ {i}, i ∉ t.waiting → i ∉ t.waiting.erase id :=
    fun hi hmem => hi (List.mem_of_mem_erase hmem)
  have hgone : id ∉ t.waiting.erase id := h.sound.nodup.not_mem_erase
  have hanswered : ∀ i ∈ answered ++ [id], i ∈ sent ∧ i ∉ t.waiting.erase id := by
    intro i hi
    rcases List.mem_append.mp hi with hi | hi
    · exact (h.answered i hi).imp_right hless
    · rw [List.mem_singleton.mp hi]
      exact ⟨hsent, hgone⟩
  -- wherever the id was, it is among those answered now
  have hkept : Kept ⟨{ t with waiting := t.waiting.erase id, abandoned := t.abandoned.erase id }, es,
      sent, answered ++ [id]⟩ := by
    refine h.takeOut id hwanted (h.once.erase id) ?_ hanswered ?_
    · intro i hi
      obtain ⟨hne, hi⟩ := (List.Nodup.mem_erase_iff h.once).mp hi
      obtain ⟨hsent', hwaits, hanswered'⟩ := h.abandoned i hi
      refine ⟨hsent', hless hwaits, ?_⟩
      intro hmem
      rcases List.mem_append.mp hmem with hmem | hmem
      · exact hanswered' hmem
      · exact hne (List.mem_singleton.mp hmem)
    · intro _ i hi
      by_cases hi' : i = id
      · exact .inr (.inr (List.mem_append_right _ (List.mem_singleton.mpr hi')))
      · rw [List.mem_erase_of_ne hi', List.mem_erase_of_ne hi']
        exact (h.known hopen i hi).imp_right (Or.imp_right (List.mem_append_left _))
  by_cases hwaits : id ∈ t.waiting
  · have hfresh : id ∉ t.abandoned := fun hmem => (h.abandoned _ hmem).2.1 hwaits
    rw [List.erase_of_not_mem hfresh] at hkept
    exact ⟨_, by rw [Table.settle, if_pos (List.contains_iff_mem.mpr hwaits)], hkept⟩
  · rw [List.erase_of_not_mem hwaits] at hkept
    have hremembered : id ∈ t.abandoned := by
      rcases h.known hopen id hsent with hmem | hmem | hmem
      · exact absurd hmem hwaits
      · exact hmem
      · exact absurd hmem hfirst
    refine ⟨([], { t with abandoned := t.abandoned.erase id }), ?_, hkept⟩
    rw [Table.settle, if_neg (by rwa [List.contains_iff_mem]),
      if_pos (List.contains_iff_mem.mpr hremembered)]

/-- The table is closed: nobody waits any more. -/
theorem close (h : Kept ⟨t, es, sent, answered⟩) : Kept ⟨t.closeAll.2, es, sent, answered⟩ where
  sound := h.sound.step .closeAll
  distinct := h.distinct
  given := h.given
  sentGiven := h.sentGiven
  unsent := h.unsent
  registered hopen := by cases hopen
  waiting := by simp [Table.closeAll]
  once := List.nodup_nil
  abandoned := by simp [Table.closeAll]
  answered id hid := ⟨(h.answered id hid).1, List.not_mem_nil⟩
  known hopen := by cases hopen

end Kept
end Ledger
end Session
end EditorLink
