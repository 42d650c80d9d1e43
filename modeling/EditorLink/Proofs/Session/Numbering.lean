import EditorLink.Proofs.Correlation.Closing
import EditorLink.Proofs.Session.Precedence
import Mathlib.Data.List.Count

/-!
# EditorLink — the numbers of our requests

A request gets its id in one step, and is queued in another. Between the two anybody else may take a turn, so that
requests of which neither waited for the other may be queued in any order. The ids are still counted without a gap,
and whoever makes a request when another call has returned gets a larger id, and a place behind it.

Ids are told from three lists: those that callers hold, those whose frames are still to be queued, and those in the
request frames that were queued. What a step does to them is of few kinds (`Numbers.Goes`), and every thing that can
happen to the books is of one of these. That a call has returned means that its id is not among those which are still
to be queued (`Scene.Returned`); it may be queued by then, or could not be.

Whose call it is does not matter: tasks and those outside get their ids from the same counter. The numbers go on
behind the end of a session, when requests are refused, and for requests that could not be queued.

## Results

* `Numbers`, `Numbers.Goes` — ids that were given out, that are held and that were queued, and what is done to them;
* `Numbers.Sound` — the invariant;
* `Books.Goes.numbers` — whatever happens to the books is one of these;
* `Hands` — a play, and the ids that callers get in it;
* `requests_numbered` — the main result.
-/

namespace EditorLink.Session

open Correlation (Desk)
open scoped List

variable {σ : Type}

-- ---------------------------------------------------------------------------
-- Ids
-- ---------------------------------------------------------------------------

/-- The id that is given out next, the ids that callers hold, those of requests that are still to be queued, and
those of requests that were queued, in order. -/
structure Numbers where
  next : Nat
  held : List Nat
  unsent : List Nat
  sent : List Nat

namespace Numbers

/-- What is done to ids. -/
inductive Goes (n : Numbers) : Numbers → Prop
  /-- Callers have their outcome, or a request is not to be queued any more. -/
  | keeps {held unsent : List Nat} (hheld : held <+~ n.held) (hunsent : unsent <+~ n.unsent) :
    Goes n { n with held, unsent }
  /-- Somebody gets the next id, and is going to send a request. -/
  | hands {held unsent : List Nat} (hheld : held ~ n.next :: n.held) (hunsent : unsent ~ n.next :: n.unsent) :
    Goes n { n with next := n.next + 1, held, unsent }
  /-- A request is queued. -/
  | sends {id : Nat} {held unsent : List Nat} (hheld : held ~ n.held) (hunsent : n.unsent ~ id :: unsent) :
    Goes n { n with held, unsent, sent := n.sent ++ [id] }

variable {n n' : Numbers}

theorem Goes.before {held unsent : List Nat} (h : Goes { n with held, unsent } n') (hheld : n.held ~ held)
    (hunsent : n.unsent ~ unsent) : n.Goes n' := by
  cases h with
  | keeps h₁ h₂ => exact .keeps (h₁.trans hheld.symm.subperm) (h₂.trans hunsent.symm.subperm)
  | hands h₁ h₂ => exact .hands (h₁.trans (hheld.symm.cons _)) (h₂.trans (hunsent.symm.cons _))
  | sends h₁ h₂ => exact .sends (h₁.trans hheld.symm) (hunsent.trans h₂)

theorem Goes.behind {held unsent : List Nat} (h : n.Goes n') (hheld : n'.held ~ held)
    (hunsent : n'.unsent ~ unsent) : n.Goes { n' with held, unsent } := by
  cases h with
  | keeps h₁ h₂ => exact .keeps (hheld.symm.subperm.trans h₁) (hunsent.symm.subperm.trans h₂)
  | hands h₁ h₂ => exact .hands (hheld.symm.trans h₁) (hunsent.symm.trans h₂)
  | sends h₁ h₂ => exact .sends (hheld.symm.trans h₁) (h₂.trans (hunsent.cons _))

end Numbers

/-- Ids that were given out, each held once. -/
structure Given (next : Nat) (ids : List Nat) : Prop where
  nodup : ids.Nodup
  lt : ∀ id ∈ ids, id < next

namespace Given

variable {next : Nat} {ids ids' : List Nat}

theorem subperm (h : Given next ids) (hids : ids' <+~ ids) : Given next ids' := by
  obtain ⟨kept, hperm, hsub⟩ := hids
  exact ⟨hperm.nodup_iff.mp (h.nodup.sublist hsub), fun id hid => h.lt id (hsub.mem (hperm.mem_iff.mpr hid))⟩

/-- The ids stay given out when another one is. -/
theorem succ (h : Given next ids) : Given (next + 1) ids :=
  ⟨h.nodup, fun id hid => Nat.lt_succ_of_lt (h.lt id hid)⟩

theorem next_not_mem (h : Given next ids) : next ∉ ids := fun hmem => Nat.lt_irrefl next (h.lt next hmem)

/-- The next id is a new one. -/
theorem cons (h : Given next ids) : Given (next + 1) (next :: ids) :=
  ⟨List.nodup_cons.mpr ⟨h.next_not_mem, h.nodup⟩, List.forall_mem_cons.mpr ⟨Nat.lt_succ_self next, h.succ.lt⟩⟩

end Given

namespace Numbers

variable {n n' : Numbers}

/-- The invariant of ids: each has one holder, one request that is still to be queued, or one that was. -/
structure Sound (n : Numbers) : Prop where
  held : Given n.next n.held
  unsent : Given n.next n.unsent
  sent : Given n.next n.sent
  apart : ∀ id ∈ n.unsent, id ∉ n.sent

theorem sound_empty : Sound ⟨0, [], [], []⟩ :=
  ⟨⟨.nil, nofun⟩, ⟨.nil, nofun⟩, ⟨.nil, nofun⟩, nofun⟩

/-- **Whatever is done to ids** keeps them apart. -/
theorem Sound.step (h : n.Sound) (hgo : n.Goes n') : n'.Sound := by
  cases hgo with
  | keeps hheld hunsent =>
    exact ⟨h.held.subperm hheld, h.unsent.subperm hunsent, h.sent, fun id hid => h.apart id (hunsent.subset hid)⟩
  | hands hheld hunsent =>
    refine ⟨h.held.cons.subperm hheld.subperm, h.unsent.cons.subperm hunsent.subperm, h.sent.succ, ?_⟩
    intro id hid
    rcases List.mem_cons.mp (hunsent.mem_iff.mp hid) with rfl | hid
    · exact h.sent.next_not_mem
    · exact h.apart id hid
  | @sends id held unsent hheld hunsent =>
    -- the id was to be sent once, and is not to be sent again
    have hmine : id ∈ n.unsent := hunsent.mem_iff.mpr List.mem_cons_self
    have hothers : ∀ i ∈ unsent, i ≠ id ∧ i ∈ n.unsent := by
      intro i hi
      refine ⟨?_, hunsent.mem_iff.mpr (List.mem_cons_of_mem id hi)⟩
      rintro rfl
      exact (List.nodup_cons.mp (hunsent.nodup_iff.mp h.unsent.nodup)).1 hi
    have hall : n.sent ++ [id] ~ id :: n.sent := List.perm_append_singleton id n.sent
    refine ⟨h.held.subperm hheld.subperm, h.unsent.subperm ?_, ⟨?_, ?_⟩, ?_⟩
    · exact (List.sublist_cons_self id unsent).subperm.trans hunsent.symm.subperm
    · exact hall.nodup_iff.mpr (List.nodup_cons.mpr ⟨h.apart id hmine, h.sent.nodup⟩)
    · intro i hi
      rcases List.mem_cons.mp (hall.mem_iff.mp hi) with rfl | hi
      · exact h.unsent.lt i hmine
      · exact h.sent.lt i hi
    · intro i hi hsent
      obtain ⟨hne, hi⟩ := hothers i hi
      rcases List.mem_cons.mp (hall.mem_iff.mp hsent) with rfl | hsent
      · exact hne rfl
      · exact h.apart i hi hsent

/-- Ids that somebody holds behind a step and nobody held before. -/
def fresh (n n' : Numbers) : List Nat := n'.held.diff n.held

/-- Where nobody holds more nobody got an id. -/
theorem fresh_eq_nil (h : n'.held <+~ n.held) : n.fresh n' = [] := by
  rw [List.eq_nil_iff_forall_not_mem]
  intro id hid
  have hcount := List.count_diff id n'.held n.held
  have hle := h.count_le id
  have hpos := List.count_pos_iff.mpr hid
  rw [fresh] at hpos
  omega

/-- **Ids are given out in order**, one after the other. -/
theorem Sound.range_fresh (h : n.Sound) (hgo : n.Goes n') :
    List.range n'.next = List.range n.next ++ n.fresh n' := by
  cases hgo with
  | keeps hheld hunsent => rw [fresh_eq_nil hheld, List.append_nil]
  | @hands held unsent hheld hunsent =>
    have hone : held.diff n.held ~ [n.next] := by
      have hnone : n.fresh n = [] := fresh_eq_nil (.refl _)
      have hdiff := hheld.diff_right n.held
      rwa [List.cons_diff_of_not_mem h.held.next_not_mem, ← fresh, hnone] at hdiff
    rw [List.range_succ, fresh, List.perm_singleton.mp hone]
  | sends hheld hunsent => rw [fresh_eq_nil hheld.subperm, List.append_nil]

/-- A request that was queued, or is not to be queued, is settled about: nothing is queued under its id any more. -/
theorem Goes.returned {id : Nat} (h : n.Goes n') (hid : id < n.next) (hback : id ∉ n.unsent) :
    id < n'.next ∧ id ∉ n'.unsent ∧ ∃ more, n'.sent = n.sent ++ more ∧ id ∉ more := by
  cases h with
  | keeps hheld hunsent =>
    exact ⟨hid, fun hmem => hback (hunsent.subset hmem), [], (List.append_nil _).symm, List.not_mem_nil⟩
  | hands hheld hunsent =>
    refine ⟨Nat.lt_succ_of_lt hid, ?_, [], (List.append_nil _).symm, List.not_mem_nil⟩
    rw [hunsent.mem_iff, List.mem_cons, not_or]
    exact ⟨Nat.ne_of_lt hid, hback⟩
  | @sends i held unsent hheld hunsent =>
    rw [hunsent.mem_iff, List.mem_cons, not_or] at hback
    exact ⟨hid, hback.2, [i], rfl, by simpa using hback.1⟩

end Numbers

-- ---------------------------------------------------------------------------
-- In the books
-- ---------------------------------------------------------------------------

/-- The ids of requests under way. -/
def heldIds (es : List Errand) : List Nat := es.map (·.ticket.id)

/-- The ids of calls that have not returned: the request is not queued yet, or could not be queued. -/
def unsentIds (es : List Errand) : List Nat := (es.filter (·.isUnsent)).map (·.ticket.id)

namespace Books

variable {b b' : Books}

def numbers (b : Books) : Numbers := ⟨b.desk.table.nextId, heldIds b.errands, unsentIds b.errands, b.sent⟩

/-- A step that hands out nothing and queues nothing. -/
theorem numbers_keeps (hnext : b'.desk.table.nextId = b.desk.table.nextId)
    (hheld : heldIds b'.errands <+~ heldIds b.errands) (hunsent : unsentIds b'.errands <+~ unsentIds b.errands)
    (hsent : b'.sent = b.sent) : b.numbers.Goes b'.numbers := by
  rw [numbers, numbers, hnext, hsent]
  exact .keeps hheld hunsent

/-- **Whatever happens to the books** is done to ids. -/
theorem Goes.numbers {taking : Bool} (h : b.Goes taking b') : b.numbers.Goes b'.numbers := by
  induction h with
  | keeps b => exact .keeps (.refl _) (.refl _)
  | before hperm hgo ih => exact ih.before (hperm.map _) ((hperm.filter _).map _)
  | behind hgo hperm ih => exact ih.behind (hperm.map _) ((hperm.filter _).map _)
  | issues b now timeout method params =>
    have hid : b.desk.register.1 = b.desk.table.nextId := b.desk.id_register
    have hnext : b.desk.register.2.table.nextId = b.desk.table.nextId + 1 := b.desk.table.step_register.2.2.1
    rw [Books.numbers, Books.numbers, hnext]
    exact .hands (by rw [← hid]; exact .refl _) (by rw [← hid]; exact .refl _)
  | sends hes =>
    rw [Books.numbers, hes]
    exact .sends (.refl _) (.refl _)
  | fails hes hshut => exact numbers_keeps rfl (by rw [hes]; exact .refl _) (by rw [hes]; exact .refl _) rfl
  | @refuses b ticket fault es hes =>
    have hnext : ((b.desk.settle ticket.id (.error fault)).toOption.getD b.desk).table.nextId =
        b.desk.table.nextId := by
      cases hsettle : b.desk.settle ticket.id (.error fault) with
      | error reason => rfl
      | ok desk => exact Desk.nextId_of_settle hsettle
    -- from now on the call has returned
    exact numbers_keeps hnext (by rw [hes]; exact .refl _)
      (by rw [hes]; exact (List.sublist_cons_self ticket.id _).subperm) rfl
  | @polls b ticket es hes now =>
    refine numbers_keeps (ticket.nextId_of_poll now b.desk) ?_ ?_ rfl <;> rw [hes]
    · exact (List.sublist_cons_self ticket.id _).subperm
    · exact .refl _
  | @drops b ticket es hes =>
    refine numbers_keeps (ticket.nextId_of_discard b.desk) ?_ ?_ rfl <;> rw [hes]
    · exact (List.sublist_cons_self ticket.id _).subperm
    · exact .refl _
  | settles hreading hclass hid hsettle =>
    exact numbers_keeps (Desk.nextId_of_settle hsettle) (.refl _) (.refl _) rfl
  | passes hreading hidle => exact .keeps (.refl _) (.refl _)
  | ends b => exact .keeps (.refl _) (.refl _)
  | closes b => exact .keeps (.refl _) (.refl _)

end Books

-- ---------------------------------------------------------------------------
-- In a scene
-- ---------------------------------------------------------------------------

/-- Nobody is still about to queue the request of this id, or to say that it could not be queued. -/
def Scene.Returned (sc : Scene σ) (id : Nat) : Prop := id ∉ unsentIds (sc.callers ++ sc.errands)

/-- The ids in the request frames that were queued, in order. -/
def Course.requested (c : Course σ) : List Nat := c.line.sent

/-- Any number of things that happen, and the ids that callers get meanwhile: what they hold behind a step and did not
hold before, over all callers. -/
inductive Hands (handler : Handler σ) : Scene σ → List Nat → Scene σ → Prop
  | refl (sc : Scene σ) : Hands handler sc [] sc
  | tail {sc sc' sc'' : Scene σ} {ids : List Nat} (h : Hands handler sc ids sc')
    (hlast : Happens handler sc' sc'') :
    Hands handler sc (ids ++ (heldIds (sc''.callers ++ sc''.errands)).diff (heldIds (sc'.callers ++ sc'.errands))) sc''

variable {handler : Handler σ} {config : Config} {memory : σ} {sc sc' : Scene σ} {ids later : List Nat}

theorem Hands.plays (h : Hands handler sc ids sc') : Plays handler (fun _ => True) sc sc' := by
  induction h with
  | refl => exact .refl
  | tail h hlast ih => exact ih.tail ⟨hlast, trivial⟩

/-- In every play some ids are handed out. -/
theorem Plays.hands {holds : Scene σ → Prop} (h : Plays handler holds sc sc') : ∃ ids, Hands handler sc ids sc' := by
  induction h with
  | refl => exact ⟨[], .refl sc⟩
  | tail _ hlast ih =>
    obtain ⟨ids, hids⟩ := ih
    exact ⟨_, hids.tail hlast.1⟩

/-- What happens next in a play is done to ids. -/
theorem Plays.numbers {holds : Scene σ → Prop} (h : Plays handler holds (Scene.create config memory) sc)
    (hnext : Happens handler sc sc') : sc.books.numbers.Goes sc'.books.numbers :=
  (hnext.books (orderly_plays h) (whole_run (Plays.runs h))).numbers

/-- **The invariant**, at any moment of a scene. -/
theorem numbered_plays {holds : Scene σ → Prop} (h : Plays handler holds (Scene.create config memory) sc) :
    sc.books.numbers.Sound := by
  induction h with
  | refl => exact Numbers.sound_empty
  | tail hplays hlast ih => exact ih.step (Plays.numbers hplays hlast.1)

section

variable (hbefore : Plays handler (fun _ => True) (Scene.create config memory) sc) (h : Hands handler sc ids sc')
include hbefore h

/-- **The ids that are handed out** are counted on. -/
theorem Hands.range :
    List.range sc'.state.desk.table.nextId = List.range sc.state.desk.table.nextId ++ ids := by
  induction h with
  | refl => exact (List.append_nil _).symm
  | @tail sc' sc'' ids h hlast ih =>
    have hplays := hbefore.trans h.plays
    have hfresh := (numbered_plays hplays).range_fresh (Plays.numbers hplays hlast)
    rw [← List.append_assoc, ← ih]
    exact hfresh

/-- **Behind its return** a call queues nothing. -/
theorem Hands.returned {id : Nat} (hid : id < sc.state.desk.table.nextId) (hback : sc.Returned id) :
    id < sc'.state.desk.table.nextId ∧ sc'.Returned id ∧
      ∃ more, sc'.requested = sc.requested ++ more ∧ id ∉ more := by
  induction h with
  | refl => exact ⟨hid, hback, [], (List.append_nil _).symm, List.not_mem_nil⟩
  | @tail sc' sc'' ids h hlast ih =>
    obtain ⟨hid, hback, more, hmore, hnot⟩ := ih
    obtain ⟨hid', hback', last, hlast, hnot'⟩ := (Plays.numbers (hbefore.trans h.plays) hlast).returned hid hback
    have hlast' : sc''.requested = sc'.requested ++ last := hlast
    refine ⟨hid', hback', more ++ last, ?_, ?_⟩
    · rw [hlast', hmore, List.append_assoc]
    · rw [List.mem_append, not_or]
      exact ⟨hnot, hnot'⟩

end

/-- **Our requests are numbered** as they are made, whoever makes them, and whatever happens in between, before and
behind the end of the session.

* The ids that callers get are 0, 1, 2 and so on, in this order.
* Of the frames that were queued each request frame has an id that a caller got, and no two have the same.
* Whoever gets an id when a call has returned gets a larger one than that call, and if the requests of both were
  queued, the frame of that call was queued first. -/
theorem requests_numbered (hfirst : Hands handler (Scene.create config memory) ids sc)
    (hthen : Hands handler sc later sc') :
    ids ++ later = List.range (ids ++ later).length ∧
      (sc'.entered.map Saying.frame = sc'.state.queued ∧ sc'.requested.Nodup ∧
        ∀ id ∈ sc'.requested, id ∈ ids ++ later) ∧
      ∀ a ∈ ids, sc.Returned a → ∀ b ∈ later,
        a < b ∧ (a ∈ sc'.requested → b ∈ sc'.requested → [a, b] <+ sc'.requested) := by
  have hplays := hfirst.plays
  have hplays' := hplays.trans hthen.plays
  have hsound := numbered_plays hplays'
  have hids : List.range sc.state.desk.table.nextId = ids := hfirst.range .refl
  have hall : List.range sc'.state.desk.table.nextId = ids ++ later := hids ▸ hthen.range hplays
  refine ⟨?_, ⟨Course.frames_entered (whole_run (Plays.runs hplays')), hsound.sent.nodup, ?_⟩, ?_⟩
  · rw [← hall, List.length_range]
  · intro id hid
    rw [← hall, List.mem_range]
    exact hsound.sent.lt id hid
  · intro a ha hback b hb
    have ha' : a < sc.state.desk.table.nextId := by rwa [← hids, List.mem_range] at ha
    have hb' : sc.state.desk.table.nextId ≤ b := by
      have hnodup : (ids ++ later).Nodup := hall ▸ List.nodup_range
      have hnot : b ∉ ids := fun hmem => (List.nodup_append.mp hnodup).2.2 b hmem b hb rfl
      rwa [← hids, List.mem_range, Nat.not_lt] at hnot
    refine ⟨Nat.lt_of_lt_of_le ha' hb', ?_⟩
    intro hsenta hsentb
    -- the one was queued by then, and the other was not yet given out
    obtain ⟨-, -, more, hmore, hnot⟩ := hthen.returned hplays ha' hback
    rw [hmore, List.mem_append] at hsenta hsentb
    rw [hmore]
    have hfront : a ∈ sc.requested := hsenta.resolve_right hnot
    have hbehind : b ∈ more := by
      refine hsentb.resolve_left fun hmem => ?_
      exact Nat.not_lt.mpr hb' ((numbered_plays hplays).sent.lt b hmem)
    exact (List.singleton_sublist.mpr hfront).append (List.singleton_sublist.mpr hbehind)

/-- Two make requests, and the later is queued first. -/
def laterQueuedFirst : List Deed := [.start, .call "a" .null, .call "b" .null, .carry 0, .carry 1]

/-- One more request is queued, a write fails, and the next cannot be queued. -/
def writeFailsBeforeLast : List Deed :=
  [.call "c" .null, .carry 0, .take, .fail "gone", .call "d" .null, .carry 0, .carry 0]

/-- Two calls cross, and both come before a third. -/
theorem requests_numbered_crossed :
    ∃ (sc sc' : Scene Unit) (ids later : List Nat),
      Hands Rehearsal.handler (Scene.create {} ()) ids sc ∧ Hands Rehearsal.handler sc later sc' ∧
      ids = [0, 1] ∧ later = [2, 3] ∧ sc.Returned 0 ∧ sc'.requested = [1, 0, 2] ∧
      ids ++ later = List.range (ids ++ later).length ∧ 0 < 2 ∧ [0, 2] <+ sc'.requested := by
  have hplay : ((Scene.create {} ()).play Rehearsal.handler (fun _ => true) laterQueuedFirst).any (fun sc =>
      !(unsentIds (sc.callers ++ sc.errands)).contains 0 && sc.state.desk.table.nextId == 2 &&
        (sc.play Rehearsal.handler (fun _ => true) writeFailsBeforeLast).any fun sc' =>
          sc'.requested == [1, 0, 2] && sc'.state.desk.table.nextId == 4) = true := by
    decide +kernel
  obtain ⟨sc, hscene, hfacts⟩ := (Option.any_eq_true _ _).mp hplay
  rw [Bool.and_eq_true, Bool.and_eq_true, Bool.not_eq_true', beq_iff_eq] at hfacts
  obtain ⟨⟨hback, hnext⟩, hplay'⟩ := hfacts
  obtain ⟨sc', hscene', hfacts'⟩ := (Option.any_eq_true _ _).mp hplay'
  rw [Bool.and_eq_true, beq_iff_eq, beq_iff_eq] at hfacts'
  obtain ⟨hrequested, hnext'⟩ := hfacts'
  have hplays : Plays Rehearsal.handler (fun _ => True) (Scene.create {} ()) sc :=
    plays_of_play (fun _ => trivial) hscene
  have hplays' : Plays Rehearsal.handler (fun _ => True) sc sc' := plays_of_play (fun _ => trivial) hscene'
  obtain ⟨ids, hfirst⟩ := Plays.hands hplays
  obtain ⟨later, hthen⟩ := Plays.hands hplays'
  have hids : ids = [0, 1] := by
    have hrange : List.range sc.state.desk.table.nextId = ids := hfirst.range .refl
    rw [← hrange, hnext]
    rfl
  have hlater : later = [2, 3] := by
    have hrange : List.range sc'.state.desk.table.nextId = [0, 1] ++ later := by
      rw [hthen.range hplays, hnext]
      rfl
    rw [hnext'] at hrange
    have hsplit : [0, 1] ++ [2, 3] = [0, 1] ++ later := hrange
    exact (List.append_cancel_left hsplit).symm
  have hreturned : sc.Returned 0 := by
    intro hmem
    rw [List.contains_iff_mem.mpr hmem] at hback
    cases hback
  obtain ⟨hall, -, horder⟩ := requests_numbered hfirst hthen
  obtain ⟨hlt, hqueued⟩ := horder 0 (by rw [hids]; decide) hreturned 2 (by rw [hlater]; decide)
  exact ⟨sc, sc', ids, later, hfirst, hthen, hids, hlater, hreturned, hrequested, hall, hlt,
    hqueued (by rw [hrequested]; decide) (by rw [hrequested]; decide)⟩

end EditorLink.Session
