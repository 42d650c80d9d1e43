import EditorLink.Proofs.Correlation.Desk

/-!
# EditorLink — a desk that is closed

Whatever callers and the other side do at a desk, in whatever order: once it is closed nobody waits at it, whoever
asks with a ticket is told something, and whoever comes later is told that the connection is gone.

Everything that can be done at a desk is one operation of its table, or leaves the table as it is (`Desk.Goes.op`).
So the invariant of the table carries over, and what is added is about what is put down for collection: none of it
is for an id that was not given out.

Closing is for good. There is no operation that opens a desk again, and `Desk.Shut` says what is left: the table is
closed, and what is put down for an id that was given out since is that the connection is gone. An answer that was
put down before may still be collected, so that not everybody is told the same.

## Results

* `Desk.Goes` — what can be done at a desk, and `Desk.Goes.op`, each time an operation of its table;
* `Desk.Sound` — the invariant of the desk;
* `Desk.Shut` — what stays as it is at a closed desk;
* `Desk.Sound.poll`, `Desk.Shut.poll` — what a ticket brings at such a desk.
-/

namespace EditorLink.Correlation

namespace Desk

/-- What can be done at a desk. -/
inductive Goes (d : Desk) : Desk → Prop
  | keeps : Goes d d
  | registers : Goes d d.register.2
  | settles {id : Nat} {outcome : Outcome} {d' : Desk} (h : d.settle id outcome = .ok d') : Goes d d'
  | polls (ticket : Ticket) (now : Nat) : Goes d (ticket.poll now d).2.2
  | discards (ticket : Ticket) : Goes d (ticket.discard d)
  | closes : Goes d d.closeAll.2

variable {d d' : Desk}

/-- **Whatever is done at a desk** is at most one operation of its table, and nothing is put down to be collected
but what that delivers. -/
theorem Goes.op (h : d.Goes d') :
    d'.table = d.table ∧ d'.uncollected ⊆ d.uncollected ∨
      ∃ op, d'.table = (d.table.step op).2 ∧
        d'.uncollected ⊆ (d.table.step op).1 ++ d.uncollected := by
  cases h with
  | keeps => exact .inl ⟨rfl, List.Subset.refl _⟩
  | registers => exact .inr ⟨.register, rfl, List.Subset.refl _⟩
  | @settles id outcome _ h =>
    obtain ⟨done, hdone, htable, huncollected⟩ := of_settle h
    refine .inr ⟨.settle id outcome, ?_, ?_⟩ <;> rw [Table.step, hdone]
    · exact htable
    · rw [huncollected]
      exact List.Subset.refl _
  | polls ticket now =>
    have huncollected := ticket.uncollected_of_poll now d
    exact (ticket.table_of_poll now d).imp (⟨·, huncollected⟩) fun h => ⟨.abandon ticket.id, h, huncollected⟩
  | discards ticket =>
    have huncollected : (ticket.discard d).uncollected ⊆ d.uncollected := by
      rw [ticket.uncollected_of_discard]
      exact List.Subset.refl _
    exact (ticket.table_of_discard d).imp (⟨·, huncollected⟩) fun h => ⟨.abandon ticket.id, h, huncollected⟩
  | closes => exact .inr ⟨.closeAll, rfl, List.Subset.refl _⟩

/-- The ticket has the id that the table gives out next. -/
theorem id_register (d : Desk) : d.register.1 = d.table.nextId := by
  show d.table.register.1 = d.table.nextId
  rw [Table.register]
  split <;> rfl

/-- The invariant of a desk: its table is sound, and nothing is there for an id that was not given out. -/
structure Sound (d : Desk) : Prop where
  table : d.table.Sound
  given : ∀ δ ∈ d.uncollected, δ.id < d.table.nextId

/-- Nobody was at the desk yet. -/
theorem sound_empty : Sound {} := ⟨Table.sound_empty, nofun⟩

/-- **Whatever is done** keeps the invariant of the desk. -/
theorem Sound.step (h : d.Sound) (hgo : d.Goes d') : d'.Sound := by
  rcases hgo.op with ⟨htable, huncollected⟩ | ⟨op, htable, huncollected⟩
  · refine ⟨htable ▸ h.table, ?_⟩
    intro δ hδ
    rw [htable]
    exact h.given δ (huncollected hδ)
  · refine ⟨htable ▸ h.table.step op, ?_⟩
    intro δ hδ
    rw [htable]
    rcases List.mem_append.mp (huncollected hδ) with hnew | hold
    · exact h.table.id_le_of_mem_step hnew
    · exact Nat.lt_of_lt_of_le (h.given δ hold) (d.table.nextId_le_step op)

/-- A closed desk is not opened again. -/
theorem Goes.closed (hgo : d.Goes d') (h : d.table.closed = true) : d'.table.closed = true := by
  rcases hgo.op with ⟨htable, -⟩ | ⟨op, htable, -⟩
  · rwa [htable]
  · rw [htable]
    exact (d.table.closed_run [op]).trans (by rw [h, Bool.true_or])

/-- A desk that is closed, where nothing else is there for the ids from `since` on than that the connection is
gone. -/
structure Shut (since : Nat) (d : Desk) : Prop where
  sound : d.Sound
  closed : d.table.closed = true
  late : ∀ δ ∈ d.uncollected, since ≤ δ.id → δ.outcome = .error .closed

/-- **Closed** is closed for all ids that were not given out by then. -/
theorem Sound.shut (h : d.Sound) (hclosed : d.table.closed = true) : d.Shut d.table.nextId := by
  refine ⟨h, hclosed, ?_⟩
  intro δ hδ hle
  exact absurd (h.given δ hδ) (Nat.not_lt.mpr hle)

/-- **Nothing opens it again**, and whoever comes later is told that it is closed. -/
theorem Shut.step {since : Nat} (h : d.Shut since) (hgo : d.Goes d') : d'.Shut since := by
  refine ⟨h.sound.step hgo, hgo.closed h.closed, ?_⟩
  intro δ hδ hle
  rcases hgo.op with ⟨-, huncollected⟩ | ⟨op, -, huncollected⟩
  · exact h.late δ (huncollected hδ) hle
  · rcases List.mem_append.mp (huncollected hδ) with hnew | hold
    · -- nobody waits, so that only one who registers is told something
      obtain ⟨hreaches, hwaits | rfl⟩ := Table.reaches_of_mem_step hnew
      · rw [h.sound.table.closed h.closed] at hwaits
        cases hwaits
      · rw [hreaches.2]
    · exact h.late δ hold hle

/-- **At a closed desk** each ticket brings an outcome. -/
theorem Sound.poll (h : d.Sound) (hclosed : d.table.closed = true) (ticket : Ticket) (now : Nat) :
    (∃ δ ∈ d.uncollected, δ.id = ticket.id ∧ (ticket.poll now d).1 = some δ.outcome) ∨
      (ticket.poll now d).1 = some (.error .closed) := by
  rw [Ticket.poll]
  split
  · exact .inr rfl
  · -- at a closed desk nobody waits
    have hcollect := d.collect_cases ticket.id
    rw [h.table.closed hclosed] at hcollect
    generalize d.collect ticket.id = found at hcollect
    obtain ⟨receipt, left⟩ := found
    rcases hcollect with ⟨δ, hδ, hid, hreceipt⟩ | hreceipt
    · obtain rfl : receipt = .delivered δ.outcome := hreceipt
      exact .inl ⟨δ, hδ, hid, rfl⟩
    · obtain rfl : receipt = .lost := hreceipt
      exact .inr rfl

/-- **A ticket that was given out later** brings the news that the connection is gone. -/
theorem Shut.poll {since : Nat} (h : d.Shut since) {ticket : Ticket} (hlate : since ≤ ticket.id)
    (now : Nat) : (ticket.poll now d).1 = some (.error .closed) := by
  rcases h.sound.poll h.closed ticket now with ⟨δ, hδ, hid, hpoll⟩ | hpoll
  · rw [hpoll, h.late δ hδ (hid ▸ hlate)]
  · exact hpoll

end Desk
end EditorLink.Correlation
