import EditorLink.Proofs.Correlation.Desk

/-!
# EditorLink — no ticket is lost

A desk knows the id of a ticket as long as somebody waits under it, or something is put down for it. Nothing that
is done at the desk makes it forget an id, but for what is done with the ticket itself. So a ticket never brings the
news that nothing will come: what it brings was put down for it, or its time is up.

That a ticket is asked with once it has brought something, or that two callers hold the same one, is not excluded
here. Both are hypotheses of the lemmas: the ticket is fresh (`done = false`), and the others that are asked with have
other ids. A session discharges them, since it hands each ticket to one caller only.

The proofs follow the operations of the table: one lemma says what `Op` does to an id that is known (`Knows.op`), and
each thing that is done at a desk is one operation or none.

## Results

* `Desk.Knows` — an id that is waited for, or for which something is put down;
* `Knows.op` — an operation of the table keeps it, unless it abandons this id;
* `Knows.register`, `Knows.settle`, `Knows.poll`, `Knows.discard`, `Knows.closeAll` — what is done at a desk keeps it;
* `Ticket.told_of_knows` — what a ticket brings whose id is known.
-/

namespace EditorLink.Correlation

open Message (CallFault)

namespace Desk

/-- Somebody waits under this id, or something is put down for it. -/
def Knows (d : Desk) (id : Nat) : Prop := id ∈ d.table.waiting ∨ ∃ δ ∈ d.uncollected, δ.id = id

variable {d d' : Desk} {id : Nat}

/-- **An operation of the table** takes an id from those who wait only to deliver something for it, or because it is
given up. -/
theorem Knows.op (h : d.Knows id) (op : Op) (hop : op ≠ .abandon id) (htable : d'.table = (d.table.step op).2)
    (huncollected : d'.uncollected = (d.table.step op).1 ++ d.uncollected) : d'.Knows id := by
  rw [Knows, htable, huncollected]
  rcases h with hwaiting | ⟨δ, hδ, hid⟩
  case inr => exact .inr ⟨δ, List.mem_append_right _ hδ, hid⟩
  cases op with
  | register =>
    rw [d.table.step_register.2.1]
    split
    · exact .inl hwaiting
    · exact .inl (List.mem_cons_of_mem _ hwaiting)
  | settle i outcome =>
    obtain ⟨hdelivers, hwaits, -, -⟩ := d.table.step_settle i outcome
    by_cases hi : i = id
    · rw [hdelivers, hi, if_pos hwaiting]
      exact .inr ⟨_, List.mem_append_left _ (List.mem_singleton.mpr rfl), rfl⟩
    · rw [hwaits]
      exact .inl ((List.mem_erase_of_ne (Ne.symm hi)).mpr hwaiting)
  | abandon i =>
    have hi : id ≠ i := fun heq => hop (heq ▸ rfl)
    rw [(d.table.step_abandon i).2.1]
    exact .inl ((List.mem_erase_of_ne hi).mpr hwaiting)
  | closeAll =>
    rw [d.table.step_closeAll.1]
    exact .inr ⟨_, List.mem_append_left _ (List.mem_map_of_mem (List.mem_reverse.mpr hwaiting)), rfl⟩

/-- A new request does not push out one that is known. -/
theorem Knows.register (h : d.Knows id) : d.register.2.Knows id := h.op .register (by simp) rfl rfl

/-- Whoever registers waits, or is told at once that the connection is gone. -/
theorem knows_register (d : Desk) : d.register.2.Knows d.table.nextId := by
  obtain ⟨hdelivers, hwaiting, -, -⟩ := d.table.step_register
  have htable : d.register.2.table = (d.table.step .register).2 := rfl
  have huncollected : d.register.2.uncollected = (d.table.step .register).1 ++ d.uncollected := rfl
  rw [Knows, htable, huncollected, hdelivers, hwaiting]
  split
  · exact .inr ⟨_, List.mem_append_left _ (List.mem_singleton.mpr rfl), rfl⟩
  · exact .inl List.mem_cons_self

/-- An answer that is taken, also if it is for this id: then it is put down. -/
theorem Knows.settle (h : d.Knows id) {n : Nat} {outcome : Outcome} (hsettle : d.settle n outcome = .ok d') :
    d'.Knows id := by
  obtain ⟨done, hdone, htable, huncollected⟩ := of_settle hsettle
  have hstep : d.table.step (.settle n outcome) = done := by rw [Table.step, hdone]
  exact h.op (.settle n outcome) (by simp) (by rw [hstep]; exact htable) (by rw [hstep]; exact huncollected)

/-- Closing the desk puts something down for all who wait. -/
theorem Knows.closeAll (h : d.Knows id) : d.closeAll.2.Knows id := h.op .closeAll (by simp) rfl rfl

/-- Whoever gives up a request makes the desk forget that one only. -/
theorem Knows.abandon (h : d.Knows id) {i : Nat} (hi : id ≠ i) : (d.abandon i).Knows id :=
  h.op (.abandon i) (fun heq => hi (Op.abandon.inj heq).symm) rfl rfl

/-- What is put down for another id is not collected. -/
theorem Knows.collect (h : d.Knows id) {i : Nat} (hi : id ≠ i) : (d.collect i).2.Knows id := by
  rw [Knows, d.table_collect]
  refine h.imp_right ?_
  rintro ⟨δ, hδ, rfl⟩
  refine ⟨δ, ?_, rfl⟩
  rw [Desk.collect]
  split
  · exact List.mem_filter.mpr ⟨hδ, bne_iff_ne.mpr hi⟩
  · exact hδ

/-- Another ticket may be asked with. -/
theorem Knows.poll (h : d.Knows id) {t : Ticket} (hid : id ≠ t.id) (now : Nat) : (t.poll now d).2.2.Knows id := by
  rcases t.desk_of_poll now d with hdesk | hdesk | hdesk <;> rw [hdesk]
  · exact h
  · exact h.collect hid
  · exact (h.collect hid).abandon hid

/-- Another ticket may be thrown away. -/
theorem Knows.discard (h : d.Knows id) {t : Ticket} (hid : id ≠ t.id) : (t.discard d).Knows id := by
  rw [Ticket.discard]
  split
  · exact h
  · exact h.abandon hid

/-- Whoever collects for an id that is known is not told that there will be nothing. -/
theorem Knows.not_lost (h : d.Knows id) : (d.collect id).1 ≠ .lost := by
  rw [Desk.collect]
  cases hfind : d.uncollected.find? (·.id == id) with
  | some δ => exact Receipt.noConfusion
  | none =>
    have hwaiting : id ∈ d.table.waiting := by
      refine h.resolve_right ?_
      rintro ⟨δ, hδ, rfl⟩
      exact List.find?_eq_none.mp hfind δ hδ (beq_self_eq_true _)
    rw [List.contains_iff_mem.mpr hwaiting]
    exact Receipt.noConfusion

end Desk

/-- **A ticket that is known** brings what was put down for it, or that its time is up. -/
theorem Ticket.told_of_knows {t : Ticket} (hdone : t.done = false) {d : Desk} (hknows : d.Knows t.id) {now : Nat}
    {outcome : Outcome} (h : (t.poll now d).1 = some outcome) :
    (∃ δ ∈ d.uncollected, δ.id = t.id ∧ δ.outcome = outcome) ∨ t.Lapses now outcome := by
  rcases poll_cases hdone now d with ⟨_, hcollect, hpoll⟩ | ⟨hlost, -⟩ | ⟨-, hpoll | ⟨_, hlapses, hpoll⟩⟩
  · rw [hpoll] at h
    cases h
    exact .inl (d.delivered_of_collect hcollect)
  · exact absurd hlost hknows.not_lost
  · rw [hpoll] at h
    cases h
  · rw [hpoll] at h
    cases h
    exact .inr hlapses

end EditorLink.Correlation
