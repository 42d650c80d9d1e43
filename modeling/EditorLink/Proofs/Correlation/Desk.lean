import EditorLink.Correlation.Ticket
import EditorLink.Proofs.Correlation.Deliveries

/-!
# EditorLink — callers at a desk, and its table

A desk hands on to its table what callers and the other side do, and keeps what the table delivers until somebody
collects it. Each way of dealing with a desk has one lemma here that says what becomes of the table, and one that
says what is there to be collected behind it; callers of these operations do not open them again.

A ticket stands for one request. Asking with it has four ends: something was put down and is collected, nothing will
ever be put down, the time of the ticket is up and the request is given up, or there is nothing yet. `Ticket.poll_cases`
names them. The second does not occur in a session, for which `EditorLink.Proofs.Correlation.Awaiting` gives the
reason.

What is collected is gone: nothing here says that a caller asks only once, or in time.

## Results

* `Desk.of_settle`, `Desk.table_of_refuse` — an outcome comes to the desk;
* `Ticket.table_of_poll`, `Ticket.table_of_discard` — a caller looks for its outcome, or goes away;
* `Ticket.Lapses` — the time of a ticket is up, and what its caller is told then;
* `Ticket.poll_cases` — what asking with a ticket comes to;
* `…uncollected…` — what is there to be collected.
-/

namespace EditorLink.Correlation

open Message (CallFault)

namespace Desk

variable {d d' : Desk} {n : Nat} {outcome : Outcome}

/-- An outcome is taken at a desk if the table takes it. -/
theorem of_settle (h : d.settle n outcome = .ok d') :
    ∃ done, d.table.settle n outcome = .ok done ∧ d'.table = done.2 ∧
      d'.uncollected = done.1 ++ d.uncollected := by
  rw [settle] at h
  cases hsettle : d.table.settle n outcome with
  | error fault =>
    rw [hsettle] at h
    cases h
  | ok done =>
    rw [hsettle] at h
    cases h
    exact ⟨done, rfl, rfl, rfl⟩

/-- An answer does not close the desk. -/
theorem closed_of_settle (h : d.settle n outcome = .ok d') : d'.table.closed = d.table.closed := by
  obtain ⟨done, hdone, htable, -⟩ := of_settle h
  have hclosed := (d.table.step_settle n outcome).2.2.2
  rw [Table.step, hdone] at hclosed
  exact (congrArg Table.closed htable).trans hclosed

theorem nextId_of_settle (h : d.settle n outcome = .ok d') : d'.table.nextId = d.table.nextId := by
  obtain ⟨done, hdone, htable, -⟩ := of_settle h
  have hnext := (d.table.step_settle n outcome).2.2.1
  rw [Table.step, hdone] at hnext
  exact (congrArg Table.nextId htable).trans hnext

/-- What is there to be collected behind an outcome is that outcome, or was there before. -/
theorem uncollected_of_settle (h : d.settle n outcome = .ok d') {δ : Delivery}
    (hδ : δ ∈ d'.uncollected) : δ = ⟨n, outcome⟩ ∨ δ ∈ d.uncollected := by
  obtain ⟨done, hdone, -, huncollected⟩ := of_settle h
  rw [huncollected, List.mem_append] at hδ
  refine hδ.imp_left fun hnew => ?_
  have hstep : δ ∈ (d.table.step (.settle n outcome)).1 := by
    rw [Table.step, hdone]
    exact hnew
  exact (Table.reaches_of_mem_step hstep).1

/-- A request that is not remembered is refused at most to whoever waits for it. -/
theorem table_of_refuse (h : n ∉ d.table.abandoned) (fault : CallFault) :
    ((d.settle n (.error fault)).toOption.getD d).table =
      { d.table with waiting := d.table.waiting.erase n } := by
  rw [settle, Table.settle]
  split
  · rfl
  · rename_i hwaits
    rw [List.contains_iff_mem] at hwaits
    rw [if_neg (by rwa [List.contains_iff_mem]), List.erase_of_not_mem hwaits]
    rfl

/-- Behind a request there is more to collect only if the desk is closed. -/
theorem uncollected_of_register {δ : Delivery} (hδ : δ ∈ d.register.2.uncollected) :
    δ.outcome = .error .closed ∨ δ ∈ d.uncollected := by
  have hmem : δ ∈ (d.table.step .register).1 ++ d.uncollected := hδ
  rw [List.mem_append] at hmem
  refine hmem.imp_left fun hnew => ?_
  rw [(Table.reaches_of_mem_step hnew).1.2]

/-- Closing puts down the same news for all. -/
theorem uncollected_of_closeAll {δ : Delivery} (hδ : δ ∈ d.closeAll.2.uncollected) :
    δ.outcome = .error .closed ∨ δ ∈ d.uncollected := by
  have hmem : δ ∈ (d.table.step .closeAll).1 ++ d.uncollected := hδ
  rw [List.mem_append] at hmem
  refine hmem.imp_left fun hnew => ?_
  have hreaches : Reaches d.table.closed d.table.nextId δ .closeAll :=
    (Table.reaches_of_mem_step hnew).1
  exact hreaches

/-- Collecting is between the caller and the desk. -/
theorem table_collect (d : Desk) (id : Nat) : (d.collect id).2.table = d.table := by
  unfold collect
  split <;> rfl

/-- Collecting takes something away, or leaves everything. -/
theorem uncollected_collect (d : Desk) (id : Nat) :
    (d.collect id).2.uncollected ⊆ d.uncollected := by
  unfold collect
  split
  · exact List.filter_subset_self _
  · exact List.Subset.refl _

/-- What was put down for a request is collected; else it is waited for, or lost. -/
theorem collect_cases (d : Desk) (id : Nat) :
    (∃ δ ∈ d.uncollected, δ.id = id ∧ (d.collect id).1 = .delivered δ.outcome) ∨
      (d.collect id).1 = if d.table.waiting.contains id then .waiting else .lost := by
  rw [collect]
  cases hfind : d.uncollected.find? (·.id == id) with
  | none => exact .inr rfl
  | some δ =>
    have hid := List.find?_some hfind
    exact .inl ⟨δ, List.mem_of_find?_eq_some hfind, beq_iff_eq.mp hid, rfl⟩

/-- What is collected was put down. -/
theorem delivered_of_collect (d : Desk) {id : Nat} {outcome : Outcome}
    (h : (d.collect id).1 = .delivered outcome) : ∃ δ ∈ d.uncollected, δ.id = id ∧ δ.outcome = outcome := by
  rcases d.collect_cases id with ⟨δ, hδ, hid, hreceipt⟩ | hreceipt
  · exact ⟨δ, hδ, hid, Receipt.delivered.inj (hreceipt.symm.trans h)⟩
  · rw [h] at hreceipt
    split at hreceipt <;> cases hreceipt

end Desk

namespace Ticket

/-- The time of a ticket is up, and this is what its holder is told. -/
def Lapses (t : Ticket) (now : Nat) (outcome : Outcome) : Prop :=
  ∃ deadline, t.deadline = some deadline ∧ deadline.due ≤ now ∧
    outcome = .error (.timedOut t.id deadline.after)

/-- What a ticket brings that has brought nothing yet. -/
theorem poll_cases {t : Ticket} (hdone : t.done = false) (now : Nat) (d : Desk) :
    (∃ outcome, (d.collect t.id).1 = .delivered outcome ∧ (t.poll now d).1 = some outcome) ∨
      ((d.collect t.id).1 = .lost ∧ (t.poll now d).1 = some (.error .closed)) ∨
      ((d.collect t.id).1 = .waiting ∧
        ((t.poll now d).1 = none ∨ ∃ outcome, t.Lapses now outcome ∧ (t.poll now d).1 = some outcome)) := by
  rw [poll, if_neg (by simp [hdone])]
  generalize d.collect t.id = found
  obtain ⟨receipt, left⟩ := found
  cases receipt with
  | delivered outcome => exact .inl ⟨outcome, rfl, rfl⟩
  | lost => exact .inr (.inl ⟨rfl, rfl⟩)
  | waiting =>
    refine .inr (.inr ⟨rfl, ?_⟩)
    simp only
    split
    · rename_i deadline hdeadline
      split
      · rename_i hdue
        exact .inr ⟨_, ⟨deadline, hdeadline, hdue, rfl⟩, rfl⟩
      · exact .inl rfl
    · exact .inl rfl

/-- Whoever looks for an outcome collects it, and may give up the request. -/
theorem desk_of_poll (t : Ticket) (now : Nat) (d : Desk) :
    (t.poll now d).2.2 = d ∨ (t.poll now d).2.2 = (d.collect t.id).2 ∨
      (t.poll now d).2.2 = (d.collect t.id).2.abandon t.id := by
  rw [poll]
  split
  · exact .inl rfl
  · generalize d.collect t.id = found
    obtain ⟨receipt, d'⟩ := found
    cases receipt with
    | delivered outcome => exact .inr (.inl rfl)
    | lost => exact .inr (.inl rfl)
    | waiting =>
      simp only
      split
      · split
        · exact .inr (.inr rfl)
        · exact .inr (.inl rfl)
      · exact .inr (.inl rfl)

/-- Asking with a ticket leaves the table, or gives up the request because its time is up. -/
theorem table_of_poll (t : Ticket) (now : Nat) (d : Desk) :
    (t.poll now d).2.2.table = d.table ∨ (t.poll now d).2.2.table = d.table.abandon t.id := by
  have htable := d.table_collect t.id
  rcases t.desk_of_poll now d with h | h | h <;> rw [h]
  · exact .inl rfl
  · exact .inl htable
  · exact .inr (congrArg (Table.abandon · t.id) htable)

theorem nextId_of_poll (t : Ticket) (now : Nat) (d : Desk) :
    (t.poll now d).2.2.table.nextId = d.table.nextId := by
  rcases t.table_of_poll now d with h | h <;> rw [h]
  exact (d.table.step_abandon t.id).2.2.1

/-- Asking puts nothing down. -/
theorem uncollected_of_poll (t : Ticket) (now : Nat) (d : Desk) :
    (t.poll now d).2.2.uncollected ⊆ d.uncollected := by
  rcases t.desk_of_poll now d with h | h | h <;> rw [h]
  · exact List.Subset.refl _
  · exact d.uncollected_collect t.id
  · exact d.uncollected_collect t.id

/-- Whoever gets no outcome keeps the ticket, and leaves the desk, as they are. -/
theorem eq_of_poll_none {t t' : Ticket} {now : Nat} {d d' : Desk}
    (h : t.poll now d = (none, t', d')) : t' = t ∧ d' = d := by
  rw [poll, Desk.collect] at h
  split at h
  · simp at h
  · cases hfind : d.uncollected.find? (·.id == t.id) with
    | some delivery => simp [hfind] at h
    | none =>
      rw [hfind] at h
      split at h
      · simp_all
      · simp at h
      · split at h
        · split at h <;> simp_all
        · simp_all

/-- Throwing a ticket away gives up its request, unless it has brought something. -/
theorem table_of_discard (t : Ticket) (d : Desk) :
    (t.discard d).table = d.table ∨ (t.discard d).table = d.table.abandon t.id := by
  rw [discard]
  split
  · exact .inl rfl
  · exact .inr rfl

theorem nextId_of_discard (t : Ticket) (d : Desk) : (t.discard d).table.nextId = d.table.nextId := by
  rcases t.table_of_discard d with h | h <;> rw [h]
  exact (d.table.step_abandon t.id).2.2.1

theorem uncollected_of_discard (t : Ticket) (d : Desk) :
    (t.discard d).uncollected = d.uncollected := by
  rw [discard]
  split <;> rfl

end Ticket
end EditorLink.Correlation
