import EditorLink.Proofs.Correlation.Representation

/-!
# EditorLink — which answers are taken

An answer is taken if the table holds its id: somebody waits for it, or gave it up and is remembered. It takes that id
out and leaves all others; any other answer is refused and changes nothing. Nothing brings an id back that was given
out, so that of all the answers to a request at most one is taken.

An id that was never given out is refused like one that was answered before. The converse, that an id which is not
held was answered or forgotten, needs the history of the table and is found in
`EditorLink.Proofs.Correlation.Forgetting`.

The statements are about one operation first and then about a run: what `settle` comes to (`Proper.settle_eq`), that
no operation makes the table hold an id below the next one again (`Proper.not_holds_step`), and by induction along the
operations that this stays so (`Proper.not_holds_run`).

## Results

* `Table.Holds`, `Table.without` — an id that the table holds, and the table that is left without it;
* `Proper.settle_eq`, `Proper.step_settle_eq` — what an answer comes to;
* `Proper.holds_of_step`, `Proper.not_holds_run` — nothing brings an id back;
* `taken` — the ids of the answers that are taken in a run;
* `answers_taken_once` — all of it for a new table and any operations.
-/

namespace EditorLink.Correlation

namespace Table

/-- Whether the table holds an id: it is waited for, or it was given up and is remembered. -/
def Holds (t : Table) (id : Nat) : Prop := id ∈ t.waiting ∨ id ∈ t.abandoned

instance (t : Table) (id : Nat) : Decidable (t.Holds id) := inferInstanceAs (Decidable (_ ∨ _))

/-- The table without an id. -/
def without (t : Table) (id : Nat) : Table :=
  { t with waiting := t.waiting.erase id, abandoned := t.abandoned.erase id }

variable {t : Table} {id : Nat}

-- ---------------------------------------------------------------------------
-- One answer
-- ---------------------------------------------------------------------------

/-- **An answer** is taken exactly if its id is held; then nothing but that id goes. -/
theorem Proper.settle_eq (h : t.Proper) (id : Nat) (outcome : Outcome) :
    t.settle id outcome =
      if t.Holds id then .ok (if id ∈ t.waiting then [⟨id, outcome⟩] else [], t.without id)
      else .error (.unknownId (.int id)) := by
  unfold settle without
  by_cases hw : id ∈ t.waiting
  · -- one who waits has not given up
    have ha : id ∉ t.abandoned := fun ha => h.apart id ha hw
    simp [Holds, hw, List.erase_of_not_mem ha]
  · by_cases ha : id ∈ t.abandoned
    · simp [Holds, hw, ha, List.erase_of_not_mem hw]
    · simp [Holds, hw, ha]

/-- An answer as an operation: the table is left without its id, or as it was. -/
theorem Proper.step_settle_eq (h : t.Proper) (id : Nat) (outcome : Outcome) :
    (t.step (.settle id outcome)).2 = if t.Holds id then t.without id else t := by
  rw [Table.step, h.settle_eq]
  by_cases hid : t.Holds id
  · rw [if_pos hid, if_pos hid]
  · rw [if_neg hid, if_neg hid]

/-- Nobody is remembered twice. -/
theorem Proper.nodup_abandoned (h : t.Proper) : t.abandoned.Nodup := h.ascending.imp Nat.ne_of_lt

/-- Without an id the table holds all others, in the same way. -/
theorem Proper.mem_without (h : t.Proper) (id i : Nat) :
    (i ∈ (t.without id).waiting ↔ i ≠ id ∧ i ∈ t.waiting) ∧
      (i ∈ (t.without id).abandoned ↔ i ≠ id ∧ i ∈ t.abandoned) :=
  ⟨h.nodup.mem_erase_iff, h.nodup_abandoned.mem_erase_iff⟩

/-- An id that was taken out is not held. -/
theorem Proper.not_holds_without (h : t.Proper) (id : Nat) : ¬ (t.without id).Holds id := by
  rintro (hid | hid)
  · exact ((h.mem_without id id).1.mp hid).1 rfl
  · exact ((h.mem_without id id).2.mp hid).1 rfl

-- ---------------------------------------------------------------------------
-- Nothing comes back
-- ---------------------------------------------------------------------------

/-- Nobody waits anew under an id that was given out. -/
theorem not_waiting_step (hgiven : id < t.nextId) (hid : id ∉ t.waiting) (op : Op) : id ∉ (t.step op).2.waiting := by
  intro hwaiting
  rcases mem_waiting_of_step hwaiting with hwaiting | rfl
  · exact hid hwaiting
  · exact Nat.lt_irrefl _ hgiven

/-- Whoever does not wait any more never waits again. -/
theorem not_waiting_run (hgiven : id < t.nextId) (hid : id ∉ t.waiting) (ops : List Op) :
    id ∉ (t.run ops).waiting := by
  induction ops generalizing t with
  | nil => exact hid
  | cons op rest ih =>
    exact ih (Nat.lt_of_lt_of_le hgiven (t.nextId_le_step op)) (not_waiting_step hgiven hid op)

/-- Whoever waits and gives up is remembered. -/
theorem abandoned_of_waiting (hid : id ∈ t.waiting) :
    (t.step (.abandon id)).2.abandoned = remember id t.abandoned := by
  simp [step, abandon, hid]

/-- Giving up a request for which nobody waits does nothing. -/
theorem abandon_of_not_waiting (hid : id ∉ t.waiting) : (t.step (.abandon id)).2 = t := by
  simp [step, abandon, hid]

/-- Nobody is among those who gave up but who was there before, or waited. -/
theorem Proper.mem_abandoned_of_step (h : t.Proper) {op : Op} (hid : id ∈ (t.step op).2.abandoned) :
    id ∈ t.abandoned ∨ op = .abandon id ∧ id ∈ t.waiting := by
  cases op with
  | register =>
    rw [Table.step, register] at hid
    split at hid <;> exact .inl hid
  | settle i outcome =>
    rw [h.step_settle_eq] at hid
    split at hid
    · exact .inl (List.mem_of_mem_erase hid)
    · exact .inl hid
  | abandon i =>
    by_cases hi : i ∈ t.waiting
    · have hnew : i ∉ t.abandoned := fun hmem => h.apart i hmem hi
      rw [abandoned_of_waiting hi] at hid
      rcases mem_of_mem_remember hnew hid with rfl | hold
      · exact .inr ⟨rfl, hi⟩
      · exact .inl hold
    · rw [abandon_of_not_waiting hi] at hid
      exact .inl hid
  | closeAll => cases hid

/-- **Behind an operation** only ids are held that were held before, and the one that it gives out. -/
theorem Proper.holds_of_step (h : t.Proper) {op : Op} (hid : (t.step op).2.Holds id) :
    t.Holds id ∨ id = t.nextId := by
  rcases hid with hwaiting | habandoned
  · exact (mem_waiting_of_step hwaiting).imp_left .inl
  · rcases h.mem_abandoned_of_step habandoned with hold | ⟨-, hwaiting⟩
    · exact .inl (.inr hold)
    · exact .inl (.inl hwaiting)

/-- **Nothing brings an id back**, in one step. -/
theorem Proper.not_holds_step (h : t.Proper) (hgiven : id < t.nextId) (hid : ¬ t.Holds id) (op : Op) :
    ¬ (t.step op).2.Holds id := by
  intro hheld
  rcases h.holds_of_step hheld with hheld | rfl
  · exact hid hheld
  · exact Nat.lt_irrefl _ hgiven

/-- **An id that was given out and is not held** is never held again. -/
theorem Proper.not_holds_run (h : t.Proper) (hgiven : id < t.nextId) (hid : ¬ t.Holds id) (ops : List Op) :
    ¬ (t.run ops).Holds id := by
  induction ops generalizing t with
  | nil => exact hid
  | cons op rest ih =>
    exact ih (h.step op) (Nat.lt_of_lt_of_le hgiven (t.nextId_le_step op)) (h.not_holds_step hgiven hid op)

/-- An id that is held was given out. -/
theorem Proper.given_of_holds (h : t.Proper) (hid : t.Holds id) : id < t.nextId :=
  hid.elim (h.given id) (h.abandonedGiven id)

end Table

-- ---------------------------------------------------------------------------
-- All answers
-- ---------------------------------------------------------------------------

/-- The id of an answer that a table takes. -/
def Op.taken (t : Table) : Op → List Nat
  | .settle id outcome =>
    match t.settle id outcome with
    | .ok _ => [id]
    | .error _ => []
  | _ => []

/-- The ids of the answers that a table takes in a run, in order. -/
def taken (t : Table) : List Op → List Nat
  | [] => []
  | op :: rest => op.taken t ++ taken (t.step op).2 rest

namespace Table

variable {t : Table} {id : Nat}

/-- An answer is taken if its id is held. -/
theorem Proper.taken_settle (h : t.Proper) (id : Nat) (outcome : Outcome) :
    Op.taken t (.settle id outcome) = if t.Holds id then [id] else [] := by
  show (match t.settle id outcome with | .ok _ => [id] | .error _ => []) = _
  rw [h.settle_eq]
  by_cases hid : t.Holds id
  · rw [if_pos hid, if_pos hid]
  · rw [if_neg hid, if_neg hid]

/-- An answer that is taken takes its id out. -/
theorem Proper.of_mem_taken (h : t.Proper) {op : Op} (hid : id ∈ op.taken t) :
    op.taken t = [id] ∧ t.Holds id ∧ ¬ (t.step op).2.Holds id := by
  cases op with
  | settle i outcome =>
    rw [h.taken_settle] at hid ⊢
    rw [h.step_settle_eq]
    by_cases hi : t.Holds i
    · rw [if_pos hi] at hid ⊢
      obtain rfl := List.mem_singleton.mp hid
      rw [if_pos hi]
      exact ⟨rfl, hi, h.not_holds_without id⟩
    · rw [if_neg hi] at hid
      cases hid
  | register => cases hid
  | abandon i => cases hid
  | closeAll => cases hid

/-- An answer is taken for an id that is held, or is given out on the way. -/
theorem Proper.holds_of_mem_taken (h : t.Proper) {ops : List Op} (hid : id ∈ taken t ops) :
    t.Holds id ∨ t.nextId ≤ id := by
  induction ops generalizing t with
  | nil => cases hid
  | cons op rest ih =>
    rcases List.mem_append.mp hid with hid | hid
    · exact .inl (h.of_mem_taken hid).2.1
    · rcases ih (h.step op) hid with hheld | hle
      · exact (h.holds_of_step hheld).imp_right fun heq => Nat.le_of_eq heq.symm
      · exact .inr (Nat.le_trans (t.nextId_le_step op) hle)

/-- **No id is taken twice.** -/
theorem Proper.nodup_taken (h : t.Proper) (ops : List Op) : (taken t ops).Nodup := by
  induction ops generalizing t with
  | nil => exact List.nodup_nil
  | cons op rest ih =>
    have hrest := ih (h.step op)
    rw [taken]
    by_cases hnone : op.taken t = []
    · rw [hnone]
      exact hrest
    · obtain ⟨id, hid⟩ := List.exists_mem_of_ne_nil _ hnone
      obtain ⟨hone, hheld, hgone⟩ := h.of_mem_taken hid
      rw [hone]
      refine List.nodup_cons.mpr ⟨fun hagain => ?_, hrest⟩
      -- it is not held any more, and it was given out before
      have hgiven := Nat.lt_of_lt_of_le (h.given_of_holds hheld) (t.nextId_le_step op)
      rcases (h.step op).holds_of_mem_taken hagain with hheld | hle
      · exact hgone hheld
      · omega

/-- An id that was taken is not held behind the run. -/
theorem Proper.not_holds_of_mem_taken (h : t.Proper) {ops : List Op} (hid : id ∈ taken t ops) :
    ¬ (t.run ops).Holds id := by
  induction ops generalizing t with
  | nil => cases hid
  | cons op rest ih =>
    rcases List.mem_append.mp hid with hid | hid
    · obtain ⟨-, hheld, hgone⟩ := h.of_mem_taken hid
      have hgiven := Nat.lt_of_lt_of_le (h.given_of_holds hheld) (t.nextId_le_step op)
      exact (h.step op).not_holds_run hgiven hgone rest
    · exact ih (h.step op) hid

end Table

/-- **Of all answers to a request at most one is taken**, whatever the operations and whatever ids they name.

* An answer is taken exactly if the table holds its id: it comes to the caller that waits, and to nobody if the caller
  gave up. Then that id is held no more, and nothing else in the table changes. Any other answer is refused under its
  id, and nothing changes.
* No id is taken twice, and an answer under an id that was taken before is refused. -/
theorem answers_taken_once (ops : List Op) (id : Nat) (outcome : Outcome) :
    let t := ({} : Table).run ops
    (t.settle id outcome =
        (if t.Holds id then .ok (if id ∈ t.waiting then [⟨id, outcome⟩] else [], t.without id)
          else .error (.unknownId (.int id))) ∧
      (t.step (.settle id outcome)).2 = (if t.Holds id then t.without id else t) ∧
      ∀ i, (i ∈ (t.without id).waiting ↔ i ≠ id ∧ i ∈ t.waiting) ∧
        (i ∈ (t.without id).abandoned ↔ i ≠ id ∧ i ∈ t.abandoned)) ∧
      (taken {} ops).Nodup ∧
      (id ∈ taken {} ops → t.settle id outcome = .error (.unknownId (.int id))) := by
  intro t
  have h : t.Proper := Table.proper_empty.run ops
  refine ⟨⟨h.settle_eq id outcome, h.step_settle_eq id outcome, h.mem_without id⟩,
    Table.proper_empty.nodup_taken ops, ?_⟩
  intro hid
  have hgone : ¬ t.Holds id := Table.proper_empty.not_holds_of_mem_taken hid
  rw [h.settle_eq, if_neg hgone]

/-- One is answered, one gives up and is answered late; each is answered once more, and so is one of whom nobody
knows. -/
def answeredAgain : List Op :=
  [.register, .register, .settle 0 (.ok .null), .abandon 1, .settle 1 (.ok .null), .settle 0 (.ok .null),
    .settle 1 (.ok .null), .settle 7 (.ok .null)]

/-- Answers to two requests, one of them twice: the second is refused. -/
theorem answers_taken_once_again :
    taken {} answeredAgain = [0, 1] ∧ 1 ∈ taken {} answeredAgain ∧
      (({} : Table).run answeredAgain).settle 1 (.ok .null) = .error (.unknownId (.int 1)) := by
  have htaken : taken {} answeredAgain = [0, 1] := rfl
  have hone : 1 ∈ taken {} answeredAgain := by
    rw [htaken]
    decide
  exact ⟨htaken, hone, (answers_taken_once answeredAgain 1 (.ok .null)).2.2 hone⟩

end EditorLink.Correlation
