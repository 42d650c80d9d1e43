import EditorLink.Proofs.Correlation.Deliveries
import Mathlib.Data.List.Perm.Subperm

/-!
# EditorLink — what a table holds

A table stands for the operations that made it: who waits can be read off their list, and what is kept of those
who gave up is in order and stays small.

The invariant is about two sets of ids: those who wait are all different and were given out; those who are remembered
are in ascending order, were given out, do not wait, and are at most 1024. A closed table has neither. Each operation
keeps all of this, for any id that it names, also for one that nobody ever got; so the theorem about runs has no
hypothesis.

The number of those who wait is what the table reports as its length. It counts registrations of an open table
that were neither answered nor given up since (`outstanding`).

## Results

* `insertAscending_perm`, `insertAscending_ascending`, `remember_sublist` — ids that are kept in order;
* `outstanding` — who waits behind operations, read off their list;
* `Table.Proper` — the invariant of both sets of ids;
* `Proper.step`, `Proper.run` — every operation keeps it, whatever id it names;
* `waiting_run` — those who wait are those who are outstanding;
* `table_represents` — all of it for a new table and any operations.
-/

namespace EditorLink.Correlation

open scoped List

-- ---------------------------------------------------------------------------
-- Ids in order
-- ---------------------------------------------------------------------------

/-- Putting an id in its place adds this id and leaves all others. -/
theorem insertAscending_perm {id : Nat} {ids : List Nat} (h : id ∉ ids) :
    insertAscending id ids ~ id :: ids := by
  induction ids with
  | nil => exact .refl _
  | cons i rest ih =>
    rw [List.mem_cons, not_or] at h
    rw [insertAscending]
    split
    · exact .refl _
    · rw [if_neg h.1]
      exact ((ih h.2).cons i).trans (.swap id i rest)

/-- It keeps them in order. -/
theorem insertAscending_ascending {id : Nat} {ids : List Nat} (h : id ∉ ids) (hids : ids.Pairwise (· < ·)) :
    (insertAscending id ids).Pairwise (· < ·) := by
  induction ids with
  | nil => exact List.pairwise_singleton _ _
  | cons i rest ih =>
    rw [List.mem_cons, not_or] at h
    obtain ⟨hi, hrest⟩ := List.pairwise_cons.mp hids
    rw [insertAscending, if_neg h.1]
    split
    · rename_i hlt
      refine List.pairwise_cons.mpr ⟨fun j hj => ?_, hids⟩
      rcases List.mem_cons.mp hj with rfl | hj
      · exact hlt
      · exact Nat.lt_trans hlt (hi j hj)
    · refine List.pairwise_cons.mpr ⟨fun j hj => ?_, ih h.2 hrest⟩
      rcases List.mem_cons.mp ((insertAscending_perm h.2).mem_iff.mp hj) with rfl | hj
      · omega
      · exact hi j hj

/-- As long as there is room, nothing is forgotten. -/
theorem remember_perm {id : Nat} {ids : List Nat} (h : id ∉ ids) (hroom : ids.length < maxAbandoned) :
    remember id ids ~ id :: ids := by
  have hperm := insertAscending_perm h
  rw [remember, if_neg]
  · exact hperm
  · rw [hperm.length_eq, List.length_cons]
    omega

/-- With or without room, nothing comes in but the new id. -/
theorem remember_sublist (id : Nat) (ids : List Nat) : remember id ids <+ insertAscending id ids := by
  rw [remember]
  split
  · exact List.drop_sublist 1 _
  · exact .refl _

/-- Remembering an id adds no other. -/
theorem mem_of_mem_remember {id i : Nat} {ids : List Nat} (h : id ∉ ids) (hi : i ∈ remember id ids) :
    i = id ∨ i ∈ ids :=
  List.mem_cons.mp ((insertAscending_perm h).mem_iff.mp ((remember_sublist id ids).mem hi))

/-- Too many ids are never kept. -/
theorem length_remember_le {id : Nat} {ids : List Nat} (h : id ∉ ids) (hroom : ids.length ≤ maxAbandoned) :
    (remember id ids).length ≤ maxAbandoned := by
  have hlength := (insertAscending_perm h).length_eq
  rw [List.length_cons] at hlength
  rw [remember]
  split
  · rw [List.length_drop]
    omega
  · omega

-- ---------------------------------------------------------------------------
-- Who is outstanding
-- ---------------------------------------------------------------------------

/-- Whether nobody waits for this id behind an operation: it was answered, given up, or the table closed. -/
def Op.ends (id : Nat) : Op → Bool
  | .register => false
  | .settle i _ => id == i
  | .abandon i => id == i
  | .closeAll => true

/-- Those who are outstanding behind operations on a table that is closed or not and of which the next id is
this one: they were registered while it was open, and no operation behind their registration ends the wait. -/
def outstandingFrom (closed : Bool) (next : Nat) : List Op → List Nat
  | [] => []
  | .register :: rest =>
    if closed || rest.any (Op.ends next) then outstandingFrom closed (next + 1) rest
    else next :: outstandingFrom closed (next + 1) rest
  | .settle _ _ :: rest => outstandingFrom closed next rest
  | .abandon _ :: rest => outstandingFrom closed next rest
  | .closeAll :: rest => outstandingFrom true next rest

/-- Those who are outstanding behind operations on a new table, the earliest first. -/
def outstanding (ops : List Op) : List Nat := outstandingFrom false 0 ops

/-- Ending the wait for one id leaves the others. -/
theorem filter_erase {ids : List Nat} (h : ids.Nodup) (i : Nat) (p : Nat → Bool) :
    (ids.erase i).filter p = ids.filter fun id => !(id == i) && p id := by
  rw [h.erase_eq_filter, List.filter_filter]
  simp only [Bool.and_comm, bne]

namespace Table

/-- **Those who wait** behind operations: those who are outstanding, and of those who waited before the ones for
whom the wait did not end. -/
theorem waiting_run {t : Table} (ht : t.Sound) (ops : List Op) :
    (t.run ops).waiting = (outstandingFrom t.closed t.nextId ops).reverse ++
      t.waiting.filter fun id => !ops.any (Op.ends id) := by
  induction ops generalizing t with
  | nil => simp [run, outstandingFrom]
  | cons op rest ih =>
    rw [run, ih (ht.step op)]
    simp only [List.any_cons, Bool.not_or]
    cases op with
    | register =>
      obtain ⟨-, hwaiting, hnext, hclosed⟩ := t.step_register
      rw [hwaiting, hnext, hclosed, outstandingFrom]
      cases hc : t.closed with
      | true => simp [Op.ends]
      | false =>
        -- the new one stays if no later operation ends its wait
        by_cases hends : rest.any (Op.ends t.nextId) = true
        · simp [Op.ends, hends]
        · simp [Op.ends, hends]
    | settle i outcome =>
      obtain ⟨-, hwaiting, hnext, hclosed⟩ := t.step_settle i outcome
      rw [hwaiting, hnext, hclosed, outstandingFrom, filter_erase ht.nodup]
      rfl
    | abandon i =>
      obtain ⟨-, hwaiting, hnext, hclosed⟩ := t.step_abandon i
      rw [hwaiting, hnext, hclosed, outstandingFrom, filter_erase ht.nodup]
      rfl
    | closeAll =>
      obtain ⟨-, hwaiting, hnext, hclosed⟩ := t.step_closeAll
      rw [hwaiting, hnext, hclosed, outstandingFrom]
      simp [Op.ends]

-- ---------------------------------------------------------------------------
-- Both sets of ids
-- ---------------------------------------------------------------------------

/-- The invariant of both sets of ids: nobody has given up who waits, and few are kept of those who did. -/
structure Proper (t : Table) : Prop extends Sound t where
  ascending : t.abandoned.Pairwise (· < ·)
  apart : ∀ id ∈ t.abandoned, id ∉ t.waiting
  abandonedGiven : ∀ id ∈ t.abandoned, id < t.nextId
  room : t.abandoned.length ≤ maxAbandoned
  abandonedClosed : t.closed = true → t.abandoned = []

theorem proper_empty : Proper {} where
  toSound := sound_empty
  ascending := List.Pairwise.nil
  apart := by simp
  abandonedGiven := by simp
  room := Nat.zero_le _
  abandonedClosed _ := rfl

/-- An operation behind which nobody is among those who gave up that was not there before. -/
theorem Proper.shrink {t : Table} (h : t.Proper) {op : Op} (habandoned : (t.step op).2.abandoned <+ t.abandoned)
    (hclosed : (t.step op).2.closed = true → t.closed = true ∨ (t.step op).2.abandoned = []) :
    (t.step op).2.Proper where
  toSound := h.toSound.step op
  ascending := h.ascending.sublist habandoned
  apart id hid hmem := by
    have hid := habandoned.mem hid
    -- whoever comes to wait has a new id
    rcases mem_waiting_of_step hmem with hmem | rfl
    · exact h.apart id hid hmem
    · exact Nat.lt_irrefl _ (h.abandonedGiven _ hid)
  abandonedGiven id hid := Nat.lt_of_lt_of_le (h.abandonedGiven id (habandoned.mem hid)) (t.nextId_le_step op)
  room := Nat.le_trans habandoned.length_le h.room
  abandonedClosed hc := by
    rcases hclosed hc with hc | hnil
    · rw [h.abandonedClosed hc] at habandoned
      exact List.sublist_nil.mp habandoned
    · exact hnil

/-- One who waits gives up: its id is new among those who did. -/
theorem Proper.abandon {t : Table} (h : t.Proper) {id : Nat} (hid : id ∈ t.waiting) :
    (t.step (.abandon id)).2.Proper := by
  have hnew : id ∉ t.abandoned := fun hmem => h.apart id hmem hid
  have hwaiting : (t.step (.abandon id)).2.waiting = t.waiting.erase id := (t.step_abandon id).2.1
  have habandoned : (t.step (.abandon id)).2.abandoned = remember id t.abandoned := by
    simp [step, Table.abandon, hid]
  have hnext := (t.step_abandon id).2.2.1
  have hclosed := (t.step_abandon id).2.2.2
  refine { toSound := h.toSound.step _, ascending := ?_, apart := ?_, abandonedGiven := ?_, room := ?_,
           abandonedClosed := ?_ }
  all_goals rw [habandoned]
  · exact (insertAscending_ascending hnew h.ascending).sublist (remember_sublist id _)
  · intro i hi hmem
    rw [hwaiting] at hmem
    rcases mem_of_mem_remember hnew hi with rfl | hi
    · exact h.nodup.not_mem_erase hmem
    · exact h.apart i hi (List.mem_of_mem_erase hmem)
  · intro i hi
    rw [hnext]
    rcases mem_of_mem_remember hnew hi with rfl | hi
    · exact h.given i hid
    · exact h.abandonedGiven i hi
  · exact length_remember_le hnew h.room
  · -- nobody waits at a closed table
    intro hc
    rw [h.closed (hclosed ▸ hc)] at hid
    cases hid

/-- **Every operation keeps both sets of ids proper**, whatever id it names. -/
theorem Proper.step {t : Table} (h : t.Proper) (op : Op) : (t.step op).2.Proper := by
  cases op with
  | register =>
    have habandoned : (t.step .register).2.abandoned = t.abandoned := by
      rw [Table.step, register]
      split <;> rfl
    exact h.shrink (habandoned ▸ .refl _) fun hc => .inl (t.step_register.2.2.2 ▸ hc)
  | settle id outcome =>
    refine h.shrink ?_ fun hc => .inl ((t.step_settle id outcome).2.2.2 ▸ hc)
    by_cases hw : id ∈ t.waiting
    · simp [Table.step, settle, hw]
    · by_cases ha : id ∈ t.abandoned
      · simp [Table.step, settle, hw, ha, List.erase_sublist]
      · simp [Table.step, settle, hw, ha]
  | abandon id =>
    by_cases hid : id ∈ t.waiting
    · exact h.abandon hid
    · have hsame : (t.step (.abandon id)).2 = t := by simp [Table.step, Table.abandon, hid]
      rw [hsame]
      exact h
  | closeAll => exact h.shrink (List.nil_sublist _) fun _ => .inr rfl

/-- **Every run keeps both sets of ids proper.** -/
theorem Proper.run {t : Table} (h : t.Proper) (ops : List Op) : (t.run ops).Proper := by
  induction ops generalizing t with
  | nil => exact h
  | cons op rest ih => exact ih (h.step op)

end Table

/-- **What a table holds**, whatever the operations on it and whatever ids they name.

* No id is held twice: neither by those who wait, nor by those who gave up, nor by both.
* All these ids were given out, and at most 1024 are kept of those who gave up.
* The table is closed once an operation has closed it, and holds no ids then.
* As many wait as are outstanding: those who were registered while the table was open, and whose wait was ended by no
  operation since. -/
theorem table_represents (ops : List Op) :
    let t := ({} : Table).run ops
    (t.waiting.Nodup ∧ t.abandoned.Nodup ∧ t.waiting.Disjoint t.abandoned) ∧
      (t.nextId = registrations ops ∧ ∀ id, id ∈ t.waiting ∨ id ∈ t.abandoned → id < t.nextId) ∧
      t.abandoned.length ≤ 1024 ∧
      (t.closed = closes ops ∧ (t.closed = true → t.waiting = [] ∧ t.abandoned = [])) ∧
      (t.waiting = (outstanding ops).reverse ∧ t.size = (outstanding ops).length) := by
  intro t
  have h : t.Proper := Table.proper_empty.run ops
  have hnext : t.nextId = 0 + registrations ops := Table.nextId_run {} ops
  have hclosed : t.closed = (false || closes ops) := Table.closed_run {} ops
  have hwaiting : t.waiting = (outstanding ops).reverse ++ [] := Table.waiting_run Table.sound_empty ops
  rw [Nat.zero_add] at hnext
  rw [Bool.false_or] at hclosed
  rw [List.append_nil] at hwaiting
  refine ⟨⟨h.nodup, h.ascending.imp Nat.ne_of_lt, fun id hid hid' => h.apart id hid' hid⟩, ⟨hnext, ?_⟩, h.room,
    ⟨hclosed, fun hc => ⟨h.closed hc, h.abandonedClosed hc⟩⟩, hwaiting, ?_⟩
  · rintro id (hid | hid)
    · exact h.given id hid
    · exact h.abandonedGiven id hid
  · rw [Table.size, hwaiting, List.length_reverse]

/-- One is answered, one gives up, an unknown id is named, one is left. -/
example : outstanding [.register, .register, .settle 7 (.ok .null), .abandon 0, .register, .settle 1 (.ok .null)] =
    [2] := rfl

end EditorLink.Correlation
