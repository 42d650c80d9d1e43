import EditorLink.Proofs.Correlation.Settling
import Mathlib.Data.List.Dedup

/-!
# EditorLink — whom the table forgets

Of those who gave up at most 1024 are remembered. When there is one too many the smallest id is forgotten, which need
not be the one that was given up first: a request that was made early and given up late is forgotten at once if 1024
later ones are remembered. So what matters for an id is how many are remembered above it, and not when it was given up.

The order in which requests were given up is therefore not kept anywhere, and no statement about it can be made from
the table alone. It is read off the operations (`givenUp`), and the table is compared with that: the remembered are a
part of it, and one of them is missing only if at least 1024 larger ones were given up.

What follows for the other side is that an answer which comes late is taken, or ends the session, by a condition on
all operations before it (`late_answer_taken_iff`). If nobody gives up later than the request that is answered, one
would expect its answer to be taken; `late_answer_refused` is a run in which it is not.

## Results

* `above` — the ids above an id;
* `length_above_lt`, `length_above_of_forgotten` — there is room for fewer than 1024 above an id that is remembered, and
  no fewer are above one that is forgotten;
* `Proper.remembered_step`, `Proper.remembered_run` — who is remembered behind an operation, and behind any number;
* `late_answer_taken_iff` — when a late answer is taken;
* `late_answer_refused` — one that is refused though nobody gave up later.
-/

namespace EditorLink.Correlation

-- ---------------------------------------------------------------------------
-- Room for few
-- ---------------------------------------------------------------------------

/-- The ids above an id. -/
def above (id : Nat) (ids : List Nat) : List Nat := ids.filter (id < ·)

variable {id new : Nat} {ids : List Nat}

/-- An id that is remembered leaves room for one less. -/
theorem length_above_lt (hroom : ids.length ≤ maxAbandoned) (hid : id ∈ ids) :
    (above id ids).length < maxAbandoned := by
  have hlt : (above id ids).length < ids.length :=
    List.length_filter_lt_length_iff_exists.mpr ⟨id, hid, by simp⟩
  omega

/-- **Whoever is forgotten** has the smallest id, and all the others are above it. -/
theorem length_above_of_forgotten (hnew : new ∉ ids) (hids : ids.Pairwise (· < ·)) (hid : id = new ∨ id ∈ ids)
    (hgone : id ∉ remember new ids) : maxAbandoned ≤ (above id (remember new ids)).length := by
  have hmem : id ∈ insertAscending new ids := by
    rw [(insertAscending_perm hnew).mem_iff, List.mem_cons]
    exact hid
  have hascending := insertAscending_ascending hnew hids
  unfold remember at hgone ⊢
  generalize insertAscending new ids = all at hmem hascending hgone
  by_cases hfull : maxAbandoned < all.length
  · rw [if_pos hfull] at hgone ⊢
    cases all with
    | nil => cases hmem
    | cons smallest rest =>
      obtain rfl : id = smallest := (List.mem_cons.mp hmem).resolve_right hgone
      have hall : above id rest = rest :=
        List.filter_eq_self.mpr fun i hi => decide_eq_true ((List.pairwise_cons.mp hascending).1 i hi)
      show maxAbandoned ≤ (above id rest).length
      rw [hall]
      exact Nat.le_of_lt_succ hfull
  · rw [if_neg hfull] at hgone
    exact absurd hmem hgone

-- ---------------------------------------------------------------------------
-- In a table
-- ---------------------------------------------------------------------------

namespace Table

variable {t : Table}

/-- **Behind an operation** whoever gave up by then is remembered if there are few above it. -/
theorem Proper.remembered_step (h : t.Proper) {op : Op} (hid : id ∈ t.abandoned ∨ op = .abandon id ∧ id ∈ t.waiting)
    (hunanswered : ∀ outcome, op ≠ .settle id outcome) (hopen : (t.step op).2.closed = false) :
    id ∈ (t.step op).2.abandoned ↔ (above id (t.step op).2.abandoned).length < maxAbandoned := by
  refine ⟨length_above_lt (h.step op).room, ?_⟩
  intro hfew
  by_contra hgone
  cases op with
  | register =>
    have hsame : (t.step .register).2.abandoned = t.abandoned := by
      rw [Table.step, register]
      split <;> rfl
    rw [hsame] at hgone
    exact hgone (hid.resolve_right (by simp))
  | settle i outcome =>
    have hne : id ≠ i := by
      rintro rfl
      exact hunanswered outcome rfl
    have hmem : id ∈ t.abandoned := hid.resolve_right (by simp)
    rw [h.step_settle_eq] at hgone
    split at hgone
    · exact hgone ((h.mem_without i id).2.mpr ⟨hne, hmem⟩)
    · exact hgone hmem
  | abandon i =>
    by_cases hi : i ∈ t.waiting
    · -- somebody else may be forgotten for the one who gives up now, or that one itself
      rw [abandoned_of_waiting hi] at hgone hfew
      have hid' : id = i ∨ id ∈ t.abandoned := hid.symm.imp_left fun h => (Op.abandon.inj h.1).symm
      have hmany := length_above_of_forgotten (fun hmem => h.apart i hmem hi) h.ascending hid' hgone
      omega
    · rw [abandon_of_not_waiting hi] at hgone
      rcases hid with hmem | ⟨heq, hwaiting⟩
      · exact hgone hmem
      · exact hi (Op.abandon.inj heq ▸ hwaiting)
  | closeAll => cases hopen

/-- A table that is open was open before. -/
theorem open_of_run {op : Op} {rest : List Op} (hopen : (t.run (op :: rest)).closed = false) :
    (t.step op).2.closed = false := by
  rw [run, closed_run, Bool.or_eq_false_iff] at hopen
  exact hopen.1

/-- **Behind any operations** whoever gave up is remembered if there were few above it at all times. -/
theorem Proper.remembered_run (h : t.Proper) (hid : id ∈ t.abandoned) {ops : List Op}
    (hunanswered : ∀ outcome, .settle id outcome ∉ ops) (hopen : (t.run ops).closed = false) :
    id ∈ (t.run ops).abandoned ↔
      ∀ first, first <+: ops → (above id (t.run first).abandoned).length < maxAbandoned := by
  induction ops generalizing t with
  | nil =>
    refine ⟨?_, fun _ => hid⟩
    intro _ first hfirst
    rw [List.prefix_nil.mp hfirst]
    exact length_above_lt h.room hid
  | cons op rest ih =>
    have hunanswered' : ∀ outcome, op ≠ .settle id outcome := by
      rintro outcome rfl
      exact hunanswered outcome List.mem_cons_self
    have hstep := h.remembered_step (.inl hid) hunanswered' (open_of_run hopen)
    by_cases hkept : id ∈ (t.step op).2.abandoned
    · have hrest := ih (h.step op) hkept (fun outcome hmem => hunanswered outcome (List.mem_cons_of_mem op hmem)) hopen
      rw [Table.run, hrest]
      constructor
      · intro hfew first hfirst
        rcases List.prefix_cons_iff.mp hfirst with rfl | ⟨more, rfl, hmore⟩
        · exact length_above_lt h.room hid
        · exact hfew more hmore
      · intro hfew first hfirst
        exact hfew (op :: first) (List.cons_prefix_cons.mpr ⟨rfl, hfirst⟩)
    · -- whoever is forgotten is never remembered again
      have hgone : ¬ (t.step op).2.Holds id := by
        rintro (hwaiting | habandoned)
        · rcases mem_waiting_of_step hwaiting with hwaiting | rfl
          · exact h.apart id hid hwaiting
          · exact Nat.lt_irrefl _ (h.abandonedGiven _ hid)
        · exact hkept habandoned
      have hgiven := Nat.lt_of_lt_of_le (h.abandonedGiven id hid) (t.nextId_le_step op)
      have hnever := (h.step op).not_holds_run hgiven hgone rest
      constructor
      · intro hmem
        exact absurd (.inr hmem) hnever
      · intro hfew
        exact absurd (hstep.mpr (hfew [op] ⟨rest, rfl⟩)) hkept

/-- **Whoever waits and gives up** is remembered behind any operations if there were few above it since. -/
theorem Proper.remembered_iff (h : t.Proper) (hwaiting : id ∈ t.waiting) {after : List Op}
    (hunanswered : ∀ outcome, .settle id outcome ∉ after) (hopen : (t.run (.abandon id :: after)).closed = false) :
    id ∈ (t.run (.abandon id :: after)).abandoned ↔
      ∀ first, first <+: after → (above id (t.run (.abandon id :: first)).abandoned).length < maxAbandoned := by
  have hnow := h.remembered_step (.inr ⟨rfl, hwaiting⟩) (by simp) (open_of_run hopen)
  by_cases hkept : id ∈ (t.step (.abandon id)).2.abandoned
  · exact (h.step _).remembered_run hkept hunanswered hopen
  · -- it is forgotten as soon as it gives up, and does not wait any more
    have hgone : ¬ (t.step (.abandon id)).2.Holds id := by
      rintro (hwaits | habandoned)
      · rw [(t.step_abandon id).2.1] at hwaits
        exact h.nodup.not_mem_erase hwaits
      · exact hkept habandoned
    have hgiven := Nat.lt_of_lt_of_le (h.given id hwaiting) (t.nextId_le_step (.abandon id))
    constructor
    · intro hmem
      exact absurd (.inr hmem) ((h.step _).not_holds_run hgiven hgone after)
    · intro hfew
      exact absurd (hnow.mpr (hfew [] after.nil_prefix)) hkept

/-- A late answer is taken, and comes to nobody, if the id is remembered. -/
theorem Proper.late_answer (h : t.Proper) (hwaiting : id ∈ t.waiting) (after : List Op) (outcome : Outcome) :
    (∃ t', (t.run (.abandon id :: after)).settle id outcome = .ok ([], t')) ↔
      id ∈ (t.run (.abandon id :: after)).abandoned := by
  have hleft : id ∉ (t.step (.abandon id)).2.waiting := by
    rw [(t.step_abandon id).2.1]
    exact h.nodup.not_mem_erase
  have hgiven := Nat.lt_of_lt_of_le (h.given id hwaiting) (t.nextId_le_step (.abandon id))
  have hnobody : id ∉ (t.run (.abandon id :: after)).waiting := not_waiting_run hgiven hleft after
  rw [(h.run (.abandon id :: after)).settle_eq, if_neg hnobody]
  by_cases hid : id ∈ (t.run (.abandon id :: after)).abandoned
  · simp [Holds, hid]
  · simp [Holds, hnobody, hid]

end Table

/-- The ids that are given up by operations. -/
def givenUp (ops : List Op) : List Nat :=
  ops.filterMap fun
    | .abandon id => some id
    | _ => none

theorem givenUp_append (ops more : List Op) : givenUp (ops ++ more) = givenUp ops ++ givenUp more :=
  List.filterMap_append

/-- Nobody is among those who gave up but who was there before, or gave up since. -/
theorem Table.Proper.abandoned_run {t : Table} (h : t.Proper) (ops : List Op) :
    (t.run ops).abandoned ⊆ t.abandoned ++ givenUp ops := by
  induction ops generalizing t with
  | nil => exact List.subset_append_left _ _
  | cons op rest ih =>
    intro i hi
    rw [givenUp, List.filterMap_cons]
    rcases List.mem_append.mp (ih (h.step op) hi) with hbefore | hlater
    · rcases h.mem_abandoned_of_step hbefore with hold | ⟨rfl, -⟩
      · exact List.mem_append_left _ hold
      · exact List.mem_append_right _ List.mem_cons_self
    · refine List.mem_append_right _ ?_
      split
      · exact hlater
      · exact List.mem_cons_of_mem _ hlater

/-- Of those who gave up only such are remembered above an id as have larger ids and gave up. -/
theorem length_above_run_le (ops : List Op) (id : Nat) :
    (above id (({} : Table).run ops).abandoned).length ≤ (above id (givenUp ops)).dedup.length := by
  have h : (({} : Table).run ops).Proper := Table.proper_empty.run ops
  refine ((h.nodup_abandoned.filter _).subperm ?_).length_le
  intro i hi
  obtain ⟨hmem, hlt⟩ := List.mem_filter.mp hi
  exact List.mem_dedup.mpr (List.mem_filter.mpr ⟨Table.proper_empty.abandoned_run ops hmem, hlt⟩)

/-- Among more operations no fewer larger ids are given up. -/
theorem length_above_givenUp_le {ops all : List Op} (hops : givenUp ops ⊆ givenUp all) (id : Nat) :
    (above id (givenUp ops)).dedup.length ≤ (above id (givenUp all)).dedup.length := by
  refine ((List.nodup_dedup _).subperm ?_).length_le
  intro i hi
  obtain ⟨hmem, hlt⟩ := List.mem_filter.mp (List.mem_dedup.mp hi)
  exact List.mem_dedup.mpr (List.mem_filter.mpr ⟨hops hmem, hlt⟩)

/-- **A late answer** to whoever gave up while it waited, was not answered since, and finds the table open: it is taken
and comes to nobody, exactly if there were fewer than 1024 above its id among those who are remembered, from the moment
when it gave up on. So it is if fewer than 1024 larger ids are given up in all. -/
theorem late_answer_taken_iff {before after : List Op} {id : Nat}
    (hwaiting : id ∈ (({} : Table).run before).waiting) (hunanswered : ∀ outcome, .settle id outcome ∉ after)
    (hopen : (({} : Table).run (before ++ .abandon id :: after)).closed = false) (outcome : Outcome) :
    ((∃ t, (({} : Table).run (before ++ .abandon id :: after)).settle id outcome = .ok ([], t)) ↔
        ∀ first, first <+: after →
          (above id (({} : Table).run (before ++ .abandon id :: first)).abandoned).length < 1024) ∧
      ((above id (givenUp (before ++ .abandon id :: after))).dedup.length < 1024 →
        ∃ t, (({} : Table).run (before ++ .abandon id :: after)).settle id outcome = .ok ([], t)) := by
  have h : (({} : Table).run before).Proper := Table.proper_empty.run before
  have htaken : (∃ t, (({} : Table).run (before ++ .abandon id :: after)).settle id outcome = .ok ([], t)) ↔
      ∀ first, first <+: after →
        (above id (({} : Table).run (before ++ .abandon id :: first)).abandoned).length < 1024 := by
    simp only [Table.run_append] at hopen ⊢
    exact (h.late_answer hwaiting after outcome).trans (h.remembered_iff hwaiting hunanswered hopen)
  refine ⟨htaken, ?_⟩
  intro hfew
  rw [htaken]
  rintro first ⟨rest, rfl⟩
  have hall : givenUp (before ++ .abandon id :: first) ⊆ givenUp (before ++ .abandon id :: (first ++ rest)) := by
    rw [← List.cons_append, ← List.append_assoc, givenUp_append _ rest]
    exact List.subset_append_left _ _
  have hremembered := length_above_run_le (before ++ .abandon id :: first) id
  have hgiven := length_above_givenUp_le hall id
  omega

/-- Two give up, the later request first, and that one is answered late. -/
theorem late_answer_taken_second :
    1 ∈ (({} : Table).run [.register, .register]).waiting ∧
      ∃ t, (({} : Table).run [.register, .register, .abandon 1, .abandon 0]).settle 1 (.ok .null) = .ok ([], t) := by
  have hwaiting : 1 ∈ (({} : Table).run [.register, .register]).waiting := by decide
  have hunanswered : ∀ outcome, Op.settle 1 outcome ∉ [Op.abandon 0] := by simp
  exact ⟨hwaiting, (late_answer_taken_iff hwaiting hunanswered rfl (.ok .null)).2 (by decide)⟩

-- ---------------------------------------------------------------------------
-- No room for the first
-- ---------------------------------------------------------------------------

/-- An id below all that are remembered comes first, if there is room. -/
theorem remember_of_lt (hlt : ∀ i ∈ ids, id < i) (hroom : ids.length < maxAbandoned) :
    remember id ids = id :: ids := by
  have hfirst : insertAscending id ids = id :: ids := by
    cases ids with
    | nil => rfl
    | cons i rest => rw [insertAscending, if_pos (hlt i List.mem_cons_self)]
  rw [remember, hfirst, if_neg]
  rw [List.length_cons]
  omega

theorem run_registrations (n : Nat) :
    ({} : Table).run (List.replicate n .register) = { nextId := n, waiting := (List.range n).reverse } := by
  induction n with
  | zero => rfl
  | succ n ih =>
    rw [List.replicate_succ', Table.run_append, ih, List.range_succ, List.reverse_concat]
    rfl

/-- All but the first give up, the last before the others. -/
theorem run_abandon_down (next n : Nat) {ids : List Nat} (hids : ∀ i ∈ ids, n < i)
    (hroom : n + ids.length ≤ maxAbandoned) :
    ({ nextId := next, waiting := (List.range (n + 1)).reverse, abandoned := ids } : Table).run
        ((List.range' 1 n).reverse.map .abandon) =
      { nextId := next, waiting := [0], abandoned := List.range' 1 n ++ ids } := by
  induction n generalizing ids with
  | zero => rfl
  | succ n ih =>
    have hstep : (({ nextId := next, waiting := (List.range (n + 2)).reverse, abandoned := ids } : Table).step
        (.abandon (n + 1))).2 =
          { nextId := next, waiting := (List.range (n + 1)).reverse, abandoned := (n + 1) :: ids } := by
      rw [List.range_succ, List.reverse_concat]
      simp [Table.step, Table.abandon, remember_of_lt hids (by omega)]
    have hids' : ∀ i ∈ (n + 1) :: ids, n < i := by
      intro i hi
      rcases List.mem_cons.mp hi with rfl | hi
      · exact Nat.lt_succ_self n
      · exact Nat.lt_of_succ_lt (hids i hi)
    rw [List.range'_1_concat, Nat.add_comm 1 n, List.reverse_concat, List.map_cons, Table.run, hstep,
      ih hids' (by rw [List.length_cons]; omega), List.append_assoc]
    rfl

/-- 1025 make requests, and all but the first of them give up. -/
def allButFirst : List Op := List.replicate 1025 .register ++ (List.range' 1 1024).reverse.map .abandon

theorem run_allButFirst :
    ({} : Table).run allButFirst = { nextId := 1025, waiting := [0], abandoned := List.range' 1 1024 } := by
  have hnobody : ∀ i ∈ ([] : List Nat), 1024 < i := by simp
  have hdown := run_abandon_down 1025 1024 hnobody (by simp [maxAbandoned])
  rw [List.append_nil] at hdown
  rw [allButFirst, Table.run_append, run_registrations, hdown]

/-- **The one who gave up last is forgotten** if it asked first and there is no room: its answer is refused, though
nobody gave up later. -/
theorem late_answer_refused :
    0 ∈ (({} : Table).run allButFirst).waiting ∧ givenUp [] = [] ∧
      (({} : Table).run (allButFirst ++ [.abandon 0])).closed = false ∧
      (({} : Table).run (allButFirst ++ [.abandon 0])).settle 0 (.ok .null) = .error (.unknownId (.int 0)) := by
  have hinsert : insertAscending 0 (List.range' 1 1024) = 0 :: List.range' 1 1024 := rfl
  have hremember : remember 0 (List.range' 1 1024) = List.range' 1 1024 := by
    rw [remember, hinsert, List.length_cons, List.length_range', if_pos (by decide)]
    rfl
  have hrun : ({} : Table).run (allButFirst ++ [.abandon 0]) =
      { nextId := 1025, waiting := [], abandoned := List.range' 1 1024 } := by
    rw [Table.run_append, run_allButFirst]
    simp only [Table.run, Table.step, Table.abandon, hremember]
    rfl
  have hgone : ¬ (({} : Table).run (allButFirst ++ [.abandon 0])).Holds 0 := by
    rw [hrun]
    rintro (hwaiting | habandoned)
    · cases hwaiting
    · exact absurd (List.mem_range'_1.mp habandoned).1 (by decide)
  refine ⟨?_, rfl, ?_, ?_⟩
  · rw [run_allButFirst]
    exact List.mem_singleton_self 0
  · rw [hrun]
  · rw [(Table.proper_empty.run _).settle_eq, if_neg hgone]
    rfl

end EditorLink.Correlation
