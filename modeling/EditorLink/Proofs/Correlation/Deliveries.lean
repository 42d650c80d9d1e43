import EditorLink.Correlation.Table
import Mathlib.Data.List.Nodup

/-!
# EditorLink — who is answered, and with what

A table goes through any operations in any order. What becomes of a request can be said from the
operations alone: the first one behind its registration that decides about it.

Two descriptions are compared. The table delivers what its operations bring, one list of deliveries for each; and
`fateOf` looks at the list of operations without any table: whether somebody closed before the request was made, and
which of the later operations settles it, gives it up or closes for all. The theorem says that the deliveries for an
id are those of its fate, and nothing else.

An answer that comes for an id which nobody waits for delivers nothing. Whether it is taken or refused does not
matter here and is the subject of `EditorLink.Proofs.Correlation.Settling`; what is remembered of those who gave up
is that of `EditorLink.Proofs.Correlation.Representation`.

## Results

* `Op`, `Table.step`, `deliveries` — operations, and what they deliver;
* `fateOf` — what operations make of a request, read off their list;
* `Table.Sound` — the invariant of the table;
* `answersTo_of_waiting`, `answersTo_of_not_waiting` — what comes to an id that waits, and to one
  that does not;
* `delivered_exactly_once` — each id gets its outcome once, from an operation that concerns it.
-/

namespace EditorLink.Correlation

open Message (CallFault)

-- ---------------------------------------------------------------------------
-- Operations
-- ---------------------------------------------------------------------------

inductive Op where
  | register
  | settle (id : Nat) (outcome : Outcome)
  | abandon (id : Nat)
  | closeAll

/-- What an operation delivers, and the table behind it. A refused answer changes nothing. -/
def Table.step (t : Table) : Op → List Delivery × Table
  | .register => t.register.2
  | .settle id outcome =>
    match t.settle id outcome with
    | .ok done => done
    | .error _ => ([], t)
  | .abandon id => ([], t.abandon id)
  | .closeAll => t.closeAll

/-- The table behind operations. -/
def Table.run (t : Table) : List Op → Table
  | [] => t
  | op :: rest => (t.step op).2.run rest

/-- All that operations deliver, in order. -/
def deliveries (t : Table) : List Op → List Delivery
  | [] => []
  | op :: rest => (t.step op).1 ++ deliveries (t.step op).2 rest

theorem Table.run_append (t : Table) (ops more : List Op) :
    t.run (ops ++ more) = (t.run ops).run more := by
  induction ops generalizing t with
  | nil => rfl
  | cons op rest ih => exact ih _

/-- What the later operations deliver is what they deliver to the table behind the first. -/
theorem deliveries_append (t : Table) (ops more : List Op) :
    deliveries t (ops ++ more) = deliveries t ops ++ deliveries (t.run ops) more := by
  induction ops generalizing t with
  | nil => rfl
  | cons op rest ih =>
    rw [List.cons_append, deliveries, ih, deliveries, List.append_assoc]
    rfl

-- ---------------------------------------------------------------------------
-- What operations decide
-- ---------------------------------------------------------------------------

inductive Fate where
  | waiting
  | fulfilled (outcome : Outcome)
  | abandoned

/-- How many requests were registered; also the id of the next one. -/
def registrations : List Op → Nat
  | [] => 0
  | .register :: rest => registrations rest + 1
  | .settle _ _ :: rest => registrations rest
  | .abandon _ :: rest => registrations rest
  | .closeAll :: rest => registrations rest

/-- What operations make of a request that waits: the first one that names it decides, or the first
that closes the table. -/
def decided (id : Nat) : List Op → Fate
  | [] => .waiting
  | .register :: rest => decided id rest
  | .settle i outcome :: rest => if i = id then .fulfilled outcome else decided id rest
  | .abandon i :: rest => if i = id then .abandoned else decided id rest
  | .closeAll :: _ => .fulfilled (.error .closed)

/-- Whether the operations close the table. -/
def closes : List Op → Bool
  | [] => false
  | .register :: rest => closes rest
  | .settle _ _ :: rest => closes rest
  | .abandon _ :: rest => closes rest
  | .closeAll :: _ => true

/-- What becomes of a request that is registered between these operations. -/
def fateOf (before after : List Op) : Fate :=
  if closes before then .fulfilled (.error .closed) else decided (registrations before) after

/-- What a fate brings to the caller. -/
def Fate.brings (id : Nat) : Fate → List Delivery
  | .fulfilled outcome => [⟨id, outcome⟩]
  | _ => []

/-- What among deliveries is for the caller of a request. -/
def answersTo (id : Nat) (ds : List Delivery) : List Delivery := ds.filter (·.id == id)

@[simp] theorem answersTo_append (id : Nat) (ds es : List Delivery) :
    answersTo id (ds ++ es) = answersTo id ds ++ answersTo id es := by
  rw [answersTo, List.filter_append]
  rfl

@[simp] theorem answersTo_nil (id : Nat) : answersTo id [] = [] := rfl

@[simp] theorem answersTo_self (id : Nat) (outcome : Outcome) :
    answersTo id [⟨id, outcome⟩] = [⟨id, outcome⟩] := by
  simp [answersTo]

theorem answersTo_of_ne {id i : Nat} (h : i ≠ id) (outcome : Outcome) :
    answersTo id [⟨i, outcome⟩] = [] := by
  simp [answersTo, h]

-- ---------------------------------------------------------------------------
-- One operation
-- ---------------------------------------------------------------------------

namespace Table

/-- **A registration**: it waits, or is told at once that the table is closed. The id is used up either way. -/
theorem step_register (t : Table) :
    (t.step .register).1 = (if t.closed then [⟨t.nextId, .error .closed⟩] else []) ∧
      (t.step .register).2.waiting = (if t.closed then t.waiting else t.nextId :: t.waiting) ∧
      (t.step .register).2.nextId = t.nextId + 1 ∧ (t.step .register).2.closed = t.closed := by
  rw [step, register]
  cases t.closed <;> exact ⟨rfl, rfl, rfl, rfl⟩

/-- What an answer does: it comes to the caller if that one waits, and nobody waits for it
any more. -/
theorem step_settle (t : Table) (id : Nat) (outcome : Outcome) :
    (t.step (.settle id outcome)).1 = (if id ∈ t.waiting then [⟨id, outcome⟩] else []) ∧
      (t.step (.settle id outcome)).2.waiting = t.waiting.erase id ∧
      (t.step (.settle id outcome)).2.nextId = t.nextId ∧
      (t.step (.settle id outcome)).2.closed = t.closed := by
  -- an id for which nobody waits changes nothing here, abandoned or not
  by_cases hw : id ∈ t.waiting
  · simp [step, settle, hw]
  · by_cases ha : id ∈ t.abandoned
    · simp [step, settle, hw, ha, List.erase_of_not_mem hw]
    · simp [step, settle, hw, ha, List.erase_of_not_mem hw]

/-- **Giving up** delivers nothing, and whoever gives up waits no more. -/
theorem step_abandon (t : Table) (id : Nat) :
    (t.step (.abandon id)).1 = [] ∧ (t.step (.abandon id)).2.waiting = t.waiting.erase id ∧
      (t.step (.abandon id)).2.nextId = t.nextId ∧ (t.step (.abandon id)).2.closed = t.closed := by
  by_cases hw : id ∈ t.waiting
  · simp [step, abandon, hw]
  · simp [step, abandon, hw, List.erase_of_not_mem hw]

/-- **Closing** tells all who wait, in the order in which they came. -/
theorem step_closeAll (t : Table) :
    (t.step .closeAll).1 = (t.waiting.reverse.map fun id => ⟨id, .error .closed⟩) ∧
      (t.step .closeAll).2.waiting = [] ∧ (t.step .closeAll).2.nextId = t.nextId ∧
      (t.step .closeAll).2.closed = true :=
  ⟨rfl, rfl, rfl, rfl⟩

/-- The invariant of the table: it was given out what it waits for, each id once, and a closed table
waits for nothing. -/
structure Sound (t : Table) : Prop where
  nodup : t.waiting.Nodup
  given : ∀ id ∈ t.waiting, id < t.nextId
  closed : t.closed = true → t.waiting = []

theorem sound_empty : Sound {} := ⟨List.nodup_nil, by simp, fun _ => rfl⟩

/-- Somebody waits no more. -/
theorem Sound.erase {t t' : Table} (h : t.Sound) {id : Nat}
    (hwaiting : t'.waiting = t.waiting.erase id)
    (hnext : t'.nextId = t.nextId) (hclosed : t'.closed = t.closed) : t'.Sound := by
  constructor
  · rw [hwaiting]
    exact h.nodup.erase id
  · rw [hwaiting, hnext]
    exact fun i hi => h.given i (List.mem_of_mem_erase hi)
  · intro hc
    rw [hwaiting, h.closed (hclosed ▸ hc)]
    rfl

/-- **Every operation keeps the table sound.** -/
theorem Sound.step {t : Table} (h : t.Sound) (op : Op) : (t.step op).2.Sound := by
  cases op with
  | register =>
    obtain ⟨-, hwaiting, hnext, hclosed⟩ := t.step_register
    -- a closed table answers at once and lets nobody wait
    cases hc : t.closed with
    | true =>
      rw [hc, if_pos rfl] at hwaiting
      refine ⟨?_, ?_, fun _ => ?_⟩
      · rw [hwaiting]
        exact h.nodup
      · rw [hwaiting, hnext]
        exact fun i hi => Nat.lt_succ_of_lt (h.given i hi)
      · rw [hwaiting, h.closed hc]
    | false =>
      rw [hc, if_neg (by simp)] at hwaiting
      refine ⟨?_, ?_, fun hcl => ?_⟩
      -- the new id is above all that were given out before
      · rw [hwaiting, List.nodup_cons]
        exact ⟨fun hmem => Nat.lt_irrefl _ (h.given _ hmem), h.nodup⟩
      · rw [hwaiting, hnext]
        intro i hi
        rcases List.mem_cons.mp hi with rfl | hi
        · exact Nat.lt_succ_self _
        · exact Nat.lt_succ_of_lt (h.given i hi)
      · rw [hclosed, hc] at hcl
        cases hcl
  | settle id outcome =>
    obtain ⟨-, hwaiting, hnext, hclosed⟩ := t.step_settle id outcome
    exact h.erase hwaiting hnext hclosed
  | abandon id =>
    obtain ⟨-, hwaiting, hnext, hclosed⟩ := t.step_abandon id
    exact h.erase hwaiting hnext hclosed
  | closeAll =>
    exact ⟨List.nodup_nil, fun i hi => absurd hi (by simp [Table.step, closeAll]), fun _ => rfl⟩

/-- **Every run keeps the table sound.** -/
theorem Sound.run {t : Table} (h : t.Sound) (ops : List Op) : (t.run ops).Sound := by
  induction ops generalizing t with
  | nil => exact h
  | cons op rest ih => exact ih (h.step op)

/-- The ids are counted. -/
theorem nextId_run (t : Table) (ops : List Op) :
    (t.run ops).nextId = t.nextId + registrations ops := by
  induction ops generalizing t with
  | nil => rfl
  | cons op rest ih =>
    rw [run, ih]
    cases op with
    | register =>
      rw [t.step_register.2.2.1, registrations]
      omega
    | settle id outcome => rw [(t.step_settle id outcome).2.2.1, registrations]
    | abandon id => rw [(t.step_abandon id).2.2.1, registrations]
    | closeAll => rw [t.step_closeAll.2.2.1, registrations]

/-- A table is closed once and for all. -/
theorem closed_run (t : Table) (ops : List Op) : (t.run ops).closed = (t.closed || closes ops) := by
  induction ops generalizing t with
  | nil => simp [run, closes]
  | cons op rest ih =>
    rw [run, ih]
    cases op with
    | register => rw [t.step_register.2.2.2, closes]
    | settle id outcome => rw [(t.step_settle id outcome).2.2.2, closes]
    | abandon id => rw [(t.step_abandon id).2.2.2, closes]
    | closeAll => simp [t.step_closeAll.2.2.2, closes]

end Table

-- ---------------------------------------------------------------------------
-- Any operations
-- ---------------------------------------------------------------------------

/-- No operation takes an id back. -/
theorem Table.nextId_le_step (t : Table) (op : Op) : t.nextId ≤ (t.step op).2.nextId := by
  -- one operation is a run of its own
  have hnext := nextId_run t [op]
  rw [run, run] at hnext
  omega

/-- What an operation may deliver, behind these operations. Only closing reaches more than
one request. -/
def Reaches (closed : Bool) (next : Nat) (δ : Delivery) : Op → Prop
  | .register => closed = true ∧ δ = ⟨next, .error .closed⟩
  | .settle id outcome => δ = ⟨id, outcome⟩
  | .abandon _ => False
  | .closeAll => δ.outcome = .error .closed

/-- **An operation reaches those it concerns**: one who waits, or the one who registers too late. -/
theorem Table.reaches_of_mem_step {t : Table} {op : Op} {δ : Delivery} (h : δ ∈ (t.step op).1) :
    Reaches t.closed t.nextId δ op ∧ (δ.id ∈ t.waiting ∨ op = .register) := by
  cases op with
  | register =>
    rw [t.step_register.1] at h
    split at h
    · rename_i hclosed
      exact ⟨⟨hclosed, List.mem_singleton.mp h⟩, .inr rfl⟩
    · cases h
  | settle id outcome =>
    rw [(t.step_settle id outcome).1] at h
    split at h
    · rename_i hid
      obtain rfl := List.mem_singleton.mp h
      exact ⟨rfl, .inl hid⟩
    · cases h
  | abandon id =>
    rw [(t.step_abandon id).1] at h
    cases h
  | closeAll =>
    rw [t.step_closeAll.1, List.mem_map] at h
    obtain ⟨id, hid, rfl⟩ := h
    exact ⟨rfl, .inl (List.mem_reverse.mp hid)⟩

/-- Nothing is delivered to an id that was not given out. -/
theorem Table.Sound.id_le_of_mem_step {t : Table} (ht : t.Sound) {op : Op} {δ : Delivery}
    (h : δ ∈ (t.step op).1) : δ.id < (t.step op).2.nextId := by
  obtain ⟨hreaches, hmem | rfl⟩ := Table.reaches_of_mem_step h
  · exact Nat.lt_of_lt_of_le (ht.given _ hmem) (t.nextId_le_step op)
  · rw [hreaches.2, t.step_register.2.2.1]
    exact Nat.lt_succ_self _

/-- Nobody comes to wait but the one who registers. -/
theorem Table.mem_waiting_of_step {t : Table} {op : Op} {id : Nat}
    (h : id ∈ (t.step op).2.waiting) :
    id ∈ t.waiting ∨ id = t.nextId := by
  cases op with
  | register =>
    rw [t.step_register.2.1] at h
    split at h
    · exact .inl h
    · exact (List.mem_cons.mp h).symm
  | settle i outcome =>
    rw [(t.step_settle i outcome).2.1] at h
    exact .inl (List.mem_of_mem_erase h)
  | abandon i =>
    rw [(t.step_abandon i).2.1] at h
    exact .inl (List.mem_of_mem_erase h)
  | closeAll =>
    rw [t.step_closeAll.2.1] at h
    cases h

/-- **An id that was given out and does not wait** gets nothing more. -/
theorem answersTo_of_not_waiting {t : Table} {id : Nat} (hgiven : id < t.nextId)
    (hwaiting : id ∉ t.waiting) (ops : List Op) : answersTo id (deliveries t ops) = [] := by
  induction ops generalizing t with
  | nil => rfl
  | cons op rest ih =>
    -- an operation reaches those who wait, and at most a new id besides
    have hnow : answersTo id (t.step op).1 = [] := by
      rw [answersTo, List.filter_eq_nil_iff]
      intro δ hδ heq
      rw [beq_iff_eq] at heq
      obtain ⟨hreaches, hmem | rfl⟩ := Table.reaches_of_mem_step hδ
      · exact hwaiting (heq ▸ hmem)
      · rw [hreaches.2] at heq
        exact Nat.ne_of_gt hgiven heq
    -- only registering makes anybody wait, and only under a new id
    have hlater : id ∉ (t.step op).2.waiting := by
      intro hmem
      rcases Table.mem_waiting_of_step hmem with hmem | hnew
      · exact hwaiting hmem
      · omega
    rw [deliveries, answersTo_append, hnow,
      ih (Nat.lt_of_lt_of_le hgiven (t.nextId_le_step op)) hlater]
    rfl

/-- Closing the table tells each of those who wait once. -/
theorem answersTo_closed {waiting : List Nat} (hnodup : waiting.Nodup) {id : Nat}
    (h : id ∈ waiting) :
    answersTo id (waiting.reverse.map fun id => ⟨id, .error .closed⟩) = [⟨id, .error .closed⟩] := by
  have honce : waiting.reverse.filter (· == id) = [id] := by
    rw [List.filter_beq, List.count_reverse, List.count_eq_one_of_mem hnodup h]
    rfl
  rw [answersTo, List.filter_map]
  simp only [Function.comp_def, honce, List.map_cons, List.map_nil]

/-- **An id that waits** gets what the operations decide. -/
theorem answersTo_of_waiting {t : Table} (ht : t.Sound) {id : Nat} (hwaiting : id ∈ t.waiting)
    (ops : List Op) : answersTo id (deliveries t ops) = (decided id ops).brings id := by
  -- the id waits until an operation decides about it; behind that one it does not wait any more
  induction ops generalizing t with
  | nil => rfl
  | cons op rest ih =>
    have hgiven := ht.given id hwaiting
    have hsound := ht.step op
    rw [deliveries, answersTo_append]
    cases op with
    | register =>
      obtain ⟨hdelivers, hwaits, -, -⟩ := t.step_register
      -- somebody waits, so that the table is open
      have hopen : t.closed = false := by
        cases hc : t.closed with
        | false => rfl
        | true =>
          rw [ht.closed hc] at hwaiting
          cases hwaiting
      rw [hopen, if_neg (by simp)] at hdelivers hwaits
      rw [hdelivers, ih hsound (by rw [hwaits]; exact List.mem_cons_of_mem _ hwaiting), decided]
      rfl
    | settle i outcome =>
      obtain ⟨hdelivers, hwaits, hnext, -⟩ := t.step_settle i outcome
      rw [hdelivers, decided]
      by_cases hi : i = id
      · subst hi
        have hgone : i ∉ (t.step (.settle i outcome)).2.waiting := by
          rw [hwaits]
          exact ht.nodup.not_mem_erase
        rw [if_pos hwaiting, if_pos rfl, answersTo_self,
          answersTo_of_not_waiting (by rw [hnext]; exact hgiven) hgone]
        rfl
      · have hstill : id ∈ (t.step (.settle i outcome)).2.waiting := by
          rw [hwaits]
          exact (List.mem_erase_of_ne (Ne.symm hi)).mpr hwaiting
        rw [if_neg hi, ih hsound hstill]
        -- whatever comes to the other id is not for this one
        split
        · rw [answersTo_of_ne hi, List.nil_append]
        · rfl
    | abandon i =>
      obtain ⟨hdelivers, hwaits, hnext, -⟩ := t.step_abandon i
      rw [hdelivers, decided]
      by_cases hi : i = id
      · subst hi
        have hgone : i ∉ (t.step (.abandon i)).2.waiting := by
          rw [hwaits]
          exact ht.nodup.not_mem_erase
        rw [if_pos rfl, answersTo_of_not_waiting (by rw [hnext]; exact hgiven) hgone]
        rfl
      · have hstill : id ∈ (t.step (.abandon i)).2.waiting := by
          rw [hwaits]
          exact (List.mem_erase_of_ne (Ne.symm hi)).mpr hwaiting
        rw [if_neg hi, ih hsound hstill]
        rfl
    | closeAll =>
      obtain ⟨hdelivers, hwaits, hnext, -⟩ := t.step_closeAll
      -- closing answers this id among the others, and nothing comes behind it
      rw [hdelivers, answersTo_closed ht.nodup hwaiting,
        answersTo_of_not_waiting (by rw [hnext]; exact hgiven)
          (by rw [hwaits]; exact List.not_mem_nil)]
      rfl

/-- Before an id is given out nothing comes to it. -/
theorem answersTo_of_not_given {t : Table} (ht : t.Sound) {id : Nat} (ops : List Op)
    (h : t.nextId + registrations ops ≤ id) : answersTo id (deliveries t ops) = [] := by
  induction ops generalizing t with
  | nil => rfl
  | cons op rest ih =>
    -- ids are counted up, so that none of these operations gives out this one
    have hlast := Table.nextId_run t (op :: rest)
    rw [Table.run, Table.nextId_run] at hlast
    have hnow : answersTo id (t.step op).1 = [] := by
      rw [answersTo, List.filter_eq_nil_iff]
      intro δ hδ heq
      have hlt := ht.id_le_of_mem_step hδ
      rw [beq_iff_eq] at heq
      omega
    rw [deliveries, answersTo_append, hnow, ih (ht.step op) (by omega)]
    rfl

-- ---------------------------------------------------------------------------
-- Every request
-- ---------------------------------------------------------------------------

/-- What comes to a request is what its fate brings. -/
theorem answersTo_registered (before after : List Op) :
    answersTo (registrations before) (deliveries {} (before ++ .register :: after)) =
      (fateOf before after).brings (registrations before) := by
  have hsound := Table.sound_empty.run before
  have hnext := Table.nextId_run {} before
  have hclosed := Table.closed_run {} before
  have hnone : answersTo (registrations before) (deliveries {} before) = [] :=
    answersTo_of_not_given Table.sound_empty before (by simp)
  -- of the operations before only the table that they leave matters from here on
  generalize hid : registrations before = id at *
  generalize ht : ({} : Table).run before = t at *
  simp only [Nat.zero_add, Bool.false_or] at hnext hclosed
  obtain ⟨hdelivers, hwaits, hnext', -⟩ := t.step_register
  rw [deliveries_append, answersTo_append, hnone, List.nil_append, ht, deliveries, answersTo_append,
    fateOf, hdelivers, ← hclosed, hid]
  cases hc : t.closed with
  | true =>
    -- too late: answered at once
    rw [hc, if_pos rfl, hsound.closed hc] at hwaits
    rw [if_pos rfl, if_pos rfl, hnext, answersTo_self,
      answersTo_of_not_waiting (by rw [hnext']; omega) (by rw [hwaits]; exact List.not_mem_nil)]
    rfl
  | false =>
    rw [hc, if_neg (by simp)] at hwaits
    rw [if_neg (by simp), if_neg (by simp), answersTo_nil, List.nil_append]
    exact answersTo_of_waiting (hsound.step .register)
      (by rw [hwaits, hnext]; exact List.mem_cons_self) after

/-- Each id that was given out was given out by an operation. -/
theorem exists_registration {ops : List Op} {id : Nat} (h : id < registrations ops) :
    ∃ before after, ops = before ++ .register :: after ∧ registrations before = id := by
  induction ops generalizing id with
  | nil => cases h
  | cons op rest ih =>
    cases op with
    | register =>
      cases id with
      | zero => exact ⟨[], rest, rfl, rfl⟩
      | succ id =>
        obtain ⟨before, after, rfl, hid⟩ := ih (Nat.lt_of_succ_lt_succ h)
        exact ⟨.register :: before, after, rfl, by rw [registrations, hid]⟩
    | settle i outcome =>
      obtain ⟨before, after, rfl, hid⟩ := ih h
      exact ⟨.settle i outcome :: before, after, rfl, hid⟩
    | abandon i =>
      obtain ⟨before, after, rfl, hid⟩ := ih h
      exact ⟨.abandon i :: before, after, rfl, hid⟩
    | closeAll =>
      obtain ⟨before, after, rfl, hid⟩ := ih h
      exact ⟨.closeAll :: before, after, rfl, hid⟩

/-- One of all the operations closes if one of the first or of the last does. -/
theorem closes_append (before after : List Op) :
    closes (before ++ after) = (closes before || closes after) := by
  induction before with
  | nil => rfl
  | cons op rest ih => cases op <;> simp [closes, ih]

/-- Once the table is closed, it is decided what becomes of a request. -/
theorem decided_of_closes {ops : List Op} (h : closes ops = true) (id : Nat) :
    decided id ops ≠ .waiting := by
  induction ops with
  | nil => cases h
  | cons op rest ih =>
    cases op with
    | register => exact ih h
    | settle i outcome =>
      rw [decided]
      split
      · nofun
      · exact ih h
    | abandon i =>
      rw [decided]
      split
      · nofun
      · exact ih h
    | closeAll => nofun

/-- Where somebody closes nobody is left waiting. -/
theorem fateOf_of_closes {before after : List Op}
    (h : closes (before ++ .register :: after) = true) :
    fateOf before after ≠ .waiting := by
  rw [closes_append, closes] at h
  rw [fateOf]
  split
  · nofun
  · rename_i hbefore
    rw [Bool.not_eq_true] at hbefore
    rw [hbefore, Bool.false_or] at h
    exact decided_of_closes h _

/-- The caller of a request was answered. -/
def Answered (ops : List Op) (id : Nat) : Prop :=
  ∃ outcome, answersTo id (deliveries {} ops) = [⟨id, outcome⟩]

/-- The caller of a request gave up before anything else was decided about it. -/
def GaveUp (ops : List Op) (id : Nat) : Prop :=
  ∃ before after, ops = before ++ .register :: after ∧ registrations before = id ∧
    fateOf before after = .abandoned

/-- **Each request is answered exactly once**, whatever the operations and their order.

* What comes to a request is decided by the first operation behind its registration that names it or
  closes the table: that answer alone, or nothing at all if the caller gave up. A table that was
  closed before answers at once.
* An operation reaches no request but the one it names; only closing reaches all.
* Once the table is closed, each request was answered or given up. -/
theorem delivered_exactly_once :
    (∀ before after,
      answersTo (registrations before) (deliveries {} (before ++ .register :: after)) =
      (fateOf before after).brings (registrations before)) ∧
    (∀ ops op δ, δ ∈ ((({} : Table).run ops).step op).1 →
      Reaches (closes ops) (registrations ops) δ op ∧ δ.id < registrations (ops ++ [op])) ∧
    (∀ ops id, closes ops = true → id < registrations ops → Answered ops id ∨ GaveUp ops id) := by
  refine ⟨answersTo_registered, ?_, ?_⟩
  · intro ops op δ hδ
    -- the counters of the table are those of the list of operations
    have hnext := Table.nextId_run {} ops
    have hclosed := Table.closed_run {} ops
    have hlast := Table.nextId_run {} (ops ++ [op])
    simp only [Nat.zero_add, Bool.false_or] at hnext hclosed hlast
    have hreaches := (Table.reaches_of_mem_step hδ).1
    have hlt := (Table.sound_empty.run ops).id_le_of_mem_step hδ
    rw [hclosed, hnext] at hreaches
    rw [Table.run_append] at hlast
    exact ⟨hreaches, Nat.lt_of_lt_of_eq hlt hlast⟩
  · intro ops id hcloses hid
    -- the id was given out by one of the operations; those before it and behind it decide
    obtain ⟨before, after, rfl, rfl⟩ := exists_registration hid
    have hfate := fateOf_of_closes hcloses
    have hanswers := answersTo_registered before after
    cases hf : fateOf before after with
    | waiting => exact absurd hf hfate
    | fulfilled outcome =>
      rw [hf] at hanswers
      exact .inl ⟨outcome, hanswers⟩
    | abandoned => exact .inr ⟨before, after, rfl, rfl, hf⟩

/-- Three requests: one is answered, the caller of one gives up, and closing the table tells
the third. -/
def threeRequests : List Op :=
  [.register, .register, .register, .settle 0 (.ok .null), .abandon 1, .closeAll]

/-- One of three requests is answered, one is given up, and the third is told of the end. -/
theorem delivered_exactly_once_three :
    closes threeRequests = true ∧ registrations threeRequests = 3 ∧
      (∀ id < 3, Answered threeRequests id ∨ GaveUp threeRequests id) ∧
      ⟨2, .error .closed⟩ ∈ ((({} : Table).run (threeRequests.take 5)).step .closeAll).1 ∧
      Reaches false 3 ⟨2, .error .closed⟩ .closeAll := by
  obtain ⟨-, hreaches, hclosed⟩ := delivered_exactly_once
  have hlast : ⟨2, .error .closed⟩ ∈
      ((({} : Table).run (threeRequests.take 5)).step .closeAll).1 := by
    exact List.mem_singleton_self _
  exact ⟨rfl, rfl, fun id hid => hclosed threeRequests id rfl hid, hlast,
    (hreaches (threeRequests.take 5) .closeAll _ hlast).1⟩

end EditorLink.Correlation
