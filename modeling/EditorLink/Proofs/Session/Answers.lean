import EditorLink.Proofs.Session.Delivery
import Mathlib.Data.List.Nodup

/-!
# EditorLink — one answer to each request

Whatever order things happen in, each value that a session takes in is handled once: either a thread
is at work on it, or it came to a conclusion. The responses that are said are those that the
conclusions call for, in the order of the conclusions. When a session ends no thread is left, and if
no write failed the responses are written.

What a value is owed is written out by its kind and by what it came to, with the codes and the texts that the other
side gets (`owed`): the result of a task, the report of its failure, the words of a crash under -1, and -32600 for a
value that is no message, if it has an id to answer to. Everything else is owed nothing. Which report is made of a
failure is the subject of `EditorLink.Proofs.Message.HandlerFaults`.

Occurrences are numbered in the order in which they are taken in, so that two requests with the same id are two
occurrences, and each is answered for itself. An invariant ties threads and conclusions to occurrences as lists
without repetition: a permutation, since nothing is said of who finishes first.

That the responses are written is a matter of the writer and of the end of the session, and comes from
`EditorLink.Proofs.Session.Delivery`.

## Results

* `owed` — what the sender of a value is owed for what it came to;
* `Course.said_conclude` — a conclusion says what is owed, and nothing else;
* `Answers` — the invariant, with its step and run lemmas;
* `Answers.written` — what it comes to when a session has ended.
-/

namespace EditorLink.Session

open Message (CallFault ErrorObject Outgoing RequestId)
open scoped List

-- ---------------------------------------------------------------------------
-- What is owed
-- ---------------------------------------------------------------------------

/-- What the sender of a value is owed for what it came to: the codes and texts are those that the other side
finds in its answer. -/
def owed (value : Json) (k : Conclusion) : List Outgoing :=
  match Message.classify value, k with
  | .ok (.request id _ _), .finished result => [.response id (.ok result)]
  | .ok (.request id _ _), .failed fault => [.response id (.error (.ofHandlerFault fault))]
  | .ok (.request id _ _), .crashed message => [.response id (.error { code := -1, message })]
  | .error ⟨some id, fault⟩, _ =>
    [.response id (.error { code := -32600, message := s!"Invalid request: {fault.message}" })]
  | _, _ => []

/-- A crash is answered with its own words. -/
theorem handlerFailed_eq (message : String) : ErrorObject.handlerFailed message = { code := -1, message } := by
  rfl

/-- What is no message is answered with the reason why. -/
theorem invalidRequest_eq (reason : String) :
    ErrorObject.invalidRequest reason = { code := -32600, message := s!"Invalid request: {reason}" } := by
  rfl

/-- Only what is no message is refused, so that no task comes to that. -/
theorem Task.ComesTo.ne_refused {task : Task} {k : Conclusion} (h : task.ComesTo k)
    (fault : Message.MessageFault) : k ≠ .refused fault := by
  induction h with
  | finish result => nofun
  | fail fault => nofun
  | crash message => nofun
  | notify sent h ih => exact ih
  | ask outcome h ih => exact ih
  | wait h ih => exact ih
  | close h ih => exact ih

/-- Neither does a reaction. -/
theorem Reaction.ComesTo.ne_refused {reaction : Reaction} {k : Conclusion} (h : reaction.ComesTo k)
    (fault : Message.MessageFault) : k ≠ .refused fault := by
  induction h with
  | silent => nofun
  | crash message => nofun
  | start h => exact h.ne_refused fault
  | notify sent h ih => exact ih
  | close h ih => exact ih

def Concluded.owed (e : Concluded) : List Saying :=
  (Session.owed e.occurrence.value e.conclusion).map (Saying.mk (.message e.occurrence))

/-- What is owed is a response. -/
theorem isResponse_of_mem_owed {value : Json} {k : Conclusion} {m : Outgoing}
    (h : m ∈ owed value k) :
    m.isResponse = true := by
  unfold owed at h
  split at h <;> simp_all [Outgoing.isResponse]

variable {σ : Type} {handler : Handler σ}

/-- A conclusion is noted, whether anybody is told of it or not. -/
theorem Course.concluded_conclude (c : Course σ) (o : Occurrence) (replyTo : Option RequestId)
    (k : Conclusion) : (c.conclude o replyTo k).concluded = c.concluded ++ [⟨o, k⟩] := by
  obtain ⟨id, outcome, -, -, h⟩ | ⟨-, h⟩ := c.conclude_cases o replyTo k <;> rw [h] <;> rfl

/-- A conclusion says what is owed, and nothing else. -/
theorem Course.said_conclude (c : Course σ) {o : Occurrence} {k : Conclusion} (hk : o.MayComeTo k) :
    (c.conclude o (replyTo? o.value) k).said = c.said ++ Concluded.owed ⟨o, k⟩ := by
  unfold Occurrence.MayComeTo at hk
  unfold conclude Concluded.owed owed replyTo?
  cases hclass : Message.classify o.value with
  | error malformed =>
    obtain ⟨id, fault⟩ := malformed
    simp only [hclass] at hk
    -- no message: the error goes to the id, if one was found
    subst hk
    cases id <;> simp [say, note, Conclusion.answer?, invalidRequest_eq]
  | ok message =>
    cases message with
    | response id outcome => simp [note]
    | notification method params => simp [note]
    | request id method params =>
      simp only [hclass] at hk
      -- a request: all conclusions but a refusal, which a handler cannot come to
      obtain ⟨reaction, -, hk⟩ := hk
      cases k with
      | refused fault => exact absurd rfl (hk.ne_refused fault)
      | _ => simp [say, note, Conclusion.answer?, handlerFailed_eq]

-- ---------------------------------------------------------------------------
-- Each value is handled once
-- ---------------------------------------------------------------------------

/-- Values that are taken in one after the other. -/
def Intake.occurrences (handler : Handler σ) : Intake σ → List Json → List Occurrence
  | _, [] => []
  | i, value :: rest => i.upcoming handler value :: (i.take handler value).occurrences handler rest

/-- One more value is one more occurrence, which the handler meets with what it remembers by then. -/
theorem Intake.occurrences_concat (i : Intake σ) (values : List Json) (value : Json) :
    i.occurrences handler (values ++ [value]) =
      i.occurrences handler values ++ [(values.foldl (take handler) i).upcoming handler value] := by
  induction values generalizing i with
  | nil => rfl
  | cons v rest ih => exact congrArg _ (ih _)

/-- They are numbered one after the other. -/
theorem Intake.number_occurrences (i : Intake σ) (values : List Json) :
    (i.occurrences handler values).map (·.number) = List.range' i.routed.length values.length := by
  induction values generalizing i with
  | nil => rfl
  | cons v rest ih =>
    have hlength : (i.take handler v).routed.length = i.routed.length + 1 := List.length_append
    rw [occurrences, List.map_cons, ih, hlength, List.length_cons, List.range'_succ]
    rfl

/-- All values that were taken in, if this is what the handler remembered at first. -/
def State.occurrences (handler : Handler σ) (memory : σ) (s : State σ) : List Occurrence :=
  Intake.occurrences handler ⟨[], memory⟩ s.routed

/-- Occurrences depend on what was taken in only. -/
theorem State.occurrences_congr {memory : σ} {s s' : State σ} (hs : s'.intake = s.intake) :
    s'.occurrences handler memory = s.occurrences handler memory :=
  congrArg (fun i : Intake σ => Intake.occurrences handler ⟨[], memory⟩ i.routed) hs

/-- The handler remembers what it met, and nothing else. -/
def State.Remembers (handler : Handler σ) (memory : σ) (s : State σ) : Prop :=
  s.intake = s.routed.foldl (Intake.take handler) ⟨[], memory⟩

theorem State.Remembers.congr {memory : σ} {s s' : State σ} (h : s.Remembers handler memory)
    (hs : s'.intake = s.intake) : s'.Remembers handler memory := by
  have hrouted : s'.routed = s.routed := congrArg Intake.routed hs
  rw [Remembers, hs, hrouted, h]

/-- A value that is taken in is remembered as the handler wants. -/
theorem State.Remembers.take {memory : σ} {s s' : State σ} (h : s.Remembers handler memory)
    {value : Json}
    (hs : s'.intake = s.intake.take handler value) : s'.Remembers handler memory := by
  have hrouted : s'.routed = s.routed ++ [value] := congrArg Intake.routed hs
  rw [Remembers, hs, hrouted, List.foldl_concat, ← h]

/-- A value that is taken in is the next occurrence. -/
theorem State.Remembers.occurrences_take {memory : σ} {s s' : State σ}
    (h : s.Remembers handler memory) {value : Json} (hs : s'.intake = s.intake.take handler value) :
    s'.occurrences handler memory = s.occurrences handler memory ++
      [s.intake.upcoming handler value] := by
  have hrouted : s'.routed = s.routed ++ [value] := congrArg Intake.routed hs
  rw [occurrences, hrouted, Intake.occurrences_concat, ← h]
  rfl

def responses (said : List Saying) : List Saying := said.filter (·.message.isResponse)

theorem responses_append (said said' : List Saying) :
    responses (said ++ said') = responses said ++ responses said' := List.filter_append ..

/-- All that is owed are responses. -/
theorem responses_owed (e : Concluded) : responses e.owed = e.owed := by
  rw [responses, List.filter_eq_self]
  intro m hm
  obtain ⟨message, hmessage, rfl⟩ := List.mem_map.mp hm
  exact isResponse_of_mem_owed hmessage

/-- What holds of a course while these threads are at work: each value is handled by one of them or
came to one conclusion, and the conclusions are answered. -/
structure Answers (handler : Handler σ) (memory : σ) (c : Course σ) (threads : List Thread) :
    Prop where
  remembers : c.state.Remembers handler memory
  once : (threads.map (·.occurrence) ++ c.concluded.map (·.occurrence)).Perm
    (c.state.occurrences handler memory)
  handled : ∀ t ∈ threads, t.replyTo = replyTo? t.occurrence.value ∧
    ∀ k, t.stage.ComesTo k → t.occurrence.MayComeTo k
  concluded : ∀ e ∈ c.concluded, e.occurrence.MayComeTo e.conclusion
  answered : responses c.said = c.concluded.flatMap Concluded.owed

theorem answers_create (config : Config) (memory : σ) :
    Answers handler memory (World.create config memory).toCourse [] :=
  ⟨rfl, .refl _, by simp, by simp [World.create], rfl⟩

namespace Answers

variable {memory : σ} {c c' : Course σ} {threads threads' : List Thread}

theorem perm (h : Answers handler memory c threads) (hperm : threads.Perm threads') :
    Answers handler memory c threads' where
  remembers := h.remembers
  once := ((hperm.map _).symm.append_right _).trans h.once
  handled t ht := h.handled t (hperm.mem_iff.mpr ht)
  concluded := h.concluded
  answered := h.answered

/-- Nothing is disturbed by what takes in no value, answers nothing and concludes nothing. -/
theorem congr (h : Answers handler memory c threads) (hintake : c'.state.intake = c.state.intake)
    (hsaid : responses c'.said = responses c.said) (hconcluded : c'.concluded = c.concluded) :
    Answers handler memory c' threads where
  remembers := h.remembers.congr hintake
  once := by rw [State.occurrences_congr hintake, hconcluded]; exact h.once
  handled := h.handled
  concluded := by rw [hconcluded]; exact h.concluded
  answered := by rw [hsaid, hconcluded]; exact h.answered

/-- Whatever is said that is no response leaves the answers alone. -/
theorem say (h : Answers handler memory c threads) (origin : Origin) {m : Outgoing}
    (hm : m.isResponse = false) :
    Answers handler memory (c.say origin m).2 threads := by
  refine h.congr (c.intake_say origin m) ?_ rfl
  simp [Course.say, responses, hm]

/-- A value comes to its conclusion, whether it is at work or was taken in just now. -/
theorem conclude (h : Answers handler memory c threads) {s : State σ} {fresh : List Occurrence}
    (hremembers : s.Remembers handler memory)
    (hs : s.occurrences handler memory = c.state.occurrences handler memory ++ fresh)
    {o : Occurrence} {k : Conclusion} (hk : o.MayComeTo k)
    (honce : (o :: threads'.map (·.occurrence)).Perm (threads.map (·.occurrence) ++ fresh))
    (hsub : ∀ t ∈ threads', t ∈ threads) :
    Answers handler memory ({ c with state := s }.conclude o (replyTo? o.value) k) threads' := by
  have hconcluded := ({ c with state := s } : Course σ).concluded_conclude o (replyTo? o.value) k
  have hintake := ({ c with state := s } : Course σ).intake_conclude o (replyTo? o.value) k
  refine ⟨hremembers.congr hintake, ?_, fun t ht => h.handled t (hsub t ht), ?_, ?_⟩
  -- the occurrence moves from those at work, or from what is fresh, to those concluded
  · rw [State.occurrences_congr hintake, hs, hconcluded, List.map_append, List.map_singleton,
      ← List.append_assoc]
    calc
      _ ~ o :: (threads'.map (·.occurrence) ++ c.concluded.map (·.occurrence)) :=
        List.perm_append_singleton ..
      _ ~ threads.map (·.occurrence) ++ fresh ++ c.concluded.map (·.occurrence) :=
        honce.append_right _
      _ ~ threads.map (·.occurrence) ++ c.concluded.map (·.occurrence) ++ fresh := by
        rw [List.append_assoc, List.append_assoc]
        exact List.perm_append_comm.append_left _
      _ ~ c.state.occurrences handler memory ++ fresh := h.once.append_right _
  · rw [hconcluded]
    intro e he
    rcases List.mem_append.mp he with hold | hnew
    · exact h.concluded e hold
    · rw [List.mem_singleton.mp hnew]
      exact hk
  -- the sayings of the conclusion are the last of the responses
  · rw [Course.said_conclude _ hk, responses_append, responses_owed, hconcluded,
      List.flatMap_append, List.flatMap_singleton]
    exact congrArg (· ++ _) h.answered

/-- A value that was taken in just now is at work. -/
theorem begin (h : Answers handler memory c threads) {s : State σ} {t : Thread}
    (hremembers : s.Remembers handler memory)
    (hs : s.occurrences handler memory = c.state.occurrences handler memory ++ [t.occurrence])
    (hreply : t.replyTo = replyTo? t.occurrence.value)
    (hcomes : ∀ k, t.stage.ComesTo k → t.occurrence.MayComeTo k) :
    Answers handler memory { c with state := s } (t :: threads) where
  remembers := hremembers
  once := by
    rw [hs]
    exact (List.perm_append_singleton ..).symm.trans (h.once.append_right _)
  handled := by
    intro t' ht'
    rcases List.mem_cons.mp ht' with rfl | hold
    · exact ⟨hreply, hcomes⟩
    · exact h.handled t' hold
  concluded := h.concluded
  answered := h.answered

/-- **A step of a thread** leaves the value at work, or concludes it. -/
theorem proceed {t : Thread} (h : Answers handler memory c (t :: threads)) :
    Answers handler memory (t.proceed c).1 ((t.proceed c).2.toList ++ threads) := by
  obtain ⟨hreply, hcomes⟩ := h.handled t List.mem_cons_self
  -- wherever the thread moves, it can come to no more than before
  have hmoved : ∀ {stage : Stage}, (∀ k, stage.ComesTo k → t.stage.ComesTo k) →
      Answers handler memory c (t.movedTo stage :: threads) := by
    intro stage hstage
    refine ⟨h.remembers, h.once, ?_, h.concluded, h.answered⟩
    intro t' ht'
    rcases List.mem_cons.mp ht' with rfl | hold
    · exact ⟨hreply, fun k hk => hcomes k (hstage k hk)⟩
    · exact h.handled t' (List.mem_cons_of_mem _ hold)
  obtain ⟨s, told, stage, heq, hs, hstage⟩ | ⟨m, stage, heq, hm, hstage⟩ | ⟨k, heq, hk⟩ :=
    t.proceed_cases c
  · rw [heq]
    exact (hmoved hstage).congr (State.intake_eq_of_standing hs) rfl rfl
  · rw [heq]
    exact (hmoved hstage).say _ hm
  · rw [heq, hreply]
    -- nothing is fresh: the value leaves the threads
    refine h.conclude h.remembers (List.append_nil _).symm (hcomes k hk) ?_ ?_
    · rw [List.append_nil]
      exact .refl _
    · intro t' ht'
      exact List.mem_cons_of_mem _ ht'

end Answers

-- ---------------------------------------------------------------------------
-- Every step
-- ---------------------------------------------------------------------------

def Loop.thread? : Loop → Option Thread
  | .busy t => some t
  | _ => none

def World.atWork (w : World σ) : List Thread := w.loop.thread?.toList ++ w.threads

/-- The read loop goes on with a thread or gives it away. -/
theorem World.atWork_follow (w : World σ) (t : Option Thread) :
    (w.follow t).atWork ~ t.toList ++ w.threads := by
  unfold follow
  split
  · exact .refl _
  · split
    · exact .refl _
    · exact List.perm_append_singleton ..

namespace Answers

/-- **One step** of anybody: each value is still handled once. -/
theorem step {w w' : World σ} (h : Answers handler memory w.toCourse w.atWork)
    (hstep : Step handler w w') :
    Answers handler memory w'.toCourse w'.atWork := by
  cases hstep with
  | outer houter => exact h.congr (State.intake_eq_of_standing houter.standing) rfl rfl
  | say hm => exact h.say _ hm
  | start =>
    rcases w.state.standing_start with hs | ⟨-, hs⟩
    · exact h.congr (State.intake_eq_of_standing hs) rfl rfl
    · exact h.congr (congrArg Standing.intake hs) rfl rfl
  | abort => exact h.congr w.state.intake_abort rfl rfl
  | write hrunning hwrite => exact h.congr hwrite.intake rfl rfl
  | await hphase hloop hnext => exact h.congr rfl rfl rfl
  | @receive value reader hphase hloop hnext =>
    have hread :
        Answers handler memory { w.toCourse with state := { w.state with reader } } w.atWork :=
      h.congr rfl rfl rfl
    -- the read loop waits, so that only the threads are at work
    have hidle : w.atWork = w.threads := by rw [World.atWork, hloop]; rfl
    obtain ⟨s, hs, hcases⟩ :=
      World.receive_cases handler { w with state := { w.state with reader } } value
    have hintake := congrArg Standing.intake hs
    obtain ⟨loop, k, hleft, hk, heq⟩ | ⟨reaction, hcomes, heq⟩ := hcases
    · have hnone : loop.thread? = none := by
        rcases hleft with rfl | ⟨outcome, rfl⟩
        · simp [hloop, Loop.thread?]
        · rfl
      rw [heq, World.atWork, hnone]
      exact (hidle ▸ hread).conclude (h.remembers.take hintake)
        (h.remembers.occurrences_take hintake) hk
        (List.perm_append_singleton ..).symm fun _ ht => ht
    · rw [heq]
      exact (hidle ▸ hread).begin (h.remembers.take hintake)
        (h.remembers.occurrences_take hintake) rfl hcomes
  | cease hphase hloop hcease =>
    rw [World.atWork, hloop] at h
    exact h.congr (State.intake_eq_of_standing hcease.standing) rfl rfl
  | @react t hloop =>
    have hbusy : w.atWork = t :: w.threads := by rw [World.atWork, hloop]; rfl
    rw [World.follow_toCourse]
    exact (hbusy ▸ h).proceed.perm
      (World.atWork_follow { w with toCourse := (t.proceed w.toCourse).1 } _).symm
  | leave hloop =>
    rw [World.atWork, hloop] at h
    exact h.congr rfl rfl rfl
  | @proceed t front behind hthreads =>
    -- the thread that takes the step comes first, and what is left of it goes back
    have hfirst : w.atWork ~ t :: (w.loop.thread?.toList ++ front ++ behind) := by
      rw [World.atWork, hthreads, ← List.append_assoc]
      exact List.perm_middle
    refine (h.perm hfirst).proceed.perm ?_
    have hback := List.perm_append_comm_assoc (t.proceed w.toCourse).2.toList
      (w.loop.thread?.toList ++ front) behind
    simpa only [World.atWork, List.append_assoc] using hback
  | drain hphase hthreads => exact h.congr (w.state.intake_beginFlushing _) rfl rfl
  | finish =>
    rcases w.state.standing_finishFlushing with hs | ⟨outcome, result, verdict, -, -, hs⟩
    · exact h.congr (State.intake_eq_of_standing hs) rfl rfl
    · exact h.congr (congrArg Standing.intake hs) rfl rfl

/-- Every run of a session handles each value once. -/
theorem run {config : Config} {memory : σ} {w : World σ}
    (hrun : Runs handler (World.create config memory) w) :
    Answers handler memory w.toCourse w.atWork := by
  induction hrun with
  | refl => exact answers_create config memory
  | tail _ hstep ih => exact ih.step hstep

end Answers

-- ---------------------------------------------------------------------------
-- One answer to each request
-- ---------------------------------------------------------------------------

/-- What the value with this number came to. -/
def Course.conclusionsOf (c : Course σ) (n : Nat) : List Conclusion :=
  (c.concluded.filter (·.occurrence.number == n)).map (·.conclusion)

def Origin.isOf (n : Nat) : Origin → Bool
  | .message o => o.number == n
  | .outside => false

def responsesOf (n : Nat) (said : List Saying) : List Outgoing :=
  ((responses said).filter (·.origin.isOf n)).map (·.message)

/-- No two occurrences have the same number. -/
theorem nodup_occurrences (memory : σ) (s : State σ) :
    ((s.occurrences handler memory).map (·.number)).Nodup := by
  rw [State.occurrences, Intake.number_occurrences]
  exact List.nodup_range'

/-- Of entries with different keys one has the key. -/
theorem filter_eq_singleton {α : Type} {key : α → Nat} {entries : List α}
    (h : (entries.map key).Nodup)
    {a : α} (ha : a ∈ entries) : entries.filter (key · == key a) = [a] := by
  induction entries with
  | nil => cases ha
  | cons b rest ih =>
    rw [List.map_cons, List.nodup_cons] at h
    rcases List.mem_cons.mp ha with rfl | hrest
    · -- the key of the first is the key of no other
      have hnone : rest.filter (key · == key a) = [] := by
        rw [List.filter_eq_nil_iff]
        intro b hb heq
        rw [beq_iff_eq] at heq
        apply h.1
        rw [← heq]
        exact List.mem_map_of_mem hb
      rw [List.filter_cons, if_pos (beq_self_eq_true _), hnone]
    · have hne : ¬ (key b == key a) = true := by
        intro heq
        rw [beq_iff_eq] at heq
        apply h.1
        rw [heq]
        exact List.mem_map_of_mem hrest
      rw [List.filter_cons, if_neg hne, ih h.2 hrest]

/-- When nothing is at work any more each value came to one conclusion. -/
theorem Answers.filter_concluded {memory : σ} {c : Course σ} (h : Answers handler memory c [])
    {o : Occurrence} (ho : o ∈ c.state.occurrences handler memory) :
    ∃ k, c.concluded.filter (·.occurrence.number == o.number) = [⟨o, k⟩] := by
  have honce : c.concluded.map (·.occurrence) ~ c.state.occurrences handler memory := h.once
  obtain ⟨⟨o', k⟩, he, rfl⟩ := List.mem_map.mp (honce.mem_iff.mpr ho)
  -- no two conclusions are of one value
  have hnodup : (c.concluded.map (·.occurrence.number)).Nodup := by
    have hnumbers := (honce.map (·.number)).nodup_iff.mpr (nodup_occurrences memory c.state)
    rwa [List.map_map] at hnumbers
  exact ⟨k, filter_eq_singleton hnodup he⟩

/-- Of all that is owed, what is owed for one occurrence. -/
theorem filter_owed (n : Nat) (entries : List Concluded) :
    (entries.flatMap Concluded.owed).filter (·.origin.isOf n) =
      (entries.filter (·.occurrence.number == n)).flatMap Concluded.owed := by
  induction entries with
  | nil => rfl
  | cons e rest ih =>
    rw [List.flatMap_cons, List.filter_append, ih]
    cases hnumber : e.occurrence.number == n with
    | true =>
      have hall : e.owed.filter (·.origin.isOf n) = e.owed := by
        rw [List.filter_eq_self]
        intro m hm
        obtain ⟨message, -, rfl⟩ := List.mem_map.mp hm
        exact hnumber
      rw [hall, List.filter_cons, if_pos hnumber, List.flatMap_cons]
    | false =>
      have hnone : e.owed.filter (·.origin.isOf n) = [] := by
        rw [List.filter_eq_nil_iff]
        intro m hm
        obtain ⟨message, -, rfl⟩ := List.mem_map.mp hm
        simp [Origin.isOf, hnumber]
      rw [hnone, List.filter_cons, if_neg (by simp [hnumber]), List.nil_append]

/-- What those outside say answers nothing. -/
theorem responsesOf_append {delivered late : List Saying} (hlate : ∀ m ∈ late, m.origin = .outside)
    (n : Nat) :
    responsesOf n (delivered ++ late) = responsesOf n delivered := by
  have hnone : (responses late).filter (·.origin.isOf n) = [] := by
    rw [List.filter_eq_nil_iff]
    intro m hm
    have houtside : m.origin = .outside := hlate m (List.mem_of_mem_filter hm)
    rw [houtside]
    simp [Origin.isOf]
  rw [responsesOf, responses_append, List.filter_append, hnone, List.append_nil, responsesOf]

/-- When a course has ended with nothing at work and all that was said of messages is written, each
value that was taken in has what it is owed. -/
theorem Answers.written {memory : σ} {c : Course σ} (h : Answers handler memory c [])
    (hlane : Lane c) {result : Except CallFault Unit} (hended : c.state.phase = .ended result)
    (hwrites : c.state.writer.isBroken = false) :
    ∃ delivered, delivered <+: c.said ∧ c.state.output = delivered.flatMap Saying.frame ∧
      (∀ o ∈ c.state.occurrences handler memory, ∃ k, c.conclusionsOf o.number = [k] ∧
        o.MayComeTo k ∧ responsesOf o.number delivered = owed o.value k) ∧
      ∀ m ∈ delivered, m.message.isResponse = true →
        ∃ o ∈ c.state.occurrences handler memory, m.origin = .message o := by
  obtain ⟨delivered, late, hsaid, houtput, hlate⟩ := hlane.written hended hwrites
  refine ⟨delivered, ⟨late, hsaid.symm⟩, houtput, ?_, ?_⟩
  · intro o ho
    obtain ⟨k, hk⟩ := h.filter_concluded ho
    have hmem : (⟨o, k⟩ : Concluded) ∈ c.concluded := by
      have hsingle := List.mem_singleton_self (⟨o, k⟩ : Concluded)
      rw [← hk] at hsingle
      exact List.mem_of_mem_filter hsingle
    have hone : c.conclusionsOf o.number = [k] := by
      rw [Course.conclusionsOf, hk]
      rfl
    refine ⟨k, hone, h.concluded _ hmem, ?_⟩
    -- what is missing at the end answers nothing, so that all responses count
    rw [← responsesOf_append hlate, ← hsaid, responsesOf, h.answered, filter_owed, hk,
      List.flatMap_singleton, Concluded.owed, List.map_map]
    exact List.map_id _
  · intro m hm hresponse
    have hmem : m ∈ responses c.said := by
      rw [responses, List.mem_filter, hsaid]
      exact ⟨List.mem_append_left _ hm, hresponse⟩
    rw [h.answered] at hmem
    obtain ⟨e, he, hm⟩ := List.mem_flatMap.mp hmem
    obtain ⟨message, -, rfl⟩ := List.mem_map.mp hm
    exact ⟨e.occurrence, h.once.mem_iff.mp (List.mem_map_of_mem he), rfl⟩

end EditorLink.Session
