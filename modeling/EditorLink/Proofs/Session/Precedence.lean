import EditorLink.Proofs.Framing.Header
import EditorLink.Proofs.Session.Speech

/-!
# EditorLink — what is said first

The read loop carries out the reaction to a message before it takes in the next. So the first that a reaction says
comes before all that is said for any later message, whichever of the tasks gets its turn when. As long as no write
fails, the frames of all that is said for messages are queued.

Only the first saying of a reaction is followed here, and only if the reaction says it before it starts a task: a task
gets its turns like all others, and what it says may come behind later messages. An opening is said while the thread of
the message is with the read loop, and no later value is taken in before that thread is done or given away
(`Opened.reading`).

The second part compares what is said with what is queued. Sayings of those outside may come too late for the queue, and
they are then the last ones; what is said for a message never does, unless a write has failed.

## Results

* `Occurrence.opening?` — what is said first for a message, if it is said by the read loop;
* `Opened`, `Opened.step`, `opened_plays` — it comes before all that is said for later messages;
* `Course.entered`, `entered_plays` — what is queued of all that is said, which leaves out nothing said for a message.
-/

namespace EditorLink.Session

open Message (Outgoing)

variable {σ : Type}

-- ---------------------------------------------------------------------------
-- First words
-- ---------------------------------------------------------------------------

/-- What a reaction says before anything else. -/
def Reaction.opening? : Reaction → Option Outgoing
  | .notify method params _ => some (.notification method params)
  | _ => none

/-- What is said first for a message. -/
def Occurrence.opening? (o : Occurrence) : Option Saying :=
  (o.reaction.bind Reaction.opening?).map (Saying.mk (.message o))

/-- Whoever is about to carry out a reaction says the first of it next. -/
theorem Thread.opening_said (t : Thread) (c : Course σ) {reaction : Reaction}
    (hstage : t.stage = .reacting reaction) {m : Outgoing} (hm : reaction.opening? = some m) :
    ⟨t.origin, m⟩ ∈ (t.proceed c).1.said := by
  obtain ⟨o, replyTo, stage⟩ := t
  obtain rfl : stage = .reacting reaction := hstage
  cases reaction with
  | notify method params next =>
    cases hm
    exact List.mem_append_right _ (List.mem_singleton.mpr rfl)
  | silent => cases hm
  | crash message => cases hm
  | start task => cases hm
  | close next => cases hm

/-- A step of a thread says something for its message, and for no other. -/
theorem Thread.said_proceed (t : Thread) (c : Course σ) :
    (∃ words : List Outgoing, (t.proceed c).1.said = c.said ++ words.map (Saying.mk t.origin)) ∧
      ∀ t', (t.proceed c).2 = some t' → t'.occurrence = t.occurrence := by
  obtain ⟨words, news, hwords⟩ := t.utters c
  refine ⟨⟨words, hwords.said⟩, ?_⟩
  intro t' ht'
  rcases hwords.next with ⟨k, hnone, -, -⟩ | ⟨stage, hsome, -, -⟩
  · rw [hnone] at ht'
    cases ht'
  · rw [hsome] at ht'
    cases ht'
    rfl

theorem Thread.occurrences_proceed (t : Thread) (c : Course σ) (handler : Handler σ) (memory : σ) :
    (t.proceed c).1.state.occurrences handler memory = c.state.occurrences handler memory :=
  State.occurrences_congr (t.sameReading_proceed c).intake

/-- The read loop is at most busy with the thread that it was given. -/
theorem World.thread?_follow {w : World σ} {t : Option Thread} {t' : Thread}
    (h : (w.follow t).loop.thread? = some t') : t = some t' := by
  unfold follow at h
  split at h
  · cases h
  · split at h
    · exact h
    · cases h

/-- Before whatever is said for a message stands what is said first for each earlier one. -/
def InOrder (occurrences : List Occurrence) (said : List Saying) : Prop :=
  ∀ front s behind, said = front ++ s :: behind → ∀ later, s.origin = .message later →
    ∀ o ∈ occurrences, o.number < later.number → ∀ m, o.opening? = some m → m ∈ front

/-- More is said: it has to come behind the openings of all earlier messages. -/
theorem InOrder.append {occurrences : List Occurrence} {said : List Saying} {origin : Origin}
    (h : InOrder occurrences said) (words : List Outgoing)
    (hnew : ∀ later, origin = .message later → ∀ o ∈ occurrences, o.number < later.number →
      ∀ m, o.opening? = some m → m ∈ said) :
    InOrder occurrences (said ++ words.map (Saying.mk origin)) := by
  intro front s behind hsplit later hlater o ho hless m hm
  have hwords : ∀ {bs}, bs ++ s :: behind = words.map (Saying.mk origin) → s.origin = origin := by
    intro bs hbs
    have hmem : s ∈ words.map (Saying.mk origin) := by
      rw [← hbs]
      exact List.mem_append_right _ List.mem_cons_self
    obtain ⟨word, -, rfl⟩ := List.mem_map.mp hmem
    rfl
  rcases List.append_eq_append_iff.mp hsplit with ⟨new, rfl, hnew'⟩ | ⟨old, rfl, hold⟩
  · exact List.mem_append_left _ (hnew later ((hwords hnew'.symm).symm.trans hlater) o ho hless m hm)
  · cases old with
    | nil =>
      have hhead : [] ++ s :: behind = words.map (Saying.mk origin) := hold
      have hmem := hnew later ((hwords hhead).symm.trans hlater) o ho hless m hm
      rwa [List.append_nil] at hmem
    | cons s' old =>
      rw [List.cons_append, List.cons.injEq] at hold
      obtain ⟨rfl, -⟩ := hold
      exact h front s old rfl later hlater o ho hless m hm

/-- What is said first for the messages, while the read loop may still be about to say it for the last. -/
structure Opened (handler : Handler σ) (memory : σ) (w : World σ) : Prop where
  last : ∀ t, w.loop.thread? = some t → t.occurrence.number + 1 = w.state.routed.length
  opened : ∀ o ∈ w.state.occurrences handler memory, ∀ m, o.opening? = some m →
    m ∈ w.said ∨ ∃ t reaction, w.loop.thread? = some t ∧ t.occurrence = o ∧
      t.stage = .reacting reaction ∧ o.reaction = some reaction
  order : InOrder (w.state.occurrences handler memory) w.said

variable {handler : Handler σ} {config : Config} {memory : σ} {w w' : World σ}

theorem opened_create (config : Config) (memory : σ) :
    Opened handler memory (World.create config memory) := by
  have hnone : (World.create config memory).state.occurrences handler memory = [] := rfl
  refine ⟨by simp [World.create, Loop.thread?], by simp [hnone], ?_⟩
  rw [hnone]
  intro front s behind _ later _ o ho
  cases ho

namespace Opened

/-- As long as nobody is about to say it, what is said first was said for all messages. -/
theorem of_idle (h : Opened handler memory w) (hidle : w.loop.thread? = none) {o : Occurrence}
    (ho : o ∈ w.state.occurrences handler memory) {m : Saying} (hm : o.opening? = some m) :
    m ∈ w.said := by
  rcases h.opened o ho m hm with hsaid | ⟨t, reaction, hbusy, -⟩
  · exact hsaid
  · rw [hidle] at hbusy
    cases hbusy

/-- Whoever handles a message finds said what is said first for the earlier ones: the read loop is about to say it at
most for the last. -/
theorem of_atWork (h : Opened handler memory w) (hanswers : Answers handler memory w.toCourse w.atWork)
    {t : Thread} (ht : t ∈ w.atWork) {o : Occurrence} (ho : o ∈ w.state.occurrences handler memory)
    (hless : o.number < t.occurrence.number) {m : Saying} (hm : o.opening? = some m) : m ∈ w.said := by
  rcases h.opened o ho m hm with hsaid | ⟨t', reaction, hbusy, rfl, -⟩
  · exact hsaid
  · have hlast := h.last t' hbusy
    have hlt := hanswers.number_lt ht
    omega

/-- One more value was taken in: nothing was said for it. -/
theorem order_take (h : Opened handler memory w) (hspoken : Spoken w.toCourse w.atWork)
    {s : State σ} {o : Occurrence} (hnumber : o.number = w.state.routed.length)
    (hoccurrences : s.occurrences handler memory = w.state.occurrences handler memory ++ [o]) :
    InOrder (s.occurrences handler memory) w.said := by
  intro front m behind hsplit later hlater o' ho' hless
  rw [hoccurrences] at ho'
  rcases List.mem_append.mp ho' with ho' | ho'
  · exact h.order front m behind hsplit later hlater o' ho' hless
  · -- whatever was said was said for a message that was taken in
    have hknown : later.number < w.state.routed.length :=
      hspoken.known m (by rw [hsplit]; exact List.mem_append_right _ List.mem_cons_self) later hlater
    rw [List.mem_singleton.mp ho'] at hless
    omega

/-- What a thread says comes behind what is said first for the earlier messages. -/
theorem order_proceed (h : Opened handler memory w) (hanswers : Answers handler memory w.toCourse w.atWork)
    {t : Thread} (ht : t ∈ w.atWork) :
    InOrder ((t.proceed w.toCourse).1.state.occurrences handler memory) (t.proceed w.toCourse).1.said := by
  obtain ⟨⟨words, hsaid⟩, -⟩ := t.said_proceed w.toCourse
  rw [t.occurrences_proceed, hsaid]
  refine h.order.append words ?_
  intro later hlater o ho hless m hm
  cases hlater
  exact h.of_atWork hanswers ht ho hless hm

/-- What those outside say, and what else changes, is nothing to the messages. -/
theorem other (h : Opened handler memory w) {words : List Outgoing}
    (hintake : w'.state.intake = w.state.intake)
    (hsaid : w'.said = w.said ++ words.map (Saying.mk .outside))
    (hloop : w'.loop.thread? = w.loop.thread?) : Opened handler memory w' := by
  have hoccurrences : w'.state.occurrences handler memory = w.state.occurrences handler memory :=
    State.occurrences_congr hintake
  have hrouted : w'.state.routed = w.state.routed := congrArg Intake.routed hintake
  refine ⟨?_, ?_, ?_⟩
  · rw [hloop, hrouted]
    exact h.last
  · intro o ho m hm
    rw [hloop, hsaid]
    exact (h.opened o (hoccurrences ▸ ho) m hm).imp_left (List.mem_append_left _)
  · rw [hoccurrences, hsaid]
    exact h.order.append words nofun

/-- A value for which the handler is not called: nothing is to be said first for it. -/
theorem conclude (h : Opened handler memory w) (hspoken : Spoken w.toCourse w.atWork)
    (hremembers : w.state.Remembers handler memory) (hbefore : w.loop.thread? = none) {s : State σ}
    {value : Json} (hintake : s.intake = w.state.intake.take handler value)
    (hreaction : (w.state.intake.upcoming handler value).reaction = none) {loop : Loop}
    (hidle : loop.thread? = none) (k : Conclusion) :
    Opened handler memory { w with
      toCourse := ({ w.toCourse with state := s } : Course σ).conclude
        (w.state.intake.upcoming handler value) (replyTo? value) k
      loop } := by
  have hsilent : (w.state.intake.upcoming handler value).opening? = none := by
    rw [Occurrence.opening?, hreaction]
    rfl
  have htaken := hremembers.occurrences_take hintake
  generalize ho : w.state.intake.upcoming handler value = o at hsilent htaken
  have hnumber : o.number = w.state.routed.length := by rw [← ho]; rfl
  have hsaid := ({ w.toCourse with state := s } : Course σ).said_replies o (replyTo? value) k
  have hoccurrences :
      (({ w.toCourse with state := s } : Course σ).conclude o (replyTo? value) k).state.occurrences
        handler memory = s.occurrences handler memory :=
    State.occurrences_congr (Course.intake_conclude _ o (replyTo? value) k)
  have hfirst : ∀ o' ∈ s.occurrences handler memory, ∀ m, o'.opening? = some m → m ∈ w.said := by
    intro o' ho' m hm
    rw [htaken] at ho'
    rcases List.mem_append.mp ho' with ho' | ho'
    · exact h.of_idle hbefore ho' hm
    · rw [List.mem_singleton.mp ho', hsilent] at hm
      cases hm
  refine ⟨?_, ?_, ?_⟩
  · intro t ht
    rw [hidle] at ht
    cases ht
  · intro o' ho' m hm
    rw [hsaid]
    exact .inl (List.mem_append_left _ (hfirst o' (hoccurrences ▸ ho') m hm))
  · rw [hoccurrences, hsaid]
    exact (h.order_take hspoken hnumber htaken).append _ fun _ _ o' ho' _ m hm => hfirst o' ho' m hm

/-- A value that was taken in just now: the read loop is about to say what is said first for it. -/
theorem begin (h : Opened handler memory w) (hspoken : Spoken w.toCourse w.atWork)
    (hremembers : w.state.Remembers handler memory) (hbefore : w.loop.thread? = none) {s : State σ}
    {value : Json} (hintake : s.intake = w.state.intake.take handler value) {reaction : Reaction}
    (hreaction : (w.state.intake.upcoming handler value).reaction = some reaction) :
    Opened handler memory { w with
      state := s
      loop := .busy
        ⟨w.state.intake.upcoming handler value, replyTo? value, .reacting reaction⟩ } := by
  have htaken := hremembers.occurrences_take hintake
  have hrouted : s.routed = w.state.routed ++ [value] := congrArg Intake.routed hintake
  refine ⟨?_, ?_, h.order_take hspoken rfl htaken⟩
  · intro t ht
    cases ht
    rw [hrouted, List.length_append]
    rfl
  · intro o ho m hm
    rw [htaken] at ho
    rcases List.mem_append.mp ho with ho | ho
    · exact .inl (h.of_idle hbefore ho hm)
    · rw [List.mem_singleton.mp ho]
      exact .inr ⟨_, reaction, rfl, rfl, rfl, hreaction⟩

/-- **The read loop** says what is said first for a message before it goes on. -/
theorem react (h : Opened handler memory w) (hanswers : Answers handler memory w.toCourse w.atWork)
    {t : Thread} (hloop : w.loop = .busy t) :
    Opened handler memory
      (({ w with toCourse := (t.proceed w.toCourse).1 } : World σ).follow (t.proceed w.toCourse).2) := by
  have hbusy : w.loop.thread? = some t := by rw [hloop]; rfl
  have hmine : t ∈ w.atWork := by
    rw [World.atWork_of_busy hloop]
    exact List.mem_cons_self
  obtain ⟨⟨words, hsaid⟩, hsame⟩ := t.said_proceed w.toCourse
  refine ⟨?_, ?_, ?_⟩
  · intro t' ht'
    rw [World.follow_toCourse, t.routed_proceed, hsame t' (World.thread?_follow ht')]
    exact h.last t hbusy
  · intro o ho m hm
    rw [World.follow_toCourse] at ho ⊢
    rw [t.occurrences_proceed] at ho
    rcases h.opened o ho m hm with hbefore | ⟨t', reaction, hthread, rfl, hstage, hreaction⟩
    · rw [hsaid]
      exact .inl (List.mem_append_left _ hbefore)
    · -- this is the moment when it is said
      obtain rfl := Option.some.inj (hthread.symm.trans hbusy)
      rw [Occurrence.opening?, hreaction, Option.bind_some] at hm
      obtain ⟨first, hfirst, rfl⟩ := Option.map_eq_some_iff.mp hm
      exact .inl (t'.opening_said w.toCourse hstage hfirst)
  · rw [World.follow_toCourse]
    exact h.order_proceed hanswers hmine

/-- A task has its turn: what is said first was said for its message. -/
theorem proceed (h : Opened handler memory w) (hanswers : Answers handler memory w.toCourse w.atWork)
    {t : Thread} {front behind threads : List Thread} (hthreads : w.threads = front ++ t :: behind) :
    Opened handler memory { w with toCourse := (t.proceed w.toCourse).1, threads } := by
  have hmine : t ∈ w.atWork := by
    rw [World.atWork, hthreads]
    exact List.mem_append_right _ (List.mem_append_right _ List.mem_cons_self)
  obtain ⟨⟨words, hsaid⟩, -⟩ := t.said_proceed w.toCourse
  refine ⟨?_, ?_, h.order_proceed hanswers hmine⟩
  · intro t' ht'
    rw [t.routed_proceed]
    exact h.last t' ht'
  · intro o ho m hm
    rw [t.occurrences_proceed] at ho
    rw [hsaid]
    exact (h.opened o ho m hm).imp_left (List.mem_append_left _)

/-- **One step** of anybody. -/
theorem step (h : Opened handler memory w) (hspoken : Spoken w.toCourse w.atWork)
    (hanswers : Answers handler memory w.toCourse w.atWork) (hstep : Step handler w w') :
    Opened handler memory w' := by
  cases hstep.kind with
  | other words hintake hsaid hconcluded hthreads hloop htold => exact h.other hintake hsaid hloop
  | concludes hphase hloop hintake hreaction hidle heq =>
    rw [heq]
    exact h.conclude hspoken hanswers.remembers (by rw [hloop]; rfl) hintake hreaction hidle _
  | begins hphase hloop hintake hreaction heq =>
    rw [heq]
    exact h.begin hspoken hanswers.remembers (by rw [hloop]; rfl) hintake hreaction
  | reacts hloop heq =>
    rw [heq]
    exact h.react hanswers hloop
  | proceeds hthreads heq =>
    rw [heq]
    exact h.proceed hanswers hthreads

end Opened

/-- **Whatever happens**, what is said first for a message comes before all that is said for later ones. -/
theorem opened_plays {holds : Scene σ → Prop} {sc : Scene σ}
    (h : Plays handler holds (Scene.create config memory) sc) : Opened handler memory sc.toWorld := by
  induction h with
  | refl => exact opened_create config memory
  | tail hplays hlast ih =>
    exact ih.step (spoken_run (Plays.runs hplays)) (Answers.run (Plays.runs hplays)) hlast.1.step

-- ---------------------------------------------------------------------------
-- What is queued
-- ---------------------------------------------------------------------------

/-- What was said and is queued. -/
def Course.entered (c : Course σ) : List Saying := c.line.entered

/-- What is queued and what is not are all that was said. -/
theorem Course.entered_append (c : Course σ) : c.entered ++ c.said.drop c.state.queued.length = c.said :=
  List.take_append_drop ..

/-- The frames in the queue, and those that were, are those of what was said. -/
theorem Course.frames_entered {c : Course σ} (h : c.line.Whole) :
    c.entered.map Saying.frame = c.state.queued := by
  have hqueued : c.state.queued <+: c.said.map Saying.frame := h.queued
  rw [entered, Line.entered, List.map_take]
  exact (List.prefix_iff_eq_take.mp hqueued).symm

/-- As long as nothing was read nothing was taken in. -/
theorem fresh_run (hrun : Runs handler (World.create config memory) w) :
    w.state.phase = .idle ∨ w.state.phase = .discarded → w.state.routed = [] := by
  induction hrun with
  | refl => exact fun _ => rfl
  | @tail w w' hbefore hlast ih =>
    intro hfresh
    have hmoves := hlast.moves (tidy_run hbefore).order
    have hbefore' : w.state.phase = .idle ∨ w.state.phase = .discarded := by
      generalize w.state.phase = p, w.state.desk = d, w'.state.phase = p', w'.state.desk = d'
        at hmoves hfresh
      cases hmoves with
      | works h => exact hfresh
      | starts h => exact .inl h
      | aborts h => exact .inl h
      | stops h outcome => simp at hfresh
      | drains h => simp at hfresh
      | ends h result => simp at hfresh
    have hnothing := ih hbefore'
    cases hlast.kind with
    | other words hintake =>
      have hrouted : w'.state.routed = w.state.routed := congrArg Intake.routed hintake
      rw [hrouted, hnothing]
    | concludes hphase => simp [hphase] at hbefore'
    | begins hphase => simp [hphase] at hbefore'
    | @reacts t hloop heq => rw [heq, World.follow_toCourse, t.routed_proceed, hnothing]
    | @proceeds t front behind hthreads heq =>
      rw [heq]
      exact (t.routed_proceed w.toCourse).trans hnothing

/-- Frames that are all written were all queued. -/
theorem length_le_of_flatten_prefix {frames queued : List Bytes} (hpos : ∀ f ∈ frames, 0 < f.length)
    {more : List Bytes} (hqueued : queued <+: frames ++ more)
    (hwritten : frames.flatten <+: queued.flatten) : frames.length ≤ queued.length := by
  by_contra hless
  rw [Nat.not_le] at hless
  -- else the frames are those that were queued and at least one more
  have hqueued' : queued <+: frames := by
    rw [List.prefix_iff_eq_take] at hqueued ⊢
    rwa [List.take_append_of_le_length (Nat.le_of_lt hless)] at hqueued
  obtain ⟨rest, rfl⟩ := hqueued'
  have hlength := hwritten.length_le
  rw [List.flatten_append, List.length_append] at hlength
  cases rest with
  | nil => simp at hless
  | cons f rest =>
    have hf := hpos f (List.mem_append_right _ List.mem_cons_self)
    rw [List.flatten_cons, List.length_append] at hlength
    omega

/-- **Unless a write fails**, all that is said for messages is queued. -/
theorem entered_plays {holds : Scene σ → Prop} {sc : Scene σ}
    (h : Plays handler holds (Scene.create config memory) sc) (hwrites : sc.state.writer.isBroken = false) :
    ∀ m ∈ sc.said.drop sc.state.queued.length, m.origin = .outside := by
  have hrun := Plays.runs h
  have hwhole : sc.line.Whole := whole_run hrun
  intro m hm
  cases (lane_run hrun).2 with
  | lost hlost =>
    -- the session was given up before it was started
    have hphase : sc.state.phase = .discarded := hlost.resolve_left (by simp [hwrites])
    have hnothing : sc.state.routed = [] := fresh_run hrun (.inr hphase)
    cases horigin : m.origin with
    | outside => rfl
    | message o =>
      have hknown := (spoken_run hrun).known m (List.mem_of_mem_drop hm) o horigin
      rw [hnothing] at hknown
      cases hknown
  | alive delivered waiting late halive =>
    have htaking : sc.line.taking = true := halive.accepting
    cases hwhole with
    | taking _ _ hqueued =>
      have hqueued' : sc.state.queued = sc.said.map Saying.frame := hqueued
      rw [hqueued', List.length_map, List.drop_length] at hm
      cases hm
    | shut hshut => simp [htaking] at hshut
  | stopped delivered late _ _ houtput hsaid hlate =>
    have hqueued : sc.state.queued <+: delivered.map Saying.frame ++ late.map Saying.frame := by
      rw [← List.map_append, ← hsaid]
      exact hwhole.queued
    have hwritten : (delivered.map Saying.frame).flatten <+: sc.state.queued.flatten := by
      rw [← List.flatMap_def, ← houtput]
      exact hwhole.written
    have hpos : ∀ f ∈ delivered.map Saying.frame, 0 < f.length := by
      intro f hf
      obtain ⟨m, -, rfl⟩ := List.mem_map.mp hf
      exact Framing.length_encode_pos _
    have hall := length_le_of_flatten_prefix hpos hqueued hwritten
    rw [List.length_map] at hall
    rw [hsaid, List.drop_append, List.drop_eq_nil_of_le hall, List.nil_append] at hm
    exact hlate m (List.mem_of_mem_drop hm)

end EditorLink.Session
