import EditorLink.Proofs.Framing.Arrivals
import EditorLink.Proofs.Session.Reading

/-!
# EditorLink — what was read of what has arrived

A session reads while bytes still arrive. What it has routed is compared with a reader that has all arrivals
before it, whatever is to arrive yet.

At a given moment the session has routed some values, and its reader has a decoder with some bytes in it and a source
with some arrivals. Both together find, with anything that arrives later, what the reader of all arrivals finds
(`Stands.reading`). A frame that is found is routed and moves from one side to the other; a read that finds nothing
moves bytes from the source to the decoder; an arrival is added on both sides. When reading ends, it ends with what
the reader of all arrivals ends with, or the session was cut short before: by somebody's wish, by a broken writer, or
by a response that was not expected.

`Calm` is the condition under which it is not cut short. It is a condition on every moment of a play, and so it stands
in the definition of the play and not in the invariant.

## Results

* `Scene.inbound` — such a reader;
* `Scene.Stands`, `Happens.stands`, `stands_plays` — the invariant: a session is on its way through what the reader
  finds, or has come to the end of it, or was cut short;
* `routed_plays`, `routed_mono_plays`, `calls_plays` — what is routed, and what the handler is called for;
* `ended_of_calm` — a session that nobody disturbs reads to the end.
-/

namespace EditorLink.Session

open Message (CallFault ErrorObject)

variable {σ : Type}

/-- What a session is to end with that reads to its end. -/
def readingOutcome? : Framing.Reading → Option (Except CallFault Unit)
  | .ended => some (.ok ())
  | .fault fault => some (.error (.frame fault))
  | _ => none

/-- A session that takes any response never finds one that is not expected. -/
theorem State.settleResponse_of_lenient {s : State σ} (h : s.config.strictResponses = false) (id : Json)
    (outcome : Except ErrorObject Json) : ∃ s', s.settleResponse id outcome = .ok s' := by
  have hpassOver : ∀ fault, s.passOver fault = .ok s := by
    intro fault
    rw [passOver, if_neg (by simp [h])]
  rw [settleResponse]
  split
  · exact ⟨s, hpassOver _⟩
  · split
    · exact ⟨_, rfl⟩
    · exact ⟨s, hpassOver _⟩

namespace Scene

/-- A reader that has before it all that has arrived. -/
def inbound (sc : Scene σ) : Framing.FrameReader :=
  ⟨sc.arrived, Framing.Decoder.withLimit sc.state.config.maxFrameBytes⟩

/-- Nobody wants the session to end, and no write has failed. -/
structure Calm (sc : Scene σ) : Prop where
  unasked : sc.state.closeAsked = false
  writes : sc.state.writer.isBroken = false

/-- Where a session stands in what has arrived, whatever arrives yet. If it is `calm` it is not cut short. -/
inductive Stands (calm : Prop) (sc : Scene σ) : Prop
  /-- It reads on from where it is. -/
  | reading (hopen : sc.outcome? = none)
    (hall : ∀ more, (sc.inbound.extend more).readAll =
      (sc.state.routed ++ (sc.state.reader.extend more).readAll.1,
        (sc.state.reader.extend more).readAll.2))
  /-- It has read all there is. -/
  | done {reading : Framing.Reading} {outcome : Except CallFault Unit}
    (houtcome : sc.outcome? = some outcome) (hreading : readingOutcome? reading = some outcome)
    (hall : ∀ more, (sc.inbound.extend more).readAll = (sc.state.routed, reading))
  | cut {outcome : Except CallFault Unit} (hcut : ¬ calm) (houtcome : sc.outcome? = some outcome)
    (hfirst : ∀ more, sc.state.routed <+: (sc.inbound.extend more).readAll.1)

end Scene

variable {calm : Prop} {handler : Handler σ} {sc sc' : Scene σ}

namespace Scene.Stands

/-- A session that has not settled how it ends is reading. -/
theorem of_open (h : sc.Stands calm) (hopen : sc.outcome? = none) (more : Framing.Source) :
    (sc.inbound.extend more).readAll =
      (sc.state.routed ++ (sc.state.reader.extend more).readAll.1,
        (sc.state.reader.extend more).readAll.2) := by
  cases h with
  | reading _ hall => exact hall more
  | done houtcome => simp [hopen] at houtcome
  | cut _ houtcome => simp [hopen] at houtcome

/-- However it stands, it has routed the first of what there is. -/
theorem routed_prefix_extend (h : sc.Stands calm) (more : Framing.Source) :
    sc.state.routed <+: (sc.inbound.extend more).readAll.1 := by
  cases h with
  | reading _ hall =>
    rw [hall]
    exact List.prefix_append _ _
  | done _ _ hall =>
    rewrite [hall]
    exact List.prefix_rfl
  | cut _ _ hfirst => exact hfirst more

/-- What does not belong to reading does not matter. -/
theorem congr (h : sc.Stands calm) (hinbound : sc'.inbound = sc.inbound)
    (hrouted : sc'.state.routed = sc.state.routed) (hreader : sc'.state.reader = sc.state.reader)
    (houtcome : sc'.outcome? = sc.outcome?) : sc'.Stands calm := by
  cases h with
  | reading hopen hall =>
    refine .reading (houtcome.trans hopen) fun more => ?_
    rw [hinbound, hrouted, hreader]
    exact hall more
  | done hsettled hreading hall =>
    refine .done (houtcome.trans hsettled) hreading fun more => ?_
    rw [hinbound, hrouted]
    exact hall more
  | cut hcut hsettled hfirst =>
    refine .cut hcut (houtcome.trans hsettled) fun more => ?_
    rw [hinbound, hrouted]
    exact hfirst more

/-- Something arrives. -/
theorem arrive (h : sc.Stands calm) (a : Framing.Arrival) :
    Stands calm { sc with state := sc.state.arrive a, arrived := sc.arrived ++ [a] } := by
  -- what arrives now is the first of what was to arrive
  have hinbound : ∀ more, sc.inbound.extend (a :: more) =
      Framing.FrameReader.extend
        (inbound { sc with state := sc.state.arrive a, arrived := sc.arrived ++ [a] }) more :=
    fun more => (Framing.FrameReader.extend_extend sc.inbound [a] more).symm
  have hreader : ∀ more, sc.state.reader.extend (a :: more) =
      (sc.state.arrive a).reader.extend more :=
    fun more => (Framing.FrameReader.extend_extend sc.state.reader [a] more).symm
  cases h with
  | reading hopen hall =>
    refine .reading hopen fun more => ?_
    rw [← hinbound, ← hreader]
    exact hall (a :: more)
  | done houtcome hreading hall =>
    refine .done houtcome hreading fun more => ?_
    rw [← hinbound]
    exact hall (a :: more)
  | cut hcut houtcome hfirst =>
    refine .cut hcut houtcome fun more => ?_
    rw [← hinbound]
    exact hfirst (a :: more)

theorem inbound_congr (harrived : sc'.arrived = sc.arrived)
    (hconfig : sc'.state.config = sc.state.config) : sc'.inbound = sc.inbound := by
  rw [inbound, inbound, harrived, hconfig]

/-- The session leaves its reading alone. -/
theorem leave (h : sc.Stands calm) (hcalm : calm → sc.Calm) (harrived : sc'.arrived = sc.arrived)
    (hleaves : sc.toWorld.LeavesReading sc'.toWorld) : sc'.Stands calm := by
  have hinbound : sc'.inbound = sc.inbound := inbound_congr harrived hleaves.same.config
  have hrouted : sc'.state.routed = sc.state.routed := hleaves.same.routed
  rcases hleaves.outcome with hsame | ⟨verdict, hverdict, hwell, hends⟩
  · exact h.congr hinbound hrouted hleaves.same.reader hsame
  -- the writer has the last word, which is a good one if it is not broken
  · by_cases hcalm' : calm
    · have hwrites := (hcalm hcalm').writes
      have hgood : verdict = .ok () := by
        cases hwriter : sc.state.writer <;> simp_all [State.Writer.verdict?, Writer.isBroken]
      exact h.congr hinbound hrouted hleaves.same.reader (by rw [hends, hwell, hgood])
    · refine .cut hcalm' hends fun more => ?_
      rw [hinbound, hrouted]
      exact h.routed_prefix_extend more

/-- The session reads on, and waits. -/
theorem wait (h : sc.Stands calm) (hopen : sc.outcome? = none) {reader : Framing.FrameReader}
    (hnext : sc.state.reader.next = (.waiting, reader)) :
    Stands calm { sc with state := { sc.state with reader } } := by
  refine .reading hopen fun more => ?_
  -- whatever arrives is read as if nobody had waited
  have hread := Framing.FrameReader.readAll_congr
    (Framing.FrameReader.next_extend_of_waiting hnext more)
  have hall := h.of_open hopen more
  rw [hread] at hall
  exact hall

/-- **A value is taken in**, which is the next of all that are read. -/
theorem take (h : sc.Stands calm) (hlenient : calm → sc.state.config.strictResponses = false)
    (hphase : sc.state.phase = .reading) (hloop : sc.loop = .waiting) {value : Json}
    {reader : Framing.FrameReader} (hnext : sc.state.reader.next = (.frame value, reader)) :
    Stands calm { sc with
      toWorld := World.receive handler { sc.toWorld with state := { sc.state with reader } } value } := by
  let w : World σ := { sc.toWorld with state := { sc.state with reader } }
  obtain ⟨hreader, hconfig, hrouted, -⟩ := w.noted_receive handler value
  have hinbound : inbound { sc with toWorld := w.receive handler value } = sc.inbound :=
    inbound_congr rfl hconfig
  have hall : ∀ more, (sc.inbound.extend more).readAll =
      ((w.receive handler value).state.routed ++ (reader.extend more).readAll.1,
        (reader.extend more).readAll.2) := by
    intro more
    have hread := Framing.FrameReader.readAll_of_frame
      (Framing.FrameReader.next_extend_of_frame hnext more)
    rw [h.of_open (World.outcome?_of_reading hphase hloop) more, hread, hrouted, List.append_assoc]
    rfl
  rcases w.outcome?_receive handler hphase hloop value with
    hopen | ⟨id, outcome, fault, -, hsettle, houtcome⟩
  · refine .reading hopen fun more => ?_
    rw [hinbound, hall]
    exact congrArg (fun r : Framing.FrameReader =>
      (_ ++ (r.extend more).readAll.1, (r.extend more).readAll.2)) hreader.symm
  · refine .cut ?_ houtcome fun more => ?_
    · intro hcalm
      obtain ⟨s, hsettled⟩ := State.settleResponse_of_lenient
        (s := w.state.record (.routed value)) (hlenient hcalm) id outcome
      rw [hsettled] at hsettle
      cases hsettle
    · rw [hinbound, hall]
      exact List.prefix_append _ _

/-- **Reading ends** with an end, a fault, or a wish. -/
theorem cease (h : sc.Stands calm) (hcalm : calm → sc.Calm) (hopen : sc.outcome? = none) {s : State σ}
    {outcome : Except CallFault Unit} (hphase : sc.state.phase = .reading)
    (hcease : Ceases sc.state s outcome) :
    Stands calm { sc with toWorld := { sc.toWorld with state := s, loop := .leaving outcome } } := by
  have houtcome : World.outcome? { sc.toWorld with state := s, loop := .leaving outcome } =
      some outcome := by
    have hphase' : s.phase = .reading := (State.phase_eq_of_standing hcease.standing).trans hphase
    rw [World.outcome?, hphase']
    rfl
  -- what is found now is found as well when more arrives
  have hfound : ∀ {reading : Framing.Reading} {reader}, sc.state.reader.next = (reading, reader) →
      (∀ v, reading ≠ .frame v) → reading ≠ .waiting →
      ∀ more, (sc.inbound.extend more).readAll = (sc.state.routed, reading) := by
    intro reading reader hnext hframe hwaiting more
    have hread := Framing.FrameReader.readAll_of_no_frame
      (Framing.FrameReader.next_extend_of_closed hnext hframe hwaiting more) hframe
    rw [h.of_open hopen more, hread, List.append_nil]
  cases hcease with
  | fault hnext => exact .done houtcome rfl (hfound hnext (by simp) (by simp))
  | ended hnext => exact .done houtcome rfl (hfound hnext (by simp) (by simp))
  | closed hasked =>
    refine .cut ?_ houtcome h.routed_prefix_extend
    intro hcalm'
    rw [(hcalm hcalm').unasked] at hasked
    cases hasked

end Scene.Stands

-- ---------------------------------------------------------------------------
-- Plays
-- ---------------------------------------------------------------------------

/-- **Whatever happens in a scene**, the session stands somewhere in what has arrived. -/
theorem Happens.stands (h : Happens handler sc sc') (horder : Orderly sc.toWorld)
    (hlenient : calm → sc.state.config.strictResponses = false) (hcalm : calm → sc.Calm)
    (hstands : sc.Stands calm) : sc'.Stands calm := by
  obtain ⟨a, rfl⟩ | ⟨harrived, hreads⟩ := h.reads horder
  · exact hstands.arrive a
  · obtain ⟨w', callers, arrived⟩ := sc'
    obtain rfl : arrived = sc.arrived := harrived
    -- who asks something outside does not matter
    have hcallers : ∀ {w : World σ}, Scene.Stands calm { sc with toWorld := w } →
        Scene.Stands calm ⟨w, callers, sc.arrived⟩ := fun h => h.congr rfl rfl rfl rfl
    cases hreads with
    | leaves hleaves => exact hstands.leave hcalm rfl hleaves
    | waits hphase hloop hnext =>
      exact hcallers (hstands.wait (World.outcome?_of_reading hphase hloop) hnext)
    | takes hphase hloop hnext => exact hcallers (hstands.take hlenient hphase hloop hnext)
    | ceases hphase hloop hcease =>
      exact hcallers (hstands.cease hcalm (World.outcome?_of_reading hphase hloop) hphase hcease)

theorem World.Reads.config {w w' : World σ} (h : w.Reads handler w') :
    w'.state.config = w.state.config := by
  cases h with
  | leaves hleaves => exact hleaves.same.config
  | waits hphase hloop hnext => rfl
  | takes hphase hloop hnext => exact (World.noted_receive handler _ _).2.1
  | ceases hphase hloop hcease => cases hcease <;> rfl

/-- What was taken in stays so. -/
theorem World.Reads.routed {w w' : World σ} (h : w.Reads handler w') :
    w.state.routed <+: w'.state.routed := by
  cases h with
  | leaves hleaves =>
    have hrouted := hleaves.same.routed
    exact hrouted ▸ List.prefix_rfl
  | waits hphase hloop hnext => exact List.prefix_rfl
  | @takes value reader hphase hloop hnext =>
    let w₀ : World σ := { w with state := { w.state with reader } }
    obtain ⟨-, -, hrouted, -⟩ := w₀.noted_receive handler value
    rw [hrouted]
    exact List.prefix_append _ _
  | ceases hphase hloop hcease => cases hcease <;> exact List.prefix_rfl

/-- **What the handler was called for** are the calls among what was routed, in the same order. -/
theorem World.Reads.calls {w w' : World σ} (h : w.Reads handler w')
    (hcalls : w.state.calls = w.state.routed.filterMap callOf?) :
    w'.state.calls = w'.state.routed.filterMap callOf? := by
  cases h with
  | leaves hleaves =>
    exact hleaves.same.calls.trans (hleaves.same.routed ▸ hcalls)
  | waits hphase hloop hnext => exact hcalls
  | @takes value reader hphase hloop hnext =>
    let w₀ : World σ := { w with state := { w.state with reader } }
    obtain ⟨-, -, hrouted, hcalled⟩ := w₀.noted_receive handler value
    have hcalls' : w₀.state.calls = w₀.state.routed.filterMap callOf? := hcalls
    rw [hcalled, hrouted, hcalls', List.filterMap_append]
    rcases hcall : callOf? value with _ | call <;> simp [hcall]
  | ceases hphase hloop hcease => cases hcease <;> exact hcalls

/-- Settings stay as they are, whatever happens. -/
theorem Happens.config (h : Happens handler sc sc') (horder : Orderly sc.toWorld) :
    sc'.state.config = sc.state.config := by
  obtain ⟨a, rfl⟩ | ⟨-, hreads⟩ := h.reads horder
  · rfl
  · exact hreads.config

/-- What was routed remains, and more may be behind it. -/
theorem Happens.routed (h : Happens handler sc sc') (horder : Orderly sc.toWorld) :
    sc.state.routed <+: sc'.state.routed := by
  obtain ⟨a, rfl⟩ | ⟨-, hreads⟩ := h.reads horder
  · exact List.prefix_rfl
  · exact hreads.routed

/-- The handler is called for the calls among the values that are routed. -/
theorem Happens.calls (h : Happens handler sc sc') (horder : Orderly sc.toWorld)
    (hcalls : sc.state.calls = sc.state.routed.filterMap callOf?) :
    sc'.state.calls = sc'.state.routed.filterMap callOf? := by
  obtain ⟨a, rfl⟩ | ⟨-, hreads⟩ := h.reads horder
  · exact hcalls
  · exact hreads.calls hcalls

section Plays

variable {config : Config} {memory : σ} {holds : Scene σ → Prop}

/-- A scene is in the order of a session. -/
theorem orderly_plays (h : Plays handler holds (Scene.create config memory) sc) :
    Orderly sc.toWorld := (lane_run h.runs).1

/-- It has the settings that it was made with. -/
theorem config_plays (h : Plays handler holds (Scene.create config memory) sc) :
    sc.state.config = config := by
  induction h with
  | refl => rfl
  | tail hplays hlast ih => exact (hlast.1.config (orderly_plays hplays)).trans ih

/-- **What the handler is called for**, at any moment. -/
theorem calls_plays (h : Plays handler holds (Scene.create config memory) sc) :
    sc.state.calls = sc.state.routed.filterMap callOf? := by
  induction h with
  | refl => rfl
  | tail hplays hlast ih => exact hlast.1.calls (orderly_plays hplays) ih

/-- **Nothing that was taken in** is forgotten, whatever happens later. -/
theorem routed_mono_plays (h : Plays handler holds (Scene.create config memory) sc)
    (hlater : Plays handler holds sc sc') : sc.state.routed <+: sc'.state.routed := by
  induction hlater with
  | refl => exact List.prefix_rfl
  | tail hplays hlast ih => exact ih.trans (hlast.1.routed (orderly_plays (h.trans hplays)))

/-- **Where a session stands** in what has arrived, at any moment. -/
theorem stands_plays (h : Plays handler holds (Scene.create config memory) sc)
    (hlenient : calm → config.strictResponses = false) (hcalm : calm → ∀ sc, holds sc → sc.Calm) :
    sc.Stands calm := by
  have hboth : (calm → sc.Calm) ∧ sc.Stands calm := by
    induction h with
    | refl => exact ⟨fun _ => ⟨rfl, rfl⟩, .reading rfl fun _ => rfl⟩
    | @tail sc sc' hplays hlast ih =>
      have hlenient' : calm → sc.state.config.strictResponses = false :=
        fun hcalm' => (config_plays hplays).symm ▸ hlenient hcalm'
      exact ⟨fun hcalm' => hcalm hcalm' sc' hlast.2,
        hlast.1.stands (orderly_plays hplays) hlenient' ih.1 ih.2⟩
  exact hboth.2

/-- **What was routed** is the first of what a reader finds in all that has arrived. -/
theorem routed_plays (h : Plays handler holds (Scene.create config memory) sc) :
    sc.state.routed <+: sc.inbound.readAll.1 := by
  have hstands : sc.Stands False := stands_plays h nofun nofun
  have hfirst := hstands.routed_prefix_extend []
  rwa [Framing.FrameReader.extend_nil] at hfirst

/-- **A session that nobody disturbs** reads to the end, and ends as that does. -/
theorem ended_of_calm (hlenient : config.strictResponses = false) (hcalm : ∀ sc, holds sc → sc.Calm)
    (h : Plays handler holds (Scene.create config memory) sc) {result : Except CallFault Unit}
    (hended : sc.state.phase = .ended result) :
    ∃ reading, sc.inbound.readAll = (sc.state.routed, reading) ∧ readingOutcome? reading = some result := by
  have hsettled : sc.outcome? = some result := World.outcome?_of_phase (by rw [hended]; rfl)
  have hstands : sc.Stands True := stands_plays h (fun _ => hlenient) fun _ => hcalm
  cases hstands with
  | reading hopen => simp [hopen] at hsettled
  | @done reading outcome houtcome hreading hall =>
    obtain rfl := Option.some.inj (houtcome.symm.trans hsettled)
    have hread := hall []
    rw [Framing.FrameReader.extend_nil] at hread
    exact ⟨reading, hread, hreading⟩
  | cut hcut => exact absurd trivial hcut

end Plays

end EditorLink.Session
