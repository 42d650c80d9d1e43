import EditorLink.Command.Run
import EditorLink.Proofs.Session.Inbound
import EditorLink.Proofs.Session.OneAnswer

/-!
# EditorLink — the exit status

A run succeeds if its session ended well and the editor had asked to shut down. The service keeps a flag for that,
which depends on nothing but the messages that it was called for.

The flag is set when the call is met and not when it is answered: a notification sets it as well as a request, and so
does a call whose answer never goes out because a write fails. That is why the flag can be told from the values that
were taken in, without a word about tasks, writer or clock: first for one value, then for any number of them along the
values, and then for a session, whose memory is what its values made of it.

Two readings are proved. In the first everybody takes steps in any order, and bytes arrive at any time; in the second
the session runs over a given input in the order in which the program drives it.

## Results

* `Service.memory_take`, `Service.memory_run` — the flag behind one message, and behind all of them;
* `Service.memory_mono` — nothing clears it;
* `served?`, `status` — what serving comes to, and the exit status for it;
* `exit_status` — the exit status in all orders;
* `status_of_run` — in the order in which the program runs.
-/

namespace EditorLink.Service

open Session (Config Driven Intake Plays Runs Scene State World callOf?)

/-- Whether a value asks to shut down: a request or a notification does, a response or what is no message does not. -/
def asksShutdown (value : Json) : Bool := (callOf? value).any fun call => call.1 == "shutdown"

/-- The test finds just the calls of this method, with whatever params. -/
theorem asksShutdown_iff {value : Json} :
    asksShutdown value = true ↔ ∃ params, callOf? value = some ("shutdown", params) := by
  simp only [asksShutdown, Option.any_eq_true, beq_iff_eq]
  constructor
  · rintro ⟨⟨method, params⟩, hcall, rfl⟩
    exact ⟨params, hcall⟩
  · rintro ⟨params, hcall⟩
    exact ⟨_, hcall, rfl⟩

/-- A response does not ask for anything, whatever method it names. -/
example : asksShutdown (.obj [("id", .int 1), ("method", .str "shutdown"), ("result", .null)]) = false := by decide

/-- **One message** sets the flag if it asks to shut down, and else leaves it as it is. -/
theorem memory_take (options : Options) (i : Intake Bool) (value : Json) :
    (i.take (handler options) value).memory = (i.memory || asksShutdown value) := by
  rw [Intake.take, Session.Handler.meet, asksShutdown, callOf?]
  cases Message.classify value with
  | error malformed => exact (Bool.or_false _).symm
  | ok message =>
    cases message with
    | response id outcome => exact (Bool.or_false _).symm
    | request id method params => rfl
    | notification method params => rfl

/-- Behind any number of values the flag is set if it was before or one of them asks to shut down. -/
theorem memory_foldl_take (options : Options) (values : List Json) (i : Intake Bool) :
    (values.foldl (Intake.take (handler options)) i).memory = (i.memory || values.any asksShutdown) := by
  induction values generalizing i with
  | nil => exact (Bool.or_false _).symm
  | cons value rest ih => rw [List.foldl_cons, ih, memory_take, List.any_cons, Bool.or_assoc]

variable {options : Options} {config : Config} {memory : Bool}

/-- **The flag** in any interleaving: it is set if it was at first, or if one of the messages that were taken in asks
to shut down. -/
theorem memory_run {w : World Bool} (hrun : Runs (handler options) (World.create config memory) w) :
    w.state.memory = (memory || w.state.routed.any asksShutdown) := by
  have hintake := (Session.Answers.run hrun).remembers
  calc
    w.state.memory = w.state.intake.memory := rfl
    _ = (w.state.routed.foldl (Intake.take (handler options)) ⟨[], memory⟩).memory :=
      congrArg Intake.memory hintake
    _ = (memory || w.state.routed.any asksShutdown) := memory_foldl_take options _ _

/-- In the order in which a session runs the flag follows from the values that were taken in. -/
theorem memory_driven {s : State Bool} (h : Driven (handler options) config memory s) :
    s.memory = (memory || s.routed.any asksShutdown) := by
  -- the interleaving that mirrors the session took in the same
  obtain ⟨w, hrun, -, hmirrors⟩ := h.settles
  have hmemory : w.state.memory = s.memory := congrArg (·.memory) hmirrors.core
  have hrouted : w.state.routed = s.routed := congrArg (·.routed) hmirrors.core
  rw [← hmemory, ← hrouted]
  exact memory_run hrun

variable {holds : Scene Bool → Prop} {sc sc' : Scene Bool}

/-- **Nothing clears the flag**, whatever happens later. -/
theorem memory_mono (h : Plays (handler options) holds (Scene.create config memory) sc)
    (hlater : Plays (handler options) holds sc sc') (hset : sc.state.memory = true) :
    sc'.state.memory = true := by
  rw [memory_run (Plays.runs h), Bool.or_eq_true, List.any_eq_true] at hset
  rw [memory_run (Plays.runs (h.trans hlater)), Bool.or_eq_true, List.any_eq_true]
  refine hset.imp_right fun ⟨value, hmem, hasks⟩ => ⟨value, ?_, hasks⟩
  exact (Session.routed_mono_plays h hlater).mem hmem

/-- The flag tells whether the handler was called for `shutdown`. -/
theorem memory_iff_calls (h : Plays (handler options) holds (Scene.create config false) sc) :
    sc.state.memory = true ↔ ∃ params, ("shutdown", params) ∈ sc.state.calls := by
  rw [memory_run (Plays.runs h), Bool.false_or, List.any_eq_true, Session.calls_plays h]
  simp only [asksShutdown_iff, List.mem_filterMap]
  constructor
  · rintro ⟨value, hmem, params, hcall⟩
    exact ⟨params, value, hmem, hcall⟩
  · rintro ⟨params, value, hmem, hcall⟩
    exact ⟨value, hmem, params, hcall⟩

end EditorLink.Service

namespace EditorLink.Command

open Message (CallFault)
open Session (Deed Driven Operates Plays Scene State callOf?)

/-- What serving comes to: whether the editor shut the session down, or why the connection failed; nothing as long as
the session goes on. -/
def served? (s : State Bool) : Option (Except CallFault Bool) :=
  match s.phase with
  | .ended result => some (result.map fun _ => s.memory)
  | _ => none

/-- The exit status for what serving comes to. -/
def status : Except CallFault Bool → Nat
  | .ok true => 0
  | .ok false => 1
  | .error _ => 1

/-- No failure and no session without a shutdown has the status of success. -/
theorem status_eq_zero {x : Except CallFault Bool} : status x = 0 ↔ x = .ok true := by
  unfold status
  split <;> simp

/-- The verdict of the program is the exit status for what serving comes to. -/
theorem status_verdict? (s : State Bool) : (verdict? s).map (·.1) = (served? s).map status := by
  unfold verdict? served?
  split
  · rename_i hphase
    rw [hphase]
    cases s.memory <;> rfl
  · rename_i fault hphase
    rw [hphase]
    rfl
  · rename_i hwell hbadly
    split
    · rename_i result hphase
      cases result with
      | ok u => exact absurd hphase hwell
      | error fault => exact absurd hphase (hbadly fault)
    · rfl

/-- Serving comes to a success if the session ended well with the flag set. -/
theorem served?_eq_true {s : State Bool} :
    served? s = some (.ok true) ↔ s.phase = .ended (.ok ()) ∧ s.memory = true := by
  unfold served?
  split
  · rename_i result hphase
    rw [hphase]
    cases result <;> simp [Except.map]
  · rename_i hgoes
    constructor
    · nofun
    · exact fun h => absurd h.1 (hgoes _)

/-- The verdict of a run is a success exactly if serving was one. -/
theorem verdict?_eq_zero {s : State Bool} :
    (verdict? s).map (·.1) = some 0 ↔ served? s = some (.ok true) := by
  rw [status_verdict?, Option.map_eq_some_iff]
  simp [status_eq_zero]

/-- **The exit status.** Whatever the settings, whatever bytes arrive, and in whatever order session, writer, tasks
and those outside take their steps: the handler is called for the requests and the notifications among the values that
are taken in, which are the first of what a reader finds in all that has arrived, and for nothing else. The flag is set
as soon as one of these calls is `shutdown`, and nothing clears it later. When the session ends, the run succeeds
exactly if the session ended well and the handler was called for `shutdown`. -/
theorem exit_status {settings : Settings} {name : String} {holds : Scene Bool → Prop} {sc : Scene Bool}
    (h : Plays (Service.handler settings.service) holds
      (Scene.create (settings.sessionConfig name) false) sc) :
    (sc.state.routed <+: sc.inbound.readAll.1 ∧
      ∀ method params, (method, params) ∈ sc.state.calls ↔ ∃ value ∈ sc.state.routed,
        (∃ id, Message.classify value = .ok (.request id method params)) ∨
          Message.classify value = .ok (.notification method params)) ∧
    (sc.state.memory = true ↔ ∃ params, ("shutdown", params) ∈ sc.state.calls) ∧
    (sc.state.memory = true → ∀ sc', Plays (Service.handler settings.service) holds sc sc' →
      sc'.state.memory = true) ∧
    ∀ result, sc.state.phase = .ended result →
      (served? sc.state = some (.ok true) ↔
        result = .ok () ∧ ∃ params, ("shutdown", params) ∈ sc.state.calls) ∧
      ((verdict? sc.state).map (·.1) = some 0 ↔
        result = .ok () ∧ ∃ params, ("shutdown", params) ∈ sc.state.calls) := by
  have hcalls : ∀ method params, (method, params) ∈ sc.state.calls ↔ ∃ value ∈ sc.state.routed,
      (∃ id, Message.classify value = .ok (.request id method params)) ∨
        Message.classify value = .ok (.notification method params) := by
    intro method params
    simp only [Session.calls_plays h, List.mem_filterMap, Session.callOf?_eq_some]
  have hflag := Service.memory_iff_calls h
  refine ⟨⟨Session.routed_plays h, hcalls⟩, hflag, ?_, ?_⟩
  · exact fun hset sc' hlater => Service.memory_mono h hlater hset
  · intro result hended
    have hserved : served? sc.state = some (.ok true) ↔
        result = .ok () ∧ ∃ params, ("shutdown", params) ∈ sc.state.calls := by
      rw [served?_eq_true, hended, hflag, Session.Phase.ended.injEq]
    exact ⟨hserved, verdict?_eq_zero.trans hserved⟩

/-- An editor that shuts the session down, and leaves. -/
def leavingStream : Bytes :=
  ([Message.request 1 "shutdown" .null, Message.notification "exit" .null] : List Json).flatMap Framing.encode

/-- Both messages are handled, then the wish to end the session is heeded, and the answer is written. -/
def leaving : List Deed :=
  [.start, .arrive (.data leavingStream), .read, .read, .proceed 0, .read, .read, .read, .heed, .read, .drain,
    .take, .push 1000, .flush, .take, .finish]

/-- The run succeeds. -/
theorem exit_status_left :
    ∃ sc : Scene Bool,
      Plays (Service.handler ({} : Settings).service) (fun _ => True)
        (Scene.create (({} : Settings).sessionConfig "stdio") false) sc ∧
      sc.state.phase = .ended (.ok ()) ∧ (∃ params, ("shutdown", params) ∈ sc.state.calls) ∧
      served? sc.state = some (.ok true) ∧ (verdict? sc.state).map (·.1) = some 0 := by
  have hplay : ((Scene.create (({} : Settings).sessionConfig "stdio") false).play
      (Service.handler ({} : Settings).service) (fun _ => true) leaving).any
      (fun sc => sc.state.phase.endedWell && sc.state.memory) = true := by
    decide +kernel
  obtain ⟨sc, hscene, hfacts⟩ := (Option.any_eq_true _ _).mp hplay
  rw [Bool.and_eq_true] at hfacts
  have hplays : Plays (Service.handler ({} : Settings).service) (fun _ => True)
      (Scene.create (({} : Settings).sessionConfig "stdio") false) sc :=
    Session.plays_of_play (fun _ => trivial) hscene
  have hended : sc.state.phase = .ended (.ok ()) := Session.Phase.eq_of_endedWell hfacts.1
  obtain ⟨-, hflag, -, hstatus⟩ := exit_status hplays
  obtain ⟨hserved, hverdict⟩ := hstatus _ hended
  have hasked := hflag.mp hfacts.2
  exact ⟨sc, hplays, hended, hasked, hserved.mpr ⟨rfl, hasked⟩, hverdict.mpr ⟨rfl, hasked⟩⟩

-- ---------------------------------------------------------------------------
-- The program
-- ---------------------------------------------------------------------------

/-- The session that the program serves is one that can be come to. -/
theorem driven_serve (settings : Settings) (input : Bytes) :
    Driven (Service.handler settings.service) (settings.sessionConfig "stdio") false (serve settings input) := by
  have hstart : Operates (Service.handler settings.service)
      (State.create (settings.sessionConfig "stdio") false) (opened settings) := .start _
  exact (((Relation.ReflTransGen.single hstart).tail (.arrive _ (.data input))).tail
    (.arrive _ .ended)).tail (.rest _)

/-- A session that is served is a success if it ended well and a value that it took in asks to shut down. -/
theorem served?_serve_eq_true {settings : Settings} {input : Bytes} :
    served? (serve settings input) = some (.ok true) ↔
      (serve settings input).phase = .ended (.ok ()) ∧
        ∃ value ∈ (serve settings input).routed, ∃ params, callOf? value = some ("shutdown", params) := by
  rw [served?_eq_true, Service.memory_driven (driven_serve settings input), Bool.false_or, List.any_eq_true]
  simp only [Service.asksShutdown_iff]

/-- **The exit status of the program.** A run that serves is successful exactly if no socket was asked for, its
session ended well, and one of the messages that were taken in is a request or a notification of `shutdown`. -/
theorem status_of_run {arguments : List String} {s : Surroundings} {frames : List Bytes} {status : Nat}
    {complaint : String} {log : LogPlace} (h : run arguments s = .served frames status complaint log) :
    status = 0 ↔ ∃ asked, read arguments = .ok (.run asked) ∧ asked.listen = none ∧
      (serve (settings asked s) s.input).phase = .ended (.ok ()) ∧
      ∃ value ∈ (serve (settings asked s) s.input).routed, ∃ params,
        callOf? value = some ("shutdown", params) := by
  rw [run] at h
  split at h
  · cases h
  · cases h
  · cases h
  · rename_i asked hread
    rw [hread]
    split at h
    · rename_i text hlisten
      cases h
      simp [hlisten]
    · rename_i hlisten
      obtain ⟨-, rfl, -, -⟩ := Outcome.served.inj h
      -- without a verdict the run has failed as well
      have hverdict : ∀ verdict : Option (Nat × String),
          (verdict.getD (1, "")).1 = 0 ↔ verdict.map (·.1) = some 0 := by
        intro verdict
        cases verdict <;> simp
      refine (hverdict _).trans ((verdict?_eq_zero.trans served?_serve_eq_true).trans ?_)
      constructor
      · exact fun h => ⟨asked, rfl, hlisten, h⟩
      · rintro ⟨asked', hasked, -, h⟩
        cases hasked
        exact h

end EditorLink.Command
