import EditorLink.Proofs.Session.Books
import EditorLink.Proofs.Session.OneAnswer

/-!
# EditorLink — what is dispatched, and what ends a session

A session dispatches the values of the frames before the first that cannot be read, in their order, and nothing
else: neither the handler nor a caller hears of anything behind it. Unless it is strict, or somebody disturbs it, it
dispatches all of them, whatever they are, and ends as its stream does.

Three things are said at every moment of every scene: the values that were taken in are the first of those that a
reader finds in all that has arrived; the handler was called for the requests and notifications among them and for
nothing else; and what was put down for callers was told by one of the responses among them, or is that the
connection is gone.

The last part needs a session that nobody disturbs: no wish to end it, no failed write, and a setting that passes over
responses which are not expected. Malformed values, values of no kind, and responses without a request do not
disturb it. A session that is disturbed may end earlier, and the first three statements still hold.

## Results

* `Tells` — what a caller is told by a response;
* `Books.Told`, `Books.Told.step` — the invariant: whatever a caller is told was told by a response that was taken
  in, or is that the connection is gone;
* `only_framing_ends` — the main result.
-/

namespace EditorLink.Session

open Correlation (Delivery Desk)
open Message (CallFault)

variable {σ : Type}

/-- A value is a response that tells a caller its outcome. -/
def Tells (value : Json) (δ : Delivery) : Prop :=
  ∃ id outcome, Message.classify value = .ok (.response id outcome) ∧ id.natural? = some δ.id ∧
    δ.outcome = outcome.mapError .remote

namespace Books

/-- What callers are told, and whoever could not send a request. -/
structure Told (b : Books) : Prop where
  refused : ∀ ticket fault, Errand.refused ticket fault ∈ b.errands → fault = .closed
  told : ∀ δ ∈ b.desk.uncollected, δ.outcome = .error .closed ∨ ∃ value ∈ b.routed, Tells value δ

variable {b b' : Books}

theorem told_empty (reading : Bool) (sent : List Nat) (routed : List Json) :
    Told ⟨reading, {}, [], sent, routed⟩ := ⟨by simp, by simp⟩

/-- **Nobody is told anything** but by a response that was taken in. -/
theorem Told.step {taking : Bool} (h : b.Told) (hgo : b.Goes taking b') : b'.Told := by
  induction hgo with
  | keeps b => exact h
  | before hperm hgo ih =>
    exact ih ⟨fun ticket fault hmem => h.refused ticket fault (hperm.mem_iff.mpr hmem), h.told⟩
  | behind hgo hperm ih =>
    have htold := ih h
    exact ⟨fun ticket fault hmem => htold.refused ticket fault (hperm.mem_iff.mpr hmem), htold.told⟩
  | issues b now timeout method params =>
    refine ⟨?_, ?_⟩
    · intro ticket fault hmem
      rcases List.mem_cons.mp hmem with heq | hmem
      · cases heq
      · exact h.refused ticket fault hmem
    · intro δ hδ
      exact (Desk.uncollected_of_register hδ).elim .inl (h.told δ)
  | sends hes =>
    refine ⟨?_, h.told⟩
    intro ticket fault hmem
    rcases List.mem_cons.mp hmem with heq | hmem
    · cases heq
    · exact h.refused ticket fault (hes ▸ List.mem_cons_of_mem _ hmem)
  | fails hes hshut =>
    refine ⟨?_, h.told⟩
    intro ticket fault hmem
    rcases List.mem_cons.mp hmem with heq | hmem
    · cases heq
      rfl
    · exact h.refused ticket fault (hes ▸ List.mem_cons_of_mem _ hmem)
  | @refuses b ticket fault es hes =>
    have hfault : fault = .closed := h.refused ticket fault (hes ▸ List.mem_cons_self)
    refine ⟨?_, ?_⟩
    · intro ticket' fault' hmem
      rcases List.mem_cons.mp hmem with heq | hmem
      · cases heq
      · exact h.refused ticket' fault' (hes ▸ List.mem_cons_of_mem _ hmem)
    · intro δ hδ
      cases hsettle : b.desk.settle ticket.id (.error fault) with
      | error reason =>
        rw [hsettle] at hδ
        exact h.told δ hδ
      | ok desk =>
        rw [hsettle] at hδ
        rcases Desk.uncollected_of_settle hsettle hδ with rfl | hδ
        · exact .inl (congrArg Except.error hfault)
        · exact h.told δ hδ
  | @polls b ticket es hes now =>
    exact ⟨fun ticket' fault hmem => h.refused ticket' fault (hes ▸ List.mem_cons_of_mem _ hmem),
      fun δ hδ => h.told δ (ticket.uncollected_of_poll now b.desk hδ)⟩
  | @drops b ticket es hes =>
    refine ⟨fun ticket' fault hmem => h.refused ticket' fault (hes ▸ List.mem_cons_of_mem _ hmem), ?_⟩
    intro δ hδ
    exact h.told δ (ticket.uncollected_of_discard b.desk ▸ hδ)
  | @settles b value id outcome n desk hreading hclass hid hsettle =>
    refine ⟨h.refused, ?_⟩
    intro δ hδ
    rcases Desk.uncollected_of_settle hsettle hδ with rfl | hδ
    · exact .inr ⟨value, List.mem_append_right _ (List.mem_singleton.mpr rfl), id, outcome, hclass, hid, rfl⟩
    · exact (h.told δ hδ).imp_right fun ⟨value', hmem, htells⟩ =>
        ⟨value', List.mem_append_left _ hmem, htells⟩
  | passes hreading hidle =>
    refine ⟨h.refused, ?_⟩
    intro δ hδ
    exact (h.told δ hδ).imp_right fun ⟨value', hmem, htells⟩ =>
      ⟨value', List.mem_append_left _ hmem, htells⟩
  | ends b => exact ⟨h.refused, h.told⟩
  | closes b =>
    exact ⟨h.refused, fun δ hδ => (Desk.uncollected_of_closeAll hδ).elim .inl (h.told δ)⟩

end Books

variable {handler : Handler σ} {config : Config} {memory : σ} {holds : Scene σ → Prop} {sc : Scene σ}

/-- **Whatever happens**, callers are told nothing else. -/
theorem told_plays (h : Plays handler holds (Scene.create config memory) sc) : sc.books.Told := by
  induction h with
  | refl => exact Books.told_empty _ _ _
  | tail hplays hlast ih =>
    exact ih.step (hlast.1.books (orderly_plays hplays) (whole_run (Plays.runs hplays)))

/-- **Only framing ends a lenient session**, and nothing is dispatched behind it. Whatever those outside and the
handler do, in whatever order: what was routed is the first of what a reader finds, before an end or a fault, in
all that has arrived. The handler was called for the calls among it, one after the other, and callers are told only
what a response among it says, or that the connection is gone. If the session takes any response, nobody wants
it to end and no write fails, then by its end everything that the reader finds was routed, and the session ends well if
the reader comes to an end, and else with the fault that the reader finds. -/
theorem only_framing_ends (h : Plays handler holds (Scene.create config memory) sc) :
    (sc.state.routed <+: sc.inbound.readAll.1 ∧
        sc.state.calls = sc.state.routed.filterMap callOf? ∧
        ∀ δ ∈ sc.state.desk.uncollected,
          δ.outcome = .error .closed ∨ ∃ value ∈ sc.state.routed, Tells value δ) ∧
      (config.strictResponses = false → (∀ sc, holds sc → sc.Calm) →
        ∀ result, sc.state.phase = .ended result →
          sc.inbound.readAll = (sc.state.routed, .ended) ∧ result = .ok () ∨
            ∃ fault, sc.inbound.readAll = (sc.state.routed, .fault fault) ∧
              result = .error (.frame fault)) := by
  refine ⟨⟨routed_plays h, calls_plays h, (told_plays h).told⟩, ?_⟩
  intro hlenient hcalm result hended
  obtain ⟨reading, hread, hresult⟩ := ended_of_calm hlenient hcalm h hended
  cases reading with
  | ended => exact .inl ⟨hread, (Option.some.inj hresult).symm⟩
  | fault fault => exact .inr ⟨fault, hread, (Option.some.inj hresult).symm⟩
  | frame value => cases hresult
  | waiting => cases hresult

def Phase.endedBadly : Phase → Bool
  | .ended (.error _) => true
  | _ => false

theorem Phase.eq_of_endedBadly {p : Phase} (h : p.endedBadly = true) : ∃ fault, p = .ended (.error fault) := by
  unfold endedBadly at h
  split at h
  · exact ⟨_, rfl⟩
  · cases h

/-- A value that is no message, a response to nobody, and a notification; then a body that is no value, and
another notification. -/
def brokenStream : Bytes :=
  ([.arr [], .obj [("error", .null), ("id", .str "x"), ("result", .null)],
      Message.notification "m" .null] : List Json).flatMap Framing.encode ++
    Text.utf8 "Content-Length: 1\r\n\r\n\x7b" ++ Framing.encode (Message.notification "n" .null)

/-- All of it is read, and the session comes to its end. -/
def readingBroken : List Deed :=
  [.start, .arrive (.data brokenStream), .read, .read, .read, .read, .read, .read, .drain, .take, .finish]

/-- A stream that breaks behind three values. -/
theorem only_framing_ends_broken :
    ∃ (sc : Scene Unit) (fault : Framing.Fault),
      Plays Rehearsal.handler Scene.Calm (Scene.create {} ()) sc ∧
      sc.state.routed.length = 3 ∧ sc.state.calls.map Prod.fst = ["m"] ∧
      sc.inbound.readAll = (sc.state.routed, .fault fault) ∧
      sc.state.phase = .ended (.error (.frame fault)) := by
  have hplay : (Scene.play Rehearsal.handler
      (fun sc => !sc.state.closeAsked && !sc.state.writer.isBroken) readingBroken
      (Scene.create {} ())).any (fun sc => sc.state.phase.endedBadly && sc.state.routed.length == 3 &&
        sc.state.calls.map Prod.fst == ["m"]) = true := by
    decide +kernel
  obtain ⟨sc, hscene, hfacts⟩ := (Option.any_eq_true _ _).mp hplay
  rw [Bool.and_eq_true, Bool.and_eq_true, beq_iff_eq, beq_iff_eq] at hfacts
  obtain ⟨⟨hended, hrouted⟩, hcalls⟩ := hfacts
  have hplays : Plays Rehearsal.handler Scene.Calm (Scene.create {} ()) sc := by
    refine plays_of_play (fun h => ?_) hscene
    rw [Bool.and_eq_true, Bool.not_eq_true', Bool.not_eq_true'] at h
    exact ⟨h.1, h.2⟩
  obtain ⟨reason, hphase⟩ := Phase.eq_of_endedBadly hended
  rcases (only_framing_ends hplays).2 rfl (fun _ hcalm => hcalm) _ hphase with
    ⟨-, hresult⟩ | ⟨fault, hread, hresult⟩
  · cases hresult
  · exact ⟨sc, fault, hplays, hrouted, hcalls, hread, hphase.trans (congrArg Phase.ended hresult)⟩

end EditorLink.Session
