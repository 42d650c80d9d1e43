import EditorLink.Proofs.Session.Core
import EditorLink.Proofs.Session.Quiet

/-!
# EditorLink — requests of ours

A request of ours takes some steps from its ticket to its outcome: it is sent or cannot be sent, and then
its outcome is waited for. The handling of a message takes these steps when it asks the other side, and
those outside take them as well.

A thread that asks stands at a stage that holds such a request and the program that goes on behind it. Its step is the
step of the request; only when that is done does the program matter. The difference between the two is who is told the
outcome: a thread goes on with it, which is noted, and whoever asks from outside takes it away.

So the steps of a thread are of few kinds (`Thread.Goes`): it says something that is no request, it concludes, it
changes nothing that matters here, it makes a request, or it takes a step of one. Invariants of requests are proved for
these kinds.

## Results

* `Errand` — how far a request is, and `Errand.proceed`, its next step;
* `Thread.Goes` — the kinds of steps that a thread can take, of which an errand is one;
* `Thread.goes`, `Thread.proceed_quiet` — a thread takes no others.
-/

namespace EditorLink.Session

open Correlation (Outcome Ticket)
open Message (CallFault Outgoing)

/-- How far a request of ours is. -/
inductive Errand where
  /-- A ticket was given out, and the request is to be sent. -/
  | requesting (ticket : Ticket) (method : String) (params : Json)
  /-- The request could not be sent. -/
  | refused (ticket : Ticket) (fault : CallFault)
  | asking (ticket : Ticket)

/-- What a step of an errand leads to. -/
inductive Errand.Next where
  | goesOn (e : Errand)
  | done (outcome : Outcome)

variable {σ : Type}

/-- One step. -/
def Errand.proceed (e : Errand) (origin : Origin) (c : Course σ) : Course σ × Next :=
  match e with
  | .requesting ticket method params =>
    match c.say origin (.request ticket.id method params) with
    | (.ok (), c) => (c, .goesOn (.asking ticket))
    | (.error fault, c) => (c, .goesOn (.refused ticket fault))
  | .refused ticket fault =>
    ({ c with state := c.state.refuse ticket.id fault }, .goesOn (.asking ticket))
  | .asking ticket =>
    match c.state.poll ticket with
    | (some outcome, _, state) => (({ c with state } : Course σ).tell origin ticket outcome, .done outcome)
    | (none, ticket, state) => ({ c with state }, .goesOn (.asking ticket))

section Proceed

variable (origin : Origin) (c : Course σ) (ticket : Ticket)

/-- **A request is sent** if frames are taken, and else it cannot be sent because the connection is gone. -/
theorem Errand.proceed_requesting (method : String) (params : Json) :
    (requesting ticket method params).proceed origin c =
      ((c.say origin (.request ticket.id method params)).2,
        .goesOn (if c.state.accepting then .asking ticket else .refused ticket .closed)) := by
  have hsent : (c.say origin (.request ticket.id method params)).1 = _ := c.state.send_fst _
  rw [proceed]
  rcases hsay : c.say origin (.request ticket.id method params) with ⟨sent, c'⟩
  rw [hsay] at hsent
  subst hsent
  cases c.state.accepting <;> rfl

/-- Whoever waits looks for the outcome, and it is noted if it is told of one. -/
theorem Errand.proceed_asking :
    ∃ told, ((asking ticket).proceed origin c).1 =
      { c with state := (c.state.poll ticket).2.2, told } := by
  rw [proceed]
  rcases c.state.poll ticket with ⟨_ | outcome, ticket', s⟩
  · exact ⟨c.told, rfl⟩
  · cases origin with
    | message o => exact ⟨_, rfl⟩
    | outside => exact ⟨c.told, rfl⟩

/-- What those outside are told is not noted. -/
theorem Errand.proceed_asking_outside :
    ((asking ticket).proceed .outside c).1 = { c with state := (c.state.poll ticket).2.2 } := by
  rw [proceed]
  rcases c.state.poll ticket with ⟨_ | outcome, ticket', s⟩ <;> rfl

end Proceed

/-- **A step of an errand** says the request, or says nothing. -/
theorem Errand.proceed_cases (e : Errand) (origin : Origin) (c : Course σ) :
    (∃ ticket method params, e = .requesting ticket method params ∧
        (e.proceed origin c).1 = (c.say origin (.request ticket.id method params)).2) ∨
      ∃ s told, (e.proceed origin c).1 = { c with state := s, told } ∧ c.state.Quiet s := by
  cases e with
  | requesting ticket method params =>
    refine .inl ⟨ticket, method, params, rfl, ?_⟩
    rw [proceed_requesting]
  | refused ticket fault => exact .inr ⟨_, c.told, rfl, c.state.quiet_refuse ticket.id fault⟩
  | asking ticket =>
    obtain ⟨told, h⟩ := proceed_asking origin c ticket
    exact .inr ⟨_, told, h, rfl⟩

-- ---------------------------------------------------------------------------
-- Threads
-- ---------------------------------------------------------------------------

/-- A thread that is about a request of ours. -/
def Errand.stage (next : Except CallFault Json → Task) : Errand → Stage
  | .requesting ticket method params => .requesting ticket method params next
  | .refused ticket fault => .refused ticket fault next
  | .asking ticket => .asking ticket next

/-- Where a thread goes on behind a step of its request. -/
def Errand.Next.stage (next : Except CallFault Json → Task) : Next → Stage
  | .goesOn e => e.stage next
  | .done outcome => .running (next outcome)

/-- The request of ours that a thread is about. -/
def Stage.errand? : Stage → Option Errand
  | .requesting ticket method params _ => some (.requesting ticket method params)
  | .refused ticket fault _ => some (.refused ticket fault)
  | .asking ticket _ => some (.asking ticket)
  | _ => none

/-- The request that a stage holds is the one it was made of. -/
@[simp] theorem Errand.errand?_stage (e : Errand) (next : Except CallFault Json → Task) :
    (e.stage next).errand? = some e := by
  cases e <;> rfl

/-- The kinds of steps of a thread. -/
inductive Thread.Goes (t : Thread) (c : Course σ) : Course σ → Option Thread → Prop
  /-- It has no request of ours, and says nothing. -/
  | quietly {s : State σ} {stage : Stage} (hs : s = c.state ∨ s = c.state.close)
    (hbefore : t.stage.errand? = none) (hafter : stage.errand? = none) :
    Goes t c { c with state := s } (some (t.movedTo stage))
  | notifies {method : String} {params : Json} {stage : Stage} (hbefore : t.stage.errand? = none)
    (hafter : stage.errand? = none) :
    Goes t c (c.say t.origin (.notification method params)).2 (some (t.movedTo stage))
  | issues {method : String} {params : Json} {next : Except CallFault Json → Task}
    (hbefore : t.stage.errand? = none) :
    Goes t c { c with state := c.state.issue.2 }
      (some (t.movedTo ((Errand.requesting c.state.issue.1 method params).stage next)))
  | errand {e : Errand} {next : Except CallFault Json → Task} (hbefore : t.stage = e.stage next) :
    Goes t c (e.proceed t.origin c).1 (some (t.movedTo ((e.proceed t.origin c).2.stage next)))
  | concludes (k : Conclusion) (hbefore : t.stage.errand? = none) :
    Goes t c (c.conclude t.occurrence t.replyTo k) none

/-- A thread that is about a request of ours takes a step of it. -/
theorem Thread.proceed_errand {t : Thread} {e : Errand} {next : Except CallFault Json → Task}
    (h : t.stage = e.stage next) (c : Course σ) :
    t.proceed c =
      ((e.proceed t.origin c).1, some (t.movedTo ((e.proceed t.origin c).2.stage next))) := by
  cases e with
  | requesting ticket method params =>
    rcases hsay : c.say t.origin (.request ticket.id method params) with ⟨_ | u, c'⟩ <;>
      simp [proceed, h, Errand.stage, Errand.proceed, Errand.Next.stage, hsay]
  | refused ticket fault => simp [proceed, h, Errand.stage, Errand.proceed, Errand.Next.stage]
  | asking ticket =>
    rcases hpoll : c.state.poll ticket with ⟨_ | outcome, ticket', s⟩ <;>
      simp [proceed, h, Errand.stage, Errand.proceed, Errand.Next.stage, hpoll]

/-- **A step of a thread** is of one of these kinds. -/
theorem Thread.goes (t : Thread) (c : Course σ) : t.Goes c (t.proceed c).1 (t.proceed c).2 := by
  have herrand : ∀ {e : Errand} {next : Except CallFault Json → Task}, t.stage = e.stage next →
      t.Goes c (t.proceed c).1 (t.proceed c).2 := by
    intro e next h
    rw [proceed_errand h]
    exact .errand h
  obtain ⟨o, replyTo, stage⟩ := t
  cases stage with
  | reacting reaction =>
    cases reaction with
    | silent => exact .concludes .silent rfl
    | crash message => exact .concludes (.crashed message) rfl
    | start task => exact .quietly (.inl rfl) rfl rfl
    | notify method params next => exact .notifies rfl rfl
    | close next => exact .quietly (.inr rfl) rfl rfl
  | running task =>
    cases task with
    | finish result => exact .concludes (.finished result) rfl
    | fail fault => exact .concludes (.failed fault) rfl
    | crash message => exact .concludes (.crashed message) rfl
    | notify method params next => exact .notifies rfl rfl
    | ask method params next => exact .issues rfl
    | wait gate next => exact .quietly (.inl rfl) rfl rfl
    | close next => exact .quietly (.inr rfl) rfl rfl
  | requesting ticket method params next =>
    exact herrand (e := .requesting ticket method params) rfl
  | refused ticket fault next => exact herrand (e := .refused ticket fault) rfl
  | asking ticket next => exact herrand (e := .asking ticket) rfl
  | held gate next => exact .quietly (.inl rfl) rfl rfl

/-- **A step of a thread** says nothing, says something that is no response, or concludes. -/
theorem Thread.proceed_quiet (t : Thread) (c : Course σ) :
    (∃ s told, (t.proceed c).1 = { c with state := s, told } ∧ c.state.Quiet s) ∨
      (∃ m, (t.proceed c).1 = (c.say t.origin m).2) ∨
      ∃ k, (t.proceed c).1 = c.conclude t.occurrence t.replyTo k := by
  have hgoes := t.goes c
  generalize t.proceed c = after at hgoes
  obtain ⟨c', t'⟩ := after
  cases hgoes with
  | quietly hs hbefore hafter =>
    refine .inl ⟨_, c.told, rfl, ?_⟩
    rcases hs with rfl | rfl <;> rfl
  | notifies hbefore hafter => exact .inr (.inl ⟨_, rfl⟩)
  | issues hbefore => exact .inl ⟨_, c.told, rfl, rfl⟩
  | @errand e next hbefore =>
    obtain ⟨ticket, method, params, -, h⟩ | h := e.proceed_cases t.origin c
    · exact .inr (.inl ⟨_, h⟩)
    · exact .inl h
  | concludes k hbefore => exact .inr (.inr ⟨k, rfl⟩)

end EditorLink.Session
