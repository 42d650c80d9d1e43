import EditorLink.Message.Incoming
import EditorLink.Message.Outgoing
import EditorLink.Proofs.Framing.RoundTrip
import EditorLink.Proofs.Json.Members
import EditorLink.Session.Routing

/-!
# EditorLink — a call and its answer

A message that one side writes is read by the other as that message, although the members of an
error do not stand in the order in which reading gives them. So a call comes through with its id, its
answer comes back with the same id, and it goes to the caller who made the call.

Both sides are instances of the same model: one writes a request frame, the other decodes it, classifies the value and
answers under the id that it found, and the first decodes and classifies the answer and settles it at its desk. Bytes
that stand behind either frame are left alone. What comes through unchanged is described by `Portable`: values in key
order without doubles, and ids and codes of 64 bits; a message that is not nested too deep and whose frame is within
the limit of the one who reads it is one that `Fits`.

An error may carry data that are null. A strict reader would take them for no data; the lenient one, which a caller
uses, keeps them, so that such an answer comes back as it was. So does a result that is null.

What the handler of the other side does in between is not the subject: the answer is given, and the theorem is about
its way. That other answers may come first is in `EditorLink.Proofs.Correlation.Settling`.

## Results

* `Outgoing.Portable` — messages whose parts come through;
* `Outgoing.received` — a message as the other side sees it;
* `Outgoing.Portable.classify_normalize`, `Outgoing.Portable.decode_frame` — its frame is read as that;
* `Desk.settle_of_waiting`, `Ticket.poll_take_self`, `Ticket.poll_take_of_ne` — an answer is for its
  caller, and nobody else sees it;
* `call_and_answer` — both directions.
-/

namespace EditorLink

open Json (Members)

namespace Message

-- ---------------------------------------------------------------------------
-- Messages that come through
-- ---------------------------------------------------------------------------

/-- A value that can stand in a message: as reading gives it, and without doubles. -/
structure Portable (v : Json) : Prop where
  wellFormed : v.WellFormed
  noDouble : v.NoDouble

/-- An integer of 64 bits with a sign. -/
def IsSigned (n : Int) : Prop := -(Json.signedBound : Int) ≤ n ∧ n < (Json.signedBound : Int)

instance (n : Int) : Decidable (IsSigned n) := by unfold IsSigned; infer_instance

structure ErrorObject.Portable (e : ErrorObject) : Prop where
  code : IsSigned e.code
  data : ∀ v ∈ e.data, Message.Portable v

def RequestId.Portable : RequestId → Prop
  | .number n => IsSigned n
  | .text _ => True

def PortableOutcome : Except ErrorObject Json → Prop
  | .ok result => Portable result
  | .error error => error.Portable

/-- A message whose parts come through. The id of a call has to fit a sign as well. -/
def Outgoing.Portable : Outgoing → Prop
  | .request id _ params => IsSigned id ∧ Message.Portable params
  | .notification _ params => Message.Portable params
  | .response id outcome => id.Portable ∧ PortableOutcome outcome

/-- A message that is not nested too deep, and not too long for a reader with this limit. -/
structure Outgoing.Fits (limit : Nat) (m : Outgoing) : Prop where
  depth : m.toJson.depth ≤ Json.maxDepth
  length : (Text.utf8 m.toJson.write).length ≤ limit

/-- A message as the other side sees it. -/
def Outgoing.received : Outgoing → Incoming
  | .request id method params => .request (.number id) method params
  | .notification method params => .notification method params
  | .response id outcome => .response id.toJson outcome

-- ---------------------------------------------------------------------------
-- The frame of a message
-- ---------------------------------------------------------------------------

/-- A number of 64 bits with a sign can be written. -/
theorem IsSigned.integerRange {n : Int} (h : IsSigned n) : Json.integerRange n :=
  ⟨h.1, Int.lt_trans h.2 (by decide)⟩

theorem IsSigned.signed? {n : Int} (h : IsSigned n) : (Json.int n).signed? = some n := if_pos h

/-- An id of ours that fits a sign is found again in a response. -/
theorem IsSigned.natural? {id : Nat} (h : IsSigned id) : (Json.int id).natural? = some id := by
  have hread : ∀ {n : Int}, 0 ≤ n → IsSigned n → (Json.int n).natural? = some n.toNat :=
    fun hn h => if_pos ⟨hn, h.integerRange.2⟩
  rw [hread (Int.natCast_nonneg id) h, Int.toNat_natCast]

/-- A value in order is written and read as it is. -/
theorem Portable.inRange {v : Json} (h : Portable v) : v.InRange := h.wellFormed.inRange

theorem Portable.normalize {v : Json} (h : Portable v) : v.normalize = v :=
  Json.normalize_of_wellFormed h.wellFormed

/-- An id is written as a value that comes through. -/
theorem RequestId.Portable.toJson {id : RequestId} (h : id.Portable) :
    Message.Portable id.toJson := by
  cases id with
  | number n => exact ⟨IsSigned.integerRange h, trivial⟩
  | text s => exact ⟨trivial, trivial⟩

theorem IsSigned.ofJson? {n : Int} (h : IsSigned n) :
    RequestId.ofJson? (.int n) = some (.number n) :=
  congrArg (Option.map RequestId.number) h.signed?

/-- An error is written without doubles, and with integers that fit. -/
theorem ErrorObject.Portable.toJson {e : ErrorObject} (h : e.Portable) :
    e.toJson.InRange ∧ e.toJson.NoDouble := by
  have hcode := h.code.integerRange
  cases hdata : e.data with
  | none =>
    rw [ErrorObject.toJson, hdata]
    exact ⟨⟨hcode, trivial, trivial⟩, trivial, trivial, trivial⟩
  | some v =>
    have hv := h.data v hdata
    rw [ErrorObject.toJson, hdata]
    exact ⟨⟨hcode, trivial, hv.inRange, trivial⟩, trivial, trivial, hv.noDouble, trivial⟩

/-- A message that comes through is a value that does. -/
theorem Outgoing.Portable.transmissible {limit : Nat} {m : Outgoing} (h : m.Portable)
    (hfits : m.Fits limit) : Framing.Transmissible limit m.toJson := by
  have hparts : m.toJson.InRange ∧ m.toJson.NoDouble := by
    cases m with
    | request id method params =>
      exact ⟨⟨h.1.integerRange, trivial, trivial, h.2.inRange, trivial⟩,
        trivial, trivial, trivial, h.2.noDouble, trivial⟩
    | notification method params =>
      exact ⟨⟨trivial, trivial, h.inRange, trivial⟩, trivial, trivial, h.noDouble, trivial⟩
    | response id outcome =>
      have hid := h.1.toJson
      cases outcome with
      | ok result =>
        have hresult : Message.Portable result := h.2
        exact ⟨⟨hid.inRange, trivial, hresult.inRange, trivial⟩,
          hid.noDouble, trivial, hresult.noDouble, trivial⟩
      | error error =>
        obtain ⟨hrange, hdouble⟩ := ErrorObject.Portable.toJson h.2
        exact ⟨⟨hid.inRange, trivial, hrange, trivial⟩, hid.noDouble, trivial, hdouble, trivial⟩
  exact ⟨hparts.1, hparts.2, hfits.depth, hfits.length⟩

-- ---------------------------------------------------------------------------
-- What is read
-- ---------------------------------------------------------------------------

section Classify

variable {members : Members}

/-- With a result a message is a response, whatever else it holds. -/
theorem classify_of_result (result : Json) (hresult : members.lookup "result" = some result) :
    classify (.obj members) =
      .ok (.response ((members.lookup "id").getD .null) (.ok result)) := by
  rw [classify]
  simp only [hresult]

/-- So it is with an error and no result, and the error is read leniently. -/
theorem classify_of_error (error : Json) (hresult : members.lookup "result" = none)
    (herror : members.lookup "error" = some error) :
    classify (.obj members) =
      .ok (.response ((members.lookup "id").getD .null) (.error (.lenient error))) := by
  rw [classify]
  simp only [hresult, herror]

/-- A method and an id make a request. -/
theorem classify_of_request (raw : Json) (id : RequestId) (method : String)
    (hresult : members.lookup "result" = none) (herror : members.lookup "error" = none)
    (hraw : members.lookup "id" = some raw) (hid : RequestId.ofJson? raw = some id)
    (hmethod : members.lookup "method" = some (.str method)) :
    classify (.obj members) = .ok (.request id method ((members.lookup "params").getD .null)) := by
  rw [classify]
  simp only [hresult, herror, hraw, hid, classifyCall, hmethod]

/-- A method without an id makes a notification. -/
theorem classify_of_notification (method : String) (hresult : members.lookup "result" = none)
    (herror : members.lookup "error" = none) (hid : members.lookup "id" = none)
    (hmethod : members.lookup "method" = some (.str method)) :
    classify (.obj members) = .ok (.notification method ((members.lookup "params").getD .null)) := by
  rw [classify]
  simp only [hresult, herror, hid, classifyCall, hmethod]

end Classify

/-- **An error that was written** is what the lenient reader finds, whatever the order of its members,
with data that are null told from no data. -/
theorem ErrorObject.Portable.lenient_normalize {e : ErrorObject} (h : e.Portable) :
    ErrorObject.lenient e.toJson.normalize = e := by
  obtain ⟨code, message, data⟩ := e
  have hcode : (Json.int code).signed? = some code := h.code.signed?
  have hdata : data.map Json.normalize = data := by
    cases data with
    | none => rfl
    | some v => exact congrArg some (h.data v rfl).normalize
  rw [ErrorObject.toJson, ErrorObject.lenient, Json.get?_normalize, Json.get?_normalize,
    Json.get?_normalize]
  cases data with
  | none => simp [ErrorObject.dataMember, Json.lookup_cons, Json.normalize, Json.string?, hcode]
  | some v =>
    simpa [ErrorObject.dataMember, Json.lookup_cons, Json.normalize, Json.string?, hcode]
      using hdata

/-- **A message that was written** is classified as that message. -/
theorem Outgoing.Portable.classify_normalize {m : Outgoing} (h : m.Portable) :
    classify m.toJson.normalize = .ok m.received := by
  -- what is found under each key is known from the members as they were written
  have hlookup : ∀ (key : String) (members : Members),
      (Json.normalizeMembers [] members).lookup key =
        (members.reverse.lookup key).map Json.normalize := by
    intro key members
    rw [Json.lookup_normalizeMembers]
    exact Option.or_none
  cases m with
  | request id method params =>
    have hparams := h.2.normalize
    have hid := h.1.ofJson?
    rw [Outgoing.toJson, Message.request, Json.normalize]
    rw [classify_of_request (.int id) (.number id) method]
    all_goals simp [hlookup, Json.lookup_cons, Json.normalize, hparams, hid, Outgoing.received]
  | notification method params =>
    have hparams : params.normalize = params := Message.Portable.normalize h
    rw [Outgoing.toJson, Message.notification, Json.normalize]
    rw [classify_of_notification method]
    all_goals simp [hlookup, Json.lookup_cons, Json.normalize, hparams, Outgoing.received]
  | response id outcome =>
    have hid := h.1.toJson.normalize
    cases outcome with
    | ok result =>
      have hresult : result.normalize = result := Message.Portable.normalize h.2
      rw [Outgoing.toJson, Message.response, success, Json.normalize]
      rw [classify_of_result result]
      all_goals simp [hlookup, Json.lookup_cons, hresult, hid, Outgoing.received]
    | error error =>
      have herror := ErrorObject.Portable.lenient_normalize h.2
      rw [Outgoing.toJson, Message.response, failure, Json.normalize]
      rw [classify_of_error error.toJson.normalize]
      all_goals simp [hlookup, Json.lookup_cons, herror, hid, Outgoing.received]

/-- **The frame of a message**, at the front of whatever bytes, is decoded as the message. -/
theorem Outgoing.Portable.decode_frame {limit : UInt64} {m : Outgoing} (h : m.Portable)
    (hfits : m.Fits limit.toNat) (more : Bytes) :
    ∃ v, ((Framing.Decoder.withLimit limit.toNat).extend
        (Framing.encode m.toJson ++ more)).decode =
        (.ok (some v), (Framing.Decoder.withLimit limit.toNat).extend more) ∧
      classify v = .ok m.received :=
  ⟨_, Framing.Decoder.decode_encode limit.toNat_lt (h.transmissible hfits) more,
    h.classify_normalize⟩

end Message

-- ---------------------------------------------------------------------------
-- The caller
-- ---------------------------------------------------------------------------

namespace Correlation

variable {d : Desk} {id : Nat} {outcome : Outcome} {table : Table}

/-- An answer to a request that is waited for is delivered, and nothing else is. -/
theorem Desk.settle_of_waiting (h : id ∈ d.table.waiting) (outcome : Outcome) :
    d.settle id outcome =
      .ok (d.take [⟨id, outcome⟩] { d.table with waiting := d.table.waiting.erase id }) := by
  rw [settle, Table.settle, if_pos (List.contains_iff_mem.mpr h)]
  rfl

/-- What is handed out depends on what has become of the request. -/
theorem Ticket.poll_congr {d d' : Desk} {t : Ticket} (h : (d'.collect t.id).1 = (d.collect t.id).1)
    (now : Nat) : (t.poll now d').1 = (t.poll now d).1 := by
  rw [poll, poll]
  split
  · rfl
  · rcases hd : d.collect t.id with ⟨receipt, e⟩
    rcases hd' : d'.collect t.id with ⟨receipt', e'⟩
    rw [hd, hd'] at h
    obtain rfl : receipt' = receipt := h
    cases receipt' with
    | delivered outcome => rfl
    | lost => rfl
    | waiting =>
      cases t.deadline with
      | none => rfl
      | some deadline =>
        dsimp only
        split <;> rfl

/-- Who holds the ticket of a delivery finds it. -/
theorem Ticket.poll_take_self {t : Ticket} (hid : t.id = id) (hdone : t.done = false) (now : Nat) :
    (t.poll now (d.take [⟨id, outcome⟩] table)).1 = some outcome := by
  simp [poll, hdone, Desk.collect, Desk.take, hid]

/-- Who holds another ticket finds what was there before, if the table tells it the same. -/
theorem Ticket.poll_take_of_ne {t : Ticket} (hid : t.id ≠ id)
    (hwaiting : t.id ∈ table.waiting ↔ t.id ∈ d.table.waiting) (now : Nat) :
    (t.poll now (d.take [⟨id, outcome⟩] table)).1 = (t.poll now d).1 := by
  have hother : (id == t.id) = false := beq_false_of_ne (Ne.symm hid)
  have hsame : table.waiting.contains t.id = d.table.waiting.contains t.id := by
    rw [Bool.eq_iff_iff, List.contains_iff_mem, List.contains_iff_mem]
    exact hwaiting
  refine poll_congr ?_ now
  simp only [Desk.collect, Desk.take, List.singleton_append, List.find?_cons, hother, hsame]
  cases d.uncollected.find? (·.id == t.id) <;> rfl

end Correlation

namespace Session

open Correlation (Ticket)
open Message (ErrorObject IsSigned Outgoing PortableOutcome classify)

/-- **A response to a request that is waited for** is settled: it is delivered under the id of the
request. -/
theorem State.receive_response {σ : Type} (handler : Handler σ) {s : State σ} {answer raw : Json}
    {id : Nat} {outcome : Except ErrorObject Json} (hid : raw.natural? = some id)
    (hanswer : classify answer = .ok (.response raw outcome))
    (hwaiting : id ∈ s.desk.table.waiting) :
    ∃ s', s.receive handler answer = .settled s' ∧
      s'.desk = s.desk.take [⟨id, outcome.mapError .remote⟩]
        { s.desk.table with waiting := s.desk.table.waiting.erase id } := by
  have hsettle := Correlation.Desk.settle_of_waiting hwaiting (outcome.mapError .remote)
  let s₁ := s.record (.routed answer)
  let desk := s.desk.take [⟨id, outcome.mapError .remote⟩]
    { s.desk.table with waiting := s.desk.table.waiting.erase id }
  have hsettled :
      s₁.settle id (outcome.mapError .remote) = .ok ({ s₁ with desk }.wake (·.isAsking id)) := by
    rw [settle]
    exact congrArg (Except.map _) hsettle
  refine ⟨{ s₁ with desk }.wake (·.isAsking id), ?_, rfl⟩
  rw [receive]
  simp only [hanswer, settleResponse, hid]
  rw [hsettled]

/-- **A call and its answer.** The frame of a call whose id fits a sign is read, at the front of whatever
bytes, as that call. The frame of the response that the other side makes for the id it has read is read as
that response, with the id of the call and its outcome as it was. A session in which the call is
waited for settles it: whoever holds the ticket of the call finds the outcome, and whoever holds another
ticket finds what was there for it before. -/
theorem call_and_answer {limit limit' : UInt64} {id : Nat} {method : String} {params : Json}
    {outcome : Except ErrorObject Json} (hcall : (Outgoing.request id method params).Portable)
    (hcallFits : (Outgoing.request id method params).Fits limit.toNat)
    (hanswer : PortableOutcome outcome)
    (hanswerFits : (Outgoing.response (.number id) outcome).Fits limit'.toNat)
    (more more' : Bytes) :
    ∃ call answer,
      ((Framing.Decoder.withLimit limit.toNat).extend
          (Framing.encode (Outgoing.request id method params).toJson ++ more)).decode =
        (.ok (some call), (Framing.Decoder.withLimit limit.toNat).extend more) ∧
      classify call = .ok (.request (.number id) method params) ∧
      ((Framing.Decoder.withLimit limit'.toNat).extend
          (Framing.encode (Outgoing.response (.number id) outcome).toJson ++ more')).decode =
        (.ok (some answer), (Framing.Decoder.withLimit limit'.toNat).extend more') ∧
      classify answer = .ok (.response (.int id) outcome) ∧
      (Json.int id).natural? = some id ∧
      ∀ {σ : Type} (handler : Handler σ) (s : State σ), id ∈ s.desk.table.waiting →
        ∃ s', s.receive handler answer = .settled s' ∧
          s'.desk.table = { s.desk.table with waiting := s.desk.table.waiting.erase id } ∧
          ∀ (ticket : Ticket) (now : Nat),
            (ticket.id = id → ticket.done = false →
              (ticket.poll now s'.desk).1 = some (outcome.mapError .remote)) ∧
            (ticket.id ≠ id → (ticket.poll now s'.desk).1 = (ticket.poll now s.desk).1) := by
  have hid : IsSigned id := hcall.1
  obtain ⟨call, hcallDecoded, hcallRead⟩ := hcall.decode_frame hcallFits more
  have hresponse : (Outgoing.response (.number id) outcome).Portable := ⟨hid, hanswer⟩
  obtain ⟨answer, hanswerDecoded, hanswerRead⟩ := hresponse.decode_frame hanswerFits more'
  have hnatural := hid.natural?
  refine ⟨call, answer, hcallDecoded, hcallRead, hanswerDecoded, hanswerRead, hnatural, ?_⟩
  intro σ handler s hwaiting
  obtain ⟨s', hsettled, hdesk⟩ := State.receive_response handler hnatural hanswerRead hwaiting
  refine ⟨s', hsettled, by rw [hdesk]; rfl, ?_⟩
  intro ticket now
  rw [hdesk]
  constructor
  · intro hsame hdone
    exact Ticket.poll_take_self hsame hdone now
  · intro hother
    -- the others wait as they did
    exact Ticket.poll_take_of_ne hother (List.mem_erase_of_ne hother) now

/-- An error with data that are null. -/
def refusal : ErrorObject := { code := -32803, message := "\"no\"", data := some .null }

/-- A session with a request for which the other side has no answer but an error. -/
def asked : Ticket × State Unit := (State.create {} ()).ask "m" (.arr [.null, .int (-1)])

theorem call_and_answer_refusal :
    ∃ call answer,
      ((Framing.Decoder.withLimit 64).extend
          (Framing.encode (Outgoing.request 0 "m" (.arr [.null, .int (-1)])).toJson ++ [])).decode =
        (.ok (some call), (Framing.Decoder.withLimit 64).extend []) ∧
      classify call = .ok (.request (.number 0) "m" (.arr [.null, .int (-1)])) ∧
      classify answer = .ok (.response (.int 0) (.error refusal)) ∧
      ∃ s', asked.2.receive (fun memory _ _ => (.silent, memory)) answer = .settled s' ∧
        (asked.1.poll 0 s'.desk).1 = some (.error (.remote refusal)) := by
  have hparams : Message.Portable (.arr [.null, .int (-1)]) :=
    ⟨⟨trivial, (by decide : Json.integerRange (-1)), trivial⟩, trivial, trivial, trivial⟩
  have hrefusal : PortableOutcome (.error refusal) := by
    refine ⟨by decide, ?_⟩
    rintro v ⟨rfl⟩
    exact ⟨trivial, trivial⟩
  have hcall : (Outgoing.request 0 "m" (.arr [.null, .int (-1)])).Portable := ⟨by decide, hparams⟩
  have hcallFits : (Outgoing.request 0 "m" (.arr [.null, .int (-1)])).Fits (64 : UInt64).toNat :=
    ⟨by decide, by decide⟩
  have hanswerFits :
      (Outgoing.response (.number 0) (.error refusal)).Fits (128 : UInt64).toNat :=
    ⟨by decide, by decide⟩
  obtain ⟨call, answer, hcalled, hread, -, hanswered, -, hsettles⟩ :=
    call_and_answer hcall hcallFits hrefusal hanswerFits [] []
  obtain ⟨s', hsettled, -, hpoll⟩ :=
    hsettles (fun memory _ _ => (.silent, memory)) asked.2 (by decide)
  exact ⟨call, answer, hcalled, hread, hanswered, s', hsettled,
    (hpoll asked.1 0).1 (by decide) (by decide)⟩

end Session
end EditorLink
