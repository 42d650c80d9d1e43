import EditorLink.Proofs.Json.Shapes
import EditorLink.Proofs.Message.CallAndAnswer

/-!
# EditorLink — the two readers of error objects

An error object is read strictly or leniently. Both find the same in an object whose members have their
types, except that for the strict reader data that are null are no data; in any other object the lenient
reader keeps what is usable.

The strict reader is for errors in records that the project declares. The lenient one is for responses: whatever the
other side sends as an error, its caller is to be told something. A code that is no number of 64 bits counts as none
and is filled in by -1, also if it is a fraction; a message that is no text is filled in by a fixed text; and data are
taken as they stand.

The theorem is about objects: it says when the strict reader succeeds, and what either reader makes of them. The
strict reader also takes an array of two or three fields, in which the lenient reader finds nothing; the other side
never writes an error so.

## Results

* `GivesCode`, `GivesMessage`, `Holds` — members that have their types, and those of a whole error;
* `Holds.lenient`, `shape_eq_ok_iff` — what either reader finds;
* `holds_toJson`, `holds_normalize` — an error that was written is held by its members;
* `Keeps`, `keeps_lenient` — what is kept of any object, and what is filled in;
* `readers_agree` — the two readers, on all objects.
-/

namespace EditorLink

open Json (Members Shape ShapeFault)

/-- A number of 64 bits with a sign. -/
theorem Json.Shape.signed64_eq_ok_iff {v : Json} {n : Int} :
    signed64 v = .ok n ↔ v = .int n ∧ Message.IsSigned n := by
  rw [signed64, integer_eq_ok_iff]
  refine and_congr_right fun _ => ?_
  simp only [Message.IsSigned, signedBound]
  omega

namespace Message

-- ---------------------------------------------------------------------------
-- Members that have their types
-- ---------------------------------------------------------------------------

def GivesCode (members : Members) (n : Int) : Prop :=
  members.lookup "code" = some (.int n) ∧ IsSigned n

def GivesMessage (members : Members) (s : String) : Prop :=
  members.lookup "message" = some (.str s)

/-- Members among which are those of an error, all of their types. -/
structure Holds (members : Members) (e : ErrorObject) : Prop where
  code : GivesCode members e.code
  message : GivesMessage members e.message
  data : members.lookup "data" = e.data

/-- Nothing for null. -/
def unlessNull : Json → Option Json
  | .null => none
  | v => some v

namespace ErrorObject

/-- The error without data if its data are null. -/
def withoutNull (e : ErrorObject) : ErrorObject := { e with data := e.data.bind unlessNull }

variable {members : Members} {e : ErrorObject}

/-- For the strict reader data that are null are none. -/
theorem member?_data : Shape.member? "data" (Shape.optional Shape.any) members =
    .ok ((members.lookup "data").map unlessNull) := by
  rw [Shape.member?]
  cases members.lookup "data" with
  | none => rfl
  | some v => cases v <;> rfl

/-- The strict reader has a code where the object gives one. -/
theorem required_code_iff {n : Int} :
    (∃ n?, Shape.member? "code" Shape.signed64 members = .ok n? ∧ Shape.required "code" n? = .ok n) ↔
      GivesCode members n := by
  simp only [Shape.exists_required_iff, Shape.signed64_eq_ok_iff]
  exact ⟨fun ⟨_, hv, rfl, hn⟩ => ⟨hv, hn⟩, fun ⟨hv, hn⟩ => ⟨_, hv, rfl, hn⟩⟩

/-- **The strict reader** reads what members hold whose types are right, and takes null for no data. -/
theorem shape_eq_ok_iff :
    shape (.obj members) = .ok e ↔ ∃ e', Holds members e' ∧ e'.withoutNull = e := by
  have hshape : shape (.obj members) = ofMembers members := rfl
  rw [hshape, ofMembers]
  simp only [Shape.bind_eq_ok_iff, member?_data]
  constructor
  · rintro ⟨code?, hcode?, _, ⟨⟩, message?, hmessage?, code, hcode, message, hmessage, ⟨⟩⟩
    have hgives := required_code_iff.mp ⟨code?, hcode?, hcode⟩
    have hgives' := Shape.exists_required_text_iff.mp ⟨message?, hmessage?, hmessage⟩
    refine ⟨⟨code, message, members.lookup "data"⟩, ⟨hgives, hgives', rfl⟩, ?_⟩
    cases members.lookup "data" <;> rfl
  · rintro ⟨e', h, rfl⟩
    obtain ⟨code?, hcode?, hcode⟩ := required_code_iff.mpr h.code
    obtain ⟨message?, hmessage?, hmessage⟩ := Shape.exists_required_text_iff.mpr h.message
    refine ⟨code?, hcode?, _, rfl, message?, hmessage?, _, hcode, _, hmessage, ?_⟩
    rw [withoutNull, ← h.data]
    cases members.lookup "data" <;> rfl

end ErrorObject

-- ---------------------------------------------------------------------------
-- What is kept of any object
-- ---------------------------------------------------------------------------

/-- The error has each member that has its type, and something else only for the others. -/
structure Keeps (members : Members) (e : ErrorObject) : Prop where
  code : ∀ n, GivesCode members n → e.code = n
  noCode : (∀ n, ¬ GivesCode members n) → e.code = -1
  message : ∀ s, GivesMessage members s → e.message = s
  noMessage : (∀ s, ¬ GivesMessage members s) → e.message = "No message attached to error"
  data : e.data = members.lookup "data"

section Lenient

variable {members : Members} {e : ErrorObject}

theorem givesCode_iff {n : Int} :
    GivesCode members n ↔ (members.lookup "code").bind Json.signed? = some n := by
  rw [Option.bind_eq_some_iff]
  constructor
  · rintro ⟨hcode, hn⟩
    exact ⟨_, hcode, hn.signed?⟩
  · rintro ⟨v, hv, hn⟩
    cases v with
    | int m =>
      rw [Json.signed?] at hn
      split at hn
      · rename_i hm
        cases hn
        exact ⟨hv, hm⟩
      · cases hn
    | null | bool | double | str | arr | obj => cases hn

theorem givesMessage_iff {s : String} :
    GivesMessage members s ↔ (members.lookup "message").bind Json.string? = some s := by
  rw [Option.bind_eq_some_iff]
  constructor
  · intro hmessage
    exact ⟨_, hmessage, rfl⟩
  · rintro ⟨v, hv, hs⟩
    cases v with
    | str s' =>
      cases hs
      exact hv
    | null | bool | int | double | arr | obj => cases hs

/-- A code that cannot be used is filled in. -/
theorem code_lenient : (ErrorObject.lenient (.obj members)).code =
    ((members.lookup "code").bind Json.signed?).getD (-1) := rfl

theorem message_lenient : (ErrorObject.lenient (.obj members)).message =
    ((members.lookup "message").bind Json.string?).getD "No message attached to error" := rfl

/-- **The lenient reader** keeps what is usable of an object and fills in the rest. -/
theorem keeps_lenient (members : Members) : Keeps members (.lenient (.obj members)) where
  code n hn := by rw [code_lenient, givesCode_iff.mp hn, Option.getD_some]
  noCode hnone := by
    have hcode : (members.lookup "code").bind Json.signed? = none :=
      Option.eq_none_iff_forall_ne_some.mpr fun n hn => hnone n (givesCode_iff.mpr hn)
    rw [code_lenient, hcode, Option.getD_none]
  message s hs := by rw [message_lenient, givesMessage_iff.mp hs, Option.getD_some]
  noMessage hnone := by
    have hmessage : (members.lookup "message").bind Json.string? = none :=
      Option.eq_none_iff_forall_ne_some.mpr fun s hs => hnone s (givesMessage_iff.mpr hs)
    rw [message_lenient, hmessage, Option.getD_none]
  data := rfl

/-- An error that the members hold is what the lenient reader finds. -/
theorem Holds.lenient (h : Holds members e) : ErrorObject.lenient (.obj members) = e := by
  have hkeeps := keeps_lenient members
  have hcode := hkeeps.code _ h.code
  have hmessage := hkeeps.message _ h.message
  have hdata := hkeeps.data.trans h.data
  exact (ErrorObject.mk.injEq ..).mpr ⟨hcode, hmessage, hdata⟩

end Lenient

-- ---------------------------------------------------------------------------
-- Errors that were written
-- ---------------------------------------------------------------------------

/-- An error that is written is held by its members. -/
theorem holds_toJson {e : ErrorObject} (hcode : IsSigned e.code) :
    ∃ members, e.toJson = .obj members ∧ Holds members e := by
  refine ⟨_, rfl, ⟨rfl, hcode⟩, rfl, ?_⟩
  cases e.data <;> rfl

/-- Nor does it matter that the members are put in order, if the data are in order. -/
theorem holds_normalize {e : ErrorObject} (hcode : IsSigned e.code)
    (hdata : ∀ v ∈ e.data, v.WellFormed) :
    ∃ members, e.toJson.normalize = .obj members ∧ Holds members e := by
  have hmap : e.data.map Json.normalize = e.data := by
    cases hv : e.data with
    | none => rfl
    | some v => exact congrArg some (Json.normalize_of_wellFormed (hdata v hv))
  have hlookup := fun key => Json.get?_normalize key
    ([("code", .int e.code), ("message", .str e.message)] ++ ErrorObject.dataMember e.data)
  refine ⟨_, by rw [ErrorObject.toJson, Json.normalize], ⟨?_, hcode⟩, ?_, ?_⟩
  · refine (hlookup "code").trans ?_
    cases e.data <;> rfl
  · refine (hlookup "message").trans ?_
    cases e.data <;> rfl
  · refine ((hlookup "data").trans ?_).trans hmap
    cases e.data <;> rfl

/-- What both readers find in members that hold an error. -/
theorem Holds.readers {members : Members} {e : ErrorObject} (h : Holds members e) :
    ErrorObject.lenient (.obj members) = e ∧
      ErrorObject.shape (.obj members) = .ok e.withoutNull :=
  ⟨h.lenient, ErrorObject.shape_eq_ok_iff.mpr ⟨e, h, rfl⟩⟩

/-- **The two readers agree.** The strict reader takes the objects with a code of 64 bits and a text for a
message, and what it reads is what the lenient one reads without data that are null. An error that was
written is read leniently as it is and strictly without such data, also when its members were put in order.
Of any other object the lenient reader keeps each member that has its type. -/
theorem readers_agree :
    (∀ members : Members, (∃ e, ErrorObject.shape (.obj members) = .ok e) ↔
      (∃ n, members.lookup "code" = some (.int n) ∧ IsSigned n) ∧
        ∃ s, members.lookup "message" = some (.str s)) ∧
      (∀ (members : Members) (e : ErrorObject), ErrorObject.shape (.obj members) = .ok e →
        e = (ErrorObject.lenient (.obj members)).withoutNull) ∧
      (∀ e : ErrorObject, IsSigned e.code →
        ErrorObject.lenient e.toJson = e ∧ ErrorObject.shape e.toJson = .ok e.withoutNull) ∧
      (∀ e : ErrorObject, IsSigned e.code → (∀ v ∈ e.data, v.WellFormed) →
        ErrorObject.lenient e.toJson.normalize = e ∧
          ErrorObject.shape e.toJson.normalize = .ok e.withoutNull) ∧
      ∀ members : Members, Keeps members (.lenient (.obj members)) := by
  refine ⟨fun members => ?_, ?_, ?_, ?_, keeps_lenient⟩
  · constructor
    · rintro ⟨e, he⟩
      obtain ⟨e', h, -⟩ := ErrorObject.shape_eq_ok_iff.mp he
      exact ⟨⟨_, h.code⟩, _, h.message⟩
    · rintro ⟨⟨n, hn⟩, s, hs⟩
      have h : Holds members ⟨n, s, members.lookup "data"⟩ := ⟨hn, hs, rfl⟩
      exact ⟨_, h.readers.2⟩
  · intro members e he
    obtain ⟨e', h, rfl⟩ := ErrorObject.shape_eq_ok_iff.mp he
    rw [h.lenient]
  · intro e hcode
    obtain ⟨members, hobj, h⟩ := holds_toJson hcode
    rw [hobj]
    exact h.readers
  · intro e hcode hdata
    obtain ⟨members, hobj, h⟩ := holds_normalize hcode hdata
    rw [hobj]
    exact h.readers

theorem readers_agree_null :
    let members : Members := [("message", .str "m"), ("data", .null), ("code", .int 5)]
    let e : ErrorObject := { code := 5, message := "m", data := some .null }
    ErrorObject.shape (.obj members) = .ok { code := 5, message := "m" } ∧
      { code := 5, message := "m" } = (ErrorObject.lenient (.obj members)).withoutNull ∧
      ErrorObject.lenient e.toJson.normalize = e ∧
      ErrorObject.shape e.toJson.normalize = .ok { code := 5, message := "m" } := by
  intro members e
  have hshape : ErrorObject.shape (.obj members) = .ok { code := 5, message := "m" } := rfl
  have hdata : ∀ v ∈ e.data, v.WellFormed := by
    rintro v ⟨rfl⟩
    trivial
  obtain ⟨hlenient, hstrict⟩ := readers_agree.2.2.2.1 e (by decide) hdata
  exact ⟨hshape, readers_agree.2.1 members _ hshape, hlenient, hstrict⟩

end Message
end EditorLink
