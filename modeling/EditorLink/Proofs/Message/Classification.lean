import EditorLink.Proofs.Message.CallAndAnswer

/-!
# EditorLink — what kind of message a value is

The kinds of messages, told apart by what a value holds and not by the order in which its members are looked
at: every value is of exactly one kind or malformed, and only five of its members matter.

A response is an object with a result or an error, whatever else is in it and whether or not it has an id. What is no
response has a method that is a text; it is a request if there is an id that identifies something, and a notification
if there is no id at all. An id that is null, or of any other kind than a text or a number of 64 bits, makes it
malformed, and so does a method that is missing or no text.

A malformed value is answered if the one who sent it can be told: `Owes` is the id for that answer, which is there
exactly if the value is an object whose id identifies something. Params are passed on as they stand, and null if there
are none.

`Means` and `Owes` do not mention the classifier. That it agrees with them is an equivalence for all values and all
results, from which uniqueness and totality follow.

## Results

* `Identifies` — values that are ids;
* `IsResponse`, `IsRequest`, `IsNotification`, `Flaw` — the kinds, and what is wrong with a value of none;
* `Means` — the message that a value is, or how it is malformed;
* `classify_of_means`, `means_classify` — a value is classified as what it means;
* `classify_exact` — for all values, and the other members never matter.
-/

namespace EditorLink.Message

open Json (Members)

-- ---------------------------------------------------------------------------
-- The kinds of messages
-- ---------------------------------------------------------------------------

/-- The id that a value stands for: a text, or an integer of 64 bits with a sign. -/
inductive Identifies : Json → RequestId → Prop
  | text (s : String) : Identifies (.str s) (.text s)
  | number {n : Int} (h : IsSigned n) : Identifies (.int n) (.number n)

/-- A result or an error makes a response, whatever else is there. -/
def IsResponse (v : Json) : Prop :=
  (∃ result, v.get? "result" = some result) ∨ ∃ error, v.get? "error" = some error

def IsRequest (v : Json) : Prop :=
  ∃ raw id method, v.get? "id" = some raw ∧ Identifies raw id ∧ v.get? "method" = some (.str method)

def IsNotification (v : Json) : Prop :=
  v.get? "id" = none ∧ ∃ method, v.get? "method" = some (.str method)

/-- The id with which a malformed value is answered: the one that it has, if it has one. -/
def Owes (v : Json) (id : Option RequestId) : Prop :=
  ∀ i, id = some i ↔ ∃ raw, v.get? "id" = some raw ∧ Identifies raw i

/-- What is wrong with a value that is no message. The id is looked at before the method. -/
inductive Flaw : Json → MessageFault → Prop
  | notAnObject {v : Json} (h : ∀ members, v ≠ .obj members) : Flaw v .notAnObject
  | invalidId {members : Members} {raw : Json} (hraw : members.lookup "id" = some raw)
    (hid : ∀ id, ¬ Identifies raw id) : Flaw (.obj members) .invalidId
  | methodNotString {members : Members} {method : Json}
    (hid : ∀ raw, members.lookup "id" = some raw → ∃ id, Identifies raw id)
    (hmethod : members.lookup "method" = some method) (hstring : ∀ s, method ≠ .str s) :
    Flaw (.obj members) .methodNotString
  | unclassifiable {members : Members}
    (hid : ∀ raw, members.lookup "id" = some raw → ∃ id, Identifies raw id)
    (hmethod : members.lookup "method" = none) : Flaw (.obj members) .unclassifiable

/-- The message that a value is, with its payloads as they stand in the value, or how it is malformed. -/
inductive Means (v : Json) : Except Malformed Incoming → Prop
  | success {result : Json} (hresult : v.get? "result" = some result) :
    Means v (.ok (.response ((v.get? "id").getD .null) (.ok result)))
  | failure {error : Json} (hresult : v.get? "result" = none) (herror : v.get? "error" = some error) :
    Means v (.ok (.response ((v.get? "id").getD .null) (.error (.lenient error))))
  | request {raw : Json} {id : RequestId} {method : String} (hresponse : ¬ IsResponse v)
    (hraw : v.get? "id" = some raw) (hid : Identifies raw id)
    (hmethod : v.get? "method" = some (.str method)) :
    Means v (.ok (.request id method ((v.get? "params").getD .null)))
  | notification {method : String} (hresponse : ¬ IsResponse v) (hid : v.get? "id" = none)
    (hmethod : v.get? "method" = some (.str method)) :
    Means v (.ok (.notification method ((v.get? "params").getD .null)))
  | malformed {id : Option RequestId} {fault : MessageFault} (hresponse : ¬ IsResponse v)
    (hrequest : ¬ IsRequest v) (hnotification : ¬ IsNotification v) (hid : Owes v id)
    (hflaw : Flaw v fault) : Means v (.error ⟨id, fault⟩)

-- ---------------------------------------------------------------------------
-- Ids
-- ---------------------------------------------------------------------------

/-- The ids of the grammar are those that are read. -/
theorem identifies_iff {raw : Json} {id : RequestId} :
    Identifies raw id ↔ RequestId.ofJson? raw = some id := by
  constructor
  · rintro (_ | h)
    · rfl
    · exact h.ofJson?
  · intro h
    cases raw with
    | str s =>
      cases h
      exact .text s
    | int n =>
      rw [RequestId.ofJson?, Json.signed?] at h
      · split at h
        · rename_i hn
          cases h
          exact .number hn
        · cases h
      · nofun
    | null => cases h
    | bool b => cases h
    | double d => cases h
    | arr items => cases h
    | obj members => cases h

/-- The id for an answer is the one that is read, if it is one. -/
theorem owes_iff {v : Json} {id : Option RequestId} :
    Owes v id ↔ (v.get? "id").bind RequestId.ofJson? = id := by
  simp only [Owes, identifies_iff, ← Option.bind_eq_some_iff]
  exact ⟨fun h => Option.ext fun i => (h i).symm, fun h i => by rw [h]⟩

/-- There is one id for an answer, or none. -/
theorem Owes.unique {v : Json} {id id' : Option RequestId} (h : Owes v id) (h' : Owes v id') :
    id = id' :=
  Option.ext fun i => (h i).trans (h' i).symm

/-- Without an id that identifies something nobody is owed an answer. -/
theorem owes_none {v : Json} (h : ∀ raw, v.get? "id" = some raw → ∀ i, ¬ Identifies raw i) :
    Owes v none := by
  intro i
  constructor
  · exact nofun
  · rintro ⟨raw, hraw, hi⟩
    exact absurd hi (h raw hraw i)

-- ---------------------------------------------------------------------------
-- How a value is classified
-- ---------------------------------------------------------------------------

section Means

variable {v : Json} {members : Members} {id : Option RequestId}

theorem exists_members {key : String} {x : Json} (h : v.get? key = some x) :
    ∃ members, v = .obj members := by
  unfold Json.get? at h
  split at h
  · exact ⟨_, rfl⟩
  · cases h

theorem get?_of_not_obj (h : ∀ members, v ≠ .obj members) (key : String) : v.get? key = none := by
  refine Option.eq_none_iff_forall_ne_some.mpr fun x hx => ?_
  obtain ⟨members, hobj⟩ := exists_members hx
  exact h members hobj

/-- Nobody can be told that a value is no object. -/
theorem owes_none_of_not_obj (h : ∀ members, v ≠ .obj members) : Owes v none :=
  owes_none fun _ hraw => absurd ((get?_of_not_obj h "id").symm.trans hraw) nofun

/-- An id that identifies nothing is none to answer to. -/
theorem owes_none_of_bad {raw : Json} (hraw : members.lookup "id" = some raw)
    (hid : ∀ i, ¬ Identifies raw i) : Owes (.obj members) none := by
  refine owes_none fun raw' hraw' i hi => ?_
  rw [Option.some.inj (hraw'.symm.trans hraw)] at hi
  exact hid i hi

/-- Without a result and an error a value is no response, and with one of them it is. -/
theorem not_isResponse_iff : ¬ IsResponse (.obj members) ↔
    members.lookup "result" = none ∧ members.lookup "error" = none := by
  rw [IsResponse, not_or, not_exists, not_exists, ← Option.eq_none_iff_forall_ne_some,
    ← Option.eq_none_iff_forall_ne_some]
  rfl

/-- The classifier refuses what is no object. -/
theorem classify_of_not_obj (h : ∀ members, v ≠ .obj members) :
    classify v = .error ⟨none, .notAnObject⟩ := by
  unfold classify
  split
  · exact absurd rfl (h _)
  · rfl

/-- It refuses an id that identifies nothing, before it looks at the method. -/
theorem classify_of_invalidId (hresponse : ¬ IsResponse (.obj members)) {raw : Json}
    (hraw : members.lookup "id" = some raw) (hid : ∀ i, ¬ Identifies raw i) :
    classify (.obj members) = .error ⟨none, .invalidId⟩ := by
  obtain ⟨hresult, herror⟩ := not_isResponse_iff.mp hresponse
  have hnone : RequestId.ofJson? raw = none :=
    Option.eq_none_iff_forall_ne_some.mpr fun i h => hid i (identifies_iff.mpr h)
  rw [classify]
  simp only [hresult, herror, hraw, hnone]

/-- A value without an answer is a call, unless it has an id that is none. -/
theorem classify_of_call (hresponse : ¬ IsResponse (.obj members)) (howes : Owes (.obj members) id)
    (hid : ∀ raw, members.lookup "id" = some raw → ∃ i, Identifies raw i) :
    classify (.obj members) = classifyCall id members := by
  obtain ⟨hresult, herror⟩ := not_isResponse_iff.mp hresponse
  rw [← owes_iff.mp howes, classify]
  simp only [hresult, herror, Json.get?]
  cases hraw : members.lookup "id" with
  | none => rfl
  | some raw =>
    obtain ⟨i, hi⟩ := hid raw hraw
    simp only [Option.bind_some, identifies_iff.mp hi]

/-- **A value is classified** as what it means. -/
theorem classify_of_means {r : Except Malformed Incoming} (h : Means v r) : classify v = r := by
  cases h with
  | success hresult =>
    obtain ⟨members, rfl⟩ := exists_members hresult
    exact classify_of_result _ hresult
  | failure hresult herror =>
    obtain ⟨members, rfl⟩ := exists_members herror
    exact classify_of_error _ hresult herror
  | request hresponse hraw hid hmethod =>
    obtain ⟨members, rfl⟩ := exists_members hmethod
    obtain ⟨hresult, herror⟩ := not_isResponse_iff.mp hresponse
    exact classify_of_request _ _ _ hresult herror hraw (identifies_iff.mp hid) hmethod
  | notification hresponse hid hmethod =>
    obtain ⟨members, rfl⟩ := exists_members hmethod
    obtain ⟨hresult, herror⟩ := not_isResponse_iff.mp hresponse
    exact classify_of_notification _ hresult herror hid hmethod
  | @malformed id fault hresponse hrequest hnotification howes hflaw =>
    cases hflaw with
    | notAnObject hobj =>
      rw [classify_of_not_obj hobj, howes.unique (owes_none_of_not_obj hobj)]
    | invalidId hraw hnone =>
      rw [classify_of_invalidId hresponse hraw hnone, howes.unique (owes_none_of_bad hraw hnone)]
    | @methodNotString members method hid hmethod hstring =>
      rw [classify_of_call hresponse howes hid, classifyCall, hmethod]
      split
      · rename_i s hs
        exact absurd (Option.some.inj hs) (hstring s)
      · rfl
      · rename_i h
        cases h
    | @unclassifiable members hid hmethod =>
      rw [classify_of_call hresponse howes hid, classifyCall, hmethod]

/-- A call without a flaw is a request if it has an id, and otherwise a notification. -/
theorem means_classifyCall (hresponse : ¬ IsResponse (.obj members))
    (howes : Owes (.obj members) id)
    (hid : ∀ raw, members.lookup "id" = some raw → ∃ i, Identifies raw i) :
    Means (.obj members) (classifyCall id members) := by
  rw [classifyCall]
  by_cases hcall : ∃ method, members.lookup "method" = some (.str method)
  · obtain ⟨method, hmethod⟩ := hcall
    rw [hmethod]
    cases hraw : members.lookup "id" with
    | none =>
      obtain rfl : none = id := by
        simpa only [Json.get?, hraw, Option.bind_none] using owes_iff.mp howes
      exact .notification hresponse hraw hmethod
    | some raw =>
      obtain ⟨i, hi⟩ := hid raw hraw
      obtain rfl := (howes i).mpr ⟨raw, hraw, hi⟩
      exact .request hresponse hraw hi hmethod
  · have hrequest : ¬ IsRequest (.obj members) := by
      rintro ⟨_, _, method, -, -, hmethod⟩
      exact hcall ⟨method, hmethod⟩
    have hnotification : ¬ IsNotification (.obj members) := fun h => hcall h.2
    split
    · rename_i method hmethod
      exact absurd ⟨method, hmethod⟩ hcall
    · rename_i method hstring hmethod
      exact .malformed hresponse hrequest hnotification howes
        (.methodNotString hid hmethod fun s hs => hstring s hs)
    · rename_i hmethod
      exact .malformed hresponse hrequest hnotification howes (.unclassifiable hid hmethod)

/-- By the grammar what is no object is malformed, and nobody can be told so. -/
theorem means_of_not_obj (h : ∀ members, v ≠ .obj members) :
    Means v (.error ⟨none, .notAnObject⟩) := by
  have hnone : ∀ key x, v.get? key ≠ some x := fun key x hx =>
    absurd ((get?_of_not_obj h key).symm.trans hx) nofun
  refine .malformed ?_ ?_ ?_ (owes_none_of_not_obj h) (.notAnObject h)
  · rintro (⟨_, hresult⟩ | ⟨_, herror⟩)
    · exact hnone _ _ hresult
    · exact hnone _ _ herror
  · rintro ⟨_, _, _, hraw, -⟩
    exact hnone _ _ hraw
  · rintro ⟨-, _, hmethod⟩
    exact hnone _ _ hmethod

theorem means_of_invalidId (hresponse : ¬ IsResponse (.obj members)) {raw : Json}
    (hraw : members.lookup "id" = some raw) (hid : ∀ i, ¬ Identifies raw i) :
    Means (.obj members) (.error ⟨none, .invalidId⟩) := by
  refine .malformed hresponse ?_ ?_ (owes_none_of_bad hraw hid) (.invalidId hraw hid)
  · rintro ⟨raw', i, _, hraw', hi, -⟩
    rw [Option.some.inj (hraw'.symm.trans hraw)] at hi
    exact hid i hi
  · rintro ⟨hmissing, -⟩
    exact absurd (hmissing.symm.trans hraw) nofun

/-- A value means what it is classified as. -/
theorem means_classify (v : Json) : Means v (classify v) := by
  by_cases hobj : ∃ members, v = .obj members
  · obtain ⟨members, rfl⟩ := hobj
    by_cases hresponse : IsResponse (.obj members)
    · cases hresult : members.lookup "result" with
      | some result =>
        rw [classify_of_result result hresult]
        exact .success hresult
      | none =>
        cases herror : members.lookup "error" with
        | some error =>
          rw [classify_of_error error hresult herror]
          exact .failure hresult herror
        | none => exact absurd hresponse (not_isResponse_iff.mpr ⟨hresult, herror⟩)
    · by_cases hid : ∀ raw, members.lookup "id" = some raw → ∃ i, Identifies raw i
      · have howes := owes_iff.mpr (Eq.refl (((Json.obj members).get? "id").bind RequestId.ofJson?))
        rw [classify_of_call hresponse howes hid]
        exact means_classifyCall hresponse howes hid
      · simp only [not_forall, not_exists] at hid
        obtain ⟨raw, hraw, hnone⟩ := hid
        rw [classify_of_invalidId hresponse hraw hnone]
        exact means_of_invalidId hresponse hraw hnone
  · have hnot := not_exists.mp hobj
    rw [classify_of_not_obj hnot]
    exact means_of_not_obj hnot

/-- **A value is classified** as what it means, and as nothing else. -/
theorem classify_eq_iff {r : Except Malformed Incoming} : classify v = r ↔ Means v r := by
  constructor
  · rintro rfl
    exact means_classify v
  · exact classify_of_means

/-- Members under other keys do not matter. -/
theorem classify_congr {members' : Members}
    (h : ∀ key ∈ ["id", "method", "params", "result", "error"],
      members.lookup key = members'.lookup key) :
    classify (.obj members) = classify (.obj members') := by
  simp only [List.forall_mem_cons] at h
  obtain ⟨hid, hmethod, hparams, hresult, herror, -⟩ := h
  simp only [classify, classifyCall, hid, hmethod, hparams, hresult, herror]

end Means

/-- **Classification is exact.** Every value is classified as what it means, and values with the same
members under the keys that are looked at are classified alike. -/
theorem classify_exact :
    (∀ v r, classify v = r ↔ Means v r) ∧
      ∀ members members' : Members,
        (∀ key ∈ ["id", "method", "params", "result", "error"],
          members.lookup key = members'.lookup key) →
        classify (.obj members) = classify (.obj members') :=
  ⟨fun _ _ => classify_eq_iff, fun _ _ h => classify_congr h⟩

theorem classify_exact_extra_member :
    classify (.obj [("jsonrpc", .null), ("id", .int 7), ("method", .str "m")]) =
      .ok (.request (.number 7) "m" .null) := by
  have hrequest : Means (.obj [("method", .str "m"), ("id", .int 7)])
      (.ok (.request (.number 7) "m" .null)) :=
    .request (not_isResponse_iff.mpr ⟨rfl, rfl⟩) rfl (.number (by decide)) rfl
  calc classify (.obj [("jsonrpc", .null), ("id", .int 7), ("method", .str "m")])
      = classify (.obj [("method", .str "m"), ("id", .int 7)]) :=
        classify_exact.2 _ _ (by simp [Json.lookup_cons])
    _ = .ok (.request (.number 7) "m" .null) := (classify_exact.1 _ _).mpr hrequest

end EditorLink.Message
