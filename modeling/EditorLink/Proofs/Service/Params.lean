import EditorLink.Proofs.Message.ErrorReaders
import EditorLink.Service.Lifecycle

/-!
# EditorLink — the params that the service takes

Which values the service takes for the params of `initialize` and of `textDocument/didOpen`, and what it reads
from them. A record stands as an object or as an array of its fields, and so does a record within a record;
everything else is refused as params of the wrong shape.

Fields differ in what may be left out. In an object a field that is optional may be absent or null, and the others have
to be there; capabilities are any value, and null if they are left out. In an array the fields stand in the order in
which they are declared, and only the capabilities may be cut off. A process is named by an integer of 64 bits with a
sign, a version by one of 32; both have to be integers, so that a double with a whole value is refused.

The error for params that are refused has the code -32602 and a text that ends with the reason of the reader. The
reason itself is not specified.

Params are taken as they were read from the frame, with their members in key order and without repetitions. The
theorems do not need this: they are for any value.

## Results

* `IsInt64`, `IsInt32`, `IsText` — values of single fields;
* `GivesInitialize`, `GivesDocument`, `GivesOpened` — values from which a record is read;
* `InitializeParams.shape_eq_ok_iff`, `TextDocument.shape_eq_ok_iff`, `DidOpenParams.shape_eq_ok_iff` —
  these are the values that are taken;
* `refused` — any other value ends in an error that says so;
* `params_grammar` — for all values, and members that are not declared never matter.
-/

namespace EditorLink.Service

open Json (Agree Members Optionally Shape ShapeFault)
open Json.Shape (bind_eq_ok_iff)
open Message (ErrorObject IsSigned)
open Session (Task)

-- ---------------------------------------------------------------------------
-- Values that give something
-- ---------------------------------------------------------------------------

/-- An integer of 64 bits with a sign. -/
def IsInt64 (v : Json) (n : Int) : Prop := v = .int n ∧ IsSigned n

/-- An integer of 32 bits with a sign. -/
def IsInt32 (v : Json) (n : Int) : Prop := v = .int n ∧ -2147483648 ≤ n ∧ n < 2147483648

def IsText (v : Json) (s : String) : Prop := v = .str s

/-- The values from which the params of `initialize` are read. An array may end before the capabilities. -/
inductive GivesInitialize : Json → InitializeParams → Prop
  | object {members : Members} {p : InitializeParams}
    (hprocess : Optionally IsInt64 (members.lookup "processId") p.processId)
    (hroot : Optionally IsText (members.lookup "rootUri") p.rootUri)
    (hcapabilities : p.capabilities = (members.lookup "capabilities").getD .null) :
    GivesInitialize (.obj members) p
  | pair {process root : Json} {p : InitializeParams}
    (hprocess : Optionally IsInt64 (some process) p.processId)
    (hroot : Optionally IsText (some root) p.rootUri) (hcapabilities : p.capabilities = .null) :
    GivesInitialize (.arr [process, root]) p
  | triple {process root : Json} {p : InitializeParams}
    (hprocess : Optionally IsInt64 (some process) p.processId)
    (hroot : Optionally IsText (some root) p.rootUri) :
    GivesInitialize (.arr [process, root, p.capabilities]) p

/-- The values from which a document is read. -/
inductive GivesDocument : Json → TextDocument → Prop
  | object {members : Members} {d : TextDocument} (huri : members.lookup "uri" = some (.str d.uri))
    (hlanguage : members.lookup "languageId" = some (.str d.languageId))
    (hversion : ∃ v, members.lookup "version" = some v ∧ IsInt32 v d.version)
    (htext : members.lookup "text" = some (.str d.text)) : GivesDocument (.obj members) d
  | array {version : Json} {d : TextDocument} (hversion : IsInt32 version d.version) :
    GivesDocument (.arr [.str d.uri, .str d.languageId, version, .str d.text]) d

/-- The values from which the params of `textDocument/didOpen` are read. -/
inductive GivesOpened : Json → DidOpenParams → Prop
  | object {members : Members} {v : Json} {d : TextDocument}
    (hmember : members.lookup "textDocument" = some v) (h : GivesDocument v d) :
    GivesOpened (.obj members) ⟨d⟩
  | array {v : Json} {d : TextDocument} (h : GivesDocument v d) : GivesOpened (.arr [v]) ⟨d⟩

-- ---------------------------------------------------------------------------
-- Fields
-- ---------------------------------------------------------------------------

/-- An integer of 64 bits, for a reader of optional parts. -/
theorem isInt64_iff (v : Json) (n : Int) : Shape.signed64 v = .ok n ↔ IsInt64 v n :=
  Shape.signed64_eq_ok_iff

theorem isInt32_iff (v : Json) (n : Int) : Shape.signed32 v = .ok n ↔ IsInt32 v n := by
  rw [Shape.signed32, Shape.integer_eq_ok_iff, IsInt32]
  refine and_congr_right fun _ => ?_
  omega

theorem isText_iff (v : Json) (s : String) : Shape.text v = .ok s ↔ IsText v s := Shape.text_eq_ok_iff

/-- Null is no integer. -/
theorem not_isInt64_null (n : Int) : ¬ IsInt64 .null n := nofun

theorem not_isText_null (s : String) : ¬ IsText .null s := nofun

-- ---------------------------------------------------------------------------
-- `initialize`
-- ---------------------------------------------------------------------------

namespace InitializeParams

variable {p : InitializeParams}

/-- From an object: any of the members may be left out. -/
theorem ofMembers_eq_ok_iff {members : Members} :
    ofMembers members = .ok p ↔ GivesInitialize (.obj members) p := by
  rw [ofMembers]
  simp only [bind_eq_ok_iff, Shape.member?_any]
  constructor
  · rintro ⟨_, ⟨⟩, process?, hprocess, root?, hroot, ⟨⟩⟩
    exact .object ((Shape.exists_optional_iff isInt64_iff not_isInt64_null).mp ⟨_, hprocess, rfl⟩)
      ((Shape.exists_optional_iff isText_iff not_isText_null).mp ⟨_, hroot, rfl⟩) rfl
  · rintro (⟨hprocess, hroot, hcapabilities⟩)
    obtain ⟨process?, hprocess?, hprocessId⟩ :=
      (Shape.exists_optional_iff isInt64_iff not_isInt64_null).mpr hprocess
    obtain ⟨root?, hroot?, hrootUri⟩ :=
      (Shape.exists_optional_iff isText_iff not_isText_null).mpr hroot
    refine ⟨_, rfl, process?, hprocess?, root?, hroot?, ?_⟩
    rw [hprocessId, hrootUri, ← hcapabilities]
    rfl

/-- From an array: the fields one after the other, the last of which may be cut off. -/
theorem ofItems_eq_ok_iff {items : List Json} :
    ofItems items = .ok p ↔ GivesInitialize (.arr items) p := by
  rw [ofItems]
  simp only [bind_eq_ok_iff, Shape.item_eq_ok_iff, Shape.complete_eq_ok_iff,
    Shape.optional_eq_ok_iff isInt64_iff not_isInt64_null, Shape.optional_eq_ok_iff isText_iff not_isText_null]
  constructor
  · rintro ⟨process?, ⟨process, hfirst, hprocess⟩, root?, ⟨root, hsecond, hroot⟩, capabilities, hthird,
      hlength, rfl⟩
    match items with
    | [_, _] =>
      cases hfirst
      cases hsecond
      cases hthird
      exact .pair hprocess hroot rfl
    | [_, _, _] =>
      cases hfirst
      cases hsecond
      cases hthird
      exact .triple (p := ⟨process?, root?, _⟩) hprocess hroot
    | [] => cases hfirst
    | [_] => cases hsecond
    | _ :: _ :: _ :: _ :: _ =>
      simp only [List.length_cons] at hlength
      omega
  · obtain ⟨process?, root?, capabilities⟩ := p
    rintro (_ | ⟨hprocess, hroot, rfl⟩ | ⟨hprocess, hroot⟩)
    · exact ⟨process?, ⟨_, rfl, hprocess⟩, root?, ⟨_, rfl, hroot⟩, .null, rfl, Nat.le_succ 2, rfl⟩
    · exact ⟨process?, ⟨_, rfl, hprocess⟩, root?, ⟨_, rfl, hroot⟩, capabilities, rfl, Nat.le_refl 3, rfl⟩

/-- **The params of `initialize`** are read from these values, and from no others. -/
theorem shape_eq_ok_iff {v : Json} : shape v = .ok p ↔ GivesInitialize v p := by
  cases v with
  | obj members => exact ofMembers_eq_ok_iff
  | arr items => exact ofItems_eq_ok_iff
  | null | bool | int | double | str => exact ⟨nofun, nofun⟩

/-- Other members do not matter. -/
theorem shape_congr {members members' : Members}
    (h : Agree ["processId", "rootUri", "capabilities"] members members') :
    shape (.obj members) = shape (.obj members') := by
  show ofMembers members = ofMembers members'
  rw [ofMembers, ofMembers, Shape.member?_congr h (by simp), Shape.member?_congr h (by simp),
    Shape.member?_congr h (by simp)]

end InitializeParams

-- ---------------------------------------------------------------------------
-- `textDocument/didOpen`
-- ---------------------------------------------------------------------------

namespace TextDocument

variable {d : TextDocument}

/-- From an object: all four members have to be there. -/
theorem ofMembers_eq_ok_iff {members : Members} :
    ofMembers members = .ok d ↔ GivesDocument (.obj members) d := by
  rw [ofMembers]
  simp only [bind_eq_ok_iff]
  -- the members are looked at in another order than the missing ones are reported in
  constructor
  · rintro ⟨language?, hlanguage?, text?, htext?, uri?, huri?, version?, hversion?, uri, huri, language,
      hlanguage, version, hversion, text, htext, ⟨⟩⟩
    obtain ⟨v, hv, hrange⟩ := Shape.exists_required_iff.mp ⟨version?, hversion?, hversion⟩
    exact .object (Shape.exists_required_text_iff.mp ⟨uri?, huri?, huri⟩)
      (Shape.exists_required_text_iff.mp ⟨language?, hlanguage?, hlanguage⟩)
      ⟨v, hv, (isInt32_iff v version).mp hrange⟩
      (Shape.exists_required_text_iff.mp ⟨text?, htext?, htext⟩)
  · rintro (⟨huri, hlanguage, ⟨v, hv, hversion⟩, htext⟩)
    obtain ⟨uri?, huri?, huri⟩ := Shape.exists_required_text_iff.mpr huri
    obtain ⟨language?, hlanguage?, hlanguage⟩ := Shape.exists_required_text_iff.mpr hlanguage
    obtain ⟨text?, htext?, htext⟩ := Shape.exists_required_text_iff.mpr htext
    obtain ⟨version?, hversion?, hversion⟩ :=
      Shape.exists_required_iff.mpr ⟨v, hv, (isInt32_iff v d.version).mpr hversion⟩
    exact ⟨language?, hlanguage?, text?, htext?, uri?, huri?, version?, hversion?, _, huri, _, hlanguage,
      _, hversion, _, htext, rfl⟩

/-- From an array of four fields. -/
theorem ofItems_eq_ok_iff {items : List Json} :
    ofItems items = .ok d ↔ GivesDocument (.arr items) d := by
  rw [ofItems]
  simp only [bind_eq_ok_iff, Shape.item_eq_ok_iff, Shape.complete_eq_ok_iff, Shape.text_eq_ok_iff, isInt32_iff]
  constructor
  · rintro ⟨uri, ⟨_, hfirst, rfl⟩, language, ⟨_, hsecond, rfl⟩, version, ⟨v, hthird, hversion⟩, text,
      ⟨_, hfourth, rfl⟩, hlength, rfl⟩
    match items with
    | [_, _, _, _] =>
      cases hfirst
      cases hsecond
      cases hthird
      cases hfourth
      exact .array (d := ⟨uri, language, version, text⟩) hversion
    | [] => cases hfirst
    | [_] => cases hsecond
    | [_, _] => cases hthird
    | [_, _, _] => cases hfourth
    | _ :: _ :: _ :: _ :: _ :: _ =>
      simp only [List.length_cons] at hlength
      omega
  · rintro (_ | hversion)
    exact ⟨_, ⟨_, rfl, rfl⟩, _, ⟨_, rfl, rfl⟩, _, ⟨_, rfl, hversion⟩, _, ⟨_, rfl, rfl⟩, Nat.le_refl 4, rfl⟩

/-- **A document** is read from these values, and from no others. -/
theorem shape_eq_ok_iff {v : Json} : shape v = .ok d ↔ GivesDocument v d := by
  cases v with
  | obj members => exact ofMembers_eq_ok_iff
  | arr items => exact ofItems_eq_ok_iff
  | null | bool | int | double | str => exact ⟨nofun, nofun⟩

/-- Other members of a document do not matter. -/
theorem shape_congr {members members' : Members}
    (h : Agree ["uri", "languageId", "version", "text"] members members') :
    shape (.obj members) = shape (.obj members') := by
  show ofMembers members = ofMembers members'
  rw [ofMembers, ofMembers, Shape.member?_congr h (by simp), Shape.member?_congr h (by simp),
    Shape.member?_congr h (by simp), Shape.member?_congr h (by simp)]

end TextDocument

namespace DidOpenParams

variable {p : DidOpenParams}

/-- From an object with a document in it. -/
theorem ofMembers_eq_ok_iff {members : Members} :
    ofMembers members = .ok p ↔ GivesOpened (.obj members) p := by
  rw [ofMembers]
  simp only [bind_eq_ok_iff]
  constructor
  · rintro ⟨document?, hdocument?, document, hdocument, ⟨⟩⟩
    obtain ⟨v, hv, hshape⟩ := Shape.exists_required_iff.mp ⟨document?, hdocument?, hdocument⟩
    exact .object hv (TextDocument.shape_eq_ok_iff.mp hshape)
  · rintro (⟨hv, h⟩)
    obtain ⟨document?, hdocument?, hdocument⟩ :=
      Shape.exists_required_iff.mpr ⟨_, hv, TextDocument.shape_eq_ok_iff.mpr h⟩
    exact ⟨document?, hdocument?, _, hdocument, rfl⟩

/-- From an array that holds a document. -/
theorem ofItems_eq_ok_iff {items : List Json} :
    ofItems items = .ok p ↔ GivesOpened (.arr items) p := by
  rw [ofItems]
  simp only [bind_eq_ok_iff, Shape.item_eq_ok_iff, Shape.complete_eq_ok_iff, TextDocument.shape_eq_ok_iff]
  constructor
  · rintro ⟨document, ⟨v, hfirst, hdocument⟩, hlength, rfl⟩
    match items with
    | [_] =>
      cases hfirst
      exact .array hdocument
    | [] => cases hfirst
    | _ :: _ :: _ =>
      simp only [List.length_cons] at hlength
      omega
  · rintro (_ | hdocument)
    exact ⟨_, ⟨_, rfl, hdocument⟩, Nat.le_refl 1, rfl⟩

/-- **The params of `textDocument/didOpen`** are read from these values, and from no others. -/
theorem shape_eq_ok_iff {v : Json} : shape v = .ok p ↔ GivesOpened v p := by
  cases v with
  | obj members => exact ofMembers_eq_ok_iff
  | arr items => exact ofItems_eq_ok_iff
  | null | bool | int | double | str => exact ⟨nofun, nofun⟩

/-- Members beside the document do not matter. -/
theorem shape_congr {members members' : Members} (h : Agree ["textDocument"] members members') :
    shape (.obj members) = shape (.obj members') := by
  show ofMembers members = ofMembers members'
  rw [ofMembers, ofMembers, Shape.member?_congr h (by simp)]

/-- Of either form the document is all that is looked at. -/
theorem shape_of_document (v : Json) (members : Members) :
    shape (.obj (("textDocument", v) :: members)) = (TextDocument.shape v).map .mk ∧
      shape (.arr [v]) = (TextDocument.shape v).map .mk := by
  have hobject : shape (.obj (("textDocument", v) :: members)) = (do
      let document? ← (TextDocument.shape v).map some
      return ⟨← Shape.required "textDocument" document?⟩) := rfl
  have harray : shape (.arr [v]) = (do
      let document ← TextDocument.shape v
      Shape.complete 1 [v] ⟨document⟩) := rfl
  rw [hobject, harray]
  cases TextDocument.shape v <;> exact ⟨rfl, rfl⟩

end DidOpenParams

-- ---------------------------------------------------------------------------
-- What is taken, and what is refused
-- ---------------------------------------------------------------------------

theorem readParams_eq_ok_iff {α : Type} {shape : Shape α} {v : Json} {a : α} :
    ErrorObject.readParams shape v = .ok a ↔ shape v = .ok a := by
  rw [ErrorObject.readParams]
  cases shape v <;> simp [Except.mapError]

/-- Params from which nothing is read are refused as params of the wrong shape. -/
theorem refused {α : Type} {shape : Shape α} {v : Json} (h : ∀ a, shape v ≠ .ok a) :
    ∃ fault, shape v = .error fault ∧
      ErrorObject.readParams shape v = .error (.invalidParams fault.message) := by
  cases hv : shape v with
  | error fault => exact ⟨fault, rfl, by rw [ErrorObject.readParams, hv]; rfl⟩
  | ok a => exact absurd hv (h a)

/-- Params that are refused end the call before anything is said. -/
theorem initialized_of_error {v : Json} {fault : ShapeFault} (h : InitializeParams.shape v = .error fault) :
    initialized v = .fail { root := .object (.invalidParams fault.message) } := by
  rw [initialized, h]
  rfl

theorem opened_of_error {v : Json} {fault : ShapeFault} (h : DidOpenParams.shape v = .error fault)
    (query : Option String) :
    opened v query = .fail { root := .object (.invalidParams fault.message) } := by
  rw [opened, h]
  rfl

/-- **Params are taken by their grammar.** The service reads params from the values that give them and from no
others; it refuses all others with one code, and that is all that comes of the call. Members that are not
declared matter neither in the params nor in the document. -/
theorem params_grammar :
    (∀ v p, ErrorObject.readParams InitializeParams.shape v = .ok p ↔ GivesInitialize v p) ∧
      (∀ v p, ErrorObject.readParams DidOpenParams.shape v = .ok p ↔ GivesOpened v p) ∧
      (∀ v, (∀ p, ¬ GivesInitialize v p) → ∃ e : ErrorObject, e.code = -32602 ∧
        ErrorObject.readParams InitializeParams.shape v = .error e ∧
          initialized v = .fail { root := .object e }) ∧
      (∀ v, (∀ p, ¬ GivesOpened v p) → ∃ e : ErrorObject, e.code = -32602 ∧
        ErrorObject.readParams DidOpenParams.shape v = .error e ∧
          ∀ query, opened v query = .fail { root := .object e }) ∧
      (∀ members members' : Members, Agree ["processId", "rootUri", "capabilities"] members members' →
        ErrorObject.readParams InitializeParams.shape (.obj members) =
          ErrorObject.readParams InitializeParams.shape (.obj members')) ∧
      (∀ members members' : Members, Agree ["textDocument"] members members' →
        ErrorObject.readParams DidOpenParams.shape (.obj members) =
          ErrorObject.readParams DidOpenParams.shape (.obj members')) ∧
      ∀ members document document' : Members,
        Agree ["uri", "languageId", "version", "text"] document document' →
          ErrorObject.readParams DidOpenParams.shape (.obj (("textDocument", .obj document) :: members)) =
              ErrorObject.readParams DidOpenParams.shape
                (.obj (("textDocument", .obj document') :: members)) ∧
            ErrorObject.readParams DidOpenParams.shape (.arr [.obj document]) =
              ErrorObject.readParams DidOpenParams.shape (.arr [.obj document']) := by
  refine ⟨fun v p => readParams_eq_ok_iff.trans InitializeParams.shape_eq_ok_iff,
    fun v p => readParams_eq_ok_iff.trans DidOpenParams.shape_eq_ok_iff, ?_, ?_, ?_, ?_, ?_⟩
  · intro v hv
    obtain ⟨fault, hshape, hread⟩ :=
      refused fun p hp => hv p (InitializeParams.shape_eq_ok_iff.mp hp)
    exact ⟨_, rfl, hread, initialized_of_error hshape⟩
  · intro v hv
    obtain ⟨fault, hshape, hread⟩ := refused fun p hp => hv p (DidOpenParams.shape_eq_ok_iff.mp hp)
    exact ⟨_, rfl, hread, opened_of_error hshape⟩
  · intro members members' h
    rw [ErrorObject.readParams, ErrorObject.readParams, InitializeParams.shape_congr h]
  · intro members members' h
    rw [ErrorObject.readParams, ErrorObject.readParams, DidOpenParams.shape_congr h]
  · intro members document document' h
    have hdocument := TextDocument.shape_congr h
    obtain ⟨hobject, harray⟩ := DidOpenParams.shape_of_document (.obj document) members
    obtain ⟨hobject', harray'⟩ := DidOpenParams.shape_of_document (.obj document') members
    simp only [ErrorObject.readParams, hobject, harray, hobject', harray', hdocument, and_self]

/-- An array that ends before the root, a version that does not fit 32 bits, and members of other names. -/
theorem params_grammar_misfits :
    let short : Json := .arr [.null]
    let document : Members :=
      [("uri", .str "u"), ("languageId", .str "c"), ("version", .int 2147483648), ("text", .str "t")]
    let members : Members := [("processId", .int 5), ("rootUri", .null)]
    (∀ p, ¬ GivesInitialize short p) ∧
      (∃ e : ErrorObject, e.code = -32602 ∧
        ErrorObject.readParams InitializeParams.shape short = .error e ∧
          initialized short = .fail { root := .object e }) ∧
      (∀ p, ¬ GivesOpened (.arr [.obj document]) p) ∧
      (∃ e : ErrorObject, e.code = -32602 ∧
        ErrorObject.readParams DidOpenParams.shape (.arr [.obj document]) = .error e ∧
          ∀ query, opened (.arr [.obj document]) query = .fail { root := .object e }) ∧
      ErrorObject.readParams InitializeParams.shape (.obj (("trace", .str "off") :: members)) =
        ErrorObject.readParams InitializeParams.shape (.obj members) ∧
      ErrorObject.readParams DidOpenParams.shape
          (.obj [("trace", .str "off"), ("textDocument", .obj document)]) =
        ErrorObject.readParams DidOpenParams.shape (.obj [("textDocument", .obj document)]) ∧
      ErrorObject.readParams DidOpenParams.shape (.arr [.obj (("tabs", .bool true) :: document)]) =
        ErrorObject.readParams DidOpenParams.shape (.arr [.obj document]) := by
  intro short document members
  obtain ⟨-, -, hinitialize, hopened, hmembers, hmembers', hdocument⟩ := params_grammar
  have hshort : ∀ p, ¬ GivesInitialize short p := by
    intro p (h : GivesInitialize (.arr [.null]) p)
    cases h
  have hmisfit : ∀ p, ¬ GivesOpened (.arr [.obj document]) p := by
    intro p h
    have hrefused : DidOpenParams.shape (.arr [.obj document]) = .error (.outOfRange 2147483648 "i32") := rfl
    rw [← DidOpenParams.shape_eq_ok_iff, hrefused] at h
    cases h
  have hagree : Agree ["processId", "rootUri", "capabilities"] (("trace", .str "off") :: members) members := by
    simp [Agree, List.lookup_cons]
  have hagree' : Agree ["textDocument"] [("trace", .str "off"), ("textDocument", .obj document)]
      [("textDocument", .obj document)] := by
    simp [Agree, List.lookup_cons]
  have hinner : Agree ["uri", "languageId", "version", "text"] (("tabs", .bool true) :: document)
      document := by
    simp [Agree, List.lookup_cons]
  exact ⟨hshort, hinitialize short hshort, hmisfit, hopened _ hmisfit, hmembers _ _ hagree,
    hmembers' _ _ hagree', (hdocument [] _ _ hinner).2⟩

end EditorLink.Service
