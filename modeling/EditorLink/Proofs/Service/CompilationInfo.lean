import EditorLink.Proofs.Service.Params

/-!
# EditorLink — answers about how a document is compiled

The service asks the editor how a document is compiled, and the editor may answer with any value. Which of these
values tell how, which tell that nothing is known, and which tell nothing at all is said here as a grammar of
values, apart from the readers: a record stands as an object or as an array of its fields, and in either form the
information may be null; in an object it may also be left out. Members that are not declared do not matter.

Whatever is none of these is a failure of the question, as are an error in place of an answer and no answer at
all, and is worded as the answer's failure. The wording goes on with the reason that the reader gives, which is its
own: it names the first field that it missed, and where.

A key that stands twice is not excluded. Look-ups find the first member under a key, and values that come from a frame
were put in order before, so that no key stands twice in them.

## Results

* `GivesInfo`, `GivesAnswer` — values that tell how a file is compiled, and values that answer the question;
* `CompilationInfo.shape_eq_ok_iff`, `CompilationInfoResult.shape_eq_ok_iff` — these are the values that are read;
* `readInfo_of_answer`, `readInfo_of_no_answer` — what the service makes of an answer, and of anything else.
-/

namespace EditorLink.Service

open Json (Members Optionally Shape ShapeFault)
open Json.Shape (bind_eq_ok_iff)

-- ---------------------------------------------------------------------------
-- Values that answer
-- ---------------------------------------------------------------------------

/-- The values that tell how a file is compiled. -/
inductive GivesInfo : Json → CompilationInfo → Prop
  | object {members : Members} {info : CompilationInfo}
    (hfile : members.lookup "file" = some (.str info.file))
    (hcommand : members.lookup "command" = some (.str info.command))
    (hdirectory : members.lookup "directory" = some (.str info.directory)) : GivesInfo (.obj members) info
  | array (info : CompilationInfo) :
    GivesInfo (.arr [.str info.file, .str info.command, .str info.directory]) info

/-- The values that answer the question how a document is compiled; there may be nothing to tell. -/
inductive GivesAnswer : Json → Option CompilationInfo → Prop
  | object {members : Members} {info? : Option CompilationInfo}
    (h : Optionally GivesInfo (members.lookup "compilationInfo") info?) : GivesAnswer (.obj members) info?
  | array {v : Json} {info? : Option CompilationInfo} (h : Optionally GivesInfo (some v) info?) :
    GivesAnswer (.arr [v]) info?

-- ---------------------------------------------------------------------------
-- How a file is compiled
-- ---------------------------------------------------------------------------

namespace CompilationInfo

variable {info : CompilationInfo}

/-- From an object the information is read if its three members are texts. -/
theorem ofMembers_eq_ok_iff {members : Members} :
    ofMembers members = .ok info ↔ GivesInfo (.obj members) info := by
  rw [ofMembers]
  simp only [bind_eq_ok_iff]
  -- the members are looked at in another order than the missing ones are reported in
  constructor
  · rintro ⟨command?, hcommand?, directory?, hdirectory?, file?, hfile?, file, hfile, command, hcommand,
      directory, hdirectory, ⟨⟩⟩
    exact .object (Shape.exists_required_text_iff.mp ⟨file?, hfile?, hfile⟩)
      (Shape.exists_required_text_iff.mp ⟨command?, hcommand?, hcommand⟩)
      (Shape.exists_required_text_iff.mp ⟨directory?, hdirectory?, hdirectory⟩)
  · rintro (⟨hfile, hcommand, hdirectory⟩)
    obtain ⟨file?, hfile?, hfile⟩ := Shape.exists_required_text_iff.mpr hfile
    obtain ⟨command?, hcommand?, hcommand⟩ := Shape.exists_required_text_iff.mpr hcommand
    obtain ⟨directory?, hdirectory?, hdirectory⟩ := Shape.exists_required_text_iff.mpr hdirectory
    exact ⟨command?, hcommand?, directory?, hdirectory?, file?, hfile?, _, hfile, _, hcommand, _, hdirectory,
      rfl⟩

/-- From an array it is read if that holds three texts. -/
theorem ofItems_eq_ok_iff {items : List Json} :
    ofItems items = .ok info ↔ GivesInfo (.arr items) info := by
  rw [ofItems]
  simp only [bind_eq_ok_iff, Shape.item_eq_ok_iff, Shape.complete_eq_ok_iff, Shape.text_eq_ok_iff]
  constructor
  · rintro ⟨file, ⟨_, hfirst, rfl⟩, command, ⟨_, hsecond, rfl⟩, directory, ⟨_, hthird, rfl⟩, hlength, rfl⟩
    match items with
    | [_, _, _] =>
      cases hfirst
      cases hsecond
      cases hthird
      exact .array ⟨file, command, directory⟩
    | [] => cases hfirst
    | [_] => cases hsecond
    | [_, _] => cases hthird
    | _ :: _ :: _ :: _ :: _ =>
      simp only [List.length_cons] at hlength
      omega
  · rintro (_ | _)
    exact ⟨_, ⟨_, rfl, rfl⟩, _, ⟨_, rfl, rfl⟩, _, ⟨_, rfl, rfl⟩, Nat.le_refl 3, rfl⟩

/-- **How a file is compiled** is read from the values that tell it, and from no others. -/
theorem shape_eq_ok_iff {v : Json} : shape v = .ok info ↔ GivesInfo v info := by
  cases v with
  | obj members => exact ofMembers_eq_ok_iff
  | arr items => exact ofItems_eq_ok_iff
  | null | bool | int | double | str => exact ⟨nofun, nofun⟩

end CompilationInfo

/-- The same, in the form in which readers of optional parts take it. -/
theorem givesInfo_iff (v : Json) (info : CompilationInfo) :
    CompilationInfo.shape v = .ok info ↔ GivesInfo v info := CompilationInfo.shape_eq_ok_iff

/-- Null is no information, so that it can stand for none. -/
theorem not_givesInfo_null (info : CompilationInfo) : ¬ GivesInfo .null info := nofun

-- ---------------------------------------------------------------------------
-- The answer
-- ---------------------------------------------------------------------------

namespace CompilationInfoResult

variable {info? : Option CompilationInfo}

/-- From an object the answer is read if its member is absent, null, or tells how a file is compiled. -/
theorem ofMembers_eq_ok_iff {members : Members} :
    ofMembers members = .ok ⟨info?⟩ ↔ GivesAnswer (.obj members) info? := by
  rw [ofMembers]
  simp only [bind_eq_ok_iff]
  constructor
  · rintro ⟨info, hinfo, ⟨⟩⟩
    exact .object ((Shape.exists_optional_iff givesInfo_iff not_givesInfo_null).mp ⟨info, hinfo, rfl⟩)
  · rintro (⟨h⟩)
    obtain ⟨info, hinfo, rfl⟩ := (Shape.exists_optional_iff givesInfo_iff not_givesInfo_null).mpr h
    exact ⟨info, hinfo, rfl⟩

/-- From an array it is read if that holds one item, which is null or tells how a file is compiled. -/
theorem ofItems_eq_ok_iff {items : List Json} :
    ofItems items = .ok ⟨info?⟩ ↔ GivesAnswer (.arr items) info? := by
  rw [ofItems]
  simp only [bind_eq_ok_iff, Shape.item_eq_ok_iff, Shape.complete_eq_ok_iff,
    Shape.optional_eq_ok_iff givesInfo_iff not_givesInfo_null]
  constructor
  · rintro ⟨info, ⟨v, hfirst, hinfo⟩, hlength, ⟨⟩⟩
    match items with
    | [_] =>
      cases hfirst
      exact .array hinfo
    | [] => cases hfirst
    | _ :: _ :: _ =>
      simp only [List.length_cons] at hlength
      omega
  · rintro (_ | hinfo)
    exact ⟨info?, ⟨_, rfl, hinfo⟩, Nat.le_refl 1, rfl⟩

/-- **An answer** is read from the values that give one, and from no others. -/
theorem shape_eq_ok_iff {v : Json} : shape v = .ok ⟨info?⟩ ↔ GivesAnswer v info? := by
  cases v with
  | obj members => exact ofMembers_eq_ok_iff
  | arr items => exact ofItems_eq_ok_iff
  | null | bool | int | double | str => exact ⟨nofun, nofun⟩

end CompilationInfoResult

/-- The service takes an answer as it is read. -/
theorem readInfo_of_answer {v : Json} {info? : Option CompilationInfo} (h : GivesAnswer v info?) :
    readInfo v = .ok ⟨info?⟩ := by
  rw [readInfo, CompilationInfoResult.shape_eq_ok_iff.mpr h]
  rfl

/-- **What is no answer** is a failure, in the words of the reader. -/
theorem readInfo_of_no_answer {v : Json} (h : ∀ info?, ¬ GivesAnswer v info?) :
    ∃ fault, CompilationInfoResult.shape v = .error fault ∧
      readInfo v = .error (.unreadableResult (.misshapen fault none)) := by
  cases hshape : CompilationInfoResult.shape v with
  | error fault =>
    refine ⟨fault, rfl, ?_⟩
    rw [readInfo, hshape]
    rfl
  | ok result => exact absurd (CompilationInfoResult.shape_eq_ok_iff.mp hshape) (h result.compilationInfo)

end EditorLink.Service
