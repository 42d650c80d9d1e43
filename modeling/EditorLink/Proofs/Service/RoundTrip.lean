import EditorLink.Proofs.Service.Params

/-!
# EditorLink — payloads that come back

What the service writes is read back as it was. The members of an object come in key order then, and others may
be among them; a field that was left out because there was nothing to write comes back as nothing.

Five payloads are written: a message for the user or the log, and the four records of an answer to `initialize`, one
within the other. Each has a writer and a reader of its own, which is why each has its own lemma; what they have in
common is said once by `ComesBack`, for a writer, a reader and the keys that the reader looks at.

Added members may stand anywhere, may have any value, and may have any key that the reader does not look at. On the way
all members are put in key order, since that is how a frame is read.

## Results

* `ComesBack` — payloads that are read back as they were written, whatever members are added;
* `MessageParams.comesBack`, `CompletionOptions.comesBack`, `ServerCapabilities.comesBack`,
  `ServerInfo.comesBack`, `InitializeResult.comesBack` — one for each payload, the inner ones first;
* `payloads_come_back` — all of them.
-/

namespace EditorLink

open Json (Extends Members Shape)
open Message (ErrorObject)

namespace Json

/-- Texts in a list have no members to put in order. -/
theorem normalizeItems_map_str (texts : List String) :
    normalizeItems (texts.map .str) = texts.map .str := by
  induction texts with
  | nil => rfl
  | cons s rest ih => rw [List.map_cons, normalizeItems, ih, normalize.eq_def]

end Json

namespace Service

-- ---------------------------------------------------------------------------
-- Payloads that come back
-- ---------------------------------------------------------------------------

/-- What is written comes back, with its members in order and any others of foreign keys among them. -/
def ComesBack {α : Type} (keys : List String) (toJson : α → Json) (shape : Shape α) : Prop :=
  ∀ a, ∃ members, toJson a = .obj members ∧ ∀ more, Extends keys members more →
    ErrorObject.readParams shape (Json.normalize (.obj more)) = .ok a

section ComesBack

variable {α : Type} {keys : List String} {toJson : α → Json}

/-- A record comes back if it is read from whatever members hold its own. -/
theorem comesBack_record {name : String} {ofMembers : Members → Except Json.ShapeFault α}
    {ofItems : List Json → Except Json.ShapeFault α}
    (h : ∀ a, ∃ members, toJson a = .obj members ∧ ∀ found : Members,
      (∀ key ∈ keys, found.lookup key = (members.reverse.lookup key).map Json.normalize) →
        ofMembers found = .ok a) :
    ComesBack keys toJson (Shape.record name ofMembers ofItems) := by
  intro a
  obtain ⟨members, hobject, hread⟩ := h a
  refine ⟨members, hobject, fun more hmore => readParams_eq_ok_iff.mpr ?_⟩
  rw [Json.normalize]
  exact hread _ fun key hkey => hmore.lookup_normalize hkey

/-- A payload without added members comes back when it was put in order. -/
theorem ComesBack.shape_normalize {shape : Shape α} (h : ComesBack keys toJson shape) (a : α) :
    shape (toJson a).normalize = .ok a := by
  obtain ⟨members, hobject, hmore⟩ := h a
  rw [hobject]
  exact readParams_eq_ok_iff.mp (hmore members (.refl keys members))

end ComesBack

-- ---------------------------------------------------------------------------
-- The payloads
-- ---------------------------------------------------------------------------

/-- Each of the five kinds is a number. -/
theorem MessageType.shape_toJson (kind : MessageType) : shape kind.toJson = .ok kind := by
  cases kind <;> rfl

/-- **A message** for the user or the log. -/
theorem MessageParams.comesBack : ComesBack ["type", "message"] toJson shape := by
  refine comesBack_record fun m => ⟨_, rfl, fun found h => ?_⟩
  have hkind : found.lookup "type" = some m.kind.toJson := h _ (by simp)
  have hmessage : found.lookup "message" = some (.str m.message) := h _ (by simp)
  rw [ofMembers, Shape.member?_text_of_lookup hmessage,
    Shape.member?_of_lookup hkind (MessageType.shape_toJson m.kind)]
  rfl

/-- **What completion can do**, where texts may be left out. -/
theorem CompletionOptions.comesBack :
    ComesBack ["resolveProvider", "triggerCharacters"] toJson shape := by
  refine comesBack_record fun o => ⟨_, rfl, fun found h => ?_⟩
  have hresolve : found.lookup "resolveProvider" = some (.bool o.resolveProvider) := h _ (by simp)
  have htrigger : found.lookup "triggerCharacters" = some (.arr (o.triggerCharacters.map .str)) := by
    rw [← Json.normalizeItems_map_str, ← Json.normalize]
    exact h _ (by simp)
  rw [ofMembers, Shape.member?_boolean_of_lookup hresolve,
    Shape.member?_of_lookup htrigger (Shape.listOf_text_map o.triggerCharacters)]
  rfl

/-- **What the service can do**, with the options of completion in it. -/
theorem ServerCapabilities.comesBack :
    ComesBack ["completionProvider", "referencesProvider", "definitionProvider", "workspaceSymbolProvider"]
      toJson shape := by
  refine comesBack_record fun c => ⟨_, rfl, fun found h => ?_⟩
  obtain ⟨completion?, references, definition, workspaceSymbol⟩ := c
  have hcompletion : found.lookup "completionProvider" =
      completion?.map fun o => o.toJson.normalize := by
    refine (h _ (by simp)).trans ?_
    cases completion? <;> rfl
  have hreferences : found.lookup "referencesProvider" = some (.bool references) := by
    refine (h _ (by simp)).trans ?_
    cases completion? <;> rfl
  have hdefinition : found.lookup "definitionProvider" = some (.bool definition) := by
    refine (h _ (by simp)).trans ?_
    cases completion? <;> rfl
  have hworkspaceSymbol : found.lookup "workspaceSymbolProvider" = some (.bool workspaceSymbol) := by
    refine (h _ (by simp)).trans ?_
    cases completion? <;> rfl
  rw [ofMembers, Shape.member?_optional_of_lookup hcompletion CompletionOptions.comesBack.shape_normalize,
    Shape.member?_boolean_of_lookup hdefinition, Shape.member?_boolean_of_lookup hreferences,
    Shape.member?_boolean_of_lookup hworkspaceSymbol]
  · cases completion? <;> rfl
  · intro o
    rw [CompletionOptions.toJson, Json.normalize]
    nofun

/-- **Who the service is**; its version may be left out. -/
theorem ServerInfo.comesBack : ComesBack ["name", "version"] toJson shape := by
  refine comesBack_record fun i => ⟨_, rfl, fun found h => ?_⟩
  obtain ⟨name, version?⟩ := i
  have hname : found.lookup "name" = some (.str name) := by
    refine (h _ (by simp)).trans ?_
    cases version? <;> rfl
  have hversion : found.lookup "version" = version?.map Json.str := by
    refine (h _ (by simp)).trans ?_
    cases version? <;> rfl
  rw [ofMembers, Shape.member?_text_of_lookup hname,
    Shape.member?_optional_of_lookup hversion (fun s => rfl) nofun]
  cases version? <;> rfl

/-- **The answer to `initialize`**, with two records in it. -/
theorem InitializeResult.comesBack : ComesBack ["capabilities", "serverInfo"] toJson shape := by
  refine comesBack_record fun r => ⟨_, rfl, fun found h => ?_⟩
  obtain ⟨capabilities, info?⟩ := r
  have hcapabilities : found.lookup "capabilities" = some capabilities.toJson.normalize := by
    refine (h _ (by simp)).trans ?_
    cases info? <;> rfl
  have hinfo : found.lookup "serverInfo" = info?.map fun i => i.toJson.normalize := by
    refine (h _ (by simp)).trans ?_
    cases info? <;> rfl
  rw [ofMembers,
    Shape.member?_of_lookup hcapabilities (ServerCapabilities.comesBack.shape_normalize capabilities),
    Shape.member?_optional_of_lookup hinfo ServerInfo.comesBack.shape_normalize]
  · cases info? <;> rfl
  · intro i
    rw [ServerInfo.toJson, Json.normalize]
    nofun

/-- **Payloads come back** as they were written: every field with its value, those that were left out as
nothing, and members that are not declared are passed over. -/
theorem payloads_come_back :
    ComesBack ["type", "message"] MessageParams.toJson MessageParams.shape ∧
      ComesBack ["resolveProvider", "triggerCharacters"] CompletionOptions.toJson CompletionOptions.shape ∧
      ComesBack ["completionProvider", "referencesProvider", "definitionProvider", "workspaceSymbolProvider"]
        ServerCapabilities.toJson ServerCapabilities.shape ∧
      ComesBack ["name", "version"] ServerInfo.toJson ServerInfo.shape ∧
      ComesBack ["capabilities", "serverInfo"] InitializeResult.toJson InitializeResult.shape :=
  ⟨MessageParams.comesBack, CompletionOptions.comesBack, ServerCapabilities.comesBack, ServerInfo.comesBack,
    InitializeResult.comesBack⟩

/-- The answer to `initialize` of a server without a version, with a member before it and one behind it. -/
theorem payloads_come_back_unversioned :
    let r : InitializeResult :=
      { capabilities := capabilities.capabilities, serverInfo := some { name := "cls", version := none } }
    let more : Members := [("trace", .str "off"), ("capabilities", r.capabilities.toJson),
      ("serverInfo", .obj [("name", .str "cls")]), ("Capabilities", .null)]
    Extends ["capabilities", "serverInfo"] ((more.drop 1).take 2) more ∧
      ErrorObject.readParams InitializeResult.shape (Json.normalize (.obj more)) = .ok r := by
  intro r more
  have hextends : Extends ["capabilities", "serverInfo"] ((more.drop 1).take 2) more :=
    .foreign _ (by decide) (.own _ (.own _ (.foreign _ (by decide) .nil)))
  obtain ⟨members, hobject, hmore⟩ := payloads_come_back.2.2.2.2 r
  have hmembers : members = (more.drop 1).take 2 := (Json.obj.inj hobject).symm
  exact ⟨hextends, hmore more (hmembers ▸ hextends)⟩

end Service
end EditorLink
