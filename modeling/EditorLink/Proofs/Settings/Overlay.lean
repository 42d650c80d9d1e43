import EditorLink.Proofs.Toml.Distinct
import EditorLink.Settings

/-!
# EditorLink — settings over their defaults

A document gives some of the settings, and the others keep their defaults. What a document gives for a setting is the
value that stands under its key, in the table of its section. Each setting is read on its own, but a single value that
a setting does not take spoils the whole document.

Three things are said of a document without its reader: what it gives (`Given`, by membership, so that the order of
entries does not show), whether all of that is of the right kinds (`WellTyped`), and which settings it leads to
(`Overlays`, both for the settings that are given and for those that are not). That a key is given once at most is a
fact about documents and is proved in `EditorLink.Proofs.Toml.Distinct`.

There are three kinds of settings: texts, flags, and numbers from zero up to 64 bits. A number with a fraction, or a
negative one, is of no kind that is taken. That the sections of a document are tables is a hypothesis
(`SectionsAreTables`): the reader also takes a list of values for the keys of a section, in their order, of which
`Given` would say nothing.

## Results

* `Key`, `Kind` — the settings, and the values that they take;
* `value` — settings as values of a document, key by key;
* `Given`, `WellTyped`, `Overlays` — what a document gives, whether all of it is taken, and the settings it leads to;
* `setting_eq_some_iff`, `exists_setting` — one setting;
* `ofEntries_eq_some_iff`, `exists_ofEntries` — the settings of a document;
* `loadFound_eq_ok_iff`, `loadFound_of_illTyped`, `loadFound_congr` — the settings of a file.
-/

namespace EditorLink.Settings

open Toml (Entries)

-- ---------------------------------------------------------------------------
-- The settings and their values
-- ---------------------------------------------------------------------------

/-- The settings, one for each key that matters. -/
inductive Key where
  | logLevel
  | maxFrameBytes
  | requestTimeoutMs
  | strictResponses
  | queryCompilationInfo
  | compilationInfoMethod
  | logRequests
  deriving Repr, DecidableEq

/-- The section in which a setting stands. -/
def Key.sectionName : Key → String
  | .logLevel => "log"
  | .maxFrameBytes | .requestTimeoutMs | .strictResponses => "rpc"
  | .queryCompilationInfo | .compilationInfoMethod | .logRequests => "service"

/-- The key under which it stands there. -/
def Key.name : Key → String
  | .logLevel => "level"
  | .maxFrameBytes => "max_frame_bytes"
  | .requestTimeoutMs => "request_timeout_ms"
  | .strictResponses => "strict_responses"
  | .queryCompilationInfo => "query_compilation_info"
  | .compilationInfoMethod => "compilation_info_method"
  | .logRequests => "log_requests"

/-- The kinds of settings. -/
inductive Kind where
  | text
  | flag
  | number
  deriving Repr, DecidableEq

def Key.kind : Key → Kind
  | .logLevel | .compilationInfoMethod => .text
  | .strictResponses | .queryCompilationInfo | .logRequests => .flag
  | .maxFrameBytes | .requestTimeoutMs => .number

/-- The values of a kind: texts, truth values, and integers from zero on. -/
inductive Kind.Suits : Kind → Toml.Value → Prop
  | text (s : String) : Suits .text (.str s)
  | flag (b : Bool) : Suits .flag (.bool b)
  | number (n : Nat) : Suits .number (.int n)

/-- The values that a setting takes: those of its kind, and of the integers only those of 64 bits. -/
def Kind.Takes (kind : Kind) (v : Toml.Value) : Prop :=
  kind.Suits v ∧ ∀ n, v = .int n → n < UInt64.size

/-- A setting as it stands in a document; a limit that is not set does not stand there. -/
def value (s : Settings) : Key → Option Toml.Value
  | .logLevel => some (.str s.logLevel)
  | .maxFrameBytes => some (.int s.maxFrameBytes)
  | .requestTimeoutMs => s.requestTimeoutMs.map fun n : Nat => .int n
  | .strictResponses => some (.bool s.strictResponses)
  | .queryCompilationInfo => some (.bool s.service.queryCompilationInfo)
  | .compilationInfoMethod => some (.str s.service.compilationInfoMethod)
  | .logRequests => some (.bool s.service.logRequests)

-- ---------------------------------------------------------------------------
-- Documents
-- ---------------------------------------------------------------------------

/-- A document gives a value for a setting: its section is a table in which the value stands under its key. -/
def Given (document : Entries) (key : Key) (v : Toml.Value) : Prop :=
  ∃ entries, (key.sectionName, .table entries) ∈ document ∧ (key.name, v) ∈ entries

/-- The sections that are there are tables. -/
def SectionsAreTables (document : Entries) : Prop :=
  ∀ key : Key, ∀ v, (key.sectionName, v) ∈ document → ∃ entries, v = .table entries

/-- All that a document gives for settings is taken. -/
def WellTyped (document : Entries) : Prop := ∀ key v, Given document key v → key.kind.Takes v

/-- Each setting is what the document gives for it, and its default if the document gives nothing. -/
def Overlays (document : Entries) (s : Settings) : Prop :=
  ∀ key, (∀ v, Given document key v → s.value key = some v) ∧
    ((∀ v, ¬ Given document key v) → s.value key = ({} : Settings).value key)

-- ---------------------------------------------------------------------------
-- One setting
-- ---------------------------------------------------------------------------

theorem text?_eq_some_iff {v : Toml.Value} {s : String} : text? v = some s ↔ v = .str s := by
  cases v <;> simp [text?]

theorem flag?_eq_some_iff {v : Toml.Value} {b : Bool} : flag? v = some b ↔ v = .bool b := by
  cases v <;> simp [flag?]

/-- A number is taken if it is not negative and has 64 bits at most. -/
theorem number?_eq_some_iff {v : Toml.Value} {n : Nat} :
    number? v = some n ↔ n < UInt64.size ∧ v = .int n := by
  cases v with
  | int m =>
    rw [number?, Toml.Value.int.injEq]
    split
    · rw [Option.some.injEq]
      omega
    · constructor
      · nofun
      · omega
  | str | float | bool | moment | arr | table => simp [number?]

/-- `type` reads what settings of a kind take, and `form` tells what has been read. -/
structure Reads {α : Type} (kind : Kind) (type : Toml.Value → Option α) (form : α → Option Toml.Value) :
    Prop where
  takes_iff : ∀ {v}, kind.Takes v ↔ ∃ x, type v = some x
  form_eq : ∀ {v x}, type v = some x → form x = some v
  injective : Function.Injective form

/-- The reader of texts takes the values of that kind. -/
theorem reads_text : Reads .text text? fun s => some (.str s) where
  takes_iff {v} := by
    simp only [text?_eq_some_iff]
    constructor
    · rintro ⟨hsuits, -⟩
      cases hsuits with
      | text s => exact ⟨s, rfl⟩
    · rintro ⟨s, rfl⟩
      exact ⟨.text s, nofun⟩
  form_eq h := congrArg some (text?_eq_some_iff.mp h).symm
  injective s t h := Toml.Value.str.inj (Option.some.inj h)

theorem reads_flag : Reads .flag flag? fun b => some (.bool b) where
  takes_iff {v} := by
    simp only [flag?_eq_some_iff]
    constructor
    · rintro ⟨hsuits, -⟩
      cases hsuits with
      | flag b => exact ⟨b, rfl⟩
    · rintro ⟨b, rfl⟩
      exact ⟨.flag b, nofun⟩
  form_eq h := congrArg some (flag?_eq_some_iff.mp h).symm
  injective b c h := Toml.Value.bool.inj (Option.some.inj h)

theorem reads_number : Reads .number number? fun n => some (.int n) where
  takes_iff {v} := by
    simp only [number?_eq_some_iff]
    constructor
    · rintro ⟨hsuits, hsmall⟩
      cases hsuits with
      | number n =>
        have hn := hsmall n rfl
        exact ⟨n, by omega, rfl⟩
    · rintro ⟨n, hn, rfl⟩
      refine ⟨.number n, fun m hm => ?_⟩
      cases hm
      omega
  form_eq h := congrArg some (number?_eq_some_iff.mp h).2.symm
  injective m n h := Int.ofNat.inj (Toml.Value.int.inj (Option.some.inj h))

/-- A setting that need not be set is read as one that is. -/
theorem Reads.map_some {α : Type} {kind : Kind} {type : Toml.Value → Option α} {form : α → Toml.Value}
    (h : Reads kind type fun x => some (form x)) :
    Reads kind (fun v => (type v).map some) (Option.map form) where
  takes_iff := by
    intro v
    rw [h.takes_iff]
    constructor
    · rintro ⟨x, hx⟩
      exact ⟨some x, Option.map_eq_some_iff.mpr ⟨x, hx, rfl⟩⟩
    · rintro ⟨_, hread⟩
      obtain ⟨x, hx, -⟩ := Option.map_eq_some_iff.mp hread
      exact ⟨x, hx⟩
  form_eq hread := by
    obtain ⟨x, hx, rfl⟩ := Option.map_eq_some_iff.mp hread
    exact h.form_eq hx
  injective := Option.map_injective fun x y hxy => h.injective (congrArg some hxy)

section
variable {α : Type} {kind : Kind} {type : Toml.Value → Option α} {form : α → Option Toml.Value}
  {entries : Entries} {key : String}

/-- **One setting**: what stands under its key is taken, and is the setting; if nothing stands there, the setting is
its default. -/
theorem setting_eq_some_iff (h : Reads kind type form) {default x : α} :
    setting entries key type default = some x ↔
      (∀ v, entries.lookup key = some v → kind.Takes v) ∧
        form x = (entries.lookup key).or (form default) := by
  rw [setting]
  cases entries.lookup key with
  | none => simp [h.injective.eq_iff, eq_comm]
  | some v =>
    rw [Option.some_or]
    constructor
    · intro hx
      refine ⟨fun w hw => ?_, h.form_eq hx⟩
      cases hw
      exact h.takes_iff.mpr ⟨x, hx⟩
    · rintro ⟨htakes, hform⟩
      -- something is read from a value that is taken, and only one setting has this value
      obtain ⟨y, hy⟩ := h.takes_iff.mp (htakes v rfl)
      rw [← h.injective ((h.form_eq hy).trans hform.symm)]
      exact hy

/-- **One setting** is read if what stands under its key is taken, or nothing stands there. -/
theorem exists_setting (h : Reads kind type form) (default : α)
    (htakes : ∀ v, entries.lookup key = some v → kind.Takes v) :
    ∃ x, setting entries key type default = some x := by
  rw [setting]
  cases hlookup : entries.lookup key with
  | none => exact ⟨default, rfl⟩
  | some v => exact h.takes_iff.mp (htakes v hlookup)

end

-- ---------------------------------------------------------------------------
-- All settings of a document
-- ---------------------------------------------------------------------------

/-- The entries of a section that is a table. -/
def sectionEntries (document : Entries) (name : String) : Entries :=
  match document.lookup name with
  | some (.table entries) => entries
  | _ => []

/-- What is found for a setting. -/
def valueAt? (document : Entries) (key : Key) : Option Toml.Value :=
  (sectionEntries document key.sectionName).lookup key.name

/-- A setting is laid over its default: what is found for it is taken, and is the setting; if nothing is found, the
setting is its default. -/
def Lays (document : Entries) (s : Settings) (key : Key) : Prop :=
  (∀ v, valueAt? document key = some v → key.kind.Takes v) ∧
    s.value key = (valueAt? document key).or (({} : Settings).value key)

section
variable {document : Entries}

/-- The entries of a section are those of its table, and none if it is not there. -/
theorem SectionsAreTables.sectionOf (h : SectionsAreTables document) (key : Key) (keys : List String) :
    sectionOf document key.sectionName keys = some (sectionEntries document key.sectionName) := by
  rw [Settings.sectionOf, sectionEntries]
  cases hlookup : document.lookup key.sectionName with
  | none => rfl
  | some v =>
    obtain ⟨before, after, rfl, -⟩ := List.lookup_eq_some_iff.mp hlookup
    obtain ⟨entries, rfl⟩ := h key v (by simp)
    rfl

/-- **The settings of a document**, key by key. -/
theorem ofEntries_eq_some_iff (h : SectionsAreTables document) {s : Settings} :
    ofEntries document = some s ↔ ∀ key, Lays document s key := by
  have hlog : ∀ keys, Settings.sectionOf document "log" keys = some (sectionEntries document "log") :=
    h.sectionOf .logLevel
  have hrpc : ∀ keys, Settings.sectionOf document "rpc" keys = some (sectionEntries document "rpc") :=
    h.sectionOf .maxFrameBytes
  have hservice : ∀ keys, Settings.sectionOf document "service" keys = some (sectionEntries document "service") :=
    h.sectionOf .logRequests
  rw [ofEntries, hlog, hrpc, hservice]
  -- seven settings in a row, none of which looks at another
  simp only [Option.bind_eq_bind, Option.bind_some, Option.bind_eq_some_iff, setting_eq_some_iff reads_text,
    setting_eq_some_iff reads_number, setting_eq_some_iff reads_number.map_some,
    setting_eq_some_iff reads_flag]
  constructor
  · rintro ⟨level, hlevel, frame, hframe, timeout, htimeout, strict, hstrict, query, hquery, method, hmethod,
      log, hlog, ⟨⟩⟩ key
    cases key <;> assumption
  · intro hlays
    exact ⟨_, hlays .logLevel, _, hlays .maxFrameBytes, _, hlays .requestTimeoutMs, _, hlays .strictResponses, _,
      hlays .queryCompilationInfo, _, hlays .compilationInfoMethod, _, hlays .logRequests, rfl⟩

/-- There are settings as soon as what is found for each of them is taken. -/
theorem exists_ofEntries (h : SectionsAreTables document)
    (htakes : ∀ key v, valueAt? document key = some v → key.kind.Takes v) :
    ∃ s, ofEntries document = some s := by
  obtain ⟨level, hlevel⟩ := exists_setting reads_text _ (htakes .logLevel)
  obtain ⟨frame, hframe⟩ := exists_setting reads_number _ (htakes .maxFrameBytes)
  obtain ⟨timeout, htimeout⟩ := exists_setting reads_number.map_some none (htakes .requestTimeoutMs)
  obtain ⟨strict, hstrict⟩ := exists_setting reads_flag _ (htakes .strictResponses)
  obtain ⟨query, hquery⟩ := exists_setting reads_flag _ (htakes .queryCompilationInfo)
  obtain ⟨method, hmethod⟩ := exists_setting reads_text _ (htakes .compilationInfoMethod)
  obtain ⟨log, hlog⟩ := exists_setting reads_flag _ (htakes .logRequests)
  refine ⟨⟨level, frame, timeout, strict, query, method, log⟩, (ofEntries_eq_some_iff h).mpr fun key => ?_⟩
  cases key with
  | logLevel => exact (setting_eq_some_iff reads_text).mp hlevel
  | maxFrameBytes => exact (setting_eq_some_iff reads_number).mp hframe
  | requestTimeoutMs => exact (setting_eq_some_iff reads_number.map_some).mp htimeout
  | strictResponses => exact (setting_eq_some_iff reads_flag).mp hstrict
  | queryCompilationInfo => exact (setting_eq_some_iff reads_flag).mp hquery
  | compilationInfoMethod => exact (setting_eq_some_iff reads_text).mp hmethod
  | logRequests => exact (setting_eq_some_iff reads_flag).mp hlog

/-- In a document in which no key stands twice, what is found for a setting is what the document gives. -/
theorem given_iff (h : (Toml.Value.table document).Distinct) {key : Key} {v : Toml.Value} :
    Given document key v ↔ valueAt? document key = some v := by
  have hsection : ∀ {w}, document.lookup key.sectionName = some w ↔ (key.sectionName, w) ∈ document :=
    Toml.lookup_eq_some_iff_mem h.keys
  have hinner : ∀ {entries : Entries}, (key.sectionName, .table entries) ∈ document →
      (entries.lookup key.name = some v ↔ (key.name, v) ∈ entries) :=
    fun hmem => Toml.lookup_eq_some_iff_mem (h.values hmem).keys
  rw [valueAt?, sectionEntries]
  constructor
  · rintro ⟨entries, hmem, hentry⟩
    rw [hsection.mpr hmem]
    exact (hinner hmem).mpr hentry
  · intro hfound
    split at hfound
    · rename_i entries hlookup
      have hmem := hsection.mp hlookup
      exact ⟨entries, hmem, (hinner hmem).mp hfound⟩
    · cases hfound

/-- The settings of a document are those that it gives laid over the defaults. -/
theorem lays_iff (h : (Toml.Value.table document).Distinct) {s : Settings} :
    (∀ key, Lays document s key) ↔ WellTyped document ∧ Overlays document s := by
  simp only [WellTyped, Overlays, Lays, given_iff h, forall_and]
  refine and_congr_right fun _ => ?_
  rw [← forall_and]
  refine forall_congr' fun key => ?_
  cases valueAt? document key <;> simp

end

-- ---------------------------------------------------------------------------
-- Files
-- ---------------------------------------------------------------------------

/-- The document that a file holds. -/
def document? (content : Bytes) : Option Entries := (Text.decode? content).bind Toml.read?

section
variable {path : String} {content content' : Bytes} {document document' : Entries}

/-- In a document that is read no key stands twice. -/
theorem document?_distinct (h : document? content = some document) : (Toml.Value.table document).Distinct := by
  obtain ⟨text, -, hread⟩ := Option.bind_eq_some_iff.mp h
  exact Toml.read?_distinct hread

/-- A file with a document is loaded if its settings are. -/
theorem loadFound_of_document (h : document? content = some document) :
    loadFound path (.ok content) = (ofEntries document).elim (.error (.unusable path)) .ok := by
  obtain ⟨text, hdecode, hread⟩ := Option.bind_eq_some_iff.mp h
  simp only [loadFound, hdecode, hread, Option.bind_some]
  cases ofEntries document <;> rfl

/-- What is loaded from it are the settings of the document. -/
theorem loadFound_eq_ok_iff_ofEntries (h : document? content = some document) {s : Settings} :
    loadFound path (.ok content) = .ok s ↔ ofEntries document = some s := by
  rw [loadFound_of_document h]
  cases ofEntries document <;> simp

/-- **The settings of a file**: they are loaded exactly if all that its document gives is taken, and then they are the
defaults with that laid over them. -/
theorem loadFound_eq_ok_iff (h : document? content = some document) (htables : SectionsAreTables document)
    {s : Settings} : loadFound path (.ok content) = .ok s ↔ WellTyped document ∧ Overlays document s := by
  rw [loadFound_eq_ok_iff_ofEntries h, ofEntries_eq_some_iff htables, lays_iff (document?_distinct h)]

/-- **A file** is loaded if all that its document gives is taken. -/
theorem exists_loadFound (h : document? content = some document) (htables : SectionsAreTables document)
    (hwell : WellTyped document) : ∃ s, loadFound path (.ok content) = .ok s := by
  have hdistinct := document?_distinct h
  obtain ⟨s, hs⟩ := exists_ofEntries htables fun key v hv => hwell key v ((given_iff hdistinct).mpr hv)
  exact ⟨s, (loadFound_eq_ok_iff_ofEntries h).mpr hs⟩

/-- One value that is not taken spoils the whole document. -/
theorem loadFound_of_illTyped (h : document? content = some document) (htables : SectionsAreTables document)
    (hill : ¬ WellTyped document) : loadFound path (.ok content) = .error (.unusable path) := by
  rw [loadFound_of_document h]
  cases hs : ofEntries document with
  | none => rfl
  | some s =>
    -- settings that are there would show that everything is taken
    have hloaded : loadFound path (.ok content) = .ok s := (loadFound_eq_ok_iff_ofEntries h).mpr hs
    exact absurd ((loadFound_eq_ok_iff h htables).mp hloaded).1 hill

/-- Nothing but what is given for settings matters. -/
theorem loadFound_congr (h : document? content = some document) (htables : SectionsAreTables document)
    (h' : document? content' = some document') (htables' : SectionsAreTables document')
    (hgiven : ∀ key v, Given document' key v ↔ Given document key v) :
    loadFound path (.ok content') = loadFound path (.ok content) := by
  have hfound : ∀ key, valueAt? document' key = valueAt? document key := fun key =>
    Option.ext fun v => by
      rw [← given_iff (document?_distinct h), ← given_iff (document?_distinct h'), hgiven]
  have hsettings : ofEntries document' = ofEntries document := Option.ext fun s => by
    simp only [ofEntries_eq_some_iff htables, ofEntries_eq_some_iff htables', Lays, hfound]
  rw [loadFound_of_document h, loadFound_of_document h', hsettings]

end

end EditorLink.Settings
