import EditorLink.Command.Run
import EditorLink.Proofs.Settings.Overlay
import EditorLink.Proofs.Text.Utf8

/-!
# EditorLink — the configuration of a run

A run takes its settings from one file, or has the defaults. What is wrong with a file never leads to a mixture of
both: the file is followed in all that it gives, or it is left aside. Which file that is depends on the arguments and
on the surroundings of the run; it is the one that is named, or else the usual one if there is any.

Stated over the file, and not over the reader:

* a document is given by its entries, whatever text it was written as, so that the order of its entries, the way in
  which a table is opened, and entries that no setting has do not matter;
* a section may also stand as a list of values for its keys, which a document hardly has. The conditions here are for
  documents whose sections are tables, and nothing is said of the others;
* a setting that needs more than 64 bits is a number of the right kind and is still not taken
  (`wide_number_unusable`), since there is no value that it could be taken as.

The texts of the witnesses are read character by character (`document?_utf8`).

## Results

* `run_congr` — a run depends on its file only through the settings;
* `settings_all_or_nothing` — what is loaded from a file, and what a run does if nothing is;
* `wide_number_unusable` — a number of more than 64 bits spoils a document.
-/

namespace EditorLink.Command

open Settings (Given Key Overlays SectionsAreTables WellTyped)

/-- Two runs that are asked for the same, but for the file of the settings, do the same if the settings are the same. -/
theorem run_congr {arguments arguments' : List String} {asked : Arguments} {s : Surroundings}
    {config homeFault : Option String} {homeConfig : Option Bytes} (h : read arguments = .ok (.run asked))
    (h' : read arguments' = .ok (.run { asked with config }))
    (hsettings : settings asked s = settings { asked with config } { s with homeConfig, homeFault }) :
    run arguments s = run arguments' { s with homeConfig, homeFault } := by
  rw [run, run, h, h']
  simp only [hsettings]
  rfl

/-- **All or nothing.** A file that holds a document whose sections are tables is loaded exactly if all that the
document gives for settings is taken. Then each setting is what the document gives for it, and its default if the
document gives nothing; what else is in the document does not matter. Nothing is loaded from a file with a value that
is not taken, from one that holds no document or no text, and from one that cannot be read. A run has the settings that
were loaded from its file. If none were, it has the defaults throughout, and does what it does without the file. -/
theorem settings_all_or_nothing :
    (∀ path content document, Settings.document? content = some document → SectionsAreTables document →
      (∀ loaded, Settings.loadFound path (.ok content) = .ok loaded ↔
        WellTyped document ∧ Overlays document loaded) ∧
      (WellTyped document → ∃ loaded, Settings.loadFound path (.ok content) = .ok loaded) ∧
      (¬ WellTyped document → Settings.loadFound path (.ok content) = .error (.unusable path)) ∧
      ∀ content' document', Settings.document? content' = some document' → SectionsAreTables document' →
        (∀ key v, Given document' key v ↔ Given document key v) →
          Settings.loadFound path (.ok content') = Settings.loadFound path (.ok content)) ∧
    (∀ path content text, Text.decode? content = some text → Toml.read? text = none →
      Settings.loadFound path (.ok content) = .error (.unusable path)) ∧
    (∀ path content, Text.decode? content = none →
      Settings.loadFound path (.ok content) = .error (.unreadable path Settings.notText)) ∧
    (∀ path reason, Settings.loadFound path (.error reason) = .error (.unreadable path reason)) ∧
    ∀ arguments asked s path found, read arguments = .ok (.run asked) →
      settingsFile? asked s = some (path, found) →
        (∀ loaded, Settings.loadFound path found = .ok loaded → settings asked s = loaded) ∧
        ∀ fault, Settings.loadFound path found = .error fault →
          settings asked s = {} ∧
            ∀ arguments', read arguments' = .ok (.run { asked with config := none }) →
              run arguments s = run arguments' { s with homeConfig := none, homeFault := none } := by
  refine ⟨?_, ?_, ?_, fun path reason => rfl, ?_⟩
  · intro path content document h htables
    refine ⟨fun loaded => Settings.loadFound_eq_ok_iff h htables, Settings.exists_loadFound h htables,
      Settings.loadFound_of_illTyped h htables, ?_⟩
    intro content' document' h' htables' hgiven
    exact Settings.loadFound_congr h htables h' htables' hgiven
  · intro path content text hdecode hread
    simp only [Settings.loadFound, hdecode, hread, Option.bind_none]
  · intro path content hdecode
    simp only [Settings.loadFound, hdecode]
  · intro arguments asked s path found hread hfile
    have hsettings : settings asked s = .inEffect (Settings.loadFound path found) := by
      rw [settings, hfile]
    refine ⟨fun loaded hloaded => by rw [hsettings, hloaded]; rfl, fun fault hfault => ?_⟩
    have hdefault : settings asked s = {} := by
      rw [hsettings, hfault]
      rfl
    exact ⟨hdefault, fun arguments' hread' => run_congr hread hread' hdefault⟩

/-- The document of a text is read character by character. -/
theorem document?_utf8 (text : String) : Settings.document? (Text.utf8 text) = Toml.read? text := by
  rw [Settings.document?, Text.decode?_utf8]
  rfl

/-- A setting that is taken, among entries that are none. -/
def followed : Bytes := Text.utf8 "rpc.max_frame_bytes = 1024\nextra = [1]\n[log]\ncolour = true\n"

def followedDocument : Toml.Entries :=
  [("rpc", .table [("max_frame_bytes", .int 1024)]), ("extra", .arr [.int 1]),
    ("log", .table [("colour", .bool true)])]

/-- The text is this document: the key with a point opens the section. -/
theorem document?_followed : Settings.document? followed = some followedDocument := by
  rw [followed, document?_utf8, Toml.read?]
  simp only [String.reduceToList]
  rfl

/-- It gives one setting; the other entries are none. -/
theorem given_followed {key : Key} {v : Toml.Value} :
    Given followedDocument key v ↔ key = .maxFrameBytes ∧ v = .int 1024 := by
  cases key <;> simp [Given, followedDocument, Key.sectionName, Key.name]

/-- Both of its sections are tables, also the one in which nothing is known. -/
theorem sectionsAreTables_followed : SectionsAreTables followedDocument := by
  intro key v h
  cases key <;> simp_all [followedDocument, Key.sectionName]

/-- The setting on its own. -/
def concise : Bytes := Text.utf8 "[rpc]\nmax_frame_bytes = 1024\n"

def conciseDocument : Toml.Entries := [("rpc", .table [("max_frame_bytes", .int 1024)])]

/-- The same section, opened by a header. -/
theorem document?_concise : Settings.document? concise = some conciseDocument := by
  rw [concise, document?_utf8, Toml.read?]
  simp only [String.reduceToList]
  rfl

/-- It gives the one setting as well, and nothing besides. -/
theorem given_concise {key : Key} {v : Toml.Value} :
    Given conciseDocument key v ↔ key = .maxFrameBytes ∧ v = .int 1024 := by
  cases key <;> simp [Given, conciseDocument, Key.sectionName, Key.name]

theorem sectionsAreTables_concise : SectionsAreTables conciseDocument := by
  intro key v h
  cases key <;> simp_all [conciseDocument, Key.sectionName]

/-- A setting that is taken, and one that is not. -/
def spoiled : Bytes := Text.utf8 "[log]\nlevel = 'debug'\n[rpc]\nmax_frame_bytes = -1\n"

def spoiledDocument : Toml.Entries :=
  [("log", .table [("level", .str "debug")]), ("rpc", .table [("max_frame_bytes", .int (-1))])]

/-- A negative number is a number to the reader of documents. -/
theorem document?_spoiled : Settings.document? spoiled = some spoiledDocument := by
  rw [spoiled, document?_utf8, Toml.read?]
  simp only [String.reduceToList]
  rfl

/-- What is wrong with the document is no section. -/
theorem sectionsAreTables_spoiled : SectionsAreTables spoiledDocument := by
  intro key v h
  cases key <;> simp_all [spoiledDocument, Key.sectionName]

/-- The negative number is not taken for a number of bytes. -/
theorem not_wellTyped_spoiled : ¬ WellTyped spoiledDocument := by
  intro hwell
  have hgiven : Given spoiledDocument .maxFrameBytes (.int (-1)) :=
    ⟨_, .tail _ (.head _), .head _⟩
  obtain ⟨n, hn⟩ := Settings.reads_number.takes_iff.mp (hwell _ _ hgiven)
  cases hn

/-- The first file is loaded, and so is its setting on its own. The spoiled file is not: the run for which it is named
has neither the level of that file nor the setting of the usual one. -/
theorem settings_all_or_nothing_spoiled :
    let s : Surroundings := { homeConfig := some followed, files := [("my.toml", spoiled)] }
    Settings.loadFound homeConfigPath (.ok followed) = .ok { maxFrameBytes := 1024 } ∧
      Settings.loadFound homeConfigPath (.ok concise) = Settings.loadFound homeConfigPath (.ok followed) ∧
      settings {} s = { maxFrameBytes := 1024 } ∧
      Settings.loadFound "my.toml" (.ok spoiled) = .error (.unusable "my.toml") ∧
      Settings.loadFound "my.toml" (.ok [120]) = .error (.unusable "my.toml") ∧
      Settings.loadFound "my.toml" (.ok [255]) = .error (.unreadable "my.toml" Settings.notText) ∧
      settings { config := some "my.toml" } s = {} ∧
      run ["--config", "my.toml"] s = run [] { s with homeConfig := none, homeFault := none } := by
  intro s
  obtain ⟨hdocument, hnone, hbinary, -, hrun⟩ := settings_all_or_nothing
  have hwell : WellTyped followedDocument := by
    intro key v h
    obtain ⟨rfl, rfl⟩ := given_followed.mp h
    exact Settings.reads_number.takes_iff.mpr ⟨1024, rfl⟩
  have hoverlays : Overlays followedDocument { maxFrameBytes := 1024 } := by
    intro key
    constructor
    · intro v h
      obtain ⟨rfl, rfl⟩ := given_followed.mp h
      rfl
    · intro hnot
      cases key with
      | maxFrameBytes => exact absurd (given_followed.mpr ⟨rfl, rfl⟩) (hnot _)
      | _ => rfl
  obtain ⟨hloads, -, -, hsame⟩ :=
    hdocument homeConfigPath followed followedDocument document?_followed sectionsAreTables_followed
  have hloaded := (hloads { maxFrameBytes := 1024 }).mpr ⟨hwell, hoverlays⟩
  have hconcise := hsame concise conciseDocument document?_concise sectionsAreTables_concise
    fun key v => given_concise.trans given_followed.symm
  have hspoiled := (hdocument "my.toml" spoiled spoiledDocument document?_spoiled sectionsAreTables_spoiled).2.2.1
    not_wellTyped_spoiled
  obtain ⟨hsettings, -⟩ := hrun [] {} s homeConfigPath (.ok followed) rfl rfl
  obtain ⟨-, hfault⟩ := hrun ["--config", "my.toml"] { config := some "my.toml" } s "my.toml" (.ok spoiled) rfl rfl
  obtain ⟨hdefault, hlike⟩ := hfault _ hspoiled
  -- a key without a value is no document
  have hundocumented : Toml.read? "x" = none := by
    rw [Toml.read?]
    simp only [String.reduceToList]
    rfl
  exact ⟨hloaded, hconcise, hsettings _ hloaded, hspoiled,
    hnone "my.toml" [120] "x" (Text.decode?_utf8 "x") hundocumented, hbinary "my.toml" [255] (by decide), hdefault, hlike [] rfl⟩

/-- A number that needs more than 64 bits. -/
def wideNumber : Bytes := Text.utf8 "[rpc]\nmax_frame_bytes = 18446744073709551616\n"

/-- **A number is not enough**: it has to have 64 bits at most. Here all that the document gives for settings is of the
right kind, and nothing is loaded. -/
theorem wide_number_unusable :
    ∃ document, Settings.document? wideNumber = some document ∧ SectionsAreTables document ∧
      Given document .maxFrameBytes (.int 18446744073709551616) ∧
      (∀ key v, Given document key v → key.kind.Suits v) ∧
      ∀ path, Settings.loadFound path (.ok wideNumber) = .error (.unusable path) := by
  let document : Toml.Entries := [("rpc", .table [("max_frame_bytes", .int 18446744073709551616)])]
  have hread : Settings.document? wideNumber = some document := by
    rw [wideNumber, document?_utf8, Toml.read?]
    simp only [String.reduceToList]
    rfl
  have hgiven : ∀ {key v}, Given document key v ↔ key = .maxFrameBytes ∧ v = .int 18446744073709551616 := by
    intro key v
    cases key <;> simp [Given, document, Key.sectionName, Key.name]
  have htables : SectionsAreTables document := by
    intro key v h
    cases key <;> simp_all [document, Key.sectionName]
  refine ⟨document, hread, htables, hgiven.mpr ⟨rfl, rfl⟩, ?_, fun path => ?_⟩
  · intro key v h
    obtain ⟨rfl, rfl⟩ := hgiven.mp h
    exact .number 18446744073709551616
  · refine Settings.loadFound_of_illTyped hread htables fun hwell => ?_
    have hsmall := (hwell _ _ (hgiven.mpr ⟨rfl, rfl⟩)).2 _ rfl
    exact absurd hsmall (by decide)

end EditorLink.Command
