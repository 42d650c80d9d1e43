import EditorLink.Framing.Decoder
import EditorLink.Service.Options
import EditorLink.Session.State
import EditorLink.Toml.Reader

/-!
# EditorLink — settings

What can be set in a configuration document, in three sections:

* `log` — how much is logged;
* `rpc` — the limits of a session;
* `service` — the options of the language service.

A setting that is not given has its default. A setting of the wrong type spoils the whole document, and
what is not a setting does not matter. A section may be a table, or a list of its settings in the order of
their declaration, which may be cut short. A date or a time is a section without settings.
-/

namespace EditorLink

open Toml (Entries)

/-- All settings. -/
structure Settings where
  logLevel : String := "info"
  maxFrameBytes : Nat := Framing.defaultMaxFrameBytes
  /-- How many milliseconds a request waits for its answer; without it there is no limit. -/
  requestTimeoutMs : Option Nat := none
  strictResponses : Bool := false
  service : Service.Options := {}
  deriving Repr, DecidableEq

namespace Settings

-- ---------------------------------------------------------------------------
-- The types of settings
-- ---------------------------------------------------------------------------

def text? : Toml.Value → Option String
  | .str s => some s
  | _ => none

def flag? : Toml.Value → Option Bool
  | .bool b => some b
  | _ => none

def number? : Toml.Value → Option Nat
  | .int n => if 0 ≤ n ∧ n < (UInt64.size : Int) then some n.toNat else none
  | _ => none

/-- The setting of a type under a key: its default if the key is missing, nothing if the type is wrong. -/
def setting {α : Type} (entries : Entries) (key : String) (type : Toml.Value → Option α)
    (default : α) : Option α :=
  match entries.lookup key with
  | some v => type v
  | none => some default

-- ---------------------------------------------------------------------------
-- Sections
-- ---------------------------------------------------------------------------

/-- The settings of a section as entries, from a table or from a list of values for its keys. A date or a
time counts as a table without any of them. -/
def entries? (keys : List String) : Toml.Value → Option Entries
  | .table entries => some entries
  | .arr items => some (keys.zip items)
  | .moment => some []
  | _ => none

/-- The entries of a section, none if it is missing. -/
def sectionOf (document : Entries) (name : String) (keys : List String) : Option Entries :=
  match document.lookup name with
  | some v => entries? keys v
  | none => some []

/-- The settings that a document gives. -/
def ofEntries (document : Entries) : Option Settings := do
  let default : Settings := {}
  let log ← sectionOf document "log" ["level"]
  let rpc ← sectionOf document "rpc" ["max_frame_bytes", "request_timeout_ms", "strict_responses"]
  let service ← sectionOf document "service"
    ["query_compilation_info", "compilation_info_method", "log_requests"]
  return {
    logLevel := ← setting log "level" text? default.logLevel
    maxFrameBytes := ← setting rpc "max_frame_bytes" number? default.maxFrameBytes
    requestTimeoutMs :=
      ← setting rpc "request_timeout_ms" (fun v => (number? v).map some) default.requestTimeoutMs
    strictResponses := ← setting rpc "strict_responses" flag? default.strictResponses
    service := {
      queryCompilationInfo :=
        ← setting service "query_compilation_info" flag? default.service.queryCompilationInfo
      compilationInfoMethod :=
        ← setting service "compilation_info_method" text? default.service.compilationInfoMethod
      logRequests := ← setting service "log_requests" flag? default.service.logRequests } }

/-- The settings of a session named `name`. -/
def sessionConfig (s : Settings) (name : String) : Session.Config where
  name := name
  maxFrameBytes := s.maxFrameBytes
  requestTimeout := s.requestTimeoutMs.map Span.ofMillis
  strictResponses := s.strictResponses

-- ---------------------------------------------------------------------------
-- Loading
-- ---------------------------------------------------------------------------

/-- Why settings could not be loaded. -/
inductive Fault where
  | unreadable (path reason : String)
  /-- The file is no document, or a setting has the wrong type. -/
  | unusable (path : String)
  deriving Repr, DecidableEq

def Fault.message : Fault → String
  | .unreadable path reason => s!"failed to read {path}: {reason}"
  | .unusable path => s!"failed to parse {path}"

def noFile : String := "No such file or directory (os error 2)"

def notText : String := "stream did not contain valid UTF-8"

/-- The settings in the file at `path`, of which `found` is what it holds, or why it cannot be read. -/
def loadFound (path : String) (found : Except String Bytes) : Except Fault Settings :=
  match found with
  | .error reason => .error (.unreadable path reason)
  | .ok bytes =>
    match Text.decode? bytes with
    | none => .error (.unreadable path notText)
    | some document =>
      match (Toml.read? document).bind ofEntries with
      | some settings => .ok settings
      | none => .error (.unusable path)

/-- The settings in the file at `path`, of which `content` is what it holds if it is there. -/
def load (path : String) (content : Option Bytes) : Except Fault Settings :=
  loadFound path (content.elim (.error noFile) .ok)

/-- The settings in effect: those that were loaded, or the defaults if they could not be. -/
def inEffect (loaded : Except Fault Settings) : Settings :=
  match loaded with
  | .ok settings => settings
  | .error _ => {}

end Settings
end EditorLink
