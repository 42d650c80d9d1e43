import EditorLink.Command.Address
import EditorLink.Command.Arguments
import EditorLink.Service.Lifecycle
import EditorLink.Session.Environment
import EditorLink.Settings

/-!
# EditorLink — a run of the program

What a run does, as a function of what it finds around it.

* `Surroundings` — files, standard input, and where logs can be kept;
* `Outcome` — what is written where, and the exit status;
* `run` — from the command line to the outcome.

The exit status is zero exactly if the session ended well and the editor had asked to shut down.
-/

namespace EditorLink.Command

open Message (CallFault)
open Session (State)

/-- What a run finds around it. -/
structure Surroundings where
  /-- The settings in the home directory. -/
  homeConfig : Option Bytes := none
  /-- Why the settings in the home directory cannot be read, if something is there that cannot. -/
  homeFault : Option String := none
  /-- The files of the working directory, by their names. -/
  files : List (String × Bytes) := []
  /-- What is in the working directory and cannot be read, by its name, and why. -/
  unreadable : List (String × String) := []
  /-- Whether a log can be kept in the home directory. -/
  homeWritable : Bool := true
  /-- Whether a log can be kept in the working directory. -/
  workingWritable : Bool := true
  /-- All of standard input. -/
  input : Bytes := []

inductive LogPlace where
  | standardError
  | home
  | workingDirectory
  | nowhere
  deriving Repr, DecidableEq

/-- What a run led to. -/
inductive Outcome where
  | told (text : String)
  /-- The command line asks for nothing. -/
  | misused (fault : UsageFault)
  /-- A session was served, or could not be. -/
  | served (frames : List Bytes) (status : Nat) (complaint : String) (log : LogPlace)

/-- Where logs go: to standard error if that was asked for, else to the first place that takes them. -/
def logPlace (arguments : Arguments) (s : Surroundings) : LogPlace :=
  if arguments.logToStderr then .standardError
  else if s.homeWritable then .home
  else if s.workingWritable then .workingDirectory
  else .nowhere

/-- Whether a path leads to the file `name` of the working directory: by its name, behind steps that stay
in place. -/
def leadsTo (path name : String) : Bool :=
  match (path.toList.splitOn '/').reverse with
  | [] => false
  | last :: steps =>
    path.toList.head? != some '/' && last == name.toList
      && steps.all fun step => step.isEmpty || step == ['.']

/-- What is at the end of a path, if it leads anywhere. -/
def at? {α : Type} (named : List (String × α)) (path : String) : Option α :=
  (named.find? fun (name, _) => leadsTo path name).map (·.2)

/-- What the file at a path holds, or why it cannot be read. -/
def fileAt (s : Surroundings) (path : String) : Except String Bytes :=
  match at? s.unreadable path with
  | some reason => .error reason
  | none => (at? s.files path).elim (.error Settings.noFile) .ok

def homeConfigPath : String := "~/.cls/config.toml"

/-- What the usual file holds, or why it cannot be read; nothing if there is none. -/
def homeFile? (s : Surroundings) : Option (Except String Bytes) :=
  match s.homeFault with
  | some reason => some (.error reason)
  | none => s.homeConfig.map .ok

/-- The file that a run takes its settings from: the one that was named, which has to be there, or the usual
one if there is one. -/
def settingsFile? (arguments : Arguments) (s : Surroundings) : Option (String × Except String Bytes) :=
  match arguments.config with
  | some path => some (path, fileAt s path)
  | none => (homeFile? s).map (homeConfigPath, ·)

/-- The settings of a run: from its file, or the defaults. -/
def settings (arguments : Arguments) (s : Surroundings) : Settings :=
  match settingsFile? arguments s with
  | some (path, found) => .inEffect (Settings.loadFound path found)
  | none => {}

-- ---------------------------------------------------------------------------
-- Complaints
-- ---------------------------------------------------------------------------

/-- The causes behind a complaint: numbered if there are several. -/
def causesText : List String → String
  | [] => ""
  | [cause] => s!"\n\nCaused by:\n    {cause}"
  | causes =>
    let lines := causes.zipIdx.map fun (cause, i) => s!"    {i}: {cause}"
    "\n\nCaused by:\n" ++ "\n".intercalate lines

/-- What is said of a run that failed. -/
def complaint (context : String) (causes : List String) : String :=
  s!"Error: {context}{causesText causes}\n"

def bindCause (text : String) : String :=
  match address text with
  | .error fault => fault.message
  | .ok _ => "sockets are not supported"

def bindComplaint (text : String) : String := complaint s!"failed to bind {text}" [bindCause text]

-- ---------------------------------------------------------------------------
-- Serving
-- ---------------------------------------------------------------------------

/-- The session of a run, started. -/
def opened (settings : Settings) : State Bool :=
  (State.create (settings.sessionConfig "stdio") false).start

def framesOf (s : State Bool) : List Bytes :=
  s.history.reverse.filterMap fun
    | .wrote bytes => some bytes
    | _ => none

/-- A session whose history is put away. -/
def forget (s : State Bool) : State Bool := { s with history := [] }

/-- The exit status of a session, and what is said of it if it failed; nothing as long as it goes on. -/
def verdict? (s : State Bool) : Option (Nat × String) :=
  match s.phase with
  | .ended (.ok ()) => some (if s.memory then 0 else 1, "")
  | .ended (.error fault) => some (1, complaint "connection failed" fault.chain)
  | _ => none

/-- Serves an editor whose input is at hand, to its end. -/
def serve (settings : Settings) (input : Bytes) : State Bool :=
  ((opened settings).feed input).endInput.rest (Service.handler settings.service)

def run (arguments : List String) (s : Surroundings) : Outcome :=
  match read arguments with
  | .error fault => .misused fault
  | .ok .help => .told helpText
  | .ok .version => .told versionText
  | .ok (.run arguments) =>
    let log := logPlace arguments s
    match arguments.listen with
    | some text => .served [] 1 (bindComplaint text) log
    | none =>
      let state := serve (settings arguments s) s.input
      let (status, text) := (verdict? state).getD (1, "")
      .served (framesOf state) status text log

end EditorLink.Command
