import EditorLink.Command.Run

/-!
# EditorLink — the program

Serves one editor over standard input and output. Standard output carries frames and nothing else; what is
worth a line goes to the log.
-/

namespace EditorLink.Command

open Session (State)

/-- What the file at a path holds, or why it cannot be read; nothing if there is none. -/
def found? (path : String) : IO (Option (Except String Bytes)) := do
  try
    return some (.ok (← IO.FS.readBinFile path).data.toList)
  catch
    | .noFileOrDirectory .. => return none
    | fault => return some (.error (toString fault))

/-- Opens the log below a directory, if that is possible. -/
def openLog (directory : String) : IO (Option IO.FS.Handle) := do
  try
    IO.FS.createDirAll (directory ++ "/.cls/logs")
    return some (← IO.FS.Handle.mk (directory ++ "/.cls/logs/cls.log") .append)
  catch _ => return none

/-- The function that takes lines for the log: they go to standard error if that was asked for, else to the
first place that takes them. -/
def logger (arguments : Arguments) (home : Option String) : IO (String → IO Unit) := do
  if arguments.logToStderr then
    return fun line => IO.eprintln line
  let inHome ← match home with
    | some home => openLog home
    | none => pure none
  let file ← match inHome with
    | some file => pure (some file)
    | none => openLog "."
  match file with
  | some file => return fun line => do
      file.putStrLn line
      file.flush
  | none => return fun _ => pure ()

/-- The settings of a run, or what is wrong with their file. -/
def loadSettings (arguments : Arguments) (home : Option String) : IO (Except Settings.Fault Settings) := do
  match arguments.config with
  | some path => return Settings.loadFound path ((← found? path).getD (.error Settings.noFile))
  | none =>
    match home with
    | none => return .ok {}
    | some home =>
      let path := home ++ "/.cls/config.toml"
      match ← found? path with
      | none => return .ok {}
      | some found => return Settings.loadFound path found

def writeFrames (output : IO.FS.Stream) (frames : List Bytes) : IO Unit := do
  for frame in frames do
    output.write ⟨frame.toArray⟩
    output.flush

/-- Reads, lets the session rest, and writes, until the session is over. -/
partial def serveStreams (handler : Session.Handler Bool) (input output : IO.FS.Stream)
    (s : State Bool) : IO (Nat × String) := do
  match verdict? s with
  | some verdict => return verdict
  | none =>
    let bytes ← input.read 8192
    let s := (if bytes.isEmpty then s.endInput else s.feed bytes.data.toList).rest handler
    writeFrames output (framesOf s)
    serveStreams handler input output (forget s)

def serveStdio (settings : Settings) : IO (Nat × String) := do
  serveStreams (Service.handler settings.service) (← IO.getStdin) (← IO.getStdout) (opened settings)

/-- What is said of a command line that asks for nothing. -/
def usageText : UsageFault → String
  | .unknown argument => s!"error: unexpected argument '{argument}' found"
  | .noValue option => s!"error: a value is required for '--{option}' but none was supplied"
  | .needlessValue option => s!"error: unexpected value for '--{option}' found; no more were expected"
  | .repeated option => s!"error: the argument '--{option}' cannot be used multiple times"

/-- Runs as the arguments ask; answers with the exit status. -/
def runWith (arguments : Arguments) : IO UInt32 := do
  let home ← IO.getEnv "HOME"
  let loaded ← loadSettings arguments home
  let log ← logger arguments home
  if let .error fault := loaded then log s!"using default configuration: {fault.message}"
  let (status, text) ← match arguments.listen with
    | some text => pure (1, bindComplaint text)
    | none => serveStdio (.inEffect loaded)
  IO.eprint text
  return status.toUInt32

end EditorLink.Command

open EditorLink.Command

def main (args : List String) : IO UInt32 := do
  match read args with
  | .error fault =>
    IO.eprintln (usageText fault)
    return 2
  | .ok .help =>
    IO.print helpText
    return 0
  | .ok .version =>
    IO.print versionText
    return 0
  | .ok (.run arguments) => runWith arguments
