/-!
# EditorLink — the command line

* `Arguments` — what the command line asks of a run;
* `Asked` — a run, or one of the texts that the program prints about itself;
* `read` — what a list of arguments asks for, or why it asks for nothing.

Arguments are read from the left, and the first that decides the matter wins: a request for help comes
before a fault behind it, and not before one in front of it.
-/

namespace EditorLink.Command

structure Arguments where
  /-- The file with the settings, if not the usual one. -/
  config : Option String := none
  /-- The address to serve at, if not standard input and output. -/
  listen : Option String := none
  logToStderr : Bool := false
  deriving Repr, DecidableEq

inductive Asked where
  | run (arguments : Arguments)
  | help
  | version
  deriving Repr, DecidableEq

/-- Why a command line asks for nothing. -/
inductive UsageFault where
  | unknown (argument : String)
  | noValue (option : String)
  | needlessValue (option : String)
  | repeated (option : String)
  deriving Repr, DecidableEq

def helpLines : List String :=
  ["C/C++ language server speaking JSON-RPC over stdio",
   "",
   "Usage: cls [OPTIONS]",
   "",
   "Options:",
   "      --config <PATH>  Read configuration from this file instead of ~/.cls/config.toml",
   "      --listen <ADDR>  Serve a single editor connection on this TCP address instead of stdio",
   "      --log-stderr     Write logs to stderr instead of the log file",
   "  -h, --help           Print help",
   "  -V, --version        Print version"]

def helpText : String := String.join (helpLines.map (· ++ "\n"))

def versionText : String := "cls 0.0.0\n"

/-- Whether an argument stands for itself, and is not an option. -/
def isPlain (argument : String) : Bool :=
  match argument.toList with
  | '-' :: _ :: _ => false
  | _ => true

/-- A long option and the value that is attached to it. -/
def splitOption (name : List Char) : String × Option String :=
  match name.span (· != '=') with
  | (name, []) => (String.ofList name, none)
  | (name, _ :: value) => (String.ofList name, some (String.ofList value))

def Arguments.setConfig (a : Arguments) (value : String) : Except UsageFault Arguments :=
  if a.config.isSome then .error (.repeated "config")
  else if value.isEmpty then .error (.noValue "config")
  else .ok { a with config := some value }

def Arguments.setListen (a : Arguments) (value : String) : Except UsageFault Arguments :=
  if a.listen.isSome then .error (.repeated "listen") else .ok { a with listen := some value }

def Arguments.setLogToStderr (a : Arguments) : Except UsageFault Arguments :=
  if a.logToStderr then .error (.repeated "log-stderr") else .ok { a with logToStderr := true }

/-- An option that takes a value. -/
def valued? : String → Option (Arguments → String → Except UsageFault Arguments)
  | "config" => some Arguments.setConfig
  | "listen" => some Arguments.setListen
  | _ => none

def readShort (argument : String) : List Char → Except UsageFault Asked
  | 'h' :: _ => .ok .help
  | 'V' :: _ => .ok .version
  | _ => .error (.unknown argument)

/-- Reads arguments from the left. -/
def readFrom (a : Arguments) : List String → Except UsageFault Asked
  | [] => .ok (.run a)
  | argument :: rest =>
    match argument.toList with
    | ['-', '-'] =>
      match rest with
      | [] => .ok (.run a)
      | extra :: _ => .error (.unknown extra)
    | '-' :: '-' :: name =>
      match splitOption name with
      | ("help", none) => .ok .help
      | ("version", none) => .ok .version
      | ("help", some _) => .error (.needlessValue "help")
      | ("version", some _) => .error (.needlessValue "version")
      | ("log-stderr", some _) => .error (.needlessValue "log-stderr")
      | ("log-stderr", none) =>
        match a.setLogToStderr with
        | .ok a => readFrom a rest
        | .error fault => .error fault
      | (option, attached) =>
        match valued? option, attached, rest with
        | none, _, _ => .error (.unknown argument)
        | some set, some value, rest =>
          match set a value with
          | .ok a => readFrom a rest
          | .error fault => .error fault
        | some _, none, [] => .error (.noValue option)
        | some set, none, value :: rest =>
          if isPlain value then
            match set a value with
            | .ok a => readFrom a rest
            | .error fault => .error fault
          else .error (.noValue option)
    | '-' :: letter :: letters => readShort argument (letter :: letters)
    | _ => .error (.unknown argument)

def read (arguments : List String) : Except UsageFault Asked := readFrom {} arguments

end EditorLink.Command
