import EditorLink.Service.Options
import EditorLink.Service.Payload
import EditorLink.Session.Handler

/-!
# EditorLink — the language service

The handler that serves an editor: it answers the start and the end of a session, and reports on the
documents that are opened.

* `capabilities` — what the service can do;
* `initialized`, `opened` — the tasks behind `initialize` and `textDocument/didOpen`;
* `handler` — the reaction to each method; it remembers whether `shutdown` was called.
-/

namespace EditorLink.Service

open Message (CallFault ErrorObject)
open Session (Handler Reaction Task)

def serverName : String := "clang-languageservice"

def serverVersion : String := "0.0.0"

/-- What the service says in its own name starts with this. -/
def logLead : String := "[clang-languageservice] "

/-- What the user reads at the start. -/
def greeting : String := "Hello, from clang-languageservice!"

/-- The answer to `initialize`. -/
def capabilities : InitializeResult where
  capabilities :=
    { completionProvider := some { resolveProvider := true, triggerCharacters := [":", ".", ">"] }
      referencesProvider := true
      definitionProvider := true
      workspaceSymbolProvider := true }
  serverInfo := some { name := serverName, version := some serverVersion }

-- ---------------------------------------------------------------------------
-- Messages to the editor
-- ---------------------------------------------------------------------------

/-- The method that adds a line to the log of the editor. -/
def logMethod : String := "window/logMessage"

/-- The method that shows a message to the user. -/
def showMethod : String := "window/showMessage"

/-- The params of a message, keys in order. -/
def messageParams (kind : MessageType) (message : String) : Json :=
  ({ kind, message : MessageParams }).toJson.normalize

def logParams (line : String) : Json := messageParams .log (logLead ++ line)

/-- Adds a line to the log of the editor; it does not matter whether it gets there. -/
def log (line : String) (next : Task) : Task := .notify logMethod (logParams line) fun _ => next

def tell (kind : MessageType) (message : String) (next : Task) : Task :=
  .notify showMethod (messageParams kind message) fun _ => next

-- ---------------------------------------------------------------------------
-- Tasks
-- ---------------------------------------------------------------------------

/-- Refuses params of the wrong shape. -/
def refuse (fault : Json.ShapeFault) : Task :=
  .fail { root := .object (.invalidParams fault.message) }

/-- Behind `initialize`: greets, and answers with the capabilities. -/
def initialized (params : Json) : Task :=
  match InitializeParams.shape params with
  | .error fault => refuse fault
  | .ok _ =>
    let result := capabilities.toJson.normalize
    log s!"Initialized clang language server with {result.write}" <|
    tell .info greeting <|
    .finish result

/-- The answer of the editor to the question how a document is compiled. -/
def readInfo (result : Json) : Except CallFault CompilationInfoResult :=
  (CompilationInfoResult.shape result).mapError fun fault => .unreadableResult (.misshapen fault none)

/-- Asks the editor how a document is compiled and logs the answer. -/
def queryInfo (method uri : String) (next : Task) : Task :=
  .ask method (compilationInfoParams uri) fun outcome =>
    match outcome.bind readInfo with
    | .ok ⟨some info⟩ =>
      log s!"Got compilation info for file '{uri}'" <|
      log s!"Compile command for '{uri}' is: {info.command}" next
    | .ok ⟨none⟩ => next
    | .error fault => log s!"Compilation info lookup failed: {fault.message}" next

/-- What the log says of a document that was opened. -/
def openedLine (d : TextDocument) : String :=
  s!"Opened '{d.uri}' ({d.languageId}, version {d.version}, {d.text.utf8ByteSize} bytes)"

/-- Behind `textDocument/didOpen`: reports on the document, and asks how it is compiled if `query` names
a method for that. -/
def opened (params : Json) (query : Option String) : Task :=
  match DidOpenParams.shape params with
  | .error fault => refuse fault
  | .ok ⟨document⟩ =>
    log (openedLine document) <|
    match query with
    | some method => queryInfo method document.uri (.finish .null)
    | none => .finish .null

-- ---------------------------------------------------------------------------
-- Reactions
-- ---------------------------------------------------------------------------

/-- Carries out a reaction, after a line in the log of the editor if methods are logged. -/
def logged (options : Options) (method : String) (reaction : Reaction) : Reaction :=
  if options.logRequests then
    .notify logMethod (logParams s!"Got request {method}") fun _ => reaction
  else reaction

def reaction (options : Options) (method : String) (params : Json) : Reaction :=
  match method with
  | "initialize" => .start (initialized params)
  | "initialized" => .silent
  | "textDocument/didOpen" =>
    .start (opened params
      (if options.queryCompilationInfo then some options.compilationInfoMethod else none))
  | "shutdown" => .start (.finish .null)
  | "exit" => .close .silent
  | _ => .start (.fail { root := .object (.methodNotFound method) })

/-- The handler. It remembers whether `shutdown` was called. -/
def handler (options : Options) : Handler Bool := fun shutdown method params =>
  (logged options method (reaction options method params), shutdown || method == "shutdown")

end EditorLink.Service
