import EditorLink.Json.Shape

/-!
# EditorLink — payloads of the language service

The records that the service exchanges with an editor. Each has a `shape` that reads it, and those that
the service sends have a `toJson` that writes it, members in the order of declaration.
-/

namespace EditorLink.Service

open Json (Shape ShapeFault Members)

-- ---------------------------------------------------------------------------
-- Messages to the user
-- ---------------------------------------------------------------------------

/-- How serious a message is. -/
inductive MessageType where
  | error
  | warning
  | info
  | log
  deriving Repr, DecidableEq

namespace MessageType

/-- The number that stands for a type. -/
def number : MessageType → Nat
  | .error => 1
  | .warning => 2
  | .info => 3
  | .log => 4

def ofNumber? : Nat → Option MessageType
  | 1 => some .error
  | 2 => some .warning
  | 3 => some .info
  | 4 => some .log
  | _ => none

/-- The type of a number, or the fault that there is none. -/
def ofNumber (n : Nat) : Except ShapeFault MessageType :=
  match ofNumber? n with
  | some kind => .ok kind
  | none => .error (.unknownMessageType n)

def shape : Shape MessageType := fun v => do ofNumber (← Shape.byte v).toNat

def toJson (kind : MessageType) : Json := .int kind.number

end MessageType

/-- A message with its type. -/
structure MessageParams where
  kind : MessageType
  message : String
  deriving Repr, DecidableEq

namespace MessageParams

def ofMembers (members : Members) : Except ShapeFault MessageParams := do
  let message? ← Shape.member? "message" Shape.text members
  let kind? ← Shape.member? "type" MessageType.shape members
  let kind ← Shape.required "type" kind?
  let message ← Shape.required "message" message?
  return { kind, message }

def ofItems (items : List Json) : Except ShapeFault MessageParams := do
  let wanted := Shape.recordOf "MessageParams" 2
  let kind ← Shape.item wanted 0 MessageType.shape items
  let message ← Shape.item wanted 1 Shape.text items
  Shape.complete 2 items { kind, message }

def shape : Shape MessageParams := Shape.record "MessageParams" ofMembers ofItems

def toJson (m : MessageParams) : Json := .obj [("type", m.kind.toJson), ("message", .str m.message)]

end MessageParams

-- ---------------------------------------------------------------------------
-- The start of a session
-- ---------------------------------------------------------------------------

/-- What an editor says of itself at the start. -/
structure InitializeParams where
  processId : Option Int
  rootUri : Option String
  capabilities : Json
  deriving Repr

namespace InitializeParams

def ofMembers (members : Members) : Except ShapeFault InitializeParams := do
  let capabilities? ← Shape.member? "capabilities" Shape.any members
  let processId? ← Shape.member? "processId" (Shape.optional Shape.signed64) members
  let rootUri? ← Shape.member? "rootUri" (Shape.optional Shape.text) members
  return { processId := processId?.join, rootUri := rootUri?.join, capabilities := capabilities?.getD .null }

/-- Reads the items of an array; the capabilities may be cut off. -/
def ofItems (items : List Json) : Except ShapeFault InitializeParams := do
  let wanted := Shape.recordOf "InitializeParams" 3
  let processId ← Shape.item wanted 0 (Shape.optional Shape.signed64) items
  let rootUri ← Shape.item wanted 1 (Shape.optional Shape.text) items
  let capabilities ← Shape.itemOr .null 2 Shape.any items
  Shape.complete 3 items { processId, rootUri, capabilities }

def shape : Shape InitializeParams := Shape.record "InitializeParams" ofMembers ofItems

end InitializeParams

/-- How the server completes what is typed. -/
structure CompletionOptions where
  resolveProvider : Bool
  triggerCharacters : List String
  deriving Repr, DecidableEq

namespace CompletionOptions

def ofMembers (members : Members) : Except ShapeFault CompletionOptions := do
  let resolveProvider? ← Shape.member? "resolveProvider" Shape.boolean members
  let triggerCharacters? ← Shape.member? "triggerCharacters" (Shape.listOf Shape.text) members
  let resolveProvider ← Shape.required "resolveProvider" resolveProvider?
  let triggerCharacters ← Shape.required "triggerCharacters" triggerCharacters?
  return { resolveProvider, triggerCharacters }

def ofItems (items : List Json) : Except ShapeFault CompletionOptions := do
  let wanted := Shape.recordOf "CompletionOptions" 2
  let resolveProvider ← Shape.item wanted 0 Shape.boolean items
  let triggerCharacters ← Shape.item wanted 1 (Shape.listOf Shape.text) items
  Shape.complete 2 items { resolveProvider, triggerCharacters }

def shape : Shape CompletionOptions := Shape.record "CompletionOptions" ofMembers ofItems

def toJson (o : CompletionOptions) : Json :=
  .obj [("resolveProvider", .bool o.resolveProvider),
    ("triggerCharacters", .arr (o.triggerCharacters.map .str))]

end CompletionOptions

/-- The member of an optional field: left out if there is nothing. -/
def optionalMember {α : Type} (key : String) (toJson : α → Json) : Option α → Members
  | some a => [(key, toJson a)]
  | none => []

/-- What the server can do. -/
structure ServerCapabilities where
  completionProvider : Option CompletionOptions
  referencesProvider : Bool
  definitionProvider : Bool
  workspaceSymbolProvider : Bool
  deriving Repr, DecidableEq

namespace ServerCapabilities

def ofMembers (members : Members) : Except ShapeFault ServerCapabilities := do
  let completion? ←
    Shape.member? "completionProvider" (Shape.optional CompletionOptions.shape) members
  let definition? ← Shape.member? "definitionProvider" Shape.boolean members
  let references? ← Shape.member? "referencesProvider" Shape.boolean members
  let workspaceSymbol? ← Shape.member? "workspaceSymbolProvider" Shape.boolean members
  let referencesProvider ← Shape.required "referencesProvider" references?
  let definitionProvider ← Shape.required "definitionProvider" definition?
  let workspaceSymbolProvider ← Shape.required "workspaceSymbolProvider" workspaceSymbol?
  return {
    completionProvider := completion?.join, referencesProvider, definitionProvider,
    workspaceSymbolProvider }

def ofItems (items : List Json) : Except ShapeFault ServerCapabilities := do
  let wanted := Shape.recordOf "ServerCapabilities" 4
  let completionProvider ← Shape.item wanted 0 (Shape.optional CompletionOptions.shape) items
  let referencesProvider ← Shape.item wanted 1 Shape.boolean items
  let definitionProvider ← Shape.item wanted 2 Shape.boolean items
  let workspaceSymbolProvider ← Shape.item wanted 3 Shape.boolean items
  Shape.complete 4 items
    { completionProvider, referencesProvider, definitionProvider, workspaceSymbolProvider }

def shape : Shape ServerCapabilities := Shape.record "ServerCapabilities" ofMembers ofItems

def toJson (c : ServerCapabilities) : Json :=
  .obj (optionalMember "completionProvider" CompletionOptions.toJson c.completionProvider ++
    [("referencesProvider", .bool c.referencesProvider),
      ("definitionProvider", .bool c.definitionProvider),
      ("workspaceSymbolProvider", .bool c.workspaceSymbolProvider)])

end ServerCapabilities

/-- The name and the version of the server. -/
structure ServerInfo where
  name : String
  version : Option String
  deriving Repr, DecidableEq

namespace ServerInfo

def ofMembers (members : Members) : Except ShapeFault ServerInfo := do
  let name? ← Shape.member? "name" Shape.text members
  let version? ← Shape.member? "version" (Shape.optional Shape.text) members
  let name ← Shape.required "name" name?
  return { name, version := version?.join }

def ofItems (items : List Json) : Except ShapeFault ServerInfo := do
  let wanted := Shape.recordOf "ServerInfo" 2
  let name ← Shape.item wanted 0 Shape.text items
  let version ← Shape.item wanted 1 (Shape.optional Shape.text) items
  Shape.complete 2 items { name, version }

def shape : Shape ServerInfo := Shape.record "ServerInfo" ofMembers ofItems

def toJson (i : ServerInfo) : Json :=
  .obj ([("name", .str i.name)] ++ optionalMember "version" .str i.version)

end ServerInfo

/-- The answer to `initialize`. -/
structure InitializeResult where
  capabilities : ServerCapabilities
  serverInfo : Option ServerInfo
  deriving Repr, DecidableEq

namespace InitializeResult

def ofMembers (members : Members) : Except ShapeFault InitializeResult := do
  let capabilities? ← Shape.member? "capabilities" ServerCapabilities.shape members
  let serverInfo? ← Shape.member? "serverInfo" (Shape.optional ServerInfo.shape) members
  let capabilities ← Shape.required "capabilities" capabilities?
  return { capabilities, serverInfo := serverInfo?.join }

def ofItems (items : List Json) : Except ShapeFault InitializeResult := do
  let wanted := Shape.recordOf "InitializeResult" 2
  let capabilities ← Shape.item wanted 0 ServerCapabilities.shape items
  let serverInfo ← Shape.item wanted 1 (Shape.optional ServerInfo.shape) items
  Shape.complete 2 items { capabilities, serverInfo }

def shape : Shape InitializeResult := Shape.record "InitializeResult" ofMembers ofItems

def toJson (r : InitializeResult) : Json :=
  .obj ([("capabilities", r.capabilities.toJson)]
    ++ optionalMember "serverInfo" ServerInfo.toJson r.serverInfo)

end InitializeResult

-- ---------------------------------------------------------------------------
-- Documents
-- ---------------------------------------------------------------------------

/-- A document that an editor opens. -/
structure TextDocument where
  uri : String
  languageId : String
  version : Int
  text : String
  deriving Repr, DecidableEq

namespace TextDocument

def ofMembers (members : Members) : Except ShapeFault TextDocument := do
  let languageId? ← Shape.member? "languageId" Shape.text members
  let text? ← Shape.member? "text" Shape.text members
  let uri? ← Shape.member? "uri" Shape.text members
  let version? ← Shape.member? "version" Shape.signed32 members
  let uri ← Shape.required "uri" uri?
  let languageId ← Shape.required "languageId" languageId?
  let version ← Shape.required "version" version?
  let text ← Shape.required "text" text?
  return { uri, languageId, version, text }

def ofItems (items : List Json) : Except ShapeFault TextDocument := do
  let wanted := Shape.recordOf "TextDocumentItem" 4
  let uri ← Shape.item wanted 0 Shape.text items
  let languageId ← Shape.item wanted 1 Shape.text items
  let version ← Shape.item wanted 2 Shape.signed32 items
  let text ← Shape.item wanted 3 Shape.text items
  Shape.complete 4 items { uri, languageId, version, text }

def shape : Shape TextDocument := Shape.record "TextDocumentItem" ofMembers ofItems

end TextDocument

/-- The params of `textDocument/didOpen`. -/
structure DidOpenParams where
  textDocument : TextDocument
  deriving Repr, DecidableEq

namespace DidOpenParams

def ofMembers (members : Members) : Except ShapeFault DidOpenParams := do
  let textDocument? ← Shape.member? "textDocument" TextDocument.shape members
  let textDocument ← Shape.required "textDocument" textDocument?
  return { textDocument }

def ofItems (items : List Json) : Except ShapeFault DidOpenParams := do
  let wanted := Shape.recordOf "DidOpenTextDocumentParams" 1
  let textDocument ← Shape.item wanted 0 TextDocument.shape items
  Shape.complete 1 items { textDocument }

def shape : Shape DidOpenParams := Shape.record "DidOpenTextDocumentParams" ofMembers ofItems

end DidOpenParams

-- ---------------------------------------------------------------------------
-- How a document is compiled
-- ---------------------------------------------------------------------------

/-- How a file is compiled. -/
structure CompilationInfo where
  file : String
  command : String
  directory : String
  deriving Repr, DecidableEq

namespace CompilationInfo

def ofMembers (members : Members) : Except ShapeFault CompilationInfo := do
  let command? ← Shape.member? "command" Shape.text members
  let directory? ← Shape.member? "directory" Shape.text members
  let file? ← Shape.member? "file" Shape.text members
  let file ← Shape.required "file" file?
  let command ← Shape.required "command" command?
  let directory ← Shape.required "directory" directory?
  return { file, command, directory }

def ofItems (items : List Json) : Except ShapeFault CompilationInfo := do
  let wanted := Shape.recordOf "CompilationInfo" 3
  let file ← Shape.item wanted 0 Shape.text items
  let command ← Shape.item wanted 1 Shape.text items
  let directory ← Shape.item wanted 2 Shape.text items
  Shape.complete 3 items { file, command, directory }

def shape : Shape CompilationInfo := Shape.record "CompilationInfo" ofMembers ofItems

end CompilationInfo

/-- The answer of an editor that was asked how a document is compiled. -/
structure CompilationInfoResult where
  compilationInfo : Option CompilationInfo
  deriving Repr, DecidableEq

namespace CompilationInfoResult

def ofMembers (members : Members) : Except ShapeFault CompilationInfoResult := do
  let info? ← Shape.member? "compilationInfo" (Shape.optional CompilationInfo.shape) members
  return { compilationInfo := info?.join }

def ofItems (items : List Json) : Except ShapeFault CompilationInfoResult := do
  let wanted := Shape.recordOf "GetCompilationInfoResult" 1
  let compilationInfo ← Shape.item wanted 0 (Shape.optional CompilationInfo.shape) items
  Shape.complete 1 items { compilationInfo }

def shape : Shape CompilationInfoResult :=
  Shape.record "GetCompilationInfoResult" ofMembers ofItems

end CompilationInfoResult

/-- The params of the question how a document is compiled. -/
def compilationInfoParams (uri : String) : Json := .obj [("uri", .str uri)]

end EditorLink.Service
