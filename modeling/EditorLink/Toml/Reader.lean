import EditorLink.Toml.Quoted
import EditorLink.Toml.Tree

/-!
# EditorLink — reading a configuration document

* `readKeys` — a key, dotted or not;
* `readValue` — a value;
* `read?` — a whole document: statements, one to a line, each carried out when it is read.

What is wrong with a document is not told apart: it is a document or it is none.
-/

namespace EditorLink.Toml

/-- How many arrays and tables may stand in one another in a value. -/
def maxNesting : Nat := 80

/-- A character of a key without quotes. -/
def isKeyChar (c : Char) : Bool := c.isAlphanum || c == '_' || c == '-'

def skipSpaces (text : List Char) : List Char := text.dropWhile isSpace

/-- The text behind a comment at the front; control characters may not stand in it. -/
def skipComment (text : List Char) : Option (List Char) :=
  match text with
  | '#' :: rest =>
    match rest.dropWhile isPrintable with
    | [] => some []
    | '\n' :: rest => some ('\n' :: rest)
    | '\r' :: '\n' :: rest => some ('\n' :: rest)
    | _ => none
  | rest => some rest

/-- The text without blanks, comments and line ends at its front. -/
def skipLines : (fuel : Nat) → List Char → Option (List Char)
  | 0, text => some text
  | fuel + 1, text => do
    match ← skipComment (skipSpaces text) with
    | '\n' :: rest => skipLines fuel rest
    | '\r' :: '\n' :: rest => skipLines fuel rest
    | rest => return rest

/-- The text without blanks, comments and line ends at its front. -/
def skipAll (text : List Char) : Option (List Char) := skipLines text.length text

def readKey (text : List Char) : Option (String × List Char) :=
  match text with
  | '"' :: rest => (basic rest).map fun (key, rest) => (String.ofList key, rest)
  | '\'' :: rest => (literal rest).map fun (key, rest) => (String.ofList key, rest)
  | rest =>
    let (key, rest) := rest.span isKeyChar
    if key.isEmpty then none else some (String.ofList key, rest)

/-- A key of one or more parts, points between them. -/
def readKeys : (fuel : Nat) → List Char → Option (List String × List Char)
  | 0, _ => none
  | fuel + 1, text => do
    let (key, rest) ← readKey (skipSpaces text)
    match skipSpaces rest with
    | '.' :: rest =>
      let (keys, rest) ← readKeys fuel rest
      return (key :: keys, rest)
    | rest => return ([key], rest)

/-- A character of a scalar without quotes. -/
def isScalarChar (c : Char) : Bool :=
  c.isAlphanum || c == '_' || c == '-' || c == '+' || c == '.' || c == ':'

/-- A scalar without quotes. A blank may stand between a date and a time. -/
def readScalar (text : List Char) : Option (Value × List Char) :=
  let (scalar, rest) := text.span isScalarChar
  match rest with
  | ' ' :: c :: rest' =>
    if date? scalar == some [] && c.isDigit then
      let (time, rest) := (c :: rest').span isScalarChar
      (scalar? (scalar ++ ' ' :: time)).map (·, rest)
    else (scalar? scalar).map (·, rest)
  | rest => (scalar? scalar).map (·, rest)

def textValue (read : TextRead) : Option (Value × List Char) :=
  read.map fun (text, rest) => (.str (String.ofList text), rest)

mutual

/-- Reads a value. `room` is how many more arrays and tables may be opened. -/
def readValue (fuel room : Nat) (text : List Char) : Option (Value × List Char) :=
  match fuel with
  | 0 => none
  | fuel + 1 =>
    match text with
    | '"' :: '"' :: '"' :: rest => textValue (basicLines false (dropLineEnd rest))
    | '"' :: rest => textValue (basic rest)
    | '\'' :: '\'' :: '\'' :: rest => textValue (literalLines (dropLineEnd rest))
    | '\'' :: rest => textValue (literal rest)
    | '[' :: rest =>
      match room with
      | 0 => none
      | room + 1 => readItems fuel room [] rest
    | '\x7b' :: rest =>
      match room with
      | 0 => none
      | room + 1 => readEntries fuel room [] rest
    | rest => readScalar rest

/-- Reads the items of an array up to its closing bracket; a comma may stand behind the last. -/
def readItems (fuel room : Nat) (done : List Value) (text : List Char) : Option (Value × List Char) :=
  match fuel with
  | 0 => none
  | fuel + 1 =>
    match skipAll text with
    | none => none
    | some (']' :: rest) => some (.arr done.reverse, rest)
    | some rest =>
      match readValue fuel room rest with
      | none => none
      | some (v, rest) =>
        match skipAll rest with
        | some (',' :: rest) => readItems fuel room (v :: done) rest
        | some (']' :: rest) => some (.arr (v :: done).reverse, rest)
        | _ => none

/-- Reads the entries of a table up to its closing brace; a comma may stand behind the last. -/
def readEntries (fuel room : Nat) (done : Open) (text : List Char) : Option (Value × List Char) :=
  match fuel with
  | 0 => none
  | fuel + 1 =>
    match skipAll text with
    | none => none
    | some ('\x7d' :: rest) => some (.table (closeEntries done), rest)
    | some rest =>
      match readKeys rest.length rest with
      | some (keys, '=' :: rest) =>
        match readValue fuel room (skipSpaces rest) with
        | none => none
        | some (v, rest) =>
          match put? v .header false keys done with
          | none => none
          | some done =>
            match skipAll rest with
            | some (',' :: rest) => readEntries fuel room done rest
            | some ('\x7d' :: rest) => some (.table (closeEntries done), rest)
            | _ => none
      | _ => none

end

/-- Where a document stands: its tables, and the header under which keys come. -/
structure Draft where
  root : Open := []
  header : List String := []

/-- Reads one statement, if there is one on the line, and carries it out. -/
def readStatement (d : Draft) (text : List Char) : Option (Draft × List Char) :=
  match text with
  | '[' :: '[' :: rest =>
    match readKeys rest.length rest with
    | some (path, ']' :: ']' :: rest) => do return (⟨← openItem? d.root path, path⟩, rest)
    | _ => none
  | '[' :: rest =>
    match readKeys rest.length rest with
    | some (path, ']' :: rest) => do return (⟨← open? d.root path, path⟩, rest)
    | _ => none
  | [] => some (d, [])
  | '\n' :: rest => some (d, '\n' :: rest)
  | '\r' :: '\n' :: rest => some (d, '\n' :: rest)
  | '#' :: rest => some (d, '#' :: rest)
  | rest =>
    match readKeys rest.length rest with
    | some (keys, '=' :: rest) => do
      let (v, rest) ← readValue (2 * rest.length + 2) maxNesting (skipSpaces rest)
      return (⟨← assign? d.root d.header keys v, d.header⟩, rest)
    | _ => none

/-- Reads statements, one to a line. -/
def readStatements : (fuel : Nat) → Draft → List Char → Option Draft
  | 0, d, _ => some d
  | fuel + 1, d, text => do
    let (d, rest) ← readStatement d (skipSpaces text)
    match ← skipComment (skipSpaces rest) with
    | [] => return d
    | '\n' :: rest => readStatements fuel d rest
    | '\r' :: '\n' :: rest => readStatements fuel d rest
    | _ => none

/-- The mark that may stand at the front of a text. -/
def byteOrderMark : Char := '\uFEFF'

/-- The table of a document. -/
def read? (document : String) : Option Entries :=
  let text := match document.toList with
    | c :: rest => if c == byteOrderMark then rest else c :: rest
    | [] => []
  (readStatements (text.length + 1) {} text).map fun d => closeEntries d.root

end EditorLink.Toml
