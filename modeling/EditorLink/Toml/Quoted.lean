import EditorLink.Toml.Scalar

/-!
# EditorLink — quoted text in a configuration document

Four forms of quoted text: basic and literal, on one line or on several. Basic text has escapes, literal
text has none. Each reader starts behind the opening quotes and answers with the text and the rest.
-/

namespace EditorLink.Toml

def isPrintable (c : Char) : Bool := c == '\t' || (0x20 ≤ c.toNat && c.toNat != 0x7F)

def isSpace (c : Char) : Bool := c == ' ' || c == '\t'

/-- The character that digits of base sixteen number; surrogates are no characters. -/
def codePoint? (digits : List Char) : Option Char := do
  let values ← digits.mapM (digitValue? 16)
  let n := ofDigits 16 values
  if h : n.isValidChar then some (Char.ofNatAux n h) else none

def letterEscape? : Char → Option Char
  | 'b' => some '\x08'
  | 't' => some '\t'
  | 'n' => some '\n'
  | 'f' => some '\x0c'
  | 'r' => some '\r'
  | 'e' => some '\x1b'
  | '"' => some '"'
  | '\\' => some '\\'
  | _ => none

/-- What a reader of text answers with: the text and the rest. -/
abbrev TextRead := Option (List Char × List Char)

/-- Puts a character before the text that was read. -/
def consTo (c : Char) (read : TextRead) : TextRead := read.map fun (text, rest) => (c :: text, rest)

/-- Basic text on one line. -/
def basic : List Char → TextRead
  | [] => none
  | '"' :: rest => some ([], rest)
  | '\\' :: 'x' :: a :: b :: rest => do consTo (← codePoint? [a, b]) (basic rest)
  | '\\' :: 'u' :: a :: b :: c :: d :: rest => do consTo (← codePoint? [a, b, c, d]) (basic rest)
  | '\\' :: 'U' :: a :: b :: c :: d :: e :: f :: g :: h :: rest => do
    consTo (← codePoint? [a, b, c, d, e, f, g, h]) (basic rest)
  | '\\' :: c :: rest => do consTo (← letterEscape? c) (basic rest)
  | c :: rest => if isPrintable c && c != '\\' then consTo c (basic rest) else none

/-- Literal text on one line. -/
def literal : List Char → TextRead
  | [] => none
  | '\'' :: rest => some ([], rest)
  | c :: rest => if isPrintable c then consTo c (literal rest) else none

/-- Whether nothing but blanks stands before the end of the line. -/
def endsLine : List Char → Bool
  | [] => false
  | '\n' :: _ => true
  | '\r' :: '\n' :: _ => true
  | c :: rest => isSpace c && endsLine rest

/-- Basic text on several lines. Behind a backslash at the end of a line, blanks and line ends are passed
over; `skipping` says that this goes on. -/
def basicLines (skipping : Bool) : List Char → TextRead
  | [] => none
  | '"' :: '"' :: '"' :: '"' :: '"' :: rest => some (['"', '"'], rest)
  | '"' :: '"' :: '"' :: '"' :: rest => some (['"'], rest)
  | '"' :: '"' :: '"' :: rest => some ([], rest)
  | '\r' :: '\n' :: rest =>
    if skipping then basicLines true rest else consTo '\r' (consTo '\n' (basicLines false rest))
  | '\n' :: rest => if skipping then basicLines true rest else consTo '\n' (basicLines false rest)
  | '\\' :: 'x' :: a :: b :: rest => do consTo (← codePoint? [a, b]) (basicLines false rest)
  | '\\' :: 'u' :: a :: b :: c :: d :: rest => do
    consTo (← codePoint? [a, b, c, d]) (basicLines false rest)
  | '\\' :: 'U' :: a :: b :: c :: d :: e :: f :: g :: h :: rest => do
    consTo (← codePoint? [a, b, c, d, e, f, g, h]) (basicLines false rest)
  | '\\' :: c :: rest =>
    if endsLine (c :: rest) then
      if c == '\r' || c == '\n' || isSpace c then basicLines true rest else none
    else do consTo (← letterEscape? c) (basicLines false rest)
  | c :: rest =>
    if skipping && isSpace c then basicLines true rest
    else if isPrintable c && c != '\\' then consTo c (basicLines false rest)
    else none

/-- Literal text on several lines. -/
def literalLines : List Char → TextRead
  | [] => none
  | '\'' :: '\'' :: '\'' :: '\'' :: '\'' :: rest => some (['\'', '\''], rest)
  | '\'' :: '\'' :: '\'' :: '\'' :: rest => some (['\''], rest)
  | '\'' :: '\'' :: '\'' :: rest => some ([], rest)
  | '\r' :: '\n' :: rest => consTo '\r' (consTo '\n' (literalLines rest))
  | '\n' :: rest => consTo '\n' (literalLines rest)
  | c :: rest => if isPrintable c then consTo c (literalLines rest) else none

/-- The text behind a line end that stands at the front. -/
def dropLineEnd : List Char → List Char
  | '\r' :: '\n' :: rest => rest
  | '\n' :: rest => rest
  | rest => rest

end EditorLink.Toml
