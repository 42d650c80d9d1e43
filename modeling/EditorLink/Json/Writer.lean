import EditorLink.Json.Value

/-!
# EditorLink — writing JSON

The compact text of a value, members in the order in which they stand.
-/

namespace EditorLink.Json

/-- A digit of base sixteen, lower case. -/
def hexDigit (n : Nat) : Char :=
  if n < 10 then Char.ofNat (n + 48) else Char.ofNat (n + 87)

/-- One character inside a JSON string. Quotes, backslashes and control characters are escaped, all
others stand for themselves. -/
def escaped (c : Char) : String :=
  if c == '"' then "\\\""
  else if c == '\\' then "\\\\"
  else if c == '\n' then "\\n"
  else if c == '\r' then "\\r"
  else if c == '\t' then "\\t"
  else if c == '\x08' then "\\b"
  else if c == '\x0c' then "\\f"
  else if c.toNat < 0x20 then
    String.ofList ['\\', 'u', '0', '0', hexDigit (c.toNat / 16), hexDigit (c.toNat % 16)]
  else c.toString

def writeString (s : String) : String :=
  s.toList.foldl (fun written c => written ++ escaped c) "\"" ++ "\""

mutual

def write : Json → String
  | .null => "null"
  | .bool true => "true"
  | .bool false => "false"
  | .int n => toString n
  | .double d => d.text
  | .str s => writeString s
  | .arr items => "[" ++ writeItems items ++ "]"
  | .obj members => "\x7b" ++ writeMembers members ++ "\x7d"

def writeItems : List Json → String
  | [] => ""
  | [v] => write v
  | v :: w :: rest => write v ++ "," ++ writeItems (w :: rest)

def writeMembers : Members → String
  | [] => ""
  | [(k, v)] => writeString k ++ ":" ++ write v
  | (k, v) :: m :: rest => writeString k ++ ":" ++ write v ++ "," ++ writeMembers (m :: rest)

end

end EditorLink.Json
