import EditorLink.Text.Hidden

/-!
# EditorLink — quoted text in messages

Messages show foreign text between double quotes, so that its ends and its unprintable characters
can be seen.
-/

namespace EditorLink.Text

def hexadecimal (n : Nat) : String := String.ofList (Nat.toDigits 16 n)

/-- One character as quoted text shows it. -/
def quotedChar (c : Char) : String :=
  if c == '"' then "\\\""
  else if c == '\\' then "\\\\"
  else if c == '\n' then "\\n"
  else if c == '\r' then "\\r"
  else if c == '\t' then "\\t"
  else if c.toNat == 0 then "\\0"
  else if isHidden c then "\\u\x7b" ++ hexadecimal c.toNat ++ "\x7d"
  else c.toString

/-- A text between double quotes, its quotes and backslashes escaped and its hidden characters shown by
number. -/
def quoted (s : String) : String :=
  s.toList.foldl (fun shown c => shown ++ quotedChar c) "\"" ++ "\""

end EditorLink.Text
