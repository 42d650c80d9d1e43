/-!
# EditorLink — values of a configuration document

A configuration is written in TOML. What a document says is a table of values; of numbers with a fraction
and of dates and times only the fact is kept, since no setting has one.
-/

namespace EditorLink.Toml

/-- A value of a document. -/
inductive Value where
  | str (s : String)
  | int (n : Int)
  | float
  | bool (b : Bool)
  | moment
  | arr (items : List Value)
  | table (entries : List (String × Value))
  deriving Repr, Inhabited

/-- The entries of a table. -/
abbrev Entries := List (String × Value)

end EditorLink.Toml
