import EditorLink.Toml.Value

/-!
# EditorLink — the tables of a configuration document

The statements of a document open tables and put values into them. A table may be opened by a header only
once, and a table that a dotted key made belongs to the header under which it was made.

* `Node` — a value, or a table or a list of tables that is still open;
* `open?`, `openItem?` — what a header does;
* `assign?` — what a key with a value does.

Each answers with the tables after it, or with nothing if the document contradicts itself.
-/

namespace EditorLink.Toml

/-- How a table came to be. -/
inductive Made where
  /-- By a header of its own. -/
  | header
  /-- By the header of a table inside it. -/
  | implied
  /-- By a dotted key. -/
  | dotted
  deriving Repr, DecidableEq

/-- A part of a document that is being read. -/
inductive Node where
  | leaf (v : Value)
  | table (made : Made) (entries : List (String × Node))
  /-- A list of tables, the latest first; only that one is open. -/
  | tables (items : List (List (String × Node)))
  deriving Repr, Inhabited

/-- The entries of an open table. -/
abbrev Open := List (String × Node)

/-- Replaces the entry of a key, or adds it at the end. -/
def setEntry (key : String) (node : Node) : Open → Open
  | [] => [(key, node)]
  | (k, n) :: rest => if k = key then (k, node) :: rest else (k, n) :: setEntry key node rest

/-- Goes down along the keys of a header and changes the table at the end. Tables that are missing are
implied. -/
def within? (change : Open → Option Open) : List String → Open → Option Open
  | [], entries => change entries
  | key :: keys, entries =>
    match entries.lookup key with
    | none => do
      return setEntry key (.table .implied (← within? change keys [])) entries
    | some (.table made inner) => do
      return setEntry key (.table made (← within? change keys inner)) entries
    | some (.tables (item :: items)) => do
      return setEntry key (.tables ((← within? change keys item) :: items)) entries
    | some (.tables []) => none
    | some (.leaf _) => none

/-- Opens a table by its own name: it has to be new, or only implied. -/
def openHere? (key : String) (entries : Open) : Option Open :=
  match entries.lookup key with
  | none => some (setEntry key (.table .header []) entries)
  | some (.table .implied inner) => some (setEntry key (.table .header inner) entries)
  | some _ => none

/-- Opens one more table of a list. -/
def openItemHere? (key : String) (entries : Open) : Option Open :=
  match entries.lookup key with
  | none => some (setEntry key (.tables [[]]) entries)
  | some (.tables items) => some (setEntry key (.tables ([] :: items)) entries)
  | some _ => none

/-- Opens the table of a header. -/
def open? (root : Open) (path : List String) : Option Open :=
  match path.getLast? with
  | some key => within? (openHere? key) path.dropLast root
  | none => none

/-- Opens a table of the list of a header. -/
def openItem? (root : Open) (path : List String) : Option Open :=
  match path.getLast? with
  | some key => within? (openItemHere? key) path.dropLast root
  | none => none

/-- Puts a value into a table under a dotted key. `made` tells how the table came to be: only the last
key of several goes into a table that dotted keys made, and a single key into one that they did not. -/
def put? (value : Value) (made : Made) (nested : Bool) : List String → Open → Option Open
  | [], _ => none
  | [key], entries =>
    -- one way of writing must not add to a table that the other has made
    if (made == .dotted) != nested then none
    else
      match entries.lookup key with
      | none => some (setEntry key (.leaf value) entries)
      | some _ => none
  | key :: keys, entries =>
    match entries.lookup key with
    | none => do
      return setEntry key (.table .dotted (← put? value .dotted true keys [])) entries
    | some (.table .header _) => none
    | some (.table made inner) => do
      return setEntry key (.table made (← put? value made true keys inner)) entries
    | some (.tables (item :: items)) => do
      return setEntry key (.tables ((← put? value .header true keys item) :: items)) entries
    | some (.tables []) => none
    | some (.leaf _) => none

def assign? (root : Open) (path keys : List String) (value : Value) : Option Open :=
  within? (put? value .header false keys) path root

mutual

/-- The value of a part of a document. -/
def Node.close : Node → Value
  | .leaf v => v
  | .table _ entries => .table (closeEntries entries)
  | .tables items => .arr (closeTables items).reverse

/-- The values of the entries of a table. -/
def closeEntries : List (String × Node) → Entries
  | [] => []
  | (k, n) :: rest => (k, n.close) :: closeEntries rest

/-- The values of a list of tables. -/
def closeTables : List (List (String × Node)) → List Value
  | [] => []
  | entries :: rest => .table (closeEntries entries) :: closeTables rest

end

end EditorLink.Toml
