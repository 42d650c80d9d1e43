import EditorLink.Toml.Reader

/-!
# EditorLink — no key stands twice

In a document that is read, no table has a key twice, wherever the table stands: under a header, under dotted
keys, or inside a value. So there is one value for a key, and the order of the entries does not matter.

Tables are filled in while a document is read: a statement may add to a table that a header opened, or to one that
dotted keys opened, and a list of tables may get one more. All of these change one entry of a table that is open
(`setEntry`), under its key, and add it at the end if there is none. So the invariant is about open tables and says what
they come to when they are closed; one lemma carries it over a change of one entry, and the others pass it along the
path of keys.

The readers of values have fuel and call one another. They are bundled in `ReadsDistinct`, with one field for each, and
the bundle is proved by one induction on the fuel.

## Results

* `Value.Distinct` — no table of a value has a key twice;
* `setEntry_distinct`, `within?_distinct`, `put?_distinct` — statements keep this of the tables that are open;
* `readValue_distinct` — values are so from the start;
* `read?_distinct` — a whole document;
* `lookup_eq_some_iff_mem` — what is found under a key is what stands there.
-/

namespace EditorLink.Toml

/-- No table of the value has a key twice. -/
inductive Value.Distinct : Value → Prop
  | str (s : String) : Distinct (.str s)
  | int (n : Int) : Distinct (.int n)
  | float : Distinct .float
  | bool (b : Bool) : Distinct (.bool b)
  | moment : Distinct .moment
  | arr {items : List Value} (hitems : ∀ v ∈ items, Distinct v) : Distinct (.arr items)
  | table {entries : Entries} (hkeys : (entries.map Prod.fst).Nodup)
      (hvalues : ∀ entry ∈ entries, Distinct entry.2) : Distinct (.table entries)

namespace Value.Distinct

variable {entries : Entries}

/-- The keys of a table are all different. -/
theorem keys (h : (Value.table entries).Distinct) : (entries.map Prod.fst).Nodup := by
  cases h with
  | table hkeys hvalues => exact hkeys

/-- The values of a table have no key twice either. -/
theorem values (h : (Value.table entries).Distinct) {key : String} {v : Value} (hmem : (key, v) ∈ entries) :
    v.Distinct := by
  cases h with
  | table hkeys hvalues => exact hvalues _ hmem

end Value.Distinct

/-- No table of the open ones, taken as it is, has a key twice. -/
def Open.Distinct (entries : Open) : Prop := (Value.table (closeEntries entries)).Distinct

-- ---------------------------------------------------------------------------
-- Open tables
-- ---------------------------------------------------------------------------

/-- Closing a table closes its entries one by one. -/
theorem closeEntries_eq_map (entries : Open) :
    closeEntries entries = entries.map fun entry => (entry.1, entry.2.close) := by
  induction entries with
  | nil => rfl
  | cons entry rest ih => rw [closeEntries, ih, List.map_cons]

/-- Closing a list of tables closes each of them. -/
theorem closeTables_eq_map (items : List Open) :
    closeTables items = items.map fun entries => .table (closeEntries entries) := by
  induction items with
  | nil => rfl
  | cons entries rest ih => rw [closeTables, ih, List.map_cons]

/-- A table that is open: its own keys, and what its entries come to. -/
theorem Open.distinct_iff {entries : Open} :
    Open.Distinct entries ↔
      (entries.map Prod.fst).Nodup ∧ ∀ entry ∈ entries, entry.2.close.Distinct := by
  have hkeys : (closeEntries entries).map Prod.fst = entries.map Prod.fst := by
    rw [closeEntries_eq_map, List.map_map]
    rfl
  have hvalues : (∀ entry ∈ closeEntries entries, entry.2.Distinct) ↔
      ∀ entry ∈ entries, entry.2.close.Distinct := by
    rw [closeEntries_eq_map, List.forall_mem_map]
  rw [← hkeys, ← hvalues]
  exact ⟨fun h => ⟨h.keys, fun _ hmem => h.values hmem⟩, fun h => .table h.1 h.2⟩

theorem Open.distinct_nil : Open.Distinct [] := Open.distinct_iff.mpr ⟨List.nodup_nil, nofun⟩

/-- A list of tables that are open. -/
theorem Node.distinct_tables_iff {items : List Open} :
    (Node.tables items).close.Distinct ↔ ∀ entries ∈ items, Open.Distinct entries := by
  have hitems : (∀ v ∈ (closeTables items).reverse, v.Distinct) ↔ ∀ entries ∈ items, Open.Distinct entries := by
    simp only [List.mem_reverse, closeTables_eq_map, List.forall_mem_map, Open.Distinct]
  rw [Node.close, ← hitems]
  exact ⟨fun (.arr hitems) => hitems, .arr⟩

/-- A list of tables: the first and the others. -/
theorem Node.distinct_tables_cons_iff {entries : Open} {items : List Open} :
    (Node.tables (entries :: items)).close.Distinct ↔
      Open.Distinct entries ∧ (Node.tables items).close.Distinct := by
  rw [distinct_tables_iff, distinct_tables_iff, List.forall_mem_cons]

/-- What is found under a key of an open table. -/
theorem Open.Distinct.lookup {entries : Open} (h : Open.Distinct entries) {key : String} {node : Node}
    (hlookup : entries.lookup key = some node) : node.close.Distinct := by
  obtain ⟨before, after, rfl, -⟩ := List.lookup_eq_some_iff.mp hlookup
  exact (Open.distinct_iff.mp h).2 (key, node) (by simp)

-- ---------------------------------------------------------------------------
-- Statements
-- ---------------------------------------------------------------------------

/-- A change of one entry adds its key at most. -/
theorem mem_keys_setEntry {key k : String} {node : Node} {entries : Open}
    (h : k ∈ (setEntry key node entries).map Prod.fst) : k = key ∨ k ∈ entries.map Prod.fst := by
  induction entries with
  | nil => exact .inl (List.mem_singleton.mp h)
  | cons entry rest ih =>
    rw [setEntry] at h
    split at h
    · exact .inr h
    · rw [List.map_cons, List.mem_cons] at h ⊢
      rcases h with h | h
      · exact .inr (.inl h)
      · exact (ih h).imp_right .inr

/-- One entry is put in the place of another, or a new one is added. -/
theorem setEntry_distinct {key : String} {node : Node} {entries : Open} (h : Open.Distinct entries)
    (hnode : node.close.Distinct) : Open.Distinct (setEntry key node entries) := by
  rw [Open.distinct_iff] at h ⊢
  obtain ⟨hkeys, hnodes⟩ := h
  induction entries with
  | nil => simpa [setEntry] using hnode
  | cons entry rest ih =>
    obtain ⟨hfresh, hkeys'⟩ := List.nodup_cons.mp hkeys
    obtain ⟨hentry, hrest⟩ := List.forall_mem_cons.mp hnodes
    rw [setEntry]
    split
    · exact ⟨hkeys, List.forall_mem_cons.mpr ⟨hnode, hrest⟩⟩
    · rename_i hother
      -- the first key stands neither among those behind it nor is it the new one
      obtain ⟨ihkeys, ihnodes⟩ := ih hkeys' hrest
      refine ⟨List.nodup_cons.mpr ⟨fun hmem => ?_, ihkeys⟩, List.forall_mem_cons.mpr ⟨hentry, ihnodes⟩⟩
      exact (mem_keys_setEntry hmem).elim hother hfresh

/-- A table further down is changed, or made, and put back. -/
theorem setInner_distinct {inner? : Option Open} {wrap : Open → Node} {key : String} {entries entries' : Open}
    (h : Open.Distinct entries) (hinner : ∀ inner, inner? = some inner → (wrap inner).close.Distinct)
    (hset : (do return setEntry key (wrap (← inner?)) entries) = some entries') : Open.Distinct entries' := by
  obtain ⟨inner, hsome, hentries⟩ := Option.bind_eq_some_iff.mp hset
  obtain rfl := Option.some.inj hentries
  exact setEntry_distinct h (hinner inner hsome)

/-- A change to the table at the end of a way, along which tables may be made. -/
theorem within?_distinct {change : Open → Option Open}
    (hchange : ∀ inner inner', Open.Distinct inner → change inner = some inner' → Open.Distinct inner')
    {keys : List String} {entries entries' : Open} (h : Open.Distinct entries)
    (hwithin : within? change keys entries = some entries') : Open.Distinct entries' := by
  induction keys generalizing entries entries' with
  | nil => exact hchange _ _ h hwithin
  | cons key keys ih =>
    rw [within?] at hwithin
    split at hwithin
    · exact setInner_distinct h (fun _ => ih Open.distinct_nil) hwithin
    · rename_i made inner hlookup
      exact setInner_distinct h (fun _ => ih (h.lookup hlookup)) hwithin
    · rename_i item items hlookup
      obtain ⟨hitem, hitems⟩ := Node.distinct_tables_cons_iff.mp (h.lookup hlookup)
      exact setInner_distinct h (fun _ hinner => Node.distinct_tables_cons_iff.mpr ⟨ih hitem hinner, hitems⟩)
        hwithin
    · cases hwithin
    · cases hwithin

/-- A header opens a table that is new, or was only implied by others. -/
theorem openHere?_distinct {key : String} (entries entries' : Open) (h : Open.Distinct entries)
    (hopen : openHere? key entries = some entries') : Open.Distinct entries' := by
  rw [openHere?] at hopen
  split at hopen
  · cases hopen
    exact setEntry_distinct h Open.distinct_nil
  · rename_i inner hlookup
    have hinner : Open.Distinct inner := h.lookup hlookup
    cases hopen
    exact setEntry_distinct h hinner
  · cases hopen

/-- A header with two brackets adds an empty table to a list. -/
theorem openItemHere?_distinct {key : String} (entries entries' : Open) (h : Open.Distinct entries)
    (hopen : openItemHere? key entries = some entries') : Open.Distinct entries' := by
  rw [openItemHere?] at hopen
  split at hopen
  · cases hopen
    exact setEntry_distinct h (Node.distinct_tables_iff.mpr (by simpa using Open.distinct_nil))
  · rename_i items hlookup
    cases hopen
    exact setEntry_distinct h (Node.distinct_tables_cons_iff.mpr ⟨Open.distinct_nil, h.lookup hlookup⟩)
  · cases hopen

/-- A value under a dotted key. -/
theorem put?_distinct {v : Value} (hv : v.Distinct) {made : Made} {nested : Bool} {keys : List String}
    {entries entries' : Open} (h : Open.Distinct entries)
    (hput : put? v made nested keys entries = some entries') : Open.Distinct entries' := by
  induction keys generalizing made nested entries entries' with
  | nil => cases hput
  | cons key keys ih =>
    cases keys with
    | nil =>
      rw [put?] at hput
      split at hput
      · cases hput
      · split at hput
        · cases hput
          exact setEntry_distinct h hv
        · cases hput
    | cons next keys =>
      rw [put?] at hput
      · split at hput
        · exact setInner_distinct h (fun _ => ih Open.distinct_nil) hput
        · cases hput
        · rename_i made inner hlookup
          exact setInner_distinct h (fun _ => ih (h.lookup hlookup)) hput
        · rename_i item items hlookup
          obtain ⟨hitem, hitems⟩ := Node.distinct_tables_cons_iff.mp (h.lookup hlookup)
          exact setInner_distinct h
            (fun _ hinner => Node.distinct_tables_cons_iff.mpr ⟨ih hitem hinner, hitems⟩) hput
        · cases hput
        · cases hput
      · nofun

/-- A header opens its table at the end of a path of keys. -/
theorem open?_distinct {root root' : Open} {path : List String} (h : Open.Distinct root)
    (hopen : open? root path = some root') : Open.Distinct root' := by
  rw [open?] at hopen
  split at hopen
  · exact within?_distinct openHere?_distinct h hopen
  · cases hopen

theorem openItem?_distinct {root root' : Open} {path : List String} (h : Open.Distinct root)
    (hopen : openItem? root path = some root') : Open.Distinct root' := by
  rw [openItem?] at hopen
  split at hopen
  · exact within?_distinct openItemHere?_distinct h hopen
  · cases hopen

/-- **A statement** gives a key one value. -/
theorem assign?_distinct {root root' : Open} {path keys : List String} {v : Value} (hv : v.Distinct)
    (h : Open.Distinct root) (hassign : assign? root path keys v = some root') : Open.Distinct root' :=
  within?_distinct (fun _ _ => put?_distinct hv) h hassign

-- ---------------------------------------------------------------------------
-- Values
-- ---------------------------------------------------------------------------

/-- A scalar has no keys. -/
theorem scalar?_distinct {text : List Char} {v : Value} (h : scalar? text = some v) : v.Distinct := by
  rw [scalar?] at h
  split at h
  · cases h
    exact .bool true
  · split at h
    · cases h
      exact .bool false
    · split at h
      · rename_i n _
        cases h
        exact .int n
      · split at h
        · cases h
          exact .float
        · split at h
          · cases h
            exact .moment
          · cases h

/-- Neither has one that is read from the front of a text. -/
theorem readScalar_distinct {text rest : List Char} {v : Value} (h : readScalar text = some (v, rest)) :
    v.Distinct := by
  have hmap : ∀ {scalar behind : List Char}, (scalar? scalar).map (·, behind) = some (v, rest) → v.Distinct := by
    intro scalar behind hread
    obtain ⟨w, hw, hpair⟩ := Option.map_eq_some_iff.mp hread
    cases hpair
    exact scalar?_distinct hw
  rw [readScalar] at h
  dsimp only at h
  split at h
  · split at h
    · exact hmap h
    · exact hmap h
  · exact hmap h

theorem textValue_distinct {read : TextRead} {rest : List Char} {v : Value}
    (h : textValue read = some (v, rest)) : v.Distinct := by
  obtain ⟨w, -, hpair⟩ := Option.map_eq_some_iff.mp h
  cases hpair
  exact .str _

/-- What a reader of values keeps, with a given fuel: its values, and the items and entries of those that it is
reading. -/
structure ReadsDistinct (fuel : Nat) : Prop where
  value : ∀ {room text v rest}, readValue fuel room text = some (v, rest) → v.Distinct
  items : ∀ {room done text v rest}, (∀ item ∈ done, Value.Distinct item) →
    readItems fuel room done text = some (v, rest) → v.Distinct
  entries : ∀ {room done text v rest}, Open.Distinct done →
    readEntries fuel room done text = some (v, rest) → v.Distinct

theorem arr_reverse_distinct {done : List Value} (h : ∀ item ∈ done, item.Distinct) :
    (Value.arr done.reverse).Distinct :=
  .arr fun v hv => h v (List.mem_reverse.mp hv)

/-- **All readers of values**, by induction on the fuel. -/
theorem readsDistinct (fuel : Nat) : ReadsDistinct fuel := by
  -- each of the three readers calls the others with less fuel, so all are taken along together
  induction fuel with
  | zero => exact ⟨nofun, nofun, nofun⟩
  | succ fuel ih =>
    constructor
    case value =>
      intro room text v rest h
      unfold readValue at h
      split at h
      · exact textValue_distinct h
      · exact textValue_distinct h
      · exact textValue_distinct h
      · exact textValue_distinct h
      · split at h
        · cases h
        · exact ih.items (List.forall_mem_nil _) h
      · split at h
        · cases h
        · exact ih.entries Open.distinct_nil h
      · exact readScalar_distinct h
    case items =>
      intro room done text v rest hdone h
      rw [readItems] at h
      split at h
      · cases h
      · cases h
        exact arr_reverse_distinct hdone
      · split at h
        · cases h
        · rename_i w _ hw
          have hdone' : ∀ item ∈ w :: done, item.Distinct :=
            List.forall_mem_cons.mpr ⟨ih.value hw, hdone⟩
          split at h
          · exact ih.items hdone' h
          · cases h
            exact arr_reverse_distinct hdone'
          · cases h
    case entries =>
      intro room done text v rest hdone h
      rw [readEntries] at h
      split at h
      · cases h
      · cases h
        exact hdone
      · split at h
        · split at h
          · cases h
          · rename_i w _ hw
            split at h
            · cases h
            · rename_i done' hput
              have hdone' := put?_distinct (ih.value hw) hdone hput
              split at h
              · exact ih.entries hdone' h
              · cases h
                exact hdone'
              · cases h
        · cases h

/-- So a value that is read has no key twice. -/
theorem readValue_distinct {fuel room : Nat} {text rest : List Char} {v : Value}
    (h : readValue fuel room text = some (v, rest)) : v.Distinct :=
  (readsDistinct fuel).value h

-- ---------------------------------------------------------------------------
-- Documents
-- ---------------------------------------------------------------------------

/-- One statement keeps it. -/
theorem readStatement_distinct {d d' : Draft} {text rest : List Char} (h : Open.Distinct d.root)
    (hread : readStatement d text = some (d', rest)) : Open.Distinct d'.root := by
  unfold readStatement at hread
  split at hread
  · split at hread
    · obtain ⟨root, hroot, hpair⟩ := Option.bind_eq_some_iff.mp hread
      cases hpair
      exact openItem?_distinct h hroot
    · cases hread
  · split at hread
    · obtain ⟨root, hroot, hpair⟩ := Option.bind_eq_some_iff.mp hread
      cases hpair
      exact open?_distinct h hroot
    · cases hread
  · cases hread
    exact h
  · cases hread
    exact h
  · cases hread
    exact h
  · cases hread
    exact h
  · split at hread
    · obtain ⟨⟨v, rest'⟩, hvalue, hread⟩ := Option.bind_eq_some_iff.mp hread
      obtain ⟨root, hroot, hpair⟩ := Option.bind_eq_some_iff.mp hread
      cases hpair
      exact assign?_distinct (readValue_distinct hvalue) h hroot
    · cases hread

theorem readStatements_distinct {fuel : Nat} {d d' : Draft} {text : List Char} (h : Open.Distinct d.root)
    (hread : readStatements fuel d text = some d') : Open.Distinct d'.root := by
  induction fuel generalizing d text with
  | zero =>
    cases hread
    exact h
  | succ fuel ih =>
    rw [readStatements] at hread
    obtain ⟨⟨d₁, rest⟩, hstatement, hread⟩ := Option.bind_eq_some_iff.mp hread
    obtain ⟨rest', -, hread⟩ := Option.bind_eq_some_iff.mp hread
    have h₁ := readStatement_distinct h hstatement
    split at hread
    · cases hread
      exact h₁
    · exact ih h₁ hread
    · exact ih h₁ hread
    · cases hread

/-- **A document that is read** has no key twice in any of its tables. -/
theorem read?_distinct {text : String} {document : Entries} (h : read? text = some document) :
    (Value.table document).Distinct := by
  obtain ⟨d, hd, rfl⟩ := Option.map_eq_some_iff.mp h
  exact readStatements_distinct Open.distinct_nil hd

-- ---------------------------------------------------------------------------
-- Look-ups
-- ---------------------------------------------------------------------------

/-- If no key stands twice, a look-up finds what stands there. -/
theorem lookup_eq_some_iff_mem {α : Type} {entries : List (String × α)} (h : (entries.map Prod.fst).Nodup)
    {key : String} {a : α} : entries.lookup key = some a ↔ (key, a) ∈ entries := by
  constructor
  · intro hlookup
    obtain ⟨before, after, rfl, -⟩ := List.lookup_eq_some_iff.mp hlookup
    simp
  · intro hmem
    obtain ⟨before, after, rfl⟩ := List.append_of_mem hmem
    refine List.lookup_eq_some_iff.mpr ⟨before, after, rfl, fun entry hentry => ?_⟩
    rw [List.map_append, List.map_cons, List.nodup_append] at h
    have hother := h.2.2 entry.1 (List.mem_map_of_mem hentry) key List.mem_cons_self
    exact bne_iff_ne.mpr (Ne.symm hother)

end EditorLink.Toml
