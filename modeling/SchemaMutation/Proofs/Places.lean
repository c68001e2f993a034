import SchemaMutation.Proofs.Lookup
import SchemaMutation.Proofs.SnapshotFiles

/-!
# Places

That no place in an index dangles. The place of a table is put into the index before the table is there, the files of
snapshots hold no indices, and a key that comes again takes the new place. Even so every place that an index of a
snapshot holds is inside its list, and every table and every column has an entry under its key, whatever the columns or
the file that the snapshot was made from (`Snapshot.never_dangles`). So a lookup ends at a place that is there or at a
key that has none.
-/

namespace SchemaMutation.Schema

section
variable {α β : Type} {ix : Index α} {at? : α → Option β} {key : β → String}

/-- The entries of an index are the places of all values under their keys. -/
def Index.Lists (ix : Index α) (at? : α → Option β) (key : β → String) : Prop :=
  ∀ k place, (k, place) ∈ ix.entries ↔ ∃ b, at? place = some b ∧ key b = k

theorem Index.Lists.found (lists : ix.Lists at? key) {k : String} {place : α} (found : ix.get? k = some place) :
    ∃ b, at? place = some b ∧ key b = k := by
  rcases ix.get?_cases k with ⟨place', member, found'⟩ | ⟨_, missing⟩
  · rw [found] at found'
    cases found'
    exact (lists k place).mp member
  · rw [found] at missing
    cases missing

theorem Index.Lists.entry (lists : ix.Lists at? key) {place : α} {b : β} (there : at? place = some b) :
    ∃ place', ix.get? (key b) = some place' := by
  rcases ix.get?_cases (key b) with ⟨place', _, found⟩ | ⟨missing, _⟩
  · exact ⟨place', found⟩
  · exact absurd ((lists (key b) place).mpr ⟨b, there, rfl⟩) (missing place)

end

theorem Table.names_lists {t : Table} (indexed : t.reindex = t) :
    t.names.Lists (t.columns[·]?) (Text.lowercase ·.name) := by
  have names : t.names = Index.empty.insertAll (nameEntries t.columns) := (congrArg Table.names indexed).symm
  intro k place
  rw [names, Index.mem_insertAll]
  simp only [nameEntries, Index.empty, List.not_mem_nil, or_false, List.mem_map, Prod.exists,
    List.mem_zipIdx_iff_getElem?, Prod.mk.injEq]
  constructor
  · rintro ⟨c, i, there, sameKey, rfl⟩
    exact ⟨c, there, sameKey⟩
  · rintro ⟨c, there, sameKey⟩
    exact ⟨c, place, there, sameKey, rfl⟩

inductive Table.Finds (t : Table) (name : String) : Option Column → Prop
  | there {place : Nat} (entry : t.names.get? (Text.lowercase name) = some place) (inside : place < t.columns.length) :
      Finds t name (some t.columns[place])
  | missing (noEntry : t.names.get? (Text.lowercase name) = none) : Finds t name none

theorem Table.column?_finds {t : Table} (indexed : t.reindex = t) (name : String) : t.Finds name (t.column? name) := by
  cases entry : t.names.get? (Text.lowercase name) with
  | none =>
    have missing : t.column? name = none := by simp [column?, entry]
    exact missing ▸ .missing entry
  | some place =>
    obtain ⟨c, there, _⟩ := (names_lists indexed).found entry
    obtain ⟨inside, same⟩ := List.getElem?_eq_some_iff.mp there
    have found : t.column? name = some t.columns[place] := by simp [column?, entry, inside]
    exact found ▸ .there entry inside

namespace Snapshot

inductive FindsTable (s : Snapshot) (schema name : String) : Except Error Table → Prop
  | there {place : Nat} (entry : s.tableIndex.get? (tableKey schema name) = some place)
      (inside : place < s.tables.length) : FindsTable s schema name (.ok s.tables[place])
  | missing (noEntry : s.tableIndex.get? (tableKey schema name) = none) :
      FindsTable s schema name (.error (.notFound .table (schema ++ "." ++ name)))

/-- How a column is found: at a place inside the list of a table inside the list of tables or, if its key has no entry,
    as the table finds it. -/
inductive FindsColumn (s : Snapshot) (schema table column : String) : Except Error Column → Prop
  | there {place : Nat × Nat} (entry : s.columnIndex.get? (columnKey schema table column) = some place)
      (inTables : place.1 < s.tables.length) (inColumns : place.2 < s.tables[place.1].columns.length) :
      FindsColumn s schema table column (.ok s.tables[place.1].columns[place.2])
  | noTable {e : Error} (noEntry : s.columnIndex.get? (columnKey schema table column) = none)
      (missing : s.FindsTable schema table (.error e)) : FindsColumn s schema table column (.error e)
  | inTable {t : Table} {c : Column} (noEntry : s.columnIndex.get? (columnKey schema table column) = none)
      (found : s.FindsTable schema table (.ok t)) (finds : t.Finds column (some c)) :
      FindsColumn s schema table column (.ok c)
  | noColumn {t : Table} (noEntry : s.columnIndex.get? (columnKey schema table column) = none)
      (found : s.FindsTable schema table (.ok t)) (finds : t.Finds column none) :
      FindsColumn s schema table column (.error (.notFound .column (schema ++ "." ++ table ++ "." ++ column)))

section
variable {s : Snapshot}

theorem table_finds (placed : s.Placed) (schema name : String) : s.FindsTable schema name (s.table schema name) := by
  cases entry : s.tableIndex.get? (tableKey schema name) with
  | none =>
    have missing : s.table schema name = .error (.notFound .table (schema ++ "." ++ name)) := by simp [table, entry]
    exact missing ▸ .missing entry
  | some place =>
    obtain ⟨t, there, _⟩ := Index.Lists.found placed.tables entry
    obtain ⟨inside, same⟩ := List.getElem?_eq_some_iff.mp there
    have found : s.table schema name = .ok s.tables[place] := by simp [table, entry, inside]
    exact found ▸ .there entry inside

theorem columnAt?_eq_some {place : Nat × Nat} {c : Column} :
    s.columnAt? place = some c ↔
      ∃ inTables : place.1 < s.tables.length, ∃ inColumns : place.2 < s.tables[place.1].columns.length,
        s.tables[place.1].columns[place.2] = c := by
  simp only [columnAt?, Option.bind_eq_some_iff, List.getElem?_eq_some_iff]
  constructor
  · rintro ⟨t, ⟨inTables, rfl⟩, inColumns, same⟩
    exact ⟨inTables, inColumns, same⟩
  · rintro ⟨inTables, inColumns, same⟩
    exact ⟨_, ⟨inTables, rfl⟩, inColumns, same⟩

theorem exists_columnAt? {t : Table} (inSnapshot : t ∈ s.tables) {c : Column} (inTable : c ∈ t.columns) :
    ∃ place, s.columnAt? place = some c := by
  obtain ⟨i, inTables, rfl⟩ := List.mem_iff_getElem.mp inSnapshot
  obtain ⟨j, inColumns, same⟩ := List.mem_iff_getElem.mp inTable
  exact ⟨(i, j), columnAt?_eq_some.mpr ⟨inTables, inColumns, same⟩⟩

theorem column_finds (placed : s.Placed) (indexed : ∀ t ∈ s.tables, t.reindex = t) (schema table column : String) :
    s.FindsColumn schema table column (s.column schema table column) := by
  cases entry : s.columnIndex.get? (columnKey schema table column) with
  | some place =>
    obtain ⟨c, there, _⟩ := Index.Lists.found placed.columns entry
    obtain ⟨inTables, inColumns, rfl⟩ := columnAt?_eq_some.mp there
    have exact : s.exactColumn? (columnKey schema table column) = some s.tables[place.1].columns[place.2] := by
      rw [exactColumn?, entry, Option.bind_some, there]
    exact column_of_exact exact ▸ .there entry inTables inColumns
  | none =>
    have inexact : s.exactColumn? (columnKey schema table column) = none := by
      rw [exactColumn?, entry, Option.bind_none]
    have finds := table_finds placed schema table
    cases looked : s.table schema table with
    | error e => exact column_of_noTable inexact looked ▸ .noTable entry (looked ▸ finds)
    | ok t =>
      have named := Table.column?_finds (indexed t (table_mem looked)) column
      rw [column_of_table inexact looked]
      rw [looked] at finds
      cases hit : t.column? column with
      | some c => exact .inTable entry finds (hit ▸ named)
      | none => exact .noColumn entry finds (hit ▸ named)

end

/-- A snapshot that was assembled from columns or loaded from a file. -/
inductive Built : Snapshot → Prop
  | assembled (engine : Catalog.Engine) (version : Int) (schema name : String) (columns : List Column)
      (functions : List Function) (blockList : BlockList) :
      Built (ofColumns engine version schema name columns functions blockList)
  | loaded {text : String} {s : Snapshot} (accepted : ofText text = .ok s) : Built s

/-- No place that the indices hold dangles, nothing is left out of them, and no lookup reads outside a list. -/
structure Anchored (s : Snapshot) : Prop where
  tablePlaces : ∀ e ∈ s.tableIndex.entries, ∃ inside : e.2 < s.tables.length,
    tableKey s.tables[e.2].schema s.tables[e.2].name = e.1
  columnPlaces : ∀ e ∈ s.columnIndex.entries, ∃ inTables : e.2.1 < s.tables.length,
    ∃ inColumns : e.2.2 < s.tables[e.2.1].columns.length, let c := s.tables[e.2.1].columns[e.2.2]
      columnKey c.schema c.table c.name = e.1
  namePlaces : ∀ t ∈ s.tables, ∀ e ∈ t.names.entries, ∃ inside : e.2 < t.columns.length,
    Text.lowercase t.columns[e.2].name = e.1
  tableEntries : ∀ t ∈ s.tables, ∃ place, s.tableIndex.get? (tableKey t.schema t.name) = some place
  columnEntries : ∀ t ∈ s.tables, ∀ c ∈ t.columns, ∃ place,
    s.columnIndex.get? (columnKey c.schema c.table c.name) = some place
  nameEntries : ∀ t ∈ s.tables, ∀ c ∈ t.columns, ∃ place, t.names.get? (Text.lowercase c.name) = some place
  tables : ∀ schema name, s.FindsTable schema name (s.table schema name)
  columns : ∀ schema table column, s.FindsColumn schema table column (s.column schema table column)
  names : ∀ t ∈ s.tables, ∀ name, t.Finds name (t.column? name)

theorem Indexed.placed {s : Snapshot} (indexed : s.Indexed) : s.Placed := by
  rw [← indexed.whole]
  exact addTables_placed (blank_placed ..) s.tables

theorem Built.indexed {s : Snapshot} (built : s.Built) : s.Indexed := by
  cases built with
  | assembled engine version schema name columns functions blockList =>
    exact addTables_indexed engine version schema name functions [] fun t member => (mem_tablesOf_parts member).1
  | loaded accepted => exact (inRange_of_ofText accepted).2

/-- The indices of a snapshot hold places inside their lists only, and one for every table and every column, so that
    every lookup ends at a place that is there or at a key that has none. -/
theorem never_dangles {s : Snapshot} (built : s.Built) : s.Anchored := by
  have indexed := built.indexed
  have placed := indexed.placed
  have names {t : Table} (member : t ∈ s.tables) := Table.names_lists (indexed.tables t member)
  constructor
  case tablePlaces =>
    intro e member
    obtain ⟨t, there, sameKey⟩ := (placed.tables e.1 e.2).mp member
    obtain ⟨inside, rfl⟩ := List.getElem?_eq_some_iff.mp there
    exact ⟨inside, sameKey⟩
  case columnPlaces =>
    intro e member
    obtain ⟨c, there, sameKey⟩ := (placed.columns e.1 e.2).mp member
    obtain ⟨inTables, inColumns, rfl⟩ := columnAt?_eq_some.mp there
    exact ⟨inTables, inColumns, sameKey⟩
  case namePlaces =>
    intro t inSnapshot e member
    obtain ⟨c, there, sameKey⟩ := (names inSnapshot e.1 e.2).mp member
    obtain ⟨inside, rfl⟩ := List.getElem?_eq_some_iff.mp there
    exact ⟨inside, sameKey⟩
  case tableEntries =>
    intro t inSnapshot
    obtain ⟨i, there⟩ := List.mem_iff_getElem?.mp inSnapshot
    exact Index.Lists.entry placed.tables there
  case columnEntries =>
    intro t inSnapshot c inTable
    obtain ⟨place, there⟩ := exists_columnAt? inSnapshot inTable
    exact Index.Lists.entry placed.columns there
  case nameEntries =>
    intro t inSnapshot c inTable
    obtain ⟨j, there⟩ := List.mem_iff_getElem?.mp inTable
    exact (names inSnapshot).entry there
  case tables => exact table_finds placed
  case columns => exact column_finds placed indexed.tables
  case names => exact fun t inSnapshot => Table.column?_finds (indexed.tables t inSnapshot)

/-- Two tables with one key, and two columns of one of them whose names differ in case only. -/
def collidingColumns : List Column := [
  .plain "a:b" "c" "id" "int",
  .plain "a" "b:c" "id" "int",
  .plain "a" "b:c" "Id" "text"]

def repeatedTables : Snapshot := (blank .postgres 0 "public" "app" [] []).addTables [
  .ofColumns "public" "notes" "" [.plain "public" "notes" "id" "int", .plain "other" "tags" "id" "int"],
  .ofColumns "public" "notes" "" [],
  .ofColumns "public" "tags" "" [.plain "public" "notes" "id" "text", .plain "public" "notes" "ID" "text"]]

theorem never_dangles_colliding :
    (ofColumns .postgres 0 "public" "app" collidingColumns [] []).Anchored ∧
      ofText repeatedTables.toText = .ok repeatedTables ∧ repeatedTables.Anchored := by
  have inRange : repeatedTables.InRange := by
    refine ⟨by decide, fun t member => ?_, nofun⟩
    have parts : ∀ t ∈ repeatedTables.tables, (∀ c ∈ t.columns, c.InRange) ∧ t.primary = none ∧ t.secondary = none ∧
        t.fullText = [] := by decide
    obtain ⟨own, primary, secondary, fullText⟩ := parts t member
    exact ⟨own, by simp [primary], by simp [secondary], by simp [fullText]⟩
  have indexed : repeatedTables.Indexed := addTables_indexed _ _ _ _ _ _ (by decide)
  have accepted : ofText repeatedTables.toText = .ok repeatedTables := by
    rw [ofText, toText, (readsBack (n := 0) inRange indexed).readText_pretty (by decide)]
  exact ⟨never_dangles (.assembled ..), accepted, never_dangles (.loaded accepted)⟩

end Snapshot

end SchemaMutation.Schema
