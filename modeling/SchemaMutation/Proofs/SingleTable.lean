import SchemaMutation.Proofs.Lookup
import SchemaMutation.Proofs.RowOrder
import SchemaMutation.Proofs.WholeNames

/-!
# Single tables

There are two ways to a table: to discover the whole catalog and look the table up, or to fetch it alone. Over a source
that serves the same facts both ways (`Discovery.Serves`) they agree on all tables and under all block lists exactly
when no table is internal and no name of a schema or a table has a colon (`Discovery.table_agrees_iff`). A fetch shows
internal tables, which discovery leaves out, and asks for a schema and a name where a lookup only has both of them
joined.
-/

namespace SchemaMutation

namespace Pattern

theorem spans_repeated_chars (text : List Char) (set : Text.RangeSet) :
    Spans text (.rep 0 none (.chars set)) 0 text.length ↔ ∀ c ∈ text, set.hasChar c = true := by
  have times_iff (n i j : Nat) : Times (Spans text (.chars set)) n i j ↔
      j = i + n ∧ ∀ k, i ≤ k → k < j → ∃ c, text[k]? = some c ∧ set.hasChar c = true := by
    induction n generalizing i with
    | zero =>
      constructor
      · rintro ⟨⟩
        exact ⟨rfl, fun k from_i to_i => by omega⟩
      · rintro ⟨rfl, -⟩
        exact .zero _
    | succ n ih =>
      constructor
      · rintro (_ | ⟨⟨rfl, taken⟩, steps⟩)
        obtain ⟨rfl, later⟩ := (ih _).mp steps
        refine ⟨by omega, fun k from_i to_j => ?_⟩
        rcases Nat.eq_or_lt_of_le from_i with rfl | after
        · exact taken
        · exact later k after to_j
      · rintro ⟨rfl, each⟩
        exact .succ ⟨rfl, each _ le_rfl (by omega)⟩ ((ih _).mpr ⟨by omega, fun k from_i => each k (by omega)⟩)
  have whole : (∃ n, Times (Spans text (.chars set)) n 0 text.length) ↔ ∀ c ∈ text, set.hasChar c = true := by
    simp only [times_iff]
    constructor
    · rintro ⟨-, -, each⟩ c member
      obtain ⟨k, atPlace⟩ := List.mem_iff_getElem?.mp member
      obtain ⟨inside, -⟩ := List.getElem?_eq_some_iff.mp atPlace
      obtain ⟨d, same, taken⟩ := each k (Nat.zero_le k) inside
      rw [atPlace] at same
      cases same
      exact taken
    · intro each
      refine ⟨text.length, (Nat.zero_add _).symm, fun k _ inside => ⟨text[k], List.getElem?_eq_getElem inside, ?_⟩⟩
      exact each _ (List.getElem_mem inside)
  rw [← whole]
  simp [Spans]

def notColon : Text.RangeSet := ⟨[(0, 57), (59, 0xD7FF), (0xE000, 0x10FFFF)]⟩

theorem hasChar_notColon (c : Char) : notColon.hasChar c = true ↔ c ≠ ':' := by
  have valid : c.toNat < 0xD800 ∨ 0xDFFF < c.toNat ∧ c.toNat < 0x110000 := c.valid
  have colon : c = ':' ↔ c.toNat = 58 := by
    constructor
    · rintro rfl
      rfl
    · exact fun same => Char.ext (UInt32.toNat_inj.mp same)
  rw [Ne, colon]
  simp only [Text.RangeSet.hasChar, Text.RangeSet.contains, notColon, List.any_cons, List.any_nil, Bool.or_false,
    Bool.or_eq_true, decide_eq_true_eq]
  omega

end Pattern

namespace BlockList

def colonFree : BlockList := ["[^:]*"]

theorem blocks_colonFree (name : String) : colonFree.blocks name = true ↔ ':' ∉ name.toList := by
  have compiled : Pattern.compile? (Pattern.anchored "[^:]*") =
      some (Pattern.Regex.whole (.rep 0 none (.chars Pattern.notColon))) := rfl
  simp only [blocks, colonFree, List.any_cons, List.any_nil, Bool.or_false, Pattern.matchesName, compiled,
    Option.any_some, Pattern.Regex.matchesIn_iff, Pattern.matches_whole, Pattern.spans_repeated_chars,
    Pattern.hasChar_notColon]
  exact ⟨fun each colon => each _ colon rfl, fun free c member same => free (same ▸ member)⟩

end BlockList

namespace Schema

open Catalog (ColumnRow TableColumnRow Identity FunctionRow Source Engine)

structure Mark where
  name : String
  blocked : Bool
  primaryKey : Bool
  uniqueKey : Bool
deriving DecidableEq

def Column.mark (c : Column) : Mark := ⟨c.name, c.blocked, c.primaryKey, c.uniqueKey⟩

/-- Two answers about a table that agree: there is none, or both have the same columns with the same flags in the same
    order and tell alike whether the table is blocked. -/
inductive Agree (schema name : String) : Except Error Table → Except Error Table → Prop
  | missing : Agree schema name (.error (.notFound .table (schema ++ "." ++ name)))
      (.error (.notFound .table (schema ++ "." ++ name)))
  | found {t u : Table} (blocked : t.blocked = u.blocked) (columns : t.columns.map (·.mark) = u.columns.map (·.mark)) :
      Agree schema name (.ok t) (.ok u)

namespace Discovery

variable {rows : List ColumnRow} {blockList : BlockList} {schema name : String}

def rowsAt (rows : List ColumnRow) (schema table : String) : List ColumnRow :=
  rows.filter fun row => (row.schema, row.table) = (schema, table)

def namesAt (rows : List ColumnRow) (schema table : String) : List String :=
  ((rowsAt rows schema table).map (·.name)).eraseDups

def rowsNamed (rows : List ColumnRow) (schema table name : String) : List ColumnRow :=
  rows.filter (·.fullName = (schema, table, name))

def keyOf (rows : List ColumnRow) : String :=
  if rows.any (·.primaryKey) then "PRI" else if rows.any (·.uniqueKey) then "UNI" else ""

/-- A source that serves the rows, and for a single table the columns that the rows tell of. -/
structure Serves (source : Source) (rows : List ColumnRow) : Prop where
  identity : ∃ identity, source.identity = .ok identity
  columns : source.columns = .ok rows
  functions : ∃ functionRows, source.functions = .ok functionRows
  single : ∀ schema table, ∃ single, source.tableColumns schema table = .ok single ∧
    single.map (·.name) = namesAt rows schema table ∧
    ∀ row ∈ single, row.key = keyOf (rowsNamed rows schema table row.name)

def markOf (rows : List ColumnRow) (blockList : BlockList) (schema table name : String) : Mark :=
  let own := rowsNamed rows schema table name
  ⟨name, blockList.blocks name, own.any (·.primaryKey), own.any fun row => row.primaryKey || row.uniqueKey⟩

theorem mem_rowsAt {row : ColumnRow} :
    row ∈ rowsAt rows schema name ↔ row ∈ rows ∧ row.schema = schema ∧ row.table = name := by
  simp [rowsAt]

theorem namesAt_eq_nil : namesAt rows schema name = [] ↔ rowsAt rows schema name = [] := by
  constructor
  · intro nothing
    refine List.eq_nil_iff_forall_not_mem.mpr fun row member => ?_
    have named : row.name ∈ namesAt rows schema name := List.mem_eraseDups.mpr (List.mem_map_of_mem member)
    rw [nothing] at named
    cases named
  · intro nothing
    rw [namesAt, nothing]
    rfl

theorem keyOf_primary (own : List ColumnRow) : (keyOf own == "PRI") = own.any (·.primaryKey) := by
  unfold keyOf
  split
  · rename_i primary
    rw [primary]
    rfl
  · rename_i other
    rw [Bool.not_eq_true] at other
    rw [other]
    split <;> rfl

theorem keyOf_unique (own : List ColumnRow) :
    (keyOf own == "PRI" || keyOf own == "UNI") = own.any fun row => row.primaryKey || row.uniqueKey := by
  have either : (own.any fun row => row.primaryKey || row.uniqueKey) =
      (own.any (·.primaryKey) || own.any (·.uniqueKey)) := by
    rw [Bool.eq_iff_iff]
    simp only [Bool.or_eq_true, List.any_eq_true, and_or_left, exists_or]
  rw [either, keyOf_primary]
  cases primary : own.any (·.primaryKey) <;> cases unique : own.any (·.uniqueKey) <;> simp [keyOf, primary, unique]

theorem tableColumn_mark {row : TableColumnRow} (key : row.key = keyOf (rowsNamed rows schema name row.name))
    (id : Nat) : (tableColumn blockList id row).mark = markOf rows blockList schema name row.name := by
  simp only [Column.mark, tableColumn, markOf, Column.plain, key]
  rw [keyOf_unique, keyOf_primary]

theorem table_fetched {source : Source} (serves : Serves source rows) (engine : Engine) (blockList : BlockList)
    (some : rowsAt rows schema name ≠ []) : ∃ t, table source engine schema name blockList = .ok t ∧
      t.blocked = blockList.blocks name ∧
      t.columns.map (·.mark) = (namesAt rows schema name).map (markOf rows blockList schema name) := by
  obtain ⟨single, served, names, keys⟩ := serves.single schema name
  have full : single.isEmpty = false := by
    rw [List.isEmpty_eq_false_iff]
    rintro rfl
    exact some (namesAt_eq_nil.mp names.symm)
  refine ⟨_, by simp only [table, served, ok_bind, full]; rfl, rfl, ?_⟩
  have marks : (single.zipIdx.map fun e => tableColumn blockList e.2 e.1).map (·.mark) =
      single.map fun row => markOf rows blockList schema name row.name := by
    conv_rhs => rw [← List.zipIdx_map_fst 0 single]
    rw [List.map_map, List.map_map]
    exact List.map_congr_left fun e member => tableColumn_mark (keys e.1 (List.fst_mem_of_mem_zipIdx member)) e.2
  rw [← names, List.map_map]
  exact marks

theorem table_unfetched {source : Source} (serves : Serves source rows) (engine : Engine)
    (nothing : rowsAt rows schema name = []) :
    table source engine schema name blockList = .error (.notFound .table (schema ++ "." ++ name)) := by
  obtain ⟨single, served, names, -⟩ := serves.single schema name
  rw [namesAt_eq_nil.mpr nothing, List.map_eq_nil_iff] at names
  subst names
  simp only [table, served, ok_bind]
  rfl

/-- A row that both ways to a table know under the same names. -/
structure Plain (row : ColumnRow) : Prop where
  shown : Snapshot.isInternal row.table = false
  schema : ':' ∉ row.schema.toList
  table : ':' ∉ row.table.toList

instance (row : ColumnRow) : Decidable (Plain row) :=
  decidable_of_iff (Snapshot.isInternal row.table = false ∧ ':' ∉ row.schema.toList ∧ ':' ∉ row.table.toList)
    ⟨fun ⟨shown, schema, table⟩ => ⟨shown, schema, table⟩, fun ⟨shown, schema, table⟩ => ⟨shown, schema, table⟩⟩

theorem shownRows_of_plain (plain : ∀ row ∈ rows, Plain row) : shownRows rows = rows :=
  List.filter_eq_self.mpr fun row member => by rw [(plain row member).shown]; rfl

/-- Without colons in the names of schemas and tables, the names of columns may have them. -/
theorem keysTellNames_of_plain (plain : ∀ row ∈ rows, Plain row) : KeysTellNames rows := by
  intro row shown row' shown' same
  rw [shownRows_of_plain plain] at shown shown'
  have chars := congrArg String.toList same
  rw [rowKey, rowKey, Snapshot.columnKey_chars, Snapshot.columnKey_chars] at chars
  obtain ⟨schema, rest⟩ := split_at_colon (plain row shown).schema (plain row' shown').schema chars
  obtain ⟨table, column⟩ := split_at_colon (plain row shown).table (plain row' shown').table rest
  rw [ColumnRow.fullName, ColumnRow.fullName, String.toList_inj.mp schema, String.toList_inj.mp table,
    String.toList_inj.mp column]

theorem fullNames_at (rows : List ColumnRow) (schema table : String) :
    ((rows.map (·.fullName)).eraseDups.filter fun names => (names.1, names.2.1) = (schema, table)) =
      (namesAt rows schema table).map fun name => (schema, table, name) := by
  have own : ((rows.map (·.fullName)).filter fun names => (names.1, names.2.1) = (schema, table)) =
      ((rowsAt rows schema table).map (·.name)).map fun name => (schema, table, name) := by
    rw [List.filter_map, List.map_map]
    refine List.map_congr_left fun row member => ?_
    obtain ⟨-, rfl, rfl⟩ := mem_rowsAt.mp member
    rfl
  rw [← eraseDups_filter, own, eraseDups_map fun _ _ _ _ same => (Prod.mk.inj (Prod.mk.inj same).2).2]
  rfl

theorem mergeAll_home_mark (told : KeysTellNames rows) (blockList : BlockList) (id : Nat) {row : ColumnRow}
    (member : row ∈ rows) (plain : ∀ row ∈ rows, Plain row) :
    (mergeAll blockList id (rowsUnder rows (rowKey row))).home = (row.schema, row.table) ∧
      (mergeAll blockList id (rowsUnder rows (rowKey row))).mark =
        markOf rows blockList row.schema row.table row.name := by
  have shown := shownRows_of_plain plain
  have own : rowsUnder rows (rowKey row) = rowsNamed rows row.schema row.table row.name := by
    have under := rowsUnder_eq_rowsOf told (shown.symm ▸ member)
    rwa [shown, rowsOf, shown] at under
  have known : rowKey row ∈ rowKeys rows := mem_rowKeys.mpr ⟨row, member, rfl⟩
  obtain ⟨first, sameKey⟩ := firstUnder_spec known
  have named : (firstUnder rows (rowKey row)).fullName = row.fullName :=
    told _ (shown.symm ▸ first) row (shown.symm ▸ member) sameKey
  simp only [firstUnder, ColumnRow.fullName, Prod.mk.injEq] at named
  obtain ⟨schema, table, name⟩ := named
  constructor
  · rw [mergeAll_eq, Column.home, schema, table]
  · rw [mergeAll_eq, Column.mark, markOf, name, own]

theorem columns_homes_marks (plain : ∀ row ∈ rows, Plain row) (blockList : BlockList) :
    (columns rows blockList).map (fun c => (c.home, c.mark)) =
      (rows.map (·.fullName)).eraseDups.map fun names =>
        ((names.1, names.2.1), markOf rows blockList names.1 names.2.1 names.2.2) := by
  have told := keysTellNames_of_plain plain
  have shown := shownRows_of_plain plain
  have keys : rowKeys rows =
      (rows.map (·.fullName)).eraseDups.map fun names => Snapshot.columnKey names.1 names.2.1 names.2.2 := by
    rw [← eraseDups_map, List.map_map]
    · rfl
    · intro names member names' member' same
      obtain ⟨row, inRows, rfl⟩ := List.mem_map.mp member
      obtain ⟨row', inRows', rfl⟩ := List.mem_map.mp member'
      exact told row (shown.symm ▸ inRows) row' (shown.symm ▸ inRows') same
  conv_rhs => rw [← List.zipIdx_map_fst 0 (rows.map (·.fullName)).eraseDups]
  rw [columns_eq, shown, keys, List.zipIdx_map, List.map_map, List.map_map, List.map_map]
  refine List.map_congr_left fun e numbered => ?_
  obtain ⟨row, inRows, named⟩ := List.mem_map.mp (List.mem_eraseDups.mp (List.fst_mem_of_mem_zipIdx numbered))
  obtain ⟨home, mark⟩ := mergeAll_home_mark told blockList e.2 inRows plain
  simp only [Function.comp, Prod.map, ← named]
  exact Prod.ext home mark

theorem columns_marks (plain : ∀ row ∈ rows, Plain row) (blockList : BlockList) (schema name : String) :
    ((columns rows blockList).filter (·.home = (schema, name))).map (·.mark) =
      (namesAt rows schema name).map (markOf rows blockList schema name) := by
  have apart : ((columns rows blockList).filter (·.home = (schema, name))).map (·.mark) =
      (((columns rows blockList).map fun c => (c.home, c.mark)).filter (·.1 = (schema, name))).map (·.2) := by
    rw [List.filter_map, List.map_map]
    rfl
  have own := congrArg (List.map fun names => markOf rows blockList names.1 names.2.1 names.2.2)
    (fullNames_at rows schema name)
  rw [List.map_map] at own
  rw [apart, columns_homes_marks plain, List.filter_map, List.map_map]
  exact own

theorem exists_column_iff (plain : ∀ row ∈ rows, Plain row) (blockList : BlockList) (schema name : String) :
    (∃ c ∈ columns rows blockList, c.home = (schema, name)) ↔ rowsAt rows schema name ≠ [] := by
  have none_iff : (columns rows blockList).filter (·.home = (schema, name)) = [] ↔ rowsAt rows schema name = [] := by
    rw [← namesAt_eq_nil, ← List.map_eq_nil_iff (f := Column.mark), columns_marks plain, List.map_eq_nil_iff]
  rw [Ne, ← none_iff]
  simp [List.filter_eq_nil_iff]

/-- The table that a snapshot of plain rows finds is the one that is asked for. -/
theorem lookup_of_plain (plain : ∀ row ∈ rows, Plain row) {s : Snapshot} (placed : s.Placed)
    (tables : s.tables = Snapshot.tablesOf (columns rows blockList) blockList) (schema name : String) :
    (rowsAt rows schema name ≠ [] ∧
        s.table schema name = .ok (Snapshot.tableAt (columns rows blockList) blockList (schema, name))) ∨
      (rowsAt rows schema name = [] ∧ s.table schema name = .error (.notFound .table (schema ++ "." ++ name))) := by
  have plain_home {schema name : String} (known : Snapshot.Known (columns rows blockList) schema name) :
      rowsAt rows schema name ≠ [] ∧ ':' ∉ schema.toList ∧ ':' ∉ name.toList := by
    have some := (exists_column_iff plain blockList schema name).mp known.2
    obtain ⟨row, member⟩ := List.exists_mem_of_ne_nil _ some
    obtain ⟨given, rfl, rfl⟩ := mem_rowsAt.mp member
    exact ⟨some, (plain row given).schema, (plain row given).table⟩
  rcases Snapshot.table_cases placed schema name with ⟨t, member, sameKey, found⟩ | ⟨absent, missing⟩
  · rw [tables] at member
    obtain ⟨schema', name', known, rfl⟩ := Snapshot.mem_tablesOf_iff.mp member
    obtain ⟨some, schemaFree, nameFree⟩ := plain_home known
    obtain ⟨rfl, rfl⟩ := Snapshot.tableKey_inj schemaFree nameFree sameKey
    exact .inl ⟨some, found⟩
  · refine .inr ⟨by_contra fun some => ?_, missing⟩
    obtain ⟨row, member⟩ := List.exists_mem_of_ne_nil _ some
    obtain ⟨given, rfl, rfl⟩ := mem_rowsAt.mp member
    have known : Snapshot.Known (columns rows blockList) row.schema row.table :=
      ⟨(plain row given).shown, (exists_column_iff plain blockList _ _).mpr some⟩
    exact absent _ (tables ▸ Snapshot.mem_tablesOf_iff.mpr ⟨_, _, known, rfl⟩) rfl

/-- All tables are the same fetched alone and looked up in the snapshot of the whole catalog. -/
def FetchedAsFound (source : Source) (engine : Engine) (blockList : BlockList) : Prop :=
  ∃ s, snapshot source engine blockList = .ok s ∧
    ∀ schema name, Agree schema name (table source engine schema name blockList) (s.table schema name)

theorem Serves.exists_snapshot {source : Source} (serves : Serves source rows) (engine : Engine)
    (blockList : BlockList) : ∃ s, snapshot source engine blockList = .ok s ∧ s.Placed ∧
      s.tables = Snapshot.tablesOf (Discovery.columns rows blockList) blockList := by
  obtain ⟨identity, identified⟩ := serves.identity
  obtain ⟨functionRows, functionsGiven⟩ := serves.functions
  exact ⟨_, snapshot_eq_ok source identified serves.columns functionsGiven engine blockList,
    Snapshot.addTables_placed (Snapshot.blank_placed _ _ _ _ _ _) _, Snapshot.ofColumns_tables⟩

theorem fetchedAsFound_of_plain {source : Source} (serves : Serves source rows) (plain : ∀ row ∈ rows, Plain row)
    (engine : Engine) (blockList : BlockList) : FetchedAsFound source engine blockList := by
  obtain ⟨s, discovered, placed, tables⟩ := serves.exists_snapshot engine blockList
  refine ⟨s, discovered, fun schema name => ?_⟩
  rcases lookup_of_plain plain placed tables schema name with ⟨some, found⟩ | ⟨nothing, missing⟩
  · obtain ⟨t, fetched, blocked, marks⟩ := table_fetched serves engine blockList some
    rw [fetched, found]
    exact .found blocked (marks.trans (columns_marks plain blockList schema name).symm)
  · rw [table_unfetched serves engine nothing, missing]
    exact .missing

theorem FetchedAsFound.exists_found {source : Source} {engine : Engine} (serves : Serves source rows)
    (agree : FetchedAsFound source engine blockList) :
    ∃ s : Snapshot, s.Placed ∧ s.tables = Snapshot.tablesOf (columns rows blockList) blockList ∧
      (∀ row ∈ rows, ∃ t, s.table row.schema row.table = .ok t) ∧
      ∀ schema name t, s.table schema name = .ok t → t.blocked = blockList.blocks name := by
  obtain ⟨s, discovered, both⟩ := agree
  obtain ⟨s', discovered', placed, tables⟩ := serves.exists_snapshot engine blockList
  obtain rfl : s = s' := Except.ok.inj (discovered.symm.trans discovered')
  refine ⟨s, placed, tables, fun row given => ?_, fun schema name t found => ?_⟩
  · have some : rowsAt rows row.schema row.table ≠ [] := List.ne_nil_of_mem (mem_rowsAt.mpr ⟨given, rfl, rfl⟩)
    obtain ⟨u, fetched, -, -⟩ := table_fetched serves engine blockList some
    have answers := both row.schema row.table
    rw [fetched] at answers
    generalize answer : s.table row.schema row.table = found at answers
    cases answers
    exact ⟨_, rfl⟩
  · have answers := both schema name
    by_cases nothing : rowsAt rows schema name = []
    · rw [table_unfetched serves engine nothing, found] at answers
      cases answers
    · obtain ⟨u, fetched, blocked, -⟩ := table_fetched serves engine blockList nothing
      rw [fetched, found] at answers
      cases answers with
      | found same _ => exact same.symm.trans blocked

theorem exists_split_last {s : String} (colon : ':' ∈ s.toList) :
    ∃ x y : String, s = x ++ ":" ++ y ∧ ':' ∉ y.toList := by
  obtain ⟨after, before, split, free⟩ := List.eq_append_cons_of_mem (List.mem_reverse.mpr colon)
  refine ⟨String.ofList before.reverse, String.ofList after.reverse, String.toList_inj.mp ?_, ?_⟩
  · rw [← s.toList.reverse_reverse, split]
    simp
  · simpa using free

/-- A key with more than one colon can be cut in front of a name with a colon and in front of one without. -/
theorem exists_two_cuts {schema table : String} (colon : ':' ∈ schema.toList ∨ ':' ∈ table.toList) :
    ∃ x y x' y' : String, Snapshot.tableKey schema table = Snapshot.tableKey x y ∧
      Snapshot.tableKey schema table = Snapshot.tableKey x' y' ∧ ':' ∈ y.toList ∧ ':' ∉ y'.toList := by
  by_cases inTable : ':' ∈ table.toList
  · obtain ⟨x, y, cut, free⟩ := exists_split_last inTable
    exact ⟨schema, table, schema ++ ":" ++ x, y, rfl, by simp only [Snapshot.tableKey, cut, String.append_assoc],
      inTable, free⟩
  · obtain ⟨x, y, cut⟩ := exists_split (colon.resolve_right inTable)
    exact ⟨x, y ++ ":" ++ table, schema, table, by simp only [Snapshot.tableKey, cut, String.append_assoc], rfl,
      by simp, inTable⟩

theorem plain_of_fetchedAsFound {source : Source} {engine : Engine} (serves : Serves source rows)
    (agree : ∀ blockList, FetchedAsFound source engine blockList) {row : ColumnRow} (given : row ∈ rows) :
    Plain row := by
  obtain ⟨s, placed, tables, known, marked⟩ := (agree BlockList.colonFree).exists_found serves
  obtain ⟨t, found⟩ := known row given
  -- the table that is found under two names is blocked by only one of them
  have free : ¬ (':' ∈ row.schema.toList ∨ ':' ∈ row.table.toList) := by
    intro colon
    obtain ⟨x, y, x', y', cut, cut', inName, free⟩ := exists_two_cuts colon
    have blocked := marked x' y' t (s.table_congr cut' found)
    rw [marked x y t (s.table_congr cut found), (BlockList.blocks_colonFree y').mpr free] at blocked
    exact (BlockList.blocks_colonFree y).mp blocked inName
  obtain ⟨schemaFree, tableFree⟩ := not_or.mp free
  refine ⟨?_, schemaFree, tableFree⟩
  rcases Snapshot.table_cases placed row.schema row.table with ⟨u, member, sameKey, -⟩ | ⟨-, missing⟩
  · obtain ⟨-, same⟩ := Snapshot.tableKey_inj schemaFree tableFree sameKey.symm
    rw [same]
    exact (Snapshot.mem_tablesOf (tables ▸ member)).2.1
  · rw [missing] at found
    cases found

/-- Fetched alone, all tables are under all block lists what the snapshot of the whole catalog finds, exactly when no
    row is of an internal table or has a colon in the name of its schema or its table. -/
theorem table_agrees_iff (source : Source) (engine : Engine) (rows : List ColumnRow) (serves : Serves source rows) :
    (∀ blockList, FetchedAsFound source engine blockList) ↔ ∀ row ∈ rows, Plain row :=
  ⟨fun agree _ given => plain_of_fetchedAsFound serves agree given, fun plain blockList =>
    fetchedAsFound_of_plain serves plain engine blockList⟩

/-- The rows of a single table as the rows of its columns tell them; where only one fact is asked for, the first row
    counts. -/
def singleRows (rows : List ColumnRow) (schema table : String) : List TableColumnRow :=
  (namesAt rows schema table).zipIdx.map fun (name, i) =>
    let own := rowsNamed rows schema table name
    let first := own.headD default
    ⟨schema, table, name, i + 1, if first.notNull || first.primaryKey then "NO" else "YES", first.type, keyOf own⟩

def servedSource (rows : List ColumnRow) : Source where
  identity := .ok ⟨160000, "public", "app"⟩
  columns := .ok rows
  functions := .ok []
  tableColumns schema table := .ok (singleRows rows schema table)

theorem serves_servedSource (rows : List ColumnRow) : Serves (servedSource rows) rows where
  identity := ⟨_, rfl⟩
  columns := rfl
  functions := ⟨_, rfl⟩
  single schema table := by
    refine ⟨singleRows rows schema table, rfl, ?_, fun row member => ?_⟩
    · conv_rhs => rw [← List.zipIdx_map_fst 0 (namesAt rows schema table)]
      rw [singleRows, List.map_map]
      rfl
    · obtain ⟨e, -, rfl⟩ := List.mem_map.mp member
      rfl

/-- A column in two constraints, with one of another table in between. -/
def shopRows : List ColumnRow := [
  ⟨"public", "orders", "id", "bigint", true, true, false, false, false, "", "", ""⟩,
  ⟨"public", "users", "e:mail", "text", true, false, true, false, false, "", "", ""⟩,
  ⟨"public", "orders", "user_id", "bigint", true, false, false, false, false, "", "", ""⟩,
  ⟨"public", "orders", "user_id", "bigint", true, false, true, false, false, "public", "users", "id"⟩]

theorem table_agrees_iff_shop : Serves (servedSource shopRows) shopRows ∧
    ((∀ blockList, FetchedAsFound (servedSource shopRows) .postgres blockList) ↔ ∀ row ∈ shopRows, Plain row) :=
  ⟨serves_servedSource shopRows, table_agrees_iff (servedSource shopRows) .postgres shopRows
    (serves_servedSource shopRows)⟩

def cursorRows : List ColumnRow :=
  [⟨"public", "_sq_cursor", "id", "bigint", true, true, false, false, false, "", "", ""⟩]

def colonRows : List ColumnRow := [⟨"a:b", "c", "id", "bigint", true, true, false, false, false, "", "", ""⟩]

/-- An internal table is fetched alone, but not found. A table of a schema with a colon in its name is found under the
    names of another one, which is not fetched. -/
theorem fetched_and_found_differ :
    ((table (servedSource cursorRows) .postgres "public" "_sq_cursor" []).map (·.columns.map (·.mark)) =
        .ok [⟨"id", false, true, true⟩] ∧
      (snapshot (servedSource cursorRows) .postgres [] >>= (·.table "public" "_sq_cursor")) =
        .error (.notFound .table "public._sq_cursor") ∧
      ¬ FetchedAsFound (servedSource cursorRows) .postgres []) ∧
    table (servedSource colonRows) .postgres "a" "b:c" [] = .error (.notFound .table "a.b:c") ∧
    ((snapshot (servedSource colonRows) .postgres [] >>= (·.table "a" "b:c")).map (·.columns.map (·.mark)) =
      .ok [⟨"id", false, true, true⟩]) ∧
    ¬ FetchedAsFound (servedSource colonRows) .postgres [] := by
  have cursor_fetched : (table (servedSource cursorRows) .postgres "public" "_sq_cursor" []).map
      (·.columns.map (·.mark)) = .ok [⟨"id", false, true, true⟩] := by decide +kernel
  have cursor_found : (snapshot (servedSource cursorRows) .postgres [] >>= (·.table "public" "_sq_cursor")) =
      .error (.notFound .table "public._sq_cursor") := by decide +kernel
  have colon_fetched : table (servedSource colonRows) .postgres "a" "b:c" [] =
      .error (.notFound .table "a.b:c") := by decide +kernel
  have colon_found : (snapshot (servedSource colonRows) .postgres [] >>= (·.table "a" "b:c")).map
      (·.columns.map (·.mark)) = .ok [⟨"id", false, true, true⟩] := by decide +kernel
  refine ⟨⟨cursor_fetched, cursor_found, ?_⟩, colon_fetched, colon_found, ?_⟩
  · rintro ⟨s, discovered, both⟩
    have answers := both "public" "_sq_cursor"
    rw [discovered, ok_bind] at cursor_found
    rw [cursor_found] at answers
    generalize fetched : table (servedSource cursorRows) .postgres "public" "_sq_cursor" [] = answer at answers
    cases answers
    rw [fetched] at cursor_fetched
    cases cursor_fetched
  · rintro ⟨s, discovered, both⟩
    have answers := both "a" "b:c"
    rw [discovered, ok_bind] at colon_found
    rw [colon_fetched] at answers
    generalize found : s.table "a" "b:c" = answer at answers
    cases answers
    rw [found] at colon_found
    cases colon_found

end Discovery

end Schema

end SchemaMutation
