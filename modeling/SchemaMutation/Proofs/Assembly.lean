import SchemaMutation.Proofs.Lists
import SchemaMutation.Proofs.Outcome
import SchemaMutation.Registry
import SchemaMutation.Schema.Snapshot

/-!
# Assembly

Which tables a snapshot of columns has, and what its lookups can find. A table holds columns of its own schema and
name, all of them taken from the columns that the snapshot was made of. Discovery makes one of the answers of a catalog
if its three queries are answered (`Discovery.snapshot_eq_ok_iff`), and otherwise gives the first error among them
(`Discovery.snapshot_cases`).
-/

namespace SchemaMutation.Schema

def Column.home (c : Column) : String × String := (c.schema, c.table)

def Table.home (t : Table) : String × String := (t.schema, t.name)

def Column.fullName (c : Column) : String × String × String := (c.schema, c.table, c.name)

theorem Table.column?_mem {t : Table} {name : String} {c : Column} (found : t.column? name = some c) :
    c ∈ t.columns := by
  obtain ⟨place, _, atPlace⟩ := Option.bind_eq_some_iff.mp found
  exact List.mem_of_getElem? atPlace

namespace Snapshot

theorem addTables_cons (s : Snapshot) (t : Table) (ts : List Table) :
    s.addTables (t :: ts) = (s.addTable t).addTables ts := rfl

/-- Adding tables changes nothing but the tables and the indices. -/
theorem addTables_frame (s : Snapshot) (ts : List Table) :
    (s.addTables ts).engine = s.engine ∧ (s.addTables ts).version = s.version ∧
      (s.addTables ts).schema = s.schema ∧ (s.addTables ts).name = s.name ∧
      (s.addTables ts).functions = s.functions ∧ (s.addTables ts).virtualTables = s.virtualTables := by
  induction ts generalizing s with
  | nil => exact ⟨rfl, rfl, rfl, rfl, rfl, rfl⟩
  | cons t ts ih => exact ih (s.addTable t)

theorem addTables_tables (s : Snapshot) (ts : List Table) : (s.addTables ts).tables = s.tables ++ ts := by
  induction ts generalizing s with
  | nil => simp [addTables]
  | cons t ts ih =>
    rw [addTables_cons, ih]
    simp [addTable]

section
variable {engine : Catalog.Engine} {version : Int} {schema name : String} {columns : List Column}
variable {functions : List Function} {blockList : BlockList}

theorem ofColumns_tables :
    (ofColumns engine version schema name columns functions blockList).tables = tablesOf columns blockList := by
  simp [ofColumns, addTables_tables, blank]

theorem ofColumns_version :
    (ofColumns engine version schema name columns functions blockList).version = version :=
  (addTables_frame _ _).2.1

theorem ofColumns_functions :
    (ofColumns engine version schema name columns functions blockList).functions = functions :=
  (addTables_frame _ _).2.2.2.2.1

end

/-- The tables of columns, each once, in the order of the first column of each. -/
def homes (columns : List Column) : List (String × String) := (columns.map Column.home).eraseDups

theorem mem_homes {columns : List Column} {key : String × String} :
    key ∈ homes columns ↔ ∃ c ∈ columns, c.home = key := by
  rw [homes, List.mem_eraseDups, List.mem_map]

theorem homes_concat (columns : List Column) (c : Column) :
    homes (columns ++ [c]) = if c.home ∈ homes columns then homes columns else homes columns ++ [c.home] :=
  eraseDups_map_concat Column.home columns c

theorem nodup_homes (columns : List Column) : (homes columns).Nodup := nodup_eraseDups _

theorem addToGroup_eq (c : Column) (group : String × String → List Column) {keys : List (String × String)}
    (distinct : keys.Nodup) :
    addToGroup c (keys.map fun key => (key, group key)) =
      if c.home ∈ keys then keys.map fun key => (key, if c.home = key then group key ++ [c] else group key)
      else keys.map (fun key => (key, group key)) ++ [(c.home, [c])] := by
  induction keys with
  | nil => rfl
  | cons key keys ih =>
    obtain ⟨new, others⟩ := List.nodup_cons.mp distinct
    rw [List.map_cons, addToGroup, ih others]
    by_cases same : key = c.home
    · subst same
      rw [if_pos (show c.home = (c.schema, c.table) from rfl), if_pos List.mem_cons_self, List.map_cons, if_pos rfl,
        map_change_of_notMem new]
    · rw [if_neg (show ¬ key = (c.schema, c.table) from same)]
      by_cases known : c.home ∈ keys
      · rw [if_pos known, if_pos (List.mem_cons_of_mem _ known), List.map_cons, if_neg (Ne.symm same)]
      · rw [if_neg known, if_neg (List.not_mem_cons_of_ne_of_not_mem (Ne.symm same) known), List.cons_append]

theorem groupColumns_eq (columns : List Column) :
    groupColumns columns = (homes columns).map fun key => (key, columns.filter (·.home = key)) := by
  induction columns using List.reverseRecOn with
  | nil => rfl
  | append_singleton columns c ih =>
    have step : groupColumns (columns ++ [c]) = addToGroup c (groupColumns columns) := by
      simp only [groupColumns, List.foldl_append, List.foldl_cons, List.foldl_nil]
    have group (key : String × String) : (columns ++ [c]).filter (·.home = key) =
        if c.home = key then columns.filter (·.home = key) ++ [c] else columns.filter (·.home = key) := by
      by_cases same : c.home = key <;> simp [List.filter_append, same]
    rw [step, ih, addToGroup_eq c _ (nodup_homes columns), homes_concat]
    simp only [group]
    split
    · rfl
    · rename_i new
      have opened : columns.filter (·.home = c.home) = [] :=
        List.filter_eq_nil_iff.mpr fun c' member same => new (mem_homes.mpr ⟨c', member, of_decide_eq_true same⟩)
      rw [List.map_append, map_change_of_notMem new, List.map_cons, List.map_nil, if_pos rfl, opened, List.nil_append]

/-- The table of a snapshot of these columns that stands for a schema and a name. -/
def tableAt (columns : List Column) (blockList : BlockList) (key : String × String) : Table :=
  { Table.ofColumns key.1 key.2 "" (columns.filter (·.home = key)) with blocked := blockList.blocks key.2 }

theorem tablesOf_eq (columns : List Column) (blockList : BlockList) :
    tablesOf columns blockList =
      ((homes columns).filter fun key => !isInternal key.2).map (tableAt columns blockList) := by
  rw [tablesOf, groupColumns_eq, List.filter_map, List.map_map]
  rfl

theorem mem_tablesOf {columns : List Column} {blockList : BlockList} {t : Table}
    (member : t ∈ tablesOf columns blockList) :
    t.blocked = blockList.blocks t.name ∧ isInternal t.name = false ∧
      ∀ c ∈ t.columns, c ∈ columns ∧ c.schema = t.schema ∧ c.table = t.name := by
  rw [tablesOf_eq] at member
  obtain ⟨key, kept, rfl⟩ := List.mem_map.mp member
  refine ⟨rfl, Bool.not_eq_true' _ |>.mp (List.mem_filter.mp kept).2, fun c inTable => ?_⟩
  obtain ⟨known, home⟩ := List.mem_filter.mp inTable
  have same : c.home = key := of_decide_eq_true home
  exact ⟨known, congrArg Prod.fst same, congrArg Prod.snd same⟩

theorem mem_tablesOf_parts {columns : List Column} {blockList : BlockList} {t : Table}
    (member : t ∈ tablesOf columns blockList) :
    t.reindex = t ∧ (∀ c ∈ t.primary, c ∈ t.columns) ∧ t.secondary = none ∧ ∀ c ∈ t.fullText, c ∈ t.columns := by
  rw [tablesOf_eq] at member
  obtain ⟨key, _, rfl⟩ := List.mem_map.mp member
  refine ⟨rfl, fun c last => ?_, rfl, fun c kept => (List.mem_filter.mp kept).1⟩
  exact (List.mem_filter.mp (List.mem_of_getLast? last)).1

theorem table_mem {s : Snapshot} {schema name : String} {t : Table} (found : s.table schema name = .ok t) :
    t ∈ s.tables := by
  unfold table at found
  split at found
  · rename_i same
    cases found
    obtain ⟨place, _, atPlace⟩ := Option.bind_eq_some_iff.mp same
    exact List.mem_of_getElem? atPlace
  · cases found

theorem column_mem {s : Snapshot} {schema table column : String} {c : Column}
    (found : s.column schema table column = .ok c) : ∃ t ∈ s.tables, c ∈ t.columns := by
  unfold Snapshot.column at found
  split at found
  · rename_i exact
    cases found
    obtain ⟨place, -, atPlace⟩ := Option.bind_eq_some_iff.mp exact
    obtain ⟨t, tableAt, columnAt⟩ := Option.bind_eq_some_iff.mp atPlace
    exact ⟨t, List.mem_of_getElem? tableAt, List.mem_of_getElem? columnAt⟩
  · obtain ⟨t, inTables, folded⟩ := bind_eq_ok.mp found
    split at folded
    · rename_i named
      cases folded
      exact ⟨t, table_mem inTables, Table.column?_mem named⟩
    · cases folded

end Snapshot

end SchemaMutation.Schema

namespace SchemaMutation

open Schema (Snapshot)
open Catalog (ColumnRow FunctionRow Identity Source Engine)

def errorOf? {α : Type} : Except Error α → Option Error
  | .error e => some e
  | .ok _ => none

/-- The error of the first query for a snapshot that fails. The identity is asked for first, then the columns, then the
    functions. -/
def Catalog.Source.fault? (source : Source) : Option Error :=
  (errorOf? source.identity).or <| (errorOf? source.columns).or <| errorOf? source.functions

namespace Schema.Discovery

/-- Discovery fails when one of its queries does, with the error of the first of these, and else gives a snapshot. -/
theorem snapshot_cases (source : Source) (engine : Engine) (blockList : BlockList) :
    (∃ e, source.fault? = some e ∧ snapshot source engine blockList = .error e) ∨
      (source.fault? = none ∧ ∃ s, snapshot source engine blockList = .ok s) := by
  unfold Source.fault? snapshot
  cases source.identity with
  | error e => exact .inl ⟨e, rfl, rfl⟩
  | ok identity =>
    cases source.columns with
    | error e => exact .inl ⟨e, rfl, rfl⟩
    | ok columnRows =>
      cases source.functions with
      | error e => exact .inl ⟨e, rfl, rfl⟩
      | ok functionRows => exact .inr ⟨rfl, _, rfl⟩

theorem snapshot_eq_ok_iff {source : Source} {engine : Engine} {blockList : BlockList} {s : Snapshot} :
    snapshot source engine blockList = .ok s ↔
      ∃ identity rows functionRows, source.identity = .ok identity ∧ source.columns = .ok rows ∧
        source.functions = .ok functionRows ∧
        Snapshot.ofColumns engine identity.version identity.schema identity.name (columns rows blockList)
          (functions functionRows blockList) blockList = s := by
  simp only [snapshot, bind_eq_ok, pure_eq_ok, Except.ok.injEq]
  constructor
  · rintro ⟨identity, identified, rows, columnsGiven, functionRows, functionsGiven, made⟩
    exact ⟨identity, rows, functionRows, identified, columnsGiven, functionsGiven, made⟩
  · rintro ⟨identity, rows, functionRows, identified, columnsGiven, functionsGiven, made⟩
    exact ⟨identity, identified, rows, columnsGiven, functionRows, functionsGiven, made⟩

theorem snapshot_eq_ok (source : Source) {identity : Identity} {rows : List ColumnRow}
    {functionRows : List FunctionRow} (identified : source.identity = .ok identity)
    (columnsGiven : source.columns = .ok rows) (functionsGiven : source.functions = .ok functionRows)
    (engine : Engine) (blockList : BlockList) :
    snapshot source engine blockList = .ok (Snapshot.ofColumns engine identity.version identity.schema identity.name
      (columns rows blockList) (functions functionRows blockList) blockList) :=
  snapshot_eq_ok_iff.mpr ⟨identity, rows, functionRows, identified, columnsGiven, functionsGiven, rfl⟩

end Schema.Discovery

end SchemaMutation
