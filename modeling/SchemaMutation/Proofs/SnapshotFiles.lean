import SchemaMutation.Proofs.Assembly
import SchemaMutation.Proofs.Json.RecordReadBack

/-!
# Files of snapshots

A snapshot that was written to a file is read back as it was, its indices included (`files_lose_nothing`). Two things
carry the proof: the numbers of a snapshot keep within the bounds of its file (`InRange`), and its indices are those
which are built from its tables (`Indexed`). Assembling a snapshot from columns and loading one from a file both give
snapshots with the two.
-/

namespace SchemaMutation.Schema

open Json (ReadsBack Yields Fields IsInt32 IsInt64)
open Catalog (Engine)

theorem engine_readsBack {n : Nat} (e : Engine) : ReadsBack n Engine.read e e.toJson where
  starts L level := (ReadsBack.string (n := n) e.name).starts L level
  reads L level depth cs rest _ _ front := by
    rw [Engine.toJson, Json.string_chars] at front
    simp only [Engine.read, Json.readVariant, front, Json.stringBody_written, ok_bind]
    cases e <;> rfl

namespace Column

def InRange (c : Column) : Prop := IsInt32 c.id

instance (c : Column) : Decidable c.InRange := inferInstanceAs (Decidable (IsInt32 c.id))

theorem readsBack {n : Nat} {c : Column} (inRange : c.InRange) : ReadsBack (n + 1) read c c.toJson := by
  have written : record.fields.Written n (c.id, c.schema, c.table, c.name, c.type, c.array, c.notNull, c.primaryKey,
      c.uniqueKey, c.fullText, c.foreignSchema, c.foreignTable, c.foreignColumn, c.blocked, ()) _ :=
    .cons (.int32 inRange) <| .cons (.string _) <| .cons (.string _) <|
    .cons (.string _) <| .cons (.string _) <| .cons (.bool _) <| .cons (.bool _) <| .cons (.bool _) <|
    .cons (.bool _) <| .cons (.bool _) <| .cons (.string _) <| .cons (.string _) <| .cons (.string _) <|
    .cons (.bool _) .nil
  exact .record record written (by decide)

theorem yields_inRange : Yields InRange read :=
  record.yields (IsInt32, .none _) (.required Json.yields_int32 (Fields.yield_none _)) fun _ holds => holds.1

end Column

namespace Parameter

def InRange (p : Parameter) : Prop := IsInt64 p.id

instance (p : Parameter) : Decidable p.InRange := inferInstanceAs (Decidable (IsInt64 p.id))

theorem readsBack {n : Nat} {p : Parameter} (inRange : p.InRange) : ReadsBack (n + 1) record.read p p.toJson := by
  have written : record.fields.Written n (p.id, p.name, p.type, ()) _ :=
    .cons (.int64 inRange) <| .cons (.string _) <| .cons (.string _) .nil
  exact .record record written (by decide)

theorem yields_inRange : Yields InRange record.read :=
  record.yields (IsInt64, .none _) (.required Json.yields_int64 (Fields.yield_none _)) fun _ holds => holds.1

end Parameter

namespace Function

def InRange (f : Function) : Prop := ∀ p ∈ f.params, p.InRange

instance (f : Function) : Decidable f.InRange := inferInstanceAs (Decidable (∀ p ∈ f.params, p.InRange))

theorem readsBack {n : Nat} {f : Function} (inRange : f.InRange) : ReadsBack (n + 3) record.read f f.toJson := by
  have params := ReadsBack.listOf fun p member => Parameter.readsBack (n := n) (inRange p member)
  have written : record.fields.Written (n + 2) (f.name, f.params, ()) _ := .cons (.string _) <| .cons params .nil
  exact .record record written (by decide)

theorem yields_inRange : Yields InRange record.read :=
  record.yields (fun _ => True, fun params => ∀ p ∈ params, p.InRange, ())
    (.required (Json.yields_true _) <| .required Parameter.yields_inRange.list <| Fields.yield_none _)
    fun _ holds => holds.2.1

end Function

theorem VirtualTable.readsBack {n : Nat} (v : VirtualTable) :
    ReadsBack (n + 1) VirtualTable.record.read v v.toJson := by
  have written : record.fields.Written n (v.name, v.idColumn, v.typeColumn, v.foreignColumn, ()) _ :=
    .cons (.string _) <| .cons (.string _) <| .cons (.string _) <| .cons (.string _) .nil
  exact .record record written (by decide)

namespace Table

/-- The numbers of all columns are in range, of those too that the table holds besides its list of columns. -/
structure InRange (t : Table) : Prop where
  columns : ∀ c ∈ t.columns, c.InRange
  primary : ∀ c ∈ t.primary, c.InRange
  secondary : ∀ c ∈ t.secondary, c.InRange
  fullText : ∀ c ∈ t.fullText, c.InRange

def unindexed (t : Table) : Table := { t with names := .empty }

theorem columns_readsBack {n : Nat} {columns : List Column} (inRange : ∀ c ∈ columns, c.InRange) :
    ReadsBack (n + 2) (Json.readList Column.read) columns (.array (columns.map Column.toJson)) :=
  .listOf fun c member => Column.readsBack (inRange c member)

theorem column_readsBack {n : Nat} {column : Option Column} (inRange : ∀ c ∈ column, c.InRange) :
    ReadsBack (n + 1) (Json.readOption Column.read) column (.ofOption Column.toJson column) := by
  cases column with
  | none => exact .none _
  | some c => exact (Column.readsBack (inRange c rfl)).some nofun

theorem readsBack {n : Nat} {t : Table} (inRange : t.InRange) : ReadsBack (n + 3) read t.unindexed t.toJson := by
  have written : record.fields.Written (n + 2)
      (t.schema, t.name, t.type, t.columns, t.primary, t.secondary, t.fullText, t.blocked, ()) _ :=
    .cons (.string _) <| .cons (.string _) <| .cons (.string _) <| .cons (columns_readsBack inRange.columns) <|
    .cons (column_readsBack inRange.primary) <| .cons (column_readsBack inRange.secondary) <|
    .cons (columns_readsBack inRange.fullText) <| .cons (.bool _) .nil
  exact .record record written (by decide)

theorem yields_inRange : Yields InRange read :=
  record.yields
    (fun _ => True, fun _ => True, fun _ => True, fun columns => ∀ c ∈ columns, c.InRange,
      fun column => ∀ c ∈ column, c.InRange, fun column => ∀ c ∈ column, c.InRange,
      fun columns => ∀ c ∈ columns, c.InRange, .none _)
    (.required (Json.yields_true _) <| .required (Json.yields_true _) <| .defaulting (Json.yields_true _) trivial <|
      .required Column.yields_inRange.list <| .optional Column.yields_inRange <|
      .defaulting Column.yields_inRange.option nofun <| .defaulting Column.yields_inRange.list nofun <|
      Fields.yield_none _)
    fun _ ⟨_, _, _, columns, primary, secondary, fullText, _⟩ => ⟨columns, primary, secondary, fullText⟩

end Table

namespace Snapshot

structure InRange (s : Snapshot) : Prop where
  version : IsInt64 s.version
  tables : ∀ t ∈ s.tables, t.InRange
  functions : ∀ f ∈ s.functions, f.InRange

/-- The indices are those that adding the tables one by one builds. -/
structure Indexed (s : Snapshot) : Prop where
  tables : ∀ t ∈ s.tables, t.reindex = t
  whole : (blank s.engine s.version s.schema s.name s.functions s.virtualTables).addTables s.tables = s

theorem addTables_indexed (engine : Engine) (version : Int) (schema name : String) (functions : List Function)
    (virtualTables : List VirtualTable) {tables : List Table} (reindexed : ∀ t ∈ tables, t.reindex = t) :
    ((blank engine version schema name functions virtualTables).addTables tables).Indexed := by
  obtain ⟨sameEngine, sameVersion, sameSchema, sameName, sameFunctions, sameVirtual⟩ :=
    addTables_frame (blank engine version schema name functions virtualTables) tables
  have sameTables := addTables_tables (blank engine version schema name functions virtualTables) tables
  constructor
  · rw [sameTables]
    exact reindexed
  · rw [sameEngine, sameVersion, sameSchema, sameName, sameFunctions, sameVirtual, sameTables]
    rfl

theorem readsBack {n : Nat} {s : Snapshot} (inRange : s.InRange) (indexed : s.Indexed) :
    ReadsBack (n + 5) record.read s s.toJson := by
  have tables := ReadsBack.list <| List.forall₂_map_left_iff.mpr <| List.forall₂_map_right_iff.mpr <|
    List.forall₂_same.mpr fun t member => Table.readsBack (n := n) (inRange.tables t member)
  have functions := ReadsBack.listOf fun f member => Function.readsBack (n := n) (inRange.functions f member)
  have virtualTables : ReadsBack (n + 4) (Json.readList VirtualTable.record.read) s.virtualTables _ :=
    .listOf fun v _ => v.readsBack
  have written : record.fields.Written (n + 4) (s.engine, s.version, s.schema, s.name,
      s.tables.map Table.unindexed, s.functions, s.virtualTables, ()) _ :=
    .cons (engine_readsBack _) <| .cons (.int64 inRange.version) <| .cons (.string _) <| .cons (.string _) <|
    .cons tables <| .cons functions <| .cons virtualTables .nil
  have back := ReadsBack.record record written (by decide)
  have reindexed : (s.tables.map Table.unindexed).map Table.reindex = s.tables := by
    rw [List.map_map]
    exact (List.map_congr_left indexed.tables).trans (List.map_id _)
  have made : record.make (s.engine, s.version, s.schema, s.name, s.tables.map Table.unindexed, s.functions,
      s.virtualTables, ()) = s := by
    refine Eq.trans ?_ indexed.whole
    exact congrArg (blank s.engine s.version s.schema s.name s.functions s.virtualTables).addTables reindexed
  rw [made] at back
  exact back

/-- What is read from a file is in range, and its indices are built from its tables. -/
theorem yields_inRange : Yields (fun s => s.InRange ∧ s.Indexed) record.read := by
  refine record.yields
    (fun _ => True, IsInt64, fun _ => True, fun _ => True, fun tables => ∀ t ∈ tables, t.InRange,
      fun functions => ∀ f ∈ functions, f.InRange, .none _)
    (.required (Json.yields_true _) <| .required Json.yields_int64 <| .required (Json.yields_true _) <|
      .required (Json.yields_true _) <| .required Table.yields_inRange.list <|
      .required Function.yields_inRange.list <| Fields.yield_none _) ?_
  rintro ⟨engine, version, schema, name, tables, functions, virtualTables, ⟨⟩⟩
    ⟨_, versionInRange, _, _, tablesInRange, functionsInRange, _⟩
  have frame := addTables_frame (blank engine version schema name functions virtualTables) (tables.map Table.reindex)
  have sameTables := addTables_tables (blank engine version schema name functions virtualTables)
    (tables.map Table.reindex)
  refine ⟨⟨?_, ?_, ?_⟩, addTables_indexed engine version schema name functions virtualTables ?_⟩
  · exact frame.2.1 ▸ versionInRange
  · intro t member
    obtain ⟨t, known, rfl⟩ := List.mem_map.mp (sameTables ▸ member)
    obtain ⟨columns, primary, secondary, fullText⟩ := tablesInRange t known
    exact ⟨columns, primary, secondary, fullText⟩
  · exact frame.2.2.2.2.1 ▸ functionsInRange
  · intro t member
    obtain ⟨t, _, rfl⟩ := List.mem_map.mp member
    rfl

theorem inRange_of_ofText {text : String} {s : Snapshot} (loaded : ofText text = .ok s) : s.InRange ∧ s.Indexed := by
  unfold ofText at loaded
  split at loaded
  · rename_i read
    cases loaded
    obtain ⟨⟨s, rest⟩, inner, last⟩ := bind_eq_ok.mp read
    simp only at last
    split at last
    · cases last
      exact yields_inRange _ _ _ _ inner
    · cases last
  · cases loaded

theorem inRange_of_ofColumns {engine : Engine} {version : Int} {schema name : String} {columns : List Column}
    {functions : List Function} {blockList : BlockList}
    (versionInRange : IsInt64 version) (columnsInRange : ∀ c ∈ columns, c.InRange)
    (functionsInRange : ∀ f ∈ functions, f.InRange) :
    (ofColumns engine version schema name columns functions blockList).InRange ∧
      (ofColumns engine version schema name columns functions blockList).Indexed := by
  refine ⟨⟨?_, ?_, ?_⟩, addTables_indexed engine version schema name functions [] ?_⟩
  · rwa [ofColumns_version]
  · rw [ofColumns_tables]
    intro t member
    obtain ⟨_, primary, secondary, fullText⟩ := mem_tablesOf_parts member
    have own : ∀ c ∈ t.columns, c.InRange := fun c known => columnsInRange c ((mem_tablesOf member).2.2 c known).1
    exact ⟨own, fun c known => own c (primary c known), by simp [secondary], fun c known => own c (fullText c known)⟩
  · rwa [ofColumns_functions]
  · exact fun t member => (mem_tablesOf_parts member).1

/-- A snapshot that was assembled from columns and functions or loaded from a file. The version and the numbers of
    parameters have 64 bits, the numbers of columns 32. -/
inductive Produced : Snapshot → Prop where
  | assembled {engine : Engine} {version : Int} {schema name : String} {columns : List Column}
      {functions : List Function} {blockList : BlockList}
      (version_inRange : IsInt64 version) (columns_inRange : ∀ c ∈ columns, c.InRange)
      (functions_inRange : ∀ f ∈ functions, f.InRange) :
      Produced (ofColumns engine version schema name columns functions blockList)
  | loaded {text : String} {s : Snapshot} (accepted : ofText text = .ok s) : Produced s

/-- The file of a snapshot is read as that snapshot: all that it holds, in its order, and the same indices. So it has
    the same hash, gives the same answer to every lookup, errors included, and is written as the same text again. -/
theorem files_lose_nothing {s : Snapshot} (produced : s.Produced) : ofText s.toText = .ok s := by
  have ⟨inRange, indexed⟩ : s.InRange ∧ s.Indexed := by
    cases produced with
    | assembled version columns functions => exact inRange_of_ofColumns version columns functions
    | loaded accepted => exact inRange_of_ofText accepted
  have read : Json.readText record.read Json.nestingLimit s.toText = .ok s :=
    (readsBack (n := 0) inRange indexed).readText_pretty (by decide)
  rw [ofText, read]

/-- Names with quotes, control characters and characters beyond the first plane, and two that differ in case only. -/
def accentedColumns : List Column := [
  { (Column.plain "café" "na\"me\\s" "Größe" "int").asPrimary with id := -1 },
  Column.plain "café" "na\"me\\s" "GRÖSSE" "text\n\t\u0001",
  { Column.plain "café" "na\"me\\s" "größe" "😀" with fullText := true, blocked := true },
  (Column.plain "" "" "" "").referencing "café" "na\"me\\s" "größe"]

def accentedFunctions : List Function := [⟨"größe\u0000", [⟨0x7FFFFFFFFFFFFFFF, "\u0008\u000C/", "\u007F"⟩]⟩]

theorem files_lose_nothing_accented :
    (∀ c ∈ accentedColumns, c.InRange) ∧ (∀ f ∈ accentedFunctions, f.InRange) ∧
      ofText (ofColumns .mysql (-8) "café" "\r" accentedColumns accentedFunctions ["größe"]).toText =
        .ok (ofColumns .mysql (-8) "café" "\r" accentedColumns accentedFunctions ["größe"]) := by
  have columns : ∀ c ∈ accentedColumns, c.InRange := by decide
  have functions : ∀ f ∈ accentedFunctions, f.InRange := by decide
  exact ⟨columns, functions, files_lose_nothing (.assembled (by decide) columns functions)⟩

end Snapshot

end SchemaMutation.Schema
