import SchemaMutation.Proofs.Loading

/-!
# Sources of columns

Where the columns of a load come from. The rows of a payload are selected from two sources at once, the payload as one
value and its rows as rows of the table, and the list of columns does not say which source it means. Every column of it
is one of the rows, and of these only, exactly when none has the name that the payload goes by (`selected_once_iff`).
-/

namespace SchemaMutation.Sql

open Query (Selection)
open Schema (Table Snapshot)

/-- What rows are selected from, as it stands in the text, with the names of its columns. -/
structure RowSource where
  text : String
  columns : List String
deriving DecidableEq, Repr

namespace Load

/-- The name that a payload goes by: that of the only column of the expression that holds it. -/
def inputColumn : String := "j"

def rowSource (l : Load) : RowSource := ⟨l.expansion, l.table.columnNames⟩

def sources (l : Load) : List RowSource := [⟨"input i", [inputColumn]⟩, l.rowSource]

def sourcesOf (l : Load) (name : String) : List RowSource := l.sources.filter fun source => name ∈ source.columns

/-- A text that binds the payload under its name and then selects the columns of the load from its sources. -/
def SelectedIn (l : Load) (text : String) : Prop :=
  ∃ before between behind, text = before ++
    ("WITH \"input\" AS (SELECT " ++ Buffer.placeholderText l.var ++ "::json AS " ++ inputColumn ++ ")") ++ between ++
    ("SELECT " ++ l.list ++ " FROM " ++ ", ".intercalate (l.sources.map (·.text))) ++ behind

theorem input_text (l : Load) :
    l.input = "WITH \"input\" AS (SELECT " ++ Buffer.placeholderText l.var ++ "::json AS " ++ inputColumn ++ ")" := by
  unfold input inputColumn Buffer.placeholderText
  refine String.toList_inj.mp ?_
  simp

theorem sources_text (l : Load) : ", ".intercalate (l.sources.map (·.text)) = "input i, " ++ l.expansion := by
  refine String.toList_inj.mp ?_
  simp [sources, rowSource]

theorem Writes.selectedIn {l : Load} {root : Selection} {text : String} (writes : l.Writes root text) :
    l.SelectedIn text := by
  rw [SelectedIn, ← l.input_text, l.sources_text]
  cases writes with
  | insertion =>
    refine ⟨"WITH \"" ++ l.table.name ++ "\" AS (", " INSERT INTO " ++ l.target ++ " (" ++ l.list ++ ") ",
      " RETURNING *) ", ?_⟩
    unfold Load.insertion
    refine String.toList_inj.mp ?_
    simp
  | @update f condition =>
    refine ⟨"WITH \"" ++ l.table.name ++ "\" AS (", " UPDATE " ++ l.target ++ " SET (" ++ l.list ++ ") = (",
      ") WHERE " ++ condition ++ " RETURNING *) ", ?_⟩
    unfold Load.update
    refine String.toList_inj.mp ?_
    simp

theorem exists_value {s : Snapshot} {vars : Variables} {schema : Option String} {table var : String} {l : Load}
    (load : of? s vars schema table var = some l) :
    ∃ value, vars.lookup var = some value ∧ l.columns = loadedColumns l.table value := by
  obtain ⟨t, -, further⟩ := Option.bind_eq_some_iff.mp load
  obtain ⟨value, bound, same⟩ := Option.bind_eq_some_iff.mp further
  cases same
  exact ⟨value, bound, rfl⟩

end Load

theorem mem_loadedColumns {t : Table} {value : Json} {name : String} :
    name ∈ loadedColumns t value ↔
      (∃ c ∈ t.columns, c.blocked = false ∧ c.name = name) ∧ name ∈ Payload.keys value := by
  simp only [loadedColumns, List.mem_map, List.mem_filter, Bool.and_eq_true, Bool.not_eq_true', decide_eq_true_eq]
  constructor
  · rintro ⟨c, ⟨inTable, shown, key⟩, rfl⟩
    exact ⟨⟨c, inTable, shown, rfl⟩, key⟩
  · rintro ⟨⟨c, inTable, shown, rfl⟩, key⟩
    exact ⟨c, ⟨inTable, shown, key⟩, rfl⟩

theorem Load.known_column {s : Snapshot} {vars : Variables} {schema : Option String} {table var : String} {l : Load}
    (load : of? s vars schema table var = some l) {name : String} (listed : name ∈ l.columns) :
    name ∈ l.table.columnNames := by
  obtain ⟨value, -, columns⟩ := exists_value load
  rw [columns, mem_loadedColumns] at listed
  obtain ⟨⟨c, inTable, -, rfl⟩, -⟩ := listed
  exact List.mem_map_of_mem inTable

/-- A column of the table is one of the rows only, unless it has the name of the payload. -/
theorem sourcesOf_eq_iff {l : Load} {name : String} (known : name ∈ l.table.columnNames) :
    l.sourcesOf name = [l.rowSource] ↔ name ≠ Load.inputColumn := by
  have inRows : name ∈ l.rowSource.columns := known
  by_cases same : name = Load.inputColumn
  · subst same
    simp [Load.sourcesOf, Load.sources, inRows]
  · simp [Load.sourcesOf, Load.sources, inRows, same]

/-- An insertion or an update that compiles selects the columns of its load from its sources. Each of them is a column
    of the rows and of no other source exactly when the payload has no key for a column of the table, not a blocked
    one, with the name that the payload goes by itself. -/
theorem selected_once_iff {s : Snapshot} {vars : Variables} {q : Query} {b : Buffer} {plan : Plan} {root : Selection}
    (isRoot : q.root? = some root) (loads : root.action = .insert ∨ root.action = .update)
    (succeeded : ((Compiler.standard s).compileMutation vars q b).result = .ok plan) :
    ∃ l value text, Load.of? s vars root.schema root.table root.actionVar = some l ∧
      vars.lookup root.actionVar = some value ∧
      ((Compiler.standard s).compileMutation vars q b).buffer = b.push text ∧ l.SelectedIn text ∧
      ((∀ name ∈ l.columns, l.sourcesOf name = [l.rowSource]) ↔
        ¬ ((∃ c ∈ l.table.columns, c.blocked = false ∧ c.name = Load.inputColumn) ∧
          Load.inputColumn ∈ Payload.keys value)) := by
  obtain ⟨root', st, isRoot', stated, -, appended⟩ := Compiler.exists_statement succeeded
  obtain rfl : root = root' := Option.some.inj (isRoot.symm.trans isRoot')
  obtain ⟨t, _, -, load, -, writes⟩ := exists_load loads (Compiler.statement_eq_ok.mp stated)
  obtain ⟨value, bound, columns⟩ := Load.exists_value load
  refine ⟨_, value, st.text, load, bound, appended, writes.selectedIn, ?_⟩
  rw [← mem_loadedColumns, ← columns]
  constructor
  · intro once listed
    exact absurd rfl ((sourcesOf_eq_iff (Load.known_column load listed)).mp (once _ listed))
  · intro unlisted name listed
    refine (sourcesOf_eq_iff (Load.known_column load listed)).mpr ?_
    rintro rfl
    exact unlisted listed

def pointsSnapshot : Snapshot := .ofColumns .postgres 160000 "public" "app" [.plain "public" "points" "i" "int",
  .plain "public" "points" "j" "int"] [] []

def pointsInsertion : Query := ⟨[Selection.inserting "points" "data"]⟩

theorem selected_once_iff_points :
    ((Compiler.standard pointsSnapshot).compileMutation [("data", .object [("i", .null)])] pointsInsertion
        .empty).result = .ok ⟨.insert, "points"⟩ ∧
    ∃ l value text, Load.of? pointsSnapshot [("data", .object [("i", .null)])] none "points" "data" = some l ∧
      List.lookup "data" [("data", Json.object [("i", .null)])] = some value ∧
      ((Compiler.standard pointsSnapshot).compileMutation [("data", .object [("i", .null)])] pointsInsertion
        .empty).buffer = Buffer.empty.push text ∧ l.SelectedIn text ∧
      ((∀ name ∈ l.columns, l.sourcesOf name = [l.rowSource]) ↔
        ¬ ((∃ c ∈ l.table.columns, c.blocked = false ∧ c.name = Load.inputColumn) ∧
          Load.inputColumn ∈ Payload.keys value)) := by
  have succeeded : ((Compiler.standard pointsSnapshot).compileMutation [("data", .object [("i", .null)])]
      pointsInsertion .empty).result = .ok ⟨.insert, "points"⟩ := by decide +kernel
  exact ⟨succeeded, selected_once_iff rfl (.inl rfl) succeeded⟩

/-- The column `j` is selected, and both sources have it. -/
theorem payload_column_ambiguous :
    ((Compiler.standard pointsSnapshot).compileMutation [("data", .object [("j", .null)])] pointsInsertion
        .empty).buffer =
      ⟨"WITH \"points\" AS (WITH \"input\" AS (SELECT \x7b\x7bdata\x7d\x7d::json AS j) INSERT INTO points (j) " ++
        "SELECT j FROM input i, json_populate_record(NULL::points, i.j) t RETURNING *) "⟩ ∧
    (Load.of? pointsSnapshot [("data", .object [("j", .null)])] none "points" "data").map
        (fun l => (l.columns, l.sourcesOf "j")) =
      some (["j"], [⟨"input i", ["j"]⟩, ⟨"json_populate_record(NULL::points, i.j) t", ["i", "j"]⟩]) := by
  constructor <;> decide +kernel

end SchemaMutation.Sql
