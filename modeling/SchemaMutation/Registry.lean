import SchemaMutation.Catalog.Source
import SchemaMutation.Schema.Snapshot

/-!
# Discovery

Catalog rows become columns and functions, and these a snapshot. A column has one row for each constraint that it
takes part in; its rows are merged under the key that joins the names of schema, table and column. A function has one
row for each parameter. If a catalog query fails there is no snapshot.

A registry holds the snapshot in force. A refresh discovers a whole new snapshot before it replaces the one in force, so
a refresh that fails changes nothing. A snapshot that a reader took stays as it was.
-/

namespace SchemaMutation.Schema.Discovery

open Catalog (ColumnRow FunctionRow TableColumnRow Source Engine)

/-- The key under which the rows of a column are merged. -/
def rowKey (row : ColumnRow) : String := Snapshot.columnKey row.schema row.table row.name

def newColumn (blockList : BlockList) (id : Nat) (row : ColumnRow) : Column :=
  { Column.plain row.schema row.table row.name "" with id := id, blocked := blockList.blocks row.name }

/-- The text of a row, unless it is empty. -/
def later (old new : String) : String := if new = "" then old else new

/-- Merges a row into its column: a flag that is set stays set, and a text that is not empty replaces the one before.
    A primary key is unique. -/
def mergeRow (c : Column) (row : ColumnRow) : Column :=
  { c with
    type := later c.type row.type
    primaryKey := c.primaryKey || row.primaryKey
    uniqueKey := c.uniqueKey || row.primaryKey || row.uniqueKey
    notNull := c.notNull || row.notNull
    array := c.array || row.array
    fullText := c.fullText || row.fullText
    foreignSchema := later c.foreignSchema row.foreignSchema
    foreignTable := later c.foreignTable row.foreignTable
    foreignColumn := later c.foreignColumn row.foreignColumn }

/-- Merges a row into the column under its key, or into a new column at the end; `count` is the number of the columns
    before these. -/
def addRow (blockList : BlockList) (row : ColumnRow) (count : Nat) : List (String × Column) → List (String × Column)
  | [] => [(rowKey row, mergeRow (newColumn blockList count row) row)]
  | (key, c) :: rest =>
    if key = rowKey row then (key, mergeRow c row) :: rest else (key, c) :: addRow blockList row (count + 1) rest

/-- The columns of the rows with their keys. Rows of internal tables are left out. -/
def mergeRows (blockList : BlockList) (rows : List ColumnRow) : List (String × Column) :=
  (rows.filter fun row => !Snapshot.isInternal row.table).foldl (fun merged row => addRow blockList row 0 merged) []

def columns (rows : List ColumnRow) (blockList : BlockList) : List Column := (mergeRows blockList rows).map (·.2)

/-- Where the scan of function rows stands: the functions so far with their keys, the keys of those on the block list,
    and the number of rows kept. -/
structure FunctionScan where
  functions : List (String × Function)
  blocked : List String
  kept : Nat

/-- The parameter of a row. One without a name is named after its place among the rows that are kept. -/
def parameter (kept : Nat) (row : FunctionRow) : Parameter :=
  ⟨row.ordinal, row.paramName.getD (toString (kept + 1)), row.paramType⟩

def addParameter (key : String) (p : Parameter) : List (String × Function) → List (String × Function)
  | [] => []
  | (k, f) :: rest =>
    if k = key then (k, { f with params := f.params ++ [p] }) :: rest else (k, f) :: addParameter key p rest

/-- Takes one more row. The first row of a function decides its name, and whether it is on the block list. -/
def FunctionScan.step (blockList : BlockList) (s : FunctionScan) (row : FunctionRow) : FunctionScan :=
  if s.blocked.contains row.functionId then s
  else if (s.functions.lookup row.functionId).isSome then
    { s with functions := addParameter row.functionId (parameter s.kept row) s.functions, kept := s.kept + 1 }
  else if blockList.blocks row.functionName then { s with blocked := row.functionId :: s.blocked }
  else
    { s with
      functions := s.functions ++ [(row.functionId, ⟨row.functionName, [parameter s.kept row]⟩)]
      kept := s.kept + 1 }

def functions (rows : List FunctionRow) (blockList : BlockList) : List Function :=
  (rows.foldl (FunctionScan.step blockList) ⟨[], [], 0⟩).functions.map (·.2)

/-- The snapshot of a catalog. Of several queries that fail the one for the identity is reported first, then the one
    for columns. -/
def snapshot (source : Source) (engine : Engine) (blockList : BlockList) : Except Error Snapshot := do
  let identity ← source.identity
  let columnRows ← source.columns
  let functionRows ← source.functions
  return Snapshot.ofColumns engine identity.version identity.schema identity.name (columns columnRows blockList)
    (functions functionRows blockList) blockList

def saysNo (s : String) : Bool := Text.lowercaseAscii s == "no"

def tableColumn (blockList : BlockList) (id : Nat) (row : TableColumnRow) : Column :=
  { Column.plain row.schema row.table row.name row.type with
    id := id
    blocked := blockList.blocks row.name
    notNull := saysNo row.nullable
    primaryKey := row.key == "PRI"
    uniqueKey := row.key == "PRI" || row.key == "UNI" }

/-- A single table, of the type that its engine names. A table without columns does not exist. -/
def table (source : Source) (engine : Engine) (schema name : String) (blockList : BlockList) : Except Error Table := do
  let rows ← source.tableColumns schema name
  if rows.isEmpty then throw (.notFound .table (schema ++ "." ++ name))
  let columns := rows.zipIdx.map fun (row, i) => tableColumn blockList i row
  return { Table.ofColumns schema name engine.name columns with blocked := blockList.blocks name }

end SchemaMutation.Schema.Discovery

namespace SchemaMutation

open Schema (Snapshot)
open Catalog (Source Engine)

structure Registry where
  current : Snapshot
deriving Repr

namespace Registry

def new (s : Snapshot) : Registry := ⟨s⟩

def load (source : Source) (engine : Engine) (blockList : BlockList) : Except Error Registry :=
  (Schema.Discovery.snapshot source engine blockList).map new

/-- Puts a snapshot in force and gives the one that it replaces. -/
def publish (r : Registry) (s : Snapshot) : Registry × Snapshot := (⟨s⟩, r.current)

/-- Discovers the schema again and puts it in force. Tells whether the hash changed, or why discovery failed. -/
def refresh (r : Registry) (source : Source) (engine : Engine) (blockList : BlockList) :
    Registry × Except Error Bool :=
  match Schema.Discovery.snapshot source engine blockList with
  | .error e => (r, .error e)
  | .ok s =>
    let (next, replaced) := r.publish s
    (next, .ok (replaced.hash != s.hash))

end Registry

end SchemaMutation
