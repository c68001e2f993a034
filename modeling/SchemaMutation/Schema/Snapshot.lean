import SchemaMutation.Catalog.Source
import SchemaMutation.Json.Printer
import SchemaMutation.Schema.Function
import SchemaMutation.Schema.Table

/-!
# Snapshots

The schema of a database at one moment. Tables and columns keep the order of discovery; they are found through indices
under keys that join their names, and a digest of the content tells whether two snapshots differ in anything but that
order. A snapshot is written to a file and read back with its indices built anew.
-/

namespace SchemaMutation.Schema

open Catalog (Engine)
open Json (Record)

structure Snapshot where
  engine : Engine
  version : Int
  /-- The default schema of the connection. -/
  schema : String
  name : String
  tables : List Table
  functions : List Function
  virtualTables : List VirtualTable
  /-- The places of columns, as those of the table and of the column in it. -/
  columnIndex : Index (Nat × Nat)
  tableIndex : Index Nat
deriving DecidableEq, Repr, Inhabited

namespace Snapshot

/-- Tables whose names start so are internal and never shown. -/
def internalMark : String := "_sq_"

def isInternal (table : String) : Bool := internalMark.toList.isPrefixOf table.toList

def tableKey (schema table : String) : String := schema ++ ":" ++ table

def columnKey (schema table column : String) : String := schema ++ ":" ++ table ++ ":" ++ column

def blank (engine : Engine) (version : Int) (schema name : String) (functions : List Function)
    (virtualTables : List VirtualTable) : Snapshot :=
  ⟨engine, version, schema, name, [], functions, virtualTables, .empty, .empty⟩

def columnEntries (place : Nat) (t : Table) : List (String × (Nat × Nat)) :=
  t.columns.zipIdx.map fun (c, i) => (columnKey c.schema c.table c.name, (place, i))

def addTable (s : Snapshot) (t : Table) : Snapshot :=
  let place := s.tables.length
  { s with
    tables := s.tables ++ [t]
    columnIndex := s.columnIndex.insertAll (columnEntries place t)
    tableIndex := s.tableIndex.insert (tableKey t.schema t.name) place }

def addTables (s : Snapshot) (ts : List Table) : Snapshot := ts.foldl addTable s

def addToGroup (c : Column) : List ((String × String) × List Column) → List ((String × String) × List Column)
  | [] => [((c.schema, c.table), [c])]
  | (key, cs) :: rest =>
    if key = (c.schema, c.table) then (key, cs ++ [c]) :: rest else (key, cs) :: addToGroup c rest

/-- The columns by schema and table, in the order of the first column of each table. -/
def groupColumns (columns : List Column) : List ((String × String) × List Column) :=
  columns.foldl (fun groups c => addToGroup c groups) []

/-- The tables of columns, internal ones left out; a table whose name is on the block list is marked. -/
def tablesOf (columns : List Column) (blockList : BlockList) : List Table :=
  ((groupColumns columns).filter fun g => !isInternal g.1.2).map fun ((schema, table), cs) =>
    { Table.ofColumns schema table "" cs with blocked := blockList.blocks table }

def ofColumns (engine : Engine) (version : Int) (schema name : String) (columns : List Column)
    (functions : List Function) (blockList : BlockList) : Snapshot :=
  (blank engine version schema name functions []).addTables (tablesOf columns blockList)

def table (s : Snapshot) (schema name : String) : Except Error Table :=
  match (s.tableIndex.get? (tableKey schema name)).bind (s.tables[·]?) with
  | some t => .ok t
  | none => .error (.notFound .table (schema ++ "." ++ name))

def columnAt? (s : Snapshot) (place : Nat × Nat) : Option Column := s.tables[place.1]?.bind (·.columns[place.2]?)

/-- The column with exactly these names or, failing that, the one of the table whose name differs in case only. -/
def column (s : Snapshot) (schema table column : String) : Except Error Column :=
  match (s.columnIndex.get? (columnKey schema table column)).bind s.columnAt? with
  | some c => .ok c
  | none => do
    let t ← s.table schema table
    match t.column? column with
    | some c => .ok c
    | none => .error (.notFound .column (schema ++ "." ++ table ++ "." ++ column))

/-- The first function with a name. -/
def function? (s : Snapshot) (name : String) : Option Function := s.functions.find? (·.name == name)

def encoding (hash : Digest.Bytes → Digest.Bytes) (s : Snapshot) : Digest.Bytes :=
  Digest.encode "dbinfo" <|
    [.text s.engine.name, .int s.version, .text s.schema, .text s.name] ++
      Digest.setFields (s.tables.map fun t => hash (t.encoding hash)) ++
      Digest.setFields (s.functions.map fun f => hash f.encoding) ++
      Digest.setFields (s.virtualTables.map fun v => hash v.encoding)

def digest (s : Snapshot) : Digest.Bytes := Digest.sha256 (s.encoding Digest.sha256)

/-- The first 64 bits of the digest. -/
def hash (s : Snapshot) : Nat := (s.digest.take 8).foldl (fun n b => n * 256 + b.toNat) 0

def hashText (s : Snapshot) : String :=
  let digits := Nat.toDigits 16 s.hash
  String.ofList (List.replicate (16 - digits.length) '0' ++ digits)

def record : Record Snapshot where
  wanted := "struct DBInfo"
  types := [Engine, Int, String, String, List Table, List Function, List VirtualTable]
  fields :=
    .cons (.required "engine" Engine.read) <|
    .cons (.required "version" Json.readInt64) <|
    .cons (.required "schema" Json.readString) <|
    .cons (.required "name" Json.readString) <|
    .cons (.required "tables" (Json.readList Table.read)) <|
    .cons (.required "functions" (Json.readList Function.record.read)) <|
    .cons (.defaulting "virtual_tables" (Json.readList VirtualTable.record.read) []) .nil
  make := fun (engine, version, schema, name, tables, functions, virtualTables, _) =>
    (blank engine version schema name functions virtualTables).addTables (tables.map Table.reindex)

def ofText (text : String) : Except Error Snapshot :=
  match Json.readText record.read Json.nestingLimit text with
  | .ok s => .ok s
  | .error e => .error (.config (.snapshot e))

def toJson (s : Snapshot) : Json := .object [
  ("engine", s.engine.toJson),
  ("version", .ofInt s.version),
  ("schema", .string s.schema),
  ("name", .string s.name),
  ("tables", .array (s.tables.map Table.toJson)),
  ("functions", .array (s.functions.map Function.toJson)),
  ("virtual_tables", .array (s.virtualTables.map VirtualTable.toJson))]

def toText (s : Snapshot) : String := s.toJson.pretty

end Snapshot

end SchemaMutation.Schema
