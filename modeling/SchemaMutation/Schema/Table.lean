import SchemaMutation.BlockList
import SchemaMutation.Schema.Column
import SchemaMutation.Text.Characters

/-!
# Tables

A table with its columns in the order of discovery. Columns are found by name without regard to case through an index
that is built from them. A key that is inserted again is found with its new value, so that of two columns whose names
differ in case only the later one is found.
-/

namespace SchemaMutation.Schema

structure Index (α : Type) where
  entries : List (String × α)
deriving DecidableEq, Repr, Inhabited

namespace Index
variable {α : Type}

def empty : Index α := ⟨[]⟩

def insert (ix : Index α) (key : String) (value : α) : Index α := ⟨(key, value) :: ix.entries⟩

/-- The value inserted last under a key. -/
def get? (ix : Index α) (key : String) : Option α := ix.entries.lookup key

def insertAll (ix : Index α) (entries : List (String × α)) : Index α :=
  entries.foldl (fun ix e => ix.insert e.1 e.2) ix

end Index

structure Table where
  schema : String
  name : String
  type : String
  columns : List Column
  /-- The last primary-key column that is no full-text column. -/
  primary : Option Column
  /-- Reserved; discovery sets none. -/
  secondary : Option Column
  fullText : List Column
  blocked : Bool
  /-- The places of the columns under their names in lower case. -/
  names : Index Nat
deriving DecidableEq, Repr, Inhabited

namespace Table

def nameEntries (columns : List Column) : List (String × Nat) :=
  columns.zipIdx.map fun (c, i) => (Text.lowercase c.name, i)

/-- The table with its index built from its columns. -/
def reindex (t : Table) : Table := { t with names := Index.empty.insertAll (nameEntries t.columns) }

def isPrimary (c : Column) : Bool := c.primaryKey && !c.fullText

def ofColumns (schema name type : String) (columns : List Column) : Table :=
  reindex {
    schema, name, type, columns
    primary := (columns.filter isPrimary).getLast?
    secondary := none
    fullText := columns.filter (·.fullText)
    blocked := false
    names := .empty }

/-- The column with a name, without regard to case. -/
def column? (t : Table) (name : String) : Option Column := do t.columns[← t.names.get? (Text.lowercase name)]?

def columnNames (t : Table) : List String := t.columns.map (·.name)

def qualifiedName (t : Table) : String := t.schema ++ "." ++ t.name

open Json (Field Fields Record)

def record : Record Table where
  wanted := "struct DBTable"
  types := [String, String, String, List Column, Option Column, Option Column, List Column, Bool]
  fields :=
    .cons (.required "schema" Json.readString) <|
    .cons (.required "name" Json.readString) <|
    .cons (.defaulting "type" Json.readString "") <|
    .cons (.required "columns" (Json.readList Column.read)) <|
    .cons (.optional "primary_col" Column.read) <|
    .cons (.defaulting "secondary_col" (Json.readOption Column.read) none) <|
    .cons (.defaulting "full_text" (Json.readList Column.read) []) <|
    .cons (.defaulting "blocked" Json.readBool false) .nil
  make := fun (schema, name, type, columns, primary, secondary, fullText, blocked, _) =>
    ⟨schema, name, type, columns, primary, secondary, fullText, blocked, .empty⟩

/-- Reads a table. Its index is empty: no column of it is found by name until it is indexed. -/
def read : Json.Reader Table := record.read

def toJson (t : Table) : Json := .object [
  ("schema", .string t.schema),
  ("name", .string t.name),
  ("type", .string t.type),
  ("columns", .array (t.columns.map Column.toJson)),
  ("primary_col", .ofOption Column.toJson t.primary),
  ("secondary_col", .ofOption Column.toJson t.secondary),
  ("full_text", .array (t.fullText.map Column.toJson)),
  ("blocked", .bool t.blocked)]

/-- A column that may be missing: a flag and, if it is there, its digest. -/
def optionFields (hash : Digest.Bytes → Digest.Bytes) : Option Column → List Digest.Field
  | some c => [.flag true, .digest (hash c.encoding)]
  | none => [.flag false]

/-- The byte string that stands for a table in digests. The primary column is left out: of several primary-key columns
    it depends on their order, and the flags are part of every column. -/
def encoding (hash : Digest.Bytes → Digest.Bytes) (t : Table) : Digest.Bytes :=
  let columns := t.columns.map fun c => hash c.encoding
  let fullText := t.fullText.map fun c => hash c.encoding
  Digest.encode "table" <|
    [.text t.schema, .text t.name, .text t.type] ++ Digest.setFields columns ++ optionFields hash t.secondary ++
      Digest.setFields fullText ++ [.flag t.blocked]

end Table

end SchemaMutation.Schema
