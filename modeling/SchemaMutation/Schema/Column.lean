import SchemaMutation.Digest
import SchemaMutation.Json.Record

/-!
# Columns

A column of a table as a snapshot holds it, its written form, and the fields that its digest covers.
-/

namespace SchemaMutation.Schema

structure Column where
  id : Int
  schema : String
  table : String
  name : String
  type : String
  array : Bool
  notNull : Bool
  primaryKey : Bool
  uniqueKey : Bool
  fullText : Bool
  foreignSchema : String
  foreignTable : String
  foreignColumn : String
  /-- The name is on the block list. -/
  blocked : Bool
deriving DecidableEq, Repr, Inhabited

namespace Column

def plain (schema table name type : String) : Column :=
  ⟨0, schema, table, name, type, false, false, false, false, false, "", "", "", false⟩

/-- The column as a primary key, which is unique and not null. -/
def asPrimary (c : Column) : Column := { c with primaryKey := true, uniqueKey := true, notNull := true }

def referencing (c : Column) (schema table column : String) : Column :=
  { c with foreignSchema := schema, foreignTable := table, foreignColumn := column }

def hasForeignKey (c : Column) : Bool := c.foreignTable != ""

def qualifiedName (c : Column) : String := c.schema ++ "." ++ c.table ++ "." ++ c.name

open Json (Field Fields Record)

def record : Record Column where
  wanted := "struct DBColumn"
  types := [Int, String, String, String, String, Bool, Bool, Bool, Bool, Bool, String, String, String, Bool]
  fields :=
    .cons (.required "id" Json.readInt32) <|
    .cons (.required "schema" Json.readString) <|
    .cons (.required "table" Json.readString) <|
    .cons (.required "name" Json.readString) <|
    .cons (.required "type" Json.readString) <|
    .cons (.defaulting "array" Json.readBool false) <|
    .cons (.defaulting "not_null" Json.readBool false) <|
    .cons (.defaulting "primary_key" Json.readBool false) <|
    .cons (.defaulting "unique_key" Json.readBool false) <|
    .cons (.defaulting "full_text" Json.readBool false) <|
    .cons (.defaulting "fkey_schema" Json.readString "") <|
    .cons (.defaulting "fkey_table" Json.readString "") <|
    .cons (.defaulting "fkey_col" Json.readString "") <|
    .cons (.defaulting "blocked" Json.readBool false) .nil
  make := fun (id, schema, table, name, type, array, notNull, primaryKey, uniqueKey, fullText, foreignSchema,
      foreignTable, foreignColumn, blocked, _) =>
    ⟨id, schema, table, name, type, array, notNull, primaryKey, uniqueKey, fullText, foreignSchema, foreignTable,
      foreignColumn, blocked⟩

def read : Json.Reader Column := record.read

def toJson (c : Column) : Json := .object [
  ("id", .ofInt c.id),
  ("schema", .string c.schema),
  ("table", .string c.table),
  ("name", .string c.name),
  ("type", .string c.type),
  ("array", .bool c.array),
  ("not_null", .bool c.notNull),
  ("primary_key", .bool c.primaryKey),
  ("unique_key", .bool c.uniqueKey),
  ("full_text", .bool c.fullText),
  ("fkey_schema", .string c.foreignSchema),
  ("fkey_table", .string c.foreignTable),
  ("fkey_col", .string c.foreignColumn),
  ("blocked", .bool c.blocked)]

/-- All fields but the number, which depends on the order of discovery. -/
def digestFields (c : Column) : List Digest.Field := [
  .text c.schema, .text c.table, .text c.name, .text c.type, .flag c.array, .flag c.notNull, .flag c.primaryKey,
  .flag c.uniqueKey, .flag c.fullText, .text c.foreignSchema, .text c.foreignTable, .text c.foreignColumn,
  .flag c.blocked]

def encoding (c : Column) : Digest.Bytes := Digest.encode "column" c.digestFields

end Column

end SchemaMutation.Schema
