import SchemaMutation.Digest
import SchemaMutation.Json.Record

/-!
# Functions and virtual tables

The functions of a database with their input parameters, and the tables that stand for polymorphic relations.
-/

namespace SchemaMutation.Schema

open Json (Record)

structure Parameter where
  id : Int
  name : String
  type : String
deriving DecidableEq, Repr, Inhabited

namespace Parameter

def record : Record Parameter where
  wanted := "struct DBFuncParam"
  types := [Int, String, String]
  fields :=
    .cons (.required "id" Json.readInt64) <|
    .cons (.required "name" Json.readString) <|
    .cons (.required "type" Json.readString) .nil
  make := fun (id, name, type, _) => ⟨id, name, type⟩

def toJson (p : Parameter) : Json := .object [
  ("id", .ofInt p.id),
  ("name", .string p.name),
  ("type", .string p.type)]

def digestFields (p : Parameter) : List Digest.Field := [.int p.id, .text p.name, .text p.type]

end Parameter

structure Function where
  name : String
  params : List Parameter
deriving DecidableEq, Repr, Inhabited

namespace Function

def record : Record Function where
  wanted := "struct DBFunction"
  types := [String, List Parameter]
  fields :=
    .cons (.required "name" Json.readString) <|
    .cons (.required "params" (Json.readList Parameter.record.read)) .nil
  make := fun (name, params, _) => ⟨name, params⟩

def toJson (f : Function) : Json := .object [
  ("name", .string f.name),
  ("params", .array (f.params.map Parameter.toJson))]

/-- The byte string that stands for a function in digests; the order of the parameters counts. -/
def encoding (f : Function) : Digest.Bytes :=
  Digest.encode "function" (.text f.name :: .int f.params.length :: f.params.flatMap Parameter.digestFields)

end Function

/-- Reserved for polymorphic relations; discovery finds none. -/
structure VirtualTable where
  name : String
  idColumn : String
  typeColumn : String
  foreignColumn : String
deriving DecidableEq, Repr, Inhabited

namespace VirtualTable

def record : Record VirtualTable where
  wanted := "struct VirtualTable"
  types := [String, String, String, String]
  fields :=
    .cons (.required "name" Json.readString) <|
    .cons (.required "id_column" Json.readString) <|
    .cons (.required "type_column" Json.readString) <|
    .cons (.required "fkey_column" Json.readString) .nil
  make := fun (name, idColumn, typeColumn, foreignColumn, _) => ⟨name, idColumn, typeColumn, foreignColumn⟩

def toJson (v : VirtualTable) : Json := .object [
  ("name", .string v.name),
  ("id_column", .string v.idColumn),
  ("type_column", .string v.typeColumn),
  ("fkey_column", .string v.foreignColumn)]

def encoding (v : VirtualTable) : Digest.Bytes :=
  Digest.encode "vtable" [.text v.name, .text v.idColumn, .text v.typeColumn, .text v.foreignColumn]

end VirtualTable

end SchemaMutation.Schema
