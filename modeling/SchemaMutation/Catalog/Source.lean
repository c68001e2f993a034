import SchemaMutation.Error
import SchemaMutation.Json.Record
import SchemaMutation.Text.Characters

/-!
# Engines and their catalogs

The database engines that are known, and how one is named: in a configuration, in a file, or by the scheme of a URL.
The catalog of a database gives rows, and a source answers each query for them with rows or with an error; where the
rows come from is not said here.
-/

namespace SchemaMutation.Catalog

inductive Engine where
  | postgres
  | mysql
deriving DecidableEq, Repr, Inhabited

namespace Engine

def name : Engine → String
  | .postgres => "postgres"
  | .mysql => "mysql"

/-- The engine of a name or of another usual name, in either case. -/
def ofName (name : String) : Except Error Engine :=
  let lower := Text.lowercaseAscii name
  if lower = "postgres" ∨ lower = "postgresql" then .ok .postgres
  else if lower = "mysql" ∨ lower = "mariadb" then .ok .mysql
  else .error (.config (.unsupportedEngine lower))

def ofUrl (url : String) : Except Error Engine :=
  match Url.scheme url with
  | .error fault => .error (.config (.invalidUrl fault))
  | .ok scheme => ofName scheme

def read : Json.Reader Engine := Json.readVariant [.unit "postgres" .postgres, .unit "mysql" .mysql]

def toJson (e : Engine) : Json := .string e.name

end Engine

structure Identity where
  version : Int
  schema : String
  name : String
deriving DecidableEq, Repr, Inhabited

/-- One fact about a column. A column has one for each constraint that it takes part in. -/
structure ColumnRow where
  schema : String
  table : String
  name : String
  type : String
  notNull : Bool
  primaryKey : Bool
  uniqueKey : Bool
  array : Bool
  fullText : Bool
  foreignSchema : String
  foreignTable : String
  foreignColumn : String
deriving DecidableEq, Repr, Inhabited

/-- One parameter of a function. -/
structure FunctionRow where
  functionName : String
  functionId : String
  paramType : String
  paramName : Option String
  ordinal : Int
deriving DecidableEq, Repr, Inhabited

structure TableColumnRow where
  schema : String
  table : String
  name : String
  ordinal : Int
  /-- `YES` or `NO` -/
  nullable : String
  type : String
  /-- `PRI`, `UNI` or empty -/
  key : String
deriving DecidableEq, Repr, Inhabited

/-- The answers to the catalog statements. -/
structure Source where
  identity : Except Error Identity
  columns : Except Error (List ColumnRow)
  functions : Except Error (List FunctionRow)
  tableColumns : String → String → Except Error (List TableColumnRow)

end SchemaMutation.Catalog
