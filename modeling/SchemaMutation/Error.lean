import SchemaMutation.Json.ReadError
import SchemaMutation.Url

/-!
# Errors

One type for all that can go wrong in discovery, in compilation and in what they need. A constructor is a cause;
`Error.message` is its wording. A cause that a collaborator reports in words of its own is `reported`.
-/

namespace SchemaMutation

inductive Entity where
  | table
  | column
deriving DecidableEq, Repr

def Entity.name : Entity → String
  | .table => "table"
  | .column => "column"

/-- Why a filter cannot be rendered. -/
inductive PredicateFault where
  | unknownColumn (column table : String)
  | noValues (column : String)
  | compositeLiteral (text : String)
  | noFilter (action table : String)
  | reported (text : String)
deriving DecidableEq, Repr

def PredicateFault.message : PredicateFault → String
  | .unknownColumn column table => "column '" ++ column ++ "' not found in table '" ++ table ++ "'"
  | .noValues column => "empty value list for '" ++ column ++ "'"
  | .compositeLiteral text => "unsupported literal in filter: " ++ text
  | .noFilter action table => action ++ " on '" ++ table ++ "' requires a where clause"
  | .reported text => text

/-- Why a payload gives no columns to write. -/
inductive PayloadFault where
  | notRows (kind : String)
  | badRow (index : Nat) (kind : String)
  | noColumn (table : String)
  | reported (text : String)
deriving DecidableEq, Repr

def PayloadFault.message : PayloadFault → String
  | .notRows kind => "expected an object or an array of objects, got " ++ kind
  | .badRow index kind => "row " ++ toString index ++ " is " ++ kind ++ ", expected an object"
  | .noColumn table => "no field matches a column of '" ++ table ++ "'"
  | .reported text => text

inductive FileFault where
  | missing
  | directory
  | insideFile
  | notText
  | reported (text : String)
deriving DecidableEq, Repr

def FileFault.message : FileFault → String
  | .missing => "No such file or directory (os error 2)"
  | .directory => "Is a directory (os error 21)"
  | .insideFile => "Not a directory (os error 20)"
  | .notText => "stream did not contain valid UTF-8"
  | .reported text => text

/-- What is wrong with a configuration file as a document. -/
inductive DocumentFault where
  | malformed
  /-- A choice is written neither as its name nor as a table with nothing but that name. -/
  | noChoice
  | unknownChoice (name : String) (names : List String)
  | wrongType (found wanted : String)
  /-- A value is of the type wanted but out of its range. -/
  | outOfRange (found wanted : String)
deriving DecidableEq, Repr

def firstLine (s : String) : String :=
  let line := s.toList.takeWhile (· != '\n')
  String.ofList (if line.length < s.length ∧ line.getLast? = some '\r' then line.dropLast else line)

/-- Only the first line of a message is kept. -/
def DocumentFault.message : DocumentFault → String
  | .malformed => "other"
  | .noChoice => "other"
  | .unknownChoice name names => firstLine ("unknown variant " ++ Json.ticked name ++ ", " ++ Json.oneOf names)
  | .wrongType found wanted => "invalid type: " ++ found ++ ", expected " ++ wanted
  | .outOfRange found wanted => "invalid value: " ++ found ++ ", expected " ++ wanted

inductive ConfigFault where
  | unsupportedEngine (name : String)
  | invalidUrl (fault : Url.Fault)
  | noUrl
  | unreadable (path : String) (fault : FileFault)
  | document (fault : DocumentFault)
  | snapshot (error : Json.ReadError)
  | reported (text : String)
deriving DecidableEq, Repr

def ConfigFault.message : ConfigFault → String
  | .unsupportedEngine name => "Unsupported database engine: " ++ name
  | .invalidUrl fault => "Invalid database URL: " ++ fault.message
  | .noUrl => "No database URL. Use --database-url or set SCHEMAQL_DATABASE_URL"
  | .unreadable path fault => "Failed to read " ++ path ++ ": " ++ fault.message
  | .document fault => "TOML: " ++ fault.message
  | .snapshot error => "Invalid schema snapshot: " ++ error.message
  | .reported text => text

inductive ConnectionFault where
  | invalidUrl (fault : Url.Fault)
  | noDriver (scheme : String)
  | noSlot
  | unreachable
  | reported (text : String)
deriving DecidableEq, Repr

def ConnectionFault.message : ConnectionFault → String
  | .invalidUrl fault => "error with configuration: " ++ fault.message
  | .noDriver scheme => "error with configuration: no driver found for URL scheme " ++ Text.shown scheme
  | .noSlot => "pool timed out while waiting for an open connection"
  | .unreachable => "the server cannot be reached"
  | .reported text => text

inductive Error where
  | discovery (reason : String)
  | notFound (entity : Entity) (name : String)
  | emptyQuery
  | unsupportedOperation (name : String)
  | undefinedVariable (name : String)
  | tableNotFound (name : String)
  | predicate (fault : PredicateFault)
  | payload (fault : PayloadFault)
  | connection (fault : ConnectionFault)
  | config (fault : ConfigFault)
  | io (reason : String)
deriving DecidableEq, Repr

def Error.message : Error → String
  | .discovery reason => "Discovery error: " ++ reason
  | .notFound entity name => entity.name ++ ": '" ++ name ++ "' not found"
  | .emptyQuery => "empty query"
  | .unsupportedOperation name =>
    "Unsupported operation: '" ++ name ++ "'. Valid mutations are insert, update and delete"
  | .undefinedVariable name => "Variable '" ++ name ++ "' not defined"
  | .tableNotFound name => "Table not found: '" ++ name ++ "'"
  | .predicate fault => "Predicate error: " ++ fault.message
  | .payload fault => "Invalid payload: " ++ fault.message
  | .connection fault => "Connection error: " ++ fault.message
  | .config fault => "Configuration error: " ++ fault.message
  | .io reason => "IO error: " ++ reason

end SchemaMutation
