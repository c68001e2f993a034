import SchemaMutation.CommandLine.Arguments
import SchemaMutation.Config
import SchemaMutation.Query.Form
import SchemaMutation.Sql.Mutation

/-!
# Runs

What the program does with its arguments: which files it reads, what it writes, and how it ends. `Surroundings` is all
that a run can see. A run stops at the point where it would have to reach a server.
-/

namespace SchemaMutation.CommandLine

/-- What a run can see. -/
structure Surroundings (m : Type → Type) where
  file : String → m FileText
  /-- The path of the configuration file that is used when none is named. -/
  usualConfig : Option String
  databaseUrl : Option String

structure Outcome where
  code : UInt8
  output : String
  error : Option String
deriving DecidableEq, Repr

inductive Failure where
  | error (e : Error)
  | unreadable (path : String) (fault : FileFault)
  | invalidQuery (path : String) (e : Json.ReadError)
  | invalidVariables (path : String) (e : Json.ReadError)
  | noUrl
deriving DecidableEq, Repr

def Failure.message : Failure → String
  | .error e => e.message
  | .unreadable path fault => "failed to read " ++ path ++ ": " ++ fault.message
  | .invalidQuery path e => "invalid query in " ++ path ++ ": " ++ e.message
  | .invalidVariables path e => "invalid variables in " ++ path ++ ": " ++ e.message
  | .noUrl => "no database URL configured"

/-- The end of a command that wrote something and then failed. -/
def failing (output : String) (f : Failure) : Outcome := ⟨1, output, some ("Error: " ++ f.message)⟩

def versionText : String := "schemaql 0.3.0\n"

def usageText : String :=
  "Usage: schemaql [-c FILE] [--database-url URL] [-v] COMMAND\n\n" ++
  "Commands:\n" ++
  "  discover [-b PATTERN]... [-o FILE]\n" ++
  "  compile -s FILE -q FILE [--vars FILE]\n" ++
  "  table SCHEMA NAME\n" ++
  "  blocked NAME [PATTERN]...\n"

def Refusal.outcome : Refusal → Outcome
  | .usage => ⟨2, "", some usageText⟩
  | .version => ⟨0, versionText, none⟩
  | .help => ⟨0, usageText, none⟩

def runBlocked (name : String) (patterns : List String) : Outcome :=
  let verdict := if BlockList.blocks patterns name then ("✓ '", "' is blocked\n") else ("✗ '", "' is not blocked\n")
  ⟨0, verdict.1 ++ name ++ verdict.2, none⟩

def compiledText (plan : Sql.Plan) (sql : String) : String :=
  "Generated SQL:\n" ++ sql ++ "\n\nPlan: " ++ plan.action.name ++ " into CTE \"" ++ plan.cte ++ "\"\n"

def readVariables (text : String) : Except Json.ReadError Sql.Variables :=
  Json.readText (Json.readMap Json.read) Json.nestingLimit text

section
variable {m : Type → Type} [Monad m]

/-- Reads a file that has to be there. -/
def Surroundings.text (s : Surroundings m) (path : String) : ExceptT Failure m String := do
  match ← s.file path with
  | .ok text => return text
  | .error fault => throw (.unreadable path fault)

def compileFiles (s : Surroundings m) (snapshot query : String) (vars : Option String) :
    ExceptT Failure m String := do
  let schema ← ExceptT.mk (pure ((Schema.Snapshot.ofText (← s.text snapshot)).mapError .error))
  let q ← ExceptT.mk (pure ((Query.ofText (← s.text query)).mapError (.invalidQuery query)))
  let bound ← match vars with
    | none => pure []
    | some path => ExceptT.mk (pure ((readVariables (← s.text path)).mapError (.invalidVariables path)))
  let outcome := (Sql.Compiler.standard schema).compileMutation bound q .empty
  match outcome.result with
  | .ok plan => return compiledText plan outcome.buffer.text
  | .error e => throw (.error e)

def runCompile (s : Surroundings m) (snapshot query : String) (vars : Option String) : m Outcome := do
  match ← (compileFiles s snapshot query vars).run with
  | .ok text => return ⟨0, text, none⟩
  | .error f => return failing "" f

/-- The configuration that a run starts from. -/
def loadConfig (s : Surroundings m) (named : Option String) : m (Except Error Config) := do
  match named, s.usualConfig with
  | some path, _ => return Config.ofFile path (← s.file path)
  | none, some path => return Config.ofUsualFile path (← s.file path)
  | none, none => return .ok .standard

/-- The configuration of a run with what arguments and environment add to it, and the URL. -/
def Invocation.settle (i : Invocation) (environment : Option String) (block : List String) (c : Config) :
    Except Failure (Config × String) := do
  let named := match i.databaseUrl.or environment with
    | some url => c.withUrl url
    | none => c
  let settled := named.blocking block
  let _ ← settled.resolveEngine.mapError Failure.error
  match settled.databaseUrl with
  | some url => return (settled, url)
  | none => throw .noUrl

def driverSchemes : List String := ["postgres", "postgresql", "mysql", "mariadb"]

/-- Why there is no connection to the server of a URL. -/
def connectionFault (c : Config) (url : String) : ConnectionFault :=
  match Url.scheme url with
  | .error fault => .invalidUrl fault
  | .ok scheme =>
    if c.maxConnections = 0 then .noSlot
    else if driverSchemes.contains scheme then .unreachable
    else .noDriver scheme

def runConnecting (s : Surroundings m) (i : Invocation) (block : List String) : m Outcome := do
  match ← loadConfig s i.config with
  | .error e => return failing "" (.error e)
  | .ok loaded =>
    match i.settle s.databaseUrl block loaded with
    | .error f => return failing "" f
    | .ok (config, url) =>
      let output := if i.verbose then "→ Connecting to: " ++ url ++ "\n" else ""
      return failing output (.error (.connection (connectionFault config url)))

def run (s : Surroundings m) (args : List String) : m Outcome := do
  match Invocation.ofArguments args with
  | .error refusal => return refusal.outcome
  | .ok i =>
    match i.command with
    | .discover block _ => runConnecting s i block
    | .table _ _ => runConnecting s i []
    | .compile snapshot query vars => runCompile s snapshot query vars
    | .blocked name patterns => return runBlocked name patterns

end

end SchemaMutation.CommandLine
