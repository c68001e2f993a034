import SchemaMutation.CommandLine.Run

/-!
# The program

Runs the command line on the files and the environment of the process.
-/

namespace SchemaMutation.CommandLine

def fileFault : IO.Error → FileFault
  | .noFileOrDirectory _ _ _ => .missing
  | .noSuchThing _ _ _ => .missing
  | .inappropriateType _ code _ => if code = 20 then .insideFile else .directory
  | other => .reported (toString other)

def readFile (path : String) : IO FileText := do
  match ← (IO.FS.readBinFile path).toBaseIO with
  | .ok bytes => return Config.decodeFile bytes
  | .error e => return .error (fileFault e)

/-- The path of the configuration file that is used when none is named. -/
def usualConfigPath : IO (Option String) := do
  let base ← match ← IO.getEnv "XDG_CONFIG_HOME" with
    | some directory => pure (if directory.startsWith "/" then some directory else none)
    | none => pure none
  let home ← IO.getEnv "HOME"
  return (base.or (home.map (· ++ "/.config"))).map (· ++ "/schemaql/config.toml")

end SchemaMutation.CommandLine

open SchemaMutation.CommandLine in
def main (args : List String) : IO UInt32 := do
  let surroundings : Surroundings IO :=
    ⟨readFile, ← usualConfigPath, ← IO.getEnv "SCHEMAQL_DATABASE_URL"⟩
  let outcome ← run surroundings args
  IO.print outcome.output
  if let some text := outcome.error then
    IO.eprintln text
  return outcome.code.toUInt32
