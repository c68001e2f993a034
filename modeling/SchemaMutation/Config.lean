import SchemaMutation.BlockList
import SchemaMutation.Catalog.Source
import SchemaMutation.Toml.Document

/-!
# Configurations

How to reach a database and what of it to hide. A configuration is read from a TOML file in which every key may be
missing; keys that are not known do not count. Of several values that are wrong the first one is reported.
-/

namespace SchemaMutation

open Catalog (Engine)

structure Config where
  databaseUrl : Option String
  /-- The engine, unless the URL is to tell it. -/
  engine : Option Engine
  blockList : BlockList
  maxConnections : Nat
deriving DecidableEq, Repr, Inhabited

/-- The bytes of a file as text, or why there is none. -/
abbrev FileText := Except FileFault String

namespace Config

/-- The configuration without any file. -/
def standard : Config := ⟨none, none, [], 5⟩

def decodeFile (bytes : ByteArray) : FileText :=
  match String.fromUTF8? bytes with
  | some text => .ok text
  | none => .error .notText

def withUrl (c : Config) (url : String) : Config := { c with databaseUrl := some url }

def withEngine (c : Config) (e : Engine) : Config := { c with engine := some e }

def blocking (c : Config) (patterns : BlockList) : Config := { c with blockList := c.blockList ++ patterns }

def withMaxConnections (c : Config) (n : Nat) : Config := { c with maxConnections := n }

abbrev Checked := Except DocumentFault

def textOf : Toml.Value → Checked String
  | .string s => .ok s
  | other => .error (.wrongType other.described "a string")

def textsOf : Toml.Value → Checked (List String)
  | .array _ items => items.mapM textOf
  | other => .error (.wrongType other.described "a sequence")

/-- A number of 32 bits without a sign. -/
def countOf : Toml.Value → Checked Nat
  | .number (.int i) =>
    if 0 ≤ i ∧ i < 0x100000000 then .ok i.toNat else .error (.outOfRange (Toml.Number.int i).text "u32")
  | other => .error (.wrongType other.described "u32")

/-- The engine of a name, which must be its own one. -/
def engineNamed (name : String) : Checked Engine :=
  let engines := [Engine.postgres, .mysql]
  match engines.find? (·.name == name) with
  | some e => .ok e
  | none => .error (.unknownChoice name (engines.map Engine.name))

def isVacant : Toml.Value → Bool
  | .array _ [] => true
  | .table _ [] => true
  | _ => false

/-- An engine, written as its name or as a table whose only key is the name and whose value is empty. -/
def engineOf : Toml.Value → Checked Engine
  | .string name => engineNamed name
  | .table _ [(name, value)] => do
    let e ← engineNamed name
    if isVacant value then .ok e else .error .noChoice
  | _ => .error .noChoice

def setEntry (c : Config) (entry : String × Toml.Value) : Checked Config :=
  match entry.1 with
  | "database_url" => (textOf entry.2).map c.withUrl
  | "engine" => (engineOf entry.2).map c.withEngine
  | "block_list" => (textsOf entry.2).map fun patterns => { c with blockList := patterns }
  | "max_connections" => (countOf entry.2).map c.withMaxConnections
  | _ => .ok c

def ofText (text : String) : Except Error Config :=
  let fault (f : DocumentFault) : Error := .config (.document f)
  match Toml.ofText? text with
  | none => .error (fault .malformed)
  | some entries => (entries.foldlM setEntry standard).mapError fault

def ofFile (path : String) : FileText → Except Error Config
  | .ok text => ofText text
  | .error fault => .error (.config (.unreadable path fault))

/-- The configuration in the file in the usual place, which need not be there. -/
def ofUsualFile (path : String) : FileText → Except Error Config
  | .error .missing => .ok standard
  | .error .insideFile => .ok standard
  | file => ofFile path file

/-- The engine, or the one that the scheme of the URL names. -/
def resolveEngine (c : Config) : Except Error Engine :=
  match c.engine, c.databaseUrl with
  | some e, _ => .ok e
  | none, some url => Engine.ofUrl url
  | none, none => .error (.config .noUrl)

end Config

end SchemaMutation
