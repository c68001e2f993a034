import SchemaMutation.Decimal
import SchemaMutation.Text.Characters

/-!
# TOML values

Values, and tables as lists of entries in the order in which they were opened. A table remembers how it came about,
because that decides whether a later key or header may still add to it: `insert` is the rule for keys, `openTable`
and `openRow` are those for headers.
-/

namespace SchemaMutation.Toml

open Decimal (Binary64)

/-- An integer of 64 bits, or a double. -/
inductive Number where
  | int (value : Int)
  | double (value : Binary64)
  | infinite (negative : Bool)
  | notANumber
deriving DecidableEq, Repr, Inhabited

/-- How a table came about. -/
inductive Origin where
  /-- It stands between braces, complete. -/
  | inline
  /-- A header names it. -/
  | header
  /-- Only headers of tables inside it name it. -/
  | implied
  /-- A dotted key names it. -/
  | dotted
deriving DecidableEq, Repr, Inhabited

inductive Value where
  | string (value : String)
  | number (value : Number)
  | bool (value : Bool)
  /-- A date, a time or both; which one is not kept. -/
  | moment
  /-- An array; headers open further rows of one that they made. -/
  | array (ofHeaders : Bool) (items : List Value)
  | table (origin : Origin) (entries : List (String × Value))
deriving Repr, Inhabited

abbrev Entries := List (String × Value)

def doubleNotation : Decimal.Notation := ⟨none, none⟩

def Number.text : Number → String
  | .int i => "integer `" ++ toString i ++ "`"
  | .double x => "floating point `" ++ doubleNotation.write x ++ "`"
  | .infinite negative => "floating point `" ++ (if negative then "-inf" else "inf") ++ "`"
  | .notANumber => "floating point `NaN`"

def Value.described : Value → String
  | .string s => "string " ++ Text.shown s
  | .number n => n.text
  | .bool b => "boolean `" ++ (if b then "true" else "false") ++ "`"
  | .moment => "map"
  | .array _ _ => "sequence"
  | .table _ _ => "map"

/-- Changes the value under a key in its place. A key that is missing is added behind the others. -/
def change (key : String) (fresh : Option Value) (f : Value → Option Value) : Entries → Option Entries
  | [] => fresh.map fun v => [(key, v)]
  | (k, v) :: rest =>
    if k = key then (f v).map fun v => (k, v) :: rest
    else (change key fresh f rest).map ((k, v) :: ·)

/-- Whether a path of this kind may lead through a table: a dotted key through tables that no header or brace has
    opened, a header through all but those in braces. -/
def Origin.admits (path table : Origin) : Bool :=
  match path, table with
  | _, .inline => false
  | .dotted, .header => false
  | _, _ => true

/-- Acts on the table at the end of a path, making the tables on the way that are missing. A path through an array of
    tables leads to its last row. -/
def within (made : Origin) (act : Origin → Entries → Option Entries) : List String → Origin → Entries → Option Entries
  | [], origin, es => act origin es
  | key :: path, _, es =>
    change key ((within made act path made []).map (.table made)) (fun
      | .table origin sub =>
        if made.admits origin then (within made act path origin sub).map (.table origin) else none
      | .array true items =>
        match items.getLast? with
        | some (.table origin sub) =>
          (within made act path origin sub).map fun sub => .array true (items.dropLast ++ [.table origin sub])
        | _ => none
      | _ => none) es

/-- Adds a value under a new key. Behind a dotted path it goes only into a table that dotted keys have made. -/
def insert (path : List String) (key : String) (v : Value) (es : Entries) : Option Entries :=
  within .dotted (fun origin es =>
    if (path.isEmpty || origin == .dotted) && (es.lookup key).isNone then some (es ++ [(key, v)]) else none)
    path .header es

/-- Opens a table by its header. It must be new, or known from the headers of tables inside it only. -/
def openTable (path : List String) (key : String) (es : Entries) : Option Entries :=
  within .implied (fun _ es =>
    match es.lookup key with
    | none => some (es ++ [(key, .table .header [])])
    | some (.table .implied sub) => some (es.filter (·.1 != key) ++ [(key, .table .header sub)])
    | some _ => none) path .header es

def openRow (path : List String) (key : String) (es : Entries) : Option Entries :=
  within .implied (fun _ es =>
    change key (some (.array true [.table .header []])) (fun
      | .array true items => some (.array true (items ++ [.table .header []]))
      | _ => none) es) path .header es

end SchemaMutation.Toml
