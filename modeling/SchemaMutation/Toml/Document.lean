import SchemaMutation.Toml.Scalar

/-!
# TOML documents

Values, keys and lines. A document is read line by line into its root table; a header says into which table the lines
behind it go. A document is accepted as a whole or not at all.
-/

namespace SchemaMutation.Toml

open Text (Parsed)

/-- How deep arrays and tables in braces may be nested. -/
def nestingLimit : Nat := 79

def keyLimit : Nat := 79

def isBare (c : Char) : Bool := c.isAlphanum || c == '-' || c == '_'

def readPart? (cs : List Char) : Option (Parsed String) :=
  match cs with
  | '"' :: rest => (escapedString rest).map fun (s, rest) => (String.ofList s, rest)
  | '\'' :: rest => (literalString rest).map fun (s, rest) => (String.ofList s, rest)
  | cs =>
    let bare := cs.takeWhile isBare
    if bare.isEmpty then none else some (String.ofList bare, cs.drop bare.length)

/-- Reads a key of at most so many parts with points between them: the parts before the last, and the last. -/
def readKey? : Nat → List Char → Option (Parsed (List String × String))
  | 0, _ => none
  | limit + 1, cs => do
    let (part, rest) ← readPart? (cs.dropWhile isBlank)
    match rest.dropWhile isBlank with
    | '.' :: rest => do
      let ((path, last), rest) ← readKey? limit rest
      some ((part :: path, last), rest)
    | rest => some (([], part), rest)

def readAssigned? (cs : List Char) : Option (Parsed (List String × String)) := do
  let (key, rest) ← readKey? keyLimit cs
  some (key, (← expect? '=' rest).dropWhile isBlank)

/-- Reads the items of an array from behind its opening bracket. Each takes one unit of `fuel`. -/
def readItems? (value : List Char → Option (Parsed Value)) : Nat → List Char → Option (Parsed (List Value))
  | 0, _ => none
  | fuel + 1, cs => do
    match ← dropTrivia false cs with
    | ']' :: rest => some ([], rest)
    | cs => do
      let (v, cs) ← value cs
      match ← dropTrivia false cs with
      | ']' :: rest => some ([v], rest)
      | ',' :: rest => do
        let (vs, rest) ← readItems? value fuel rest
        some (v :: vs, rest)
      | _ => none

/-- Reads the entries of a table in braces up to its closing brace, adding them to those before. Each takes one unit
    of `fuel`. -/
def readPairs? (value : List Char → Option (Parsed Value)) : Nat → Entries → List Char → Option (Parsed Entries)
  | 0, _, _ => none
  | fuel + 1, es, cs => do
    let ((path, key), cs) ← readAssigned? cs
    let (v, cs) ← value cs
    let es ← insert path key v es
    match cs.dropWhile isBlank with
    | '\x7d' :: rest => some (es, rest)
    | ',' :: rest => readPairs? value fuel es rest
    | _ => none

def readScalar? (cs : List Char) : Option (Parsed Value) :=
  match cs with
  | '"' :: _ => (readString? cs).map fun (s, rest) => (.string (String.ofList s), rest)
  | '\'' :: _ => (readString? cs).map fun (s, rest) => (.string (String.ofList s), rest)
  | 't' :: 'r' :: 'u' :: 'e' :: rest => some (.bool true, rest)
  | 'f' :: 'a' :: 'l' :: 's' :: 'e' :: rest => some (.bool false, rest)
  | cs =>
    match dropMoment? cs with
    | some rest => some (.moment, rest)
    | none => (readNumber? cs).map fun (n, rest) => (.number n, rest)

/-- Reads any value; the number says how many levels of nesting are left. -/
def readValue? : Nat → List Char → Option (Parsed Value)
  | 0, cs => readScalar? cs
  | depth + 1, cs =>
    match cs with
    | '[' :: rest => do
      let (items, rest) ← readItems? (readValue? depth) (rest.length + 1) rest
      some (.array false items, rest)
    | '\x7b' :: rest =>
      match rest.dropWhile isBlank with
      | '\x7d' :: rest => some (.table .inline [], rest)
      | rest => do
        let (es, rest) ← readPairs? (readValue? depth) (rest.length + 1) [] rest
        some (.table .inline es, rest)
    | cs => readScalar? cs

structure Document where
  root : Entries
  /-- The path of the table that the last header opened. -/
  here : List String

def Document.assign (d : Document) (path : List String) (key : String) (v : Value) : Option Document := do
  some { d with root := ← within .implied (fun _ es => insert path key v es) d.here .header d.root }

def Document.readHeader? (d : Document) (cs : List Char) : Option (Parsed Document) :=
  match cs with
  | '[' :: cs => do
    let ((path, key), cs) ← readKey? keyLimit cs
    let cs ← endLine? (← expect? ']' (← expect? ']' cs))
    some (⟨← openRow path key d.root, path ++ [key]⟩, cs)
  | cs => do
    let ((path, key), cs) ← readKey? keyLimit cs
    let cs ← endLine? (← expect? ']' cs)
    some (⟨← openTable path key d.root, path ++ [key]⟩, cs)

def Document.readAssignment? (d : Document) (cs : List Char) : Option (Parsed Document) := do
  let ((path, key), cs) ← readAssigned? cs
  let (v, cs) ← readValue? nestingLimit cs
  some (← d.assign path key v, ← endLine? cs)

def Document.readLines? : Nat → Document → List Char → Option Document
  | 0, _, _ => none
  | fuel + 1, d, cs =>
    match cs.dropWhile isBlank with
    | [] => some d
    | c :: rest =>
      if c = '#' ∨ c = '\n' ∨ c = '\r' then do readLines? fuel d (← endLine? (c :: rest))
      else if c = '[' then do
        let (d, cs) ← d.readHeader? rest
        readLines? fuel d cs
      else do
        let (d, cs) ← d.readAssignment? (c :: rest)
        readLines? fuel d cs

/-- The root table of a text. A byte-order mark may stand in front. -/
def ofText? (text : String) : Option Entries :=
  let cs := match text.toList with
    | '\uFEFF' :: cs => cs
    | cs => cs
  (Document.readLines? (cs.length + 1) ⟨[], []⟩ cs).map (·.root)

end SchemaMutation.Toml
