import SchemaMutation.Json.Token

/-!
# Readers

A reader takes the number of levels that may still be opened and a text, and gives a value and the rest of the text,
or the first error. The readers here are those of plain values, lists and objects; `Json.read` reads any value.
-/

namespace SchemaMutation.Json

open Text (Parsed)

/-- Reads a value from the front of a text. The number says how many levels of nesting are left. -/
abbrev Reader (α : Type) := Nat → List Char → Reading (Parsed α)

def nestingLimit : Nat := 127

def Reader.map {α β : Type} (f : α → β) (read : Reader α) : Reader β := fun depth cs => do
  let (a, rest) ← read depth cs
  .ok (f a, rest)

/-- Opens a level of nesting. -/
def openLevel {α : Type} (depth : Nat) (inner : Nat → Reading α) : Reading α :=
  match depth with
  | 0 => fault .nestedTooDeep
  | d + 1 => inner d

/-- The error for a value that is not of the type wanted. A value without parts is read to its end first. -/
def wrongType {α : Type} (wanted : String) (cs : List Char) : Reading α :=
  match cs with
  | 'n' :: rest => do let _ ← expectWord ['u', 'l', 'l'] rest; .error (.invalidType .null wanted)
  | 't' :: rest => do let _ ← expectWord ['r', 'u', 'e'] rest; .error (.invalidType (.bool true) wanted)
  | 'f' :: rest => do let _ ← expectWord ['a', 'l', 's', 'e'] rest; .error (.invalidType (.bool false) wanted)
  | '-' :: rest => do let (n, _) ← numberBody true rest; .error (.invalidType (.number n) wanted)
  | '"' :: rest => do let (s, _) ← stringBody rest; .error (.invalidType (.string s) wanted)
  | '[' :: _ => .error (.invalidType .sequence wanted)
  | '\x7b' :: _ => .error (.invalidType .map wanted)
  | c :: rest =>
    if c.isDigit then do let (n, _) ← numberBody false (c :: rest); .error (.invalidType (.number n) wanted)
    else fault .expectedValue
  | [] => fault .endInValue

def readNull : Reader Unit := fun _ cs =>
  match skipBlanks cs with
  | 'n' :: rest => do .ok ((), ← expectWord ['u', 'l', 'l'] rest)
  | cs => wrongType "unit" cs

def readBool : Reader Bool := fun _ cs =>
  match skipBlanks cs with
  | 't' :: rest => do .ok (true, ← expectWord ['r', 'u', 'e'] rest)
  | 'f' :: rest => do .ok (false, ← expectWord ['a', 'l', 's', 'e'] rest)
  | cs => wrongType "a boolean" cs

def readStringAs (wanted : String) : Reader String := fun _ cs =>
  match skipBlanks cs with
  | '"' :: rest => stringBody rest
  | cs => wrongType wanted cs

def readString : Reader String := readStringAs "a string"

def integerIn (least greatest : Int) (wanted : String) (n : Number) (rest : List Char) : Reading (Parsed Int) :=
  match n with
  | .int i => if least ≤ i ∧ i ≤ greatest then .ok (i, rest) else .error (.invalidValue (.number n) wanted)
  | .double _ => .error (.invalidType (.number n) wanted)

def readInteger (least greatest : Int) (wanted : String) : Reader Int := fun _ cs =>
  match skipBlanks cs with
  | '-' :: rest => do let (n, rest) ← numberBody true rest; integerIn least greatest wanted n rest
  | c :: rest =>
    if c.isDigit then do let (n, rest) ← numberBody false (c :: rest); integerIn least greatest wanted n rest
    else wrongType wanted (c :: rest)
  | [] => fault .endInValue

def readInt32 : Reader Int := readInteger (-0x80000000) 0x7FFFFFFF "i32"

def readInt64 : Reader Int := readInteger (-0x8000000000000000) 0x7FFFFFFFFFFFFFFF "i64"

def readUnsigned64 : Reader Nat := (readInteger 0 0xFFFFFFFFFFFFFFFF "u64").map Int.toNat

def readOption {α : Type} (read : Reader α) : Reader (Option α) := fun depth cs =>
  match skipBlanks cs with
  | 'n' :: rest => do .ok (none, ← expectWord ['u', 'l', 'l'] rest)
  | cs => (read.map some) depth cs

/-- Looks for the next item of a list: whether there is one, and the text at it or at the closing bracket. -/
def nextItem (first : Bool) (cs : List Char) : Reading (Parsed Bool) :=
  match skipBlanks cs with
  | [] => fault .endInList
  | c :: rest =>
    if c = ']' then .ok (false, c :: rest)
    else if first then .ok (true, c :: rest)
    else if c = ',' then
      match skipBlanks rest with
      | [] => fault .endInValue
      | d :: more => if d = ']' then fault .trailingComma else .ok (true, d :: more)
    else fault .expectedListCommaOrEnd

def endList (cs : List Char) : Reading (List Char) :=
  match skipBlanks cs with
  | [] => fault .endInList
  | ']' :: rest => .ok rest
  | ',' :: rest =>
    match skipBlanks rest with
    | ']' :: _ => fault .trailingComma
    | _ => fault .trailingCharacters
  | _ => fault .trailingCharacters

/-- Reads items up to the closing bracket. Each takes one unit of `fuel`. -/
def readItems {α : Type} (item : List Char → Reading (Parsed α)) :
    Nat → Bool → List Char → Reading (Parsed (List α))
  | 0, _, _ => fault .endInList
  | fuel + 1, first, cs => do
    match ← nextItem first cs with
    | (false, rest) => .ok ([], rest)
    | (true, rest) => do
      let (a, rest) ← item rest
      let (as, rest) ← readItems item fuel false rest
      .ok (a :: as, rest)

def listBody {α : Type} (item : List Char → Reading (Parsed α)) (cs : List Char) : Reading (Parsed (List α)) := do
  let (as, rest) ← readItems item (cs.length + 1) true cs
  .ok (as, ← endList rest)

def readList {α : Type} (item : Reader α) : Reader (List α) := fun depth cs =>
  match skipBlanks cs with
  | '[' :: rest => openLevel depth fun d => listBody (item d) rest
  | [] => fault .endInValue
  | cs => wrongType "a sequence" cs

/-- Looks for the next member of an object: whether there is one, and the text behind its opening quote or at the
    closing brace. -/
def nextKey (first : Bool) (cs : List Char) : Reading (Parsed Bool) :=
  match skipBlanks cs with
  | [] => fault .endInObject
  | c :: rest =>
    if c = '\x7d' then .ok (false, c :: rest)
    else if first then if c = '"' then .ok (true, rest) else fault .keyNotString
    else if c = ',' then
      match skipBlanks rest with
      | [] => fault .endInValue
      | '"' :: more => .ok (true, more)
      | '\x7d' :: _ => fault .trailingComma
      | _ => fault .keyNotString
    else fault .expectedObjectCommaOrEnd

def endObject (cs : List Char) : Reading (List Char) :=
  match skipBlanks cs with
  | '\x7d' :: rest => .ok rest
  | ',' :: _ => fault .trailingComma
  | [] => fault .endInObject
  | _ => fault .trailingCharacters

/-- Reads members up to the closing brace, `member` taking the state so far and the name, and reading the colon and
    the value. Each member takes one unit of `fuel`. -/
def readMembers {σ : Type} (member : σ → String → List Char → Reading (Parsed σ)) :
    Nat → Bool → σ → List Char → Reading (Parsed σ)
  | 0, _, _, _ => fault .endInObject
  | fuel + 1, first, state, cs => do
    match ← nextKey first cs with
    | (false, rest) => .ok (state, rest)
    | (true, rest) => do
      let (key, rest) ← stringBody rest
      let (state, rest) ← member state key rest
      readMembers member fuel false state rest

def objectBody {σ : Type} (member : σ → String → List Char → Reading (Parsed σ)) (state : σ) (cs : List Char) :
    Reading (Parsed σ) := do
  let (state, rest) ← readMembers member (cs.length + 1) true state cs
  .ok (state, ← endObject rest)

def sortedMember {α : Type} (read : List Char → Reading (Parsed α)) (members : List (String × α)) (key : String)
    (cs : List Char) : Reading (Parsed (List (String × α))) := do
  let (a, rest) ← read (← expectColon cs)
  .ok (setMember key a members, rest)

/-- Reads an object whose members all have values of one type. -/
def readMap {α : Type} (value : Reader α) : Reader (List (String × α)) := fun depth cs =>
  match skipBlanks cs with
  | '\x7b' :: rest => openLevel depth fun d => objectBody (sortedMember (value d)) [] rest
  | [] => fault .endInValue
  | cs => wrongType "a map" cs

/-- Reads a whole text with nothing but blanks behind the value. -/
def readText {α : Type} (reader : Reader α) (depth : Nat) (text : String) : Reading α := do
  let (a, rest) ← reader depth text.toList
  if (skipBlanks rest).isEmpty then .ok a else fault .trailingCharacters

/-- The first key of an object that stands for another value: the one whose JSON text is the string behind the key. -/
def rawKey : String := "$serde_json::private::RawValue"

def rawText? (cs : List Char) : Option (List Char) :=
  match nextKey true cs with
  | .ok (true, rest) =>
    match stringBody rest with
    | .ok (key, rest) => if key = rawKey then some rest else none
    | .error _ => none
  | _ => none

/-- Reads the string behind `rawKey`, what `text` makes of it, and the end of the object. -/
def rawBody (text : String → Reading Json) (cs : List Char) : Reading (Parsed Json) := do
  let (s, rest) ← readStringAs "raw value" 0 (← expectColon cs)
  let j ← text s
  .ok (j, ← endObject rest)

/-- Reads any value; `fuel` bounds the nesting too, and `text` reads the texts behind `rawKey`. -/
def readAny (text : String → Reading Json) : Nat → Reader Json
  | 0 => fun _ _ => fault .nestedTooDeep
  | fuel + 1 => fun depth cs =>
    match skipBlanks cs with
    | [] => fault .endInValue
    | 'n' :: rest => do .ok (.null, ← expectWord ['u', 'l', 'l'] rest)
    | 't' :: rest => do .ok (.bool true, ← expectWord ['r', 'u', 'e'] rest)
    | 'f' :: rest => do .ok (.bool false, ← expectWord ['a', 'l', 's', 'e'] rest)
    | '-' :: rest => do let (n, rest) ← numberBody true rest; .ok (.number n, rest)
    | '"' :: rest => do let (s, rest) ← stringBody rest; .ok (.string s, rest)
    | '[' :: rest => do
      let (items, rest) ← openLevel depth fun d => listBody (readAny text fuel d) rest
      .ok (.array items, rest)
    | '\x7b' :: rest =>
      match rawText? rest with
      | some rest => openLevel depth fun _ => rawBody text rest
      | none => do
        let (members, rest) ← openLevel depth fun d => objectBody (sortedMember (readAny text fuel d)) [] rest
        .ok (.object members, rest)
    | c :: rest =>
      if c.isDigit then do let (n, rest) ← numberBody false (c :: rest); .ok (.number n, rest)
      else fault .expectedValue

/-- Reads a text behind `rawKey`. Texts in it that stand behind that key again take one unit of fuel less. -/
def readRaw : Nat → String → Reading Json
  | 0 => fun _ => fault .nestedTooDeep
  | fuel + 1 => readText (fun depth cs => readAny (readRaw fuel) (depth + 1) depth cs) nestingLimit

/-- Reads any value. A text behind `rawKey` is shorter than the one it stands in. -/
def read : Reader Json := fun depth cs => readAny (readRaw cs.length) (depth + 1) depth cs

end SchemaMutation.Json
