import SchemaMutation.Json.Reader

/-!
# Records and alternatives

A record is written as an object of its fields, in any order, or as an array of them in the order of their
declaration. A choice between alternatives is written as the name of one, or as an object whose only member has that
name. `Record` and `Variant` describe such a type, and one reader serves all of them.
-/

namespace SchemaMutation.Json

open Text (Parsed)

structure Field (α : Type) where
  name : String
  read : Reader α
  /-- The value in an object without the field. -/
  absent : Option α
  /-- The value in an array that ends before the field. -/
  beyond : Option α

def Field.required {α : Type} (name : String) (read : Reader α) : Field α := ⟨name, read, none, none⟩

def Field.defaulting {α : Type} (name : String) (read : Reader α) (value : α) : Field α :=
  ⟨name, read, some value, some value⟩

/-- A field that may be missing or null in an object, but must stand in an array. -/
def Field.optional {α : Type} (name : String) (read : Reader α) : Field (Option α) :=
  ⟨name, readOption read, some none, none⟩

/-- The fields of a record in the order of their declaration. -/
inductive Fields : List Type → Type 1 where
  | nil : Fields []
  | cons {α : Type} {ts : List Type} (field : Field α) (rest : Fields ts) : Fields (α :: ts)

@[reducible] def Values : List Type → Type
  | [] => Unit
  | α :: ts => α × Values ts

/-- The values of the fields that have been read. -/
@[reducible] def Draft : List Type → Type
  | [] => Unit
  | α :: ts => Option α × Draft ts

namespace Fields

def blank : {ts : List Type} → Fields ts → Draft ts
  | _, .nil => ()
  | _, .cons _ rest => (none, rest.blank)

def size : {ts : List Type} → Fields ts → Nat
  | _, .nil => 0
  | _, .cons _ rest => rest.size + 1

/-- Reads the colon and the value of the field of this name into the draft, or gives `none` if there is no such
    field. A field that has a value already is an error. -/
def readField? (key : String) (depth : Nat) (cs : List Char) :
    {ts : List Type} → Fields ts → Draft ts → Option (Reading (Parsed (Draft ts)))
  | _, .nil, _ => none
  | _, .cons field rest, (value, draft) =>
    if field.name = key then
      some (match value with
        | some _ => .error (.duplicateField key)
        | none => do
          let (a, more) ← field.read depth (← expectColon cs)
          .ok ((some a, draft), more))
    else (rest.readField? key depth cs draft).map fun step => do
      let (draft, more) ← step
      .ok ((value, draft), more)

/-- Reads a member of the object; the value of a member that is no field is passed over. -/
def readMember {ts : List Type} (fields : Fields ts) (depth : Nat) (draft : Draft ts) (key : String)
    (cs : List Char) : Reading (Parsed (Draft ts)) :=
  match fields.readField? key depth cs draft with
  | some step => step
  | none => do .ok (draft, ← skipValue (← expectColon cs))

/-- The values of a draft, with the defaults of the fields that have none. -/
def complete : {ts : List Type} → Fields ts → Draft ts → Reading (Values ts)
  | _, .nil, _ => .ok ()
  | _, .cons field rest, (value, draft) =>
    match value.or field.absent with
    | none => .error (.missingField field.name)
    | some a => do .ok (a, ← rest.complete draft)

/-- Reads the fields as items of an array, the first of them being item `index`. -/
def readItems (wanted : String) (depth : Nat) :
    {ts : List Type} → Fields ts → Nat → Bool → List Char → Reading (Parsed (Values ts))
  | _, .nil, _, _, cs => .ok ((), cs)
  | _, .cons field rest, index, first, cs => do
    match ← nextItem first cs with
    | (true, more) => do
      let (a, more) ← field.read depth more
      let (values, more) ← rest.readItems wanted depth (index + 1) false more
      .ok ((a, values), more)
    | (false, more) =>
      match field.beyond with
      | none => .error (.invalidLength index wanted)
      | some a => do
        let (values, more) ← rest.readItems wanted depth (index + 1) first more
        .ok ((a, values), more)

end Fields

structure Record (α : Type) where
  /-- What the type is called in errors. -/
  wanted : String
  types : List Type
  fields : Fields types
  make : Values types → α

def Record.wantedLength {α : Type} (r : Record α) : String :=
  r.wanted ++ " with " ++ toString r.fields.size ++ (if r.fields.size = 1 then " element" else " elements")

/-- Reads a record as an object or an array. -/
def Record.read {α : Type} (r : Record α) : Reader α := fun depth cs =>
  match skipBlanks cs with
  | '\x7b' :: rest => openLevel depth fun d => do
    let (draft, rest) ← readMembers (r.fields.readMember d) (rest.length + 1) true r.fields.blank rest
    let values ← r.fields.complete draft
    .ok (r.make values, ← endObject rest)
  | '[' :: rest => openLevel depth fun d => do
    let (values, rest) ← r.fields.readItems r.wantedLength d 0 true rest
    .ok (r.make values, ← endList rest)
  | [] => fault .endInValue
  | cs => wrongType r.wanted cs

/-- One of the alternatives of a type. -/
inductive Variant (α : Type) : Type 1 where
  | unit (name : String) (value : α)
  | value (name : String) (read : Reader α)
  | record (name : String) (fields : Record α)

namespace Variant
variable {α : Type}

def name : Variant α → String
  | .unit n _ => n
  | .value n _ => n
  | .record n _ => n

def ofName : Variant α → Reading α
  | .unit _ a => .ok a
  | .value _ _ => .error (.invalidType .unitVariant "newtype variant")
  | .record _ _ => .error (.invalidType .unitVariant "struct variant")

def readContent : Variant α → Reader α
  | .unit _ a => readNull.map fun _ => a
  | .value _ r => r
  | .record _ r => r.read

end Variant

def withVariant {α β : Type} (variants : List (Variant α)) (name : String) (next : Variant α → Reading β) :
    Reading β :=
  match variants.find? (·.name == name) with
  | some v => next v
  | none => .error (.unknownVariant name (variants.map Variant.name))

def readVariant {α : Type} (variants : List (Variant α)) : Reader α := fun depth cs =>
  match skipBlanks cs with
  | '\x7b' :: rest => openLevel depth fun d => do
    let (name, rest) ← readStringAs "variant identifier" d rest
    let (a, rest) ← withVariant variants name fun v => do v.readContent d (← expectColon rest)
    match skipBlanks rest with
    | '\x7d' :: rest => .ok (a, rest)
    | [] => fault .endInObject
    | _ => fault .expectedValue
  | '"' :: rest => do
    let (name, rest) ← stringBody rest
    .ok (← withVariant variants name Variant.ofName, rest)
  | [] => fault .endInValue
  | _ => fault .expectedValue

end SchemaMutation.Json
