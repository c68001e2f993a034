import SchemaMutation.Decimal

/-!
# JSON values

A value with its objects as lists of members. The members of an object that was read stand in the order of their
keys, each key once (`Json.setMember`); an object that is built to be written keeps the order it was given.
-/

namespace SchemaMutation

/-- A JSON number: an integer in 64 bits, signed or unsigned, or a double. -/
inductive Json.Number where
  | int (value : Int)
  | double (value : Decimal.Binary64)
deriving DecidableEq, Repr, Inhabited

inductive Json where
  | null
  | bool (value : Bool)
  | number (value : Json.Number)
  | string (value : String)
  | array (items : List Json)
  | object (members : List (String × Json))
deriving Repr, Inhabited

namespace Json

/-- Doubles are positional from `0.00001` up to sixteen whole digits, and have an exponent outside that. -/
def doubleNotation : Decimal.Notation := ⟨some (-4), some 16⟩

def Number.text : Number → String
  | .int i => toString i
  | .double x => doubleNotation.write x

/-- Puts a member at its place in the order of the keys. A key that is there already takes the new value. -/
def setMember {α : Type} (key : String) (value : α) : List (String × α) → List (String × α)
  | [] => [(key, value)]
  | (k, v) :: rest =>
    if key = k then (key, value) :: rest
    else if key < k then (key, value) :: (k, v) :: rest
    else (k, v) :: setMember key value rest

/-- The members in the order of their keys; of several with one key the last. -/
def sortMembers {α : Type} (members : List (String × α)) : List (String × α) :=
  members.foldl (fun sorted m => setMember m.1 m.2 sorted) []

mutual
def sorted : Json → Json
  | .array items => .array (sortedItems items)
  | .object members => .object (sortMembers (sortedMembers members))
  | other => other

def sortedItems : List Json → List Json
  | [] => []
  | x :: xs => x.sorted :: sortedItems xs

def sortedMembers : List (String × Json) → List (String × Json)
  | [] => []
  | (k, v) :: rest => (k, v.sorted) :: sortedMembers rest
end

def ofStrings (ss : List String) : Json := .array (ss.map .string)

def ofInt (i : Int) : Json := .number (.int i)

def ofOption {α : Type} (f : α → Json) : Option α → Json
  | none => .null
  | some a => f a

end Json

end SchemaMutation
