import SchemaMutation.Proofs.Outcome
import SchemaMutation.Sql.Mutation

/-!
# The keys of a payload

A flattened payload has exactly the keys that occur in a row of it, in whatever order and however often the rows have
them.
-/

namespace SchemaMutation

def Json.keysOf {α : Type} (members : List (String × α)) : List String := members.map (·.1)

theorem Json.any_key {α : Type} {members : List (String × α)} {name : String} :
    members.any (·.1 == name) = true ↔ name ∈ Json.keysOf members := by
  simp [Json.keysOf]

theorem Json.mem_keysOf_setMember {α : Type} {key name : String} {value : α} {members : List (String × α)} :
    name ∈ Json.keysOf (Json.setMember key value members) ↔ name = key ∨ name ∈ Json.keysOf members := by
  induction members with
  | nil => simp [Json.setMember, Json.keysOf]
  | cons first rest ih =>
    obtain ⟨k, v⟩ := first
    simp only [Json.setMember]
    split
    · rename_i same
      simp [Json.keysOf, same]
    · split
      · simp [Json.keysOf]
      · simp only [Json.keysOf, List.map_cons, List.mem_cons] at ih ⊢
        rw [ih]
        exact or_left_comm

namespace Sql.Payload

/-- The keys that occur in a payload. -/
def keys : Json → List String
  | .object row => Json.keysOf row
  | .array rows => rows.flatMap keysOfRow
  | _ => []
where
  keysOfRow : Json → List String
    | .object row => Json.keysOf row
    | _ => []

theorem mem_keysOf_addRow {row columns : List (String × Json)} {name : String} :
    name ∈ Json.keysOf (addRow columns row) ↔ name ∈ Json.keysOf columns ∨ name ∈ Json.keysOf row := by
  induction row generalizing columns with
  | nil => simp [addRow, Json.keysOf]
  | cons first rest ih =>
    have step : addRow columns (first :: rest) =
        addRow (if columns.any (·.1 == first.1) then columns else Json.setMember first.1 first.2 columns) rest := rfl
    rw [step, ih]
    split
    · rename_i known
      have isKey := Json.any_key.mp known
      simp only [Json.keysOf, List.map_cons, List.mem_cons] at isKey ⊢
      grind
    · simp only [Json.mem_keysOf_setMember]
      simp only [Json.keysOf, List.map_cons, List.mem_cons]
      grind

theorem mem_keysOf_flattenRows {rows : List Json} {name : String} :
    ∀ {index columns flat}, flattenRows index columns rows = .ok flat →
      (name ∈ Json.keysOf flat ↔ name ∈ Json.keysOf columns ∨ name ∈ rows.flatMap keys.keysOfRow) := by
  induction rows with
  | nil =>
    intro index columns flat flattened
    cases flattened
    simp
  | cons row rest ih =>
    intro index columns flat flattened
    cases row with
    | object members =>
      rw [flattenRows] at flattened
      rw [ih flattened, mem_keysOf_addRow, List.flatMap_cons, List.mem_append, or_assoc]
      rfl
    | null => cases flattened
    | bool value => cases flattened
    | number value => cases flattened
    | string value => cases flattened
    | array items => cases flattened

theorem mem_keysOf_flatten {value : Json} {flat : Flattened} (flattened : flatten value = .ok flat) {name : String} :
    name ∈ Json.keysOf flat.columns ↔ name ∈ keys value := by
  cases value with
  | object row =>
    cases flattened
    rfl
  | array rows =>
    obtain ⟨columns, united, rfl⟩ := map_eq_ok.mp flattened
    rw [mem_keysOf_flattenRows united]
    simp [keys, Json.keysOf]
  | null => cases flattened
  | bool value => cases flattened
  | number value => cases flattened
  | string value => cases flattened

theorem exists_flattenRows (rows : List (List (String × Json))) :
    ∀ index columns, ∃ flat, flattenRows index columns (rows.map .object) = .ok flat := by
  induction rows with
  | nil => exact fun _ columns => ⟨columns, rfl⟩
  | cons row rest ih => exact fun index columns => ih (index + 1) (addRow columns row)

end Sql.Payload

end SchemaMutation
