import SchemaMutation.Proofs.Checks
import SchemaMutation.Proofs.Json.Extent

/-!
# Flattening

What a payload is flattened to, without the loop over its rows: a row to itself, rows to the map of all keys that occur
in them, each with its value in the first row that has it, and anything else to an error (`flatten_flattensTo`). So
earlier rows win over later ones, and which keys there are does not depend on the order of the rows or on how often one
of them comes (`flatten_unites`).
-/

namespace SchemaMutation

namespace Json
variable {α : Type} {members : List (String × α)}

theorem lookup_member (k name : String) (v : α) (rest : List (String × α)) :
    List.lookup name ((k, v) :: rest) = if name = k then some v else rest.lookup name := by
  by_cases same : name = k
  · simp [same]
  · simp [List.lookup_cons, beq_false_of_ne same, same]

theorem lookup_setMember (key name : String) (value : α) (members : List (String × α)) :
    (setMember key value members).lookup name = if name = key then some value else members.lookup name := by
  induction members with
  | nil => exact lookup_member key name value []
  | cons first rest ih =>
    obtain ⟨k, v⟩ := first
    rw [setMember]
    split
    · rename_i replaced
      subst replaced
      by_cases same : name = key <;> simp [lookup_member, same]
    · split
      · exact lookup_member key name value ((k, v) :: rest)
      · rename_i other _
        rw [lookup_member, ih, lookup_member]
        by_cases same : name = key
        · rw [if_neg (same ▸ other), if_pos same, if_pos same]
        · rw [if_neg same, if_neg same]

theorem lookup_isSome {name : String} : (members.lookup name).isSome = true ↔ name ∈ keysOf members := by
  rw [List.lookup_isSome_iff, ← any_key, List.any_eq_true]
  simp only [beq_iff_eq]
  simp only [eq_comm]

end Json

namespace Sql.Payload

open Json (Ascending keysOf)

variable {rows : List (List (String × Json))}

/-- The fields of a row stand back behind those that are there. -/
theorem lookup_addRow (row columns : List (String × Json)) (name : String) :
    (addRow columns row).lookup name = (columns.lookup name).or (row.lookup name) := by
  induction row generalizing columns with
  | nil => simp [addRow]
  | cons first rest ih =>
    obtain ⟨key, value⟩ := first
    have step : addRow columns ((key, value) :: rest) =
        addRow (if columns.any (·.1 == key) then columns else Json.setMember key value columns) rest := rfl
    rw [step, ih, Json.lookup_member]
    by_cases known : key ∈ keysOf columns
    · rw [if_pos (Json.any_key.mpr known)]
      by_cases same : name = key
      · obtain ⟨found, at_⟩ := Option.isSome_iff_exists.mp (Json.lookup_isSome.mpr known)
        simp [same, at_]
      · rw [if_neg same]
    · rw [if_neg (mt Json.any_key.mp known), Json.lookup_setMember]
      by_cases same : name = key
      · have missing : columns.lookup key = none := by
          rw [← Option.not_isSome_iff_eq_none, Json.lookup_isSome]
          exact known
        simp [same, missing]
      · rw [if_neg same, if_neg same]

theorem addRow_ascending (row : List (String × Json)) {columns : List (String × Json)} (ascending : Ascending columns) :
    Ascending (addRow columns row) := by
  induction row generalizing columns with
  | nil => exact ascending
  | cons first rest ih =>
    have step : addRow columns (first :: rest) =
        addRow (if columns.any (·.1 == first.1) then columns else Json.setMember first.1 first.2 columns) rest := rfl
    rw [step]
    refine ih ?_
    split
    · exact ascending
    · exact Json.setMember_ascending _ _ ascending

/-- The fields of rows: each key that occurs in a row once, with its value in the first row that has it. -/
structure United (rows : List (List (String × Json))) (columns : List (String × Json)) : Prop where
  ascending : Ascending columns
  keys : ∀ name, name ∈ keysOf columns ↔ ∃ row ∈ rows, name ∈ keysOf row
  first : ∀ name, columns.lookup name = rows.findSome? (·.lookup name)

theorem united_foldl (rows : List (List (String × Json))) : United rows (rows.foldl addRow []) := by
  -- The rows come behind columns that are there already, and these keep their values.
  have added (columns : List (String × Json)) (ascending : Ascending columns) :
      Ascending (rows.foldl addRow columns) ∧
        ∀ name,
          (rows.foldl addRow columns).lookup name = (columns.lookup name).or (rows.findSome? (·.lookup name)) := by
    induction rows generalizing columns with
    | nil => exact ⟨ascending, fun name => (Option.or_none).symm⟩
    | cons row rest ih =>
      obtain ⟨ascending', first⟩ := ih (addRow columns row) (addRow_ascending row ascending)
      refine ⟨ascending', fun name => ?_⟩
      rw [List.foldl_cons, first, lookup_addRow, Option.or_assoc, List.findSome?_cons]
      cases row.lookup name <;> rfl
  obtain ⟨ascending, first⟩ := added [] .nil
  refine ⟨ascending, fun name => ?_, first⟩
  rw [← Json.lookup_isSome, first, List.lookup_nil, Option.none_or, List.findSome?_isSome_iff]
  simp only [Json.lookup_isSome]

theorem flattenRows_objects (rows : List (List (String × Json))) (later : List Json) (index : Nat)
    (columns : List (String × Json)) :
    flattenRows index columns (rows.map .object ++ later) =
      flattenRows (index + rows.length) (rows.foldl addRow columns) later := by
  induction rows generalizing index columns with
  | nil => rfl
  | cons row rest ih =>
    rw [List.map_cons, List.cons_append, flattenRows, ih, List.length_cons, List.foldl_cons, Nat.add_right_comm,
      Nat.add_assoc]

theorem rows_cases (items : List Json) :
    (∃ rows : List (List (String × Json)), items = rows.map .object) ∨
      ∃ (rows : List (List (String × Json))) (bad : Json) (later : List Json),
        items = rows.map .object ++ bad :: later ∧ ∀ row, bad ≠ .object row := by
  induction items with
  | nil => exact .inl ⟨[], rfl⟩
  | cons item rest ih =>
    cases item with
    | object row =>
      rcases ih with ⟨rows, rfl⟩ | ⟨rows, bad, later, rfl, other⟩
      · exact .inl ⟨row :: rows, rfl⟩
      · exact .inr ⟨row :: rows, bad, later, rfl, other⟩
    | _ => exact .inr ⟨[], _, rest, rfl, nofun⟩

/-- What a payload is flattened to. A message tells the kind of what is no row, and of the first of several values the
    place. -/
inductive FlattensTo : Json → Except Error Flattened → Prop
  | row (row : List (String × Json)) : FlattensTo (.object row) (.ok ⟨row, false⟩)
  | rows {rows : List (List (String × Json))} {columns : List (String × Json)} (united : United rows columns) :
      FlattensTo (.array (rows.map .object)) (.ok ⟨columns, true⟩)
  | badRow {rows : List (List (String × Json))} {bad : Json} {later : List Json} {fault : PayloadFault}
      (other : ∀ row, bad ≠ .object row)
      (told : fault.message = "row " ++ toString rows.length ++ " is " ++ kind bad ++ ", expected an object") :
      FlattensTo (.array (rows.map .object ++ bad :: later)) (.error (.payload fault))
  | notRows {value : Json} {fault : PayloadFault} (noRow : ∀ row, value ≠ .object row)
      (noRows : ∀ items, value ≠ .array items)
      (told : fault.message = "expected an object or an array of objects, got " ++ kind value) :
      FlattensTo value (.error (.payload fault))

theorem flatten_rows (rows : List (List (String × Json))) :
    flatten (.array (rows.map .object)) = .ok ⟨rows.foldl addRow [], true⟩ := by
  have united := flattenRows_objects rows [] 0 []
  rw [List.append_nil] at united
  rw [flatten, united]
  rfl

theorem flatten_badRow {rows : List (List (String × Json))} {bad : Json} (other : ∀ row, bad ≠ .object row)
    (later : List Json) :
    flatten (.array (rows.map .object ++ bad :: later)) = .error (.payload (.badRow rows.length (kind bad))) := by
  rw [flatten, flattenRows_objects, Nat.zero_add]
  cases bad with
  | object row => exact absurd rfl (other row)
  | _ => rfl

theorem flatten_flattensTo (value : Json) : FlattensTo value (flatten value) := by
  cases value with
  | object row => exact .row row
  | array items =>
    rcases rows_cases items with ⟨rows, rfl⟩ | ⟨rows, bad, later, rfl, other⟩
    · rw [flatten_rows]
      exact .rows (united_foldl rows)
    · rw [flatten_badRow other]
      exact .badRow other rfl
  | _ => exact .notRows nofun nofun rfl

theorem flatten_ok_iff (value : Json) : (∃ flat, flatten value = .ok flat) ↔ IsRows value := by
  rcases flatten_cases value with ⟨rows, flattened⟩ | ⟨other, fault, refused⟩
  · exact iff_of_true flattened rows
  · exact iff_of_false (by simp [refused]) other

theorem isRows_array {items : List Json} : IsRows (.array items) ↔ ∀ item ∈ items, ∃ row, item = .object row :=
  ⟨fun | .rows each => each, .rows⟩

theorem flatten_array_ok {items : List Json} {flat : Flattened} (flattened : flatten (.array items) = .ok flat) :
    ∃ rows, items = rows.map .object ∧ United rows flat.columns := by
  generalize listed : Json.array items = value at flattened
  have outcome := flatten_flattensTo value
  rw [flattened] at outcome
  cases outcome with
  | row row => cases listed
  | rows united => exact ⟨_, Json.array.inj listed, united⟩

/-- Lists that can be flattened can be flattened together, with all keys, and the values of the first come first. -/
theorem flatten_append {items items' : List Json} {flat flat' : Flattened}
    (flattened : flatten (.array items) = .ok flat) (flattened' : flatten (.array items') = .ok flat') :
    ∃ both, flatten (.array (items ++ items')) = .ok ⟨both, true⟩ ∧
      (∀ name, name ∈ keysOf both ↔ name ∈ keysOf flat.columns ∨ name ∈ keysOf flat'.columns) ∧
      ∀ name, both.lookup name = (flat.columns.lookup name).or (flat'.columns.lookup name) := by
  obtain ⟨rows, rfl, united⟩ := flatten_array_ok flattened
  obtain ⟨rows', rfl, united'⟩ := flatten_array_ok flattened'
  have both := united_foldl (rows ++ rows')
  refine ⟨(rows ++ rows').foldl addRow [], ?_, fun name => ?_, fun name => ?_⟩
  · rw [← List.map_append, flatten_rows]
  · simp only [both.keys, united.keys, united'.keys, List.mem_append, or_and_right, exists_or]
  · rw [both.first, united.first, united'.first, List.findSome?_append]

/-- Whether a list is flattened, and to which keys, depends on which values are in it, and neither on their order nor
    on how often they come. -/
theorem flatten_sameItems {items items' : List Json} (same : ∀ item, item ∈ items ↔ item ∈ items') :
    ((∃ flat, flatten (.array items) = .ok flat) ↔ ∃ flat, flatten (.array items') = .ok flat) ∧
      ∀ flat flat', flatten (.array items) = .ok flat → flatten (.array items') = .ok flat' →
        ∀ name, name ∈ keysOf flat.columns ↔ name ∈ keysOf flat'.columns := by
  constructor
  · simp only [flatten_ok_iff, isRows_array, same]
  · intro flat flat' flattened flattened' name
    simp only [mem_keysOf_flatten flattened, mem_keysOf_flatten flattened', keys, List.mem_flatMap, same]

/-- A row and a list of rows can be flattened and nothing else: a row to itself, rows to their keys with the values of
    the first row that has them, and anything else to an error that tells the first value that is no row. So the
    values of earlier rows come before those of later ones, and the keys are the same in every order of the rows. -/
theorem flatten_unites :
    (∀ value, FlattensTo value (flatten value)) ∧
    (∀ value, (∃ flat, flatten value = .ok flat) ↔ IsRows value) ∧
    (∀ items items' flat flat', flatten (.array items) = .ok flat → flatten (.array items') = .ok flat' →
      ∃ both, flatten (.array (items ++ items')) = .ok ⟨both, true⟩ ∧
        (∀ name, name ∈ keysOf both ↔ name ∈ keysOf flat.columns ∨ name ∈ keysOf flat'.columns) ∧
        ∀ name, both.lookup name = (flat.columns.lookup name).or (flat'.columns.lookup name)) ∧
    ∀ items items' : List Json, (∀ item, item ∈ items ↔ item ∈ items') →
      ((∃ flat, flatten (.array items) = .ok flat) ↔ ∃ flat, flatten (.array items') = .ok flat) ∧
        ∀ flat flat', flatten (.array items) = .ok flat → flatten (.array items') = .ok flat' →
          ∀ name, name ∈ keysOf flat.columns ↔ name ∈ keysOf flat'.columns :=
  ⟨flatten_flattensTo, flatten_ok_iff, fun _ _ _ _ => flatten_append, fun _ _ => flatten_sameItems⟩

def overlapping : List Json :=
  [.object [("a", .ofInt 1)], .object [("b", .ofInt 2)], .object [("a", .ofInt 3)]]

def reordered : List Json :=
  [.object [("a", .ofInt 3)], .object [("b", .ofInt 2)], .object [("a", .ofInt 1)], .object [("b", .ofInt 2)]]

theorem flatten_unites_overlapping :
    flatten (.array overlapping) = .ok ⟨[("a", .ofInt 1), ("b", .ofInt 2)], true⟩ ∧
    flatten (.array reordered) = .ok ⟨[("a", .ofInt 3), ("b", .ofInt 2)], true⟩ ∧
    (∃ both, flatten (.array (overlapping ++ reordered)) = .ok ⟨both, true⟩ ∧ both.lookup "a" = some (.ofInt 1)) ∧
    (∀ name, name ∈ keysOf [("a", Json.ofInt 1), ("b", .ofInt 2)] ↔
      name ∈ keysOf [("a", Json.ofInt 3), ("b", .ofInt 2)]) := by
  obtain ⟨-, -, appended, sameItems⟩ := flatten_unites
  have first : flatten (.array overlapping) = .ok ⟨[("a", .ofInt 1), ("b", .ofInt 2)], true⟩ := rfl
  have second : flatten (.array reordered) = .ok ⟨[("a", .ofInt 3), ("b", .ofInt 2)], true⟩ := rfl
  obtain ⟨both, flattened, -, values⟩ := appended _ _ _ _ first second
  refine ⟨first, second, ⟨both, flattened, values "a"⟩, (sameItems overlapping reordered ?_).2 _ _ first second⟩
  simp only [overlapping, reordered, List.mem_cons, List.not_mem_nil, or_false]
  grind

end Sql.Payload

end SchemaMutation
