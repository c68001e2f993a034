import Mathlib.Data.List.Forall2
import SchemaMutation.Proofs.Lists
import SchemaMutation.Registry

/-!
# Function rows

How the rows of function parameters are grouped into functions, whatever their order. A function stands for a key, not
for a name, so that overloads are kept apart; its first row names it and decides whether it is hidden. No row that is
kept is lost, and a parameter without a name is named after the place of its row among those that are kept, so that no
two parameters get the same name this way (`Discovery.functions_grouped`). The scan is followed row by row: what it
holds after some rows is known from these rows alone (`Discovery.Scanned`).
-/

namespace SchemaMutation.Schema.Discovery

open Catalog (FunctionRow)

def functionIds (rows : List FunctionRow) : List String := (rows.map (·.functionId)).eraseDups

def firstRow? (rows : List FunctionRow) (id : String) : Option FunctionRow := rows.find? (·.functionId = id)

def nameOf (rows : List FunctionRow) (id : String) : String := (firstRow? rows id).elim "" (·.functionName)

/-- The rows of functions that are not hidden. -/
def keptRows (blockList : BlockList) (rows : List FunctionRow) : List FunctionRow :=
  rows.filter fun row => !blockList.blocks (nameOf rows row.functionId)

def keptIds (blockList : BlockList) (rows : List FunctionRow) : List String :=
  (functionIds rows).filter fun id => !blockList.blocks (nameOf rows id)

/-- The rows of a function with their places among all rows that are kept. -/
def placedRows (kept : List FunctionRow) (id : String) : List (FunctionRow × Nat) :=
  kept.zipIdx.filter (·.1.functionId = id)

/-- A parameter of a row at a place. If the row does not name it, the place does, counted from one. -/
structure ParameterOf (placed : FunctionRow × Nat) (p : Parameter) : Prop where
  id : p.id = placed.1.ordinal
  type : p.type = placed.1.paramType
  name : p.name = placed.1.paramName.getD (toString (placed.2 + 1))

/-- A function with the name that its first row tells, and a parameter for each of its rows in their order. -/
structure FunctionOf (rows kept : List FunctionRow) (id : String) (f : Function) : Prop where
  named : ∃ first, firstRow? rows id = some first ∧ f.name = first.functionName
  all : (placedRows kept id).map (·.1) = rows.filter (·.functionId = id)
  params : List.Forall₂ ParameterOf (placedRows kept id) f.params

def syntheticNames (placed : List (FunctionRow × Nat)) (params : List Parameter) : List String :=
  ((placed.zip params).filter fun e => e.1.1.paramName.isNone).map (·.2.name)

/-- The functions that rows tell of and a block list does not hide, without loss. -/
structure Grouped (blockList : BlockList) (rows : List FunctionRow) (fs : List Function) : Prop where
  functions : List.Forall₂ (FunctionOf rows (keptRows blockList rows)) (keptIds blockList rows) fs
  total : (fs.flatMap (·.params)).length = (keptRows blockList rows).length
  /-- Over all functions, no two parameters are named after the same place. -/
  synthetic : (((keptIds blockList rows).zip fs).flatMap fun (id, f) =>
    syntheticNames (placedRows (keptRows blockList rows) id) f.params).Nodup

variable {blockList : BlockList} {rows : List FunctionRow} {row : FunctionRow} {id : String}

theorem mem_functionIds : id ∈ functionIds rows ↔ ∃ row ∈ rows, row.functionId = id := by
  rw [functionIds, List.mem_eraseDups, List.mem_map]

theorem mem_keptIds : id ∈ keptIds blockList rows ↔
    id ∈ functionIds rows ∧ blockList.blocks (nameOf rows id) = false := by
  rw [keptIds, List.mem_filter, Bool.not_eq_true']

theorem nodup_keptIds (blockList : BlockList) (rows : List FunctionRow) : (keptIds blockList rows).Nodup :=
  (nodup_eraseDups _).filter _

theorem functionIds_concat (rows : List FunctionRow) (row : FunctionRow) :
    functionIds (rows ++ [row]) =
      if row.functionId ∈ functionIds rows then functionIds rows else functionIds rows ++ [row.functionId] :=
  eraseDups_map_concat FunctionRow.functionId rows row

theorem firstRow?_concat_known (known : id ∈ functionIds rows) :
    firstRow? (rows ++ [row]) id = firstRow? rows id := by
  obtain ⟨other, member, own⟩ := mem_functionIds.mp known
  have found : (rows.find? (·.functionId = id)).isSome :=
    List.find?_isSome.mpr ⟨other, member, decide_eq_true own⟩
  rw [firstRow?, List.find?_append, Option.or_of_isSome found]
  rfl

theorem firstRow?_concat_new (new : row.functionId ∉ functionIds rows) :
    firstRow? (rows ++ [row]) row.functionId = some row := by
  have missing : rows.find? (·.functionId = row.functionId) = none :=
    List.find?_eq_none.mpr fun other member own => new (mem_functionIds.mpr ⟨other, member, of_decide_eq_true own⟩)
  rw [firstRow?, List.find?_append, missing, Option.none_or]
  simp

theorem nameOf_concat_known (known : id ∈ functionIds rows) : nameOf (rows ++ [row]) id = nameOf rows id := by
  rw [nameOf, firstRow?_concat_known known, nameOf]

theorem nameOf_concat_new (new : row.functionId ∉ functionIds rows) :
    nameOf (rows ++ [row]) row.functionId = row.functionName := by
  rw [nameOf, firstRow?_concat_new new]
  rfl

theorem keptRows_concat (blockList : BlockList) (rows : List FunctionRow) (row : FunctionRow) :
    keptRows blockList (rows ++ [row]) =
      if blockList.blocks (nameOf (rows ++ [row]) row.functionId) = true then keptRows blockList rows
      else keptRows blockList rows ++ [row] := by
  have before : (rows.filter fun r => !blockList.blocks (nameOf (rows ++ [row]) r.functionId)) =
      keptRows blockList rows := by
    refine List.filter_congr fun r member => ?_
    rw [nameOf_concat_known (mem_functionIds.mpr ⟨r, member, rfl⟩)]
  rw [keptRows, List.filter_append, before]
  by_cases hidden : blockList.blocks (nameOf (rows ++ [row]) row.functionId) = true <;> simp [hidden]

theorem filter_functionIds_concat (blockList : BlockList) (rows : List FunctionRow) (row : FunctionRow) :
    ((functionIds rows).filter fun id => !blockList.blocks (nameOf (rows ++ [row]) id)) = keptIds blockList rows :=
  List.filter_congr fun _ known => by rw [nameOf_concat_known known]

theorem keptIds_concat_known (known : row.functionId ∈ functionIds rows) :
    keptIds blockList (rows ++ [row]) = keptIds blockList rows := by
  rw [keptIds, functionIds_concat, if_pos known, filter_functionIds_concat]

theorem keptIds_concat_new (new : row.functionId ∉ functionIds rows) :
    keptIds blockList (rows ++ [row]) =
      if blockList.blocks row.functionName = true then keptIds blockList rows
      else keptIds blockList rows ++ [row.functionId] := by
  rw [keptIds, functionIds_concat, if_neg new, List.filter_append, filter_functionIds_concat]
  by_cases hidden : blockList.blocks row.functionName = true <;> simp [nameOf_concat_new new, hidden]

theorem placedRows_concat (kept : List FunctionRow) (row : FunctionRow) (id : String) :
    placedRows (kept ++ [row]) id =
      if row.functionId = id then placedRows kept id ++ [(row, kept.length)] else placedRows kept id := by
  rw [placedRows, List.zipIdx_append, List.filter_append]
  by_cases own : row.functionId = id <;> simp [placedRows, own]

theorem placedRows_new (new : id ∉ functionIds rows) : placedRows (keptRows blockList rows) id = [] := by
  refine List.filter_eq_nil_iff.mpr fun placed member own => new (mem_functionIds.mpr ⟨placed.1, ?_, ?_⟩)
  · exact List.mem_of_mem_filter (List.fst_mem_of_mem_zipIdx member)
  · exact of_decide_eq_true own

def Hidden (blockList : BlockList) (rows : List FunctionRow) (id : String) : Prop :=
  id ∈ functionIds rows ∧ blockList.blocks (nameOf rows id) = true

def functionOf (rows kept : List FunctionRow) (id : String) : Function :=
  ⟨nameOf rows id, (placedRows kept id).map fun placed => parameter placed.2 placed.1⟩

/-- Where the scan stands after some rows. -/
structure Scanned (blockList : BlockList) (rows : List FunctionRow) (s : FunctionScan) : Prop where
  functions : s.functions = (keptIds blockList rows).map fun id => (id, functionOf rows (keptRows blockList rows) id)
  blocked : ∀ id, id ∈ s.blocked ↔ Hidden blockList rows id
  kept : s.kept = (keptRows blockList rows).length

/-- Only the first row of a function can hide it. -/
theorem hidden_concat (blockList : BlockList) (rows : List FunctionRow) (row : FunctionRow) (id : String) :
    Hidden blockList (rows ++ [row]) id ↔
      Hidden blockList rows id ∨
        row.functionId ∉ functionIds rows ∧ row.functionId = id ∧ blockList.blocks row.functionName = true := by
  have unchanged (known : id ∈ functionIds rows) :
      Hidden blockList (rows ++ [row]) id ↔ Hidden blockList rows id := by
    have given : id ∈ functionIds (rows ++ [row]) := by
      obtain ⟨other, member, own⟩ := mem_functionIds.mp known
      exact mem_functionIds.mpr ⟨other, List.mem_append_left _ member, own⟩
    rw [Hidden, Hidden, nameOf_concat_known known]
    exact and_congr_left' (iff_of_true given known)
  -- a function that earlier rows tell of has its name from them
  by_cases known : id ∈ functionIds rows
  · rw [unchanged known]
    refine ⟨.inl, fun either => either.resolve_right fun ⟨new, opens, _⟩ => new (opens ▸ known)⟩
  · have unhidden : ¬ Hidden blockList rows id := fun hidden => known hidden.1
    rw [or_iff_right unhidden, Hidden, functionIds_concat]
    by_cases opens : row.functionId = id
    · subst opens
      rw [if_neg known, nameOf_concat_new known]
      simp [known]
    · have absent : id ∉ functionIds (rows ++ [row]) := by
        rw [functionIds_concat]
        split
        · exact known
        · simp [known, Ne.symm opens]
      rw [functionIds_concat] at absent
      exact iff_of_false (fun hidden => absent hidden.1) fun ⟨_, same, _⟩ => opens same

theorem functionOf_concat_known (known : id ∈ functionIds rows) (kept : List FunctionRow) :
    functionOf (rows ++ [row]) kept id = functionOf rows kept id := by
  rw [functionOf, functionOf, nameOf_concat_known known]

theorem functionOf_concat_hidden (blockList : BlockList) (rows : List FunctionRow) (row : FunctionRow) :
    ((keptIds blockList rows).map fun id => (id, functionOf (rows ++ [row]) (keptRows blockList rows) id)) =
      (keptIds blockList rows).map fun id => (id, functionOf rows (keptRows blockList rows) id) :=
  List.map_congr_left fun _ member => by rw [functionOf_concat_known (mem_keptIds.mp member).1]

theorem addParameter_eq (key : String) (p : Parameter) (f : String → Function) {ids : List String}
    (distinct : ids.Nodup) :
    addParameter key p (ids.map fun id => (id, f id)) =
      ids.map fun id => (id, if key = id then { f id with params := (f id).params ++ [p] } else f id) := by
  induction ids with
  | nil => rfl
  | cons id ids ih =>
    obtain ⟨new, others⟩ := List.nodup_cons.mp distinct
    rw [List.map_cons, addParameter, ih others, List.map_cons]
    by_cases same : id = key
    · subst same
      rw [if_pos rfl, if_pos rfl, map_change_of_notMem new]
    · rw [if_neg same, if_neg (Ne.symm same)]

namespace Scanned
variable {s : FunctionScan}

theorem lookup_isSome (scanned : Scanned blockList rows s) (id : String) :
    (s.functions.lookup id).isSome = true ↔ id ∈ keptIds blockList rows := by
  rw [scanned.functions, List.lookup_isSome_iff]
  simp

theorem skip (scanned : Scanned blockList rows s) (known : row.functionId ∈ functionIds rows)
    (hidden : blockList.blocks (nameOf rows row.functionId) = true) : Scanned blockList (rows ++ [row]) s := by
  have kept : keptRows blockList (rows ++ [row]) = keptRows blockList rows := by
    rw [keptRows_concat, nameOf_concat_known known, if_pos hidden]
  refine ⟨?_, fun id => ?_, ?_⟩
  · rw [scanned.functions, keptIds_concat_known known, kept, functionOf_concat_hidden]
  · rw [scanned.blocked, hidden_concat]
    simp [known]
  · rw [scanned.kept, kept]

theorem extend (scanned : Scanned blockList rows s) (shown : row.functionId ∈ keptIds blockList rows) :
    Scanned blockList (rows ++ [row])
      { s with
        functions := addParameter row.functionId (parameter s.kept row) s.functions
        kept := s.kept + 1 } := by
  obtain ⟨known, visible⟩ := mem_keptIds.mp shown
  have kept : keptRows blockList (rows ++ [row]) = keptRows blockList rows ++ [row] := by
    rw [keptRows_concat, nameOf_concat_known known, if_neg (Bool.eq_false_iff.mp visible)]
  refine ⟨?_, fun id => ?_, ?_⟩
  · rw [scanned.functions, addParameter_eq _ _ _ (nodup_keptIds blockList rows), keptIds_concat_known known, kept,
      scanned.kept]
    refine List.map_congr_left fun id member => ?_
    rw [functionOf_concat_known (mem_keptIds.mp member).1, functionOf, functionOf, placedRows_concat]
    by_cases own : row.functionId = id <;> simp [own]
  · rw [scanned.blocked, hidden_concat]
    simp [known]
  · rw [kept, List.length_append, List.length_singleton, scanned.kept]

theorem hide (scanned : Scanned blockList rows s) (new : row.functionId ∉ functionIds rows)
    (hidden : blockList.blocks row.functionName = true) :
    Scanned blockList (rows ++ [row]) { s with blocked := row.functionId :: s.blocked } := by
  have kept : keptRows blockList (rows ++ [row]) = keptRows blockList rows := by
    rw [keptRows_concat, nameOf_concat_new new, if_pos hidden]
  refine ⟨?_, fun id => ?_, ?_⟩
  · rw [scanned.functions, keptIds_concat_new new, if_pos hidden, kept, functionOf_concat_hidden]
  · rw [List.mem_cons, scanned.blocked, hidden_concat, or_comm]
    simp [new, hidden, eq_comm]
  · rw [scanned.kept, kept]

theorem openFunction (scanned : Scanned blockList rows s) (new : row.functionId ∉ functionIds rows)
    (visible : ¬ blockList.blocks row.functionName = true) :
    Scanned blockList (rows ++ [row])
      { s with
        functions := s.functions ++ [(row.functionId, ⟨row.functionName, [parameter s.kept row]⟩)]
        kept := s.kept + 1 } := by
  have kept : keptRows blockList (rows ++ [row]) = keptRows blockList rows ++ [row] := by
    rw [keptRows_concat, nameOf_concat_new new, if_neg visible]
  refine ⟨?_, fun id => ?_, ?_⟩
  · dsimp only
    rw [scanned.functions, keptIds_concat_new new, if_neg visible, kept, List.map_append, List.map_singleton]
    congr 1
    · refine List.map_congr_left fun id member => ?_
      have known := (mem_keptIds.mp member).1
      have other : row.functionId ≠ id := fun same => new (same ▸ known)
      rw [functionOf_concat_known known, functionOf, functionOf, placedRows_concat, if_neg other]
    · rw [functionOf, nameOf_concat_new new, placedRows_concat, if_pos rfl, placedRows_new new, scanned.kept]
      rfl
  · rw [scanned.blocked, hidden_concat]
    simp [visible]
  · rw [kept, List.length_append, List.length_singleton, scanned.kept]

theorem step (scanned : Scanned blockList rows s) (row : FunctionRow) :
    Scanned blockList (rows ++ [row]) (s.step blockList row) := by
  have marked := scanned.blocked row.functionId
  have opened := scanned.lookup_isSome row.functionId
  unfold FunctionScan.step
  split
  · rename_i found
    obtain ⟨known, hidden⟩ := marked.mp (List.contains_iff_mem.mp found)
    exact scanned.skip known hidden
  · rename_i unmarked
    rw [List.contains_iff_mem, marked] at unmarked
    split
    · rename_i found
      exact scanned.extend (opened.mp found)
    · rename_i unopened
      rw [opened, mem_keptIds] at unopened
      have new : row.functionId ∉ functionIds rows := fun known => by
        cases hidden : blockList.blocks (nameOf rows row.functionId) with
        | true => exact unmarked ⟨known, hidden⟩
        | false => exact unopened ⟨known, hidden⟩
      split
      · rename_i hidden
        exact scanned.hide new hidden
      · rename_i visible
        exact scanned.openFunction new visible

end Scanned

theorem scan_scanned (blockList : BlockList) (rows : List FunctionRow) :
    Scanned blockList rows (rows.foldl (FunctionScan.step blockList) ⟨[], [], 0⟩) := by
  induction rows using List.reverseRecOn with
  | nil => exact ⟨rfl, by simp [Hidden, functionIds], rfl⟩
  | append_singleton rows row ih =>
    rw [List.foldl_append, List.foldl_cons, List.foldl_nil]
    exact ih.step row

theorem functions_eq (rows : List FunctionRow) (blockList : BlockList) :
    functions rows blockList = (keptIds blockList rows).map (functionOf rows (keptRows blockList rows)) := by
  rw [functions, (scan_scanned blockList rows).functions, List.map_map]
  rfl

theorem placedRows_fst (shown : id ∈ keptIds blockList rows) :
    (placedRows (keptRows blockList rows) id).map (·.1) = rows.filter (·.functionId = id) := by
  have visible := (mem_keptIds.mp shown).2
  have unplaced : (placedRows (keptRows blockList rows) id).map (·.1) =
      ((keptRows blockList rows).zipIdx.map (·.1)).filter (·.functionId = id) := by
    rw [List.filter_map]
    rfl
  rw [unplaced, List.zipIdx_map_fst, keptRows, List.filter_filter]
  refine List.filter_congr fun row _ => ?_
  by_cases own : row.functionId = id <;> simp [own, visible]

theorem functionOf_spec (shown : id ∈ keptIds blockList rows) :
    FunctionOf rows (keptRows blockList rows) id (functionOf rows (keptRows blockList rows) id) := by
  refine ⟨?_, placedRows_fst shown, ?_⟩
  · obtain ⟨row, member, own⟩ := mem_functionIds.mp (mem_keptIds.mp shown).1
    have some : (firstRow? rows id).isSome := List.find?_isSome.mpr ⟨row, member, decide_eq_true own⟩
    obtain ⟨first, found⟩ := Option.isSome_iff_exists.mp some
    refine ⟨first, found, ?_⟩
    rw [functionOf, nameOf, found]
    rfl
  · rw [functionOf, List.forall₂_map_right_iff, List.forall₂_same]
    exact fun placed _ => ⟨rfl, rfl, rfl⟩

theorem placedRows_perm (blockList : BlockList) (rows : List FunctionRow) :
    ((keptIds blockList rows).flatMap (placedRows (keptRows blockList rows))).Perm
      (keptRows blockList rows).zipIdx := by
  refine fibers_perm (fun placed : FunctionRow × Nat => placed.1.functionId) (nodup_keptIds blockList rows)
    fun placed member => ?_
  obtain ⟨given, visible⟩ := List.mem_filter.mp (List.fst_mem_of_mem_zipIdx member)
  exact mem_keptIds.mpr ⟨mem_functionIds.mpr ⟨placed.1, given, rfl⟩, Bool.not_eq_true' _ |>.mp visible⟩

theorem functions_total (rows : List FunctionRow) (blockList : BlockList) :
    ((functions rows blockList).flatMap (·.params)).length = (keptRows blockList rows).length := by
  have params : (functions rows blockList).flatMap (·.params) =
      ((keptIds blockList rows).flatMap (placedRows (keptRows blockList rows))).map fun placed =>
        parameter placed.2 placed.1 := by
    rw [functions_eq, List.flatMap_map, List.map_flatMap]
    rfl
  rw [params, List.length_map, (placedRows_perm blockList rows).length_eq, List.length_zipIdx]

theorem placeName_inj {place place' : Nat} (same : toString (place + 1) = toString (place' + 1)) : place = place' := by
  have digits : Nat.toDigits 10 (place + 1) = Nat.toDigits 10 (place' + 1) := by
    rw [Nat.toString_eq_repr, Nat.toString_eq_repr, Nat.repr_eq_ofList_toDigits, Nat.repr_eq_ofList_toDigits] at same
    exact String.ofList_inj.mp same
  have values := congrArg (Nat.ofDigitChars 10 · 0) digits
  simp only [Nat.ofDigitChars_toDigits (b := 10) (by omega) (by omega)] at values
  exact Nat.add_right_cancel values

theorem syntheticNames_functionOf (rows kept : List FunctionRow) (id : String) :
    syntheticNames (placedRows kept id) (functionOf rows kept id).params =
      ((placedRows kept id).filter (·.1.paramName.isNone)).map fun placed => toString (placed.2 + 1) := by
  rw [syntheticNames, functionOf, ← List.map_prod_left_eq_zip, List.filter_map, List.map_map]
  refine List.map_congr_left fun placed member => ?_
  have unnamed : placed.1.paramName = none := Option.isNone_iff_eq_none.mp (List.mem_filter.mp member).2
  simp [parameter, unnamed]

/-- The rows of all functions have different places, and the names of places are different. -/
theorem functions_synthetic (rows : List FunctionRow) (blockList : BlockList) :
    (((keptIds blockList rows).zip (functions rows blockList)).flatMap fun (id, f) =>
      syntheticNames (placedRows (keptRows blockList rows) id) f.params).Nodup := by
  have names : (((keptIds blockList rows).zip (functions rows blockList)).flatMap fun (id, f) =>
      syntheticNames (placedRows (keptRows blockList rows) id) f.params) =
        ((((keptIds blockList rows).flatMap (placedRows (keptRows blockList rows))).filter
          (·.1.paramName.isNone)).map (·.2)).map fun place => toString (place + 1) := by
    simp only [functions_eq, ← List.map_prod_left_eq_zip, List.flatMap_map, syntheticNames_functionOf,
      List.filter_flatMap, List.map_flatMap, List.map_map, Function.comp_def]
  have places : ((((keptIds blockList rows).flatMap (placedRows (keptRows blockList rows))).filter
      (·.1.paramName.isNone)).map (·.2)).Nodup := by
    rw [(((placedRows_perm blockList rows).filter _).map _).nodup_iff]
    refine List.Nodup.sublist (List.filter_sublist.map _) ?_
    rw [List.zipIdx_map_snd]
    exact List.nodup_range'
  rw [names]
  exact places.map fun _ _ => placeName_inj

theorem keptRows_nothing (rows : List FunctionRow) : keptRows [] rows = rows :=
  List.filter_eq_self.mpr fun _ _ => rfl

theorem keptIds_nothing (rows : List FunctionRow) : keptIds [] rows = functionIds rows :=
  List.filter_eq_self.mpr fun _ _ => rfl

theorem functionIds_keptRows (blockList : BlockList) (rows : List FunctionRow) :
    functionIds (keptRows blockList rows) = keptIds blockList rows := by
  rw [keptIds, functionIds, functionIds, ← eraseDups_filter, List.filter_map]
  rfl

theorem nameOf_keptRows (shown : id ∈ keptIds blockList rows) :
    nameOf (keptRows blockList rows) id = nameOf rows id := by
  have visible := (mem_keptIds.mp shown).2
  have first : firstRow? (keptRows blockList rows) id = firstRow? rows id := by
    rw [firstRow?, keptRows, List.find?_filter, firstRow?]
    congr 1
    funext row
    by_cases own : row.functionId = id <;> simp [own, visible]
  rw [nameOf, first, nameOf]

theorem functions_keptRows (rows : List FunctionRow) (blockList : BlockList) :
    functions (keptRows blockList rows) [] = functions rows blockList := by
  rw [functions_eq, functions_eq, keptIds_nothing, functionIds_keptRows, keptRows_nothing]
  refine List.map_congr_left fun id shown => ?_
  rw [functionOf, functionOf, nameOf_keptRows shown]

/-- Discovery groups the rows of functions that are not hidden without loss, and as if there were no others. -/
theorem functions_grouped (rows : List FunctionRow) (blockList : BlockList) :
    Grouped blockList rows (functions rows blockList) ∧
      functions (keptRows blockList rows) [] = functions rows blockList := by
  refine ⟨⟨?_, functions_total rows blockList, functions_synthetic rows blockList⟩,
    functions_keptRows rows blockList⟩
  rw [functions_eq, List.forall₂_map_right_iff, List.forall₂_same]
  exact fun id shown => functionOf_spec shown

/-- Two functions of one name with their rows mixed, and a hidden one whose row takes no place. -/
example : functions [⟨"area", "area_1", "int", some "r", 1⟩, ⟨"pin", "pin_1", "text", none, 1⟩,
    ⟨"area", "area_2", "int", none, 1⟩, ⟨"area", "area_1", "text", none, 2⟩] ["pin"] =
    [⟨"area", [⟨1, "r", "int"⟩, ⟨2, "3", "text"⟩]⟩, ⟨"area", [⟨1, "2", "int"⟩]⟩] := by
  decide +kernel

end SchemaMutation.Schema.Discovery
