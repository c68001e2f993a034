import SchemaMutation.Json.Reader

/-!
# The extent of a value

What reading and writing a value depends on: how deep it is nested, which numbers are in it, which keys its objects
begin with, and whether their members stand in the order of their keys. What is read is `Bounded`, and what is
`Readable` and `Unreserved` is read back. To set a member keeps the order of the keys (`setMember_ascending`), and to
sort members that have it changes nothing (`sortMembers_eq_self`).
-/

namespace SchemaMutation.Json

/-- To prove a fact of every value, prove it of a list and of an object from their parts. -/
@[elab_as_elim]
theorem induct {P : Json → Prop} (null : P .null) (bool : ∀ b, P (.bool b)) (number : ∀ n, P (.number n))
    (string : ∀ s, P (.string s)) (array : ∀ items, (∀ x ∈ items, P x) → P (.array items))
    (object : ∀ members, (∀ m ∈ members, P m.2) → P (.object members)) : ∀ j, P j
  | .null => null
  | .bool b => bool b
  | .number n => number n
  | .string s => string s
  | .array items => array items fun x _member => induct null bool number string array object x
  | .object members => object members fun m _member => induct null bool number string array object m.2
decreasing_by
  · have smaller := List.sizeOf_lt_of_mem _member
    simp only [Json.array.sizeOf_spec]
    omega
  · have smaller := List.sizeOf_lt_of_mem _member
    have part : sizeOf m = 1 + sizeOf m.1 + sizeOf m.2 := rfl
    simp only [Json.object.sizeOf_spec]
    omega

mutual
def nesting : Json → Nat
  | .array items => nestingOfItems items + 1
  | .object members => nestingOfMembers members + 1
  | _ => 0

def nestingOfItems : List Json → Nat
  | [] => 0
  | x :: xs => max x.nesting (nestingOfItems xs)

def nestingOfMembers : List (String × Json) → Nat
  | [] => 0
  | (_, v) :: rest => max v.nesting (nestingOfMembers rest)
end

theorem nestingOfItems_le {items : List Json} {n : Nat} : nestingOfItems items ≤ n ↔ ∀ x ∈ items, x.nesting ≤ n := by
  induction items with
  | nil => simp [nestingOfItems]
  | cons x xs ih => rw [nestingOfItems, Nat.max_le, ih, List.forall_mem_cons]

theorem nestingOfMembers_le {members : List (String × Json)} {n : Nat} :
    nestingOfMembers members ≤ n ↔ ∀ m ∈ members, m.2.nesting ≤ n := by
  induction members with
  | nil => simp [nestingOfMembers]
  | cons m ms ih => rw [nestingOfMembers, Nat.max_le, ih, List.forall_mem_cons]

theorem nesting_array_le {items : List Json} {n : Nat} :
    (Json.array items).nesting ≤ n ↔ ∃ m, n = m + 1 ∧ ∀ x ∈ items, x.nesting ≤ m := by
  rw [nesting]
  constructor
  · intro le
    exact ⟨n - 1, by omega, nestingOfItems_le.mp (by omega)⟩
  · rintro ⟨m, rfl, each⟩
    exact Nat.succ_le_succ (nestingOfItems_le.mpr each)

theorem nesting_object_le {members : List (String × Json)} {n : Nat} :
    (Json.object members).nesting ≤ n ↔ ∃ m, n = m + 1 ∧ ∀ p ∈ members, p.2.nesting ≤ m := by
  rw [nesting]
  constructor
  · intro le
    exact ⟨n - 1, by omega, nestingOfMembers_le.mp (by omega)⟩
  · rintro ⟨m, rfl, each⟩
    exact Nat.succ_le_succ (nestingOfMembers_le.mpr each)

mutual
def numbers : Json → List Number
  | .number n => [n]
  | .array items => numbersOfItems items
  | .object members => numbersOfMembers members
  | _ => []

def numbersOfItems : List Json → List Number
  | [] => []
  | x :: xs => x.numbers ++ numbersOfItems xs

def numbersOfMembers : List (String × Json) → List Number
  | [] => []
  | (_, v) :: rest => v.numbers ++ numbersOfMembers rest
end

theorem numbers_array (items : List Json) : (Json.array items).numbers = items.flatMap numbers := by
  rw [numbers]
  induction items with
  | nil => rfl
  | cons x xs ih => rw [numbersOfItems, ih, List.flatMap_cons]

theorem numbers_object (members : List (String × Json)) :
    (Json.object members).numbers = members.flatMap (·.2.numbers) := by
  rw [numbers]
  induction members with
  | nil => rfl
  | cons m ms ih => rw [numbersOfMembers, ih, List.flatMap_cons]

namespace Number

def IsInteger : Number → Prop
  | .int _ => True
  | .double _ => False

def Fits : Number → Prop
  | .int i => -0x8000000000000000 ≤ i ∧ i ≤ greatestUnsigned
  | .double _ => True

instance : DecidablePred IsInteger
  | .int _ => inferInstanceAs (Decidable True)
  | .double _ => inferInstanceAs (Decidable False)

instance : DecidablePred Fits
  | .int _ => inferInstanceAs (Decidable (_ ∧ _))
  | .double _ => inferInstanceAs (Decidable True)

end Number

/-- No integer has more than 64 bits, and at most `n` levels are open anywhere if the value was read `plain`ly, without
    texts behind `rawKey`: each of those may open all the levels anew. -/
structure Bounded (plain : Prop) (n : Nat) (j : Json) : Prop where
  shallow : plain → j.nesting ≤ n
  fits : ∀ k ∈ j.numbers, k.Fits

section
variable {plain : Prop} {n : Nat} {items : List Json} {members : List (String × Json)}

theorem bounded_null : Bounded plain n .null := ⟨fun _ => Nat.zero_le n, nofun⟩

theorem bounded_bool (b : Bool) : Bounded plain n (.bool b) := ⟨fun _ => Nat.zero_le n, nofun⟩

theorem bounded_string (s : String) : Bounded plain n (.string s) := ⟨fun _ => Nat.zero_le n, nofun⟩

theorem bounded_number {k : Number} (fits : k.Fits) : Bounded plain n (.number k) :=
  ⟨fun _ => Nat.zero_le n, fun other member => by rwa [List.mem_singleton.mp member]⟩

theorem bounded_array (each : ∀ x ∈ items, Bounded plain n x) : Bounded plain (n + 1) (.array items) where
  shallow plainly := nesting_array_le.mpr ⟨n, rfl, fun x member => (each x member).shallow plainly⟩
  fits := by
    rw [numbers_array]
    intro k member
    obtain ⟨x, inItems, inside⟩ := List.mem_flatMap.mp member
    exact (each x inItems).fits k inside

theorem bounded_object (each : ∀ p ∈ members, Bounded plain n p.2) : Bounded plain (n + 1) (.object members) where
  shallow plainly := nesting_object_le.mpr ⟨n, rfl, fun p member => (each p member).shallow plainly⟩
  fits := by
    rw [numbers_object]
    intro k member
    obtain ⟨p, inMembers, inside⟩ := List.mem_flatMap.mp member
    exact (each p inMembers).fits k inside

theorem bounded_tagged {tag : String} {content : Json} (bounded : Bounded plain n content) :
    Bounded plain (n + 1) (.object [(tag, content)]) :=
  bounded_object (List.forall_mem_singleton.mpr bounded)

theorem bounded_option {α : Type} {f : α → Json} {o : Option α} (each : ∀ a ∈ o, Bounded plain n (f a)) :
    Bounded plain n (.ofOption f o) := by
  cases o with
  | none => exact bounded_null
  | some a => exact each a rfl

theorem Bounded.weaken {j : Json} {m : Nat} (bounded : Bounded plain n j) (more : n ≤ m) : Bounded plain m j :=
  ⟨fun plainly => Nat.le_trans (bounded.shallow plainly) more, bounded.fits⟩

end

/-- A value whose numbers are integers of 64 bits, nested no deeper than `n` levels. -/
structure Readable (n : Nat) (j : Json) : Prop where
  shallow : j.nesting ≤ n
  fits : ∀ k ∈ j.numbers, k.Fits
  integers : ∀ k ∈ j.numbers, k.IsInteger

theorem Readable.items {n : Nat} {items : List Json} (readable : Readable n (.array items)) :
    ∃ m, n = m + 1 ∧ ∀ x ∈ items, Readable m x := by
  obtain ⟨m, rfl, shallow⟩ := nesting_array_le.mp readable.shallow
  have inside {x : Json} (member : x ∈ items) {k : Number} (own : k ∈ x.numbers) : k ∈ (array items).numbers := by
    rw [numbers_array]
    exact List.mem_flatMap_of_mem member own
  exact ⟨m, rfl, fun x member => ⟨shallow x member, fun k own => readable.fits k (inside member own),
    fun k own => readable.integers k (inside member own)⟩⟩

theorem Readable.members {n : Nat} {members : List (String × Json)} (readable : Readable n (.object members)) :
    ∃ m, n = m + 1 ∧ ∀ p ∈ members, Readable m p.2 := by
  obtain ⟨m, rfl, shallow⟩ := nesting_object_le.mp readable.shallow
  have inside {p : String × Json} (member : p ∈ members) {k : Number} (own : k ∈ p.2.numbers) :
      k ∈ (object members).numbers := by
    rw [numbers_object]
    exact List.mem_flatMap_of_mem member own
  exact ⟨m, rfl, fun p member => ⟨shallow p member, fun k own => readable.fits k (inside member own),
    fun k own => readable.integers k (inside member own)⟩⟩

theorem Readable.content {n : Nat} {tag : String} {content : Json} (readable : Readable n (.object [(tag, content)])) :
    ∃ m, n = m + 1 ∧ Readable m content := by
  obtain ⟨m, rfl, parts⟩ := readable.members
  exact ⟨m, rfl, parts (tag, content) (List.mem_singleton_self _)⟩

mutual
def firstKeys : Json → List String
  | .array items => firstKeysOfItems items
  | .object members => firstKeysOfMembers members ++ (members.head?.map Prod.fst).toList
  | _ => []

def firstKeysOfItems : List Json → List String
  | [] => []
  | x :: xs => x.firstKeys ++ firstKeysOfItems xs

def firstKeysOfMembers : List (String × Json) → List String
  | [] => []
  | (_, v) :: rest => v.firstKeys ++ firstKeysOfMembers rest
end

/-- No object in the value begins with `rawKey`, so that each is read as an object. -/
def Unreserved (j : Json) : Prop := rawKey ∉ j.firstKeys

instance (j : Json) : Decidable j.Unreserved := inferInstanceAs (Decidable (_ ∉ _))

theorem Unreserved.items {items : List Json} (unreserved : (array items).Unreserved) : ∀ x ∈ items, x.Unreserved := by
  have same (xs : List Json) : firstKeysOfItems xs = xs.flatMap firstKeys := by
    induction xs with
    | nil => rfl
    | cons x xs ih => rw [firstKeysOfItems, ih, List.flatMap_cons]
  rw [Unreserved, firstKeys, same] at unreserved
  exact fun x member inside => unreserved (List.mem_flatMap_of_mem member inside)

theorem Unreserved.members {members : List (String × Json)} (unreserved : (object members).Unreserved) :
    (∀ m ∈ members, m.2.Unreserved) ∧ ∀ m ∈ members.head?, m.1 ≠ rawKey := by
  have same (ms : List (String × Json)) : firstKeysOfMembers ms = ms.flatMap (·.2.firstKeys) := by
    induction ms with
    | nil => rfl
    | cons m ms ih => rw [firstKeysOfMembers, ih, List.flatMap_cons]
  rw [Unreserved, firstKeys, same, List.mem_append, not_or] at unreserved
  refine ⟨fun m member inside => unreserved.1 (List.mem_flatMap_of_mem member inside), fun m first reserved => ?_⟩
  exact unreserved.2 (by simp [Option.mem_def.mp first, reserved])

theorem sorted_array (items : List Json) : (Json.array items).sorted = .array (items.map sorted) := by
  rw [sorted]
  congr 1
  induction items with
  | nil => rfl
  | cons x xs ih => rw [sortedItems, ih, List.map_cons]

theorem sorted_object (members : List (String × Json)) :
    (Json.object members).sorted = .object (sortMembers (members.map fun m => (m.1, m.2.sorted))) := by
  rw [sorted]
  congr 2
  induction members with
  | nil => rfl
  | cons m ms ih => rw [sortedMembers, ih, List.map_cons]

section
variable {α : Type}

def Ascending (members : List (String × α)) : Prop := members.Pairwise fun m n => m.1 < n.1

theorem mem_setMember {key : String} {value : α} {members : List (String × α)} {m : String × α}
    (member : m ∈ setMember key value members) : m = (key, value) ∨ m ∈ members := by
  induction members with
  | nil => exact .inl (List.mem_singleton.mp member)
  | cons first rest ih =>
    obtain ⟨k, v⟩ := first
    rw [setMember] at member
    split at member
    · rcases List.mem_cons.mp member with new | known
      · exact .inl new
      · exact .inr (List.mem_cons_of_mem _ known)
    · split at member
      · exact List.mem_cons.mp member
      · rcases List.mem_cons.mp member with rfl | later
        · exact .inr List.mem_cons_self
        · exact (ih later).imp_right (List.mem_cons_of_mem _)

theorem setMember_ascending (key : String) (value : α) {members : List (String × α)} (ascending : Ascending members) :
    Ascending (setMember key value members) := by
  induction members with
  | nil => exact List.pairwise_singleton _ _
  | cons first rest ih =>
    obtain ⟨k, v⟩ := first
    obtain ⟨least, others⟩ := List.pairwise_cons.mp ascending
    rw [setMember]
    split
    · rename_i same
      exact List.pairwise_cons.mpr ⟨fun m later => same ▸ least m later, others⟩
    · split
      · rename_i before
        refine List.pairwise_cons.mpr ⟨fun m later => ?_, ascending⟩
        rcases List.mem_cons.mp later with rfl | later
        · exact before
        · exact String.lt_trans before (least m later)
      · rename_i other notBefore
        refine List.pairwise_cons.mpr ⟨fun m later => ?_, ih others⟩
        rcases mem_setMember later with rfl | later
        · refine Decidable.byContradiction fun notBehind => other ?_
          exact String.le_antisymm (String.not_lt.mp notBehind) (String.not_lt.mp notBefore)
        · exact least m later

theorem setMember_last {key : String} (value : α) {members : List (String × α)} (last : ∀ m ∈ members, m.1 < key) :
    setMember key value members = members ++ [(key, value)] := by
  induction members with
  | nil => rfl
  | cons first rest ih =>
    obtain ⟨k, v⟩ := first
    obtain ⟨behind, others⟩ := List.forall_mem_cons.mp last
    have other : key ≠ k := fun same => String.lt_irrefl k (same ▸ behind)
    rw [setMember, if_neg other, if_neg (String.lt_asymm behind), ih others, List.cons_append]

theorem sortMembers_eq_self {members : List (String × α)} (ascending : Ascending members) :
    sortMembers members = members := by
  have from_front (done : List (String × α)) : ∀ rest, Ascending (done ++ rest) →
      rest.foldl (fun sorted m => setMember m.1 m.2 sorted) done = done ++ rest := by
    intro rest
    induction rest generalizing done with
    | nil => intro _; exact (List.append_nil done).symm
    | cons m rest ih =>
      intro ascending
      obtain ⟨-, -, before⟩ := List.pairwise_append.mp ascending
      rw [List.foldl_cons, setMember_last m.2 fun d member => before d member m List.mem_cons_self,
        ih (done ++ [m]) (by simpa using ascending)]
      simp
  exact from_front [] members ascending

end

end SchemaMutation.Json
