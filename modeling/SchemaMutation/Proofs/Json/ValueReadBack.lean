import SchemaMutation.Proofs.Json.RecordReadBack
import SchemaMutation.Proofs.Json.ValueYields

/-!
# Reading alternatives and any values that were written

An alternative is read back from its name, or from an object with its content under that name. Any value is read back
with its members in order if its numbers are integers of 64 bits, no deeper levels are opened than may be, and none of
its objects begins with the key that stands for another value (`ReadsBack.value`).
-/

namespace SchemaMutation.Json

section
variable {α β : Type} {n : Nat} {read : Reader α} {a : α} {j : Json}

theorem ReadsBack.map (f : α → β) (back : ReadsBack n read a j) : ReadsBack n (read.map f) (f a) j where
  starts := back.starts
  reads L level depth cs rest enough ends front := by
    simp only [Reader.map, back.reads L level depth cs rest enough ends front, ok_bind]

theorem ReadsBack.fueled {nested : Nat → Reader α} (back : ∀ fuel, n ≤ fuel → ReadsBack n (nested (fuel + 1)) a j) :
    ReadsBack n (fun depth cs => nested (depth + 1) depth cs) a j where
  starts := (back n (Nat.le_refl n)).starts
  reads L level depth cs rest enough := (back depth enough).reads L level depth cs rest enough

theorem ReadsBack.unsigned64 {k : Nat} (fits : k ≤ greatestUnsigned) : ReadsBack n readUnsigned64 k (.ofInt k) := by
  have integer : ReadsBack n (readInteger 0 0xFFFFFFFFFFFFFFFF "u64") k (.ofInt k) :=
    .integer "u64" (Int.natCast_nonneg k) (by simp only [greatestUnsigned] at fits; omega) (by decide) (by decide)
  exact integer.map Int.toNat

theorem ReadsBack.congr {other : Reader α} (back : ReadsBack n read a j)
    (same : ∀ (L : Layout) (level depth : Nat) (cs rest : List Char), skipBlanks cs = L.chars level j ++ rest →
      other depth cs = read depth cs) : ReadsBack n other a j where
  starts := back.starts
  reads L level depth cs rest enough ends front := by
    rw [same L level depth cs rest front]
    exact back.reads L level depth cs rest enough ends front

theorem object_chars (L : Layout) (level : Nat) (key : String) (j : Json) (more : List (String × Json))
    (rest : List Char) : L.chars level (.object ((key, j) :: more)) ++ rest =
      '\x7b' :: (L.newline (level + 1) ++ '"' :: (key.toList.flatMap escape ++
        '"' :: ':' :: (L.gap ++ (L.chars (level + 1) j ++ (L.members level more ++ rest))))) := by
  simp [Layout.chars, quoted]

theorem object_starts (L : Layout) (level : Nat) (members : List (String × Json)) :
    ∃ c cs, L.chars level (.object members) = c :: cs ∧ isBlank c = false ∧ c ≠ ']' ∧
      (c = 'n' → Json.object members = .null) := by
  cases members with
  | nil => exact ⟨'\x7b', _, rfl, rfl, by decide, fun same => nomatch same⟩
  | cons m ms => exact ⟨'\x7b', _, rfl, rfl, by decide, fun same => nomatch same⟩

theorem ReadsBack.unit {variants : List (Variant α)} {name : String}
    (found : variants.find? (·.name == name) = .some (.unit name a)) :
    ReadsBack n (readVariant variants) a (.string name) where
  starts := (ReadsBack.string (n := n) name).starts
  reads L level depth cs rest _ _ front := by
    rw [string_chars] at front
    simp only [readVariant, front, stringBody_written, ok_bind, withVariant, found, Variant.ofName]

/-- An alternative with content is read back from an object whose only member has its name. -/
theorem ReadsBack.variant {variants : List (Variant α)} (v : Variant α)
    (found : variants.find? (·.name == v.name) = .some v) (back : ReadsBack n v.readContent a j) :
    ReadsBack (n + 1) (readVariant variants) a (.object [(v.name, j)]) where
  starts L level := object_starts L level _
  reads L level depth cs rest enough _ front := by
    obtain ⟨d, rfl⟩ : ∃ d, depth = d + 1 := ⟨depth - 1, by omega⟩
    have closing := ends_members L level [] rest
    have content := back.reads L (level + 1) d _ _ (Nat.le_of_succ_le_succ enough) closing
      (back.skipBlanks_chars L (level + 1) L.gap_blanks _)
    have named : readStringAs "variant identifier" d (L.newline (level + 1) ++ '"' :: (v.name.toList.flatMap escape ++
        '"' :: ':' :: (L.gap ++ (L.chars (level + 1) j ++ (L.members level [] ++ rest))))) =
        .ok (v.name, ':' :: (L.gap ++ (L.chars (level + 1) j ++ (L.members level [] ++ rest)))) := by
      simp only [readStringAs, skipBlanks_append (L.newline_blanks _), skipBlanks_cons (c := '"') rfl,
        stringBody_written]
    have colon : ∀ cs, expectColon (':' :: cs) = .ok cs := fun _ => rfl
    have brace : skipBlanks (L.members level [] ++ rest) = '\x7d' :: rest := by
      rw [Layout.members, List.append_assoc, skipBlanks_append (L.newline_blanks level)]
      rfl
    rw [object_chars] at front
    simp only [readVariant, front, openLevel, named, ok_bind, withVariant, found, colon, content, brace]

theorem ReadsBack.content {variants : List (Variant α)} {name : String} {inner : Reader β} {b : β} (f : β → α)
    (found : variants.find? (·.name == name) = .some (.value name (inner.map f))) (back : ReadsBack n inner b j) :
    ReadsBack (n + 1) (readVariant variants) (f b) (.object [(name, j)]) :=
  .variant (.value name (inner.map f)) found (back.map f)

theorem ReadsBack.fields {variants : List (Variant α)} {name : String} (r : Record α) {values : Values r.types}
    {members : List (String × Json)} (found : variants.find? (·.name == name) = .some (.record name r))
    (written : r.fields.Written n values members) (distinct : r.fields.names.Nodup) :
    ReadsBack (n + 2) (readVariant variants) (r.make values) (.object [(name, .object members)]) :=
  .variant (.record name r) found (.record r written distinct)

end

section
variable {α : Type} {n : Nat} {value : Reader α}

def MemberReadsBack (n : Nat) (value : Reader α) (m : String × α) (p : String × Json) : Prop :=
  m.1 = p.1 ∧ ReadsBack n value m.2 p.2

theorem MemberReadsBack.sortedMember {m : String × α} {p : String × Json} (back : MemberReadsBack n value m p)
    (L : Layout) (level : Nat) {depth : Nat} (enough : n ≤ depth) (done : List (String × α)) {rest : List Char}
    (ends : Ends rest) :
    sortedMember (value depth) done p.1 (':' :: (L.gap ++ (L.chars level p.2 ++ rest))) =
      .ok (setMember m.1 m.2 done, rest) := by
  have read := back.2.reads L level depth _ rest enough ends (back.2.skipBlanks_chars L level L.gap_blanks rest)
  have colon : ∀ cs, expectColon (':' :: cs) = .ok cs := fun _ => rfl
  simp only [Json.sortedMember, colon, ok_bind, read, back.1]

theorem readMembers_members {ms : List (String × α)} {ps : List (String × Json)}
    (each : List.Forall₂ (MemberReadsBack n value) ms ps) (L : Layout) (level : Nat) {depth fuel : Nat}
    (enough : n ≤ depth) (room : ps.length < fuel) (done : List (String × α)) (rest : List Char) :
    readMembers (sortedMember (value depth)) fuel false done (L.members level ps ++ rest) =
      .ok (ms.foldl (fun sorted m => setMember m.1 m.2 sorted) done, '\x7d' :: rest) := by
  induction each generalizing fuel done with
  | nil =>
    obtain ⟨fuel, rfl⟩ := Nat.exists_eq_add_of_lt room
    rw [Layout.members, List.append_assoc]
    exact readMembers_end (skipBlanks_append (L.newline_blanks level) _)
  | @cons m p ms ps back _ ih =>
    cases fuel with
    | zero => cases room
    | succ fuel =>
      have text : L.members level (p :: ps) ++ rest =
          ',' :: (L.newline (level + 1) ++ '"' :: (p.1.toList.flatMap escape ++
            '"' :: ':' :: (L.gap ++ (L.chars (level + 1) p.2 ++ (L.members level ps ++ rest))))) := by
        obtain ⟨key, j⟩ := p
        simp [Layout.members, quoted]
      have taken := back.sortedMember L (level + 1) enough done (ends_members L level ps rest)
      rw [text, readMembers_cons (nextKey_further (L.newline_blanks _) _) taken, ih (Nat.lt_of_succ_lt_succ room),
        List.foldl_cons]

/-- An object is read back with its members in the order of their keys. -/
theorem ReadsBack.members {ms : List (String × α)} {ps : List (String × Json)}
    (each : List.Forall₂ (MemberReadsBack n value) ms ps) :
    ReadsBack (n + 1) (readMap value) (sortMembers ms) (.object ps) where
  starts L level := object_starts L level ps
  reads L level depth cs rest enough _ front := by
    obtain ⟨d, rfl⟩ : ∃ d, depth = d + 1 := ⟨depth - 1, by omega⟩
    have closing : endObject ('\x7d' :: rest) = .ok rest := rfl
    cases each with
    | nil =>
      have text : L.chars level (.object []) ++ rest = '\x7b' :: '\x7d' :: rest := rfl
      rw [text] at front
      simp only [readMap, front, openLevel, objectBody, readMembers_end (skipBlanks_cons (c := '\x7d') rfl rest),
        ok_bind, closing]
      rfl
    | @cons m p ms ps back more =>
      have taken := back.sortedMember L (level + 1) (Nat.le_of_succ_le_succ enough) [] (ends_members L level ps rest)
      have short := length_lt_members L level ps
      rw [object_chars] at front
      simp only [readMap, front, openLevel, objectBody, readMembers_cons (nextKey_first (L.newline_blanks _) _) taken]
      rw [readMembers_members more L level (Nat.le_of_succ_le_succ enough)]
      · simp only [ok_bind, closing]
        rfl
      · simp only [List.length_append, List.length_cons]
        omega

end

section
variable (text : String → Reading Json)

theorem readAny_digit (fuel depth : Nat) {c : Char} {cs ds : List Char} (digit : c.isDigit = true)
    (front : skipBlanks cs = c :: ds) : readAny text (fuel + 1) depth cs =
      (numberBody false (c :: ds) >>= fun read => .ok (.number read.1, read.2)) := by
  simp only [readAny, front]
  split
  case h_9 first =>
    cases first
    rw [if_pos digit]
  all_goals
    rename_i first
    cases first
    try cases digit

theorem ReadsBack.anyInteger {n fuel : Nat} {i : Int} (signed : -0x8000000000000000 ≤ i)
    (unsigned : i ≤ greatestUnsigned) : ReadsBack n (readAny text (fuel + 1)) (.ofInt i) (.ofInt i) where
  starts L level := ofInt_starts L level i
  reads L level depth cs rest _ ends front := by
    rcases ofInt_front signed unsigned L level ends with ⟨ds, text, body⟩ | ⟨c, ds, text, isDigit, body⟩
    · rw [text] at front
      simp only [readAny, front, body, ok_bind]
      rfl
    · rw [text] at front
      rw [readAny_digit _ fuel depth isDigit front, body]
      rfl

/-- The text of an object goes on with its members, if the first is not `rawKey`. -/
theorem object_front {members : List (String × Json)} (first : ∀ m ∈ members.head?, m.1 ≠ rawKey) (L : Layout)
    (level : Nat) (rest : List Char) :
    ∃ inner, L.chars level (.object members) ++ rest = '\x7b' :: inner ∧ rawText? inner = none := by
  cases members with
  | nil => exact ⟨'\x7d' :: rest, rfl, rfl⟩
  | cons m more =>
    obtain ⟨key, j⟩ := m
    refine ⟨_, object_chars L level key j more rest, ?_⟩
    rw [rawText?, nextKey_first (L.newline_blanks _)]
    simp only [stringBody_written]
    exact if_neg (first (key, j) rfl)

/-- As much fuel as there are levels, and one unit more, is enough. -/
theorem ReadsBack.any (j : Json) : ∀ {n fuel : Nat}, Readable n j → j.Unreserved → n ≤ fuel →
    ReadsBack n (readAny text (fuel + 1)) j.sorted j := by
  induction j using induct with
  | null =>
    intro n fuel _ _ _
    refine ((ReadsBack.none readNull).map fun _ => Json.null).congr fun L level depth cs rest front => ?_
    have text : L.chars level .null ++ rest = 'n' :: (['u', 'l', 'l'] ++ rest) := rfl
    rw [text] at front
    simp only [readAny, Reader.map, readOption, front, expectWord_append, ok_bind]
  | bool b =>
    intro n fuel _ _ _
    refine ((ReadsBack.bool b).map Json.bool).congr fun L level depth cs rest front => ?_
    cases b
    · have text : L.chars level (.bool false) ++ rest = 'f' :: (['a', 'l', 's', 'e'] ++ rest) := rfl
      rw [text] at front
      simp only [readAny, Reader.map, readBool, front, expectWord_append, ok_bind]
    · have text : L.chars level (.bool true) ++ rest = 't' :: (['r', 'u', 'e'] ++ rest) := rfl
      rw [text] at front
      simp only [readAny, Reader.map, readBool, front, expectWord_append, ok_bind]
  | number k =>
    intro n fuel readable _ _
    have fits := readable.fits k (List.mem_singleton_self k)
    cases k with
    | int i => exact .anyInteger text fits.1 fits.2
    | double x => exact (readable.integers (.double x) (List.mem_singleton_self _)).elim
  | string s =>
    intro n fuel _ _ _
    refine ((ReadsBack.string s).map Json.string).congr fun L level depth cs rest front => ?_
    rw [string_chars] at front
    simp only [readAny, Reader.map, readString, readStringAs, front]
  | array items each =>
    intro n fuel readable unreserved enough
    obtain ⟨n, rfl, parts⟩ := readable.items
    -- the items are one level further in, and their reader has one unit of fuel less
    obtain ⟨fuel, rfl⟩ : ∃ inner, fuel = inner + 1 := ⟨fuel - 1, by omega⟩
    have back : List.Forall₂ (ReadsBack n (readAny text (fuel + 1))) (items.map sorted) items :=
      List.forall₂_map_left_iff.mpr <| List.forall₂_same.mpr fun x member =>
        each x member (parts x member) (unreserved.items x member) (Nat.le_of_succ_le_succ enough)
    rw [sorted_array]
    refine ((ReadsBack.list back).map Json.array).congr fun L level depth cs rest front => ?_
    cases items <;> exact readAny_list text (fuel + 1) depth front
  | object members each =>
    intro n fuel readable unreserved enough
    obtain ⟨n, rfl, parts⟩ := readable.members
    obtain ⟨fuel, rfl⟩ : ∃ inner, fuel = inner + 1 := ⟨fuel - 1, by omega⟩
    have back : List.Forall₂ (MemberReadsBack n (readAny text (fuel + 1))) (members.map fun m => (m.1, m.2.sorted))
        members :=
      List.forall₂_map_left_iff.mpr <| List.forall₂_same.mpr fun m member =>
        ⟨rfl, each m member (parts m member) (unreserved.members.1 m member) (Nat.le_of_succ_le_succ enough)⟩
    rw [sorted_object]
    refine ((ReadsBack.members back).map Json.object).congr fun L level depth cs rest front => ?_
    obtain ⟨inner, chars, plain⟩ := object_front unreserved.members.2 L level rest
    exact readAny_map text (fuel + 1) depth (front.trans chars) plain

end

/-- Any value whose numbers are integers of 64 bits and none of whose objects begins with `rawKey` is read back with
    its members in order. -/
theorem ReadsBack.value {n : Nat} {j : Json} (readable : Readable n j) (unreserved : j.Unreserved) :
    ReadsBack n read j.sorted j where
  starts := (ReadsBack.any (readRaw 0) j readable unreserved (Nat.le_refl n)).starts
  reads L level depth cs rest enough :=
    (ReadsBack.any (readRaw cs.length) j readable unreserved enough).reads L level depth cs rest enough

end SchemaMutation.Json
