import SchemaMutation.Proofs.Json.ReadBack

/-!
# Reading records that were written

A record is written as an object with a member for each of its fields, in their order (`Fields.Written`). Reading it
fills a draft from the front: behind as many members it holds the values of as many fields (`Fields.filled`).
-/

namespace SchemaMutation.Json

open Text (Parsed)

section
variable {σ : Type} {member : σ → String → List Char → Reading (Parsed σ)} {fuel : Nat} {first : Bool} {state : σ}

theorem readMembers_end {cs rest : List Char} (front : skipBlanks cs = '\x7d' :: rest) :
    readMembers member (fuel + 1) first state cs = .ok (state, '\x7d' :: rest) := by
  simp [readMembers, nextKey, front]

theorem readMembers_cons {cs rest more : List Char} {key : String} {next : σ}
    (front : nextKey first cs = .ok (true, key.toList.flatMap escape ++ '"' :: rest))
    (taken : member state key rest = .ok (next, more)) :
    readMembers member (fuel + 1) first state cs = readMembers member fuel false next more := by
  simp only [readMembers, front, stringBody_written, taken, ok_bind]

end

theorem nextKey_first {blanks : List Char} (only : Blanks blanks) (cs : List Char) :
    nextKey true (blanks ++ '"' :: cs) = .ok (true, cs) := by
  simp [nextKey, skipBlanks_append only, skipBlanks_cons (c := '"') rfl]

theorem nextKey_further {blanks : List Char} (only : Blanks blanks) (cs : List Char) :
    nextKey false (',' :: (blanks ++ '"' :: cs)) = .ok (true, cs) := by
  simp [nextKey, skipBlanks_append only, skipBlanks_cons (c := '"') rfl, skipBlanks_cons (c := ',') rfl]

theorem ends_members (L : Layout) (level : Nat) (members : List (String × Json)) (rest : List Char) :
    Ends (L.members level members ++ rest) := by
  cases members with
  | nil =>
    rw [Layout.members, List.append_assoc]
    exact (ends_brace rest).append (L.newline_blanks level)
  | cons m ms => exact ends_comma _

theorem length_lt_members (L : Layout) (level : Nat) (members : List (String × Json)) :
    members.length < (L.members level members).length := by
  induction members with
  | nil => simp [Layout.members]
  | cons m ms ih =>
    simp only [Layout.members, List.length_cons, List.length_append]
    omega

namespace Fields

def names : {ts : List Type} → Fields ts → List String
  | _, .nil => []
  | _, .cons field rest => field.name :: rest.names

/-- The draft that holds the first `count` of the values. -/
def filled : {ts : List Type} → Fields ts → Values ts → Nat → Draft ts
  | _, .nil, _, _ => ()
  | _, .cons _ rest, (_, values), 0 => (none, rest.filled values 0)
  | _, .cons _ rest, (a, values), count + 1 => (some a, rest.filled values count)

/-- An object has a member for each field, in their order, and each is read back as the value of the field. -/
inductive Written (n : Nat) : {ts : List Type} → Fields ts → Values ts → List (String × Json) → Prop where
  | nil : Written n .nil () []
  | cons {α : Type} {ts : List Type} {field : Field α} {rest : Fields ts} {a : α} {values : Values ts} {j : Json}
      {members : List (String × Json)} (back : ReadsBack n field.read a j) (more : Written n rest values members) :
      Written n (.cons field rest) (a, values) ((field.name, j) :: members)

variable {ts : List Type} {fields : Fields ts} {values : Values ts} {members : List (String × Json)} {n : Nat}

theorem blank_eq_filled (fields : Fields ts) (values : Values ts) : fields.blank = fields.filled values 0 := by
  induction fields with
  | nil => rfl
  | cons field rest ih => exact congrArg (Prod.mk none) (ih values.2)

theorem complete_filled (fields : Fields ts) (values : Values ts) {count : Nat} (all : fields.size ≤ count) :
    fields.complete (fields.filled values count) = .ok values := by
  induction fields generalizing count with
  | nil => rfl
  | cons field rest ih =>
    cases count with
    | zero => cases all
    | succ count =>
      obtain ⟨a, values⟩ := values
      simp only [filled, complete, Option.some_or, ih values (Nat.le_of_succ_le_succ all), ok_bind]

theorem Written.length_eq (written : Written n fields values members) : members.length = fields.size := by
  induction written with
  | nil => rfl
  | cons _ _ ih => exact congrArg Nat.succ ih

theorem Written.name_mem (written : Written n fields values members) {key : String} {j : Json}
    (member : (key, j) ∈ members) : key ∈ fields.names := by
  induction written with
  | nil => cases member
  | cons _ _ ih =>
    rcases List.mem_cons.mp member with same | later
    · cases same
      exact List.mem_cons_self
    · exact List.mem_cons_of_mem _ (ih later)

/-- Reading the member at a place adds the value of the field there to those before it. -/
theorem Written.readField? (written : Written n fields values members) (distinct : fields.names.Nodup) (L : Layout)
    (level : Nat) {depth : Nat} (enough : n ≤ depth) (place : Nat) {key : String} {j : Json}
    (there : members[place]? = some (key, j)) {rest : List Char} (ends : Ends rest) :
    fields.readField? key depth (':' :: (L.gap ++ (L.chars level j ++ rest))) (fields.filled values place) =
      some (.ok (fields.filled values (place + 1), rest)) := by
  induction written generalizing place with
  | nil => cases there
  | @cons α ts field others a values first members back more ih =>
    cases place with
    | zero =>
      cases there
      have value := back.reads L level depth _ rest enough ends (back.skipBlanks_chars L level L.gap_blanks rest)
      have colon : ∀ cs, expectColon (':' :: cs) = .ok cs := fun _ => rfl
      simp only [filled, Fields.readField?, if_true, colon, value, ok_bind]
    | succ place =>
      have later : members[place]? = some (key, j) := there
      obtain ⟨apart, distinct⟩ := List.nodup_cons.mp distinct
      have other : field.name ≠ key := by
        rintro rfl
        exact apart (more.name_mem (List.mem_of_getElem? later))
      simp only [filled, Fields.readField?, if_neg other, ih distinct place later, Option.map_some, ok_bind]

theorem Written.readMembers (written : Written n fields values members) (distinct : fields.names.Nodup) (L : Layout)
    (level : Nat) {depth : Nat} (enough : n ≤ depth) (place : Nat) {more : List (String × Json)} {fuel : Nat}
    (behind : members.drop place = more) (room : more.length < fuel) (rest : List Char) :
    Json.readMembers (fields.readMember depth) fuel false (fields.filled values place) (L.members level more ++ rest) =
      .ok (fields.filled values (place + more.length), '\x7d' :: rest) := by
  induction more generalizing place fuel with
  | nil =>
    obtain ⟨fuel, rfl⟩ := Nat.exists_eq_add_of_lt room
    rw [Layout.members, List.append_assoc]
    exact readMembers_end (skipBlanks_append (L.newline_blanks level) _)
  | cons member more ih =>
    obtain ⟨key, j⟩ := member
    cases fuel with
    | zero => cases room
    | succ fuel =>
      have there : members[place]? = some (key, j) := by
        rw [← List.head?_drop, behind]
        rfl
      have later : members.drop (place + 1) = more := by
        rw [← List.tail_drop, behind]
        rfl
      have text : L.members level ((key, j) :: more) ++ rest =
          ',' :: (L.newline (level + 1) ++ '"' :: (key.toList.flatMap escape ++
            '"' :: ':' :: (L.gap ++ (L.chars (level + 1) j ++ (L.members level more ++ rest))))) := by
        simp [Layout.members, quoted]
      have taken := written.readField? distinct L (level + 1) enough place there (ends_members L level more rest)
      rw [text, readMembers_cons (nextKey_further (L.newline_blanks _) _) (by rw [readMember, taken]),
        ih (place + 1) later (Nat.lt_of_succ_lt_succ room), List.length_cons, Nat.add_assoc, Nat.add_comm 1]

theorem Written.readMembers_first (written : Written n fields values members) (distinct : fields.names.Nodup)
    (L : Layout) (level : Nat) {depth : Nat} (enough : n ≤ depth) (rest : List Char) :
    ∃ inner, L.chars level (.object members) ++ rest = '\x7b' :: inner ∧
      Json.readMembers (fields.readMember depth) (inner.length + 1) true fields.blank inner =
        .ok (fields.filled values members.length, '\x7d' :: rest) := by
  rw [fields.blank_eq_filled values]
  cases members with
  | nil => exact ⟨'\x7d' :: rest, rfl, readMembers_end (skipBlanks_cons (c := '\x7d') rfl rest)⟩
  | cons member more =>
    obtain ⟨key, j⟩ := member
    refine ⟨L.newline (level + 1) ++ '"' :: (key.toList.flatMap escape ++
      '"' :: ':' :: (L.gap ++ (L.chars (level + 1) j ++ (L.members level more ++ rest)))), ?_, ?_⟩
    · simp [Layout.chars, quoted]
    · have taken := written.readField? distinct L (level + 1) enough 0 rfl (ends_members L level more rest)
      have short := length_lt_members L level more
      have later : ((key, j) :: more).drop 1 = more := rfl
      rw [readMembers_cons (nextKey_first (L.newline_blanks _) _) (by rw [readMember, taken]),
        written.readMembers distinct L level enough 1 later, List.length_cons, Nat.add_comm 1]
      simp only [List.length_append, List.length_cons]
      omega

end Fields

/-- A record is read back from an object of its fields. -/
theorem ReadsBack.record {α : Type} (r : Record α) {n : Nat} {values : Values r.types} {members : List (String × Json)}
    (written : r.fields.Written n values members) (distinct : r.fields.names.Nodup) :
    ReadsBack (n + 1) r.read (r.make values) (.object members) where
  starts L level := by
    cases members with
    | nil => exact ⟨'\x7b', _, rfl, rfl, by decide, fun same => nomatch same⟩
    | cons m ms => exact ⟨'\x7b', _, rfl, rfl, by decide, fun same => nomatch same⟩
  reads L level depth cs rest enough _ front := by
    obtain ⟨d, rfl⟩ : ∃ d, depth = d + 1 := ⟨depth - 1, by omega⟩
    obtain ⟨inner, text, draft⟩ := written.readMembers_first distinct L level (Nat.le_of_succ_le_succ enough) rest
    have whole := r.fields.complete_filled values (Nat.le_of_eq written.length_eq.symm)
    have closing : endObject ('\x7d' :: rest) = .ok rest := rfl
    rw [text] at front
    simp only [Record.read, front, openLevel, draft, ok_bind, whole, closing]

end SchemaMutation.Json
