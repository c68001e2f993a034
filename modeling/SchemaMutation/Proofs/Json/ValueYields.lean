import SchemaMutation.Proofs.Json.Extent
import SchemaMutation.Proofs.Json.Yields

/-!
# What any value can be

The integers of a value that is read have 64 bits, and the members of its objects stand in the order of their keys
(`read_yields`). It is nested no deeper than levels may be opened if no part of it was read from a text of its own
(`readPlain_yields`).
-/

namespace SchemaMutation.Json

open Text (Parsed)

def FitsIfRead (outcome : Reading (Parsed Number)) : Prop := ∀ k rest, outcome = .ok (k, rest) → k.Fits

theorem doubleOf_fits (negative : Bool) (significand : Nat) (exponent : Int) (cs : List Char) :
    FitsIfRead (doubleOf negative significand exponent cs) := by
  intro k rest given
  unfold doubleOf at given
  split at given
  · cases given
    trivial
  · cases given

theorem exponentPart_fits (negative : Bool) (significand : Nat) (exponent : Int) (cs : List Char) :
    FitsIfRead (exponentPart negative significand exponent cs) := by
  intro k rest given
  simp only [exponentPart] at given
  split at given
  · cases given
  · split at given
    · split at given
      · exact doubleOf_fits _ _ _ _ _ _ given
      · split at given
        · cases given
        · cases given
          trivial
    · cases given

theorem exponentOrEnd_fits (negative : Bool) (significand : Nat) (exponent : Int) (cs : List Char) :
    FitsIfRead (exponentOrEnd negative significand exponent cs) := by
  intro k rest given
  unfold exponentOrEnd at given
  split at given
  · split at given
    · exact exponentPart_fits _ _ _ _ _ _ given
    · exact doubleOf_fits _ _ _ _ _ _ given
  · exact doubleOf_fits _ _ _ _ _ _ given

theorem decimalPart_fits (negative : Bool) (significand : Nat) (exponent : Int) (cs : List Char) :
    FitsIfRead (decimalPart negative significand exponent cs) := by
  intro k rest given
  simp only [decimalPart] at given
  split at given
  · exact exponentOrEnd_fits _ _ _ _ _ _ given
  · split at given
    · split at given <;> cases given
    · exact exponentOrEnd_fits _ _ _ _ _ _ given

theorem takeDigits_le {significand : Nat} (within : significand ≤ greatestUnsigned) (count : Nat) (cs : List Char) :
    (takeDigits significand count cs).1 ≤ greatestUnsigned := by
  induction cs generalizing significand count with
  | nil => exact within
  | cons c cs ih =>
    rw [takeDigits]
    split
    · rename_i more
      exact ih more.2 _
    · exact within

theorem wholeNumber_fits (negative : Bool) {significand : Nat} (within : significand ≤ greatestUnsigned)
    (cs : List Char) : FitsIfRead (wholeNumber negative significand cs) := by
  intro k rest given
  unfold wholeNumber at given
  split at given
  · cases given
    exact ⟨by omega, Int.ofNat_le.mpr within⟩
  · split at given
    · exact doubleOf_fits _ _ _ _ _ _ given
    · rename_i proper
      cases given
      exact ⟨by omega, by simp only [greatestUnsigned]; omega⟩

theorem afterWhole_fits (negative : Bool) {significand : Nat} (within : significand ≤ greatestUnsigned) (extra : Nat)
    (cs : List Char) : FitsIfRead (numberBody.afterWhole negative significand extra cs) := by
  intro k rest given
  unfold numberBody.afterWhole at given
  split at given
  · exact decimalPart_fits _ _ _ _ _ _ given
  · split at given
    · exact exponentPart_fits _ _ _ _ _ _ given
    · split at given
      · exact wholeNumber_fits negative within _ _ _ given
      · exact doubleOf_fits _ _ _ _ _ _ given
  · split at given
    · exact wholeNumber_fits negative within _ _ _ given
    · exact doubleOf_fits _ _ _ _ _ _ given

theorem numberBody_fits (negative : Bool) (cs : List Char) : FitsIfRead (numberBody negative cs) := by
  intro k rest given
  unfold numberBody at given
  split at given
  · cases given
  · split at given
    · cases given
    · exact afterWhole_fits negative (Nat.zero_le _) _ _ _ _ given
  · rename_i c tail _
    split at given
    · have within := takeDigits_le (Nat.zero_le greatestUnsigned) 0 (c :: tail)
      generalize takeDigits 0 0 (c :: tail) = taken at given within
      exact afterWhole_fits negative within _ _ _ _ given
    · cases given

theorem readMap_zero {α : Type} (Q : List (String × α) → Prop) (value : Reader α) : YieldsAt 0 Q (readMap value) := by
  intro cs members rest given
  unfold readMap at given
  split at given
  · cases given
  · cases given
  · exact (wrongType_ne_ok given).elim

theorem YieldsAt.members {α : Type} {P : α → Prop} {value : Reader α} {d : Nat} (yields : YieldsAt d P value) :
    YieldsAt (d + 1) (fun members => Ascending members ∧ ∀ m ∈ members, P m.2) (readMap value) := by
  intro cs members rest given
  unfold readMap at given
  split at given
  · obtain ⟨⟨last, cs'⟩, inner, given⟩ := bind_eq_ok.mp given
    obtain ⟨_, _, given⟩ := bind_eq_ok.mp given
    cases given
    refine readMembers_invariant (I := fun members => Ascending members ∧ ∀ m ∈ members, P m.2) ?_
      ⟨.nil, nofun⟩ inner
    rintro done key cs next rest ⟨ascending, each⟩ taken
    obtain ⟨_, _, taken⟩ := bind_eq_ok.mp taken
    obtain ⟨⟨a, more⟩, read, taken⟩ := bind_eq_ok.mp taken
    cases taken
    refine ⟨setMember_ascending key a ascending, fun m member => ?_⟩
    rcases mem_setMember member with rfl | known
    · exact yields _ _ _ read
    · exact each m known
  · cases given
  · exact (wrongType_ne_ok given).elim

/-- An alternative has a property that it has by its name alone, and by its content one level deeper. -/
theorem readVariant_yieldsAt {α : Type} {P : α → Prop} {variants : List (Variant α)} {depth : Nat}
    (named : ∀ v ∈ variants, ∀ a, v.ofName = .ok a → P a)
    (content : ∀ d, depth = d + 1 → ∀ v ∈ variants, YieldsAt d P v.readContent) :
    YieldsAt depth P (readVariant variants) := by
  have chosen {β : Type} {name : String} {next : Variant α → Reading β} {b : β}
      (given : withVariant variants name next = .ok b) : ∃ v ∈ variants, next v = .ok b := by
    unfold withVariant at given
    split at given
    · rename_i v found
      exact ⟨v, List.mem_of_find?_eq_some found, given⟩
    · cases given
  intro cs a rest given
  unfold readVariant at given
  split at given
  · cases depth with
    | zero => cases given
    | succ d =>
      obtain ⟨⟨name, cs'⟩, _, given⟩ := bind_eq_ok.mp given
      obtain ⟨⟨b, cs'⟩, inner, given⟩ := bind_eq_ok.mp given
      obtain ⟨v, member, inner⟩ := chosen inner
      obtain ⟨_, _, inner⟩ := bind_eq_ok.mp inner
      simp only at given
      split at given
      · cases given
        exact content d rfl v member _ _ _ inner
      · cases given
      · cases given
  · obtain ⟨⟨name, cs'⟩, _, given⟩ := bind_eq_ok.mp given
    obtain ⟨b, inner, given⟩ := bind_eq_ok.mp given
    cases given
    obtain ⟨v, member, inner⟩ := chosen inner
    exact named v member a inner
  · cases given
  · cases given

structure AsRead (plain : Prop) (n : Nat) (j : Json) : Prop extends Bounded plain n j where
  inOrder : j.sorted = j

section
variable {plain : Prop} {n : Nat} {text : String → Reading Json}

theorem asRead_array {items : List Json} (each : ∀ x ∈ items, AsRead plain n x) :
    AsRead plain (n + 1) (.array items) where
  toBounded := bounded_array fun x member => (each x member).toBounded
  inOrder := by
    rw [sorted_array, List.map_congr_left fun x member => (each x member).inOrder, List.map_id']

theorem sortedValues_eq_self {members : List (String × Json)} (ascending : Ascending members)
    (each : ∀ m ∈ members, m.2.sorted = m.2) :
    sortMembers (members.map fun m => (m.1, m.2.sorted)) = members := by
  have same : members.map (fun m => (m.1, m.2.sorted)) = members := by
    refine (List.map_congr_left fun m member => ?_).trans (List.map_id members)
    rw [each m member]
    rfl
  rw [same, sortMembers_eq_self ascending]

theorem asRead_object {members : List (String × Json)} (ascending : Ascending members)
    (each : ∀ m ∈ members, AsRead plain n m.2) : AsRead plain (n + 1) (.object members) where
  toBounded := bounded_object fun m member => (each m member).toBounded
  inOrder := by rw [sorted_object, sortedValues_eq_self ascending fun m member => (each m member).inOrder]

theorem readAny_list (text : String → Reading Json) (fuel depth : Nat) {cs rest : List Char}
    (front : skipBlanks cs = '[' :: rest) :
    readAny text (fuel + 1) depth cs = (readList (readAny text fuel)).map .array depth cs := by
  simp only [readAny, Reader.map, readList, front]

theorem readAny_map (text : String → Reading Json) (fuel depth : Nat) {cs rest : List Char}
    (front : skipBlanks cs = '\x7b' :: rest) (members : rawText? rest = none) :
    readAny text (fuel + 1) depth cs = (readMap (readAny text fuel)).map .object depth cs := by
  simp only [readAny, Reader.map, readMap, front, members]

/-- What is read of an object that begins with `rawKey` is read from the text behind that key. -/
theorem readAny_raw {fuel depth : Nat} {cs inner behind rest : List Char} {j : Json}
    (front : skipBlanks cs = '\x7b' :: inner) (raw : rawText? inner = some behind)
    (given : readAny text (fuel + 1) depth cs = .ok (j, rest)) : ∃ s, text s = .ok j := by
  simp only [readAny, front, raw] at given
  cases depth with
  | zero => cases given
  | succ d =>
    obtain ⟨_, _, given⟩ := bind_eq_ok.mp given
    obtain ⟨⟨s, _⟩, _, given⟩ := bind_eq_ok.mp given
    obtain ⟨_, read, given⟩ := bind_eq_ok.mp given
    obtain ⟨_, _, given⟩ := bind_eq_ok.mp given
    cases given
    exact ⟨s, read⟩

theorem readAny_yields (texts : ∀ s j, text s = .ok j → ∀ n, AsRead plain n j) (fuel : Nat) :
    ∀ depth, YieldsAt depth (AsRead plain depth) (readAny text fuel) := by
  induction fuel with
  | zero => exact fun depth cs j rest given => nomatch given
  | succ fuel ih =>
    have list : ∀ depth, YieldsAt depth (AsRead plain depth) ((readList (readAny text fuel)).map .array)
      | 0 => (readList_zero (fun _ => False) _).map nofun
      | d + 1 => (ih d).list.map fun _ => asRead_array
    have map : ∀ depth, YieldsAt depth (AsRead plain depth) ((readMap (readAny text fuel)).map .object)
      | 0 => (readMap_zero (fun _ => False) _).map nofun
      | d + 1 => (ih d).members.map fun _ ⟨ascending, each⟩ => asRead_object ascending each
    intro depth cs j rest given
    have outcome := given
    simp only [readAny] at outcome
    split at outcome
    case h_1 => cases outcome
    case h_2 =>
      obtain ⟨_, _, outcome⟩ := bind_eq_ok.mp outcome
      cases outcome
      exact ⟨bounded_null, rfl⟩
    case h_3 =>
      obtain ⟨_, _, outcome⟩ := bind_eq_ok.mp outcome
      cases outcome
      exact ⟨bounded_bool true, rfl⟩
    case h_4 =>
      obtain ⟨_, _, outcome⟩ := bind_eq_ok.mp outcome
      cases outcome
      exact ⟨bounded_bool false, rfl⟩
    case h_5 =>
      obtain ⟨⟨k, more⟩, number, outcome⟩ := bind_eq_ok.mp outcome
      cases outcome
      exact ⟨bounded_number (numberBody_fits _ _ _ _ number), rfl⟩
    case h_6 =>
      obtain ⟨⟨s, more⟩, _, outcome⟩ := bind_eq_ok.mp outcome
      cases outcome
      exact ⟨bounded_string s, rfl⟩
    case h_7 front => exact list depth cs j rest (readAny_list text fuel depth front ▸ given)
    case h_8 inner front =>
      cases raw : rawText? inner with
      | none => exact map depth cs j rest (readAny_map text fuel depth front raw ▸ given)
      | some behind =>
        -- nothing is known of a value from another text but what `texts` says of it
        obtain ⟨s, read⟩ := readAny_raw front raw given
        exact texts s j read depth
    case h_9 =>
      split at outcome
      · obtain ⟨⟨k, more⟩, number, outcome⟩ := bind_eq_ok.mp outcome
        cases outcome
        exact ⟨bounded_number (numberBody_fits _ _ _ _ number), rfl⟩
      · cases outcome

end

theorem readText_eq_ok {α : Type} {reader : Reader α} {depth : Nat} {text : String} {a : α}
    (given : readText reader depth text = .ok a) : ∃ rest, reader depth text.toList = .ok (a, rest) := by
  obtain ⟨⟨b, rest⟩, inner, given⟩ := bind_eq_ok.mp given
  simp only at given
  split at given
  · cases given
    exact ⟨rest, inner⟩
  · cases given

/-- Values behind `rawKey` may be nested to any depth. -/
theorem readRaw_yields (fuel : Nat) : ∀ s j, readRaw fuel s = .ok j → ∀ n, AsRead False n j := by
  induction fuel with
  | zero => exact fun s j given => nomatch given
  | succ fuel ih =>
    intro s j given n
    obtain ⟨rest, inner⟩ := readText_eq_ok given
    have asRead := readAny_yields ih _ _ _ _ _ inner
    exact ⟨⟨False.elim, asRead.fits⟩, asRead.inOrder⟩

theorem read_yields (depth : Nat) : YieldsAt depth (AsRead False depth) read :=
  fun cs => readAny_yields (readRaw_yields cs.length) (depth + 1) depth cs

/-- Reads any value without an object that begins with `rawKey`. -/
def readPlain : Reader Json := fun depth cs => readAny (fun _ => fault .expectedValue) (depth + 1) depth cs

/-- Any value that is read plainly is nested no deeper than levels may be opened besides. -/
theorem readPlain_yields (depth : Nat) : YieldsAt depth (AsRead True depth) readPlain := by
  have refused (s : String) (j : Json) (given : fault .expectedValue = .ok j) : ∀ n, AsRead True n j := nomatch given
  exact readAny_yields refused (depth + 1) depth

end SchemaMutation.Json
