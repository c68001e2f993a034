import Mathlib.Data.List.Forall2
import Mathlib.Tactic.SplitIfs
import SchemaMutation.Proofs.Json.Layout
import SchemaMutation.Proofs.Json.Yields

/-!
# Reading what was written

A reader reads a value back (`ReadsBack`) when it takes the written text of the value, in any layout and with any text
behind it that can stand there, and gives the value and that text. Strings, integers, flags, optional values and lists
are read back; records are so in `RecordReadBack`.
-/

namespace SchemaMutation.Json

open Text (Parsed hexValue?)

/-- A text that can follow a value: it is at its end, or goes on with a blank or the mark that ends the value. -/
def Ends (rest : List Char) : Prop := ∀ c ∈ rest.head?, isBlank c = true ∨ c = ',' ∨ c = ']' ∨ c = '\x7d'

theorem skipBlanks_append {blanks : List Char} (only : Blanks blanks) (cs : List Char) :
    skipBlanks (blanks ++ cs) = skipBlanks cs :=
  List.dropWhile_append_of_pos only

theorem skipBlanks_cons {c : Char} (shown : isBlank c = false) (cs : List Char) : skipBlanks (c :: cs) = c :: cs := by
  simp [skipBlanks, shown]

theorem Ends.append {blanks cs : List Char} (only : Blanks blanks) (ends : Ends cs) : Ends (blanks ++ cs) := by
  cases blanks with
  | nil => exact ends
  | cons b bs =>
    intro c first
    cases first
    exact .inl (only _ (by simp))

theorem ends_nil : Ends [] := by simp [Ends]

theorem ends_comma (cs : List Char) : Ends (',' :: cs) := by simp [Ends]

theorem ends_bracket (cs : List Char) : Ends (']' :: cs) := by simp [Ends]

theorem ends_brace (cs : List Char) : Ends ('\x7d' :: cs) := by simp [Ends]

theorem Ends.not_digit {rest : List Char} (ends : Ends rest) : startsWithDigit rest = false := by
  cases rest with
  | nil => rfl
  | cons c cs =>
    rcases ends c rfl with blank | rfl | rfl | rfl
    · simp only [isBlank, Bool.or_eq_true, beq_iff_eq] at blank
      rcases blank with ((rfl | rfl) | rfl) | rfl <;> rfl
    all_goals rfl

theorem isBlank_of_isDigit {c : Char} (digit : c.isDigit = true) : isBlank c = false := by
  simp only [isBlank, Bool.or_eq_false_iff, beq_eq_false_iff_ne]
  refine ⟨⟨⟨?_, ?_⟩, ?_⟩, ?_⟩
  all_goals
    rintro rfl
    cases digit

theorem expectWord_append (word rest : List Char) : expectWord word (word ++ rest) = .ok rest := by
  induction word with
  | nil => cases rest <;> rfl
  | cons w ws ih => simp [expectWord, ih]

theorem hexValue?_hexDigit : ∀ n < 16, hexValue? (hexDigit n) = some n := by decide

theorem hexEscape_control {c : Char} (control : c.toNat < 32) (rest : List Char) :
    hexEscape ('0' :: '0' :: hexDigit (c.toNat / 16) :: hexDigit (c.toNat % 16) :: rest) = .ok (c, rest) := by
  have upper := hexValue?_hexDigit (c.toNat / 16) (by omega)
  have lower := hexValue?_hexDigit (c.toNat % 16) (by omega)
  have zero : hexValue? '0' = some 0 := by decide
  have whole : ((0 * 16 + 0) * 16 + c.toNat / 16) * 16 + c.toNat % 16 = c.toNat := by omega
  simp only [hexEscape, hexFour, zero, upper, lower, ok_bind, whole]
  rw [if_neg (by omega), if_neg (by omega), Char.ofNat_toNat]

theorem stringChar_escape (c : Char) (rest : List Char) : stringChar (escape c ++ rest) = .ok (some c, rest) := by
  unfold escape
  split_ifs with quote backslash line ret tab back feed control
  all_goals try subst_vars
  · rfl
  · rfl
  · rfl
  · rfl
  · rfl
  · rw [show c = Char.ofNat 8 by rw [← back, Char.ofNat_toNat]]
    rfl
  · rw [show c = Char.ofNat 12 by rw [← feed, Char.ofNat_toNat]]
    rfl
  · simp [stringChar, hexEscape_control control]
  · simp [stringChar, backslash, control]

theorem stringChars_flatMap (cs rest : List Char) {fuel : Nat} (enough : cs.length < fuel) :
    stringChars fuel (cs.flatMap escape ++ '"' :: rest) = .ok (cs, rest) := by
  induction cs generalizing fuel with
  | nil =>
    obtain ⟨fuel, rfl⟩ := Nat.exists_eq_add_of_lt enough
    rfl
  | cons c cs ih =>
    cases fuel with
    | zero => cases enough
    | succ fuel =>
      rw [List.flatMap_cons, List.append_assoc, stringChars, stringChar_escape]
      simp [ih (Nat.lt_of_succ_lt_succ enough)]

theorem length_le_flatMap_escape (cs : List Char) : cs.length ≤ (cs.flatMap escape).length := by
  have one : ∀ c, 1 ≤ (escape c).length := by
    intro c
    unfold escape
    split_ifs <;> simp
  induction cs with
  | nil => simp
  | cons c cs ih =>
    have := one c
    simp only [List.flatMap_cons, List.length_cons, List.length_append]
    omega

theorem stringBody_written (s : String) (rest : List Char) :
    stringBody (s.toList.flatMap escape ++ '"' :: rest) = .ok (s, rest) := by
  have enough : s.toList.length < (s.toList.flatMap escape ++ '"' :: rest).length + 1 := by
    have := length_le_flatMap_escape s.toList
    simp only [List.length_append, List.length_cons]
    omega
  rw [stringBody, stringChars_flatMap s.toList rest enough]
  simp only [ok_bind, String.ofList_toList]

/-- Digits are taken in to the last as long as the number that they make keeps within 64 bits. -/
theorem takeDigits_append {digits rest : List Char} {significand : Nat} (count : Nat)
    (only : ∀ c ∈ digits, c.isDigit = true) (stops : startsWithDigit rest = false)
    (fits : Nat.ofDigitChars 10 digits significand ≤ greatestUnsigned) :
    takeDigits significand count (digits ++ rest) =
      (Nat.ofDigitChars 10 digits significand, count + digits.length, rest) := by
  induction digits generalizing significand count with
  | nil =>
    cases rest with
    | nil => rfl
    | cons c cs =>
      have notDigit : c.isDigit = false := stops
      simp [takeDigits, notDigit]
  | cons c cs ih =>
    have same : significand * 10 + digitValue c = 10 * significand + (c.toNat - '0'.toNat) := by
      rw [Nat.mul_comm]
      rfl
    rw [Nat.ofDigitChars_cons, ← same] at fits ⊢
    have within : significand * 10 + digitValue c ≤ greatestUnsigned := by
      -- What the digits so far make is at most what all of them make.
      refine Nat.le_trans ?_ fits
      rw [Nat.ofDigitChars_eq_ofDigitChars_zero]
      exact Nat.le_trans (Nat.le_mul_of_pos_left _ (Nat.pow_pos (by omega))) (Nat.le_add_right _ _)
    rw [List.cons_append, takeDigits, if_pos ⟨only c (by simp), within⟩,
      ih (count + 1) (fun d member => only d (by simp [member])) fits, List.length_cons, Nat.add_assoc, Nat.add_comm 1]

theorem toDigits_first (n : Nat) : ∃ c cs, Nat.toDigits 10 n = c :: cs ∧ c.isDigit = true := by
  obtain ⟨c, cs, leading⟩ := List.exists_cons_of_ne_nil (Nat.toDigits_ne_nil (b := 10) (n := n))
  exact ⟨c, cs, leading, Nat.isDigit_of_mem_toDigits (by omega) (by omega) (leading ▸ List.mem_cons_self)⟩

theorem toDigits_leading {n : Nat} (positive : 0 < n) :
    ∃ c cs, Nat.toDigits 10 n = c :: cs ∧ c ≠ '0' ∧ c.isDigit = true := by
  induction n using Nat.strongRecOn with
  | ind n ih =>
    rcases Nat.lt_or_ge n 10 with small | large
    · have proper : ∀ d < 10, 0 < d → d.digitChar ≠ '0' ∧ d.digitChar.isDigit = true := by decide
      exact ⟨n.digitChar, [], Nat.toDigits_of_lt_base small, proper n small positive⟩
    · obtain ⟨c, cs, same, proper⟩ := ih (n / 10) (by omega) (by omega)
      exact ⟨c, cs ++ [(n % 10).digitChar], by rw [Nat.toDigits_of_base_le (by omega) large, same]; rfl, proper⟩

theorem wholeNumber_natAbs {i : Int} (signed : -0x8000000000000000 ≤ i) (rest : List Char) :
    wholeNumber (decide (i < 0)) i.natAbs rest = .ok (.int i, rest) := by
  simp only [wholeNumber]
  split_ifs with positive zero
  · rw [Int.natAbs_of_nonneg (by simpa using positive)]
  · simp only [Bool.not_eq_true, Bool.not_eq_false', decide_eq_true_eq] at positive
    omega
  · simp only [Bool.not_eq_true, Bool.not_eq_false', decide_eq_true_eq] at positive
    rw [Int.ofNat_natAbs_of_nonpos (by omega), Int.neg_neg]

theorem afterWhole_ends {negative : Bool} {significand : Nat} {rest : List Char} (ends : Ends rest) :
    numberBody.afterWhole negative significand 0 rest = wholeNumber negative significand rest := by
  cases rest with
  | nil => rfl
  | cons c cs =>
    rcases ends c rfl with blank | rfl | rfl | rfl
    · simp only [isBlank, Bool.or_eq_true, beq_iff_eq] at blank
      rcases blank with ((rfl | rfl) | rfl) | rfl <;> rfl
    all_goals rfl

theorem numberBody_toDigits (negative : Bool) {n : Nat} (fits : n ≤ greatestUnsigned) {rest : List Char}
    (ends : Ends rest) : numberBody negative (Nat.toDigits 10 n ++ rest) = wholeNumber negative n rest := by
  rcases Nat.eq_zero_or_pos n with rfl | positive
  · rw [Nat.toDigits_zero, List.singleton_append, numberBody, ends.not_digit, if_neg (by simp), afterWhole_ends ends]
  · obtain ⟨c, cs, leading, notZero, isDigit⟩ := toDigits_leading positive
    have taken : takeDigits 0 0 (Nat.toDigits 10 n ++ rest) = (n, 0 + (Nat.toDigits 10 n).length, rest) := by
      have digits : ∀ d ∈ Nat.toDigits 10 n, d.isDigit = true :=
        fun d => Nat.isDigit_of_mem_toDigits (by omega) (by omega)
      rw [takeDigits_append 0 digits ends.not_digit (by rwa [Nat.ofDigitChars_ten_toDigits]),
        Nat.ofDigitChars_ten_toDigits]
    have none : rest.takeWhile Char.isDigit = [] := by
      cases rest with
      | nil => rfl
      | cons d ds => exact List.takeWhile_cons_of_neg (by simpa [startsWithDigit] using ends.not_digit)
    rw [leading] at taken ⊢
    simp only [List.cons_append] at taken ⊢
    rw [numberBody]
    · simp [isDigit, taken, none, afterWhole_ends ends]
    · exact fun same => (notZero same).elim

/-- The written text of `j` is read as `a` when `n` more levels may be opened, whatever stands behind it. -/
structure ReadsBack {α : Type} (n : Nat) (read : Reader α) (a : α) (j : Json) : Prop where
  /-- The text is known by its first character from a blank, from the end of a list and from null. -/
  starts : ∀ (L : Layout) (level : Nat), ∃ c cs, L.chars level j = c :: cs ∧ isBlank c = false ∧ c ≠ ']' ∧
    (c = 'n' → j = .null)
  reads : ∀ (L : Layout) (level depth : Nat) (cs rest : List Char), n ≤ depth → Ends rest →
    skipBlanks cs = L.chars level j ++ rest → read depth cs = .ok (a, rest)

section
variable {α : Type} {n : Nat} {read : Reader α} {a : α} {j : Json}

theorem ReadsBack.skipBlanks_front (back : ReadsBack n read a j) (L : Layout) (level : Nat) (rest : List Char) :
    skipBlanks (L.chars level j ++ rest) = L.chars level j ++ rest := by
  obtain ⟨c, cs, same, shown, _⟩ := back.starts L level
  rw [same, List.cons_append, skipBlanks_cons shown]

theorem ReadsBack.skipBlanks_chars (back : ReadsBack n read a j) (L : Layout) (level : Nat) {blanks : List Char}
    (only : Blanks blanks) (rest : List Char) :
    skipBlanks (blanks ++ (L.chars level j ++ rest)) = L.chars level j ++ rest := by
  rw [skipBlanks_append only, back.skipBlanks_front]

theorem ReadsBack.reads_chars (back : ReadsBack n read a j) (L : Layout) (level : Nat) {depth : Nat}
    (enough : n ≤ depth) {rest : List Char} (ends : Ends rest) :
    read depth (L.chars level j ++ rest) = .ok (a, rest) :=
  back.reads L level depth _ rest enough ends (back.skipBlanks_front L level rest)

theorem ReadsBack.readText_pretty (back : ReadsBack n read a j) {depth : Nat} (enough : n ≤ depth) :
    readText read depth j.pretty = .ok a := by
  have whole := back.reads_chars Layout.indented 0 enough ends_nil
  rw [List.append_nil, Layout.indented_chars] at whole
  rw [readText, pretty, String.toList_ofList, whole]
  rfl

theorem ReadsBack.readText_compact (back : ReadsBack n read a j) {depth : Nat} (enough : n ≤ depth) :
    readText read depth j.compact = .ok a := by
  have whole := back.reads_chars Layout.dense 0 enough ends_nil
  rw [List.append_nil, Layout.dense_chars] at whole
  rw [readText, compact, String.toList_ofList, whole]
  rfl

end

theorem string_chars (L : Layout) (level : Nat) (s : String) (rest : List Char) :
    L.chars level (.string s) ++ rest = '"' :: (s.toList.flatMap escape ++ '"' :: rest) := by
  simp [Layout.chars, atom, quoted]

theorem ReadsBack.string {n : Nat} (s : String) : ReadsBack n readString s (.string s) where
  starts _ _ := ⟨'"', _, rfl, rfl, by decide, fun same => nomatch same⟩
  reads L level depth cs rest _ _ front := by
    rw [string_chars] at front
    simp only [readString, readStringAs, front, stringBody_written]

theorem ReadsBack.bool {n : Nat} (b : Bool) : ReadsBack n readBool b (.bool b) where
  starts _ _ := by
    cases b
    · exact ⟨'f', _, rfl, rfl, by decide, fun same => nomatch same⟩
    · exact ⟨'t', _, rfl, rfl, by decide, fun same => nomatch same⟩
  reads L level depth cs rest _ _ front := by
    cases b
    · have text : L.chars level (.bool false) ++ rest = 'f' :: (['a', 'l', 's', 'e'] ++ rest) := rfl
      rw [text] at front
      simp only [readBool, front, expectWord_append, ok_bind]
    · have text : L.chars level (.bool true) ++ rest = 't' :: (['r', 'u', 'e'] ++ rest) := rfl
      rw [text] at front
      simp only [readBool, front, expectWord_append, ok_bind]

theorem ofInt_chars (L : Layout) (level : Nat) (i : Int) :
    L.chars level (.ofInt i) = if i < 0 then '-' :: Nat.toDigits 10 i.natAbs else Nat.toDigits 10 i.natAbs := by
  cases i with
  | ofNat m => simp [ofInt, Layout.chars, atom, Number.text, Int.repr]
  | negSucc m =>
    have negative : Int.negSucc m < 0 := Int.negSucc_lt_zero m
    simp [ofInt, Layout.chars, atom, Number.text, Int.repr, negative]

theorem readInteger_digit {least greatest : Int} {wanted : String} {depth : Nat} {c : Char} {cs ds : List Char}
    (digit : c.isDigit = true) (front : skipBlanks cs = c :: ds) :
    readInteger least greatest wanted depth cs =
      (numberBody false (c :: ds) >>= fun read => integerIn least greatest wanted read.1 read.2) := by
  have unsigned : c ≠ '-' := by
    rintro rfl
    cases digit
  rw [readInteger, front]
  simp only [digit, if_true]

theorem ofInt_front {i : Int} (signed : -0x8000000000000000 ≤ i) (unsigned : i ≤ greatestUnsigned) (L : Layout)
    (level : Nat) {rest : List Char} (ends : Ends rest) :
    (∃ ds, L.chars level (.ofInt i) ++ rest = '-' :: ds ∧ numberBody true ds = .ok (.int i, rest)) ∨
      ∃ c ds, L.chars level (.ofInt i) ++ rest = c :: ds ∧ c.isDigit = true ∧
        numberBody false (c :: ds) = .ok (.int i, rest) := by
  have fits : i.natAbs ≤ greatestUnsigned := by
    simp only [greatestUnsigned] at unsigned ⊢
    omega
  have whole := wholeNumber_natAbs signed rest
  rw [ofInt_chars]
  split_ifs with negative
  · rw [decide_eq_true negative] at whole
    exact .inl ⟨_, rfl, (numberBody_toDigits true fits ends).trans whole⟩
  · rw [decide_eq_false negative] at whole
    obtain ⟨c, ds, leading, isDigit⟩ := toDigits_first i.natAbs
    have body := (numberBody_toDigits false fits ends).trans whole
    rw [leading, List.cons_append] at body ⊢
    exact .inr ⟨c, _, rfl, isDigit, body⟩

theorem ofInt_starts (L : Layout) (level : Nat) (i : Int) :
    ∃ c cs, L.chars level (.ofInt i) = c :: cs ∧ isBlank c = false ∧ c ≠ ']' ∧ (c = 'n' → Json.ofInt i = .null) := by
  rw [ofInt_chars]
  split_ifs with negative
  · exact ⟨'-', _, rfl, rfl, by decide, fun same => nomatch same⟩
  · obtain ⟨c, cs, leading, isDigit⟩ := toDigits_first i.natAbs
    refine ⟨c, cs, leading, isBlank_of_isDigit isDigit, ?_, ?_⟩
    · rintro rfl
      cases isDigit
    · rintro rfl
      cases isDigit

theorem ReadsBack.integer {n : Nat} {least greatest i : Int} (wanted : String) (above : least ≤ i)
    (below : i ≤ greatest) (signed : -0x8000000000000000 ≤ least) (unsigned : greatest ≤ greatestUnsigned) :
    ReadsBack n (readInteger least greatest wanted) i (.ofInt i) where
  starts L level := ofInt_starts L level i
  reads L level depth cs rest _ ends front := by
    rcases ofInt_front (Int.le_trans signed above) (Int.le_trans below unsigned) L level ends with
      ⟨ds, text, body⟩ | ⟨c, ds, text, isDigit, body⟩
    · rw [text] at front
      simp only [readInteger, front, body, ok_bind, integerIn]
      exact if_pos ⟨above, below⟩
    · rw [text] at front
      rw [readInteger_digit isDigit front, body, ok_bind, integerIn]
      exact if_pos ⟨above, below⟩

theorem ReadsBack.int32 {n : Nat} {i : Int} (fits : IsInt32 i) : ReadsBack n readInt32 i (.ofInt i) :=
  .integer "i32" fits.1 fits.2 (by decide) (by decide)

theorem ReadsBack.int64 {n : Nat} {i : Int} (fits : IsInt64 i) : ReadsBack n readInt64 i (.ofInt i) :=
  .integer "i64" fits.1 fits.2 (by decide) (by decide)

section
variable {α : Type} {n : Nat} {read : Reader α}

theorem ReadsBack.none (read : Reader α) : ReadsBack n (readOption read) none .null where
  starts _ _ := ⟨'n', _, rfl, rfl, by decide, fun _ => rfl⟩
  reads L level depth cs rest _ _ front := by
    have text : L.chars level .null ++ rest = 'n' :: (['u', 'l', 'l'] ++ rest) := rfl
    rw [text] at front
    simp only [readOption, front, expectWord_append, ok_bind]

theorem ReadsBack.some {a : α} {j : Json} (back : ReadsBack n read a j) (there : j ≠ .null) :
    ReadsBack n (readOption read) (some a) j where
  starts := back.starts
  reads L level depth cs rest enough ends front := by
    obtain ⟨c, more, same, _, _, isNull⟩ := back.starts L level
    have inner := back.reads_chars L level enough ends
    rw [same, List.cons_append] at inner
    rw [readOption, front, same, List.cons_append]
    split
    · rename_i first
      exact (there (isNull (List.cons.inj first).1)).elim
    · rw [Reader.map, inner]
      rfl

theorem nextItem_end {first : Bool} {cs rest : List Char} (front : skipBlanks cs = ']' :: rest) :
    nextItem first cs = .ok (false, ']' :: rest) := by
  simp [nextItem, front]

theorem ReadsBack.nextItem_first {a : α} {j : Json} (back : ReadsBack n read a j) (L : Layout) (level : Nat)
    {blanks : List Char} (only : Blanks blanks) (rest : List Char) :
    nextItem true (blanks ++ (L.chars level j ++ rest)) = .ok (true, L.chars level j ++ rest) := by
  obtain ⟨c, cs, same, _, notEnd, _⟩ := back.starts L level
  have front := back.skipBlanks_chars L level only rest
  rw [same, List.cons_append] at front ⊢
  simp [nextItem, front, notEnd]

theorem ReadsBack.nextItem_further {a : α} {j : Json} (back : ReadsBack n read a j) (L : Layout) (level : Nat)
    {blanks : List Char} (only : Blanks blanks) (rest : List Char) :
    nextItem false (',' :: (blanks ++ (L.chars level j ++ rest))) = .ok (true, L.chars level j ++ rest) := by
  obtain ⟨c, cs, same, _, notEnd, _⟩ := back.starts L level
  have front := back.skipBlanks_chars L level only rest
  rw [same, List.cons_append] at front ⊢
  simp [nextItem, skipBlanks_cons (c := ',') rfl, front, notEnd]

theorem readItems_end {item : List Char → Reading (Parsed α)} {fuel : Nat} {first : Bool} {cs rest : List Char}
    (front : skipBlanks cs = ']' :: rest) : readItems item (fuel + 1) first cs = .ok ([], ']' :: rest) := by
  simp only [readItems, nextItem_end front, ok_bind]

theorem readItems_cons {item : List Char → Reading (Parsed α)} {fuel : Nat} {first : Bool} {a : α} {as : List α}
    {cs front rest last : List Char} (next : nextItem first cs = .ok (true, front)) (head : item front = .ok (a, rest))
    (tail : readItems item fuel false rest = .ok (as, last)) :
    readItems item (fuel + 1) first cs = .ok (a :: as, last) := by
  simp only [readItems, next, head, tail, ok_bind]

theorem ends_items (L : Layout) (level : Nat) (js : List Json) (rest : List Char) :
    Ends (L.items level js ++ rest) := by
  cases js with
  | nil =>
    rw [Layout.items, List.append_assoc]
    exact (ends_bracket rest).append (L.newline_blanks level)
  | cons j js => exact ends_comma _

theorem length_lt_items (L : Layout) (level : Nat) (js : List Json) : js.length < (L.items level js).length := by
  induction js with
  | nil => simp [Layout.items]
  | cons j js ih =>
    simp only [Layout.items, List.length_cons, List.length_append]
    omega

theorem readItems_items {as : List α} {js : List Json} (each : List.Forall₂ (ReadsBack n read) as js) (L : Layout)
    (level : Nat) {depth fuel : Nat} (enough : n ≤ depth) (room : js.length < fuel) (rest : List Char) :
    readItems (read depth) fuel false (L.items level js ++ rest) = .ok (as, ']' :: rest) := by
  induction each generalizing fuel with
  | nil =>
    obtain ⟨fuel, rfl⟩ := Nat.exists_eq_add_of_lt room
    rw [Layout.items, List.append_assoc]
    exact readItems_end (skipBlanks_append (L.newline_blanks level) _)
  | @cons a j as js back _ ih =>
    cases fuel with
    | zero => cases room
    | succ fuel =>
      have text : L.items level (j :: js) ++ rest =
          ',' :: (L.newline (level + 1) ++ (L.chars (level + 1) j ++ (L.items level js ++ rest))) := by
        simp [Layout.items]
      rw [text]
      exact readItems_cons (back.nextItem_further L _ (L.newline_blanks _) _)
        (back.reads_chars L _ enough (ends_items L level js rest)) (ih (Nat.lt_of_succ_lt_succ room))

theorem ReadsBack.list {as : List α} {js : List Json} (each : List.Forall₂ (ReadsBack n read) as js) :
    ReadsBack (n + 1) (readList read) as (.array js) where
  starts L level := by
    cases js with
    | nil => exact ⟨'[', _, rfl, rfl, by decide, fun same => nomatch same⟩
    | cons j js => exact ⟨'[', _, rfl, rfl, by decide, fun same => nomatch same⟩
  reads L level depth cs rest enough _ front := by
    obtain ⟨d, rfl⟩ : ∃ d, depth = d + 1 := ⟨depth - 1, by omega⟩
    cases each with
    | nil =>
      have text : L.chars level (.array []) ++ rest = '[' :: ']' :: rest := rfl
      rw [text] at front
      simp [readList, front, openLevel, listBody, readItems_end (skipBlanks_cons (c := ']') rfl rest), endList,
        skipBlanks_cons (c := ']') rfl]
    | @cons a j as js back more =>
      have text : L.chars level (.array (j :: js)) ++ rest =
          '[' :: (L.newline (level + 1) ++ (L.chars (level + 1) j ++ (L.items level js ++ rest))) := by
        simp [Layout.chars]
      have room : js.length <
          (L.newline (level + 1) ++ (L.chars (level + 1) j ++ (L.items level js ++ rest))).length := by
        have := length_lt_items L level js
        simp only [List.length_append]
        omega
      have items := readItems_cons (back.nextItem_first L (level + 1) (L.newline_blanks (level + 1)) _)
        (back.reads_chars L _ (Nat.le_of_succ_le_succ enough) (ends_items L level js rest))
        (readItems_items more L level (Nat.le_of_succ_le_succ enough) room rest)
      rw [text] at front
      simp only [readList, front, openLevel, listBody, items, ok_bind, endList, skipBlanks_cons (c := ']') rfl]

/-- A list whose items are written one by one is read back. -/
theorem ReadsBack.listOf {toJson : α → Json} {as : List α} (each : ∀ a ∈ as, ReadsBack n read a (toJson a)) :
    ReadsBack (n + 1) (readList read) as (.array (as.map toJson)) :=
  .list (List.forall₂_map_right_iff.mpr (List.forall₂_same.mpr each))

end

end SchemaMutation.Json
