import SchemaMutation.Pattern.Scanner

/-!
# What is left of a text and of its closing

A pattern is read in a group, with the characters that close the group behind it. Whatever passes over the front of a
text leaves the same with the closing behind the text, and then the closing (`Rest`): blanks, comments, characters with
a property. There is one exception. A comment that is open at the end of the text passes over the closing as well, so
that nothing is left of both (`Rest.dropComment`).
-/

namespace SchemaMutation.Pattern

/-- What closes the group around a pattern. -/
def closing : List Char := [')', '$']

/-- What is left of a text, and what is left with the closing behind the text: the same with the closing behind it,
    or nothing at all behind a comment that does not end. -/
inductive Rest : List Char → List Char → Prop where
  | behind (y : List Char) : Rest y (y ++ closing)
  | swallowed : Rest [] []

/-- What is left of the closing once its parenthesis is taken. -/
def Beyond (z : List Char) : Prop := z = ['$'] ∨ z = []

variable {x y z w : List Char} {c : Char} {ignore : Bool}

theorem Rest.cons (rest : Rest (c :: y) z) : ∃ w, z = c :: w ∧ Rest y w := by
  cases rest
  exact ⟨y ++ closing, rfl, .behind y⟩

theorem Rest.of_cons (rest : Rest y (c :: w)) (other : c ≠ ')') : ∃ x, y = c :: x ∧ Rest x w := by
  generalize eq : c :: w = z at rest
  cases rest with
  | behind =>
    cases y with
    | nil => exact absurd (List.cons.inj eq).1 other
    | cons d x =>
      obtain ⟨rfl, rfl⟩ := List.cons.inj eq
      exact ⟨x, rfl, .behind x⟩
  | swallowed => cases eq

theorem Rest.head_cases (c : Char) (other : c ≠ ')') (rest : Rest y z) :
    (∃ y' z', y = c :: y' ∧ z = c :: z' ∧ Rest y' z') ∨ (∀ y', y ≠ c :: y') ∧ ∀ z', z ≠ c :: z' := by
  by_cases head : ∃ y', y = c :: y'
  · obtain ⟨y', rfl⟩ := head
    obtain ⟨z', rfl, behind⟩ := rest.cons
    exact .inl ⟨y', z', rfl, rfl, behind⟩
  · refine .inr ⟨fun y' eq => head ⟨y', eq⟩, ?_⟩
    rintro z' rfl
    obtain ⟨y', eq, -⟩ := rest.of_cons other
    exact head ⟨y', eq⟩

theorem Rest.of_nil (rest : Rest [] z) : z = closing ∨ z = [] := by
  generalize eq : ([] : List Char) = y at rest
  cases rest with
  | behind =>
    subst eq
    exact .inl rfl
  | swallowed => exact .inr rfl

theorem Rest.length_le (rest : Rest y z) : z.length ≤ y.length + 2 := by
  cases rest with
  | behind => rw [List.length_append]; exact Nat.le_refl _
  | swallowed => exact Nat.zero_le _

theorem Rest.length_eq (rest : Rest y z) (full : y ≠ []) : z.length = y.length + 2 := by
  cases rest with
  | behind => rw [List.length_append]; rfl
  | swallowed => exact absurd rfl full

/-- The table of blanks is in order, so that nothing is moved when its ranges are sorted and joined. -/
theorem whiteSpace_ranges : Text.whiteSpace.ranges =
    [(9, 13), (32, 32), (133, 133), (160, 160), (5760, 5760), (8192, 8202), (8232, 8233), (8239, 8239), (8287, 8287),
      (12288, 12288)] := by
  have table : ["whitespace"].flatMap
      (fun n => ((Text.NamedSets.find? Text.propertyTable n).getD Text.RangeSet.empty).ranges) =
      [(9, 13), (32, 32), (133, 133), (160, 160), (5760, 5760), (8192, 8202), (8232, 8233), (8239, 8239),
        (8287, 8287), (12288, 12288)] := by decide +kernel
  rw [Text.whiteSpace, Text.withProperty, Text.NamedSets.union, table, Text.RangeSet.ofRanges,
    List.mergeSort_of_pairwise (by decide)]
  rfl

theorem isBlank_eq_false {c : Char} (plain : 32 < c.toNat) (ascii : c.toNat < 128) : isBlank c = false := by
  rw [isBlank, Text.RangeSet.hasChar, Text.RangeSet.contains, whiteSpace_ranges]
  simp only [List.any_cons, List.any_nil, Bool.or_eq_false_iff, decide_eq_false_iff_not, and_true]
  refine ⟨?_, ?_, ?_, ?_, ?_, ?_, ?_, ?_, ?_, ?_⟩ <;> omega

theorem isBlank_paren : isBlank ')' = false := isBlank_eq_false (by decide) (by decide)

theorem Rest.dropWhile {p : Char → Bool} (stops : p ')' = false) (rest : Rest x z) :
    Rest (x.dropWhile p) (z.dropWhile p) := by
  cases rest with
  | behind =>
    rw [List.dropWhile_append]
    split
    · next empty =>
      have all : closing.dropWhile p = closing := by simp [closing, stops]
      rw [List.isEmpty_iff.mp empty, all]
      exact .behind []
    · exact .behind _
  | swallowed => exact .swallowed

/-- A comment that does not end goes on to the end of the text. -/
theorem Rest.dropComment (rest : Rest x z) : Rest (dropComment x) (dropComment z) := by
  cases rest with
  | behind =>
    rw [Pattern.dropComment, Pattern.dropComment, List.dropWhile_append]
    split
    · next empty =>
      rw [List.isEmpty_iff.mp empty]
      exact .swallowed
    · next ends =>
      cases eq : x.dropWhile (· != '\n') with
      | nil => exact absurd (List.isEmpty_iff.mpr eq) ends
      | cons c y => exact .behind y
  | swallowed => exact .swallowed

theorem dropComment_length_le (x : List Char) : (dropComment x).length ≤ x.length := by
  have := (List.dropWhile_suffix (· != '\n') : x.dropWhile (· != '\n') <:+ x).length_le
  rw [dropComment, List.length_drop]
  omega

theorem Rest.dropIgnored {fuel fuel' : Nat} (enough : x.length < fuel) (enough' : z.length < fuel') (rest : Rest x z) :
    Rest (dropIgnored fuel x) (dropIgnored fuel' z) := by
  induction fuel generalizing fuel' x z with
  | zero => omega
  | succ fuel ih =>
    obtain ⟨fuel', rfl⟩ : ∃ n, fuel' = n + 1 := ⟨fuel' - 1, by omega⟩
    have shorter := (List.dropWhile_suffix isBlank : x.dropWhile isBlank <:+ x).length_le
    have shorter' := (List.dropWhile_suffix isBlank : z.dropWhile isBlank <:+ z).length_le
    have seen := rest.dropWhile isBlank_paren
    rw [Pattern.dropIgnored, Pattern.dropIgnored]
    split
    · next y eq =>
      rw [eq] at seen shorter
      obtain ⟨w, eq', behind⟩ := seen.cons
      rw [eq'] at shorter' ⊢
      have := dropComment_length_le y
      have := dropComment_length_le w
      rw [List.length_cons] at shorter shorter'
      exact ih (by omega) (by omega) behind.dropComment
    · next no_comment =>
      split
      · next w eq' =>
        rw [eq'] at seen
        obtain ⟨y, eq, -⟩ := seen.of_cons (by decide)
        exact absurd eq (no_comment y)
      · exact seen

theorem dropIgnored_length_le (fuel : Nat) (x : List Char) : (dropIgnored fuel x).length ≤ x.length := by
  induction fuel generalizing x with
  | zero => exact Nat.le_refl _
  | succ fuel ih =>
    have shorter := (List.dropWhile_suffix isBlank : x.dropWhile isBlank <:+ x).length_le
    rw [dropIgnored]
    split
    · next y eq =>
      rw [eq, List.length_cons] at shorter
      have := ih (dropComment y)
      have := dropComment_length_le y
      omega
    · exact shorter

theorem Rest.blanks (ignore : Bool) (rest : Rest x z) : Rest (blanks ignore x) (blanks ignore z) := by
  cases ignore with
  | false => exact rest
  | true => exact rest.dropIgnored (Nat.lt_succ_self _) (Nat.lt_succ_self _)

theorem blanks_length_le (ignore : Bool) (x : List Char) : (blanks ignore x).length ≤ x.length := by
  cases ignore with
  | false => exact Nat.le_refl _
  | true => exact dropIgnored_length_le _ x

theorem blanks_cons (counts : isBlank c = false) (no_comment : c ≠ '#') : blanks ignore (c :: x) = c :: x := by
  cases ignore with
  | false => rfl
  | true =>
    simp only [blanks, if_true, dropIgnored, List.dropWhile_cons, counts, Bool.false_eq_true, if_false]
    split
    · next eq => exact absurd (List.cons.inj eq).1 no_comment
    · rfl

@[simp] theorem blanks_nil : blanks ignore [] = [] := by
  cases ignore <;> rfl

@[simp] theorem blanks_closing : blanks ignore closing = closing := blanks_cons isBlank_paren (by decide)

@[simp] theorem blanks_dollar : blanks ignore ['$'] = ['$'] :=
  blanks_cons (isBlank_eq_false (by decide) (by decide)) (by decide)

theorem takeCounted_nil (ignore : Bool) (p : Char → Bool) (fuel : Nat) : takeCounted ignore p fuel [] = ([], []) := by
  cases fuel <;> rfl

theorem takeCounted_cons {p : Char → Bool} {fuel : Nat} (taken : p c = true) :
    takeCounted ignore p (fuel + 1) (c :: x) =
      (c :: (takeCounted ignore p fuel (blanks ignore x)).1, (takeCounted ignore p fuel (blanks ignore x)).2) := by
  rw [takeCounted, if_pos taken]

theorem takeCounted_stop {p : Char → Bool} {fuel : Nat} (stops : p c = false) :
    takeCounted ignore p (fuel + 1) (c :: x) = ([], c :: x) := by
  rw [takeCounted, if_neg (by simp [stops])]

theorem takeCounted_end (ignore : Bool) (p : Char → Bool) {fuel : Nat} (enough : z.length ≤ fuel) (rest : Rest [] z) :
    (takeCounted ignore p fuel z = ([], z)) ∨
      p ')' = true ∧ ∃ ds w, takeCounted ignore p fuel z = (ds, w) ∧ Beyond w := by
  rcases rest.of_nil with rfl | rfl
  · have enough : 2 ≤ fuel := enough
    obtain ⟨fuel, rfl⟩ : ∃ n, fuel = n + 2 := ⟨fuel - 2, by omega⟩
    cases paren : p ')' with
    | false => exact .inl (takeCounted_stop paren)
    | true =>
      refine .inr ⟨rfl, ?_⟩
      rw [closing, takeCounted_cons paren, blanks_dollar]
      cases dollar : p '$' with
      | false => exact ⟨_, _, rfl, .inl (by rw [takeCounted_stop dollar])⟩
      | true => exact ⟨_, _, rfl, .inr (by rw [takeCounted_cons dollar, blanks_nil, takeCounted_nil])⟩
  · exact .inl (takeCounted_nil ignore p fuel)

/-- The same characters are taken from a text with the closing behind it, unless they go on into the closing. -/
theorem takeCounted_keeps (ignore : Bool) (p : Char → Bool) {fuel fuel' : Nat} (enough : x.length ≤ fuel)
    (enough' : z.length ≤ fuel') (rest : Rest x z) :
    (∃ ds y w, takeCounted ignore p fuel x = (ds, y) ∧ takeCounted ignore p fuel' z = (ds, w) ∧
      y.length ≤ x.length ∧ Rest y w) ∨
    p ')' = true ∧ ∃ ds ds' w, takeCounted ignore p fuel x = (ds, []) ∧ takeCounted ignore p fuel' z = (ds', w) ∧
      Beyond w := by
  -- On the fuel, not on the text: the blanks behind a character are passed over at once.
  induction fuel generalizing fuel' x z with
  | zero =>
    cases List.length_eq_zero_iff.mp (Nat.le_zero.mp enough)
    rcases takeCounted_end ignore p enough' rest with stops | ⟨taken, ds, w, eq, beyond⟩
    · exact .inl ⟨[], [], z, rfl, stops, Nat.le_refl _, rest⟩
    · exact .inr ⟨taken, [], ds, w, rfl, eq, beyond⟩
  | succ fuel ih =>
    cases x with
    | nil =>
      rcases takeCounted_end ignore p enough' rest with stops | ⟨taken, ds, w, eq, beyond⟩
      · exact .inl ⟨[], [], z, rfl, stops, Nat.le_refl _, rest⟩
      · exact .inr ⟨taken, [], ds, w, rfl, eq, beyond⟩
    | cons c x =>
      obtain ⟨w, rfl, behind⟩ := rest.cons
      obtain ⟨fuel', rfl⟩ : ∃ n, fuel' = n + 1 := ⟨fuel' - 1, by rw [List.length_cons] at enough'; omega⟩
      rw [List.length_cons] at enough enough'
      cases taken : p c with
      | false =>
        rw [takeCounted_stop taken, takeCounted_stop taken]
        exact .inl ⟨[], c :: x, c :: w, rfl, rfl, Nat.le_refl _, rest⟩
      | true =>
        have short := blanks_length_le ignore x
        have short' := blanks_length_le ignore w
        rw [takeCounted_cons taken, takeCounted_cons taken]
        rcases @ih (blanks ignore x) (blanks ignore w) fuel' (by omega) (by omega) (behind.blanks ignore) with
          ⟨ds, y, v, eq, eq', shorter, further⟩ | ⟨paren, ds, ds', v, eq, eq', beyond⟩
        · rw [eq, eq']
          exact .inl ⟨c :: ds, y, v, rfl, rfl, by rw [List.length_cons]; omega, further⟩
        · rw [eq, eq']
          exact .inr ⟨paren, c :: ds, c :: ds', v, rfl, rfl, beyond⟩

theorem takeChars_keeps (ignore : Bool) {p : Char → Bool} (stops : p ')' = false) (rest : Rest x z) :
    ∃ ds y w, takeChars ignore p x = (ds, y) ∧ takeChars ignore p z = (ds, w) ∧ y.length ≤ x.length ∧ Rest y w := by
  rcases takeCounted_keeps ignore p (Nat.le_refl x.length) (Nat.le_refl z.length) rest with kept | ⟨taken, -⟩
  · exact kept
  · rw [stops] at taken
    cases taken

theorem Rest.cut (d : Char) (strange : d ∉ closing) (rest : Rest x z) :
    (∃ y w, z.takeWhile (· != d) = x.takeWhile (· != d) ∧ x.drop (x.takeWhile (· != d)).length = d :: y ∧
      z.drop (x.takeWhile (· != d)).length = d :: w ∧ Rest y w ∧ y.length < x.length) ∨
    x.drop (x.takeWhile (· != d)).length = [] ∧ z.drop (z.takeWhile (· != d)).length = [] := by
  induction x generalizing z with
  | nil =>
    rcases rest.of_nil with rfl | rfl
    · have paren : ')' ≠ d := fun same => strange (same ▸ .head _)
      have dollar : '$' ≠ d := fun same => strange (same ▸ .tail _ (.head _))
      have all : closing.takeWhile (· != d) = closing := by simp [closing, paren, dollar]
      exact .inr ⟨rfl, by rw [all, List.drop_length]⟩
    · exact .inr ⟨rfl, rfl⟩
  | cons c x ih =>
    obtain ⟨w, rfl, behind⟩ := rest.cons
    by_cases here : c = d
    · subst here
      have stop (t : List Char) : (c :: t).takeWhile (· != c) = [] := by simp
      rw [stop, stop]
      exact .inl ⟨x, w, rfl, rfl, rfl, behind, Nat.lt_succ_self _⟩
    · have go (t : List Char) : (c :: t).takeWhile (· != d) = c :: t.takeWhile (· != d) := by simp [here]
      rw [go, go]
      rcases ih behind with ⟨y, v, same, eq, eq', further, short⟩ | ⟨eq, eq'⟩
      · exact .inl ⟨y, v, by rw [same], eq, eq', further, Nat.lt_succ_of_lt short⟩
      · exact .inr ⟨eq, eq'⟩

end SchemaMutation.Pattern
