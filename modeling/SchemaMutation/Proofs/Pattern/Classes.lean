import SchemaMutation.Pattern.Parser
import SchemaMutation.Proofs.Pattern.Parts

/-!
# Classes in brackets with the closing behind them

No character of the closing is a bracket, so that a class that is open at the end of a text stays open with the closing
behind it (`scanClass_keeps`). The parts of a class may well be completed by the closing; what is left is then an end
of the closing, from which no class is read to its end (`scanClassItems_tail`).
-/

namespace SchemaMutation.Pattern

def Tail (z : List Char) : Prop := z = closing ∨ Beyond z

variable {x y z w : List Char} {c d : Char} {ignore : Bool}

theorem scanHyphens_keeps (ignore : Bool) (level : ClassLevel) {fuel fuel' : Nat} (enough : x.length < fuel)
    (enough' : z.length < fuel') (rest : Rest x z) :
    Keeps (fun _ z => z = closing) x.length (scanHyphens ignore fuel level x) (scanHyphens ignore fuel' level z) := by
  induction fuel generalizing fuel' level x z with
  | zero => omega
  | succ fuel ih =>
    obtain ⟨fuel', rfl⟩ : ∃ n, fuel' = n + 1 := ⟨fuel' - 1, by omega⟩
    cases x with
    | nil =>
      rcases rest.of_nil with rfl | rfl
      · exact .late rfl
      · exact .neither
    | cons c y =>
      obtain ⟨w, rfl, behind⟩ := rest.cons
      have short := blanks_length_le ignore y
      have short' := blanks_length_le ignore w
      rw [List.length_cons] at enough enough'
      simp only [scanHyphens]
      split
      · exact (ih _ (by omega) (by omega) (behind.blanks ignore)).weaken (by rw [List.length_cons]; omega)
      · exact .same (Nat.le_refl _) rest

theorem scanSign_keeps (ignore : Bool) (rest : Rest x z) :
    ∃ negated y w, scanSign ignore x = (negated, y) ∧ scanSign ignore z = (negated, w) ∧ y.length ≤ x.length ∧
      Rest y w := by
  have short := blanks_length_le ignore x
  have seen := rest.blanks ignore
  rcases seen.head_cases '^' (by decide) with ⟨y, w, eq, eq', behind⟩ | ⟨plain, plain'⟩
  · have := blanks_length_le ignore y
    rw [eq, List.length_cons] at short
    simp only [scanSign, eq, eq']
    exact ⟨true, _, _, rfl, rfl, by omega, behind.blanks ignore⟩
  · simp only [scanSign]
    exact ⟨false, _, _, rfl, rfl, short, seen⟩

theorem openClass_keeps (ignore : Bool) (rest : Rest x z) :
    Keeps (fun _ z => z = closing) x.length (openClass ignore x) (openClass ignore z) := by
  obtain ⟨negated, y, w, eq, eq', short, behind⟩ := scanSign_keeps ignore rest
  have no_bracket : ¬ ')' = ']' := by decide
  simp only [openClass, eq, eq']
  refine (scanHyphens_keeps ignore .start (Nat.lt_succ_self _) (Nat.lt_succ_self _) behind).bind ?_ ?_
  · intro level u v shorter further
    cases u with
    | nil =>
      rcases further.of_nil with rfl | rfl
      · simp only [closing, no_bracket, and_false, if_false]
        exact .late rfl
      · exact .neither
    | cons c u =>
      obtain ⟨v, rfl, furthest⟩ := further.cons
      rw [List.length_cons] at shorter
      simp only
      split
      · have shortest := blanks_length_le ignore u
        have seen := furthest.blanks ignore
        cases eq : blanks ignore u with
        | nil =>
          rw [eq] at seen
          rcases seen.of_nil with eq' | eq'
          · rw [eq']
            exact .late rfl
          · rw [eq']
            exact .neither
        | cons c more =>
          rw [eq] at seen shortest
          obtain ⟨more', eq', -⟩ := seen.cons
          rw [eq'] at seen ⊢
          exact .same (by omega) seen
      · exact .same (by rw [List.length_cons]; omega) further
  · rintro level z rfl
    simp only [closing, no_bracket, and_false, if_false]
    exact .late rfl

theorem scanAsciiName_keeps (negated : Bool) (rest : Rest x z) :
    Keeps never x.length (scanAsciiName negated x) (scanAsciiName negated z) := by
  rcases rest.cut ':' (by decide) with ⟨y, w, same, eq, eq', behind, short⟩ | ⟨eq, eq'⟩
  · rcases behind.head_cases ']' (by decide) with ⟨u, v, rfl, rfl, further⟩ | ⟨no_bracket, no_bracket'⟩
    · rw [List.length_cons] at short
      simp only [scanAsciiName, eq, eq', same]
      cases asciiClassOf? (String.ofList (x.takeWhile (· != ':'))) with
      | none => exact .neither
      | some cls => exact .same (by omega) further
    · have unclosed {cs more : List Char} (eq : cs.drop (cs.takeWhile (· != ':')).length = ':' :: more)
          (no_bracket : ∀ y, more ≠ ']' :: y) : scanAsciiName negated cs = none := by
        simp only [scanAsciiName, eq]
        split
        · next eq => exact absurd (List.cons.inj eq).2 (no_bracket _)
        · rfl
      rw [unclosed eq no_bracket, unclosed (same ▸ eq') no_bracket']
      exact .neither
  · simp only [scanAsciiName, eq, eq']
    exact .neither

theorem scanAsciiClass_keeps (rest : Rest x z) : Keeps never x.length (scanAsciiClass x) (scanAsciiClass z) := by
  rcases rest.head_cases ':' (by decide) with ⟨y, w, rfl, rfl, behind⟩ | ⟨no_colon, no_colon'⟩
  · rw [List.length_cons]
    rcases behind.head_cases '^' (by decide) with ⟨u, v, rfl, rfl, further⟩ | ⟨plain, plain'⟩
    · exact (scanAsciiName_keeps true further).weaken (by rw [List.length_cons]; omega)
    · simp only [scanAsciiClass]
      exact (scanAsciiName_keeps false behind).weaken (Nat.le_succ _)
  · simp only [scanAsciiClass]
    exact .neither

theorem scanClassPrimitive_keeps (ignore : Bool) (rest : Rest x z) :
    Keeps (LateEscape ignore) (x.length - 1) (scanClassPrimitive ignore x) (scanClassPrimitive ignore z) := by
  cases x with
  | nil =>
    rcases rest.of_nil with rfl | rfl
    · exact .late (.inl (.inl rfl))
    · exact .neither
  | cons c y =>
    obtain ⟨w, rfl, behind⟩ := rest.cons
    rw [List.length_cons, Nat.add_sub_cancel]
    by_cases escape : c = '\\'
    · subst escape
      exact (scanEscape_keeps ignore behind).weaken (Nat.sub_le _ _)
    · simp only [scanClassPrimitive]
      exact .same (Nat.le_refl _) behind

/-- What stands behind a hyphen is a bracket or a hyphen also with the closing behind it, and only then. -/
theorem peekPast_iff (ignore : Bool) (rest : Rest y w) (counts : isBlank d = false) (no_comment : d ≠ '#')
    (strange : d ∉ closing) : peekPast ignore (c :: y) = some d ↔ peekPast ignore (c :: w) = some d := by
  have head {u v : List Char} (rest : Rest u v) : u.head? = some d ↔ v.head? = some d := by
    rcases rest.head_cases d (fun same => strange (same ▸ .head _)) with ⟨u, v, rfl, rfl, -⟩ | ⟨other, other'⟩
    · simp
    · simp [List.head?_eq_some_iff, other, other']
  cases ignore with
  | false => exact head rest
  | true =>
    -- a character that counts is seen where it stands
    have kept {u : List Char} (first : u.head? = some d) : u.dropWhile isBlank = u := by
      obtain ⟨t, rfl⟩ := List.head?_eq_some_iff.mp first
      simp [counts]
    have seen := rest.dropWhile isBlank_paren
    rcases seen.head_cases '#' (by decide) with ⟨u, v, eq, eq', behind⟩ | ⟨plain, plain'⟩
    · have past {y u : List Char} (eq : y.dropWhile isBlank = '#' :: u) :
          peekPast true (c :: y) = some d ↔ (u.dropWhile isBlank).head? = some d := by
        have not_first : y.head? ≠ some d := by
          intro first
          rw [← kept first, eq, List.head?_cons, Option.some.injEq] at first
          exact no_comment first.symm
        simp [peekPast, eq, Option.or_eq_some_iff, not_first]
      rw [past eq, past eq']
      exact head (behind.dropWhile isBlank_paren)
    · have past {y : List Char} (plain : ∀ u, y.dropWhile isBlank ≠ '#' :: u) :
          peekPast true (c :: y) = some d ↔ (y.dropWhile isBlank).head? = some d := by
        simp only [peekPast, List.drop_succ_cons, List.drop_zero, Bool.not_true, Bool.false_eq_true, if_false]
        rw [Option.or_eq_some_iff]
        constructor
        · rintro (here | ⟨-, first⟩)
          · exact here
          · rw [kept first]
            exact first
        · exact .inl
      rw [past plain, past plain']
      exact head seen

theorem scanRangeEnd_keeps (ignore : Bool) (first : Primitive) (rest : Rest x z) :
    Keeps (fun _ z => Tail z) x.length (scanRangeEnd ignore first x) (scanRangeEnd ignore first z) := by
  have short := blanks_length_le ignore x
  refine (scanClassPrimitive_keeps ignore (rest.blanks ignore)).bind ?_ ?_
  · intro last y w shorter behind
    simp only
    cases first.toLiteral? with
    | none => exact .neither
    | some a =>
      cases last.toLiteral? with
      | none => exact .neither
      | some b =>
        simp only [Option.bind_eq_bind, Option.bind_some]
        split
        · exact .same (by omega) behind
        · exact .neither
  · rintro last z (beyond | ⟨rfl, w, rfl, eq⟩)
    · simp only
      cases first.toLiteral? with
      | none => exact .neither
      | some a =>
        cases last.toLiteral? with
        | none => exact .neither
        | some b =>
          simp only [Option.bind_eq_bind, Option.bind_some]
          split
          · exact .late (.inr beyond)
          · exact .neither
    · cases first.toLiteral? <;> exact .neither

theorem scanItemRest_plain (ignore : Bool) (first : Primitive) (eq : blanks ignore x = c :: y) (plain : c ≠ '-') :
    scanItemRest ignore first x = first.toClassSet?.map (·, c :: y) := by
  simp only [scanItemRest, eq]
  rw [if_pos (.inl plain)]

theorem scanItemRest_keeps (ignore : Bool) (first : Primitive) (rest : Rest x z) :
    Keeps (fun _ z => Tail z) x.length (scanItemRest ignore first x) (scanItemRest ignore first z) := by
  have short := blanks_length_le ignore x
  have seen := rest.blanks ignore
  cases eq : blanks ignore x with
  | nil =>
    rw [eq] at seen
    rcases seen.of_nil with eq' | eq'
    · rw [scanItemRest_plain ignore first eq' (by decide)]
      simp only [scanItemRest, eq]
      cases first.toClassSet? with
      | none => exact .neither
      | some set => exact .late (.inl rfl)
    · simp only [scanItemRest, eq, eq']
      exact .neither
  | cons c y =>
    rw [eq] at seen short
    obtain ⟨w, eq', behind⟩ := seen.cons
    rw [eq'] at seen
    rw [List.length_cons] at short
    have next (d : Char) (counts : isBlank d = false) (no_comment : d ≠ '#') (strange : d ∉ closing) :=
      peekPast_iff (c := c) ignore behind counts no_comment strange
    have bracket := next ']' (isBlank_eq_false (by decide) (by decide)) (by decide) (by decide)
    have hyphen := next '-' (isBlank_eq_false (by decide) (by decide)) (by decide) (by decide)
    simp only [scanItemRest, eq, eq', bracket, hyphen]
    split
    · cases first.toClassSet? with
      | none => exact .neither
      | some set => exact .same (by rw [List.length_cons]; omega) seen
    · exact (scanRangeEnd_keeps ignore first behind).weaken (by omega)

theorem scanClassItem_keeps (ignore : Bool) (rest : Rest x z) :
    Keeps (fun _ z => Tail z) (x.length - 1) (scanClassItem ignore x) (scanClassItem ignore z) := by
  refine (scanClassPrimitive_keeps ignore rest).bind ?_ ?_
  · intro first y w short behind
    exact (scanItemRest_keeps ignore first behind).weaken short
  · rintro first z ((rfl | rfl) | ⟨rfl, w, rfl, eq⟩)
    · simp only
      rw [scanItemRest_plain ignore first blanks_dollar (by decide)]
      cases first.toClassSet? with
      | none => exact .neither
      | some set => exact .late (.inr (.inl rfl))
    · simp only [scanItemRest, blanks_nil]
      exact .neither
    · have brace : blanks ignore ('\x7b' :: w) = '\x7b' :: w :=
        blanks_cons (isBlank_eq_false (by decide) (by decide)) (by decide)
      simp only
      rw [scanItemRest_plain ignore _ brace (by decide)]
      exact .neither

theorem scanClassOp_keeps (rest : Rest x z) : Keeps never (x.length - 1) (scanClassOp x) (scanClassOp z) := by
  cases x with
  | nil => rcases rest.of_nil with rfl | rfl <;> exact .neither
  | cons c y =>
    obtain ⟨w, rfl, behind⟩ := rest.cons
    cases y with
    | nil =>
      rcases behind.of_nil with rfl | rfl
      · by_cases paren : c = ')'
        · subst paren
          exact .neither
        · simp only [scanClassOp, closing, paren, if_false]
          exact .neither
      · exact .neither
    | cons d y =>
      obtain ⟨w, rfl, further⟩ := behind.cons
      simp only [scanClassOp]
      split
      · cases classOpOf? c with
        | none => exact .neither
        | some op => exact .same (by rw [List.length_cons, List.length_cons]; omega) further
      · exact .neither

/-- No class is read to its end from an end of the closing. -/
theorem scanClassItems_tail (ignore : Bool) (fuel : Nat) (stack : List ClassFrame) (negated : Bool)
    (level : ClassLevel) (tail : Tail z) : scanClassItems ignore fuel stack negated level z = none := by
  have nothing (fuel : Nat) (level : ClassLevel) : scanClassItems ignore fuel stack negated level [] = none := by
    cases fuel with
    | zero => rfl
    | succ fuel => simp only [scanClassItems, blanks_nil]
  have dollar (fuel : Nat) (level : ClassLevel) : scanClassItems ignore fuel stack negated level ['$'] = none := by
    cases fuel with
    | zero => rfl
    | succ fuel => simp [scanClassItems, scanClassOp, scanClassItem, scanClassPrimitive, scanItemRest]
  rcases tail with rfl | rfl | rfl
  · cases fuel with
    | zero => rfl
    | succ fuel =>
      have item : scanClassItem ignore closing = some (.literal ⟨')', false⟩, ['$']) := by
        simp [scanClassItem, scanClassPrimitive, scanItemRest, closing, Primitive.toClassSet?]
      have step : scanClassItems ignore (fuel + 1) stack negated level closing =
          (scanClassItem ignore closing).bind fun read =>
            scanClassItems ignore fuel stack negated (level.push read.1) read.2 := by
        rw [scanClassItems, blanks_closing]
        rfl
      rw [step, item]
      exact dollar fuel _
  · exact dollar fuel level
  · exact nothing fuel level

theorem scanClassItems_keeps (ignore : Bool) {fuel fuel' : Nat} (stack : List ClassFrame) (negated : Bool)
    (level : ClassLevel) (enough : x.length < fuel) (enough' : z.length < fuel') (rest : Rest x z) :
    Keeps never x.length (scanClassItems ignore fuel stack negated level x)
      (scanClassItems ignore fuel' stack negated level z) := by
  induction fuel generalizing fuel' stack negated level x z with
  | zero => omega
  | succ fuel ih =>
    obtain ⟨fuel', rfl⟩ : ∃ n, fuel' = n + 1 := ⟨fuel' - 1, by omega⟩
    have short := blanks_length_le ignore x
    have seen := rest.blanks ignore
    cases eq : blanks ignore x with
    | nil =>
      have blank {y z : List Char} (same : blanks ignore y = blanks ignore z) (fuel : Nat) :
          scanClassItems ignore (fuel + 1) stack negated level y =
            scanClassItems ignore (fuel + 1) stack negated level z := by
        simp only [scanClassItems, same]
      have unread : scanClassItems ignore (fuel' + 1) stack negated level z = none := by
        rw [eq] at seen
        rcases seen.of_nil with eq' | eq'
        · rw [blank (eq'.trans blanks_closing.symm) fuel']
          exact scanClassItems_tail ignore _ stack negated level (.inl rfl)
        · rw [blank (eq'.trans blanks_nil.symm) fuel']
          exact scanClassItems_tail ignore _ stack negated level (.inr (.inr rfl))
      rw [unread]
      simp only [scanClassItems, eq]
      exact .neither
    | cons c y =>
      rw [eq] at seen short
      obtain ⟨w, eq', behind⟩ := seen.cons
      rw [List.length_cons] at short
      have long : z.length = x.length + 2 := rest.length_eq fun empty => by simp [empty] at eq
      -- whatever is left of the class is shorter, with the closing and without it
      have go {stack : List ClassFrame} {negated : Bool} {level : ClassLevel} {u v : List Char}
          (shorter : u.length ≤ y.length) (further : Rest u v) :
          Keeps never x.length (scanClassItems ignore fuel stack negated level u)
            (scanClassItems ignore fuel' stack negated level v) := by
        have := further.length_le
        exact (ih stack negated level (by omega) (by omega) further).weaken (by omega)
      rw [eq'] at seen
      rcases seen.head_cases '[' (by decide) with ⟨_, _, opening, -, -⟩ | ⟨no_opening, no_opening'⟩
      · obtain ⟨rfl, rfl⟩ := List.cons.inj opening
        simp only [scanClassItems, eq, eq']
        have named := scanAsciiClass_keeps behind
        generalize scanAsciiClass y = o at named
        generalize scanAsciiClass w = o' at named
        cases named with
        | same shorter further => exact go shorter further
        | late known => exact known.elim
        | neither =>
          refine (openClass_keeps ignore behind).bind ?_ ?_
          · rintro ⟨inner, start⟩ u v shorter further
            exact go shorter further
          · rintro ⟨inner, start⟩ z rfl
            simp only
            rw [scanClassItems_tail ignore _ _ _ _ (.inl rfl)]
            exact .neither
      rcases seen.head_cases ']' (by decide) with ⟨_, _, ending, -, -⟩ | ⟨no_ending, no_ending'⟩
      · obtain ⟨rfl, rfl⟩ := List.cons.inj ending
        simp only [scanClassItems, eq, eq']
        cases stack with
        | nil => exact .same (by omega) behind
        | cons frame stack => exact go (Nat.le_refl _) behind
      simp only [scanClassItems, eq, eq']
      have operator := scanClassOp_keeps seen
      generalize scanClassOp (c :: y) = o at operator
      generalize scanClassOp (c :: w) = o' at operator
      cases operator with
      | same shorter further => exact go shorter further
      | late known => exact known.elim
      | neither =>
        refine (scanClassItem_keeps ignore seen).bind ?_ ?_
        · intro set u v shorter further
          exact go shorter further
        · intro set z tail
          simp only
          rw [scanClassItems_tail ignore _ _ _ _ tail]
          exact .neither

theorem scanClass_keeps (ignore : Bool) (rest : Rest x z) :
    Keeps never x.length (scanClass ignore x) (scanClass ignore z) := by
  refine (openClass_keeps ignore rest).bind ?_ ?_
  · rintro ⟨negated, level⟩ y w short behind
    exact ((scanClassItems_keeps ignore [] negated level (Nat.lt_succ_self _) (Nat.lt_succ_self _) behind).map
      (fun _ _ => rfl) (fun _ _ => rfl) nofun).weaken short
  · rintro ⟨negated, level⟩ z rfl
    simp only
    rw [scanClassItems_tail ignore _ [] negated level (.inl rfl)]
    exact .neither

end SchemaMutation.Pattern
