import SchemaMutation.Proofs.Pattern.Rests

/-!
# Parts of a pattern with the closing behind them

Each part of a pattern is read twice, from the front of a text and from the front of the same text with the closing
behind it. What a part takes from the text is the same (`Keeps`). A part that is cut off at the end of the text may be
completed by the closing; it is `late` then, and what is left is known: an escape or flags take the parenthesis
(`LateEscape`, `LateOpening`), and bounds and names are never completed.
-/

namespace SchemaMutation.Pattern

open Text (Parsed)

/-- What is read of a text, and what is read with the closing behind it. If something is read of the text, at most
    `bound` characters are left and the same is read with the closing. Otherwise whatever is read is `late`. -/
inductive Keeps {α : Type} (late : α → List Char → Prop) (bound : Nat) :
    Option (Parsed α) → Option (Parsed α) → Prop where
  | same {a : α} {y z : List Char} (short : y.length ≤ bound) (rest : Rest y z) :
      Keeps late bound (some (a, y)) (some (a, z))
  | late {a : α} {z : List Char} (known : late a z) : Keeps late bound none (some (a, z))
  | neither : Keeps late bound none none

/-- A part that the closing never completes. -/
def never {α : Type} (_ : α) (_ : List Char) : Prop := False

variable {α β : Type} {late : α → List Char → Prop} {late' : β → List Char → Prop} {bound bound' : Nat}
  {o o' : Option (Parsed α)} {x y z w : List Char} {ignore : Bool}

theorem Keeps.weaken (kept : Keeps late bound o o') (le : bound ≤ bound') : Keeps late bound' o o' := by
  cases kept with
  | same short rest => exact .same (Nat.le_trans short le) rest
  | late known => exact .late known
  | neither => exact .neither

theorem Keeps.imp {later : α → List Char → Prop} (kept : Keeps late bound o o')
    (known : ∀ a z, late a z → later a z) : Keeps later bound o o' := by
  cases kept with
  | same short rest => exact .same short rest
  | late is => exact .late (known _ _ is)
  | neither => exact .neither

theorem Keeps.bind {f g : Parsed α → Option (Parsed β)} (first : Keeps late bound o o')
    (next : ∀ a y z, y.length ≤ bound → Rest y z → Keeps late' bound' (f (a, y)) (g (a, z)))
    (later : ∀ a z, late a z → Keeps late' bound' none (g (a, z))) : Keeps late' bound' (o.bind f) (o'.bind g) := by
  cases first with
  | same short rest => exact next _ _ _ short rest
  | late known => exact later _ _ known
  | neither => exact .neither

theorem Keeps.map {f g : Parsed α → Parsed β} {h : α → β} (first : Keeps late bound o o')
    (value : ∀ a y, f (a, y) = (h a, y)) (value' : ∀ a y, g (a, y) = (h a, y))
    (later : ∀ a z, late a z → late' (h a) z) : Keeps late' bound (o.map f) (o'.map g) := by
  cases first with
  | same short rest =>
    rw [Option.map_some, Option.map_some, value, value']
    exact .same short rest
  | late known =>
    rw [Option.map_some, value']
    exact .late (later _ _ known)
  | neither => exact .neither

theorem scanCount_keeps (ignore : Bool) (rest : Rest x z) :
    Keeps never x.length (scanCount ignore x) (scanCount ignore z) := by
  obtain ⟨ds, y, w, eq, eq', short, behind⟩ :=
    takeChars_keeps ignore (p := Char.isDigit) (by decide) (rest.dropWhile isBlank_paren)
  have shorter := (List.dropWhile_suffix isBlank : x.dropWhile isBlank <:+ x).length_le
  simp only [scanCount, eq, eq']
  split
  · exact .neither
  · cases ignore with
    | false =>
      have := (List.dropWhile_suffix isBlank : y.dropWhile isBlank <:+ y).length_le
      exact .same (show (y.dropWhile isBlank).length ≤ x.length by omega) (behind.dropWhile isBlank_paren)
    | true =>
      have := blanks_length_le true y
      exact .same (show (blanks true y).length ≤ x.length by omega) (behind.blanks true)

theorem scanGreatest_keeps (ignore : Bool) (least : Nat) (rest : Rest x z) :
    Keeps never x.length (scanGreatest ignore least x) (scanGreatest ignore least z) := by
  rcases rest.head_cases ',' (by decide) with ⟨y, w, rfl, rfl, behind⟩ | ⟨no_comma, no_comma'⟩
  · have short := blanks_length_le ignore y
    have seen := behind.blanks ignore
    rw [List.length_cons]
    rcases seen.head_cases '\x7d' (by decide) with ⟨y', w', eq, eq', -⟩ | ⟨no_brace, no_brace'⟩
    · simp only [scanGreatest, eq, eq']
      rw [eq] at seen short
      rw [eq'] at seen
      exact .same (by omega) seen
    · simp only [scanGreatest]
      exact ((scanCount_keeps ignore seen).weaken (by omega)).map (fun _ _ => rfl) (fun _ _ => rfl) nofun
  · simp only [scanGreatest]
    exact .same (Nat.le_refl _) rest

theorem scanBounds_keeps (ignore : Bool) (rest : Rest x z) :
    Keeps never x.length (scanBounds ignore x) (scanBounds ignore z) := by
  have short := blanks_length_le ignore x
  refine (scanCount_keeps ignore (rest.blanks ignore)).bind ?_ nofun
  intro least y w shorter behind
  refine (scanGreatest_keeps ignore least behind).bind ?_ nofun
  intro greatest y' w' shorter' behind'
  rcases behind'.head_cases '\x7d' (by decide) with ⟨y, w, rfl, rfl, further⟩ | ⟨no_brace, no_brace'⟩
  · rw [List.length_cons] at shorter'
    by_cases ordered : greatest.all (least ≤ ·)
    · simp only [ordered, if_true]
      exact .same (by omega) further
    · simp only [ordered]
      exact .neither
  · simp only
    exact .neither

theorem Rest.dropLazy (rest : Rest x z) : Rest (dropLazy x) (dropLazy z) := by
  rcases rest.head_cases '?' (by decide) with ⟨y, w, rfl, rfl, behind⟩ | ⟨no_mark, no_mark'⟩
  · exact behind
  · simp only [Pattern.dropLazy]
    exact rest

theorem dropLazy_length_le (x : List Char) : (dropLazy x).length ≤ x.length := by
  unfold dropLazy
  split
  · exact Nat.le_succ _
  · exact Nat.le_refl _

theorem scanHexDigits_keeps (ignore : Bool) (count acc : Nat) (rest : Rest x z) :
    Keeps never x.length (scanHexDigits ignore count acc x) (scanHexDigits ignore count acc z) := by
  induction count generalizing acc x z with
  | zero => exact .same (Nat.le_refl _) rest
  | succ count ih =>
    cases x with
    | nil =>
      rcases rest.of_nil with rfl | rfl
      · exact .neither
      · exact .neither
    | cons c y =>
      obtain ⟨w, rfl, behind⟩ := rest.cons
      have short := blanks_length_le ignore y
      simp only [scanHexDigits]
      cases Text.hexValue? c with
      | none => exact .neither
      | some d => exact (ih (acc * 16 + d) (behind.blanks ignore)).weaken (by rw [List.length_cons]; omega)

theorem scanHex_keeps (ignore : Bool) (letter : Char) (rest : Rest x z) :
    Keeps never x.length (scanHex ignore letter x) (scanHex ignore letter z) := by
  have short := blanks_length_le ignore x
  have seen := rest.blanks ignore
  rcases seen.head_cases '\x7b' (by decide) with ⟨y, w, eq, eq', behind⟩ | ⟨no_brace, no_brace'⟩
  · have shorter := blanks_length_le ignore y
    rw [eq, List.length_cons] at short
    obtain ⟨ds, y', w', taken, taken', shortest, behind'⟩ :=
      takeChars_keeps ignore (p := Text.isHexDigit) (by decide) (behind.blanks ignore)
    simp only [scanHex, eq, eq', taken, taken']
    rcases behind'.head_cases '\x7d' (by decide) with ⟨u, v, rfl, rfl, further⟩ | ⟨no_brace, no_brace'⟩
    · have := blanks_length_le ignore u
      rw [List.length_cons] at shortest
      simp only
      split
      · exact .neither
      · cases charOf? (Text.numeral 16 ds) with
        | none => exact .neither
        | some c => exact .same (by omega) (further.blanks ignore)
    · simp only
      exact .neither
  · simp only [scanHex]
    refine ((scanHexDigits_keeps ignore _ 0 seen).weaken short).bind ?_ nofun
    intro n y w shorter behind
    simp only
    cases charOf? n with
    | none => exact .neither
    | some c => exact .same shorter behind

theorem scanProperty_keeps (ignore negated : Bool) (rest : Rest x z) :
    Keeps (fun _ z => Beyond z) x.length (scanProperty ignore negated x) (scanProperty ignore negated z) := by
  have short := blanks_length_le ignore x
  have seen := rest.blanks ignore
  rcases seen.head_cases '\x7b' (by decide) with ⟨y, w, eq, eq', behind⟩ | ⟨no_brace, no_brace'⟩
  · simp only [scanProperty, eq, eq']
    have shorter := blanks_length_le ignore y
    rw [eq, List.length_cons] at short
    rcases takeCounted_keeps ignore (· != '\x7d') (Nat.le_refl _) (Nat.le_refl _) (behind.blanks ignore) with
      ⟨ds, y', w', taken, taken', shortest, behind'⟩ | ⟨-, ds, ds', w', taken, taken', beyond⟩
    · rw [takeChars, takeChars, taken, taken']
      rcases behind'.head_cases '\x7d' (by decide) with ⟨u, v, rfl, rfl, further⟩ | ⟨no_brace, no_brace'⟩
      · rw [List.length_cons] at shortest
        exact .same (by omega) further
      · simp only
        exact .neither
    · -- braces that the text does not close are not closed behind it
      rw [takeChars, takeChars, taken, taken']
      rcases beyond with rfl | rfl
      · exact .neither
      · exact .neither
  · cases eq : blanks ignore x with
    | nil =>
      rw [eq] at seen
      rcases seen.of_nil with eq' | eq'
      · have known : scanProperty ignore negated z = some (.property (.name ")") negated, ['$']) := by
          simp [scanProperty, eq', closing]
        rw [known]
        simp only [scanProperty, eq]
        exact .late (.inl rfl)
      · simp only [scanProperty, eq, eq']
        exact .neither
    | cons c y =>
      rw [eq] at seen short
      obtain ⟨w, eq', behind⟩ := seen.cons
      have other : c ≠ '\x7b' := fun brace => no_brace y (brace ▸ eq)
      have shorter := blanks_length_le ignore y
      rw [List.length_cons] at short
      simp only [scanProperty, eq, eq']
      split
      · exact .neither
      · exact .same (by omega) (behind.blanks ignore)

/-- What an escape can be that is complete only with the closing: it takes the parenthesis, or it is a condition on
    words with braces behind it that hold nothing before the parenthesis. -/
def LateEscape (ignore : Bool) (a : Primitive) (z : List Char) : Prop :=
  Beyond z ∨ a = .assertion .wordBoundary ∧ ∃ w, z = '\x7b' :: w ∧ blanks ignore w = closing

theorem scanBoundary_keeps (ignore : Bool) (rest : Rest x z) :
    Keeps (LateEscape ignore) x.length (scanBoundary ignore x) (scanBoundary ignore z) := by
  rcases rest.head_cases '\x7b' (by decide) with ⟨y, w, rfl, rfl, behind⟩ | ⟨no_brace, no_brace'⟩
  · have short := blanks_length_le ignore y
    have seen := behind.blanks ignore
    cases eq : blanks ignore y with
    | nil =>
      rw [eq] at seen
      rcases seen.of_nil with eq' | eq'
      · have known : scanBoundary ignore ('\x7b' :: w) = some (.assertion .wordBoundary, '\x7b' :: w) := by
          simp [scanBoundary, eq', closing]
        rw [known]
        simp only [scanBoundary, eq]
        exact .late (.inr ⟨rfl, w, rfl, eq'⟩)
      · simp only [scanBoundary, eq, eq']
        exact .neither
    | cons c u =>
      rw [eq] at seen short
      obtain ⟨v, eq', -⟩ := seen.cons
      rw [eq'] at seen
      simp only [scanBoundary, eq, eq']
      split
      · obtain ⟨ds, y', w', taken, taken', shorter, behind'⟩ :=
          takeChars_keeps ignore (p := fun c => c.isAlpha || c == '-') (by decide) seen
        rw [taken, taken', List.length_cons]
        rcases behind'.head_cases '\x7d' (by decide) with ⟨u', v', rfl, rfl, further⟩ | ⟨no_brace, no_brace'⟩
        · rw [List.length_cons] at shorter
          simp only
          cases wordAssertion? (String.ofList ds) with
          | none => exact .neither
          | some a => exact .same (by omega) further
        · simp only
          exact .neither
      · exact .same (Nat.le_refl _) rest
  · simp only [scanBoundary]
    exact .same (Nat.le_refl _) rest

theorem scanEscape_keeps (ignore : Bool) (rest : Rest x z) :
    Keeps (LateEscape ignore) (x.length - 1) (scanEscape ignore x) (scanEscape ignore z) := by
  cases x with
  | nil =>
    rcases rest.of_nil with rfl | rfl
    · have known : scanEscape ignore closing = some (.literal ⟨')', false⟩, ['$']) := rfl
      rw [known]
      exact .late (.inl (.inl rfl))
    · exact .neither
  | cons c y =>
    obtain ⟨w, rfl, behind⟩ := rest.cons
    rw [List.length_cons, Nat.add_sub_cancel]
    have hex (letter : Char) : Keeps (LateEscape ignore) y.length
        ((scanHex ignore letter y).map fun read => (Primitive.literal read.1, read.2))
        ((scanHex ignore letter w).map fun read => (Primitive.literal read.1, read.2)) :=
      (scanHex_keeps ignore letter behind).map (fun _ _ => rfl) (fun _ _ => rfl) nofun
    have plain (p : Primitive) : Keeps (LateEscape ignore) y.length (some (p, y)) (some (p, w)) :=
      .same (Nat.le_refl _) behind
    have property (negated : Bool) : Keeps (LateEscape ignore) y.length
        (scanProperty ignore negated y) (scanProperty ignore negated w) :=
      (scanProperty_keeps ignore negated behind).imp fun _ _ => .inl
    unfold scanEscape
    simp only
    split <;> first
      | exact plain _
      | exact hex _
      | exact property _
      | exact scanBoundary_keeps ignore behind
      | skip
    split
    · exact plain _
    · exact .neither

theorem scanFlags_keeps (changes : FlagChanges) (on dangling : Bool) (rest : Rest x z) :
    Keeps (fun _ z => z = closing) x.length (scanFlags changes on dangling x) (scanFlags changes on dangling z) := by
  induction x generalizing changes on dangling z with
  | nil =>
    rcases rest.of_nil with rfl | rfl
    · cases dangling with
      | false => exact .late rfl
      | true => exact .neither
    · exact .neither
  | cons c y ih =>
    obtain ⟨w, rfl, behind⟩ := rest.cons
    simp only [scanFlags]
    split
    · split
      · exact .neither
      · exact .same (Nat.le_refl _) rest
    · split
      · split
        · exact (ih changes false true behind).weaken (Nat.le_succ _)
        · exact .neither
      · cases flagOf? c with
        | none => exact .neither
        | some f =>
          simp only
          split
          · exact .neither
          · exact (ih ((f, on) :: changes) on false behind).weaken (Nat.le_succ _)

theorem scanFlags_ends {changes given : FlagChanges} {on dangling : Bool}
    (eq : scanFlags changes on dangling x = some (given, y)) : ∃ more, y = ':' :: more ∨ y = ')' :: more := by
  induction x generalizing changes on dangling with
  | nil => cases eq
  | cons c x ih =>
    simp only [scanFlags] at eq
    split at eq
    · next ends =>
      split at eq
      · cases eq
      · cases eq
        rcases ends with rfl | rfl
        · exact ⟨x, .inl rfl⟩
        · exact ⟨x, .inr rfl⟩
    · split at eq
      · split at eq
        · exact ih eq
        · cases eq
      · cases flag : flagOf? c with
        | none =>
          rw [flag] at eq
          cases eq
        | some f =>
          rw [flag] at eq
          simp only at eq
          split at eq
          · cases eq
          · exact ih eq

theorem scanName_keeps (rest : Rest x z) : Keeps never x.length (scanName x) (scanName z) := by
  rcases rest.cut '>' (by decide) with ⟨y, w, same, eq, eq', behind, short⟩ | ⟨eq, eq'⟩
  · simp only [scanName, eq, eq', same]
    cases x.takeWhile (· != '>') with
    | nil => exact .neither
    | cons c name =>
      simp only
      split
      · exact .same (Nat.le_of_lt short) behind
      · exact .neither
  · have unended {cs : List Char} (eq : cs.drop (cs.takeWhile (· != '>')).length = []) : scanName cs = none := by
      simp only [scanName, eq]
      cases cs.takeWhile (· != '>') <;> rfl
    rw [unended eq, unended eq']
    exact .neither

/-- What an opening can be that is complete only with the closing: flags, which the parenthesis ends. -/
def LateOpening (o : Opening) (z : List Char) : Prop := (∃ changes, o = .flags changes) ∧ z = ['$']

theorem scanNamed_keeps (rest : Rest x z) : Keeps LateOpening x.length (scanNamed x) (scanNamed z) :=
  (scanName_keeps rest).map (fun _ _ => rfl) (fun _ _ => rfl) nofun

theorem scanAngle_keeps (rest : Rest x z) : Keeps LateOpening x.length (scanAngle x) (scanAngle z) := by
  rcases rest.head_cases '=' (by decide) with ⟨_, _, rfl, rfl, -⟩ | ⟨no_equals, no_equals'⟩
  · exact .neither
  rcases rest.head_cases '!' (by decide) with ⟨_, _, rfl, rfl, -⟩ | ⟨no_mark, no_mark'⟩
  · exact .neither
  simp only [scanAngle]
  exact scanNamed_keeps rest

theorem scanFlagged_keeps (rest : Rest x z) : Keeps LateOpening x.length (scanFlagged x) (scanFlagged z) := by
  have kept := scanFlags_keeps [] true false rest
  unfold scanFlagged
  generalize read : scanFlags [] true false x = o at kept
  generalize scanFlags [] true false z = o' at kept
  cases kept with
  | @same changes y w short behind =>
    obtain ⟨more, rfl | rfl⟩ := scanFlags_ends read
    · obtain ⟨w, rfl, further⟩ := behind.cons
      rw [List.length_cons] at short
      exact .same (by omega) further
    · obtain ⟨w, rfl, further⟩ := behind.cons
      rw [List.length_cons] at short
      cases changes with
      | nil => exact .neither
      | cons c changes => exact .same (by omega) further
  | @late changes z known =>
    subst known
    cases changes with
    | nil => exact .neither
    | cons c changes => exact .late ⟨⟨_, rfl⟩, rfl⟩
  | neither => exact .neither

theorem scanMarked_keeps (rest : Rest x z) : Keeps LateOpening x.length (scanMarked x) (scanMarked z) := by
  rcases rest.head_cases '=' (by decide) with ⟨_, _, rfl, rfl, -⟩ | ⟨no_equals, no_equals'⟩
  · exact .neither
  rcases rest.head_cases '!' (by decide) with ⟨_, _, rfl, rfl, -⟩ | ⟨no_mark, no_mark'⟩
  · exact .neither
  rcases rest.head_cases '<' (by decide) with ⟨y, w, rfl, rfl, behind⟩ | ⟨no_angle, no_angle'⟩
  · exact (scanAngle_keeps behind).weaken (Nat.le_succ _)
  rcases rest.head_cases 'P' (by decide) with ⟨y, w, rfl, rfl, behind⟩ | ⟨no_letter, no_letter'⟩
  · rcases behind.head_cases '<' (by decide) with ⟨u, v, rfl, rfl, further⟩ | ⟨no_angle, no_angle'⟩
    · exact (scanNamed_keeps further).weaken (by rw [List.length_cons, List.length_cons]; omega)
    · simp only [scanMarked]
      exact scanFlagged_keeps rest
  · simp only [scanMarked]
    exact scanFlagged_keeps rest

theorem scanOpening_keeps (ignore : Bool) (rest : Rest x z) :
    Keeps LateOpening x.length (scanOpening ignore x) (scanOpening ignore z) := by
  have short := blanks_length_le ignore x
  have seen := rest.blanks ignore
  rcases seen.head_cases '?' (by decide) with ⟨y, w, eq, eq', behind⟩ | ⟨plain, plain'⟩
  · rw [eq, List.length_cons] at short
    simp only [scanOpening, eq, eq']
    exact (scanMarked_keeps behind).weaken (by omega)
  · simp only [scanOpening]
    exact .same short seen

end SchemaMutation.Pattern
