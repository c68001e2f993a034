import SchemaMutation.Proofs.Pattern.Classes

/-!
# Reading in a group

Reading a text is compared with reading it in the group that a block list puts around it, part after part. As long as
the text closes no group that it has not opened (`Overcloses`), the states of both readings differ in the frame of the
group around only, and the closing is what remains where the text ends, unless a comment passes over it
(`Reads.with_closing`, `Reads.of_closing`).
-/

namespace SchemaMutation.Pattern

variable {s next final last : State} {x y z w cs : List Char} {c : Char} {base : List Frame}

/-- What a step can be that is complete only with the closing. The closing is taken to its end, or the part that
    follows cannot be read. -/
def LateStep (next : State) (z : List Char) : Prop :=
  Beyond z ∨ ∃ w, z = '\x7b' :: w ∧ blanks next.ignore w = closing

theorem State.step_keeps (s : State) (c : Char) (rest : Rest y w) :
    Keeps LateStep y.length (s.step c y) (s.step c w) := by
  have given {o : Option State} {u v : List Char} (short : u.length ≤ y.length) (rest : Rest u v) :
      Keeps LateStep y.length (o.map (·, u)) (o.map (·, v)) := by
    cases o with
    | none => exact .neither
    | some next => exact .same short rest
  have plain (next : State) : Keeps LateStep y.length (some (next, y)) (some (next, w)) :=
    .same (Nat.le_refl _) rest
  unfold State.step
  split
  · refine (scanOpening_keeps s.ignore rest).bind ?_ ?_
    · intro opening u v short behind
      exact given short behind
    · rintro opening u ⟨-, rfl⟩
      simp only
      cases s.opened opening with
      | none => exact .neither
      | some next => exact .late (.inl (.inl rfl))
  · exact given (Nat.le_refl _) rest
  · exact plain _
  · exact (scanClass_keeps s.ignore rest).map (fun _ _ => rfl) (fun _ _ => rfl) nofun
  · exact given (dropLazy_length_le y) rest.dropLazy
  · exact given (dropLazy_length_le y) rest.dropLazy
  · exact given (dropLazy_length_le y) rest.dropLazy
  · refine (scanBounds_keeps s.ignore rest).bind ?_ nofun
    intro bounds u v short behind
    have := dropLazy_length_le (blanks s.ignore u)
    have := blanks_length_le s.ignore u
    exact given (by omega) (behind.blanks s.ignore).dropLazy
  · refine ((scanEscape_keeps s.ignore rest).weaken (Nat.sub_le _ _)).map (h := fun p => s.push p.toAst)
      (fun _ _ => rfl) (fun _ _ => rfl) ?_
    rintro p u (beyond | ⟨-, braces⟩)
    · exact .inl beyond
    · exact .inr braces
  · exact plain _
  · exact plain _
  · exact plain _
  · exact plain _

theorem State.step_length (eq : s.step c y = some (next, x)) : x.length ≤ y.length := by
  have kept := s.step_keeps c (.behind y)
  rw [eq] at kept
  generalize s.step c (y ++ closing) = o at kept
  cases kept with
  | same short => exact short

/-- The state with more groups open around those that it has opened. -/
def State.inside (s : State) (base : List Frame) : State := { s with stack := s.stack ++ base }

@[simp] theorem State.inside_nil (s : State) : s.inside [] = s := by
  rw [inside, List.append_nil]

@[simp] theorem State.inside_ignore (s : State) (base : List Frame) : (s.inside base).ignore = s.ignore := rfl

theorem State.opened_inside (s : State) (base : List Frame) (opening : Opening) :
    (s.inside base).opened opening = (s.opened opening).map (·.inside base) := by
  cases opening with
  | flags changes => rfl
  | group changes name =>
    simp only [opened, inside]
    by_cases known : name.any s.names.contains
    · simp only [known, if_true, Option.map_none]
    · simp only [known]
      rfl

theorem State.repeatLast_inside (s : State) (base : List Frame) (bounds : Bounds) :
    (s.inside base).repeatLast bounds = (s.repeatLast bounds).map (·.inside base) := by
  simp only [repeatLast, inside]
  split
  · rfl
  · rfl
  · rfl
  · rfl

theorem State.close_inside (base : List Frame) (open_group : s.stack ≠ []) :
    (s.inside base).close = s.close.map (·.inside base) := by
  cases s with
  | mk level stack ignore names =>
    cases stack with
    | nil => exact absurd rfl open_group
    | cons frame stack => rfl

/-- A step does not look at the groups around, unless it closes one of them. -/
theorem State.step_inside (base : List Frame) (own : c = ')' → s.stack ≠ []) :
    (s.inside base).step c y = (s.step c y).map fun (next, rest) => (next.inside base, rest) := by
  have both (o : Option State) (rest : List Char) : ((o.map (·.inside base)).map (·, rest)) =
      (o.map (·, rest)).map fun ((next, rest) : State × List Char) => (next.inside base, rest) := by
    cases o <;> rfl
  unfold step
  split
  · rw [inside_ignore]
    cases scanOpening s.ignore y with
    | none => rfl
    | some read =>
      obtain ⟨opening, rest⟩ := read
      simp only [Option.bind_some, opened_inside]
      exact both _ rest
  · rw [close_inside base (own rfl)]
    exact both _ y
  · rfl
  · rw [inside_ignore]
    cases scanClass s.ignore y <;> rfl
  · rw [repeatLast_inside]
    exact both _ _
  · rw [repeatLast_inside]
    exact both _ _
  · rw [repeatLast_inside]
    exact both _ _
  · rw [inside_ignore]
    cases scanBounds s.ignore y with
    | none => rfl
    | some read =>
      obtain ⟨bounds, rest⟩ := read
      simp only [Option.bind_some, repeatLast_inside]
      exact both _ _
  · rw [inside_ignore]
    cases scanEscape s.ignore y <;> rfl
  · rfl
  · rfl
  · rfl
  · rfl

/-- A text is read part after part to its end. -/
inductive Reads : State → List Char → State → Prop where
  | done {s : State} {cs : List Char} (ended : blanks s.ignore cs = []) : Reads s cs s
  | part {s next final : State} {c : Char} {cs x y : List Char} (seen : blanks s.ignore cs = c :: x)
      (step : s.step c x = some (next, y)) (rest : Reads next y final) : Reads s cs final

theorem Reads.done_iff (ended : blanks s.ignore cs = []) : Reads s cs final ↔ final = s := by
  constructor
  · intro reads
    cases reads with
    | done => rfl
    | part seen => rw [ended] at seen; cases seen
  · rintro rfl
    exact .done ended

theorem Reads.part_iff (seen : blanks s.ignore cs = c :: x) (step : s.step c x = some (next, y)) :
    Reads s cs final ↔ Reads next y final := by
  constructor
  · intro reads
    cases reads with
    | done ended => rw [seen] at ended; cases ended
    | part seen' step' rest =>
      obtain ⟨rfl, rfl⟩ := List.cons.inj (seen.symm.trans seen')
      obtain ⟨rfl, rfl⟩ := Prod.mk.inj (Option.some.inj (step.symm.trans step'))
      exact rest
  · exact .part seen step

theorem Reads.congr (same : blanks s.ignore x = blanks s.ignore y) : Reads s x final ↔ Reads s y final := by
  have one {x y : List Char} (same : blanks s.ignore x = blanks s.ignore y) (reads : Reads s x final) :
      Reads s y final := by
    cases reads with
    | done ended => exact .done (same ▸ ended)
    | part seen step rest => exact .part (same ▸ seen) step rest
  exact ⟨one same, one same.symm⟩

/-- Every part takes a character, so that the length of a text is fuel enough to read it. -/
theorem State.run_eq_some {fuel : Nat} (enough : cs.length < fuel) : s.run fuel cs = some final ↔ Reads s cs final := by
  induction fuel generalizing s cs with
  | zero => omega
  | succ fuel ih =>
    have short := blanks_length_le s.ignore cs
    rw [run]
    cases seen : blanks s.ignore cs with
    | nil =>
      rw [Reads.done_iff seen, Option.some.injEq]
      exact eq_comm
    | cons c x =>
      rw [seen, List.length_cons] at short
      simp only
      cases step : s.step c x with
      | none =>
        constructor
        · intro ran
          cases ran
        · intro reads
          cases reads with
          | done ended => rw [seen] at ended; cases ended
          | part seen' step' =>
            obtain ⟨rfl, rfl⟩ := List.cons.inj (seen.symm.trans seen')
            rw [step] at step'
            cases step'
      | some read =>
        obtain ⟨next, y⟩ := read
        have shorter := step_length step
        have less : y.length < fuel := by omega
        rw [Reads.part_iff seen step]
        exact ih less

inductive Overcloses : State → List Char → Prop where
  | here {s : State} {cs x : List Char} (seen : blanks s.ignore cs = ')' :: x) (none_open : s.stack = []) :
      Overcloses s cs
  | later {s next : State} {c : Char} {cs x y : List Char} (seen : blanks s.ignore cs = c :: x)
      (step : s.step c x = some (next, y)) (rest : Overcloses next y) : Overcloses s cs

theorem scanCount_closing (ignore : Bool) : scanCount ignore closing = none := by
  have counts : closing.dropWhile isBlank = closing := by simp [closing, isBlank_paren]
  have no_digit : takeChars ignore Char.isDigit closing = ([], closing) := takeCounted_stop (by decide)
  simp only [scanCount, counts, no_digit]
  rfl

theorem Overcloses.not_reads (overcloses : Overcloses s cs) : ¬ Reads s cs final := by
  induction overcloses with
  | here seen none_open =>
    intro reads
    cases reads with
    | done ended => exact absurd (seen.symm.trans ended) (List.cons_ne_nil _ _)
    | part seen' step =>
      obtain ⟨rfl, rfl⟩ := List.cons.inj (seen.symm.trans seen')
      simp [State.step, State.close, none_open] at step
  | later seen step _ ih =>
    intro reads
    exact ih ((Reads.part_iff seen step).mp reads)

theorem Reads.stack_of_late (late : LateStep next z) (reads : Reads next z last) : last.stack = next.stack := by
  rcases late with (rfl | rfl) | ⟨w, rfl, eq⟩
  · have step : next.step '$' [] = some (next.push (.assertion .lineEnd), []) := rfl
    rw [part_iff blanks_dollar step, done_iff blanks_nil] at reads
    rw [reads]
    rfl
  · rw [done_iff blanks_nil] at reads
    rw [reads]
  · have seen : blanks next.ignore ('\x7b' :: w) = '\x7b' :: w :=
      blanks_cons (isBlank_eq_false (by decide) (by decide)) (by decide)
    have stuck : next.step '\x7b' w = none := by
      simp only [State.step, scanBounds, eq, scanCount_closing]
      rfl
    cases reads with
    | done ended => exact absurd (seen.symm.trans ended) (List.cons_ne_nil _ _)
    | part seen' step =>
      obtain ⟨rfl, rfl⟩ := List.cons.inj (seen.symm.trans seen')
      rw [stuck] at step
      cases step

/-- What is read with the closing behind a text that is read to its end: nothing more, if a comment passes over the
    closing, and otherwise the closing. -/
theorem Reads.with_closing (reads : Reads s x final) (rest : Rest x z) :
    (∀ base last, Reads (s.inside base) z last ↔ last = final.inside base) ∨
      ∀ base last, Reads (s.inside base) z last ↔ Reads (final.inside base) closing last := by
  induction reads generalizing z with
  | @done s cs ended =>
    have seen := rest.blanks s.ignore
    rw [ended] at seen
    rcases seen.of_nil with eq | eq
    · exact .inr fun base last => congr (eq.trans blanks_closing.symm)
    · exact .inl fun base last => done_iff eq
  | @part s next final c cs x y seen step _ ih =>
    have behind := rest.blanks s.ignore
    rw [seen] at behind
    obtain ⟨w, seen', further⟩ := behind.cons
    have own : c = ')' → s.stack ≠ [] := by
      rintro rfl none_open
      simp [State.step, State.close, none_open] at step
    have kept := s.step_keeps c further
    rw [step] at kept
    generalize step' : s.step c w = o at kept
    cases kept with
    | same _ furthest =>
      have stepped (base : List Frame) := State.step_inside base own (y := w)
      simp only [step', Option.map_some] at stepped
      rcases ih furthest with swallowed | closed
      · exact .inl fun base last => (part_iff (s := s.inside base) seen' (stepped base)).trans (swallowed base last)
      · exact .inr fun base last => (part_iff (s := s.inside base) seen' (stepped base)).trans (closed base last)

/-- What is read in a group that the text leaves open, and that is closed behind it, is read without the group as
    well. -/
theorem Reads.of_closing {t : State} (around : base ≠ []) (reads : Reads t z last) (grouped : t = s.inside base)
    (rest : Rest x z) (own : ¬ Overcloses s x) (closed : last.stack = []) :
    ∃ final, Reads s x final ∧ Reads (final.inside base) closing last := by
  induction reads generalizing s x with
  | done ended =>
    subst grouped
    exact absurd (List.append_eq_nil_iff.mp closed).2 around
  | @part t next' last c cs w w' seen' step' rest' ih =>
    subst grouped
    have behind := rest.blanks s.ignore
    rw [State.inside_ignore] at seen'
    rw [seen'] at behind
    cases seen : blanks s.ignore x with
    | nil =>
      rw [seen] at behind
      -- the text is at its end here, so that what is read from here on is the closing
      have ended : blanks s.ignore cs = closing := by
        rcases behind.of_nil with eq | eq
        · exact seen'.trans eq
        · exact absurd eq (List.cons_ne_nil _ _)
      have reads : Reads (s.inside base) cs last := .part seen' step' rest'
      exact ⟨s, .done seen, (congr (s := s.inside base) (ended.trans blanks_closing.symm)).mp reads⟩
    | cons d y =>
      rw [seen] at behind
      obtain ⟨_, eq, further⟩ := behind.cons
      obtain ⟨rfl, rfl⟩ := List.cons.inj eq
      have open_group : c = ')' → s.stack ≠ [] := by
        rintro rfl none_open
        exact own (.here seen none_open)
      rw [State.step_inside base open_group] at step'
      have kept := s.step_keeps c further
      generalize step : s.step c y = o at kept
      generalize with_closing : s.step c w = o' at kept step'
      cases kept with
      | same _ furthest =>
        obtain ⟨rfl, rfl⟩ := Prod.mk.inj (Option.some.inj step')
        obtain ⟨final, reads, closing_read⟩ := ih rfl furthest (fun further => own (.later seen step further)) closed
        exact ⟨final, .part seen step reads, closing_read⟩
      | @late next _ known =>
        -- what only the closing completes uses it up, and the group stays open
        obtain ⟨rfl, rfl⟩ := Prod.mk.inj (Option.some.inj step')
        have kept_open := Reads.stack_of_late (show LateStep (next.inside base) _ from known) rest'
        rw [closed] at kept_open
        exact absurd (List.append_eq_nil_iff.mp kept_open.symm).2 around
      | neither => cases step'

theorem read?_eq_some {ast : Ast} :
    read? cs = some ast ↔ ∃ final, Reads .start cs final ∧ final.stack = [] ∧ final.level.ast = ast := by
  rw [read?, Option.bind_eq_some_iff]
  refine exists_congr fun final => and_congr (State.run_eq_some (Nat.lt_succ_self _)) ?_
  split
  · next empty => simp [List.isEmpty_iff.mp empty]
  · next not_empty => simp [mt List.isEmpty_iff.mpr not_empty]

theorem Overcloses.read?_eq_none (overcloses : Overcloses .start cs) : read? cs = none := by
  rw [Option.eq_none_iff_forall_ne_some]
  intro ast read
  obtain ⟨final, reads, -⟩ := read?_eq_some.mp read
  exact overcloses.not_reads reads

/-- A comment is open at the end of a pattern: it passes over what is put behind the pattern. -/
def OpenComment (cs : List Char) : Prop := (read? cs).isSome ∧ (read? (cs ++ closing)).isSome

def wrapper : Frame := ⟨[], ⟨[], [.assertion .lineStart]⟩, false⟩

/-- What the closing makes of a state that has no group open but the one around. -/
def State.closed (s : State) : State :=
  ⟨⟨[], [.assertion .lineEnd, .group [] s.level.ast, .assertion .lineStart]⟩, [], false, s.names⟩

theorem reads_wrapper (none_open : final.stack = []) :
    Reads (final.inside [wrapper]) closing last ↔ last = final.closed := by
  have seen : blanks (final.inside [wrapper]).ignore closing = ')' :: ['$'] := blanks_closing
  have closes : (final.inside [wrapper]).step ')' ['$'] =
      some (⟨⟨[], [.group [] final.level.ast, .assertion .lineStart]⟩, [], false, final.names⟩, ['$']) := by
    simp [State.step, State.close, State.inside, none_open, wrapper, Level.push]
  rw [Reads.part_iff seen closes, Reads.part_iff (y := []) blanks_dollar rfl, Reads.done_iff blanks_nil]
  rfl

theorem none_open_of_closed (reads : Reads (final.inside [wrapper]) closing last) (closed : last.stack = []) :
    final.stack = [] := by
  cases stack : final.stack with
  | nil => rfl
  | cons frame outer =>
    have seen : blanks (final.inside [wrapper]).ignore closing = ')' :: ['$'] := blanks_closing
    have closes : (final.inside [wrapper]).step ')' ['$'] =
        some (State.inside ⟨frame.outer.push (.group frame.changes final.level.ast), outer, frame.ignore, final.names⟩
          [wrapper], ['$']) := by
      simp [State.step, State.close, State.inside, stack]
    rw [Reads.part_iff seen closes, Reads.part_iff (y := []) blanks_dollar rfl, Reads.done_iff blanks_nil] at reads
    rw [reads] at closed
    exact absurd (List.append_eq_nil_iff.mp closed).2 (List.cons_ne_nil _ _)

end SchemaMutation.Pattern
