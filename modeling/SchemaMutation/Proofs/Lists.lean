import Mathlib.Data.List.Induction
import Mathlib.Data.List.Nodup
import Mathlib.Data.List.Perm.Basic

/-!
# Lists in the order of discovery

Catalog facts are grouped by keys in the order in which the keys first appear. A list without its repetitions is the
order of the groups (`List.eraseDups`); the groups together hold every member once (`fibers_perm`). Where several
members of a group compete, the last one that qualifies counts (`LastWith`), and those before it are shadowed.
-/

namespace SchemaMutation

variable {α β : Type}

theorem eraseDups_concat [BEq α] [LawfulBEq α] (l : List α) (a : α) :
    (l ++ [a]).eraseDups = if a ∈ l then l.eraseDups else l.eraseDups ++ [a] := by
  rw [List.eraseDups_append, List.removeAll, List.filter_cons, List.filter_nil, List.elem_eq_mem]
  by_cases known : a ∈ l
  · rw [if_pos known, decide_eq_true known, Bool.not_true, if_neg Bool.false_ne_true, List.eraseDups_nil,
      List.append_nil]
  · rw [if_neg known, decide_eq_false known, Bool.not_false, if_pos rfl]
    rfl

theorem nodup_eraseDups [BEq α] [LawfulBEq α] (l : List α) : l.eraseDups.Nodup := by
  induction l using List.reverseRecOn with
  | nil => exact List.nodup_nil
  | append_singleton l a ih =>
    rw [eraseDups_concat]
    by_cases known : a ∈ l
    · rwa [if_pos known]
    · rw [if_neg known]
      refine List.nodup_append.mpr ⟨ih, by simp, fun b member c last same => known ?_⟩
      rw [← List.mem_singleton.mp last, ← same]
      exact List.mem_eraseDups.mp member

theorem eraseDups_filter [BEq α] [LawfulBEq α] (l : List α) (p : α → Bool) :
    (l.filter p).eraseDups = l.eraseDups.filter p := by
  induction l using List.reverseRecOn with
  | nil => rfl
  | append_singleton l a ih =>
    rw [List.filter_append, eraseDups_concat]
    by_cases kept : p a
    · rw [List.filter_cons_of_pos kept, List.filter_nil, eraseDups_concat]
      by_cases known : a ∈ l
      · rw [if_pos known, if_pos (List.mem_filter.mpr ⟨known, kept⟩), ih]
      · rw [if_neg known, if_neg fun member => known (List.mem_filter.mp member).1, ih, List.filter_append,
          List.filter_cons_of_pos kept, List.filter_nil]
    · rw [List.filter_cons_of_neg kept, List.filter_nil, List.append_nil, ih]
      split
      · rfl
      · rw [List.filter_append, List.filter_cons_of_neg kept, List.filter_nil, List.append_nil]

theorem eraseDups_map [BEq α] [LawfulBEq α] [BEq β] [LawfulBEq β] {l : List α} {f : α → β}
    (told : ∀ a ∈ l, ∀ b ∈ l, f a = f b → a = b) : (l.map f).eraseDups = l.eraseDups.map f := by
  induction l using List.reverseRecOn with
  | nil => rfl
  | append_singleton l a ih =>
    have told_before : ∀ b ∈ l, ∀ c ∈ l, f b = f c → b = c := fun b inList c inList' =>
      told b (List.mem_append_left _ inList) c (List.mem_append_left _ inList')
    have known : f a ∈ l.map f ↔ a ∈ l := by
      refine ⟨fun member => ?_, List.mem_map_of_mem⟩
      obtain ⟨b, inList, same⟩ := List.mem_map.mp member
      rwa [← told b (List.mem_append_left _ inList) a (List.mem_append_right _ (List.mem_singleton_self a)) same]
    rw [List.map_append, List.map_singleton, eraseDups_concat, eraseDups_concat, if_congr known rfl rfl,
      ih told_before]
    split
    · rfl
    · rw [List.map_append, List.map_singleton]

theorem eraseDups_map_concat [BEq β] [LawfulBEq β] (key : α → β) (l : List α) (a : α) :
    ((l ++ [a]).map key).eraseDups =
      if key a ∈ (l.map key).eraseDups then (l.map key).eraseDups else (l.map key).eraseDups ++ [key a] := by
  have known : key a ∈ (l.map key).eraseDups ↔ key a ∈ l.map key := List.mem_eraseDups
  rw [if_congr known rfl rfl, List.map_append]
  exact eraseDups_concat (l.map key) (key a)

theorem map_change_of_notMem [DecidableEq β] {γ : Type} {key : β} {keys : List β} (new : key ∉ keys)
    (changed old : β → γ) :
    keys.map (fun k => (k, if key = k then changed k else old k)) = keys.map fun k => (k, old k) := by
  refine List.map_congr_left fun k member => ?_
  rw [if_neg]
  rintro rfl
  exact new member

/-- The members under each key, one group behind the other, are all members. -/
theorem fibers_perm [DecidableEq β] (key : α → β) {keys : List β} (distinct : keys.Nodup) {l : List α}
    (covered : ∀ a ∈ l, key a ∈ keys) : (keys.flatMap fun k => l.filter (key · = k)).Perm l := by
  induction keys generalizing l with
  | nil => rw [List.eq_nil_iff_forall_not_mem.mpr fun a member => List.not_mem_nil (covered a member), List.flatMap_nil]
  | cons k keys ih =>
    obtain ⟨new, others⟩ := List.nodup_cons.mp distinct
    have rest : (keys.flatMap fun k' => l.filter (key · = k')).Perm (l.filter fun a => !decide (key a = k)) := by
      have groups : (keys.flatMap fun k' => l.filter (key · = k')) =
          keys.flatMap fun k' => (l.filter fun a => !decide (key a = k)).filter (key · = k') := by
        refine List.flatMap_congr fun k' later => ?_
        rw [List.filter_filter]
        refine List.filter_congr fun a _ => ?_
        by_cases same : key a = k'
        · simp [same, show k' ≠ k from fun first => new (first ▸ later)]
        · simp [same]
      rw [groups]
      refine ih others fun a member => ?_
      obtain ⟨inList, other⟩ := List.mem_filter.mp member
      exact (List.mem_cons.mp (covered a inList)).resolve_left (by simpa using other)
    rw [List.flatMap_cons]
    exact (rest.append_left _).trans (List.filter_append_perm (fun a => decide (key a = k)) l)

/-- The last member with a property, if there is one. -/
inductive LastWith (p : α → Prop) : List α → Option α → Prop
  | none {l : List α} (never : ∀ a ∈ l, ¬ p a) : LastWith p l none
  | some {before after : List α} {a : α} (holds : p a) (never : ∀ b ∈ after, ¬ p b) :
      LastWith p (before ++ a :: after) (some a)

namespace LastWith
variable {p q : α → Prop} {l : List α} {a : α} {last : Option α}

theorem mem (found : LastWith p l (Option.some a)) : a ∈ l := by
  cases found with
  | some _ _ => exact List.mem_append_right _ List.mem_cons_self

theorem holds (found : LastWith p l (Option.some a)) : p a := by
  cases found with
  | some holds _ => exact holds

theorem never_of_none (found : LastWith p l Option.none) : ∀ a ∈ l, ¬ p a := by
  cases found with
  | none never => exact never

theorem concat (holds : p a) : LastWith p (l ++ [a]) (Option.some a) := .some holds (by simp)

theorem concat_without (fails : ¬ p a) (before : LastWith p l last) : LastWith p (l ++ [a]) last := by
  cases before with
  | none never =>
    refine .none fun b member => ?_
    rcases List.mem_append.mp member with earlier | same
    · exact never b earlier
    · rwa [List.mem_singleton.mp same]
  | @some _ after _ holds never =>
    rw [List.append_assoc, List.cons_append]
    refine .some holds fun b member => ?_
    rcases List.mem_append.mp member with earlier | same
    · exact never b earlier
    · rwa [List.mem_singleton.mp same]

theorem congr (same : ∀ a ∈ l, p a ↔ q a) (found : LastWith p l last) : LastWith q l last := by
  cases found with
  | none never => exact .none fun a member => (same a member).not.mp (never a member)
  | some holds never =>
    refine .some ((same _ (by simp)).mp holds) fun b later => ?_
    exact (same b (by simp [later])).not.mp (never b later)

theorem getLast?_filter (p : α → Prop) [DecidablePred p] (l : List α) : LastWith p l (l.filter p).getLast? := by
  induction l using List.reverseRecOn with
  | nil => exact .none (by simp)
  | append_singleton l a ih =>
    by_cases holds : p a
    · simpa [holds] using concat holds
    · simpa [holds] using concat_without holds ih

theorem eq_getLast? [DecidablePred p] (found : LastWith p l last) : last = (l.filter p).getLast? := by
  cases found with
  | none never => rw [List.filter_eq_nil_iff.mpr (by simpa using never), List.getLast?_nil]
  | @some before after a holds never =>
    have nothing : after.filter p = [] := List.filter_eq_nil_iff.mpr (by simpa using never)
    simp [holds, nothing]

theorem unique {last' : Option α} (found : LastWith p l last) (found' : LastWith p l last') : last = last' := by
  classical exact found.eq_getLast?.trans found'.eq_getLast?.symm

end LastWith

theorem split_unique {l before after before' after' : List α} {a : α} (distinct : l.Nodup)
    (split : l = before ++ a :: after) (split' : l = before' ++ a :: after') : before = before' ∧ after = after' := by
  have once := split' ▸ distinct
  have notBefore : a ∉ before' := fun member =>
    (List.nodup_append.mp once).2.2 a member a List.mem_cons_self rfl
  have notAfter : a ∉ after' := (List.nodup_cons.mp (List.nodup_append.mp once).2.1).1
  obtain ⟨sameBefore, -, sameAfter⟩ := (List.append_cons_inj_of_notMem notBefore notAfter).mp (split'.symm.trans split)
  exact ⟨sameBefore.symm, sameAfter.symm⟩

/-- A later member of the list has the same key. -/
def Shadowed (key : α → β) (l : List α) (a : α) : Prop :=
  ∃ before after, l = before ++ a :: after ∧ ∃ b ∈ after, key b = key a

theorem LastWith.eq_some_iff {key : α → β} {l : List α} (distinct : l.Nodup) {a : α} (member : a ∈ l)
    {last : Option α} (found : LastWith (key · = key a) l last) : last = Option.some a ↔ ¬ Shadowed key l a := by
  constructor
  · rintro rfl ⟨before, after, split, b, later, sameKey⟩
    obtain ⟨before', after', split', never⟩ : ∃ before' after', l = before' ++ a :: after' ∧
        ∀ b ∈ after', ¬ key b = key a := by
      cases found with
      | some _ never => exact ⟨_, _, rfl, never⟩
    obtain ⟨-, rfl⟩ := split_unique distinct split split'
    exact never b later sameKey
  · intro visible
    obtain ⟨before, after, rfl⟩ := List.append_of_mem member
    refine found.unique (.some rfl fun b later sameKey => visible ?_)
    exact ⟨before, after, rfl, b, later, sameKey⟩

end SchemaMutation
