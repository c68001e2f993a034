/-!
# Outcomes

How a chain of steps that may fail ends: with the first error, or with the result of the last step.
-/

namespace SchemaMutation

variable {ε α β : Type}

theorem pure_eq_ok (a : α) : (pure a : Except ε α) = .ok a := rfl

@[simp] theorem ok_bind (a : α) (next : α → Except ε β) : (Except.ok a >>= next) = next a := rfl

@[simp] theorem error_bind (e : ε) (next : α → Except ε β) : ((Except.error e : Except ε α) >>= next) = .error e := rfl

theorem bind_eq_ok {x : Except ε α} {next : α → Except ε β} {b : β} :
    (x >>= next) = .ok b ↔ ∃ a, x = .ok a ∧ next a = .ok b := by
  rcases x with e | a
  · simp
  · simp

theorem map_eq_ok {x : Except ε α} {f : α → β} {b : β} : x.map f = .ok b ↔ ∃ a, x = .ok a ∧ f a = b := by
  rcases x with e | a
  · simp [Except.map]
  · simp [Except.map]

/-- Both computations fail with the same error, or they succeed with related results. -/
inductive SameEnd (R : α → β → Prop) : Except ε α → Except ε β → Prop
  | error (e : ε) : SameEnd R (.error e) (.error e)
  | ok {a : α} {b : β} (related : R a b) : SameEnd R (.ok a) (.ok b)

namespace SameEnd

theorem bind {γ δ : Type} {R : α → β → Prop} {S : γ → δ → Prop} {x : Except ε α} {y : Except ε β}
    {next : α → Except ε γ} {next' : β → Except ε δ} (first : SameEnd R x y)
    (each : ∀ a b, R a b → SameEnd S (next a) (next' b)) : SameEnd S (x >>= next) (y >>= next') := by
  cases first with
  | error e => exact .error e
  | ok related => exact each _ _ related

theorem bind_same {γ δ : Type} {S : γ → δ → Prop} (x : Except ε α) {next : α → Except ε γ} {next' : α → Except ε δ}
    (each : ∀ a, SameEnd S (next a) (next' a)) : SameEnd S (x >>= next) (x >>= next') := by
  cases x with
  | error e => exact .error e
  | ok a => exact each a

end SameEnd

end SchemaMutation
