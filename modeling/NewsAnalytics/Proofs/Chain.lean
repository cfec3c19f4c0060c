/-!
# Chains of steps that may fail

A chain succeeds iff each of its steps does, the later ones with what the
earlier ones gave. If it fails, its error is that of the first step that
does. So two chains agree if they agree step by step: both fail with one
error, or both succeed with values that are related.
-/

namespace NewsAnalytics

variable {ε α β α' β' : Type}

/-- Two steps succeed iff the first one does and then the second one. -/
theorem bind_eq_ok_iff {step : Except ε α} {next : α → Except ε β} {b : β} :
    step >>= next = .ok b ↔ ∃ a, step = .ok a ∧ next a = .ok b := by
  cases step with
  | error e => simp [bind, Except.bind]
  | ok a => simp [bind, Except.bind]

/-- Two steps fail with the error of the first one, or of the second one
where the first one succeeds. -/
theorem bind_eq_error_iff {step : Except ε α} {next : α → Except ε β} {e : ε} :
    step >>= next = .error e ↔ step = .error e ∨ ∃ a, step = .ok a ∧ next a = .error e := by
  cases step with
  | error e' => simp [bind, Except.bind]
  | ok a => simp [bind, Except.bind]

theorem pure_eq_ok_iff {a b : α} : (pure a : Except ε α) = .ok b ↔ a = b := by
  simp [pure, Except.pure]

theorem pure_ne_error {a : α} {e : ε} : (pure a : Except ε α) ≠ .error e := nofun

/-! ## Two chains -/

/-- Two results agree: one error, or related values. -/
def Agree (R : α → α' → Prop) : Except ε α → Except ε α' → Prop
  | .ok a, .ok a' => R a a'
  | .error e, .error e' => e = e'
  | _, _ => False

/-- Steps that agree make chains that agree. -/
theorem Agree.bind {R : α → α' → Prop} {S : β → β' → Prop} {step : Except ε α}
    {step' : Except ε α'} {next : α → Except ε β} {next' : α' → Except ε β'}
    (hStep : Agree R step step') (hNext : ∀ a a', R a a' → Agree S (next a) (next' a')) :
    Agree S (step >>= next) (step' >>= next') := by
  cases step with
  | ok a =>
      cases step' with
      | ok a' => exact hNext a a' hStep
      | error e' => exact hStep.elim
  | error e =>
      cases step' with
      | ok a' => exact hStep.elim
      | error e' => exact hStep

theorem Agree.map {R : α → α' → Prop} {S : β → β' → Prop} {result : Except ε α}
    {result' : Except ε α'} {f : α → β} {f' : α' → β'} (h : Agree R result result')
    (hf : ∀ a a', R a a' → S (f a) (f' a')) : Agree S (result.map f) (result'.map f') :=
  h.bind (fun a a' hR => hf a a' hR)

theorem Agree.refl {R : α → α → Prop} (hR : ∀ a, R a a) (result : Except ε α) :
    Agree R result result := by
  cases result with
  | ok a => exact hR a
  | error e => rfl

/-- What is known of the values of one chain can be used in the relation. -/
theorem Agree.and_left {R : α → α' → Prop} {result : Except ε α} {result' : Except ε α'}
    {p : α → Prop} (h : Agree R result result') (hp : ∀ a, result = .ok a → p a) :
    Agree (fun a a' => R a a' ∧ p a) result result' := by
  cases result with
  | ok a =>
      cases result' with
      | ok a' => exact ⟨h, hp a rfl⟩
      | error e' => exact h
  | error e => cases result' <;> exact h

theorem Agree.mono {R S : α → α' → Prop} {result : Except ε α} {result' : Except ε α'}
    (h : Agree R result result') (hRS : ∀ a a', R a a' → S a a') : Agree S result result' := by
  cases result with
  | ok a =>
      cases result' with
      | ok a' => exact hRS a a' h
      | error e' => exact h
  | error e => cases result' <;> exact h

end NewsAnalytics
