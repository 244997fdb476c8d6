import InternetCourse.StateTriple

/-! Rules for two `EStateM` runs in step: both return or both fail, and their states stay
related. The states may be of two kinds, where one program refines the other. -/
namespace InternetCourse.PairedRuns

open StateTriple

variable {ε σ τ α β γ δ : Type}

/-- Both runs return, related by `Q`, or both fail, in states related by `E`. -/
def Paired (Q : α → β → σ → σ → Prop) (E : σ → σ → Prop) :
    EStateM.Result ε σ α → EStateM.Result ε σ β → Prop
  | .ok a s, .ok b t => Q a b s t
  | .error _ s, .error _ t => E s t
  | _, _ => False

theorem Paired.bind {Q : α → β → σ → σ → Prop} {R : γ → δ → σ → σ → Prop} {E : σ → σ → Prop}
    {x : EStateM ε σ α} {y : EStateM ε σ β} {f : α → EStateM ε σ γ} {g : β → EStateM ε σ δ}
    {s t : σ} (h : Paired Q E (x s) (y t))
    (hf : ∀ a b s' t', Q a b s' t' → Paired R E (f a s') (g b t')) :
    Paired R E ((x >>= f) s) ((y >>= g) t) := by
  rw [bind_apply, bind_apply]
  revert h
  cases x s with
  | ok a s' =>
    cases y t with
    | ok b t' => exact hf a b s' t'
    | error e t' => exact False.elim
  | error e s' =>
    cases y t with
    | ok b t' => exact False.elim
    | error e' t' => exact id

theorem Paired.mono {Q Q' : α → β → σ → σ → Prop} {E E' : σ → σ → Prop}
    {x : EStateM.Result ε σ α} {y : EStateM.Result ε σ β} (h : Paired Q E x y)
    (hq : ∀ a b s t, Q a b s t → Q' a b s t) (he : ∀ s t, E s t → E' s t) : Paired Q' E' x y := by
  match x, y, h with
  | .ok a s, .ok b t, h => exact hq a b s t h
  | .error _ s, .error _ t, h => exact he s t h

/-- The relation may also speak of how the runs came to their ends. -/
theorem Paired.ran {Q : α → β → σ → σ → Prop} {E : σ → σ → Prop} {x : EStateM.Result ε σ α}
    {y : EStateM.Result ε σ β} (h : Paired Q E x y) :
    Paired (fun a b s t => x = .ok a s ∧ y = .ok b t ∧ Q a b s t) E x y := by
  match x, y, h with
  | .ok a s, .ok b t, h => exact ⟨rfl,rfl,h⟩
  | .error _ s, .error _ t, h => exact h

/-- Where the first run returns, so does the second. -/
theorem Paired.returns {Q : α → β → σ → σ → Prop} {E : σ → σ → Prop} {a : α} {s : σ}
    {y : EStateM.Result ε σ β} (h : Paired Q E (.ok a s) y) : ∃ b t, y = .ok b t ∧ Q a b s t := by
  match y, h with
  | .ok b t, h => exact ⟨b, t, rfl, h⟩

/-- A relation that holds at either end holds of the states the runs end in. -/
theorem Paired.finalState {Q : α → β → σ → σ → Prop} {E R : σ → σ → Prop}
    {x : EStateM.Result ε σ α} {y : EStateM.Result ε σ β} (h : Paired Q E x y)
    (hq : ∀ a b s t, Q a b s t → R s t) (he : ∀ s t, E s t → R s t) :
    R (finalState x) (finalState y) := by
  match x, y, h with
  | .ok a s, .ok b t, h => exact hq a b s t h
  | .error _ s, .error _ t, h => exact he s t h

/-- Two loops in step: the bodies go on together, related by `I`, or leave together. -/
theorem Paired.iterate {stuck : ε} {body : γ → EStateM ε σ (γ ⊕ α)} {body' : δ → EStateM ε σ (δ ⊕ β)}
    {Q : α → β → σ → σ → Prop} {E : σ → σ → Prop} (I : γ → δ → σ → σ → Prop)
    (hbody : ∀ b c s t, I b c s t → Paired (fun r r' s' t' => match r, r' with
      | .inl b', .inl c' => I b' c' s' t'
      | .inr a, .inr a' => Q a a' s' t'
      | _, _ => False) E (body b s) (body' c t))
    (hstuck : ∀ b c s t, I b c s t → E s t) (n : ℕ) {b : γ} {c : δ} {s t : σ} (h : I b c s t) :
    Paired Q E (iterate stuck body n b s) (iterate stuck body' n c t) := by
  induction n generalizing b c s t with
  | zero => exact hstuck b c s t h
  | succ n ih =>
    refine Paired.bind (hbody b c s t h) fun r r' s' t' hr => ?_
    match r, r', hr with
    | .inl b', .inl c', hr => exact ih hr
    | .inr a, .inr a', hr => exact hr

/-- Both runs return the same value or fail for the same reason, in states related by `R`. -/
def SameOutcome (R : σ → τ → Prop) : EStateM.Result ε σ α → EStateM.Result ε τ α → Prop
  | .ok a s, .ok b t => a = b ∧ R s t
  | .error e s, .error e' t => e = e' ∧ R s t
  | _, _ => False

theorem SameOutcome.bind {R R' : σ → τ → Prop} {x : EStateM ε σ α} {y : EStateM ε τ α}
    {f : α → EStateM ε σ β} {g : α → EStateM ε τ β} {s : σ} {t : τ}
    (h : SameOutcome R' (x s) (y t)) (he : ∀ s' t', R' s' t' → R s' t')
    (hf : ∀ a s' t', R' s' t' → SameOutcome R (f a s') (g a t')) :
    SameOutcome R ((x >>= f) s) ((y >>= g) t) := by
  rw [bind_apply, bind_apply]
  revert h
  cases x s with
  | ok a s' =>
    cases y t with
    | ok b t' =>
      rintro ⟨rfl,hr⟩
      exact hf a s' t' hr
    | error e t' => exact False.elim
  | error e s' =>
    cases y t with
    | ok b t' => exact False.elim
    | error e' t' => exact fun h => ⟨h.1, he s' t' h.2⟩

theorem SameOutcome.pure {R : σ → τ → Prop} {s : σ} {t : τ} (a : α) (h : R s t) :
    SameOutcome R ((Pure.pure a : EStateM ε σ α) s) ((Pure.pure a : EStateM ε τ α) t) :=
  ⟨rfl,h⟩

theorem SameOutcome.ite {R : σ → τ → Prop} {p : Prop} [Decidable p] {x x' : EStateM ε σ α}
    {y y' : EStateM ε τ α} {s : σ} {t : τ} (h : p → SameOutcome R (x s) (y t))
    (h' : ¬p → SameOutcome R (x' s) (y' t)) :
    SameOutcome R ((if p then x else x') s) ((if p then y else y') t) := by
  by_cases hp : p
  · rw [if_pos hp, if_pos hp]
    exact h hp
  · rw [if_neg hp, if_neg hp]
    exact h' hp

/-- Two loops whose rounds, from related states and the same loop variable, have the same
outcome. -/
theorem SameOutcome.iterate {R : σ → τ → Prop} {stuck : ε} {body : γ → EStateM ε σ (γ ⊕ α)}
    {body' : γ → EStateM ε τ (γ ⊕ α)}
    (hbody : ∀ b s t, R s t → SameOutcome R (body b s) (body' b t)) (n : ℕ) (b : γ) {s : σ} {t : τ}
    (h : R s t) : SameOutcome R (StateTriple.iterate stuck body n b s)
      (StateTriple.iterate stuck body' n b t) := by
  induction n generalizing b s t with
  | zero => exact ⟨rfl,h⟩
  | succ n ih =>
    refine (hbody b s t h).bind (fun _ _ h => h) fun r s' t' h' => ?_
    cases r with
    | inl b' => exact ih b' h'
    | inr a => exact SameOutcome.pure a h'

end InternetCourse.PairedRuns
