import Mathlib.Logic.Relation
import Mathlib.Data.Nat.Notation

/-! Hoare rules for `EStateM` programs and for loops run on fuel. A failing run
keeps the state it failed in, so it has a postcondition of its own. -/
namespace InternetCourse.StateTriple

variable {ε σ α β γ : Type}

theorem bind_apply (x : EStateM ε σ α) (f : α → EStateM ε σ β) (s : σ) :
    (x >>= f) s = match x s with
      | .ok a s' => f a s'
      | .error e s' => .error e s' := rfl

theorem pure_apply (a : α) (s : σ) : (pure a : EStateM ε σ α) s = .ok a s := rfl

theorem get_apply (s : σ) : (get : EStateM ε σ σ) s = .ok s s := rfl

theorem modify_apply (f : σ → σ) (s : σ) :
    (modify f : EStateM ε σ PUnit) s = .ok ⟨⟩ (f s) := rfl

theorem throw_apply (e : ε) (s : σ) : (throw e : EStateM ε σ α) s = .error e s := rfl

/-- A program that returns has returned from its first part. -/
theorem bind_eq_ok {x : EStateM ε σ α} {f : α → EStateM ε σ β} {s s' : σ} {b : β}
    (h : (x >>= f) s = .ok b s') : ∃ a u, x s = .ok a u ∧ f a u = .ok b s' := by
  rw [bind_apply] at h
  cases hx : x s with
  | ok a u =>
    rw [hx] at h
    exact ⟨a, u, rfl, h⟩
  | error e u => simp [hx] at h

/-- The state a run ends in, returning or not. -/
def finalState : EStateM.Result ε σ α → σ
  | .ok _ s => s
  | .error _ s => s

/-- Whether a run returns. -/
def returns : EStateM.Result ε σ α → Bool
  | .ok _ _ => true
  | .error _ _ => false

theorem eq_ok_of_returns {x : EStateM.Result ε σ PUnit} (h : returns x = true) :
    x = .ok ⟨⟩ (finalState x) := by
  cases x with
  | ok a s => rfl
  | error e s => contradiction

/-- From a state in `P`, a returning run ends in `Q` and a failing one in `E`. -/
def Triple (P : σ → Prop) (x : EStateM ε σ α) (Q : α → σ → Prop) (E : σ → Prop) : Prop :=
  ∀ s, P s → match x s with
    | .ok a s' => Q a s'
    | .error _ s' => E s'

theorem Triple.ok {P : σ → Prop} {x : EStateM ε σ α} {Q : α → σ → Prop} {E : σ → Prop}
    (h : Triple P x Q E) {s s' : σ} {a : α} (hs : P s) (hx : x s = .ok a s') : Q a s' := by
  have hh := h s hs
  rw [hx] at hh
  exact hh

theorem Triple.error {P : σ → Prop} {x : EStateM ε σ α} {Q : α → σ → Prop} {E : σ → Prop}
    (h : Triple P x Q E) {s s' : σ} {e : ε} (hs : P s) (hx : x s = .error e s') : E s' := by
  have hh := h s hs
  rw [hx] at hh
  exact hh

theorem Triple.conseq {P P' : σ → Prop} {x : EStateM ε σ α} {Q Q' : α → σ → Prop}
    {E E' : σ → Prop} (h : Triple P x Q E) (hp : ∀ s, P' s → P s)
    (hq : ∀ a s, Q a s → Q' a s) (he : ∀ s, E s → E' s) : Triple P' x Q' E' := by
  intro s hs
  have hh := h s (hp s hs)
  revert hh
  cases x s with
  | ok a s' => exact hq a s'
  | error e s' => exact he s'

theorem Triple.trivial {P : σ → Prop} {x : EStateM ε σ α} :
    Triple P x (fun _ _ => True) fun _ => True := by
  intro s _
  cases x s with
  | ok a s' => exact True.intro
  | error e s' => exact True.intro

theorem Triple.pure {P : σ → Prop} {a : α} {Q : α → σ → Prop} {E : σ → Prop}
    (h : ∀ s, P s → Q a s) : Triple P (pure a : EStateM ε σ α) Q E := h

theorem Triple.throw {P : σ → Prop} {e : ε} {Q : α → σ → Prop} {E : σ → Prop}
    (h : ∀ s, P s → E s) : Triple P (throw e : EStateM ε σ α) Q E := h

theorem Triple.bind {P : σ → Prop} {x : EStateM ε σ α} {f : α → EStateM ε σ β}
    {Q : α → σ → Prop} {R : β → σ → Prop} {E : σ → Prop}
    (hx : Triple P x Q E) (hf : ∀ a, Triple (Q a) (f a) R E) : Triple P (x >>= f) R E := by
  intro s hs
  have hh := hx s hs
  rw [bind_apply]
  revert hh
  cases x s with
  | ok a s' => exact hf a s'
  | error e s' => exact id

theorem Triple.ite {P : σ → Prop} {p : Prop} [Decidable p] {x y : EStateM ε σ α}
    {Q : α → σ → Prop} {E : σ → Prop} (hx : Triple P x Q E) (hy : Triple P y Q E) :
    Triple P (if p then x else y) Q E := by
  by_cases hp : p
  · rwa [if_pos hp]
  · rwa [if_neg hp]

/-- `J` holds all along a run that starts in `J`: at its end, or where it fails. -/
abbrev Keeps (J : σ → Prop) (x : EStateM ε σ α) : Prop := Triple J x (fun _ => J) J

theorem Keeps.pure {J : σ → Prop} (a : α) : Keeps J (pure a : EStateM ε σ α) := fun _ h => h

theorem Keeps.throw {J : σ → Prop} (e : ε) : Keeps J (throw e : EStateM ε σ α) := fun _ h => h

theorem Keeps.get {J : σ → Prop} : Keeps J (get : EStateM ε σ σ) := fun _ h => h

theorem Keeps.finalState {J : σ → Prop} {x : EStateM ε σ α} (h : Keeps J x) {s : σ} (hs : J s) :
    J (finalState (x s)) := by
  have hh := h s hs
  revert hh
  cases x s with
  | ok a s' => exact id
  | error e s' => exact id

theorem Keeps.of_finalState {J : σ → Prop} {x : EStateM ε σ α}
    (h : ∀ s, J s → J (StateTriple.finalState (x s))) : Keeps J x := by
  intro s hs
  have hx := h s hs
  revert hx
  cases x s with
  | ok a s' => exact id
  | error e s' => exact id

/-- A loop run on fuel: `body` either goes on with a new loop variable or leaves
with a result; `stuck` is raised when the fuel is used up. -/
def iterate (stuck : ε) (body : β → EStateM ε σ (β ⊕ α)) : ℕ → β → EStateM ε σ α
  | 0, _ => throw stuck
  | n+1, b => do
    match ← body b with
    | .inl b' => iterate stuck body n b'
    | .inr a => pure a

/-- The loop rule: `I` holds at the loop head, with the loop variable as an index. -/
theorem iterate_triple {stuck : ε} {body : β → EStateM ε σ (β ⊕ α)} (I : β → σ → Prop)
    {Q : α → σ → Prop} {E : σ → Prop}
    (hbody : ∀ b, Triple (I b) (body b) (fun r s => r.elim (fun b' => I b' s) (fun a => Q a s)) E)
    (hstuck : ∀ b s, I b s → E s) (n : ℕ) (b : β) :
    Triple (I b) (iterate stuck body n b) Q E := by
  induction n generalizing b with
  | zero => exact Triple.throw (hstuck b)
  | succ n ih =>
    refine Triple.bind (hbody b) fun r => ?_
    cases r with
    | inl b' => exact ih b'
    | inr a => exact Triple.pure fun _ h => h

theorem Keeps.ite {J : σ → Prop} {p : Prop} [Decidable p] {x y : EStateM ε σ α} (hx : Keeps J x)
    (hy : Keeps J y) : Keeps J (if p then x else y) := Triple.ite hx hy

/-- A loop keeps what each of its rounds keeps. -/
theorem Keeps.iterate {J : σ → Prop} {stuck : ε} {body : β → EStateM ε σ (β ⊕ α)}
    (hbody : ∀ b, Keeps J (body b)) (n : ℕ) (b : β) :
    Keeps J (StateTriple.iterate stuck body n b) := by
  apply iterate_triple (fun _ => J)
  · intro b
    refine (hbody b).conseq (fun _ h => h) (fun r s h => ?_) fun _ h => h
    cases r with
    | inl b' => exact h
    | inr a => exact h
  · exact fun _ _ h => h

/-- A loop whose body, from a loop variable in `I`, only ever goes on to another one in `I`
returns on no amount of fuel. -/
theorem iterate_diverges {stuck : ε} {body : β → EStateM ε σ (β ⊕ α)} (I : β → Prop)
    (hbody : ∀ b, I b → Triple (fun _ => True) (body b) (fun r _ => r.elim I fun _ => False)
      fun _ => True)
    (n : ℕ) {b : β} (hb : I b) (s s' : σ) (a : α) : iterate stuck body n b s ≠ .ok a s' := by
  have h : Triple (fun _ => I b) (iterate stuck body n b) (fun _ _ => False) (fun _ => True) := by
    refine iterate_triple (fun b _ => I b) (fun b s hs => ?_) (fun _ _ _ => trivial) n b
    -- the body ends with the next loop variable in `I`, or fails
    exact hbody b hs s trivial
  intro hx
  exact h.ok hb hx

/-- With enough fuel the program returns `a`, in the state `s'`. -/
def Settles (x : ℕ → EStateM ε σ α) (s : σ) (a : α) (s' : σ) : Prop :=
  ∃ n, ∀ fuel, n ≤ fuel → x fuel s = .ok a s'

theorem Settles.of_eq {x : ℕ → EStateM ε σ α} {s s' : σ} {a : α}
    (h : ∀ fuel, x fuel s = .ok a s') : Settles x s a s' :=
  ⟨0, fun fuel _ => h fuel⟩

theorem Settles.bind {x : ℕ → EStateM ε σ α} {f : ℕ → α → EStateM ε σ β} {s s₁ s' : σ} {a : α}
    {b : β} (hx : Settles x s a s₁) (hf : Settles (fun fuel => f fuel a) s₁ b s') :
    Settles (fun fuel => x fuel >>= f fuel) s b s' := by
  obtain ⟨n,hn⟩ := hx
  obtain ⟨m,hm⟩ := hf
  refine ⟨max n m, fun fuel hfuel => ?_⟩
  change (x fuel >>= f fuel) s = _
  rw [bind_apply, hn fuel (by omega)]
  exact hm fuel (by omega)

/-- A loop settles if each round does, and those that go on lower the variant `k` of `I k`. -/
theorem iterate_settles {stuck : ε} {body : ℕ → β → EStateM ε σ (β ⊕ α)} (I : ℕ → β → σ → Prop)
    {Q : α → σ → Prop}
    (hbody : ∀ k b s, I k b s → ∃ r s', Settles (fun fuel => body fuel b) s r s' ∧
      r.elim (fun b' => ∃ j < k, I j b' s') fun a => Q a s')
    {k : ℕ} {b : β} {s : σ} (h : I k b s) :
    ∃ a s', Settles (fun fuel => iterate stuck (body fuel) fuel b) s a s' ∧ Q a s' := by
  -- the fuel of the loop runs down, that of its body does not
  suffices hs : ∃ a s', (∃ n, ∀ fuel, n ≤ fuel → ∀ m, n ≤ m →
      iterate stuck (body fuel) m b s = .ok a s') ∧ Q a s' by
    obtain ⟨a,s',⟨n,hn⟩,hq⟩ := hs
    exact ⟨a, s', ⟨n, fun fuel hf => hn fuel hf fuel hf⟩, hq⟩
  induction k using Nat.strongRecOn generalizing b s with
  | _ k ih =>
    obtain ⟨r,s₁,⟨n,hn⟩,hr⟩ := hbody k b s h
    cases r with
    | inr a =>
      refine ⟨a, s₁, ⟨n+1, fun fuel hf m hm => ?_⟩, hr⟩
      obtain ⟨m,rfl⟩ : ∃ l, m = l+1 := ⟨m-1, by omega⟩
      have hround : body fuel b s = .ok (.inr a) s₁ := hn fuel (by omega)
      rw [iterate, bind_apply, hround]
      rfl
    | inl b' =>
      obtain ⟨j,hj,hI⟩ := hr
      obtain ⟨a,s',⟨n',hn'⟩,hq⟩ := ih j hj hI
      refine ⟨a, s', ⟨max n n'+1, fun fuel hf m hm => ?_⟩, hq⟩
      obtain ⟨m,rfl⟩ : ∃ l, m = l+1 := ⟨m-1, by omega⟩
      have hround : body fuel b s = .ok (.inl b') s₁ := hn fuel (by omega)
      rw [iterate, bind_apply, hround]
      exact hn' fuel (by omega) m (by omega)

/-- The run returns in `Q`, or is out of fuel: it has failed with `stuck`. -/
def Yields (stuck : ε) (Q : α → σ → Prop) : EStateM.Result ε σ α → Prop
  | .ok a s => Q a s
  | .error e _ => e = stuck

/-- The run is out of fuel. -/
def RunsOut (stuck : ε) (r : EStateM.Result ε σ α) : Prop := Yields stuck (fun _ _ => False) r

theorem Yields.bind {stuck : ε} {x : EStateM ε σ α} {f : α → EStateM ε σ β} {P : α → σ → Prop}
    {Q : β → σ → Prop} {s : σ} (hx : Yields stuck P (x s))
    (hf : ∀ a s', P a s' → Yields stuck Q (f a s')) : Yields stuck Q ((x >>= f) s) := by
  rw [bind_apply]
  revert hx
  cases x s with
  | ok a s' => exact hf a s'
  | error e s' => exact id

theorem Yields.mono {stuck : ε} {P Q : α → σ → Prop} {r : EStateM.Result ε σ α}
    (h : Yields stuck P r) (hpq : ∀ a s, P a s → Q a s) : Yields stuck Q r := by
  cases r with
  | ok a s => exact hpq a s h
  | error e s => exact h

/-- A loop whose rounds return or are out of fuel themselves. -/
theorem iterate_yields {stuck : ε} {body : β → EStateM ε σ (β ⊕ α)} (I : β → σ → Prop)
    {Q : α → σ → Prop} (hbody : ∀ b s, I b s →
      Yields stuck (fun r s' => r.elim (fun b' => I b' s') fun a => Q a s') (body b s))
    (n : ℕ) {b : β} {s : σ} (h : I b s) : Yields stuck Q (iterate stuck body n b s) := by
  induction n generalizing b s with
  | zero => exact rfl
  | succ n ih =>
    refine (hbody b s h).bind fun r s' hr => ?_
    cases r with
    | inl b' => exact ih hr
    | inr a => exact hr

/-- The program cannot run out of fuel. -/
def NeverRunsOut (stuck : ε) (x : EStateM ε σ α) : Prop := ∀ s, ¬RunsOut stuck (x s)

theorem NeverRunsOut.pure (stuck : ε) (a : α) :
    NeverRunsOut stuck (pure a : EStateM ε σ α) := fun _ h => h

theorem NeverRunsOut.throw {stuck e : ε} (h : e ≠ stuck) :
    NeverRunsOut stuck (throw e : EStateM ε σ α) := fun _ he => h he

theorem NeverRunsOut.get (stuck : ε) : NeverRunsOut stuck (get : EStateM ε σ σ) := fun _ h => h

theorem NeverRunsOut.modify (stuck : ε) (f : σ → σ) :
    NeverRunsOut stuck (modify f : EStateM ε σ PUnit) := fun _ h => h

/-- What comes after matters only if it can run out of fuel. -/
theorem runsOut_bind_iff {stuck : ε} {x : EStateM ε σ α} {f : α → EStateM ε σ β} {s : σ}
    (hf : ∀ a, NeverRunsOut stuck (f a)) : RunsOut stuck ((x >>= f) s) ↔ RunsOut stuck (x s) := by
  rw [bind_apply]
  cases x s with
  | ok a s' => exact ⟨fun h => absurd h (hf a s'), fun h => h.elim⟩
  | error e s' => exact Iff.rfl

theorem runsOut_bind_pure_iff {stuck : ε} {x : EStateM ε σ α} {g : α → β} {s : σ} :
    RunsOut stuck ((do let a ← x; pure (g a)) s) ↔ RunsOut stuck (x s) :=
  runsOut_bind_iff fun _ => NeverRunsOut.pure _ _

theorem NeverRunsOut.bind {stuck : ε} {x : EStateM ε σ α} {f : α → EStateM ε σ β}
    (hx : NeverRunsOut stuck x) (hf : ∀ a, NeverRunsOut stuck (f a)) :
    NeverRunsOut stuck (x >>= f) := fun s => mt (runsOut_bind_iff hf).mp (hx s)

theorem NeverRunsOut.ite {stuck : ε} {x y : EStateM ε σ α} {p : Prop} [Decidable p]
    (hx : NeverRunsOut stuck x) (hy : NeverRunsOut stuck y) :
    NeverRunsOut stuck (if p then x else y) := by
  by_cases hp : p
  · rw [if_pos hp]
    exact hx
  · rw [if_neg hp]
    exact hy

/-- A loop fails in no way that its rounds do not, except that it is stuck itself. -/
theorem NeverRunsOut.iterate {stuck other : ε} (hne : other ≠ stuck)
    {body : β → EStateM ε σ (β ⊕ α)} (h : ∀ b, NeverRunsOut stuck (body b)) (n : ℕ) (b : β) :
    NeverRunsOut stuck (StateTriple.iterate other body n b) := by
  induction n generalizing b with
  | zero => exact NeverRunsOut.throw hne
  | succ n ih =>
    refine NeverRunsOut.bind (h b) fun r => ?_
    cases r with
    | inl b' => exact ih b'
    | inr a => exact NeverRunsOut.pure _ _

/-- With enough fuel the program ends, returning or not. -/
def Ends (stuck : ε) (x : ℕ → EStateM ε σ α) (s : σ) : Prop :=
  ∃ n, ∀ fuel, n ≤ fuel → ¬RunsOut stuck (x fuel s)

/-- More fuel is no help. -/
def Spins (stuck : ε) (x : ℕ → EStateM ε σ α) (s : σ) : Prop :=
  ∃ n, ∀ fuel, n ≤ fuel → RunsOut stuck (x fuel s)

section Fuel

variable {stuck : ε} {x : ℕ → EStateM ε σ α} {f : ℕ → α → EStateM ε σ β} {s s' : σ} {a : α}

theorem Spins.not_ends (h : Spins stuck x s) : ¬Ends stuck x s := by
  rintro ⟨n,hn⟩
  obtain ⟨m,hm⟩ := h
  exact hn (max n m) (Nat.le_max_left n m) (hm (max n m) (Nat.le_max_right n m))

theorem Ends.of_never (h : ∀ fuel, NeverRunsOut stuck (x fuel)) (s : σ) : Ends stuck x s :=
  ⟨0, fun fuel _ => h fuel s⟩

theorem Ends.ite {y : ℕ → EStateM ε σ α} {p : Prop} [Decidable p] (hx : p → Ends stuck x s)
    (hy : ¬p → Ends stuck y s) : Ends stuck (fun fuel => if p then x fuel else y fuel) s := by
  by_cases hp : p
  · simp only [if_pos hp]
    exact hx hp
  · simp only [if_neg hp]
    exact hy hp

theorem Settles.ends (h : Settles x s a s') : Ends stuck x s := by
  obtain ⟨n,hn⟩ := h
  refine ⟨n, fun fuel hfuel => ?_⟩
  rw [hn fuel hfuel]
  exact id

theorem Settles.bind_spins (hx : Settles x s a s') (hf : Spins stuck (fun fuel => f fuel a) s') :
    Spins stuck (fun fuel => x fuel >>= f fuel) s := by
  obtain ⟨n,hn⟩ := hx
  obtain ⟨m,hm⟩ := hf
  refine ⟨max n m, fun fuel hfuel => ?_⟩
  change RunsOut stuck ((x fuel >>= f fuel) s)
  rw [bind_apply, hn fuel (by omega)]
  exact hm fuel (by omega)

/-- What comes after a program that spins is never reached. -/
theorem Spins.bind (hx : Spins stuck x s) (f : ℕ → α → EStateM ε σ β) :
    Spins stuck (fun fuel => x fuel >>= f fuel) s := by
  obtain ⟨n,hn⟩ := hx
  exact ⟨n, fun fuel hfuel => (hn fuel hfuel).bind fun _ _ h => h.elim⟩

/-- What comes after a program does not matter if it cannot run out of fuel. -/
theorem ends_bind_iff (hf : ∀ fuel a, NeverRunsOut stuck (f fuel a)) :
    Ends stuck (fun fuel => x fuel >>= f fuel) s ↔ Ends stuck x s := by
  constructor <;> rintro ⟨n,hn⟩ <;> refine ⟨n, fun fuel hfuel => ?_⟩
  · exact mt (runsOut_bind_iff (hf fuel)).mpr (hn fuel hfuel)
  · exact mt (runsOut_bind_iff (hf fuel)).mp (hn fuel hfuel)

theorem ends_bind_pure_iff {g : ℕ → α → β} :
    Ends stuck (fun fuel => do let a ← x fuel; pure (g fuel a)) s ↔ Ends stuck x s :=
  ends_bind_iff fun _ _ => NeverRunsOut.pure _ _

end Fuel

/-- An invariant of a step relation holds along every run. -/
theorem invariant_of_run {Step : σ → σ → Prop} {I : σ → Prop}
    (hstep : ∀ s s', Step s s' → I s → I s') {s s' : σ}
    (hrun : Relation.ReflTransGen Step s s') (hs : I s) : I s' := by
  induction hrun with
  | refl => exact hs
  | tail _ hst ih => exact hstep _ _ hst ih

end InternetCourse.StateTriple
