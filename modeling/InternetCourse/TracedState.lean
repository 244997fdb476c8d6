import InternetCourse.StateTriple

/-! Programs that leave a trace beside what they do to the state: the program without its
trace, and the trace of a composed program. A failing run keeps the trace it has left. -/
namespace InternetCourse.TracedState

open StateTriple

variable {ε σ τ κ ρ α β γ : Type}

/-- A program over the state `σ` whose runs leave entries of type `τ`, the first one first. -/
def Traced (ε σ τ α : Type) : Type := σ → EStateM.Result ε σ α × List τ

/-- The program without its trace. -/
def erase (x : Traced ε σ τ α) : EStateM ε σ α := fun s => (x s).1

/-- The entries a run leaves. -/
def trace (x : Traced ε σ τ α) (s : σ) : List τ := (x s).2

def andThen (x : Traced ε σ τ α) (f : α → Traced ε σ τ β) : Traced ε σ τ β := fun s =>
  match (x s).1 with
  | .ok a s' => ((f a s').1, (x s).2 ++ (f a s').2)
  | .error e s' => (.error e s', (x s).2)

instance : Monad (Traced ε σ τ) where
  pure a := fun s => (.ok a s, [])
  bind := andThen

/-- A program that leaves no trace. -/
def lift (x : EStateM ε σ α) : Traced ε σ τ α := fun s => (x s, [])

/-- Leaves these entries, and nothing else. -/
def note (l : List τ) : Traced ε σ τ Unit := fun s => (.ok () s, l)

/-- A loop run on fuel, as `iterate` is for programs without a trace. -/
def loop (stuck : ε) (body : β → Traced ε σ τ (β ⊕ α)) : ℕ → β → Traced ε σ τ α
  | 0, _ => lift (throw stuck)
  | n+1, b => do
    match ← body b with
    | .inl b' => loop stuck body n b'
    | .inr a => pure a

/-- The same program with each entry turned into another one, or dropped. -/
def relabel (f : τ → Option κ) (x : Traced ε σ τ α) : Traced ε σ κ α := fun s =>
  ((x s).1, (x s).2.filterMap f)

/-- A program over a part of the state. -/
def zoom (get : σ → ρ) (set : ρ → σ → σ) (x : Traced ε ρ τ α) : Traced ε σ τ α := fun s =>
  (match (x (get s)).1 with
    | .ok a r => .ok a (set r s)
    | .error e r => .error e (set r s), (x (get s)).2)

@[simp] theorem erase_lift (x : EStateM ε σ α) : erase (lift x : Traced ε σ τ α) = x := rfl

@[simp] theorem erase_note (l : List τ) : erase (note l : Traced ε σ τ Unit) = pure () := rfl

@[simp] theorem erase_pure (a : α) : erase (pure a : Traced ε σ τ α) = pure a := rfl

@[simp] theorem erase_bind (x : Traced ε σ τ α) (f : α → Traced ε σ τ β) :
    erase (x >>= f) = erase x >>= fun a => erase (f a) := by
  funext s
  change (andThen x f s).1 = _
  rw [bind_apply, andThen, erase]
  cases (x s).1 with
  | ok a s' => rfl
  | error e s' => rfl

@[simp] theorem erase_ite (p : Prop) [Decidable p] (x y : Traced ε σ τ α) :
    erase (if p then x else y) = if p then erase x else erase y := by
  split <;> rfl

theorem erase_loop (stuck : ε) (body : β → Traced ε σ τ (β ⊕ α)) (n : ℕ) (b : β) :
    erase (loop stuck body n b) = iterate stuck (fun b => erase (body b)) n b := by
  induction n generalizing b with
  | zero => rfl
  | succ n ih =>
    rw [loop, erase_bind, iterate]
    congr 1
    funext r
    cases r with
    | inl b' => exact ih b'
    | inr a => rfl

@[simp] theorem trace_lift (x : EStateM ε σ α) (s : σ) : trace (lift x : Traced ε σ τ α) s = [] := rfl

@[simp] theorem trace_note (l : List τ) (s : σ) : trace (note l : Traced ε σ τ Unit) s = l := rfl

@[simp] theorem trace_pure (a : α) (s : σ) : trace (pure a : Traced ε σ τ α) s = [] := rfl

/-- What follows a program that returns leaves its entries after those of the program. -/
theorem trace_bind_ok {x : Traced ε σ τ α} {s s' : σ} {a : α} (h : erase x s = .ok a s')
    (f : α → Traced ε σ τ β) : trace (x >>= f) s = trace x s ++ trace (f a) s' := by
  have hx : (x s).1 = .ok a s' := h
  change (andThen x f s).2 = _
  rw [andThen, hx]
  rfl

theorem trace_bind_error {x : Traced ε σ τ α} {s s' : σ} {e : ε} (h : erase x s = .error e s')
    (f : α → Traced ε σ τ β) : trace (x >>= f) s = trace x s := by
  have hx : (x s).1 = .error e s' := h
  change (andThen x f s).2 = _
  rw [andThen, hx]
  rfl

@[simp] theorem trace_note_bind (l : List τ) (f : Unit → Traced ε σ τ β) (s : σ) :
    trace (note l >>= f) s = l ++ trace (f ()) s := trace_bind_ok rfl f

/-- Every entry a run leaves satisfies `P`. -/
def Leaves (P : τ → Prop) (x : Traced ε σ τ α) (s : σ) : Prop := ∀ t ∈ trace x s, P t

theorem Leaves.lift (P : τ → Prop) (x : EStateM ε σ α) (s : σ) :
    Leaves P (lift x : Traced ε σ τ α) s := by
  intro t ht
  contradiction

theorem Leaves.pure (P : τ → Prop) (a : α) (s : σ) : Leaves P (pure a : Traced ε σ τ α) s := by
  intro t ht
  contradiction

theorem Leaves.note {P : τ → Prop} {l : List τ} (h : ∀ t ∈ l, P t) (s : σ) :
    Leaves P (note l : Traced ε σ τ Unit) s := h

/-- What comes after `x` is run only where `x` returns. -/
theorem Leaves.bind {P : τ → Prop} {x : Traced ε σ τ α} {f : α → Traced ε σ τ β} {s : σ}
    (hx : Leaves P x s) (hf : ∀ a s', erase x s = .ok a s' → Leaves P (f a) s') :
    Leaves P (x >>= f) s := by
  intro t ht
  cases h : erase x s with
  | ok a s' =>
    rw [trace_bind_ok h] at ht
    rcases List.mem_append.mp ht with ht | ht
    · exact hx t ht
    · exact hf a s' h t ht
  | error e s' =>
    rw [trace_bind_error h] at ht
    exact hx t ht

theorem Leaves.lift_bind {P : τ → Prop} {x : EStateM ε σ α} {f : α → Traced ε σ τ β} {s : σ}
    (hf : ∀ a s', x s = .ok a s' → Leaves P (f a) s') :
    Leaves P ((TracedState.lift x : Traced ε σ τ α) >>= f) s :=
  Leaves.bind (Leaves.lift P x s) hf

theorem Leaves.note_bind {P : τ → Prop} {l : List τ} {f : Unit → Traced ε σ τ β} {s : σ}
    (h : ∀ t ∈ l, P t) (hf : Leaves P (f ()) s) :
    Leaves P ((TracedState.note l : Traced ε σ τ Unit) >>= f) s := by
  apply Leaves.bind (Leaves.note h s)
  intro a s' hs
  obtain rfl := (EStateM.Result.ok.inj hs).2
  exact hf

/-- Entries left under a condition only. -/
theorem Leaves.note_if {P : τ → Prop} {p : Prop} [Decidable p] {l : List τ}
    {f : Unit → Traced ε σ τ β} {s : σ} (h : ∀ t ∈ l, P t) (hf : Leaves P (f ()) s) :
    Leaves P (if p then (TracedState.note l : Traced ε σ τ Unit) >>= f else f ()) s := by
  split
  · exact Leaves.note_bind h hf
  · exact hf

/-- `x` does nothing but leave its entries. -/
theorem Leaves.silent_bind {P : τ → Prop} {x : Traced ε σ τ Unit} {f : Unit → Traced ε σ τ β}
    {s : σ} (he : erase x = Pure.pure ()) (hx : Leaves P x s) (hf : Leaves P (f ()) s) :
    Leaves P (x >>= f) s := by
  apply Leaves.bind hx
  intro a s' hs
  rw [he] at hs
  obtain rfl := (EStateM.Result.ok.inj hs).2
  exact hf

theorem Leaves.ite {P : τ → Prop} {p : Prop} [Decidable p] {x y : Traced ε σ τ α} {s : σ}
    (hx : p → Leaves P x s) (hy : ¬p → Leaves P y s) : Leaves P (if p then x else y) s := by
  by_cases h : p
  · rw [if_pos h]
    exact hx h
  · rw [if_neg h]
    exact hy h

theorem Leaves.mono {P Q : τ → Prop} {x : Traced ε σ τ α} {s : σ} (h : Leaves P x s)
    (hpq : ∀ t, P t → Q t) : Leaves Q x s := by
  intro t ht
  exact hpq t (h t ht)

/-- A loop whose body, from a state in `I`, goes on in a state in `I`. -/
theorem Leaves.loop {P : τ → Prop} {stuck : ε} {body : β → Traced ε σ τ (β ⊕ α)}
    (I : β → σ → Prop) (hbody : ∀ b s, I b s → Leaves P (body b) s)
    (hkeep : ∀ b s b' s', I b s → erase (body b) s = .ok (.inl b') s' → I b' s')
    (n : ℕ) {b : β} {s : σ} (hs : I b s) : Leaves P (loop stuck body n b) s := by
  induction n generalizing b s with
  | zero => exact Leaves.lift P _ s
  | succ n ih =>
    apply Leaves.bind (hbody b s hs)
    intro r s' h
    cases r with
    | inl b' => exact ih (hkeep b s b' s' hs h)
    | inr a => exact Leaves.pure P a s'

@[simp] theorem erase_relabel (f : τ → Option κ) (x : Traced ε σ τ α) :
    erase (relabel f x) = erase x := rfl

theorem Leaves.relabel {P : κ → Prop} {f : τ → Option κ} {x : Traced ε σ τ α} {s : σ}
    (h : Leaves (fun t => ∀ u, f t = some u → P u) x s) : Leaves P (relabel f x) s := by
  intro u hu
  obtain ⟨t,ht,hf⟩ := List.mem_filterMap.mp hu
  exact h t ht u hf

theorem mem_trace_relabel {f : τ → Option κ} {x : Traced ε σ τ α} {s : σ} {t : τ} {u : κ}
    (h : t ∈ trace x s) (hf : f t = some u) : u ∈ trace (relabel f x) s :=
  List.mem_filterMap.mpr ⟨t, h, hf⟩

theorem erase_bind_keeps {J : σ → Prop} {x : Traced ε σ τ α} {f : α → Traced ε σ τ β}
    (hx : Keeps J (erase x)) (hf : ∀ a, Keeps J (erase (f a))) : Keeps J (erase (x >>= f)) := by
  rw [erase_bind]
  exact Triple.bind hx hf

theorem erase_ite_keeps {J : σ → Prop} {p : Prop} [Decidable p] {x y : Traced ε σ τ α}
    (hx : Keeps J (erase x)) (hy : Keeps J (erase y)) : Keeps J (erase (if p then x else y)) := by
  rw [erase_ite]
  exact Keeps.ite hx hy

theorem erase_bind_settles {x : ℕ → Traced ε σ τ α} {f : ℕ → α → Traced ε σ τ β} {s s₁ s' : σ}
    {a : α} {b : β} (hx : Settles (fun fuel => erase (x fuel)) s a s₁)
    (hf : Settles (fun fuel => erase (f fuel a)) s₁ b s') :
    Settles (fun fuel => erase (x fuel >>= f fuel)) s b s' := by
  simp only [erase_bind]
  exact hx.bind hf

theorem erase_bind_spins {stuck : ε} {x : ℕ → Traced ε σ τ α} {f : ℕ → α → Traced ε σ τ β}
    {s s₁ : σ} {a : α} (hx : Settles (fun fuel => erase (x fuel)) s a s₁)
    (hf : Spins stuck (fun fuel => erase (f fuel a)) s₁) :
    Spins stuck (fun fuel => erase (x fuel >>= f fuel)) s := by
  simp only [erase_bind]
  exact hx.bind_spins hf

section Zoom

variable {get : σ → ρ} {set : ρ → σ → σ} {x : Traced ε ρ τ α} {s : σ}

theorem erase_zoom : erase (zoom get set x) s = match erase x (get s) with
    | .ok a r => .ok a (set r s)
    | .error e r => .error e (set r s) := rfl

theorem runsOut_zoom_iff {stuck : ε} :
    RunsOut stuck (erase (zoom get set x) s) ↔ RunsOut stuck (erase x (get s)) := by
  rw [erase_zoom]
  cases erase x (get s) with
  | ok a r => exact Iff.rfl
  | error e r => exact Iff.rfl

theorem erase_zoom_neverRunsOut {stuck : ε} (h : NeverRunsOut stuck (erase x)) :
    NeverRunsOut stuck (erase (zoom get set x)) := fun s => mt runsOut_zoom_iff.mp (h (get s))

theorem erase_zoom_ok {a : α} {s' : σ} (h : erase (zoom get set x) s = .ok a s') :
    ∃ r, erase x (get s) = .ok a r ∧ s' = set r s := by
  rw [erase_zoom] at h
  cases hx : erase x (get s) with
  | ok b r =>
    rw [hx] at h
    obtain ⟨rfl,rfl⟩ := EStateM.Result.ok.inj h
    exact ⟨r,rfl,rfl⟩
  | error e r =>
    rw [hx] at h
    contradiction

theorem Leaves.zoom {P : τ → Prop} (h : Leaves P x (get s)) : Leaves P (zoom get set x) s := h

theorem mem_trace_zoom {t : τ} (h : t ∈ trace x (get s)) : t ∈ trace (zoom get set x) s := h

/-- What holds of the rest of the state is left alone. -/
theorem erase_zoom_triple {P : ρ → Prop} {Q : α → ρ → Prop} {E : ρ → Prop} {F : σ → Prop}
    (h : Triple P (erase x) Q E) (hget : ∀ r s, get (set r s) = r)
    (hF : ∀ r s, F s → F (set r s)) :
    Triple (fun s => P (get s) ∧ F s) (erase (zoom get set x)) (fun a s => Q a (get s) ∧ F s)
      fun s => E (get s) ∧ F s := by
  intro s hs
  have hx := h (get s) hs.1
  rw [erase_zoom]
  revert hx
  cases erase x (get s) with
  | ok a r =>
    intro hx
    dsimp only
    rw [hget]
    exact ⟨hx, hF r s hs.2⟩
  | error e r =>
    intro hx
    dsimp only
    rw [hget]
    exact ⟨hx, hF r s hs.2⟩

theorem erase_zoom_settles {x : ℕ → Traced ε ρ τ α} {a : α} {r : ρ}
    (h : Settles (fun fuel => erase (x fuel)) (get s) a r) :
    Settles (fun fuel => erase (zoom get set (x fuel))) s a (set r s) := by
  obtain ⟨n,hn⟩ := h
  refine ⟨n, fun fuel hf => ?_⟩
  have hx : erase (x fuel) (get s) = .ok a r := hn fuel hf
  change erase (zoom get set (x fuel)) s = _
  rw [erase_zoom, hx]

end Zoom

/-- What a program has left stays, whatever comes after it. -/
theorem mem_trace_bind {x : Traced ε σ τ α} {s : σ} {t : τ} (h : t ∈ trace x s)
    (f : α → Traced ε σ τ β) : t ∈ trace (x >>= f) s := by
  cases hx : erase x s with
  | ok a s' =>
    rw [trace_bind_ok hx]
    exact List.mem_append_left _ h
  | error e s' =>
    rw [trace_bind_error hx]
    exact h

theorem mem_trace_bind_ok {x : Traced ε σ τ α} {s u : σ} {a : α} {t : τ}
    {f : α → Traced ε σ τ β} (hx : erase x s = .ok a u) (h : t ∈ trace (f a) u) :
    t ∈ trace (x >>= f) s := by
  rw [trace_bind_ok hx]
  exact List.mem_append_right _ h

theorem mem_trace_silent_bind {x : Traced ε σ τ Unit} {f : Unit → Traced ε σ τ β} {s : σ} {t : τ}
    (he : erase x = Pure.pure ()) (h : t ∈ trace (f ()) s) : t ∈ trace (x >>= f) s := by
  apply mem_trace_bind_ok (u := s) _ h
  rw [he]
  rfl

theorem mem_trace_note_if {p : Prop} [Decidable p] {l : List τ} {f : Unit → Traced ε σ τ β} {s : σ}
    {t : τ} (h : t ∈ trace (f ()) s) :
    t ∈ trace (if p then (note l : Traced ε σ τ Unit) >>= f else f ()) s := by
  split
  · exact mem_trace_silent_bind rfl h
  · exact h

end InternetCourse.TracedState
