import Mathlib.Logic.Function.Basic
import Mathlib.Logic.Relation
import Mathlib.Data.Set.Lattice

/-! Components that exchange messages. Whatever was once put on the wire can be delivered to any
component, at any later time and any number of times, or never: loss, duplication, delay and
reordering need no steps of their own. -/
namespace InternetCourse.MessagePassing

/-- What a component does with a message, what it does on its own, and what it has sent so far. -/
structure Component (σ μ : Type) where
  takes : μ → σ → σ → Prop
  acts : σ → σ → Prop
  sent : σ → Set μ

/-- The states of all components, and what was ever on the wire. -/
structure Net (ι σ μ : Type) where
  node : ι → σ
  wire : Set μ

variable {ι σ μ : Type} [DecidableEq ι] {component : ι → Component σ μ} {net net' : Net ι σ μ}

/-- Component `i` goes to `s`. -/
def Net.move (component : ι → Component σ μ) (net : Net ι σ μ) (i : ι) (s : σ) : Net ι σ μ :=
  ⟨Function.update net.node i s, net.wire ∪ (component i).sent s⟩

/-- One component takes one message or acts. -/
inductive NetStep (component : ι → Component σ μ) : Net ι σ μ → Net ι σ μ → Prop where
  | deliver {net : Net ι σ μ} {i : ι} {m : μ} {s : σ} : m ∈ net.wire →
      (component i).takes m (net.node i) s → NetStep component net (net.move component i s)
  | act {net : Net ι σ μ} {i : ι} {s : σ} : (component i).acts (net.node i) s →
      NetStep component net (net.move component i s)

/-- Any number of steps, in any order. -/
abbrev NetRun (component : ι → Component σ μ) :=
  Relation.ReflTransGen (NetStep component)

@[simp] theorem Net.move_self (i : ι) (s : σ) : (net.move component i s).node i = s :=
  Function.update_self ..

theorem Net.move_other {i j : ι} (hj : j ≠ i) (s : σ) :
    (net.move component i s).node j = net.node j :=
  Function.update_of_ne hj ..

theorem Net.move_cases {P : ι → σ → Prop} {i : ι} {s : σ} (hi : P i s)
    (h : ∀ j, P j (net.node j)) (j : ι) : P j ((net.move component i s).node j) := by
  by_cases hj : j = i
  · subst hj
    rw [move_self]
    exact hi
  · rw [move_other hj]
    exact h j

theorem NetStep.wire_mono (h : NetStep component net net') : net.wire ⊆ net'.wire := by
  cases h with
  | deliver | act => exact Set.subset_union_left

/-- What is on the wire was there in the beginning, or some component has sent it; that needs
components that do not forget what they have sent. -/
theorem NetRun.wire (hnet : NetRun component net net')
    (hkeep : ∀ i m s s', (component i).takes m s s' → (component i).sent s ⊆ (component i).sent s')
    (hacts : ∀ i s s', (component i).acts s s' → (component i).sent s ⊆ (component i).sent s')
    {m : μ} (hm : m ∈ net'.wire) :
    m ∈ net.wire ∨ ∃ i, m ∈ (component i).sent (net'.node i) := by
  induction hnet with
  | refl => exact Or.inl hm
  | @tail net₁ net₂ _ hex ih =>
    -- a message sent before is sent still, whoever has moved
    have hold {i : ι} {s : σ} (hs : (component i).sent (net₁.node i) ⊆ (component i).sent s)
        (hm : m ∈ (net₁.move component i s).wire) :
        m ∈ net.wire ∨ ∃ j, m ∈ (component j).sent ((net₁.move component i s).node j) := by
      rcases hm with hm | hm
      · rcases ih hm with h | ⟨j,hj⟩
        · exact Or.inl h
        · refine Or.inr ⟨j, ?_⟩
          by_cases hji : j = i
          · subst hji
            rw [Net.move_self]
            exact hs hj
          · rwa [Net.move_other hji]
      · refine Or.inr ⟨i, ?_⟩
        rwa [Net.move_self]
    cases hex with
    | deliver _ ht => exact hold (hkeep _ _ _ _ ht) hm
    | act ha => exact hold (hacts _ _ _ ha) hm

/-- Rely and guarantee. If every component keeps its invariant as long as it takes good messages
only, and sends good messages as long as its invariant holds, then all is good for ever. -/
theorem NetRun.rely_guarantee {I : ι → σ → Prop} {G : μ → Prop}
    (hsent : ∀ i s, I i s → ∀ m ∈ (component i).sent s, G m)
    (htakes : ∀ i m s s', I i s → G m → (component i).takes m s s' → I i s')
    (hacts : ∀ i s s', I i s → (component i).acts s s' → I i s')
    (hnet : NetRun component net net') (hI : ∀ i, I i (net.node i))
    (hG : ∀ m ∈ net.wire, G m) :
    (∀ i, I i (net'.node i)) ∧ ∀ m ∈ net'.wire, G m := by
  induction hnet with
  | refl => exact ⟨hI,hG⟩
  | tail _ hex ih =>
    have hmove {i : ι} {s : σ} (hs : I i s) :=
      And.intro (@Net.move_cases _ _ _ _ component _ _ _ _ hs ih.1) fun m hm =>
        Or.elim hm (ih.2 m) (hsent i s hs m)
    cases hex with
    | deliver hm ht => exact hmove (htakes _ _ _ _ (ih.1 _) (ih.2 _ hm) ht)
    | act ha => exact hmove (hacts _ _ _ (ih.1 _) ha)

/-- An invariant that speaks of what is on the wire. It has to survive that more gets there. -/
theorem NetRun.invariant {I : ι → Set μ → σ → Prop}
    (hmono : ∀ i M M' s, M ⊆ M' → I i M s → I i M' s)
    (htakes : ∀ i M m s s', I i M s → m ∈ M → (component i).takes m s s' → I i M s')
    (hacts : ∀ i M s s', I i M s → (component i).acts s s' → I i M s')
    (hnet : NetRun component net net') (hI : ∀ i, I i net.wire (net.node i)) :
    ∀ i, I i net'.wire (net'.node i) := by
  induction hnet with
  | refl => exact hI
  | tail _ hex ih =>
    have hmore := hex.wire_mono
    cases hex with
    | deliver hm ht =>
      exact Net.move_cases (P := fun j => I j _) (hmono _ _ _ _ hmore (htakes _ _ _ _ _ (ih _) hm ht))
        fun j => hmono j _ _ _ hmore (ih j)
    | act ha =>
      exact Net.move_cases (P := fun j => I j _) (hmono _ _ _ _ hmore (hacts _ _ _ _ (ih _) ha))
        fun j => hmono j _ _ _ hmore (ih j)

end InternetCourse.MessagePassing
