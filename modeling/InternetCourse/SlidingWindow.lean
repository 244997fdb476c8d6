import Mathlib.Data.List.Basic
import Mathlib.Order.MinMax

/-! A sender that numbers its datagrams and keeps a window of them unacknowledged: what the
counters of such a sender mean, in unbounded arithmetic. -/
namespace InternetCourse.SlidingWindow

/-- `next` is the number of the next datagram, `expected` is one past the highest number
acknowledged, and so many datagrams may be on their way. -/
structure State where
  next : ℕ
  expected : ℕ
  window : ℕ

def State.inFlight (s : State) : ℕ := s.next-s.expected

inductive Action where
  | fill
  | ack (n window : ℕ)
  | nudge
  deriving DecidableEq

/-- The window is filled up, a datagram that was sent is acknowledged and the window set anew, or
one datagram is sent out of turn. -/
inductive Step : Action → State → State → Prop where
  | fill {s : State} : Step .fill s { s with next := max s.next (s.expected+s.window) }
  | ack {s : State} {n : ℕ} (window : ℕ) : n < s.next →
      Step (.ack n window) s ⟨s.next, max s.expected (n+1), window⟩
  | nudge {s : State} : Step .nudge s { s with next := s.next+1 }

/-- A run with the states it went through, the first one first. -/
inductive Run (s₀ : State) : List (State × Action) → State → Prop where
  | start : Run s₀ [] s₀
  | next {l : List (State × Action)} {s s' : State} {a : Action} :
      Run s₀ l s → Step a s s' → Run s₀ (l ++ [(s,a)]) s'

/-- The largest of the values there have been and the present one. -/
def peak (past : List ℕ) (present : ℕ) : ℕ := past.foldr max present

/-- The largest window so far. -/
def largest (l : List (State × Action)) (s : State) : ℕ := peak (l.map fun x => x.1.window) s.window

/-- How many datagrams were sent out of turn. -/
def nudges (l : List (State × Action)) : ℕ := l.countP fun x => x.2 = .nudge

/-- No acknowledgement is ahead of what was sent, and no more is on its way than the largest
window and the nudges account for. -/
structure Accounted (l : List (State × Action)) (s : State) : Prop where
  ordered : s.expected ≤ s.next
  bounded : s.inFlight ≤ largest l s+nudges l

variable {s₀ s s' : State} {l : List (State × Action)} {a : Action}

theorem Step.expected_le (h : Step a s s') : s.expected ≤ s'.expected := by
  cases h with
  | fill | nudge => exact le_rfl
  | ack => exact le_max_left _ _

theorem le_peak (past : List ℕ) (present : ℕ) : present ≤ peak past present := by
  induction past with
  | nil => exact le_rfl
  | cons x past ih => exact le_max_of_le_right ih

/-- What was present is past now. -/
theorem peak_snoc (past : List ℕ) (present new : ℕ) :
    peak (past ++ [present]) new = max (peak past present) new := by
  induction past with
  | nil => rfl
  | cons x past ih => exact (congrArg (max x) ih).trans (max_assoc _ _ _).symm

theorem largest_snoc (l : List (State × Action)) (s s' : State) (a : Action) :
    largest (l ++ [(s,a)]) s' = max (largest l s) s'.window := by
  rw [largest, List.map_append]
  exact peak_snoc _ _ _

theorem nudges_snoc (l : List (State × Action)) (s : State) (a : Action) :
    nudges (l ++ [(s,a)]) = nudges l+if a = .nudge then 1 else 0 := by
  simp [nudges, List.countP_append, List.countP_cons]

theorem Accounted.step (h : Accounted l s) (hs : Step a s s') :
    Accounted (l ++ [(s,a)]) s' := by
  obtain ⟨ho,hb⟩ := h
  have hmono := largest_snoc l s s' a
  have hcount := nudges_snoc l s a
  have hwindow : s.window ≤ largest l s := le_peak _ _
  rw [State.inFlight] at hb
  cases hs with
  | fill =>
    refine ⟨le_max_of_le_left ho, ?_⟩
    rw [if_neg (by decide)] at hcount
    rw [State.inFlight]
    dsimp only
    omega
  | ack window hn =>
    refine ⟨max_le ho hn, ?_⟩
    rw [if_neg (by simp)] at hcount
    rw [State.inFlight]
    dsimp only
    omega
  | nudge =>
    refine ⟨Nat.le_succ_of_le ho, ?_⟩
    rw [if_pos rfl] at hcount
    rw [State.inFlight]
    dsimp only
    omega

theorem Run.accounted (h : Run s₀ l s) (h₀ : s₀.next = s₀.expected) : Accounted l s := by
  induction h with
  | start =>
    refine ⟨h₀.ge, ?_⟩
    rw [State.inFlight]
    omega
  | next _ hs ih => exact ih.step hs

end InternetCourse.SlidingWindow
