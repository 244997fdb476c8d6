import InternetCourse.TracedState
import Mathlib.Data.List.TakeDrop

/-! Reading a number of elements from a source that hands them out in pieces, and whose calls
may be interrupted. -/
namespace InternetCourse.PartialRead

open StateTriple TracedState

variable {ε τ α β : Type}

/-- What comes of one call: a signal interrupts it, it delivers `size+1` elements, or as many as
there are and were asked for, or it fails. -/
inductive Delivery where
  | interrupted
  | piece (size : ℕ)
  | failed

/-- What has not been read yet, how many calls have been made, and whether the source was closed
at this end. -/
structure Source (α : Type) where
  unread : List α
  calls : ℕ
  closed : Bool

inductive Answer (α : Type) where
  | interrupted
  | received (l : List α)
  | failed

/-- A call that asks for `n` elements. With nothing left it receives the empty list. -/
def read (schedule : ℕ → Delivery) (n : ℕ) : EStateM ε (Source α) (Answer α) := fun s =>
  let s' := { s with calls := s.calls+1 }
  if s.closed then .ok .failed s' else
    match schedule s.calls with
    | .interrupted => .ok .interrupted s'
    | .failed => .ok .failed s'
    | .piece size =>
      let l := s.unread.take (min (size+1) n)
      .ok (.received l) { s' with unread := s.unread.drop (min (size+1) n) }

/-- Calls until one is not interrupted; `none` where that one fails. -/
def retry (stuck : ε) (schedule : ℕ → Delivery) (fuel n : ℕ) :
    Traced ε (Source α) τ (Option (List α)) :=
  loop stuck (fun _ : Unit => do
    match ← lift (read schedule n) with
    | .interrupted => pure (.inl ())
    | .received l => pure (.inr (some l))
    | .failed => pure (.inr none)) fuel ()

/-- How the reading goes on after a call. -/
def proceed (store : ℕ → List α → β → β) (x : ℕ × β) : Option (List α) → ℕ × β ⊕ Option β
  | none => .inr none
  | some l => .inl (x.1+l.length, store x.1 l x.2)

/-- Reads until there are `limit` elements. A piece that comes in after `b` elements is put into
the destination by `store b`, and its call leaves the entries `mark b`. -/
def fill (stuck : ε) (schedule : ℕ → Delivery) (mark : ℕ → List τ) (store : ℕ → List α → β → β)
    (fuel limit : ℕ) (dst : β) : Traced ε (Source α) τ (Option β) :=
  loop stuck (fun x : ℕ × β =>
    if x.1 < limit then do
      note (mark x.1)
      let r ← retry stuck schedule fuel (limit-x.1)
      pure (proceed store x r)
    else pure (.inr (some x.2))) fuel (0, dst)

/-- Every call is followed by one that delivers, and none fails. -/
structure Fair (schedule : ℕ → Delivery) : Prop where
  again : ∀ n, ∃ m size, schedule (n+m) = .piece size
  sound : ∀ n, schedule n ≠ .failed

section Retry

variable {stuck : ε} {schedule : ℕ → Delivery} {fuel n : ℕ}

/-- One round of the calls. -/
def attempt (schedule : ℕ → Delivery) (n : ℕ) :
    EStateM ε (Source α) (Unit ⊕ Option (List α)) := do
  match ← read schedule n with
  | .interrupted => pure (.inl ())
  | .received l => pure (.inr (some l))
  | .failed => pure (.inr none)

theorem erase_retry : erase (retry stuck schedule fuel n : Traced ε (Source α) τ _) =
    iterate stuck (fun _ => attempt schedule n) fuel () := by
  rw [retry, erase_loop]
  congr 1
  funext u
  rw [erase_bind, erase_lift, attempt]
  congr 1
  funext r
  cases r <;> rfl

/-- What a round does, by what comes of its call. -/
theorem attempt_apply (s : Source α) : (attempt schedule n : EStateM ε (Source α) _) s =
    if s.closed then .ok (.inr none) { s with calls := s.calls+1 } else
    match schedule s.calls with
    | .interrupted => .ok (.inl ()) { s with calls := s.calls+1 }
    | .failed => .ok (.inr none) { s with calls := s.calls+1 }
    | .piece size => .ok (.inr (some (s.unread.take (min (size+1) n))))
        ⟨s.unread.drop (min (size+1) n), s.calls+1, s.closed⟩ := by
  rw [attempt, bind_apply, read]
  by_cases hc : s.closed = true
  · simp only [hc, if_true]
    rfl
  · simp only [hc, Bool.false_eq_true, if_false]
    cases schedule s.calls <;> rfl

/-- The calls fail in no other way than by going on for ever. -/
theorem retry_neverRunsOut {other : ε} (h : stuck ≠ other) :
    NeverRunsOut other (erase (retry stuck schedule fuel n : Traced ε (Source α) τ _)) := by
  rw [erase_retry]
  refine NeverRunsOut.iterate h (fun _ s => ?_) fuel ()
  rw [attempt_apply]
  split_ifs
  · exact id
  · cases schedule s.calls <;> exact id

/-- What is received is the head of what was unread, and the rest stays. -/
theorem retry_triple (u : List α) :
    Triple (fun s : Source α => s.unread = u)
      (erase (retry stuck schedule fuel n : Traced ε (Source α) τ _))
      (fun r (s : Source α) => ∀ l, r = some l → l.length ≤ n ∧ l ++ s.unread = u)
      fun _ => True := by
  rw [erase_retry]
  refine iterate_triple (fun _ (s : Source α) => s.unread = u) (fun _ s hs => ?_)
    (fun _ _ _ => trivial) fuel ()
  rw [attempt_apply]
  by_cases hc : s.closed = true
  · rw [if_pos hc]
    intro l hl
    contradiction
  · rw [if_neg hc]
    cases schedule s.calls with
    | interrupted => exact hs
    | failed =>
      intro l hl
      contradiction
    | piece size =>
      intro l hl
      obtain rfl := Option.some.inj hl
      refine ⟨?_, ?_⟩
      · rw [List.length_take]
        omega
      · rw [List.take_append_drop]
        exact hs

/-- With interruptions only, and something to read, a piece that is not empty comes in. -/
theorem retry_settles (hf : Fair schedule) (hn : 0 < n) {s : Source α} (hc : s.closed = false)
    (hu : s.unread ≠ []) : ∃ l u c, l ≠ [] ∧ l.length ≤ n ∧ l ++ u = s.unread ∧
      Settles (fun fuel => erase (retry stuck schedule fuel n : Traced ε (Source α) τ _)) s (some l)
        ⟨u, c, false⟩ := by
  obtain ⟨m,size,hm⟩ := hf.again s.calls
  have hloop : ∃ r t, Settles (fun fuel => iterate stuck (fun _ => attempt schedule n) fuel ())
      s r t ∧ ∃ l, r = some l ∧ l ≠ [] ∧ l.length ≤ n ∧ l ++ t.unread = s.unread ∧
        t.closed = false := by
    -- the variant is the number of interruptions still to come
    refine iterate_settles (fun k _ t => t.unread = s.unread ∧ t.closed = false ∧
      ∃ size, schedule (t.calls+k) = .piece size) ?_ (k := m) ⟨rfl, hc, size, hm⟩
    rintro k b t ⟨htu,htc,size,hk⟩
    have happly := @attempt_apply ε α schedule n t
    rw [htc, if_neg Bool.false_ne_true] at happly
    cases hd : schedule t.calls with
    | failed => exact absurd hd (hf.sound _)
    | interrupted =>
      rw [hd] at happly
      refine ⟨_, _, Settles.of_eq fun _ => happly, k-1, ?_, htu, rfl, size, ?_⟩
      · rcases k with _ | k
        · rw [Nat.add_zero, hd] at hk
          contradiction
        · omega
      · rcases k with _ | k
        · rw [Nat.add_zero, hd] at hk
          contradiction
        · rw [← hk]
          congr 1
          dsimp only
          omega
    | piece size =>
      rw [hd] at happly
      refine ⟨_, _, Settles.of_eq fun _ => happly, _, rfl, ?_, ?_, ?_, rfl⟩
      · rw [htu]
        intro h
        rcases List.take_eq_nil_iff.mp h with h | h
        · omega
        · exact hu h
      · rw [List.length_take]
        omega
      · rw [List.take_append_drop, htu]
  obtain ⟨r,t,hs,l,rfl,hl,hln,hls,hcl⟩ := hloop
  refine ⟨l, t.unread, t.calls, hl, hln, hls, ?_⟩
  simp only [erase_retry]
  rw [← hcl]
  exact hs

/-- While no call fails, a call that is not interrupted receives what can be had. -/
theorem retry_yields (hf : Fair schedule) {s : Source α} (hc : s.closed = false) :
    Yields stuck (fun r (t : Source α) => ∃ l, r = some l ∧ l ++ t.unread = s.unread ∧
      t.closed = false) (erase (retry stuck schedule fuel n : Traced ε (Source α) τ _) s) := by
  rw [erase_retry]
  refine iterate_yields (fun _ (t : Source α) => t.unread = s.unread ∧ t.closed = false) ?_ fuel
    ⟨rfl,hc⟩
  rintro b t ⟨htu,htc⟩
  rw [attempt_apply, htc, if_neg Bool.false_ne_true]
  cases hd : schedule t.calls with
  | failed => exact absurd hd (hf.sound _)
  | interrupted => exact ⟨htu,rfl⟩
  | piece size =>
    refine ⟨_, rfl, ?_, rfl⟩
    rw [List.take_append_drop, htu]

end Retry

section Fill

variable {stuck : ε} {schedule : ℕ → Delivery} {mark : ℕ → List τ} {store : ℕ → List α → β → β}
  {fuel : ℕ} {data rest : List α} {stored : ℕ → β}

/-- `stored b` is what the destination holds once the first `b` elements of `data` are in it. -/
def Stores (store : ℕ → List α → β → β) (data : List α) (stored : ℕ → β) : Prop :=
  ∀ b l u, data.drop b = l ++ u → store b l (stored b) = stored (b+l.length)

/-- A piece no longer than what is missing is all data. -/
theorem piece_of_data {b : ℕ} {l u : List α} (h : l ++ u = data.drop b ++ rest)
    (hl : l.length ≤ data.length-b) :
    data.drop b = l ++ data.drop (b+l.length) ∧ u = data.drop (b+l.length) ++ rest := by
  have hl' : l.length ≤ (data.drop b).length := by
    rw [List.length_drop]
    exact hl
  have htake : l = (data.drop b).take l.length := by
    calc
      _ = (l ++ u).take l.length := List.take_left.symm
      _ = _ := by rw [h, List.take_append_of_le_length hl']
  constructor
  · calc
      _ = (data.drop b).take l.length ++ (data.drop b).drop l.length :=
        (List.take_append_drop _ _).symm
      _ = _ := by rw [← htake, List.drop_drop]
  · calc
      _ = (l ++ u).drop l.length := List.drop_left.symm
      _ = _ := by rw [h, List.drop_append_of_le_length hl', List.drop_drop]

/-- One round of the reading. -/
def portion (stuck : ε) (schedule : ℕ → Delivery) (store : ℕ → List α → β → β) (fuel limit : ℕ)
    (x : ℕ × β) : EStateM ε (Source α) (ℕ × β ⊕ Option β) :=
  if x.1 < limit then do
    let r ← iterate stuck (fun _ => attempt schedule (limit-x.1)) fuel ()
    pure (proceed store x r)
  else pure (.inr (some x.2))

theorem erase_fill (limit : ℕ) (dst : β) :
    erase (fill stuck schedule mark store fuel limit dst) =
      iterate stuck (portion stuck schedule store fuel limit) fuel (0, dst) := by
  rw [fill, erase_loop]
  congr 1
  funext x
  rw [portion, erase_ite]
  congr 1
  rw [erase_bind, erase_note, erase_bind, erase_retry]
  rfl

/-- However the pieces come, what is read is the head of what was unread, and no more of it. -/
theorem fill_triple (hst : Stores store data stored) :
    Triple (fun s : Source α => s.unread = data ++ rest)
      (erase (fill stuck schedule mark store fuel data.length (stored 0)))
      (fun r (s : Source α) => ∀ d, r = some d → d = stored data.length ∧ s.unread = rest)
      fun _ => True := by
  rw [erase_fill]
  -- what has been stored so far is where the next piece goes
  refine (iterate_triple (fun (x : ℕ × β) (s : Source α) => x.1 ≤ data.length ∧
    x.2 = stored x.1 ∧ s.unread = data.drop x.1 ++ rest) (fun x s hs => ?_)
    (fun _ _ _ => trivial) fuel (0, stored 0)).conseq (fun s hs => ⟨Nat.zero_le _, rfl, hs⟩)
    (fun _ _ h => h) fun _ h => h
  obtain ⟨b,d⟩ := x
  obtain ⟨hb,hd,hu⟩ := hs
  dsimp only at hb hd hu
  subst hd
  rw [portion]
  by_cases hlt : b < data.length
  · rw [if_pos hlt]
    have hr := @retry_triple ε τ α stuck schedule fuel (data.length-b) s.unread
    rw [erase_retry] at hr
    refine Triple.bind hr (fun r => ?_) s rfl
    cases r with
    | none =>
      intro t _ d hd
      contradiction
    | some l =>
      intro t ht
      obtain ⟨hl,hlu⟩ := ht l rfl
      rw [hu] at hlu
      obtain ⟨hd,hu'⟩ := piece_of_data hlu hl
      exact ⟨by dsimp only; omega, hst b l _ hd, hu'⟩
  · rw [if_neg hlt]
    obtain rfl : b = data.length := by omega
    intro d hd
    refine ⟨(Option.some.inj hd).symm, ?_⟩
    rw [hu, List.drop_length, List.nil_append]

/-- Where calls are only ever interrupted, all of it is read. -/
theorem fill_settles (hf : Fair schedule) (hst : Stores store data stored) {s : Source α}
    (hc : s.closed = false) (hu : s.unread = data ++ rest) : ∃ c,
      Settles (fun fuel => erase (fill stuck schedule mark store fuel data.length (stored 0))) s
        (some (stored data.length)) ⟨rest, c, false⟩ := by
  have hloop : ∃ r t, Settles (fun fuel => iterate stuck (portion stuck schedule store fuel
      data.length) fuel (0, stored 0)) s r t ∧ r = some (stored data.length) ∧ t.unread = rest ∧
        t.closed = false := by
    -- the variant is the number of elements still to come
    refine iterate_settles (fun k (x : ℕ × β) t => x.1 ≤ data.length ∧ k = data.length-x.1 ∧
      x.2 = stored x.1 ∧ t.closed = false ∧ t.unread = data.drop x.1 ++ rest) ?_
      (k := data.length) ⟨Nat.zero_le _, rfl, rfl, hc, hu⟩
    rintro k ⟨b,d⟩ t ⟨hb,rfl,hd,htc,htu⟩
    dsimp only at hb hd htu ⊢
    subst hd
    by_cases hlt : b < data.length
    · have hne : t.unread ≠ [] := by
        rw [htu]
        intro h
        have hd : data.drop b = [] := (List.append_eq_nil_iff.mp h).1
        rw [List.drop_eq_nil_iff] at hd
        omega
      obtain ⟨l,u,c,hl,hln,hlu,hs⟩ := @retry_settles ε τ α stuck schedule (data.length-b) hf
        (by omega) t htc hne
      rw [htu] at hlu
      obtain ⟨hd,rfl⟩ := piece_of_data hlu hln
      have hpos : 0 < l.length := List.length_pos_iff.mpr hl
      refine ⟨.inl (b+l.length, stored (b+l.length)), ⟨data.drop (b+l.length) ++ rest, c, false⟩,
        ?_, data.length-(b+l.length), by omega,
        by dsimp only; omega, rfl, rfl, rfl, rfl⟩
      simp only [portion, if_pos hlt]
      simp only [erase_retry] at hs
      refine hs.bind (Settles.of_eq fun _ => ?_)
      rw [proceed, hst b l _ hd]
      rfl
    · obtain rfl : b = data.length := by omega
      refine ⟨.inr (some (stored data.length)), t, Settles.of_eq fun _ => ?_, rfl, ?_, htc⟩
      · rw [portion, if_neg hlt]
        rfl
      · rw [htu, List.drop_length, List.nil_append]
  obtain ⟨r,t,hs,rfl,rfl,htc⟩ := hloop
  refine ⟨t.calls, ?_⟩
  simp only [erase_fill]
  rw [← htc]
  exact hs

/-- With less to come than is asked for, the reading goes on for ever: in the end nothing is
received, and nothing is what it adds. -/
theorem fill_runsOut (hf : Fair schedule) {limit : ℕ} (dst : β) {s : Source α}
    (hc : s.closed = false) (hlt : s.unread.length < limit) :
    RunsOut stuck (erase (fill stuck schedule mark store fuel limit dst) s) := by
  rw [erase_fill]
  refine iterate_yields (fun (x : ℕ × β) (t : Source α) => x.1+t.unread.length < limit ∧
    t.closed = false) ?_ fuel ⟨?_,hc⟩
  · rintro ⟨b,d⟩ t ⟨hb,htc⟩
    dsimp only at hb
    rw [portion, if_pos (by omega)]
    have hr := @retry_yields ε τ α stuck schedule fuel (limit-b) hf t htc
    rw [erase_retry] at hr
    apply hr.bind
    rintro r u ⟨l,rfl,hlu,huc⟩
    refine ⟨?_,huc⟩
    rw [← hlu, List.length_append] at hb
    dsimp only
    omega
  · rw [Nat.zero_add]
    exact hlt

/-- Nothing is there to be read, and the source is open. -/
def RunDry (s : Source α) : Prop := s.unread = [] ∧ s.closed = false

/-- Waiting for more leaves things as they are. -/
theorem fill_waits (hf : Fair schedule) (limit : ℕ) (dst : β) :
    Keeps RunDry (erase (fill stuck schedule mark store fuel limit dst)) := by
  have hattempt (n : ℕ) : Keeps RunDry (attempt schedule n : EStateM ε (Source α) _) := by
    rintro s ⟨hu,hc⟩
    rw [attempt_apply, hc, if_neg Bool.false_ne_true]
    cases hd : schedule s.calls with
    | interrupted => exact ⟨hu,rfl⟩
    | failed => exact absurd hd (hf.sound _)
    | piece size => exact ⟨by rw [hu]; exact List.drop_nil, rfl⟩
  rw [erase_fill]
  have hround (x : ℕ × β) :
      Keeps RunDry (portion stuck schedule store fuel limit x) := by
    unfold portion
    split_ifs
    · apply Triple.bind (Keeps.iterate (fun _ => hattempt _) fuel ())
      exact fun _ => Keeps.pure _
    · exact Keeps.pure _
  exact Keeps.iterate hround fuel _

/-- The entries of the calls are all there is. -/
theorem fill_neverRunsOut {other : ε} (h : stuck ≠ other) (limit : ℕ) (dst : β) :
    NeverRunsOut other (erase (fill stuck schedule mark store fuel limit dst :
      Traced ε (Source α) τ _)) := by
  rw [fill, erase_loop]
  refine NeverRunsOut.iterate h (fun x => ?_) fuel _
  rw [erase_ite, erase_bind, erase_bind]
  apply NeverRunsOut.ite
  · refine NeverRunsOut.bind (NeverRunsOut.pure _ _) fun _ => ?_
    exact NeverRunsOut.bind (retry_neverRunsOut h) fun _ => NeverRunsOut.pure _ _
  · exact NeverRunsOut.pure _ _

theorem fill_leaves {P : τ → Prop} {limit : ℕ} (h : ∀ b < limit, ∀ t ∈ mark b, P t) (dst : β)
    (s : Source α) : Leaves P (fill stuck schedule mark store fuel limit dst) s := by
  refine Leaves.loop (fun _ _ => True) (fun x t _ => ?_) (fun _ _ _ _ _ _ => trivial) fuel trivial
  refine Leaves.ite (fun hlt => ?_) fun _ => Leaves.pure _ _ _
  refine Leaves.note_bind (h x.1 hlt) (Leaves.bind ?_ fun r u _ => ?_)
  · refine Leaves.loop (fun _ _ => True) (fun _ u _ => ?_) (fun _ _ _ _ _ _ => trivial) fuel trivial
    refine Leaves.lift_bind fun r v _ => ?_
    cases r <;> exact Leaves.pure _ _ _
  · exact Leaves.pure _ _ _

end Fill

end InternetCourse.PartialRead
