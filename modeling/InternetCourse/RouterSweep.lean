import InternetCourse.RouterGiveUp

/-! The sweep of the request queue: when it handles every request once and touches no
freed one. -/
namespace InternetCourse.Router

open ByteMem StateTriple

/-- The requests that were handled, latest first. -/
def handledReqs (events : List ArpEvent) : List ℕ :=
  events.filterMap fun e => match e with
    | .handle req _ => some req
    | _ => none

/-- The sweep returns, it has handled each pending request exactly once and nothing else,
and no field of a freed request has been read or written. -/
def SweepsSafely (env : Env) (s : SrInstance) : Prop :=
  ∃ fuel s', srArpcacheSweepreqs env fuel s = .ok () s' ∧
    (∃ events, s'.log.arp = events ++ s.log.arp ∧
      (handledReqs events).Perm (s.cache.requests.pending.map SrArpreq.addr)) ∧
    ∃ accesses, s'.log.accesses = accesses ++ s.log.accesses ∧
      ∀ a ∈ accesses, a.destroyed = false

/-- Due at the `n`-th reading of the clock. -/
def DueAt (env : Env) (n : ℕ) (r : SrArpreq) : Prop := 1 < env.time n-r.sent

instance (env : Env) (n : ℕ) (r : SrArpreq) : Decidable (DueAt env n r) :=
  inferInstanceAs (Decidable (_ < _))

/-- No request of the list is exhausted when its turn comes, the first one at the `n`-th
reading of the clock. -/
def NoneExhausted (env : Env) (n : ℕ) (l : List SrArpreq) : Prop :=
  ∀ i r, l[i]? = some r → ¬(DueAt env (n+i) r ∧ 5 ≤ r.timesSent)

/-- The route the sweep uses can be broadcast on, if a request of the list is due in its turn. -/
def RouteIfDue (env : Env) (n : ℕ) (ifList : List SrIf) (destRt : Option SrRt)
    (l : List SrArpreq) : Prop :=
  (∃ i r, l[i]? = some r ∧ DueAt env (n+i) r) →
    ∃ rt i, destRt = some rt ∧ srGetInterface ifList rt.interface = some i

/-- Something is read at the number that is used as the address of a header, for the head of
the queue; no pending request is exhausted in its turn; and if one is due, there is a route to
the address that was read, by an interface that exists. -/
def Sweepable (env : Env) (s : SrInstance) : Prop :=
  (∀ head, s.cache.requests.pending.head? = some head → (env.ipDstAt head.ip).isSome = true) ∧
    NoneExhausted env s.log.times s.cache.requests.pending ∧
    RouteIfDue env s.log.times s.ifList
      (s.cache.requests.pending.head?.bind fun head => routeAt env s.routingTable head.ip)
      s.cache.requests.pending

section Lists

variable {env : Env} {n : ℕ} {r : SrArpreq} {l : List SrArpreq}

theorem noneExhausted_cons : NoneExhausted env n (r :: l) ↔
    ¬(DueAt env n r ∧ 5 ≤ r.timesSent) ∧ NoneExhausted env (n+1) l := by
  constructor
  · intro h
    refine ⟨h 0 r rfl, fun i x hx => ?_⟩
    have hi := h (i+1) x hx
    rwa [show n+(i+1) = n+1+i by omega] at hi
  · rintro ⟨h₀,h⟩ i x hx
    cases i with
    | zero =>
      obtain rfl := Option.some.inj hx
      exact h₀
    | succ i =>
      rw [show n+(i+1) = n+1+i by omega]
      exact h i x hx

theorem noneExhausted_nil : NoneExhausted env n [] := by
  intro i x hx
  contradiction

theorem RouteIfDue.tail {ifList : List SrIf} {destRt : Option SrRt}
    (h : RouteIfDue env n ifList destRt (r :: l)) : RouteIfDue env (n+1) ifList destRt l := by
  rintro ⟨i,x,hx,hd⟩
  exact h ⟨i+1, x, hx, by rwa [show n+(i+1) = n+1+i by omega]⟩

theorem RouteIfDue.cons {ifList : List SrIf} {destRt : Option SrRt}
    (h₀ : DueAt env n r → ∃ rt i, destRt = some rt ∧ srGetInterface ifList rt.interface = some i)
    (h : RouteIfDue env (n+1) ifList destRt l) : RouteIfDue env n ifList destRt (r :: l) := by
  rintro ⟨i,x,hx,hd⟩
  cases i with
  | zero =>
    obtain rfl := Option.some.inj hx
    exact h₀ hd
  | succ i =>
    rw [show n+(i+1) = n+1+i by omega] at hd
    exact h ⟨i, x, hx, hd⟩

end Lists

variable {env : Env} {destRt : Option SrRt} {s s' : SrInstance} {r : SrArpreq}

theorem Handled.times (h : Handled env destRt s r s') : s'.log.times = s.log.times+1 := by
  cases h with
  | notDue => rfl
  | retried => simp [retriedState, stampedState, broadcastState, retryingState, handledState]
  | gaveUp => simp [gaveUpState, givingUpState, stampedState, handledState]

/-- Handling a request is recorded once, and touches the freed object exactly when the
request was exhausted. -/
theorem Handled.record (h : Handled env destRt s r s') :
    (∃ events, s'.log.arp = events ++ s.log.arp ∧ handledReqs events = [r.addr]) ∧
    ∃ accesses, s'.log.accesses = accesses ++ s.log.accesses ∧
      ((∀ a ∈ accesses, a.destroyed = false) ↔ ¬Exhausted env s r) := by
  cases h with
  | notDue hd =>
    refine ⟨⟨[_], handledState_arp s r, rfl⟩, [⟨r.addr, .sent, false, false⟩], rfl, ?_⟩
    simp [Exhausted, hd]
  | @retried rt i hd hx =>
    refine ⟨⟨[_, _], retriedState_arp s r i, rfl⟩, [⟨r.addr, .timesSent, true, false⟩,
      ⟨r.addr, .sent, true, false⟩, ⟨r.addr, .ip, false, false⟩,
      ⟨r.addr, .timesSent, false, false⟩, ⟨r.addr, .sent, false, false⟩], ?_, ?_⟩
    · simp [retriedState, stampedState, broadcastState, retryingState, handledState]
    · simp [Exhausted, hx]
  | gaveUp hd hx =>
    refine ⟨⟨[_, _], gaveUpState_arp s r, rfl⟩, [⟨r.addr, .timesSent, true, true⟩,
      ⟨r.addr, .sent, true, true⟩, ⟨r.addr, .packets, false, false⟩,
      ⟨r.addr, .timesSent, false, false⟩, ⟨r.addr, .sent, false, false⟩], ?_, ?_⟩
    · simp [gaveUpState, givingUpState, stampedState, handledState]
    · simp [Exhausted, hd, hx]

theorem Handled.route (h : Handled env destRt s r s') (hd : Due env s r)
    (hx : ¬Exhausted env s r) :
    ∃ rt i, destRt = some rt ∧ srGetInterface s.ifList rt.interface = some i := by
  cases h with
  | notDue hn => exact absurd hd hn
  | retried _ _ hrt hi => exact ⟨_, _, hrt, hi⟩
  | gaveUp _ h5 => exact absurd ⟨hd,h5⟩ hx

theorem handledReqs_append (events events' : List ArpEvent) :
    handledReqs (events ++ events') = handledReqs events ++ handledReqs events' :=
  List.filterMap_append

/-- A sweep that returns has handled every request of the queue, in order; it has touched no
freed object exactly when no request was exhausted; and then a due request had a route. -/
theorem Swept.record {l : List SrArpreq} (h : Swept env destRt l s s') :
    (∃ events, s'.log.arp = events ++ s.log.arp ∧
      handledReqs events = (l.map SrArpreq.addr).reverse) ∧
    (∃ accesses, s'.log.accesses = accesses ++ s.log.accesses ∧
      ((∀ a ∈ accesses, a.destroyed = false) ↔ NoneExhausted env s.log.times l)) ∧
    (NoneExhausted env s.log.times l → RouteIfDue env s.log.times s.ifList destRt l) := by
  induction h with
  | @last r s s' hm hh =>
    obtain ⟨⟨events,harp,hev⟩,accesses,hacc,hiff⟩ := hh.record
    have hone : NoneExhausted env s.log.times [r] ↔ ¬Exhausted env s r :=
      noneExhausted_cons.trans (and_iff_left noneExhausted_nil)
    refine ⟨⟨events, harp, hev⟩, ⟨accesses ++ [⟨r.addr, .next, false, false⟩], ?_, ?_⟩, ?_⟩
    · rw [hacc, List.append_assoc]
      rfl
    · rw [hone, List.forall_mem_append, hiff]
      exact and_iff_left (by simp)
    · intro hx
      refine RouteIfDue.cons (fun hd => hh.route hd (hone.mp hx)) ?_
      rintro ⟨i,x,hx,-⟩
      contradiction
  | @cons r r' rest s s₁ s' hm hh _ ih =>
    obtain ⟨⟨events,harp,hev⟩,accesses,hacc,hiff⟩ := hh.record
    obtain ⟨⟨events',harp',hev'⟩,⟨accesses',hacc',hiff'⟩,hroute⟩ := ih
    -- each call reads the clock once, so the rest of the queue is one reading further
    have ht : (s₁.addAccess ⟨r.addr, .next, false, decide (Exhausted env s r)⟩).log.times =
        s.log.times+1 := hh.times
    have hi : (s₁.addAccess ⟨r.addr, .next, false, decide (Exhausted env s r)⟩).ifList =
        s.ifList := hh.frame.1
    rw [ht] at hiff' hroute
    rw [hi] at hroute
    refine ⟨⟨events' ++ events, ?_, ?_⟩, ⟨accesses' ++ (⟨r.addr, .next, false,
      decide (Exhausted env s r)⟩ :: (accesses ++ [⟨r.addr, .next, false, false⟩])), ?_, ?_⟩, ?_⟩
    · calc
        _ = events' ++ s₁.log.arp := harp'
        _ = events' ++ (events ++ s.log.arp) := congrArg _ harp
        _ = events' ++ events ++ s.log.arp := (List.append_assoc _ _ _).symm
    · rw [handledReqs_append, hev, hev']
      simp
    · rw [hacc']
      have hs : (s₁.addAccess ⟨r.addr, .next, false, decide (Exhausted env s r)⟩).log.accesses =
          ⟨r.addr, .next, false, decide (Exhausted env s r)⟩ ::
            (accesses ++ (⟨r.addr, .next, false, false⟩ :: s.log.accesses)) := congrArg _ hacc
      rw [hs]
      simp
    · rw [noneExhausted_cons, List.forall_mem_append, hiff']
      constructor
      · rintro ⟨htail,hhead⟩
        have hx := hhead _ List.mem_cons_self
        exact ⟨of_decide_eq_false hx, htail⟩
      · rintro ⟨hhead,htail⟩
        refine ⟨htail,?_⟩
        intro a ha
        -- reading `next` before the call, the accesses of the call, reading `next` after it
        rcases List.mem_cons.mp ha with rfl | ha
        · exact decide_eq_false hhead
        rcases List.mem_append.mp ha with ha | ha
        · exact hiff.mpr hhead a ha
        · rw [List.mem_singleton.mp ha]
    · intro hx
      obtain ⟨hhead,htail⟩ := noneExhausted_cons.mp hx
      apply RouteIfDue.cons _ (hroute htail)
      intro hd
      exact hh.route hd hhead

theorem handleArpreq_of_sweepable (hm : r ∈ s.cache.requests.pending) (hx : ¬Exhausted env s r)
    (hroute : Due env s r →
      ∃ rt i, destRt = some rt ∧ srGetInterface s.ifList rt.interface = some i) (inner : ℕ) :
    ∃ s', handleArpreq env inner r.addr destRt s = .ok () s' := by
  by_cases hd : Due env s r
  · obtain ⟨rt,i,rfl,hi⟩ := hroute hd
    exact ⟨_, handleArpreq_of_retry env hm hd (fun h => hx ⟨hd,h⟩) hi inner⟩
  · exact ⟨_, handleArpreq_of_not_due env hm hd inner destRt⟩

/-- A sweep of requests none of which is exhausted in its turn comes to its end. -/
theorem sweepFrom_of_sweepable {pre rest : List SrArpreq} (inner : ℕ)
    (h : s.cache.requests.pending = pre ++ r :: rest)
    (hx : NoneExhausted env s.log.times (r :: rest))
    (hroute : RouteIfDue env s.log.times s.ifList destRt (r :: rest)) :
    ∃ s', sweepFrom env inner destRt (rest.length+1) r.addr s = .ok () s' := by
  induction rest generalizing r s pre with
  | nil =>
    have hm : r ∈ (s.addAccess ⟨r.addr, .next, false, false⟩).cache.requests.pending :=
      Requests.mem_of_split h
    obtain ⟨s',hh⟩ := handleArpreq_of_sweepable hm (noneExhausted_cons.mp hx).1
      (fun hd => hroute ⟨0, r, rfl, hd⟩) inner
    exact ⟨s', (sweepFrom_last h 0).trans hh⟩
  | cons r' rest ih =>
    have hm : r ∈ (s.addAccess ⟨r.addr, .next, false, false⟩).cache.requests.pending :=
      Requests.mem_of_split h
    obtain ⟨s₁,hh⟩ := handleArpreq_of_sweepable hm (noneExhausted_cons.mp hx).1
      (fun hd => hroute ⟨0, r, rfl, hd⟩) inner
    have hd := handleArpreq_returns env hm hh
    -- whatever became of `r`, what came after it is still in the queue
    obtain ⟨pre',hp⟩ := hd.pending_tail h
    let s₂ := s₁.addAccess ⟨r.addr, .next, false, decide (Exhausted env s r)⟩
    have hp₂ : s₂.cache.requests.pending = pre' ++ r' :: rest := hp
    have ht : s₂.log.times = s.log.times+1 := hd.times
    have hi : s₂.ifList = s.ifList := hd.frame.1
    have hx₂ : NoneExhausted env s₂.log.times (r' :: rest) := by
      rw [ht]
      exact (noneExhausted_cons.mp hx).2
    have hroute₂ : RouteIfDue env s₂.log.times s₂.ifList destRt (r' :: rest) := by
      rw [ht, hi]
      exact hroute.tail
    obtain ⟨s',hs'⟩ := ih hp₂ hx₂ hroute₂
    exact ⟨s', (sweepFrom_cons h hh _).trans hs'⟩

theorem SweepsSafely.sweepable (h : SweepsSafely env s) : Sweepable env s := by
  obtain ⟨fuel,s',hsweep,-,accesses,hacc,hsafe⟩ := h
  cases hp : s.cache.requests.pending with
  | nil =>
    rw [Sweepable, hp]
    refine ⟨?_, noneExhausted_nil, ?_⟩
    · intro head hh
      contradiction
    · rintro ⟨i,r,hi,-⟩
      contradiction
  | cons head rest =>
    -- a sweep that returns has read something for the head
    obtain ⟨ipDst,hd⟩ : ∃ ipDst, env.ipDstAt head.ip = some ipDst := by
      cases hd : env.ipDstAt head.ip with
      | none =>
        rw [srArpcacheSweepreqs_unread hp hd] at hsweep
        contradiction
      | some ipDst => exact ⟨ipDst,rfl⟩
    rw [srArpcacheSweepreqs_cons hp hd, ← routeAt_of_read hd] at hsweep
    have hp₁ : (s.addAccess ⟨head.addr, .ip, false, false⟩).cache.requests.pending =
        [] ++ head :: rest := hp
    have hswept := sweepFrom_returns hp₁ hsweep
    obtain ⟨-,⟨accesses',hacc',hiff⟩,hroute⟩ := hswept.record
    -- the first access is the lookup for the head, before the loop
    have he : accesses = accesses' ++ [⟨head.addr, .ip, false, false⟩] := by
      rw [hacc'] at hacc
      apply List.append_cancel_right (hacc.symm.trans _)
      exact (List.append_assoc accesses' [_] _).symm
    have hx : NoneExhausted env s.log.times (head :: rest) := by
      apply hiff.mp
      intro a ha
      apply hsafe a
      rw [he]
      exact List.mem_append_left _ ha
    rw [Sweepable, hp]
    refine ⟨?_, hx, hroute hx⟩
    intro head' hh
    obtain rfl := Option.some.inj hh
    rw [hd]
    rfl

theorem Sweepable.sweepsSafely (h : Sweepable env s) : SweepsSafely env s := by
  obtain ⟨hread,hx,hroute⟩ := h
  cases hp : s.cache.requests.pending with
  | nil =>
    refine ⟨0, s, ?_, ⟨[], rfl, ?_⟩, [], rfl, by simp⟩
    · simp only [srArpcacheSweepreqs, bind_apply, get_apply, hp]
      rfl
    · rw [hp]
      exact List.Perm.refl _
  | cons head rest =>
    rw [hp] at hread hx hroute
    obtain ⟨ipDst,hd⟩ := Option.isSome_iff_exists.mp (hread head rfl)
    let s₁ := s.addAccess ⟨head.addr, .ip, false, false⟩
    have hp₁ : s₁.cache.requests.pending = [] ++ head :: rest := hp
    -- one unit of fuel for each request behind the head is enough
    obtain ⟨s',hs'⟩ := sweepFrom_of_sweepable (s := s₁) (rest.length+1) hp₁ hx hroute
    have hswept := sweepFrom_returns hp₁ hs'
    obtain ⟨⟨events,harp,hev⟩,⟨accesses,hacc,hiff⟩,-⟩ := hswept.record
    have hsweep : srArpcacheSweepreqs env (rest.length+1) s = .ok () s' :=
      (srArpcacheSweepreqs_cons hp hd (rest.length+1)).trans (routeAt_of_read hd ▸ hs')
    refine ⟨rest.length+1, s', hsweep, ⟨events, harp, ?_⟩,
      accesses ++ [⟨head.addr, .ip, false, false⟩], ?_, ?_⟩
    · rw [hev, hp]
      exact List.reverse_perm _
    · rw [hacc, List.append_assoc]
      rfl
    · intro a ha
      rcases List.mem_append.mp ha with ha | ha
      · exact hiff.mpr hx a ha
      · rw [List.mem_singleton.mp ha]

/-- The sweep is safe and complete if and only if it gives up no request; what else can stop
it is that nothing is read where the address of the first request points as a header, or a
broadcast for which the route found there or its interface is missing. -/
theorem sweepsSafely_iff (env : Env) (s : SrInstance) : SweepsSafely env s ↔ Sweepable env s :=
  ⟨SweepsSafely.sweepable, Sweepable.sweepsSafely⟩

/-- Sweeping a queue with one exhausted request writes to the freed object. -/
theorem overdueRouter_not_sweepsSafely : ¬SweepsSafely obligingHost overdueRouter := by
  intro h
  have hexh : (overdueRouter.cache.requests.pending[0]?).any (fun r =>
      decide (DueAt obligingHost (overdueRouter.log.times+0) r ∧ 5 ≤ r.timesSent)) = true := by
    decide +kernel
  obtain ⟨r,hr,hx⟩ := Option.any_eq_true _ _ |>.mp hexh
  exact h.sweepable.2.1 0 r hr (of_decide_eq_true hx)

end InternetCourse.Router
