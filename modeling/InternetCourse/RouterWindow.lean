import InternetCourse.RouterSweep

/-! The packet thread between `sr_arpcache_queuereq`, which gives it a request under the lock,
and `handle_arpreq`, which it enters without the lock, while the timer thread goes on. -/
namespace InternetCourse.Router

open ByteMem StateTriple

/-- The router, and what the packet thread holds between the two calls: the address of a
request and the route of the packet it queued. -/
structure Threads where
  router : SrInstance
  window : Option (ℕ × SrRt)

/-- One atomic step of a thread. -/
inductive ThreadEvent where
  | queue (p : SrPacket)
  | enter
  | expiry
  | sweep

inductive ThreadStep (env : Env) : Threads → ThreadEvent → Threads → Prop where
  | queue {s s' : SrInstance} {p : SrPacket} {rt : SrRt} {req : ℕ} :
      1 < ipTtl p.buf.mem → longestPrefixSum s.routingTable (ipDst p.buf.mem) = some rt →
      srArpcacheLookup s.cache.entries (ipDst p.buf.mem) = none →
      srArpcacheQueuereq env (ipDst p.buf.mem) p.buf p.len p.iface s = .ok req s' →
      ThreadStep env ⟨s, none⟩ (.queue p) ⟨s', some (req, rt)⟩
  | enter {s s' : SrInstance} {rt : SrRt} {req fuel : ℕ} :
      handleArpreq env fuel req (some rt) s = .ok () s' →
      ThreadStep env ⟨s, some (req, rt)⟩ .enter ⟨s', none⟩
  | expiry {s s' : SrInstance} {w : Option (ℕ × SrRt)} : Step env .expiry s s' →
      ThreadStep env ⟨s, w⟩ .expiry ⟨s', w⟩
  | sweep {s s' : SrInstance} {w : Option (ℕ × SrRt)} : Step env .sweep s s' →
      ThreadStep env ⟨s, w⟩ .sweep ⟨s', w⟩

/-- The steps of the two threads from `c₀` on, in the order they were made, each with the
state it found. -/
inductive Interleaving (env : Env) (c₀ : Threads) : List (Threads × ThreadEvent) → Threads → Prop
    where
  | start : Interleaving env c₀ [] c₀
  | next {l : List (Threads × ThreadEvent)} {c c' : Threads} {ev : ThreadEvent} :
      Interleaving env c₀ l c → ThreadStep env c ev c' → Interleaving env c₀ (l ++ [(c,ev)]) c'

/-- The addresses of the freed requests, latest first. -/
def destroyedAddrs (s : SrInstance) : List ℕ := s.cache.requests.destroyed.map fun d => d.1.addr

/-- A request at that address is in the queue. -/
def Pending (s : SrInstance) (req : ℕ) : Prop := ∃ r ∈ s.cache.requests.pending, r.addr = req

/-- The request the packet thread holds is pending, and no request was destroyed twice since
the state `s₀`. -/
structure Safe (s₀ : SrInstance) (c : Threads) : Prop where
  pending : ∀ req rt, c.window = some (req, rt) → Pending c.router req
  once : ∃ freed, destroyedAddrs c.router = freed ++ destroyedAddrs s₀ ∧ freed.Nodup

/-- A sweep does not find the request the packet thread holds exhausted when its turn comes. -/
def SparesWindow (env : Env) (x : Threads × ThreadEvent) : Prop :=
  x.2 = .sweep → ∀ req rt, x.1.window = some (req, rt) →
    ∀ i r, x.1.router.cache.requests.pending[i]? = some r → r.addr = req →
      ¬(DueAt env (x.1.router.log.times+i) r ∧ 5 ≤ r.timesSent)

variable {env : Env} {s₀ s s' : SrInstance} {r : SrArpreq} {destRt : Option SrRt}

/-- Every request destroyed since `s₀` was destroyed once and is out of the queue. -/
def FreedOnce (s₀ s : SrInstance) : Prop :=
  ∃ freed, destroyedAddrs s = freed ++ destroyedAddrs s₀ ∧ freed.Nodup ∧
    ∀ a ∈ freed, Unlinked s a

theorem destroyedAddrs_modify (q : Requests) (addr : ℕ) (f : SrArpreq → SrArpreq) :
    ((q.modify addr f).destroyed.map fun d => d.1.addr) = q.destroyed.map fun d => d.1.addr := by
  rw [Requests.modify_destroyed, List.map_map]
  apply List.map_congr_left
  intro d _
  dsimp only [Function.comp]
  split <;> rfl

theorem destroyedAddrs_stamped (s : SrInstance) (addr : ℕ) (now : ℤ) (destroyed : Bool) :
    destroyedAddrs (stampedState s addr now destroyed) = destroyedAddrs s :=
  (destroyedAddrs_modify _ _ _).trans (destroyedAddrs_modify _ _ _)

/-- Handling a request destroys it exactly when it is exhausted. -/
theorem Handled.destroyed (h : Handled env destRt s r s') : destroyedAddrs s' =
    if Exhausted env s r then r.addr :: destroyedAddrs s else destroyedAddrs s := by
  cases h with
  | notDue hd =>
    rw [if_neg fun hx => hd hx.1]
    rfl
  | retried hd hx =>
    have hn : ¬Exhausted env s r := fun h => Nat.not_le.mpr hx h.2
    rw [if_neg hn, retriedState, destroyedAddrs_stamped]
    simp [destroyedAddrs, broadcastState, retryingState, handledState]
  | gaveUp hd hx =>
    have he : Exhausted env s r := ⟨hd,hx⟩
    rw [if_pos he, gaveUpState, destroyedAddrs_stamped]
    simp [destroyedAddrs, givingUpState, handledState]

theorem Unlinked.not_pending {addr : ℕ} (h : Unlinked s addr) : ¬Pending s addr := by
  rintro ⟨r,hr,he⟩
  exact h.2 r hr he

/-- A request that is handled stays in the queue unless it was exhausted. -/
theorem Handled.pending_of_spared (h : Handled env destRt s r s')
    (hm : r ∈ s.cache.requests.pending) (hx : ¬Exhausted env s r) : Pending s' r.addr := by
  obtain ⟨pre,post,hs⟩ := List.append_of_mem hm
  cases h with
  | notDue => exact ⟨r,hm,rfl⟩
  | @retried rt i =>
    have hp : (retriedState env s r i).cache.requests.pending =
        pre ++ { r with sent := s.now env, timesSent := r.timesSent+1 } :: post :=
      retriedState_pending hs i
    exact ⟨_, Requests.mem_of_split hp, rfl⟩
  | gaveUp hd h5 => exact absurd ⟨hd,h5⟩ hx

/-- A request given up in its turn is unlinked from then on. -/
theorem Handled.unlinked (h : Handled env destRt s r s') (hm : r ∈ s.cache.requests.pending)
    (hx : Exhausted env s r) : Unlinked s' r.addr := by
  obtain ⟨pre,post,hs⟩ := List.append_of_mem hm
  have hp : s'.cache.requests.pending = pre ++ post := by
    cases h with
    | notDue hd => exact absurd hx.1 hd
    | retried _ hlt => exact absurd hx.2 (Nat.not_le.mpr hlt)
    | gaveUp => exact gaveUpState_pending hs
  rw [Unlinked, h.frame.2.2.2.2, hp]
  exact ⟨s.cache.requests.lt_fresh r hm, fun x hx => Requests.addr_ne_of_split hs hx⟩

/-- Handling a request leaves the others in the queue. -/
theorem Handled.pending_other (h : Handled env destRt s r s') (hm : r ∈ s.cache.requests.pending)
    {req : ℕ} (hne : r.addr ≠ req) (hp : Pending s req) : Pending s' req := by
  obtain ⟨pre,post,hs⟩ := List.append_of_mem hm
  obtain ⟨x,hx,rfl⟩ := hp
  have hx' : x ∈ pre ∨ x ∈ post := by
    rw [hs] at hx
    rcases List.mem_append.mp hx with hx | hx
    · exact Or.inl hx
    · rcases List.mem_cons.mp hx with rfl | hx
      · exact absurd rfl hne
      · exact Or.inr hx
  rcases h.pending hs with hp | hp | hp <;>
    exact ⟨x, by rw [hp]; rcases hx' with hx | hx <;> simp [hx], rfl⟩

theorem FreedOnce.handled (hf : FreedOnce s₀ s) (hm : r ∈ s.cache.requests.pending)
    (h : Handled env destRt s r s') : FreedOnce s₀ s' := by
  obtain ⟨freed,hd,hn,hu⟩ := hf
  have hu' : ∀ a ∈ freed, Unlinked s' a := by
    intro a ha
    have hmove : Move env (s, []) (s', []) := Move.handled hm h
    exact hmove.unlinked (hu a ha)
  by_cases hx : Exhausted env s r
  · refine ⟨r.addr :: freed, ?_, ?_, ?_⟩
    · rw [h.destroyed, if_pos hx, hd]
      rfl
    · refine List.nodup_cons.mpr ⟨fun ha => ?_, hn⟩
      exact (hu _ ha).2 r hm rfl
    · intro a ha
      rcases List.mem_cons.mp ha with rfl | ha
      · exact h.unlinked hm hx
      · exact hu' a ha
  · refine ⟨freed, ?_, hn, hu'⟩
    rw [h.destroyed, if_neg hx, hd]

theorem FreedOnce.accessed (hf : FreedOnce s₀ s) (a : Access) : FreedOnce s₀ (s.addAccess a) := hf

theorem FreedOnce.swept {l : List SrArpreq} (h : Swept env destRt l s s')
    (hf : FreedOnce s₀ s) : FreedOnce s₀ s' := by
  induction h with
  | last hm hh => exact FreedOnce.handled (hf.accessed _) hm hh
  | cons hm hh _ ih => exact ih ((FreedOnce.handled (hf.accessed _) hm hh).accessed _)

/-- Through a sweep the requests outside its list stay in the queue, and one of its list does
unless it is exhausted in its turn. -/
theorem Swept.pending {l : List SrArpreq} (h : Swept env destRt l s s') {pre : List SrArpreq}
    (hs : s.cache.requests.pending = pre ++ l) :
    (∀ req, (∀ x ∈ l, x.addr ≠ req) → Pending s req → Pending s' req) ∧
    ∀ i x, l[i]? = some x →
      (Pending s' x.addr ↔ ¬(DueAt env (s.log.times+i) x ∧ 5 ≤ x.timesSent)) := by
  -- by induction on the walk; each call reads the clock once more
  induction h generalizing pre with
  | @last r s s' hm hh =>
    constructor
    · intro req hne hp
      exact hh.pending_other hm (hne r List.mem_cons_self) hp
    · intro i x hx
      obtain ⟨rfl,rfl⟩ : i = 0 ∧ x = r := by
        cases i with
        | zero => exact ⟨rfl, (Option.some.inj hx).symm⟩
        | succ i => contradiction
      constructor
      · intro hp he
        exact (hh.unlinked hm he).not_pending hp
      · intro he
        exact hh.pending_of_spared hm he
  | @cons r r' rest s s₁ s' hm hh hsw ih =>
    obtain ⟨pre',hs₁⟩ : ∃ pre', s₁.cache.requests.pending = pre' ++ r' :: rest :=
      hh.pending_tail hs
    obtain ⟨ihout,ihin⟩ := ih hs₁
    have ht : (s₁.addAccess ⟨r.addr, .next, false, decide (Exhausted env s r)⟩).log.times =
        s.log.times+1 := hh.times
    rw [ht] at ihin
    constructor
    · intro req hne hp
      apply ihout req fun x hx => hne x (List.mem_cons_of_mem r hx)
      exact hh.pending_other hm (hne r List.mem_cons_self) hp
    · intro i x hx
      cases i with
      | zero =>
        obtain rfl := Option.some.inj hx
        constructor
        · intro hp he
          -- a request that is gone stays gone during the rest of the walk
          have hu : Unlinked s₁ r.addr := hh.unlinked hm he
          exact (Moves.unlinked hsw.moves hu).not_pending hp
        · intro he
          apply ihout
          · intro x hx
            exact Requests.addr_ne_of_split hs (List.mem_append_right pre hx)
          · exact hh.pending_of_spared hm he
      | succ i =>
        rw [ihin i x hx, show s.log.times+1+i = s.log.times+(i+1) by omega]

/-- What holds of the two threads as long as no sweep hits the window. -/
structure Sound (s₀ : SrInstance) (c : Threads) : Prop where
  pending : ∀ req rt, c.window = some (req, rt) → Pending c.router req
  freed : FreedOnce s₀ c.router

theorem Sound.safe {c : Threads} (h : Sound s₀ c) : Safe s₀ c := by
  obtain ⟨freed,hd,hn,-⟩ := h.freed
  exact ⟨h.pending, freed, hd, hn⟩

theorem queuedState_destroyedAddrs (s : SrInstance) (addr : ℕ) (p : SrPacket) :
    destroyedAddrs (queuedState env s addr p.buf p.len p.iface) = destroyedAddrs s := by
  rw [queuedState]
  split
  · exact destroyedAddrs_modify _ _ _
  · rfl

theorem srArpcacheQueuereq_destroyedAddrs {ip : UInt32} {p : SrPacket} {req : ℕ}
    (h : srArpcacheQueuereq env ip p.buf p.len p.iface s = .ok req s') :
    destroyedAddrs s' = destroyedAddrs s := by
  rw [srArpcacheQueuereq_apply] at h
  cases hf : s.cache.requests.pending.find? (fun r => r.ip == ip) with
  | some r =>
    rw [hf] at h
    obtain rfl := (EStateM.Result.ok.inj h).2
    exact queuedState_destroyedAddrs s r.addr p
  | none =>
    rw [hf] at h
    obtain rfl := (EStateM.Result.ok.inj h).2
    exact queuedState_destroyedAddrs (s.setRequests (s.cache.requests.push ip)) _ p

theorem FreedOnce.queued {p : SrPacket} {rt : SrRt} {req : ℕ} (hf : FreedOnce s₀ s)
    (ht : 1 < ipTtl p.buf.mem)
    (hrt : longestPrefixSum s.routingTable (ipDst p.buf.mem) = some rt)
    (h : srArpcacheQueuereq env (ipDst p.buf.mem) p.buf p.len p.iface s = .ok req s') :
    Pending s' req ∧ FreedOnce s₀ s' := by
  have hd := srArpcacheQueuereq_destroyedAddrs h
  obtain ⟨r,s₁,hq,henq⟩ := srArpcacheQueuereq_returns env (ipDst p.buf.mem) p.buf p.len p.iface s
  rw [hq] at h
  obtain ⟨rfl,rfl⟩ := EStateM.Result.ok.inj h
  obtain ⟨freed,hfreed,hn,hu⟩ := hf
  refine ⟨⟨r, henq.mem, rfl⟩, freed, hd.trans hfreed, hn, ?_⟩
  intro a ha
  have hmove : Move env (s, [p]) (s₁, []) := Move.queued ht hrt henq
  exact hmove.unlinked (hu a ha)

theorem FreedOnce.sweep (hf : FreedOnce s₀ s) (h : Step env .sweep s s') : FreedOnce s₀ s' := by
  rcases h.sweep_cases with ⟨-,rfl⟩ | ⟨head,rest,-,hs⟩
  · exact hf
  · exact FreedOnce.swept hs (hf.accessed _)

/-- After a sweep the requests it found are pending, but for those exhausted in their turn. -/
theorem Step.sweep_pending (h : Step env .sweep s s') {i : ℕ} {x : SrArpreq}
    (hx : s.cache.requests.pending[i]? = some x) :
    Pending s' x.addr ↔ ¬(DueAt env (s.log.times+i) x ∧ 5 ≤ x.timesSent) := by
  rcases h.sweep_cases with ⟨hp,-⟩ | ⟨head,rest,hp,hs⟩
  · rw [hp] at hx
    contradiction
  · rw [hp] at hx
    have hp₁ : (s.addAccess ⟨head.addr, .ip, false, false⟩).cache.requests.pending =
        [] ++ head :: rest := hp
    exact (hs.pending hp₁).2 i x hx

/-- One step of either thread. -/
theorem ThreadStep.sound {c c' : Threads} {ev : ThreadEvent} (h : ThreadStep env c ev c')
    (hc : Sound s₀ c) (hs : SparesWindow env (c,ev)) : Sound s₀ c' := by
  obtain ⟨hp,hf⟩ := hc
  cases h with
  | queue ht hrt _ hq =>
    obtain ⟨hpend,hfreed⟩ := hf.queued ht hrt hq
    refine ⟨?_, hfreed⟩
    intro req rt he
    obtain ⟨rfl,rfl⟩ := Prod.mk.inj (Option.some.inj he)
    exact hpend
  | enter hh =>
    obtain ⟨r,hr,rfl⟩ := hp _ _ rfl
    refine ⟨?_, hf.handled hr (handleArpreq_returns env hr hh)⟩
    intro req rt he
    contradiction
  | expiry he =>
    rw [he.expiry_eq]
    exact ⟨hp,hf⟩
  | sweep hsw =>
    refine ⟨?_, hf.sweep hsw⟩
    intro req rt he
    obtain ⟨r,hr,rfl⟩ := hp req rt he
    obtain ⟨i,hi⟩ := List.getElem?_of_mem hr
    exact (hsw.sweep_pending hi).mpr (hs rfl r.addr rt he i r hi rfl)

theorem Interleaving.sound {l : List (Threads × ThreadEvent)} {c₀ c : Threads}
    (h : Interleaving env c₀ l c) (hc : Sound s₀ c₀) (hl : ∀ x ∈ l, SparesWindow env x) :
    (∀ x ∈ l, Sound s₀ x.1) ∧ Sound s₀ c := by
  induction h with
  | start => exact ⟨by simp, hc⟩
  | @next l c c' ev _ hst ih =>
    obtain ⟨hall,hc⟩ := ih fun x hx => hl x (List.mem_append_left _ hx)
    have hev : SparesWindow env (c,ev) := hl _ (List.mem_append_right _ List.mem_cons_self)
    refine ⟨?_, hst.sound hc hev⟩
    intro x hx
    rcases List.mem_append.mp hx with hx | hx
    · exact hall x hx
    · rw [List.mem_singleton.mp hx]
      exact hc

/-- A sweep that leaves the request of the packet thread in the queue has spared it. -/
theorem ThreadStep.spares {c c' : Threads} {ev : ThreadEvent} (h : ThreadStep env c ev c')
    (hc : Safe s₀ c') : SparesWindow env (c,ev) := by
  intro hev req rt he i r hi hr
  cases h with
  | sweep hsw =>
    subst hr
    exact (hsw.sweep_pending hi).mp (hc.pending r.addr rt he)
  | _ => contradiction

theorem Interleaving.spares {l : List (Threads × ThreadEvent)} {c₀ c : Threads}
    (h : Interleaving env c₀ l c) (hl : ∀ x ∈ l, Safe s₀ x.1) (hc : Safe s₀ c) :
    ∀ x ∈ l, SparesWindow env x := by
  induction h with
  | start => simp
  | @next l c c' ev _ hst ih =>
    have hsafe : Safe s₀ c := hl (c,ev) (List.mem_append_right _ List.mem_cons_self)
    intro x hx
    rcases List.mem_append.mp hx with hx | hx
    · exact ih (fun y hy => hl y (List.mem_append_left _ hy)) hsafe x hx
    · rw [List.mem_singleton.mp hx]
      exact hst.spares hc

/-- The packet thread never enters `handle_arpreq` with a destroyed request, and none is
destroyed twice, exactly as long as no sweep finds the request it holds exhausted. -/
theorem safe_iff_sparesWindow {l : List (Threads × ThreadEvent)} {c : Threads}
    (h : Interleaving env ⟨s₀, none⟩ l c) :
    (∀ x ∈ l, Safe s₀ x.1) ∧ Safe s₀ c ↔ ∀ x ∈ l, SparesWindow env x := by
  have hstart : Sound s₀ ⟨s₀, none⟩ := by
    refine ⟨?_, [], rfl, List.nodup_nil, by simp⟩
    intro req rt he
    contradiction
  constructor
  · rintro ⟨hl,hc⟩
    exact h.spares hl hc
  · intro hl
    obtain ⟨hall,hc⟩ := h.sound hstart hl
    exact ⟨fun x hx => (hall x hx).safe, hc.safe⟩

/-- A number of sweeps while the packet thread stands still. -/
theorem Interleaving.sweeps {l : List (Threads × ThreadEvent)} {c₀ : Threads}
    {w : Option (ℕ × SrRt)} (h : Interleaving env c₀ l ⟨s, w⟩) {n fuel : ℕ}
    (hn : handleAll env fuel (List.replicate n .sweep) s = .ok () s') :
    ∃ l', Interleaving env c₀ l' ⟨s', w⟩ := by
  induction n generalizing s l with
  | zero =>
    obtain rfl := (EStateM.Result.ok.inj hn).2
    exact ⟨l,h⟩
  | succ n ih =>
    rw [List.replicate_succ, handleAll, bind_apply] at hn
    cases hev : handle env fuel .sweep s with
    | error e s₁ =>
      rw [hev] at hn
      contradiction
    | ok u s₁ =>
      rw [hev] at hn
      have hst : Step env .sweep s s₁ := ⟨fuel,hev⟩
      exact ih (h.next (ThreadStep.sweep hst)) hn

/-! The packet thread of a router just started queues a packet and is held up for six sweeps. -/

def heldPacket : SrPacket := ⟨⟨load transitFrame fun _ => 0, 0⟩, transitFrame.length, eth0⟩

def heldRoute : SrRt := ⟨address 10 0 1 2, address 10 0 1 2, 0, eth1⟩

def heldRouter : SrInstance :=
  queuedState obligingHost (smallRouter.setRequests
    (smallRouter.cache.requests.push (address 10 0 1 2))) 0 heldPacket.buf heldPacket.len eth0

theorem heldRouter_step : ThreadStep obligingHost ⟨smallRouter, none⟩ (.queue heldPacket)
    ⟨heldRouter, some (0, heldRoute)⟩ := by
  have hdst : ipDst heldPacket.buf.mem = address 10 0 1 2 := by decide +kernel
  have hmiss : (srArpcacheLookup smallRouter.cache.entries (address 10 0 1 2)).isNone = true := by
    decide +kernel
  refine ThreadStep.queue (by decide +kernel) ?_ ?_ ?_
  · rw [hdst]
    rfl
  · rw [hdst]
    exact Option.isNone_iff_eq_none.mp hmiss
  · rw [hdst]
    exact srArpcacheQueuereq_apply obligingHost (address 10 0 1 2) heldPacket.buf heldPacket.len
      eth0 smallRouter

/-- A sweep comes in between, and does not find the request exhausted yet. -/
theorem safe_iff_sparesWindow_smallRouter :
    let l : List (Threads × ThreadEvent) :=
      [(⟨smallRouter, none⟩, .queue heldPacket), (⟨heldRouter, some (0, heldRoute)⟩, .sweep)]
    (∀ x ∈ l, Safe smallRouter x.1) ∧
      Safe smallRouter ⟨after obligingHost 1 .sweep heldRouter, some (0, heldRoute)⟩ ↔
    ∀ x ∈ l, SparesWindow obligingHost x :=
  safe_iff_sparesWindow ((Interleaving.start.next heldRouter_step).next
    (ThreadStep.sweep (step_after (by decide +kernel))))

/-- The router after the six sweeps. -/
def sweptRouter : SrInstance :=
  afterAll obligingHost 1 (List.replicate 6 .sweep) heldRouter

/-- The router once the packet thread has gone on. -/
def resumedRouter : SrInstance :=
  finalState (handleArpreq obligingHost 1 0 (some heldRoute) sweptRouter)

theorem obligingHost_monotone (m n : ℕ) (h : m ≤ n) :
    obligingHost.time m ≤ obligingHost.time n := by
  have hmn : (m : ℤ) ≤ n := Int.ofNat_le.mpr h
  have hle : (100+2*m : ℤ) ≤ 100+2*n := by omega
  exact hle

/-- The sixth sweep gives the request up. The packet thread enters `handle_arpreq` with it, and
destroys it again. -/
theorem held_request_destroyed_twice :
    (∀ m n, m ≤ n → obligingHost.time m ≤ obligingHost.time n) ∧ Initial smallRouter ∧
    ∃ l, Interleaving obligingHost ⟨smallRouter, none⟩
        (l ++ [(⟨sweptRouter, some (0, heldRoute)⟩, .enter)]) ⟨resumedRouter, none⟩ ∧
      ¬Pending sweptRouter 0 ∧ destroyedAddrs resumedRouter = [0, 0] := by
  refine ⟨obligingHost_monotone, smallRouter_initial, ?_⟩
  have hsweeps : handleAll obligingHost 1 (List.replicate 6 .sweep) heldRouter =
      .ok () sweptRouter := eq_ok_of_returns (by decide +kernel)
  have henter : handleArpreq obligingHost 1 0 (some heldRoute) sweptRouter =
      .ok () resumedRouter := eq_ok_of_returns (by decide +kernel)
  obtain ⟨l,hl⟩ := (Interleaving.start.next heldRouter_step).sweeps hsweeps
  refine ⟨l, hl.next (ThreadStep.enter henter), ?_, by decide +kernel⟩
  have hempty : sweptRouter.cache.requests.pending.length = 0 := by decide +kernel
  rintro ⟨r,hr,-⟩
  rw [List.length_eq_zero_iff.mp hempty] at hr
  exact absurd hr List.not_mem_nil

end InternetCourse.Router
