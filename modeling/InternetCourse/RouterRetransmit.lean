import InternetCourse.RouterReach
import InternetCourse.RouterNextHop

/-! The interfaces retransmissions leave by. The sweep looks one route up, that of the head of
the queue, and every request goes out by it. -/
namespace InternetCourse.Router

open ByteMem StateTriple

/-- The interface of the route for an address. -/
def outgoing (s : SrInstance) (ip : UInt32) : Option SrIf :=
  (longestPrefixSum s.routingTable ip).bind fun rt => srGetInterface s.ifList rt.interface

/-- The interface of the route the sweep finds for the request at the head of its queue: that
of the head's own address, where this is what its lookup reads. -/
def headOutgoing (env : Env) (s : SrInstance) (ip : UInt32) : Option SrIf :=
  (routeAt env s.routingTable ip).bind fun rt => srGetInterface s.ifList rt.interface

/-- An ARP message that leaves by an interface and names it as its sender. -/
structure SentBy (i : SrIf) (c : SendCall) : Prop where
  iface : c.iface = i.name
  shost : etherShost c.buf = i.addr
  sha : arSha c.buf = i.addr
  sip : arSip c.buf = i.ip

/-- Whatever a sweep broadcasts for a pending request leaves by the interface of the route for
the address of that request. -/
def RetransmitsRight (env : Env) (s : SrInstance) : Prop :=
  ∀ fuel, ∀ c ∈ (⟨s,.sweep,fuel⟩ : Happening).sends env, c.emitter = .arpRequestSend →
    ∀ r ∈ s.cache.requests.pending, r.ip = arTip c.buf →
      ∃ i, outgoing s r.ip = some i ∧ SentBy i c

/-- A request the sweep does not get past: it is given up with two packets or more waiting. -/
def Stuck (env : Env) (n : ℕ) (r : SrArpreq) : Prop :=
  DueAt env n r ∧ 5 ≤ r.timesSent ∧ 2 ≤ r.packets.length

/-- The `k`-th request of a list is due again when its turn comes, the first one at the `n`-th
reading of the clock. -/
structure Rebroadcast (env : Env) (n : ℕ) (l : List SrArpreq) (k : ℕ) (r : SrArpreq) : Prop where
  pending : l[k]? = some r
  due : DueAt env (n+k) r
  timesSent : r.timesSent < 5
  reached : ∀ j < k, ∀ q, l[j]? = some q → ¬Stuck env (n+j) q

/-- Every request that is due again has the same outgoing interface as the head of the queue. -/
def SameWay (env : Env) (s : SrInstance) : Prop :=
  ∀ head i k r, s.cache.requests.pending.head? = some head → headOutgoing env s head.ip = some i →
    Rebroadcast env s.log.times s.cache.requests.pending k r → outgoing s r.ip = some i

variable {env : Env} {s t : SrInstance} {destRt : Option SrRt} {r r' : SrArpreq}
  {l rest pre : List SrArpreq} {i : SrIf} {n k fuel inner : ℕ}

theorem SentBy.unique {i' : SrIf} {c : SendCall} (h : SentBy i c) (h' : SentBy i' c) : i = i' := by
  cases i
  cases i'
  obtain ⟨rfl,-,rfl,rfl⟩ := h
  obtain ⟨rfl,-,rfl,rfl⟩ := h'
  rfl

theorem rebroadcast_zero : Rebroadcast env n (r :: l) 0 r' ↔
    r' = r ∧ DueAt env n r ∧ r.timesSent < 5 := by
  constructor
  · intro h
    obtain rfl := Option.some.inj h.pending
    exact ⟨rfl, h.due, h.timesSent⟩
  · rintro ⟨rfl,hd,hx⟩
    exact ⟨rfl, hd, hx, fun j hj => absurd hj (Nat.not_lt_zero j)⟩

theorem rebroadcast_succ : Rebroadcast env n (r :: l) (k+1) r' ↔
    ¬Stuck env n r ∧ Rebroadcast env (n+1) l k r' := by
  have hadd (j : ℕ) : n+(j+1) = n+1+j := by omega
  constructor
  · intro h
    refine ⟨h.reached 0 (Nat.succ_pos k) r rfl, h.pending, ?_, h.timesSent, ?_⟩
    · rw [← hadd]
      exact h.due
    · intro j hj q hq
      rw [← hadd]
      exact h.reached (j+1) (Nat.succ_lt_succ hj) q hq
  · rintro ⟨hr,hp,hd,hx,hall⟩
    refine ⟨hp, by rwa [hadd], hx, ?_⟩
    intro j hj q hq
    cases j with
    | zero =>
      obtain rfl := Option.some.inj hq
      exact hr
    | succ j =>
      rw [hadd]
      exact hall j (Nat.lt_of_succ_lt_succ hj) q hq

/-! One call of `handle_arpreq`. -/

theorem arpRequestCall_sentBy (s : SrInstance) (i : SrIf) (ip : UInt32) :
    SentBy i (arpRequestCall env s i ip) := by
  have hf := arpRequestFrame_fields (env.malloc s.log.mallocs) (env.malloc (s.log.mallocs+1))
    (env.malloc (s.log.mallocs+2)) i ip
  exact ⟨rfl, arpRequestFrame_shost _ _ _ i ip, hf.sha, hf.sip⟩

/-- A broadcast for a request, by the interface of a route. -/
structure Broadcasts (destRt : Option SrRt) (ifList : List SrIf) (r : SrArpreq) (c : SendCall) :
    Prop where
  emitter : c.emitter = .arpRequestSend
  tip : arTip c.buf = r.ip
  sentBy : ∃ rt i, destRt = some rt ∧ srGetInterface ifList rt.interface = some i ∧ SentBy i c

/-- What one call sends: of broadcasts, only those for its own request. -/
def Resends (env : Env) (destRt : Option SrRt) (s : SrInstance) (r : SrArpreq) (t : SrInstance) :
    Prop :=
  ∃ calls, t.log.sends = calls ++ s.log.sends ∧ ∀ c ∈ calls, c.emitter = .arpRequestSend →
    Due env s r ∧ r.timesSent < 5 ∧ Broadcasts destRt s.ifList r c

theorem Handled.resends (h : Handled env destRt s r t) : Resends env destRt s r t := by
  cases h with
  | notDue => exact ⟨[], rfl, by simp⟩
  | gaveUp => exact ⟨[], gaveUpState_sends s r, by simp⟩
  | @retried rt i hd hx hrt hi =>
    refine ⟨[_], retriedState_sends s r i, ?_⟩
    intro c hc _
    obtain rfl := List.mem_singleton.mp hc
    exact ⟨hd, hx, rfl, arpRequestCall_tip _ _ _, rt, i, hrt, hi, arpRequestCall_sentBy _ _ _⟩

theorem Interrupted.resends (h : Interrupted env s r t) : Resends env destRt s r t := by
  cases h with
  | retrying _ _ _ _ hs => exact ⟨[], hs, by simp⟩
  | givingUp _ _ _ _ hs hc =>
    refine ⟨_, hs, ?_⟩
    intro c hm he
    have hother := (hc c hm).1
    rw [he] at hother
    contradiction

theorem handleArpreq_resends (hr : r ∈ s.cache.requests.pending) :
    Resends env destRt s r (finalState (handleArpreq env fuel r.addr destRt s)) := by
  cases hh : handleArpreq env fuel r.addr destRt s with
  | ok a t => exact (handleArpreq_returns env hr hh).resends
  | error e t => exact (handleArpreq_fails hr hh).resends

/-- A call that returns was not stuck. -/
theorem Handled.not_stuck (h : Handled env destRt s r t) : ¬Stuck env s.log.times r := by
  rintro ⟨hd,h5,h2⟩
  cases h with
  | notDue hn => exact hn hd
  | retried _ hx => exact absurd h5 (Nat.not_le.mpr hx)
  | gaveUp _ _ h1 => omega

theorem handleArpreq_of_not_stuck (hr : r ∈ s.cache.requests.pending)
    (hn : ¬Stuck env s.log.times r) {rt : SrRt} (hi : srGetInterface s.ifList rt.interface = some i)
    (hf : 0 < fuel) : ∃ t, handleArpreq env fuel r.addr (some rt) s = .ok () t := by
  by_cases hd : Due env s r
  swap
  · exact ⟨_, handleArpreq_of_not_due env hr hd fuel (some rt)⟩
  by_cases h5 : 5 ≤ r.timesSent
  · have h1 : r.packets.length ≤ 1 := by
      by_contra h2
      exact hn ⟨hd, h5, by omega⟩
    exact ⟨_, handleArpreq_giveUp_of_single env hr hd h5 h1 (some rt) hf⟩
  · exact ⟨_, handleArpreq_of_retry env hr hd h5 hi fuel⟩

/-! The sweep. -/

/-- What the sweep sends on its way through a list: of broadcasts, only those for the requests
that are due again. -/
def SweepSends (env : Env) (destRt : Option SrRt) (s : SrInstance) (l : List SrArpreq)
    (t : SrInstance) : Prop :=
  ∃ calls, t.log.sends = calls ++ s.log.sends ∧ ∀ c ∈ calls, c.emitter = .arpRequestSend →
    ∃ k q, Rebroadcast env s.log.times l k q ∧ Broadcasts destRt s.ifList q c

theorem Resends.sweepSends {s₀ : SrInstance} (h : Resends env destRt s r t)
    (hs : s.log.sends = s₀.log.sends) (ht : s.log.times = s₀.log.times)
    (hi : s.ifList = s₀.ifList) : SweepSends env destRt s₀ (r :: l) t := by
  obtain ⟨calls,hsends,hall⟩ := h
  refine ⟨calls, hsends.trans (congrArg _ hs), ?_⟩
  intro c hc he
  obtain ⟨hd,hx,hb⟩ := hall c hc he
  have hdue : DueAt env s.log.times r := hd
  rw [ht] at hdue
  rw [hi] at hb
  exact ⟨0, r, rebroadcast_zero.mpr ⟨rfl,hdue,hx⟩, hb⟩

/-- One request handled, and then the rest of the list. -/
theorem SweepSends.cons {s₁ : SrInstance} (h : Resends env destRt s r s₁)
    (hn : ¬Stuck env s.log.times r) (ht : s₁.log.times = s.log.times+1)
    (hi : s₁.ifList = s.ifList) (hrest : SweepSends env destRt s₁ l t) :
    SweepSends env destRt s (r :: l) t := by
  obtain ⟨calls₁,hs₁,hall₁⟩ := @Resends.sweepSends env s s₁ destRt r l s h rfl rfl rfl
  obtain ⟨calls₂,hs₂,hall₂⟩ := hrest
  refine ⟨calls₂ ++ calls₁, ?_, ?_⟩
  · rw [hs₂, hs₁, List.append_assoc]
  · intro c hc he
    rcases List.mem_append.mp hc with hc | hc
    · obtain ⟨k,q,hq,hb⟩ := hall₂ c hc he
      rw [ht] at hq
      rw [hi] at hb
      exact ⟨k+1, q, rebroadcast_succ.mpr ⟨hn,hq⟩, hb⟩
    · exact hall₁ c hc he

theorem sweepFrom_sends (h : s.cache.requests.pending = pre ++ r :: rest) :
    SweepSends env destRt s (r :: rest) (finalState (sweepFrom env inner destRt fuel r.addr s)) := by
  induction rest generalizing r s pre fuel with
  | nil =>
    cases fuel with
    | zero => exact ⟨[], rfl, by simp⟩
    | succ fuel =>
      rw [sweepFrom_last h]
      have hr : r ∈ (s.addAccess ⟨r.addr, .next, false, false⟩).cache.requests.pending :=
        Requests.mem_of_split h
      exact (handleArpreq_resends hr).sweepSends rfl rfl rfl
  | cons r' rest ih =>
    cases fuel with
    | zero => exact ⟨[], rfl, by simp⟩
    | succ fuel =>
      have hr : r ∈ (s.addAccess ⟨r.addr, .next, false, false⟩).cache.requests.pending :=
        Requests.mem_of_split h
      cases hh : handleArpreq env inner r.addr destRt
          (s.addAccess ⟨r.addr, .next, false, false⟩) with
      | error e s₁ =>
        rw [sweepFrom_of_error h hh]
        exact (handleArpreq_fails hr hh).resends.sweepSends rfl rfl rfl
      | ok u s₁ =>
        have hd := handleArpreq_returns env hr hh
        obtain ⟨pre',hp⟩ := hd.pending_tail h
        rw [sweepFrom_cons h hh]
        exact SweepSends.cons hd.resends hd.not_stuck hd.times hd.frame.1 (ih hp)

theorem broadcasts_retried (s : SrInstance) {rt : SrRt} {ifList : List SrIf}
    (hi : srGetInterface ifList rt.interface = some i) :
    Broadcasts (some rt) ifList r (arpRequestCall env s i r.ip) :=
  ⟨rfl, arpRequestCall_tip _ _ _, rt, i, rfl, hi, arpRequestCall_sentBy _ _ _⟩

/-- With enough fuel the sweep gets to every request that is due again. -/
theorem sweepFrom_rebroadcasts {rt : SrRt} {q : SrArpreq}
    (h : s.cache.requests.pending = pre ++ r :: rest)
    (hi : srGetInterface s.ifList rt.interface = some i)
    (hq : Rebroadcast env s.log.times (r :: rest) k q) (hin : 0 < inner) (hk : k < fuel) :
    ∃ calls, (finalState (sweepFrom env inner (some rt) fuel r.addr s)).log.sends =
      calls ++ s.log.sends ∧ ∃ c ∈ calls, Broadcasts (some rt) s.ifList q c := by
  induction k generalizing r s pre rest fuel with
  | zero =>
    obtain ⟨fuel,rfl⟩ : ∃ n, fuel = n+1 := ⟨fuel-1, by omega⟩
    obtain ⟨rfl,hd,hx⟩ := rebroadcast_zero.mp hq
    let s₀ := s.addAccess ⟨q.addr, .next, false, false⟩
    have hr : q ∈ s₀.cache.requests.pending := Requests.mem_of_split h
    have hi₀ : srGetInterface s₀.ifList rt.interface = some i := hi
    have hd₀ : Due env s₀ q := hd
    have hret := handleArpreq_of_retry env hr hd₀ (Nat.not_le.mpr hx) hi₀ inner
    have hsent : (retriedState env s₀ q i).log.sends =
        arpRequestCall env (retryingState env s₀ q) i q.ip :: s.log.sends :=
      retriedState_sends s₀ q i
    have hb := @broadcasts_retried env q i (retryingState env s₀ q) rt s.ifList hi
    cases rest with
    | nil =>
      rw [sweepFrom_last h, hret]
      exact ⟨[_], hsent, _, List.mem_cons_self, hb⟩
    | cons r' rest =>
      have hh : Handled env (some rt) s₀ q (retriedState env s₀ q i) :=
        Handled.retried hd₀ hx rfl hi₀
      obtain ⟨pre',hp⟩ := hh.pending_tail h
      rw [sweepFrom_cons h hret]
      -- the walk goes on, and takes nothing off the record
      obtain ⟨calls,hcalls,-⟩ := @sweepFrom_sends env ((retriedState env s₀ q i).addAccess
        ⟨q.addr, .next, false, decide (Exhausted env s q)⟩) (some rt) r' rest pre' fuel inner hp
      refine ⟨calls ++ [arpRequestCall env (retryingState env s₀ q) i q.ip], ?_, _,
        List.mem_append_right _ List.mem_cons_self, hb⟩
      rw [hcalls, List.append_assoc]
      exact congrArg _ hsent
  | succ k ih =>
    obtain ⟨fuel,rfl⟩ : ∃ n, fuel = n+1 := ⟨fuel-1, by omega⟩
    obtain ⟨hn,hq'⟩ := rebroadcast_succ.mp hq
    cases rest with
    | nil => exact absurd hq'.pending (by simp)
    | cons r' rest =>
      let s₀ := s.addAccess ⟨r.addr, .next, false, false⟩
      have hr : r ∈ s₀.cache.requests.pending := Requests.mem_of_split h
      have hn₀ : ¬Stuck env s₀.log.times r := hn
      have hi₀ : srGetInterface s₀.ifList rt.interface = some i := hi
      obtain ⟨t,ht⟩ := handleArpreq_of_not_stuck hr hn₀ hi₀ hin
      have hh := handleArpreq_returns env hr ht
      obtain ⟨pre',hp⟩ := hh.pending_tail h
      let s₁ := t.addAccess ⟨r.addr, .next, false, decide (Exhausted env s r)⟩
      have hi₁ : s₁.ifList = s.ifList := hh.frame.1
      have ht₁ : s₁.log.times = s.log.times+1 := hh.times
      rw [← hi₁] at hi
      rw [← ht₁] at hq'
      obtain ⟨calls,hcalls,c,hc,hb⟩ := ih (s := s₁) hp hi hq' (Nat.lt_of_succ_lt_succ hk)
      obtain ⟨calls₀,hcalls₀,-⟩ := hh.resends
      rw [hi₁] at hb
      rw [sweepFrom_cons h ht]
      refine ⟨calls ++ calls₀, ?_, c, List.mem_append_left _ hc, hb⟩
      rw [hcalls, List.append_assoc]
      exact congrArg _ hcalls₀

theorem handle_sweep_cons {head : SrArpreq} (h : s.cache.requests.pending = head :: rest)
    {ipDst : UInt32} (hd : env.ipDstAt head.ip = some ipDst) :
    handle env fuel .sweep s = sweepFrom env fuel (routeAt env s.routingTable head.ip) fuel
      head.addr (s.addAccess ⟨head.addr, .ip, false, false⟩) := by
  rw [handle, srArpcacheSweepreqs_cons h hd, routeAt_of_read hd]

theorem headOutgoing_eq_some_iff {ip : UInt32} : headOutgoing env s ip = some i ↔
    ∃ rt, routeAt env s.routingTable ip = some rt ∧
      srGetInterface s.ifList rt.interface = some i := Option.bind_eq_some_iff

/-- What a sweep broadcasts goes out by the interface of the head, for a request due again. -/
theorem sweep_broadcast_of_mem {c : SendCall}
    (hc : c ∈ (⟨s,.sweep,fuel⟩ : Happening).sends env) (he : c.emitter = .arpRequestSend) :
    ∃ head i k q, s.cache.requests.pending.head? = some head ∧
      headOutgoing env s head.ip = some i ∧
      Rebroadcast env s.log.times s.cache.requests.pending k q ∧ arTip c.buf = q.ip ∧
      SentBy i c := by
  have happ := (⟨s,.sweep,fuel⟩ : Happening).sends_append env
  cases hp : s.cache.requests.pending with
  | nil =>
    have hsame : ((⟨s,.sweep,fuel⟩ : Happening).after env).log.sends = s.log.sends := by
      simp only [Happening.after, handle, srArpcacheSweepreqs, bind_apply, get_apply, hp]
      rfl
    have hnil : [] = (⟨s,.sweep,fuel⟩ : Happening).sends env :=
      List.append_cancel_right (hsame.symm.trans happ)
    rw [← hnil] at hc
    contradiction
  | cons head rest =>
    let s₁ := s.addAccess ⟨head.addr, .ip, false, false⟩
    have hp₁ : s₁.cache.requests.pending = [] ++ head :: rest := hp
    obtain ⟨calls,hcalls,hall⟩ := @sweepFrom_sends env s₁ (routeAt env s.routingTable head.ip)
      head rest [] fuel fuel hp₁
    -- a sweep that sends anything has read something for the head
    obtain ⟨ipDst,hd⟩ : ∃ ipDst, env.ipDstAt head.ip = some ipDst := by
      cases hd : env.ipDstAt head.ip with
      | none =>
        rw [Happening.after, handle, srArpcacheSweepreqs_unread hp hd] at happ
        have hnil : [] = (⟨s,.sweep,fuel⟩ : Happening).sends env :=
          @List.append_cancel_right _ [] s.log.sends _ happ
        rw [← hnil] at hc
        contradiction
      | some ipDst => exact ⟨ipDst,rfl⟩
    rw [Happening.after, handle_sweep_cons hp hd] at happ
    have hsends : calls = (⟨s,.sweep,fuel⟩ : Happening).sends env :=
      List.append_cancel_right (hcalls.symm.trans happ)
    rw [← hsends] at hc
    obtain ⟨k,q,hq,-,htip,rt,i,hrt,hi,hby⟩ := hall c hc he
    exact ⟨head, i, k, q, rfl, headOutgoing_eq_some_iff.mpr ⟨rt,hrt,hi⟩, hq, htip, hby⟩

/-- And each request due again is broadcast, by the interface of the head. -/
theorem exists_sweep_broadcast {head q : SrArpreq}
    (hh : s.cache.requests.pending.head? = some head) (hout : headOutgoing env s head.ip = some i)
    (hq : Rebroadcast env s.log.times s.cache.requests.pending k q) :
    ∃ fuel, ∃ c ∈ (⟨s,.sweep,fuel⟩ : Happening).sends env, c.emitter = .arpRequestSend ∧
      arTip c.buf = q.ip ∧ SentBy i c := by
  obtain ⟨rt,hrt,hi⟩ := headOutgoing_eq_some_iff.mp hout
  obtain ⟨ipDst,hd,-⟩ := Option.bind_eq_some_iff.mp hrt
  obtain ⟨rest,hp⟩ : ∃ rest, s.cache.requests.pending = head :: rest := by
    cases hl : s.cache.requests.pending with
    | nil =>
      rw [hl] at hh
      contradiction
    | cons x rest =>
      rw [hl] at hh
      exact ⟨rest, by rw [Option.some.inj hh]⟩
  let s₁ := s.addAccess ⟨head.addr, .ip, false, false⟩
  have hp₁ : s₁.cache.requests.pending = [] ++ head :: rest := hp
  have hi₁ : srGetInterface s₁.ifList rt.interface = some i := hi
  rw [hp] at hq
  -- the walk from the head, with a unit of fuel for each request before `q`
  obtain ⟨calls,hcalls,c,hc,he,htip,rt',i',hrt',hi',hby⟩ := @sweepFrom_rebroadcasts env s₁ head
    rest [] i k (k+1) (k+1) rt q hp₁ hi₁ hq (Nat.succ_pos k) (Nat.lt_succ_self k)
  obtain rfl := Option.some.inj hrt'
  obtain rfl := Option.some.inj (hi₁.symm.trans hi')
  have happ := (⟨s,.sweep,k+1⟩ : Happening).sends_append env
  rw [Happening.after, handle_sweep_cons hp hd, hrt] at happ
  have hsends : calls = (⟨s,.sweep,k+1⟩ : Happening).sends env :=
    List.append_cancel_right (hcalls.symm.trans happ)
  rw [hsends] at hc
  exact ⟨k+1, c, hc, he, htip, hby⟩

/-- Retransmissions leave by the right interfaces if and only if all that are made leave by that
of the head of the queue anyway. -/
theorem retransmitsRight_iff (env : Env) (s : SrInstance) :
    RetransmitsRight env s ↔ SameWay env s := by
  constructor
  -- whatever is rebroadcast goes out by the interface of the head; the rule fixes its own
  · intro h head i k q hh hout hq
    obtain ⟨fuel,c,hc,he,htip,hby⟩ := exists_sweep_broadcast hh hout hq
    obtain ⟨i',hout',hby'⟩ := h fuel c hc he q (List.mem_of_getElem? hq.pending) htip.symm
    rw [hby.unique hby']
    exact hout'
  · intro h fuel c hc he r _ hip
    obtain ⟨head,i,k,q,hh,hout,hq,htip,hby⟩ := sweep_broadcast_of_mem hc he
    have hq' := h head i k q hh hout hq
    rw [hip, htip]
    exact ⟨i, hq', hby⟩

/-- The small router after a packet for each of the hosts, with a request for each. -/
def twiceQueuedRouter : SrInstance :=
  after obligingHost 1 (.receive (transitTo (address 10 0 0 2)) (fun _ => 0) eth1) queuedRouter

/-- The request for the second host is broadcast by the interface of the first. -/
theorem twiceQueuedRouter_misrouted :
    Run obligingHost smallRouter twiceQueuedRouter ∧
    (∀ r ∈ twiceQueuedRouter.cache.requests.pending,
      (longestPrefixSum twiceQueuedRouter.routingTable r.ip).isSome) ∧
    ¬RetransmitsRight obligingHost twiceQueuedRouter := by
  have hfirst : Step obligingHost (.receive transitFrame (fun _ => 0) eth0) smallRouter
      queuedRouter := step_after (by decide +kernel)
  have hsecond : Step obligingHost (.receive (transitTo (address 10 0 0 2)) (fun _ => 0) eth1)
      queuedRouter twiceQueuedRouter := step_after (by decide +kernel)
  have hrun : Run obligingHost smallRouter twiceQueuedRouter :=
    (Relation.ReflTransGen.single ⟨_,hfirst⟩).tail ⟨_,hsecond⟩
  refine ⟨hrun, ?_, ?_⟩
  · have hall : twiceQueuedRouter.cache.requests.pending.all (fun r =>
        (longestPrefixSum twiceQueuedRouter.routingTable r.ip).isSome) = true := by decide +kernel
    exact List.all_eq_true.mp hall
  · intro h
    have hsent : ((⟨twiceQueuedRouter,.sweep,2⟩ : Happening).sends obligingHost).any (fun c =>
        decide (c.emitter = .arpRequestSend ∧ c.iface = eth0 ∧ arTip c.buf = address 10 0 1 2)) =
        true := by decide +kernel
    have hwaits : twiceQueuedRouter.cache.requests.pending.any
        (fun r => r.ip == address 10 0 1 2) = true := by decide +kernel
    have hout : (outgoing twiceQueuedRouter (address 10 0 1 2)).map SrIf.name = some eth1 := by
      decide +kernel
    -- the second host is asked for on the first link, while its route goes out by the second
    obtain ⟨c,hc,hd⟩ := List.any_eq_true.mp hsent
    obtain ⟨he,hiface,htip⟩ := of_decide_eq_true hd
    obtain ⟨r,hr,hip⟩ := List.any_eq_true.mp hwaits
    have hip' : r.ip = address 10 0 1 2 := eq_of_beq hip
    obtain ⟨i,hi,hby⟩ := h 2 c hc he r hr (hip'.trans htip.symm)
    rw [hip'] at hi
    rw [hi, Option.map_some, ← hby.iface, hiface] at hout
    exact absurd hout (by decide)

end InternetCourse.Router
