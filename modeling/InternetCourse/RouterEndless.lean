import InternetCourse.RouterLeak

/-! Which frames keep a router busy for ever. -/
namespace InternetCourse.Router

open ByteMem StateTriple

/-- The packet joins a request that is given up, and is not alone there: the loop over the waiting
packets, which looks the route up once more in each round, never moves on. -/
def Endless (env : Env) (s : SrInstance) (m : Mem) (len : ℕ) : Prop :=
  ∃ rt rt' r, 1 < ipTtl m ∧ longestPrefixSum s.routingTable (ipDst m) = some rt ∧
    srArpcacheLookup s.cache.entries (ipDst m) = none ∧
    s.cache.requests.pending.find? (fun r => r.ip == ipDst m) = some r ∧
    2 ≤ (if len = 0 then 0 else 1)+r.packets.length ∧ Exhausted env s r ∧
    routeAt env s.routingTable (ipDst m) = some rt' ∧
    (srGetInterface s.ifList rt'.interface).isSome

section Endless

variable {env : Env} {fuel : ℕ} {interface : CName} {s s' : SrInstance} {packet : Buf} {len : ℕ}
  {r : SrArpreq} {rt : SrRt}

theorem giveUpLoop_runsOut {i : SrIf} (hr : r ∈ s.cache.requests.pending)
    (hrt : routeAt env s.routingTable r.ip = some rt)
    (hi : srGetInterface s.ifList rt.interface = some i) (p p' : SrPacket)
    (rest : List SrPacket) (fuel : ℕ) :
    RunsOut .outOfFuel (giveUpLoop env fuel r.addr (p :: p' :: rest) s) := by
  induction fuel generalizing s with
  | zero => exact rfl
  | succ fuel ih =>
    rw [giveUpLoop_round env hr hrt hi]
    exact ih hr hrt hi

/-- A request that is given up with two packets waiting is never done with, where its route has an
interface. -/
theorem handleArpreq_runsOut (hr : r ∈ s.cache.requests.pending) (hx : Exhausted env s r)
    (hp : 2 ≤ r.packets.length) (hrt : routeAt env s.routingTable r.ip = some rt)
    (hi : (srGetInterface s.ifList rt.interface).isSome) (destRt : Option SrRt) (fuel : ℕ) :
    RunsOut .outOfFuel (handleArpreq env fuel r.addr destRt s) := by
  obtain ⟨i,hi⟩ := Option.isSome_iff_exists.mp hi
  match hpk : r.packets, hp with
  | p :: p' :: rest, _ =>
    have hne : r.packets ≠ [] := by
      rw [hpk]
      exact List.cons_ne_nil _ _
    rw [handleArpreq_of_giveUp env hr hx.1 hx.2, if_pos hne, hpk]
    have hr' : r ∈ (givingUpState env s r).cache.requests.pending := hr
    exact (giveUpLoop_runsOut hr' hrt hi p p' rest fuel).bind fun _ _ h => h.elim

/-- Without a route, or without the interface of the route, the first round of the loop
crashes. -/
theorem giveUpLoop_of_unlisted (hr : r ∈ s.cache.requests.pending)
    (hi : ∀ rt, routeAt env s.routingTable r.ip = some rt →
      srGetInterface s.ifList rt.interface = none) (p p' : SrPacket) (rest : List SrPacket)
    (fuel : ℕ) : ∃ e t, e ≠ .outOfFuel ∧
      giveUpLoop env (fuel+1) r.addr (p :: p' :: rest) s = .error e t := by
  cases hd : env.ipDstAt r.ip with
  | none =>
    obtain ⟨t,ht⟩ := giveUpLoop_unread env hr hd p p' rest fuel
    exact ⟨_, t, Fault.noConfusion, ht⟩
  | some ipDst =>
    cases hrt : longestPrefixSum s.routingTable ipDst with
    | none =>
      refine ⟨.nullDeref, s.addAccess ⟨r.addr, .ip, false, false⟩, Fault.noConfusion, ?_⟩
      simp only [giveUpLoop, iterate, bind_apply, readReq_of_mem hr,
        longestPrefixSumAt_apply env hd, SrInstance.addAccess_routingTable, hrt, deref, throw_apply]
    | some rt =>
      have hat : routeAt env (s.addAccess ⟨r.addr, .ip, false, false⟩).routingTable r.ip =
          some rt := (routeAt_of_read hd).trans hrt
      have hi' : srGetInterface (s.addAccess ⟨r.addr, .ip, false, false⟩).ifList rt.interface =
          none := hi rt hat
      refine ⟨.nullDeref, (s.addAccess ⟨r.addr, .ip, false, false⟩).addMalloc, Fault.noConfusion,
        ?_⟩
      simp only [giveUpLoop, iterate, bind_apply, readReq_of_mem hr,
        longestPrefixSumAt_of_route env hat, deref, pure_apply, destHostUnreach,
        icmpError_of_none env hi']

theorem arpRequestSend_of_unlisted (h : srGetInterface s.ifList rt.interface = none) (req : ℕ) :
    ∃ t, arpRequestSend env req (some rt) s = .error .nullDeref t := by
  refine ⟨s.addMalloc.addMalloc, ?_⟩
  simp only [arpRequestSend, bind_apply, deref, pure_apply, get_apply, h, malloc, throw_apply]

theorem not_runsOut_ok {α : Type} (a : α) (s : SrInstance) :
    ¬RunsOut Fault.outOfFuel (EStateM.Result.ok a s) := id

theorem not_runsOut_nullDeref {α : Type} (s : SrInstance) :
    ¬RunsOut (α := α) Fault.outOfFuel (EStateM.Result.error Fault.nullDeref s) := Fault.noConfusion

theorem not_runsOut_error {α : Type} {e : Fault} (he : e ≠ .outOfFuel) (s : SrInstance) :
    ¬RunsOut (α := α) Fault.outOfFuel (EStateM.Result.error e s) := he

/-- Any other call on a pending request ends. -/
theorem handleArpreq_ends (hr : r ∈ s.cache.requests.pending)
    (h : Exhausted env s r → 2 ≤ r.packets.length → ∀ rt',
      routeAt env s.routingTable r.ip = some rt' → srGetInterface s.ifList rt'.interface = none)
    (hf : 0 < fuel) : ¬RunsOut .outOfFuel (handleArpreq env fuel r.addr (some rt) s) := by
  by_cases hd : Due env s r
  swap
  · rw [handleArpreq_of_not_due env hr hd]
    exact not_runsOut_ok _ _
  by_cases hx : 5 ≤ r.timesSent
  swap
  · -- a broadcast, if there is an interface for it
    cases hi : srGetInterface s.ifList rt.interface with
    | some i =>
      rw [handleArpreq_of_retry env hr hd hx hi]
      exact not_runsOut_ok _ _
    | none =>
      obtain ⟨t,ht⟩ := @arpRequestSend_of_unlisted env (retryingState env s r) rt hi r.addr
      rw [handleArpreq_of_retrying env hr hd hx, bind_apply, ht]
      exact not_runsOut_nullDeref _
  by_cases hp : r.packets.length ≤ 1
  · rw [handleArpreq_giveUp_of_single env hr hd hx hp (some rt) hf]
    exact not_runsOut_ok _ _
  · -- the loop is entered, and finds no route, or no interface for it
    have hi := h ⟨hd,hx⟩ (by omega)
    obtain ⟨n,rfl⟩ : ∃ n, fuel = n+1 := ⟨fuel-1, by omega⟩
    match hpk : r.packets, hp with
    | p :: p' :: rest, _ =>
      have hne : r.packets ≠ [] := by
        rw [hpk]
        exact List.cons_ne_nil _ _
      have hr' : r ∈ (givingUpState env s r).cache.requests.pending := hr
      obtain ⟨e,t,he,ht⟩ := @giveUpLoop_of_unlisted env (givingUpState env s r) r hr' hi p p' rest n
      rw [handleArpreq_of_giveUp env hr hd hx, if_pos hne, hpk, bind_apply, ht]
      exact not_runsOut_error he _
    | [_], hp | [], hp => exact absurd (by simp) hp

/-- The request a packet joins: its own one, with the packet in front. -/
structure Joined (s : SrInstance) (n : ℕ) (r : SrArpreq) (s₁ : SrInstance) (r₁ : SrArpreq) :
    Prop where
  mem : r₁ ∈ s₁.cache.requests.pending
  ip : r₁.ip = r.ip
  sent : r₁.sent = r.sent
  timesSent : r₁.timesSent = r.timesSent
  packets : r₁.packets.length = n+r.packets.length
  times : s₁.log.times = s.log.times
  ifList : s₁.ifList = s.ifList
  routingTable : s₁.routingTable = s.routingTable

theorem srArpcacheQueuereq_joins {ip : UInt32}
    (hf : s.cache.requests.pending.find? (fun r => r.ip == ip) = some r) : ∃ s₁ r₁,
      srArpcacheQueuereq env ip packet len interface s = .ok r₁.addr s₁ ∧
        Joined s (if len = 0 then 0 else 1) r s₁ r₁ := by
  obtain ⟨-,pre,post,hs,-⟩ := List.find?_eq_some_iff_append.mp hf
  have hm := queuedState_pending env hs packet len interface
  obtain ⟨hif,htab,-,-,-,-,htimes,-⟩ := queuedState_frame env s r.addr packet len interface
  refine ⟨queuedState env s r.addr packet len interface,
    { r with packets := queuedCopies env s packet len interface ++ r.packets }, ?_, ?_⟩
  · rw [srArpcacheQueuereq_apply, hf]
  · refine ⟨Requests.mem_of_split hm, rfl, rfl, rfl, ?_, htimes, hif, htab⟩
    rw [List.length_append, queuedCopies]
    by_cases hl : len = 0
    · rw [if_pos hl, if_neg (not_not.mpr hl)]
      rfl
    · rw [if_neg hl, if_pos hl]
      rfl

theorem Joined.exhausted {n : ℕ} {s₁ : SrInstance} {r₁ : SrArpreq} (h : Joined s n r s₁ r₁) :
    Exhausted env s₁ r₁ ↔ Exhausted env s r := by
  rw [Exhausted, Exhausted, Due, Due, SrInstance.now, SrInstance.now, h.times, h.sent, h.timesSent]

theorem packetToOtherDest_runsOut (h : Endless env s packet.mem len) (interface : CName)
    (fuel : ℕ) : RunsOut .outOfFuel (packetToOtherDest env fuel packet interface len s) := by
  obtain ⟨rt,rt',r,ht,hrt,hlk,hf,hp,hx,hat,hi⟩ := h
  have hip : r.ip = ipDst packet.mem := by simpa using List.find?_some hf
  obtain ⟨s₁,r₁,hq,hj⟩ := @srArpcacheQueuereq_joins env interface s packet len r _ hf
  have hroute : routeAt env s₁.routingTable r₁.ip = some rt' := by
    rw [hj.routingTable, hj.ip, hip, hat]
  have hlisted : (srGetInterface s₁.ifList rt'.interface).isSome := by
    rw [hj.ifList]
    exact hi
  rw [packetToOtherDest_of_miss ht hrt hlk, bind_apply, hq]
  have hloop := handleArpreq_runsOut hj.mem (hj.exhausted.mpr hx) (hj.packets ▸ hp) hroute hlisted
    (some rt) fuel
  exact hloop.bind fun _ _ h => h.elim

theorem icmpError_ends (emitter : Emitter) (type code : UInt8) (ttl : UInt8 → UInt8) :
    ¬RunsOut .outOfFuel (icmpError env emitter type code ttl packet interface len s) := by
  cases hi : srGetInterface s.ifList interface with
  | none =>
    rw [icmpError_of_none env hi]
    exact not_runsOut_nullDeref _
  | some i =>
    rw [icmpError_of_some env hi]
    exact not_runsOut_ok _ _

/-- A request that a packet joins, or is made for it. -/
theorem handleArpreq_joined_ends
    (hend : ∀ r, s.cache.requests.pending.find? (fun r => r.ip == ipDst packet.mem) = some r →
      Exhausted env s r → 2 ≤ (if len = 0 then 0 else 1)+r.packets.length → ∀ rt',
      routeAt env s.routingTable (ipDst packet.mem) = some rt' →
      srGetInterface s.ifList rt'.interface = none) (hf : 0 < fuel) :
    ¬RunsOut .outOfFuel ((do
      let req ← srArpcacheQueuereq env (ipDst packet.mem) packet len interface
      handleArpreq env fuel req (some rt)
      pure (some (0 : ℤ))) s) := by
  rw [bind_apply]
  cases hfind : s.cache.requests.pending.find? (fun r => r.ip == ipDst packet.mem) with
  | some r =>
    have hip : r.ip = ipDst packet.mem := by simpa using List.find?_some hfind
    obtain ⟨s₁,r₁,hq,hj⟩ := @srArpcacheQueuereq_joins env interface s packet len r _ hfind
    rw [hq]
    apply runsOut_bind_pure_iff.not.mpr
    apply handleArpreq_ends hj.mem _ hf
    intro hx hp
    rw [hj.packets] at hp
    rw [hj.routingTable, hj.ip, hip, hj.ifList]
    exact hend r hfind (hj.exhausted.mp hx) hp
  | none =>
    -- a request just made has not been sent, so it is not given up
    obtain ⟨r,s₁,hq,henq⟩ :=
      srArpcacheQueuereq_returns env (ipDst packet.mem) packet len interface s
    rw [hq]
    apply runsOut_bind_pure_iff.not.mpr
    apply handleArpreq_ends henq.mem _ hf
    intro hx
    rcases henq.queue with ⟨pre,r₀,post,hs,hip,-⟩ | ⟨-,rfl,-⟩
    · have hnone := List.find?_eq_none.mp hfind r₀ (hs ▸ Requests.mem_of_split hs)
      rw [beq_iff_eq] at hnone
      exact absurd hip hnone
    · have h5 : ¬5 ≤ 0 := by decide
      exact absurd hx.2 h5

theorem packetToOtherDest_ends (h : ¬Endless env s packet.mem len) (interface : CName)
    (hf : 0 < fuel) : ¬RunsOut .outOfFuel (packetToOtherDest env fuel packet interface len s) := by
  cases routeWay s packet.mem with
  | expired ht =>
    rw [packetToOtherDest_of_expired ht]
    exact runsOut_bind_pure_iff.not.mpr (icmpError_ends _ _ _ _)
  | noRoute ht hrt =>
    rw [packetToOtherDest_of_noRoute ht hrt]
    exact runsOut_bind_pure_iff.not.mpr (icmpError_ends _ _ _ _)
  | unlisted ht hrt he hi =>
    rw [packetToOtherDest_of_unlisted ht hrt he hi]
    exact not_runsOut_nullDeref _
  | hit ht hrt he hi =>
    rw [packetToOtherDest_of_hit ht hrt he hi]
    exact not_runsOut_ok _ _
  | @miss rt ht hrt he =>
    rw [packetToOtherDest_of_miss ht hrt he]
    apply handleArpreq_joined_ends _ hf
    intro r hr hx hp rt' hat
    by_contra hi
    exact h ⟨rt, rt', r, ht, hrt, he, hr, hp, hx, hat, Option.isSome_iff_ne_none.mpr hi⟩

theorem packetToOtherDest_runsOut_iff (hf : 0 < fuel) :
    RunsOut .outOfFuel (packetToOtherDest env fuel packet interface len s) ↔
      Endless env s packet.mem len := by
  constructor
  · intro h
    by_contra hno
    exact packetToOtherDest_ends hno interface hf h
  · exact fun h => packetToOtherDest_runsOut h interface fuel

/-- Of the packets sent one after the other, one is never done with. What is done before it
needs no more than one unit of fuel. -/
def FlushSpins (env : Env) (interface : CName) : List SrPacket → SrInstance → Prop
  | [], _ => False
  | p :: rest, s => Endless env s p.buf.mem p.len ∨ ∃ ret s',
      packetToOtherDest env 1 p.buf interface p.len s = .ok ret s' ∧ FlushSpins env interface rest s'

theorem flushPackets_runsOut_iff (hf : 0 < fuel) {packets : List SrPacket} :
    RunsOut .outOfFuel (flushPackets env fuel interface packets s) ↔
      FlushSpins env interface packets s := by
  induction packets generalizing s with
  | nil => exact Iff.rfl
  | cons p rest ih =>
    -- where the call for the first packet returns, it does so on any fuel
    have hp := @packetToOtherDest_runsOut_iff env fuel interface s p.buf p.len hf
    rw [flushPackets, bind_apply, FlushSpins]
    cases hx : packetToOtherDest env fuel p.buf interface p.len s with
    | error e t =>
      rw [hx] at hp
      refine hp.trans ⟨Or.inl, ?_⟩
      rintro (h | ⟨ret,s',hs',-⟩)
      · exact h
      · rw [packetToOtherDest_refuel hs' hf] at hx
        contradiction
    | ok ret t =>
      rw [hx] at hp
      have hno : ¬Endless env s p.buf.mem p.len := fun h => hp.mpr h
      have hone := packetToOtherDest_refuel hx Nat.one_pos
      refine ih.trans ⟨fun h => Or.inr ⟨ret, t, hone, h⟩, ?_⟩
      rintro (h | ⟨ret',t',ht',h⟩)
      · exact absurd h hno
      · -- the call returns in one state only
        rw [hone] at ht'
        obtain ⟨-,rfl⟩ := EStateM.Result.ok.inj ht'
        exact h

/-- The frame starts a loop that never ends: it is a packet to be forwarded that does so, or it
releases packets and one of them does. -/
inductive SpinsOn (env : Env) (s : SrInstance) (m : Mem) (len : ℕ) (interface : CName) : Prop
  | transit : Accepted m len → ¬Local s m → Endless env s m len → SpinsOn env s m len interface
  | released {r : SrArpreq} : Releases s m interface r →
      FlushSpins env interface r.packets (insertedState env (arSha m) (arSip m) s.addArrival) →
      SpinsOn env s m len interface

theorem ipPacket_runsOut_iff (hf : 0 < fuel) :
    RunsOut .outOfFuel (ipPacket env fuel packet interface len s) ↔
      Accepted packet.mem len ∧ ¬Local s packet.mem ∧ Endless env s packet.mem len := by
  cases ipWay s packet.mem len with
  | rejected ha =>
    -- dropped, or crashed on a checksum that was not computed
    refine ⟨fun h => ?_, fun h => absurd h.1 ha⟩
    rcases ipPacket_of_not_accepted ha with hd | hd
    · rw [hd] at h
      exact h.elim
    · rw [hd] at h
      exact Fault.noConfusion h
  | echo ha hl h1 =>
    refine ⟨fun h => ?_, fun h => absurd hl h.2.1⟩
    rw [ipPacket_of_echo ha hl h1] at h
    cases hi : srGetInterface s.ifList interface with
    | none =>
      rw [echoReply_of_none env hi] at h
      exact absurd h (not_runsOut_nullDeref _)
    | some i =>
      rw [echoReply_of_some env hi] at h
      exact h.elim
  | unreachable ha hl h2 =>
    refine ⟨fun h => ?_, fun h => absurd hl h.2.1⟩
    rw [ipPacket_of_unreachable ha hl h2] at h
    exact absurd h (icmpError_ends _ _ _ _)
  | ignored ha hl hp =>
    refine ⟨fun h => ?_, fun h => absurd hl h.2.1⟩
    rw [ipPacket_of_ignored ha hl hp] at h
    exact h.elim
  | transit ha hl =>
    rw [ipPacket_of_transit ha hl, runsOut_bind_pure_iff,
      packetToOtherDest_runsOut_iff hf]
    exact ⟨fun h => ⟨ha,hl,h⟩, fun h => h.2.2⟩

theorem arpPacket_runsOut_iff (hf : 0 < fuel) (ht : ethertype packet.mem = ethertypeArp) :
    RunsOut .outOfFuel (arpPacket env fuel packet interface len s) ↔
      ∃ r, Releases s packet.mem interface r ∧ FlushSpins env interface r.packets
        (insertedState env (arSha packet.mem) (arSip packet.mem) s) := by
  cases arpWay s packet.mem interface with
  | unlisted hi =>
    rw [arpPacket_of_unlisted hi]
    refine ⟨fun h => absurd h (not_runsOut_nullDeref _), ?_⟩
    rintro ⟨r,⟨-,⟨i,hi',-⟩,-,-⟩,-⟩
    rw [hi] at hi'
    contradiction
  | @ignored i hi hno =>
    rw [arpPacket_of_ignored hi hno]
    refine ⟨fun h => h.elim, ?_⟩
    rintro ⟨r,⟨-,⟨j,hj,htip⟩,hop,-⟩,-⟩
    rw [hi] at hj
    obtain rfl := Option.some.inj hj
    rcases hno with hno | hno
    · exact absurd htip hno
    · exact absurd hop hno.2
  | request hi htip h1 =>
    rw [arpPacket_of_request hi htip h1]
    refine ⟨fun h => h.elim, ?_⟩
    rintro ⟨r,hr,-⟩
    have hop := hr.reply
    rw [h1] at hop
    exact absurd hop (by decide)
  | @reply i hi htip h2 =>
    cases hfind : s.cache.requests.pending.find? (fun r => r.ip == arSip packet.mem) with
    | none =>
      rw [arpPacket_of_unasked hi htip h2 hfind]
      refine ⟨fun h => h.elim, ?_⟩
      rintro ⟨r,hr,-⟩
      rw [hr.request] at hfind
      contradiction
    | some r =>
      rw [arpPacket_of_answered hi htip h2 hfind, runsOut_bind_iff, flushPackets_runsOut_iff hf]
      · refine ⟨fun h => ⟨r, ⟨ht,⟨i,hi,htip⟩,h2,hfind⟩, h⟩, ?_⟩
        rintro ⟨r',hr',h⟩
        rw [hr'.request] at hfind
        obtain rfl := Option.some.inj hfind
        exact h
      · exact fun _ _ h => h

theorem receive_runsOut_iff {frame : List UInt8} {slack : Mem} (hf : 0 < fuel) :
    RunsOut .outOfFuel (handle env fuel (.receive frame slack interface) s) ↔
      SpinsOn env s (load frame slack) frame.length interface := by
  by_cases ha : ethertype (load frame slack) = ethertypeArp
  · rw [receive_arp ha]
    refine (@arpPacket_runsOut_iff env fuel interface s.addArrival
      ⟨load frame slack, s.log.arrivals⟩ frame.length hf ha).trans ?_
    constructor
    · rintro ⟨r,hr,h⟩
      exact SpinsOn.released ⟨ha,hr.target,hr.reply,hr.request⟩ h
    · rintro (⟨hacc,-,-⟩ | ⟨hr,h⟩)
      · have hip := ((accepted_iff _ _).mp hacc).2.1
        rw [hip] at ha
        exact absurd ha (by decide)
      · exact ⟨_, ⟨ha,hr.target,hr.reply,hr.request⟩, h⟩
  -- only ARP frames release packets
  have hno : ∀ r, ¬Releases s (load frame slack) interface r := fun r hr => ha hr.arp
  by_cases hi : ethertype (load frame slack) = ethertypeIp
  · rw [receive_ip hi]
    refine (@ipPacket_runsOut_iff env fuel interface s.addArrival
      ⟨load frame slack, s.log.arrivals⟩ frame.length hf).trans ?_
    constructor
    · rintro ⟨hacc,hl,h⟩
      exact SpinsOn.transit hacc hl h
    · rintro (⟨hacc,hl,h⟩ | ⟨hr,-⟩)
      · exact ⟨hacc,hl,h⟩
      · exact absurd hr (hno _)
  · rw [receive_other ha hi]
    refine ⟨fun h => h.elim, ?_⟩
    rintro (⟨hacc,-,-⟩ | ⟨hr,-⟩)
    · exact absurd ((accepted_iff _ _).mp hacc).2.1 hi
    · exact absurd hr (hno _)

end Endless

end InternetCourse.Router
