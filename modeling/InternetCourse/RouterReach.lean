import InternetCourse.RouterMoves

/-! Events that crash or go round a loop for ever. Up to the call of `handle_arpreq` in
which they stop, they make the same moves as the others. -/
namespace InternetCourse.Router

open ByteMem StateTriple

/-- Where a call of `handle_arpreq` can stop: in the broadcast, or in the loop over the
waiting packets. The queue is then still as it was. -/
inductive Interrupted (env : Env) (s : SrInstance) (r : SrArpreq) (s' : SrInstance) : Prop where
  | retrying : s'.cache = s.cache ∧ s'.log.arrivals = s.log.arrivals → Due env s r →
      r.timesSent < 5 →
      s'.log.arp = .requestSend r.addr (s.now env) :: .handle r.addr (s.now env) :: s.log.arp →
      s'.log.sends = s.log.sends → Interrupted env s r s'
  | givingUp {calls : List SendCall} : s'.cache = s.cache ∧ s'.log.arrivals = s.log.arrivals →
      Due env s r → 5 ≤ r.timesSent →
      s'.log.arp = .giveUp r.addr (s.now env) :: .handle r.addr (s.now env) :: s.log.arp →
      s'.log.sends = calls ++ s.log.sends →
      (∀ c ∈ calls, c.emitter = .destHostUnreach ∧ (∃ p ∈ r.packets, ErrorAbout c p.buf p.len) ∧
        ∃ rt, routeAt env s.routingTable r.ip = some rt ∧ c.iface = rt.interface) →
      Interrupted env s r s'

variable {env : Env} {s s' : SrInstance}

theorem arpRequestSend_fails {req : ℕ} {dest : Option SrRt} {e : Fault} {r : SrArpreq}
    (hr : r ∈ s.cache.requests.pending) (hreq : r.addr = req)
    (h : arpRequestSend env req dest s = .error e s') : s'.log.arp = s.log.arp ∧
      s'.log.sends = s.log.sends ∧ s'.cache = s.cache ∧ s'.log.arrivals = s.log.arrivals := by
  subst hreq
  cases dest with
  | none =>
    simp only [arpRequestSend, bind_apply, deref, throw_apply] at h
    obtain rfl := (EStateM.Result.error.inj h).2
    exact ⟨rfl,rfl,rfl,rfl⟩
  | some rt =>
    cases hi : srGetInterface s.ifList rt.interface with
    | none =>
      simp only [arpRequestSend, bind_apply, deref, pure_apply, get_apply, hi, malloc,
        throw_apply] at h
      obtain rfl := (EStateM.Result.error.inj h).2
      exact ⟨rfl,rfl,rfl,rfl⟩
    | some i =>
      rw [arpRequestSend_of_some env hr hi] at h
      contradiction

/-- What the loop over the packets that wait for `ip` adds to the record: messages about one of
them, by the interface of the route it finds. -/
def GivingUp (env : Env) (ip : UInt32) (packets : List SrPacket) (s t : SrInstance) : Prop :=
  (t.cache = s.cache ∧ t.log.arrivals = s.log.arrivals) ∧ t.routingTable = s.routingTable ∧
    t.log.arp = s.log.arp ∧ ∃ calls, t.log.sends = calls ++ s.log.sends ∧ ∀ c ∈ calls, c.emitter = .destHostUnreach ∧
      (∃ p ∈ packets, ErrorAbout c p.buf p.len) ∧
      ∃ rt, routeAt env s.routingTable ip = some rt ∧ c.iface = rt.interface

theorem readReq_keeps {J : SrInstance → Prop} (h : ∀ t a, J t → J (t.addAccess a)) (req : ℕ)
    (field : ArpreqField) : Keeps J (readReq req field) := by
  intro t ht
  simp only [readReq]
  cases t.cache.requests.find req with
  | none => exact ht
  | some r => exact h t _ ht

theorem deref_keeps {α : Type} {J : SrInstance → Prop} (o : Option α) : Keeps J (deref o) := by
  cases o with
  | none => exact Keeps.throw _
  | some a => exact Keeps.pure a

theorem longestPrefixSumAt_keeps {J : SrInstance → Prop} (env : Env) (ip : UInt32) :
    Keeps J (longestPrefixSumAt env ip) := by
  intro t ht
  cases hd : env.ipDstAt ip with
  | none =>
    rw [longestPrefixSumAt_error env hd]
    exact ht
  | some ipDst =>
    rw [longestPrefixSumAt_apply env hd]
    exact ht

theorem destHostUnreach_keeps {ip : UInt32} {packets : List SrPacket} {p : SrPacket}
    (hp : p ∈ packets) (s : SrInstance) {rt : SrRt}
    (hrt : routeAt env s.routingTable ip = some rt) :
    Keeps (GivingUp env ip packets s) (destHostUnreach env p.buf rt.interface p.len) := by
  intro t ht
  obtain ⟨hc,ht,ha,calls,hs,hall⟩ := ht
  rw [destHostUnreach]
  cases hi : srGetInterface t.ifList rt.interface with
  | none =>
    rw [icmpError_of_none env hi]
    exact ⟨hc, ht, ha, calls, hs, hall⟩
  | some i =>
    rw [icmpError_of_some env hi]
    have hab := icmpErrorCall_about env (Or.inr (Or.inl rfl)) t 3 1 (fun ttl => ttl) p.buf i
      rt.interface p.len
    refine ⟨hc, ht, ha, _ :: calls, congrArg _ hs, ?_⟩
    intro c hm
    rcases List.mem_cons.mp hm with rfl | hm
    · exact ⟨rfl, ⟨p,hp,hab⟩, rt, hrt, rfl⟩
    · exact hall c hm

/-- One round of the loop, with a second packet in the list. -/
theorem giveUpRound_triple {s : SrInstance} {r : SrArpreq} (hr : r ∈ s.cache.requests.pending)
    {packets : List SrPacket} {p : SrPacket} (hp : p ∈ packets) :
    Triple (GivingUp env r.ip packets s) (do
        let r ← readReq r.addr .ip
        let destRt ← longestPrefixSumAt env r.ip
        let destRt ← deref destRt
        destHostUnreach env p.buf destRt.interface p.len
        pure (.inl packets))
      (fun (x : List SrPacket ⊕ Unit) t => x = .inl packets ∧ GivingUp env r.ip packets s t)
      (GivingUp env r.ip packets s) := by
  apply Triple.bind (Q := fun r' t => r' = r ∧ GivingUp env r.ip packets s t)
  · intro t ht
    have hr' : r ∈ t.cache.requests.pending := by
      rw [ht.1.1]
      exact hr
    rw [readReq_of_mem hr']
    exact ⟨rfl,ht⟩
  intro r'
  apply Triple.bind (Q := fun found t =>
    found = routeAt env s.routingTable r.ip ∧ GivingUp env r.ip packets s t)
  · rintro t ⟨rfl,ht⟩
    cases hl : longestPrefixSumAt env r'.ip t with
    | ok found t' =>
      obtain ⟨rfl,rfl⟩ := longestPrefixSumAt_returns env hl
      exact ⟨by rw [ht.2.1], ht⟩
    | error e t' =>
      -- the lookup crashes before anything is sent
      rw [longestPrefixSumAt_fails env hl]
      exact ht
  intro found
  apply Triple.bind (Q := fun rt t =>
    routeAt env s.routingTable r.ip = some rt ∧ GivingUp env r.ip packets s t)
  · rintro t ⟨hfound,ht⟩
    cases found with
    | none => exact ht
    | some rt => exact ⟨hfound.symm,ht⟩
  intro rt
  apply Triple.bind (Q := fun _ => GivingUp env r.ip packets s)
  · rintro t ⟨hrt,ht⟩
    exact destHostUnreach_keeps hp s hrt t ht
  intro _
  exact Triple.pure fun t h => ⟨rfl,h⟩

theorem giveUpLoop_keeps {s : SrInstance} {r : SrArpreq} (hr : r ∈ s.cache.requests.pending)
    (fuel : ℕ) (packets : List SrPacket) :
    Keeps (GivingUp env r.ip packets s) (giveUpLoop env fuel r.addr packets) := by
  have hloop : Triple (fun t => packets = packets ∧ GivingUp env r.ip packets s t)
      (giveUpLoop env fuel r.addr packets) (fun _ => GivingUp env r.ip packets s)
      (GivingUp env r.ip packets s) := by
    -- the loop variable stays what it was, and what is sent is about its first packet
    apply iterate_triple (fun b t => b = packets ∧ GivingUp env r.ip packets s t)
    · rintro b t ⟨rfl,ht⟩
      match b with
      | [] => exact ht
      | [p] => exact ht
      | p :: p' :: rest =>
        have hround := @giveUpRound_triple env s r hr (p :: p' :: rest) p List.mem_cons_self t ht
        revert hround
        dsimp only
        split
        · rintro ⟨rfl,h⟩
          exact ⟨rfl,h⟩
        · exact id
    · intro b t h
      exact h.2
  exact hloop.conseq (fun t h => ⟨rfl,h⟩) (fun _ t h => h) fun t h => h

theorem handleArpreq_fails {r : SrArpreq} (hr : r ∈ s.cache.requests.pending)
    {destRt : Option SrRt} {fuel : ℕ} {e : Fault}
    (h : handleArpreq env fuel r.addr destRt s = .error e s') : Interrupted env s r s' := by
  by_cases hd : Due env s r
  swap
  · rw [handleArpreq_of_not_due env hr hd] at h
    contradiction
  by_cases hx : 5 ≤ r.timesSent
  · have hr' : r ∈ (givingUpState env s r).cache.requests.pending := hr
    have hfinish := finishGiveUp_apply hr' (s.now env)
    rw [handleArpreq_of_giveUp env hr hd hx] at h
    by_cases hp : r.packets = []
    · rw [if_neg (not_not.mpr hp), hfinish] at h
      contradiction
    · rw [if_pos hp, bind_apply] at h
      have hstart : GivingUp env r.ip r.packets (givingUpState env s r) (givingUpState env s r) :=
        ⟨⟨rfl,rfl⟩, rfl, rfl, [], rfl, by simp⟩
      have hkeep := @giveUpLoop_keeps env _ r hr' fuel r.packets
      cases hl : giveUpLoop env fuel r.addr r.packets (givingUpState env s r) with
      | error e s₁ =>
        rw [hl] at h
        obtain rfl := (EStateM.Result.error.inj h).2
        obtain ⟨hsame,-,ha,calls,hs,hc⟩ := hkeep.error hstart hl
        exact Interrupted.givingUp hsame hd hx (by rw [ha]; rfl) (by rw [hs]; rfl) hc
      | ok u s₁ =>
        -- a loop that is left has changed nothing, and what comes after it does not fail
        obtain ⟨-,rfl⟩ := giveUpLoop_returns env hl
        rw [hl] at h
        dsimp only at h
        rw [hfinish] at h
        contradiction
  · have hr' : r ∈ (retryingState env s r).cache.requests.pending := hr
    rw [handleArpreq_of_retrying env hr hd hx, bind_apply] at h
    cases ha : arpRequestSend env r.addr destRt (retryingState env s r) with
    | ok ret s₂ =>
      obtain ⟨rt,i,rfl,hi⟩ := arpRequestSend_returns env ha
      rw [arpRequestSend_of_some env hr' hi] at ha h
      have hf : (broadcastState env (retryingState env s r) r i).cache.requests.find r.addr =
          some (r, false) := Requests.find_of_mem hr
      dsimp only at h
      rw [stampReq_apply hf (s.now env)] at h
      contradiction
    | error e s₂ =>
      rw [ha] at h
      obtain rfl := (EStateM.Result.error.inj h).2
      obtain ⟨harp,hsends,hsame⟩ := arpRequestSend_fails hr' rfl ha
      have hlt : r.timesSent < 5 := Nat.not_le.mp hx
      refine Interrupted.retrying hsame hd hlt ?_ ?_
      · rw [harp]
        rfl
      · rw [hsends]
        rfl

/-- An event that does not return, from some state and hand on: some moves, and then
perhaps a call of `handle_arpreq` that stops. -/
def Stopped (env : Env) (c : SrInstance × List SrPacket) (s' : SrInstance) : Prop :=
  ∃ c', Moves env c c' ∧
    (s' = c'.1 ∨ ∃ r ∈ c'.1.cache.requests.pending, Interrupted env c'.1 r s')

theorem Stopped.here (c : SrInstance × List SrPacket) : Stopped env c c.1 :=
  ⟨c, Relation.ReflTransGen.refl, Or.inl rfl⟩

theorem Stopped.after {c c₁ : SrInstance × List SrPacket} (hm : Moves env c c₁)
    (h : Stopped env c₁ s') : Stopped env c s' := by
  obtain ⟨c',hm',h'⟩ := h
  exact ⟨c', hm.trans hm', h'⟩

theorem packetToOtherDest_fails {fuel : ℕ} {p : SrPacket} {hand : List SrPacket}
    {interface : CName} {e : Fault}
    (h : packetToOtherDest env fuel p.buf interface p.len s = .error e s') :
    Stopped env (s, p :: hand) s' := by
  have hmalloc : Stopped env (s, p :: hand) s.addMalloc :=
    (Stopped.here (s.addMalloc, p :: hand)).after (Relation.ReflTransGen.single Move.allocated)
  cases routeWay s p.buf.mem with
  | expired ht =>
    rw [packetToOtherDest_of_expired ht, bind_apply, timeExceeded] at h
    cases he : icmpError env .timeExceeded 11 0 (fun ttl => ttl-1) p.buf interface p.len s with
    | ok u s₁ => simp [he, pure_apply] at h
    | error e s₁ =>
      rw [he] at h
      obtain rfl := (EStateM.Result.error.inj h).2
      rw [icmpError_fails env he]
      exact hmalloc
  | noRoute ht hrt =>
    rw [packetToOtherDest_of_noRoute ht hrt, bind_apply, destHostUnreach] at h
    cases he : icmpError env .destHostUnreach 3 1 (fun ttl => ttl) p.buf interface p.len s with
    | ok u s₁ => simp [he, pure_apply] at h
    | error e s₁ =>
      rw [he] at h
      obtain rfl := (EStateM.Result.error.inj h).2
      rw [icmpError_fails env he]
      exact hmalloc
  | unlisted ht hrt he hi =>
    rw [packetToOtherDest_of_unlisted ht hrt he hi] at h
    obtain rfl := (EStateM.Result.error.inj h).2
    exact Stopped.here _
  | hit ht hrt he hi =>
    rw [packetToOtherDest_of_hit ht hrt he hi] at h
    contradiction
  | @miss rt ht hrt he =>
    obtain ⟨r,s₁,hq,henq⟩ :=
      srArpcacheQueuereq_returns env (ipDst p.buf.mem) p.buf p.len interface s
    rw [packetToOtherDest_of_miss ht hrt he, bind_apply, hq] at h
    dsimp only at h
    rw [bind_apply] at h
    cases hh : handleArpreq env fuel r.addr (some rt) s₁ with
    | ok u s₂ =>
      rw [hh] at h
      contradiction
    | error e s₂ =>
      rw [hh] at h
      obtain rfl := (EStateM.Result.error.inj h).2
      -- the packet waits already when its request makes the router fail
      exact ⟨(s₁, hand), Relation.ReflTransGen.single (Move.queued ht hrt henq),
        Or.inr ⟨r, henq.mem, handleArpreq_fails henq.mem hh⟩⟩

theorem flushPackets_fails {fuel : ℕ} {interface : CName} {packets : List SrPacket} {e : Fault}
    (h : flushPackets env fuel interface packets s = .error e s') :
    Stopped env (s, packets) s' := by
  induction packets generalizing s with
  | nil => contradiction
  | cons p rest ih =>
    rw [flushPackets, bind_apply] at h
    cases hp : packetToOtherDest env fuel p.buf interface p.len s with
    | error e s₁ =>
      rw [hp] at h
      obtain rfl := (EStateM.Result.error.inj h).2
      exact packetToOtherDest_fails hp
    | ok ret s₁ =>
      rw [hp] at h
      exact (ih h).after (packetToOtherDest_returns hp).moves

theorem arpPacket_fails {fuel : ℕ} {buf : Buf} {interface : CName} {len : ℕ} {e : Fault}
    (h : arpPacket env fuel buf interface len s = .error e s') : Stopped env (s, []) s' := by
  cases arpWay s buf.mem interface with
  | unlisted hi =>
    rw [arpPacket_of_unlisted hi] at h
    obtain rfl := (EStateM.Result.error.inj h).2
    exact Stopped.here _
  | ignored hi hno =>
    rw [arpPacket_of_ignored hi hno] at h
    contradiction
  | request hi htip h1 =>
    rw [arpPacket_of_request hi htip h1] at h
    contradiction
  | reply hi htip h2 =>
    cases hf : s.cache.requests.pending.find? (fun r => r.ip == arSip buf.mem) with
    | none =>
      rw [arpPacket_of_unasked hi htip h2 hf] at h
      contradiction
    | some r =>
      have hm : Move env (s, []) (_, waitingFor s (arSip buf.mem)) :=
        Move.inserted s (arSha buf.mem) (arSip buf.mem)
      rw [waitingFor_eq hf] at hm
      rw [arpPacket_of_answered hi htip h2 hf, bind_apply] at h
      cases hp : flushPackets env fuel interface r.packets
          (insertedState env (arSha buf.mem) (arSip buf.mem) s) with
      | ok u s₁ =>
        rw [hp] at h
        contradiction
      | error e s₁ =>
        rw [hp] at h
        obtain rfl := (EStateM.Result.error.inj h).2
        -- the mapping is in and the request unlinked when a packet of the flush fails
        exact (flushPackets_fails hp).after (Relation.ReflTransGen.single hm)

theorem ipPacket_fails {fuel : ℕ} {packet : Buf} {interface : CName} {len : ℕ} {e : Fault}
    (h : ipPacket env fuel packet interface len s = .error e s') :
    s' = s ∨ s' = s.addMalloc ∨ Accepted packet.mem len ∧ ¬Local s packet.mem ∧
      packetToOtherDest env fuel packet interface len s = .error e s' := by
  cases ipWay s packet.mem len with
  | rejected ha =>
    rcases ipPacket_of_not_accepted ha with hd | hd
    · rw [hd] at h
      contradiction
    · rw [hd] at h
      exact Or.inl (EStateM.Result.error.inj h).2.symm
  | echo ha hl h1 =>
    -- the echo reply is made in place: nothing has been allocated when it fails
    rw [ipPacket_of_echo ha hl h1] at h
    cases hi : srGetInterface s.ifList interface with
    | none =>
      rw [echoReply_of_none env hi] at h
      exact Or.inl (EStateM.Result.error.inj h).2.symm
    | some i =>
      rw [echoReply_of_some env hi] at h
      contradiction
  | unreachable ha hl h2 =>
    rw [ipPacket_of_unreachable ha hl h2] at h
    exact Or.inr (Or.inl (icmpError_fails env h))
  | ignored ha hl hp =>
    rw [ipPacket_of_ignored ha hl hp] at h
    contradiction
  | transit ha hl =>
    rw [ipPacket_of_transit ha hl, bind_apply] at h
    cases hp : packetToOtherDest env fuel packet interface len s with
    | ok ret s₁ =>
      rw [hp] at h
      contradiction
    | error e s₁ =>
      rw [hp] at h
      obtain ⟨rfl,rfl⟩ := EStateM.Result.error.inj h
      exact Or.inr (Or.inr ⟨ha,hl,rfl⟩)

theorem sweepFrom_fails {inner fuel : ℕ} {destRt : Option SrRt} {r : SrArpreq}
    {pre rest : List SrArpreq} {e : Fault} (h : s.cache.requests.pending = pre ++ r :: rest)
    (hr : sweepFrom env inner destRt fuel r.addr s = .error e s') : Stopped env (s, []) s' := by
  -- by induction on what comes after `r` in the queue
  induction rest generalizing r s pre fuel with
  | nil =>
    have hm := Requests.mem_of_split h
    cases fuel with
    | zero =>
      simp only [sweepFrom, iterate, bind_apply, throw_apply] at hr
      obtain rfl := (EStateM.Result.error.inj hr).2
      exact Stopped.here _
    | succ n =>
      rw [sweepFrom_last h] at hr
      exact ⟨(s.addAccess ⟨r.addr, .next, false, false⟩, []),
        Relation.ReflTransGen.single Move.accessed,
        Or.inr ⟨r, hm, handleArpreq_fails (by exact hm) hr⟩⟩
  | cons r' rest ih =>
    have hm := Requests.mem_of_split h
    have hm' : r ∈ (s.addAccess ⟨r.addr, .next, false, false⟩).cache.requests.pending := hm
    have hacc : Moves env (s, []) (s.addAccess ⟨r.addr, .next, false, false⟩, []) :=
      Relation.ReflTransGen.single Move.accessed
    cases fuel with
    | zero =>
      simp only [sweepFrom, iterate, bind_apply, throw_apply] at hr
      obtain rfl := (EStateM.Result.error.inj hr).2
      exact Stopped.here _
    | succ n =>
      cases hh : handleArpreq env inner r.addr destRt
          (s.addAccess ⟨r.addr, .next, false, false⟩) with
      | error e s₁ =>
        rw [sweepFrom_of_error h hh] at hr
        obtain rfl := (EStateM.Result.error.inj hr).2
        -- the first call that fails ends the sweep
        exact ⟨_, hacc, Or.inr ⟨r, hm', handleArpreq_fails hm' hh⟩⟩
      | ok u s₁ =>
        have hd := handleArpreq_returns env hm' hh
        obtain ⟨pre',hp⟩ := hd.pending_tail h
        rw [sweepFrom_cons h hh] at hr
        exact (ih (by exact hp) hr).after ((hacc.tail (Move.handled hm' hd)).tail Move.accessed)

theorem receive_fails {fuel : ℕ} {frame : List UInt8} {slack : Mem} {interface : CName}
    {e : Fault} (h : handle env fuel (.receive frame slack interface) s = .error e s') :
    ∃ c, Taken s frame slack interface c ∧ Stopped env c s' := by
  rw [receive_apply, srHandlepacket] at h
  split_ifs at h
  · exact ⟨_, Taken.ignored, arpPacket_fails h⟩
  · rcases ipPacket_fails h with rfl | rfl | ⟨ha,hl,hp⟩
    · exact ⟨_, Taken.ignored, Stopped.here _⟩
    · exact ⟨_, Taken.ignored, (Stopped.here (s.addArrival.addMalloc, [])).after
        (Relation.ReflTransGen.single Move.allocated)⟩
    · exact ⟨_, Taken.accepted ha hl,
        packetToOtherDest_fails (p := received s frame slack interface) hp⟩
  · contradiction

theorem handle_fails {fuel : ℕ} {ev : Event} {e : Fault}
    (h : handle env fuel ev s = .error e s') : Stopped env (s, []) s' := by
  cases ev with
  | receive frame slack interface =>
    obtain ⟨c,ht,hs⟩ := receive_fails h
    exact hs.after ht.moves
  | expiry => contradiction
  | sweep =>
    rw [handle] at h
    cases hp : s.cache.requests.pending with
    | nil =>
      simp only [srArpcacheSweepreqs, bind_apply, get_apply, hp] at h
      contradiction
    | cons head rest =>
      cases hd : env.ipDstAt head.ip with
      | none =>
        rw [srArpcacheSweepreqs_unread hp hd] at h
        obtain rfl := (EStateM.Result.error.inj h).2
        exact (Stopped.here _).after (Relation.ReflTransGen.single Move.accessed)
      | some ipDst =>
        rw [srArpcacheSweepreqs_cons hp hd] at h
        have hs : (s.addAccess ⟨head.addr, .ip, false, false⟩).cache.requests.pending =
            [] ++ head :: rest := hp
        exact (sweepFrom_fails hs h).after (Relation.ReflTransGen.single Move.accessed)

/-- What is left behind when an event stops is tagged as before. -/
theorem Stopped.tagged {c : SrInstance × List SrPacket} (h : Stopped env c s') (ht : Tagged c) :
    Tagged (s', []) := by
  obtain ⟨c',hm,h'⟩ := h
  have ht' : Tagged c' := invariant_of_run (fun _ _ hm => hm.tagged) hm ht
  rcases h' with rfl | ⟨r,hr,hint⟩
  · exact ⟨ht'.sends, ht'.waiting, by simp⟩
  cases hint with
  | retrying hsame _ _ _ hs =>
    refine ⟨?_, ?_, by simp⟩
    · rw [hs, hsame.2]
      exact ht'.sends
    · rw [hsame.1, hsame.2]
      exact ht'.waiting
  | givingUp hsame _ _ _ hs hc =>
    refine ⟨?_, ?_, by simp⟩
    · intro x hx t he
      rw [hs] at hx
      rw [hsame.2]
      rcases List.mem_append.mp hx with hx | hx
      · -- a message of the loop bears the number of a packet that waits
        obtain ⟨-,⟨p,hp,hab⟩,-⟩ := hc x hx
        obtain rfl := Option.some.inj (hab.origin.symm.trans he)
        exact ht'.waiting r hr p hp
      · exact ht'.sends x hx t he
    · rw [hsame.1, hsame.2]
      exact ht'.waiting

/-- What can be observed of a router: the state after a run, or the state in which one
more event is over, has crashed or is still going round a loop. -/
def Observable (env : Env) (s s' : SrInstance) : Prop :=
  ∃ s₁, Run env s s₁ ∧ (s' = s₁ ∨ ∃ fuel ev, finalState (handle env fuel ev s₁) = s')

theorem Observable.stopped (h : Observable env s s') : Stopped env (s, []) s' := by
  obtain ⟨s₁,hrun,rfl | ⟨fuel,ev,hf⟩⟩ := h
  · exact ⟨_, hrun.moves, Or.inl rfl⟩
  · refine Stopped.after hrun.moves ?_
    cases hh : handle env fuel ev s₁ with
    | ok u s₂ =>
      rw [hh] at hf
      subst hf
      exact ⟨_, Step.moves ⟨fuel,hh⟩, Or.inl rfl⟩
    | error e s₂ =>
      rw [hh] at hf
      subst hf
      exact handle_fails hh

/-- What can be observed once a frame has begun to be handled. -/
def ObservableAfter (env : Env) (frame : List UInt8) (slack : Mem) (interface : CName)
    (s s' : SrInstance) : Prop :=
  (∃ fuel, finalState (handle env fuel (.receive frame slack interface) s) = s') ∨
    ∃ s₁, Step env (.receive frame slack interface) s s₁ ∧ Observable env s₁ s'

theorem ObservableAfter.stopped {frame : List UInt8} {slack : Mem} {interface : CName}
    (h : ObservableAfter env frame slack interface s s') :
    ∃ c, Taken s frame slack interface c ∧ Stopped env c s' := by
  rcases h with ⟨fuel,hf⟩ | ⟨s₁,hst,ho⟩
  · cases hh : handle env fuel (.receive frame slack interface) s with
    | ok u s₂ =>
      rw [hh] at hf
      subst hf
      obtain ⟨c,ht,hm⟩ := Step.taken ⟨fuel,hh⟩
      exact ⟨c, ht, _, hm, Or.inl rfl⟩
    | error e s₂ =>
      rw [hh] at hf
      subst hf
      exact receive_fails hh
  · obtain ⟨c,ht,hm⟩ := hst.taken
    exact ⟨c, ht, ho.stopped.after hm⟩

/-! What holds of the copies of one received frame and of the messages about it. -/

/-- Every copy of the `t`-th frame satisfies `P`, every message about it satisfies `Q`. -/
structure Traced (t : ℕ) (P : SrPacket → Prop) (Q : SendCall → Prop)
    (c : SrInstance × List SrPacket) : Prop where
  arrived : t < c.1.log.arrivals
  waiting : ∀ r ∈ c.1.cache.requests.pending, ∀ p ∈ r.packets, p.buf.origin = t → P p
  hand : ∀ p ∈ c.2, p.buf.origin = t → P p
  sends : ∀ x ∈ c.1.log.sends, x.origin = some t → Q x

/-- `P` passes to copies, and the messages about packets in `P` are in `Q`. -/
structure Hereditary (env : Env) (P : SrPacket → Prop) (Q : SendCall → Prop) : Prop where
  copy : ∀ fresh p interface, P p → P (queuedCopy fresh p.buf p.len interface)
  forward : ∀ s p i e, P p → 1 < ipTtl p.buf.mem → Q (forwardCall env s p.buf p.len i e)
  error : ∀ x p, P p → ErrorAbout x p.buf p.len → Q x
  reply : ∀ x, x.emitter = .arpPacket ∨ x.emitter = .echoReply → Q x

section Traced

variable {P : SrPacket → Prop} {Q : SendCall → Prop} {t : ℕ} {c c' : SrInstance × List SrPacket}

theorem Move.traced (hpq : Hereditary env P Q) (h : Move env c c') (ht : Traced t P Q c) :
    Traced t P Q c' where
  arrived := ht.arrived.trans_le h.arrivals
  waiting x hx q hq he := by
    rcases h.waits hx hq with ⟨r,hr,-,hm⟩ | ⟨p,hp,-,-,fresh,interface,rfl⟩
    · exact ht.waiting r hr q hm he
    · exact hpq.copy fresh p interface (ht.hand p hp he)
  hand p hp he := by
    rcases h.holds hp with hp | ⟨r,hr,hm⟩ | ⟨ho,-⟩
    · exact ht.hand p hp he
    · exact ht.waiting r hr p hm he
    · -- a later frame
      rw [ho] at he
      exact absurd he ht.arrived.ne'
  sends x hx he := by
    rcases h.sent hx with hx | hx
    · exact ht.sends x hx he
    cases hx with
    | reply hreply => exact hpq.reply x (Or.inl hreply)
    | answer ho =>
      rw [ho] at he
      exact absurd (Option.some.inj he) ht.arrived.ne'
    | @error p hp _ hx =>
      rw [hx.origin] at he
      exact hpq.error x p (ht.hand p hp (Option.some.inj he)) hx
    | @forward p rt i e hp httl _ _ hx =>
      rw [hx] at he ⊢
      exact hpq.forward _ p i e (ht.hand p hp (Option.some.inj he)) httl
    | broadcast ho =>
      -- a broadcast is about no received frame
      rw [ho] at he
      contradiction

theorem Stopped.traced (hpq : Hereditary env P Q) (h : Stopped env c s') (ht : Traced t P Q c) :
    ∀ x ∈ s'.log.sends, x.origin = some t → Q x := by
  obtain ⟨c',hm,h'⟩ := h
  have ht' := invariant_of_run (fun _ _ hm => hm.traced hpq) hm ht
  rcases h' with rfl | ⟨r,hr,hint⟩
  · exact ht'.sends
  · cases hint with
    | retrying _ _ _ _ hs =>
      rw [hs]
      exact ht'.sends
    | givingUp _ _ _ _ hs hc =>
      intro x hx he
      rw [hs] at hx
      rcases List.mem_append.mp hx with hx | hx
      · -- the loop was still sending: its messages are about packets that wait
        obtain ⟨-,⟨p,hp,hab⟩,-⟩ := hc x hx
        rw [hab.origin] at he
        exact hpq.error x p (ht'.waiting r hr p hp (Option.some.inj he)) hab
      · exact ht'.sends x hx he

theorem Taken.traced {frame : List UInt8} {slack : Mem} {interface : CName}
    (hpq : Hereditary env P Q) (h : Taken s frame slack interface c) (htag : Tagged (s, []))
    (hP : Accepted (load frame slack) frame.length → P (received s frame slack interface)) :
    Traced s.log.arrivals P Q c := by
  -- what the router holds stems from earlier frames
  have hw : ∀ r ∈ s.cache.requests.pending, ∀ p ∈ r.packets,
      p.buf.origin = s.log.arrivals → P p := by
    intro r hr p hp he
    exact absurd he (htag.waiting r hr p hp).ne
  have hs : ∀ x ∈ s.log.sends, x.origin = some s.log.arrivals → Q x := by
    intro x hx he
    exact absurd rfl (htag.sends x hx _ he).ne
  have hlt : s.log.arrivals < s.addArrival.log.arrivals := Nat.lt_succ_self _
  cases h with
  | ignored => exact ⟨hlt, hw, by simp, hs⟩
  | accepted ha =>
    refine ⟨hlt, hw, ?_, hs⟩
    intro p hp _
    obtain rfl := List.mem_singleton.mp hp
    exact hP ha
  | @answered s₁ x hs₁ ha _ hx =>
    have hQ : Q x := by
      rcases hx with ⟨he,-⟩ | ⟨-,hab⟩
      · exact hpq.reply x (Or.inr he)
      · exact hpq.error x _ (hP ha) hab
    have hsends : ∀ y ∈ x :: s.log.sends, y.origin = some s.log.arrivals → Q y := by
      intro y hy
      rcases List.mem_cons.mp hy with rfl | hy
      · exact fun _ => hQ
      · exact hs y hy
    rcases hs₁ with rfl | rfl
    · exact ⟨hlt, hw, by simp, hsends⟩
    · exact ⟨hlt, hw, by simp, hsends⟩

end Traced

/-- Messages about a frame, at any later time, are as the frame makes them. -/
theorem ObservableAfter.sends {P : SrPacket → Prop} {Q : SendCall → Prop} {frame : List UInt8}
    {slack : Mem} {interface : CName} (hpq : Hereditary env P Q)
    (h : ObservableAfter env frame slack interface s s') (htag : Tagged (s, []))
    (hP : Accepted (load frame slack) frame.length → P (received s frame slack interface)) :
    ∀ x ∈ s'.log.sends, x.origin = some s.log.arrivals → Q x := by
  obtain ⟨c,ht,hs⟩ := h.stopped
  exact hs.traced hpq (ht.traced hpq htag hP)

end InternetCourse.Router
