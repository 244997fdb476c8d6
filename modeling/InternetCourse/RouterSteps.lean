import InternetCourse.RouterEffects

/-! What one event does to a router: the ways its entry points return, and the
sweep as a walk over the queue as it stood when the sweep began. -/
namespace InternetCourse.Router

open ByteMem StateTriple

/-- The packets of a list go through `packet_to_other_dest` one after the other. -/
inductive Flushed (env : Env) (interface : CName) :
    List SrPacket → SrInstance → SrInstance → Prop where
  | nil {s : SrInstance} : Flushed env interface [] s s
  | cons {p : SrPacket} {rest : List SrPacket} {s s₁ s₂ : SrInstance} :
      Routed env s p.buf interface p.len s₁ → Flushed env interface rest s₁ s₂ →
      Flushed env interface (p :: rest) s s₂

theorem flushPackets_returns {env : Env} {fuel : ℕ} {interface : CName} {packets : List SrPacket}
    {s s' : SrInstance} (h : flushPackets env fuel interface packets s = .ok () s') :
    Flushed env interface packets s s' := by
  induction packets generalizing s with
  | nil =>
    obtain rfl := (EStateM.Result.ok.inj h).2
    exact Flushed.nil
  | cons p rest ih =>
    rw [flushPackets, bind_apply] at h
    cases hp : packetToOtherDest env fuel p.buf interface p.len s with
    | error e s₁ => simp [hp] at h
    | ok ret s₁ =>
      rw [hp] at h
      exact Flushed.cons (packetToOtherDest_returns hp) (ih h)

/-- The ways `arp_packet` takes. -/
inductive ArpWay (s : SrInstance) (m : Mem) (interface : CName) : Prop where
  | unlisted : srGetInterface s.ifList interface = none → ArpWay s m interface
  | ignored {i : SrIf} : srGetInterface s.ifList interface = some i →
      (arTip m ≠ i.ip ∨ ntohs (arOp m) ≠ 1 ∧ ntohs (arOp m) ≠ 2) → ArpWay s m interface
  | request {i : SrIf} : srGetInterface s.ifList interface = some i → arTip m = i.ip →
      ntohs (arOp m) = 1 → ArpWay s m interface
  | reply {i : SrIf} : srGetInterface s.ifList interface = some i → arTip m = i.ip →
      ntohs (arOp m) = 2 → ArpWay s m interface

theorem arpWay (s : SrInstance) (m : Mem) (interface : CName) : ArpWay s m interface := by
  cases hi : srGetInterface s.ifList interface with
  | none => exact ArpWay.unlisted hi
  | some i =>
    by_cases htip : arTip m = i.ip
    swap
    · exact ArpWay.ignored hi (Or.inl htip)
    by_cases h1 : ntohs (arOp m) = 1
    · exact ArpWay.request hi htip h1
    by_cases h2 : ntohs (arOp m) = 2
    · exact ArpWay.reply hi htip h2
    · exact ArpWay.ignored hi (Or.inr ⟨h1,h2⟩)

/-! What `arp_packet` comes down to on each of them. -/
section ArpWays

variable {env : Env} {fuel : ℕ} {buf : Buf} {interface : CName} {len : ℕ} {s : SrInstance}
  {i : SrIf}

theorem arpPacket_of_unlisted (hi : srGetInterface s.ifList interface = none) :
    arpPacket env fuel buf interface len s = .error .nullDeref s := by
  rw [arpPacket, bind_apply, get_apply]
  dsimp only
  rw [bind_apply, hi]
  rfl

theorem arpPacket_of_listed (hi : srGetInterface s.ifList interface = some i) :
    arpPacket env fuel buf interface len s =
      (if arTip buf.mem = i.ip then
        if ntohs (arOp buf.mem) = 1 then do
          let _success ← srSendPacket env .arpPacket (some buf.origin) (arpReplyFrame buf.mem i) len
            interface
        else if ntohs (arOp buf.mem) = 2 then do
          match ← srArpcacheInsert env (arSha buf.mem) (arSip buf.mem) with
          | none => pure ()
          | some request =>
            flushPackets env fuel interface request.packets
            srArpreqDestroy request
        else pure ()
      else pure ()) s := by
  rw [arpPacket, bind_apply, get_apply]
  dsimp only
  rw [bind_apply, hi]
  rfl

theorem arpPacket_of_ignored (hi : srGetInterface s.ifList interface = some i)
    (h : arTip buf.mem ≠ i.ip ∨ ntohs (arOp buf.mem) ≠ 1 ∧ ntohs (arOp buf.mem) ≠ 2) :
    arpPacket env fuel buf interface len s = .ok () s := by
  rw [arpPacket_of_listed hi]
  by_cases htip : arTip buf.mem = i.ip
  swap
  · rw [if_neg htip]
    rfl
  obtain ⟨h1,h2⟩ := h.resolve_left (not_not.mpr htip)
  rw [if_pos htip, if_neg h1, if_neg h2]
  rfl

theorem arpPacket_of_request (hi : srGetInterface s.ifList interface = some i)
    (htip : arTip buf.mem = i.ip) (h1 : ntohs (arOp buf.mem) = 1) :
    arpPacket env fuel buf interface len s = .ok () (s.addSend ⟨.arpPacket, some buf.origin,
      arpReplyFrame buf.mem i, len, interface,
      sendResult env s (arpReplyFrame buf.mem i) len interface⟩) := by
  rw [arpPacket_of_listed hi, if_pos htip, if_pos h1]
  rfl

theorem arpPacket_of_reply (hi : srGetInterface s.ifList interface = some i)
    (htip : arTip buf.mem = i.ip) (h2 : ntohs (arOp buf.mem) = 2) :
    arpPacket env fuel buf interface len s =
      (match s.cache.requests.pending.find? (fun r : SrArpreq => r.ip == arSip buf.mem) with
        | none => pure ()
        | some r => do
          flushPackets env fuel interface r.packets
          srArpreqDestroy r) (insertedState env (arSha buf.mem) (arSip buf.mem) s) := by
  have h1 : ntohs (arOp buf.mem) ≠ 1 := by
    rw [h2]
    decide
  rw [arpPacket_of_listed hi, if_pos htip, if_neg h1, if_pos h2, bind_apply,
    srArpcacheInsert_apply]

/-- Nobody has asked for the address. -/
theorem arpPacket_of_unasked (hi : srGetInterface s.ifList interface = some i)
    (htip : arTip buf.mem = i.ip) (h2 : ntohs (arOp buf.mem) = 2)
    (hf : s.cache.requests.pending.find? (fun r => r.ip == arSip buf.mem) = none) :
    arpPacket env fuel buf interface len s =
      .ok () (insertedState env (arSha buf.mem) (arSip buf.mem) s) := by
  rw [arpPacket_of_reply hi htip h2, hf]
  rfl

theorem arpPacket_of_answered (hi : srGetInterface s.ifList interface = some i)
    (htip : arTip buf.mem = i.ip) (h2 : ntohs (arOp buf.mem) = 2) {r : SrArpreq}
    (hf : s.cache.requests.pending.find? (fun r => r.ip == arSip buf.mem) = some r) :
    arpPacket env fuel buf interface len s =
      (do flushPackets env fuel interface r.packets
          srArpreqDestroy r) (insertedState env (arSha buf.mem) (arSip buf.mem) s) := by
  rw [arpPacket_of_reply hi htip h2, hf]

end ArpWays

/-- The ways a call of `arp_packet` returns. -/
inductive Resolved (env : Env) (s : SrInstance) (buf : Buf) (interface : CName) (len : ℕ) :
    SrInstance → Prop where
  | ignored {i : SrIf} : srGetInterface s.ifList interface = some i →
      (arTip buf.mem ≠ i.ip ∨ ntohs (arOp buf.mem) ≠ 1 ∧ ntohs (arOp buf.mem) ≠ 2) →
      Resolved env s buf interface len s
  | replied {i : SrIf} : srGetInterface s.ifList interface = some i → arTip buf.mem = i.ip →
      ntohs (arOp buf.mem) = 1 →
      Resolved env s buf interface len (s.addSend ⟨.arpPacket, some buf.origin,
        arpReplyFrame buf.mem i, len, interface,
        sendResult env s (arpReplyFrame buf.mem i) len interface⟩)
  | unasked {i : SrIf} : srGetInterface s.ifList interface = some i → arTip buf.mem = i.ip →
      ntohs (arOp buf.mem) = 2 →
      s.cache.requests.pending.find? (fun r => r.ip == arSip buf.mem) = none →
      Resolved env s buf interface len (insertedState env (arSha buf.mem) (arSip buf.mem) s)
  | answered {i : SrIf} {r : SrArpreq} {s₁ : SrInstance} :
      srGetInterface s.ifList interface = some i → arTip buf.mem = i.ip →
      ntohs (arOp buf.mem) = 2 →
      s.cache.requests.pending.find? (fun r => r.ip == arSip buf.mem) = some r →
      Flushed env interface r.packets (insertedState env (arSha buf.mem) (arSip buf.mem) s) s₁ →
      Resolved env s buf interface len (s₁.setRequests (s₁.cache.requests.destroy r))

theorem arpPacket_returns {env : Env} {fuel : ℕ} {buf : Buf} {interface : CName} {len : ℕ}
    {s s' : SrInstance} (h : arpPacket env fuel buf interface len s = .ok () s') :
    Resolved env s buf interface len s' := by
  cases arpWay s buf.mem interface with
  | unlisted hi =>
    rw [arpPacket_of_unlisted hi] at h
    contradiction
  | ignored hi hno =>
    rw [arpPacket_of_ignored hi hno] at h
    obtain rfl := (EStateM.Result.ok.inj h).2
    exact Resolved.ignored hi hno
  | request hi htip h1 =>
    rw [arpPacket_of_request hi htip h1] at h
    obtain rfl := (EStateM.Result.ok.inj h).2
    exact Resolved.replied hi htip h1
  | reply hi htip h2 =>
    cases hf : s.cache.requests.pending.find? (fun r => r.ip == arSip buf.mem) with
    | none =>
      rw [arpPacket_of_unasked hi htip h2 hf] at h
      obtain rfl := (EStateM.Result.ok.inj h).2
      exact Resolved.unasked hi htip h2 hf
    | some r =>
      rw [arpPacket_of_answered hi htip h2 hf, bind_apply] at h
      cases hp : flushPackets env fuel interface r.packets
          (insertedState env (arSha buf.mem) (arSip buf.mem) s) with
      | error e s₁ => simp [hp] at h
      | ok u s₁ =>
        rw [hp] at h
        obtain rfl := (EStateM.Result.ok.inj h).2
        exact Resolved.answered hi htip h2 hf (flushPackets_returns hp)

/-- Addressed to one of the router's interfaces. -/
def Local (s : SrInstance) (packet : Mem) : Prop := (ipPacketRouterCheck s.ifList packet).isSome

instance (s : SrInstance) (packet : Mem) : Decidable (Local s packet) :=
  inferInstanceAs (Decidable (_ = true))

/-- The ways a call of `IP_packet` returns. -/
inductive Delivered (env : Env) (s : SrInstance) (packet : Buf) (interface : CName) (len : ℕ) :
    SrInstance → Prop where
  | rejected : ¬Accepted packet.mem len → Delivered env s packet interface len s
  | echoed {i : SrIf} : Accepted packet.mem len → Local s packet.mem → ipP packet.mem = 1 →
      srGetInterface s.ifList interface = some i →
      Delivered env s packet interface len (s.addSend ⟨.echoReply, some packet.origin,
        echoReplyFrame packet.mem i, len, interface,
        sendResult env s (echoReplyFrame packet.mem i) len interface⟩)
  | unreachable {i : SrIf} : Accepted packet.mem len → Local s packet.mem →
      (ipP packet.mem = 17 ∨ ipP packet.mem = 6) → srGetInterface s.ifList interface = some i →
      Delivered env s packet interface len (s.addMalloc.addSend
        (icmpErrorCall env s .portUnreach 3 3 (fun ttl => ttl) packet i interface len))
  | dropped : Accepted packet.mem len → Local s packet.mem →
      (ipP packet.mem ≠ 1 ∧ ipP packet.mem ≠ 17 ∧ ipP packet.mem ≠ 6) →
      Delivered env s packet interface len s
  | transit {s' : SrInstance} : Accepted packet.mem len → ¬Local s packet.mem →
      Routed env s packet interface len s' → Delivered env s packet interface len s'

/-- On an accepted packet `IP_packet` goes on with the packet as it came. -/
theorem ipPacket_of_accepted {packet : Buf} {len : ℕ} (ha : Accepted packet.mem len) (env : Env)
    (fuel : ℕ) (interface : CName) (s : SrInstance) :
    ipPacket env fuel packet interface len s =
      (match ipPacketRouterCheck s.ifList packet.mem with
        | some _ =>
          if ipP packet.mem = 1 then echoReply env packet interface len
          else if ipP packet.mem = 17 ∨ ipP packet.mem = 6 then
            portUnreach env packet interface len
          else pure ()
        | none => do let _ ← packetToOtherDest env fuel packet interface len) s := by
  have hm := validateChecksum_restores ha.2
  rw [ipPacket, if_neg (not_not.mpr ha.1)]
  simp only [ha.2, hm, ne_eq, not_true_eq_false, if_false]
  exact bind_apply _ _ s

/-- A packet that is not accepted is dropped before anything has changed, or makes the router
fail there. -/
theorem ipPacket_of_not_accepted {packet : Buf} {len : ℕ} (ha : ¬Accepted packet.mem len) :
    (∀ env fuel interface s, ipPacket env fuel packet interface len s = .ok () s) ∨
      ∀ env fuel interface s,
        ipPacket env fuel packet interface len s = .error .indeterminate s := by
  by_cases hv : validateIP packet.mem len = 0
  · cases hc : (validateChecksum packet.mem len).1 with
    | none =>
      refine Or.inr fun env fuel interface s => ?_
      rw [ipPacket, if_neg (not_not.mpr hv)]
      simp only [hc]
      rfl
    | some wrong =>
      have hne : wrong ≠ 0 := by
        rintro rfl
        exact ha ⟨hv,hc⟩
      refine Or.inl fun env fuel interface s => ?_
      rw [ipPacket, if_neg (not_not.mpr hv)]
      simp only [hc, if_pos hne]
      rfl
  · refine Or.inl fun env fuel interface s => ?_
    rw [ipPacket, if_pos hv]
    rfl

/-- The ways a packet can go through `IP_packet`. -/
inductive IpWay (s : SrInstance) (m : Mem) (len : ℕ) : Prop
  | rejected : ¬Accepted m len → IpWay s m len
  | echo : Accepted m len → Local s m → ipP m = 1 → IpWay s m len
  | unreachable : Accepted m len → Local s m → (ipP m = 17 ∨ ipP m = 6) → IpWay s m len
  | ignored : Accepted m len → Local s m → (ipP m ≠ 1 ∧ ipP m ≠ 17 ∧ ipP m ≠ 6) → IpWay s m len
  | transit : Accepted m len → ¬Local s m → IpWay s m len

theorem ipWay (s : SrInstance) (m : Mem) (len : ℕ) : IpWay s m len := by
  by_cases ha : Accepted m len
  swap
  · exact IpWay.rejected ha
  by_cases hl : Local s m
  swap
  · exact IpWay.transit ha hl
  by_cases h1 : ipP m = 1
  · exact IpWay.echo ha hl h1
  by_cases h2 : ipP m = 17 ∨ ipP m = 6
  · exact IpWay.unreachable ha hl h2
  · exact IpWay.ignored ha hl ⟨h1, not_or.mp h2⟩

/-! What `IP_packet` comes down to on each of them. -/
section IpWays

variable {packet : Buf} {len : ℕ} {s : SrInstance}

theorem ipPacket_of_echo (ha : Accepted packet.mem len) (hl : Local s packet.mem)
    (h1 : ipP packet.mem = 1) (env : Env) (fuel : ℕ) (interface : CName) :
    ipPacket env fuel packet interface len s = echoReply env packet interface len s := by
  obtain ⟨w,hw⟩ := Option.isSome_iff_exists.mp hl
  rw [ipPacket_of_accepted ha, hw]
  dsimp only
  rw [if_pos h1]

theorem ipPacket_of_unreachable (ha : Accepted packet.mem len) (hl : Local s packet.mem)
    (h2 : ipP packet.mem = 17 ∨ ipP packet.mem = 6) (env : Env) (fuel : ℕ) (interface : CName) :
    ipPacket env fuel packet interface len s = portUnreach env packet interface len s := by
  obtain ⟨w,hw⟩ := Option.isSome_iff_exists.mp hl
  have h1 : ipP packet.mem ≠ 1 := by
    rcases h2 with h2 | h2 <;> rw [h2] <;> decide
  rw [ipPacket_of_accepted ha, hw]
  dsimp only
  rw [if_neg h1, if_pos h2]

theorem ipPacket_of_ignored (ha : Accepted packet.mem len) (hl : Local s packet.mem)
    (hp : ipP packet.mem ≠ 1 ∧ ipP packet.mem ≠ 17 ∧ ipP packet.mem ≠ 6) (env : Env) (fuel : ℕ)
    (interface : CName) : ipPacket env fuel packet interface len s = .ok () s := by
  obtain ⟨w,hw⟩ := Option.isSome_iff_exists.mp hl
  rw [ipPacket_of_accepted ha, hw]
  dsimp only
  rw [if_neg hp.1, if_neg (not_or.mpr hp.2)]
  rfl

theorem ipPacket_of_transit (ha : Accepted packet.mem len) (hl : ¬Local s packet.mem) (env : Env)
    (fuel : ℕ) (interface : CName) : ipPacket env fuel packet interface len s =
      (do let _ ← packetToOtherDest env fuel packet interface len) s := by
  have hw : ipPacketRouterCheck s.ifList packet.mem = none := by
    rw [← Option.isNone_iff_eq_none, ← Option.isSome_eq_false_iff, ← Bool.not_eq_true]
    exact hl
  rw [ipPacket_of_accepted ha, hw]

end IpWays

theorem ipPacket_returns {env : Env} {fuel : ℕ} {packet : Buf} {interface : CName} {len : ℕ}
    {s s' : SrInstance} (h : ipPacket env fuel packet interface len s = .ok () s') :
    Delivered env s packet interface len s' := by
  cases ipWay s packet.mem len with
  | rejected ha =>
    rcases ipPacket_of_not_accepted ha with hd | hd
    · rw [hd] at h
      obtain rfl := (EStateM.Result.ok.inj h).2
      exact Delivered.rejected ha
    · rw [hd] at h
      contradiction
  | echo ha hl h1 =>
    rw [ipPacket_of_echo ha hl h1] at h
    cases hi : srGetInterface s.ifList interface with
    | none =>
      rw [echoReply_of_none env hi] at h
      contradiction
    | some i =>
      rw [echoReply_of_some env hi] at h
      obtain rfl := (EStateM.Result.ok.inj h).2
      exact Delivered.echoed ha hl h1 hi
  | unreachable ha hl h2 =>
    rw [ipPacket_of_unreachable ha hl h2] at h
    obtain ⟨i,hi,rfl⟩ := icmpError_returns env h
    exact Delivered.unreachable ha hl h2 hi
  | ignored ha hl hp =>
    rw [ipPacket_of_ignored ha hl hp] at h
    obtain rfl := (EStateM.Result.ok.inj h).2
    exact Delivered.dropped ha hl hp
  | transit ha hl =>
    rw [ipPacket_of_transit ha hl, bind_apply] at h
    cases hp : packetToOtherDest env fuel packet interface len s with
    | error e s₁ => simp [hp] at h
    | ok ret s₁ =>
      rw [hp] at h
      obtain rfl := (EStateM.Result.ok.inj h).2
      exact Delivered.transit ha hl (packetToOtherDest_returns hp)

section Receive

variable {frame : List UInt8} {slack : Mem}

theorem receive_apply (env : Env) (fuel : ℕ) (frame : List UInt8) (slack : Mem)
    (interface : CName) (s : SrInstance) : handle env fuel (.receive frame slack interface) s =
      srHandlepacket env fuel ⟨load frame slack, s.log.arrivals⟩ frame.length interface
        s.addArrival := by
  rw [handle, bind_apply, arrive]

theorem receive_arp (ht : ethertype (load frame slack) = ethertypeArp) (env : Env) (fuel : ℕ)
    (interface : CName) (s : SrInstance) : handle env fuel (.receive frame slack interface) s =
      arpPacket env fuel ⟨load frame slack, s.log.arrivals⟩ interface frame.length
        s.addArrival := by
  rw [receive_apply, srHandlepacket, if_pos ht]

theorem receive_ip (ht : ethertype (load frame slack) = ethertypeIp) (env : Env) (fuel : ℕ)
    (interface : CName) (s : SrInstance) : handle env fuel (.receive frame slack interface) s =
      ipPacket env fuel ⟨load frame slack, s.log.arrivals⟩ interface frame.length
        s.addArrival := by
  have hne : ethertypeIp ≠ ethertypeArp := by decide
  rw [receive_apply, srHandlepacket, ht, if_neg hne, if_pos rfl]

/-- A frame of any other type is ignored. -/
theorem receive_other (ha : ethertype (load frame slack) ≠ ethertypeArp)
    (hi : ethertype (load frame slack) ≠ ethertypeIp) (env : Env) (fuel : ℕ) (interface : CName)
    (s : SrInstance) : handle env fuel (.receive frame slack interface) s = .ok () s.addArrival := by
  rw [receive_apply, srHandlepacket, if_neg ha, if_neg hi]
  rfl

end Receive

theorem readNext_apply {s : SrInstance} {req : ℕ} {r : SrArpreq} {destroyed : Bool}
    (h : s.cache.requests.find req = some (r, destroyed)) :
    readNext req s =
      .ok (s.cache.requests.nextOf req) (s.addAccess ⟨req, .next, false, destroyed⟩) := by
  simp only [readNext, bind_apply, readReq, h]
  rfl

/-- The sweep from the node at `req` on. -/
def sweepFrom (env : Env) (inner : ℕ) (destRt : Option SrRt) (fuel req : ℕ) : RouterM Unit := do
  let last ← iterate .outOfFuel (sweepRound env inner destRt) fuel req
  handleArpreq env inner last destRt

theorem srArpcacheSweepreqs_cons {s : SrInstance} {head : SrArpreq} {rest : List SrArpreq}
    (h : s.cache.requests.pending = head :: rest) {env : Env} {ipDst : UInt32}
    (hd : env.ipDstAt head.ip = some ipDst) (fuel : ℕ) :
    srArpcacheSweepreqs env fuel s =
      sweepFrom env fuel (longestPrefixSum s.routingTable ipDst) fuel head.addr
        (s.addAccess ⟨head.addr, .ip, false, false⟩) := by
  have hm : head ∈ s.cache.requests.pending := by
    rw [h]
    exact List.mem_cons_self
  simp only [srArpcacheSweepreqs, bind_apply, get_apply, h]
  simp only [readReq_of_mem hm, longestPrefixSumAt_apply env hd]
  rfl

/-- Where nothing can be read at the number, the sweep ends before the first request. -/
theorem srArpcacheSweepreqs_unread {s : SrInstance} {head : SrArpreq} {rest : List SrArpreq}
    (h : s.cache.requests.pending = head :: rest) {env : Env} (hd : env.ipDstAt head.ip = none)
    (fuel : ℕ) :
    srArpcacheSweepreqs env fuel s =
      .error .wildPointer (s.addAccess ⟨head.addr, .ip, false, false⟩) := by
  have hm : head ∈ s.cache.requests.pending := by
    rw [h]
    exact List.mem_cons_self
  simp only [srArpcacheSweepreqs, bind_apply, get_apply, h]
  simp only [readReq_of_mem hm, longestPrefixSumAt_error env hd]

section Sweep

variable {env : Env} {inner : ℕ} {destRt : Option SrRt} {s s' s₁ : SrInstance} {r r' : SrArpreq}
  {pre rest : List SrArpreq}

theorem sweepFrom_last (h : s.cache.requests.pending = pre ++ [r]) (fuel : ℕ) :
    sweepFrom env inner destRt (fuel+1) r.addr s =
      handleArpreq env inner r.addr destRt (s.addAccess ⟨r.addr, .next, false, false⟩) := by
  have hm := Requests.mem_of_split h
  simp only [sweepFrom, iterate, sweepRound, bind_apply,
    readNext_apply (Requests.find_of_mem hm), Requests.nextOf_of_split h]
  rfl

theorem sweepFrom_cons (h : s.cache.requests.pending = pre ++ r :: r' :: rest)
    (hh : handleArpreq env inner r.addr destRt (s.addAccess ⟨r.addr, .next, false, false⟩) =
      .ok () s₁) (fuel : ℕ) :
    sweepFrom env inner destRt (fuel+1) r.addr s =
      sweepFrom env inner destRt fuel r'.addr
        (s₁.addAccess ⟨r.addr, .next, false, decide (Exhausted env s r)⟩) := by
  have hm := Requests.mem_of_split h
  have hd := handleArpreq_returns env (s := s.addAccess ⟨r.addr, .next, false, false⟩) hm hh
  obtain ⟨x,hx⟩ := hd.find hm
  have hn := hd.nextOf h
  simp only [sweepFrom, iterate, sweepRound, bind_apply,
    readNext_apply (Requests.find_of_mem hm), Requests.nextOf_of_split h, List.head?_cons,
    Option.map_some, hh, readNext_apply hx, hn, deref, pure_apply]
  rfl

/-- A request that stops the call of `handle_arpreq` stops the sweep. -/
theorem sweepFrom_of_error {e : Fault} (h : s.cache.requests.pending = pre ++ r :: r' :: rest)
    (hh : handleArpreq env inner r.addr destRt (s.addAccess ⟨r.addr, .next, false, false⟩) =
      .error e s₁) (fuel : ℕ) :
    sweepFrom env inner destRt (fuel+1) r.addr s = .error e s₁ := by
  have hm := Requests.mem_of_split h
  simp only [sweepFrom, iterate, sweepRound, bind_apply,
    readNext_apply (Requests.find_of_mem hm), Requests.nextOf_of_split h, List.head?_cons,
    Option.map_some, hh]

/-- The walk of the sweep over the requests of a list. The `next` pointer of a request
is read before it is handled, and again after if there was another one. -/
inductive Swept (env : Env) (destRt : Option SrRt) :
    List SrArpreq → SrInstance → SrInstance → Prop where
  | last {r : SrArpreq} {s s' : SrInstance} : r ∈ s.cache.requests.pending →
      Handled env destRt (s.addAccess ⟨r.addr, .next, false, false⟩) r s' →
      Swept env destRt [r] s s'
  | cons {r r' : SrArpreq} {rest : List SrArpreq} {s s₁ s' : SrInstance} :
      r ∈ s.cache.requests.pending →
      Handled env destRt (s.addAccess ⟨r.addr, .next, false, false⟩) r s₁ →
      Swept env destRt (r' :: rest)
        (s₁.addAccess ⟨r.addr, .next, false, decide (Exhausted env s r)⟩) s' →
      Swept env destRt (r :: r' :: rest) s s'

/-- Handling one request leaves those after it in the queue as they were. -/
theorem Handled.pending_tail (h : Handled env destRt s r s')
    (hs : s.cache.requests.pending = pre ++ r :: rest) :
    ∃ pre', s'.cache.requests.pending = pre' ++ rest := by
  rcases h.pending hs with hp | hp | hp
  · exact ⟨pre ++ [r], by simpa using hp⟩
  · exact ⟨pre ++ [{ r with sent := s.now env, timesSent := r.timesSent+1 }], by simpa using hp⟩
  · exact ⟨pre, hp⟩

theorem sweepFrom_returns {fuel : ℕ} (h : s.cache.requests.pending = pre ++ r :: rest)
    (hr : sweepFrom env inner destRt fuel r.addr s = .ok () s') :
    Swept env destRt (r :: rest) s s' := by
  induction rest generalizing r s pre fuel with
  | nil =>
    have hm := Requests.mem_of_split h
    cases fuel with
    | zero => simp [sweepFrom, iterate, bind_apply, throw_apply] at hr
    | succ n =>
      rw [sweepFrom_last h] at hr
      have hd := handleArpreq_returns env (s := s.addAccess ⟨r.addr, .next, false, false⟩) hm hr
      exact Swept.last hm hd
  | cons r' rest ih =>
    have hm := Requests.mem_of_split h
    cases fuel with
    | zero => simp [sweepFrom, iterate, bind_apply, throw_apply] at hr
    | succ n =>
      cases hh : handleArpreq env inner r.addr destRt
          (s.addAccess ⟨r.addr, .next, false, false⟩) with
      | error e s₁ =>
        rw [sweepFrom_of_error h hh] at hr
        contradiction
      | ok u s₁ =>
        have hd := handleArpreq_returns env (s := s.addAccess ⟨r.addr, .next, false, false⟩) hm hh
        obtain ⟨pre',hp⟩ := hd.pending_tail h
        rw [sweepFrom_cons h hh] at hr
        -- the rest of the queue is as it was, so the walk goes on from `r'`
        exact Swept.cons hm hd (ih hp hr)

end Sweep

end InternetCourse.Router
