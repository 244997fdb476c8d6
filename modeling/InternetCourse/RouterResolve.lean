import InternetCourse.RouterMapping
import InternetCourse.RouterMoves

/-! Address resolution between two routers: the request one of them broadcasts, the reply
the other makes of it, and what the reply does when it comes back. -/
namespace InternetCourse.Router

open ByteMem StateTriple

/-- What `arp_packet` reads of a frame. -/
structure ArpFields (m : Mem) (op : UInt16) (sha : Six) (sip tip : UInt32) : Prop where
  type : ethertype m = ethertypeArp
  op : ntohs (arOp m) = op
  sha : arSha m = sha
  sip : arSip m = sip
  tip : arTip m = tip

theorem ArpFields.congr {m m' : Mem} {op : UInt16} {sha : Six} {sip tip : UInt32}
    (h : ArpFields m op sha sip tip) (hm : ∀ i < 42, m' i = m i) :
    ArpFields m' op sha sip tip where
  type := by
    rw [← h.type]
    exact congrArg ntohs (get16_congr fun i _ hi => hm i (by omega))
  op := by
    rw [← h.op]
    exact congrArg ntohs (get16_congr fun i _ hi => hm i (by omega))
  sha := (getSix_congr fun i _ hi => hm i (by omega)).trans h.sha
  sip := (get32_congr fun i _ hi => hm i (by omega)).trans h.sip
  tip := (get32_congr fun i _ hi => hm i (by omega)).trans h.tip

theorem arpRequestFrame_ehdr (packet ehdr arpHdr : Mem) (i : SrIf) (ip : UInt32) {j : ℕ}
    (hj : j < 14) : arpRequestFrame packet ehdr arpHdr i ip j = arpRequestEhdr ehdr i j := by
  rw [arpRequestFrame, sizeofEthernetHdr, memcpy_outside _ _ (by omega),
    memcpy_inside _ _ (by omega)]
  rfl

theorem arpRequestFrame_shost (packet ehdr arpHdr : Mem) (i : SrIf) (ip : UInt32) :
    etherShost (arpRequestFrame packet ehdr arpHdr i ip) = i.addr := by
  calc
    _ = etherShost (arpRequestEhdr ehdr i) :=
      getSix_congr fun j _ hj => arpRequestFrame_ehdr packet ehdr arpHdr i ip (by omega)
    _ = i.addr := by
      simp (disch := omega) only [etherShost, arpRequestEhdr, getSix_put16_outside, getSix_putSix]

/-- The frame `arp_request_send` assembles. -/
theorem arpRequestFrame_fields (packet ehdr arpHdr : Mem) (i : SrIf) (ip : UInt32) :
    ArpFields (arpRequestFrame packet ehdr arpHdr i ip) 1 i.addr i.ip ip := by
  have hehdr (j : ℕ) (hj : j < 14) :
      arpRequestFrame packet ehdr arpHdr i ip j = arpRequestEhdr ehdr i j :=
    arpRequestFrame_ehdr packet ehdr arpHdr i ip hj
  -- the ARP header is copied in behind the Ethernet header, so its fields are read through the copy
  have harp (j : ℕ) (hj : j < 28) :
      shift (arpRequestFrame packet ehdr arpHdr i ip) 14 j = arpRequestArpHdr arpHdr i ip j := by
    have hin : 14 ≤ 14+j ∧ 14+j < 14+28 := by omega
    rw [shift, arpRequestFrame, sizeofEthernetHdr, sizeofArpHdr, memcpy_inside _ _ hin]
    congr 1
    omega
  refine ⟨?_, ?_, ?_, ?_, ?_⟩
  · have h : etherType (arpRequestFrame packet ehdr arpHdr i ip) = htons 2054 :=
      (get16_congr fun j _ hj => hehdr j hj).trans (get16_put16 _ _ _)
    rw [ethertype, h]
    decide
  · have h : arOp (arpRequestFrame packet ehdr arpHdr i ip) =
        get16 (arpRequestArpHdr arpHdr i ip) 6 := by
      calc
        _ = get16 (shift (arpRequestFrame packet ehdr arpHdr i ip) 14) 6 :=
          (get16_shift _ 14 6).symm
        _ = _ := get16_congr fun j _ hj => harp j (by omega)
    rw [h]
    simp (disch := omega) only [arpRequestArpHdr, get16_put32_outside, get16_put16]
    decide
  · have h : arSha (arpRequestFrame packet ehdr arpHdr i ip) =
        getSix (arpRequestArpHdr arpHdr i ip) 8 := by
      calc
        _ = getSix (shift (arpRequestFrame packet ehdr arpHdr i ip) 14) 8 :=
          (getSix_shift _ 14 8).symm
        _ = _ := getSix_congr fun j _ hj => harp j (by omega)
    rw [h]
    simp (disch := omega) only [arpRequestArpHdr, getSix_put32_outside, getSix_put16_outside,
      getSix_put8_outside, getSix_putSix]
  · have h : arSip (arpRequestFrame packet ehdr arpHdr i ip) =
        get32 (arpRequestArpHdr arpHdr i ip) 14 := by
      calc
        _ = get32 (shift (arpRequestFrame packet ehdr arpHdr i ip) 14) 14 :=
          (get32_shift _ 14 14).symm
        _ = _ := get32_congr fun j _ hj => harp j (by omega)
    rw [h]
    simp (disch := omega) only [arpRequestArpHdr, get32_put32_outside, get32_put32]
  · have h : arTip (arpRequestFrame packet ehdr arpHdr i ip) =
        get32 (arpRequestArpHdr arpHdr i ip) 24 := by
      calc
        _ = get32 (shift (arpRequestFrame packet ehdr arpHdr i ip) 14) 24 :=
          (get32_shift _ 14 24).symm
        _ = _ := get32_congr fun j _ hj => harp j (by omega)
    rw [h]
    exact get32_put32 _ _ _

/-- The reply `arp_packet` makes of a request in place: it swaps the two parties. -/
theorem arpReplyFrame_fields {m : Mem} {op : UInt16} {sha : Six} {sip tip : UInt32}
    (h : ArpFields m op sha sip tip) (i : SrIf) :
    ArpFields (arpReplyFrame m i) 2 i.addr i.ip sip where
  type := by
    rw [← h.type]
    simp (disch := omega) only [ethertype, etherType, arpReplyFrame, get16_put16_outside,
      get16_put32_outside, get16_putSix_outside]
  op := by
    simp (disch := omega) only [arOp, arpReplyFrame, get16_put16, get16_put32_outside,
      get16_putSix_outside]
    decide
  sha := by
    simp (disch := omega) only [arSha, arpReplyFrame, getSix_putSix, getSix_putSix_outside]
  sip := by
    simp (disch := omega) only [arSip, arpReplyFrame, get32_put32, get32_put32_outside,
      get32_putSix_outside]
  tip := by
    rw [← h.sip]
    simp (disch := omega) only [arTip, arpReplyFrame, get32_put32, get32_putSix_outside]

/-- A router with packets waiting for the MAC address behind `ip`, on the link of interface
`a`, whose frames it gets under the name `name`. -/
structure Awaits (s : SrInstance) (a : SrIf) (name : CName) (ip : UInt32) (r : SrArpreq) :
    Prop where
  request : s.cache.requests.pending.find? (fun r => r.ip == ip) = some r
  route : ∃ rt, longestPrefixSum s.routingTable ip = some rt ∧
    srGetInterface s.ifList rt.interface = some a
  iface : srGetInterface s.ifList name = some a
  packets : ∀ p ∈ r.packets, ipDst p.buf.mem = ip ∧ 1 < ipTtl p.buf.mem
  free : ∃ i, (s.cache.entries i).valid = false
  unmapped : ∀ i, ¬Maps (s.cache.entries i) ip

/-- A waiting packet goes out by interface `a` to the MAC address `mac`, and
`sr_send_packet` finds the addresses in order. -/
structure Transmits (ifList : List SrIf) (a : SrIf) (mac : Six) (c : SendCall) (p : SrPacket) :
    Prop where
  emitter : c.emitter = .packetToOtherDest
  origin : c.origin = some p.buf.origin
  buf : c.buf = forwardFrame p.buf.mem a.addr mac
  len : c.len = p.len
  dhost : etherDhost c.buf = mac
  shost : etherShost c.buf = a.addr
  iface : c.iface = a.name
  matching : srEtherAddrsMatchInterface ifList c.buf c.iface = true

/-- What the reply is to bring about. -/
structure Resolves (s s' : SrInstance) (a : SrIf) (mac : Six) (ip : UInt32) (r : SrArpreq) :
    Prop where
  pending : s'.cache.requests.pending = s.cache.requests.pending.filter fun r' => r'.addr ≠ r.addr
  mapped : mappedMac s'.cache.entries ip = some mac
  sent : ∃ calls, s'.log.sends = calls ++ s.log.sends ∧
    List.Forall₂ (Transmits s.ifList a mac) calls.reverse r.packets

/-- An interface is found under its own name if it is found under any. -/
theorem srGetInterface_name {ifList : List SrIf} {name : CName} {a : SrIf}
    (h : srGetInterface ifList name = some a) : srGetInterface ifList a.name = some a := by
  have ha := List.find?_some h
  simp only [strncmpEq, beq_iff_eq] at ha
  rw [← h, srGetInterface, srGetInterface]
  simp only [strncmpEq, ha]

theorem forwardFrame_dhost (packet : Mem) (shost dhost : Six) :
    etherDhost (forwardFrame packet shost dhost) = dhost := by
  simp (disch := omega) only [etherDhost, forwardFrame, getSix_put16_outside,
    getSix_put8_outside, getSix_putSix]

theorem forwardFrame_shost (packet : Mem) (shost dhost : Six) :
    etherShost (forwardFrame packet shost dhost) = shost := by
  simp (disch := omega) only [etherShost, forwardFrame, getSix_put16_outside,
    getSix_put8_outside, getSix_putSix_outside, getSix_putSix]

section Flush

variable {env : Env} {s : SrInstance} {a : SrIf} {rt : SrRt} {e : SrArpentry} {ip : UInt32}

theorem packetToOtherDest_of_mapped {p : SrPacket} (ht : 1 < ipTtl p.buf.mem)
    (hd : ipDst p.buf.mem = ip) (hrt : longestPrefixSum s.routingTable ip = some rt)
    (he : srArpcacheLookup s.cache.entries ip = some e)
    (ha : srGetInterface s.ifList rt.interface = some a) (fuel : ℕ) (interface : CName) :
    packetToOtherDest env fuel p.buf interface p.len s =
      .ok (some (forwardCall env s p.buf p.len a e).ret)
        (s.addSend (forwardCall env s p.buf p.len a e)) := by
  rw [← hd] at hrt he
  exact packetToOtherDest_of_hit ht hrt he ha fuel interface p.len

theorem forwardCall_transmits (ha : srGetInterface s.ifList rt.interface = some a)
    (u : SrInstance) (p : SrPacket) :
    Transmits s.ifList a e.mac (forwardCall env u p.buf p.len a e) p := by
  refine ⟨rfl, rfl, rfl, rfl, forwardFrame_dhost _ _ _, forwardFrame_shost _ _ _, rfl, ?_⟩
  have hs : etherShost (forwardCall env u p.buf p.len a e).buf = a.addr :=
    forwardFrame_shost _ _ _
  simp only [srEtherAddrsMatchInterface, hs]
  rw [show (forwardCall env u p.buf p.len a e).iface = a.name from rfl, srGetInterface_name ha]
  simp

variable (env) in
/-- With the address mapped, the flush sends each packet on, in order, and does nothing else. -/
theorem flushPackets_of_mapped {packets : List SrPacket}
    (hp : ∀ p ∈ packets, ipDst p.buf.mem = ip ∧ 1 < ipTtl p.buf.mem)
    (hrt : longestPrefixSum s.routingTable ip = some rt)
    (he : srArpcacheLookup s.cache.entries ip = some e)
    (ha : srGetInterface s.ifList rt.interface = some a) (fuel : ℕ) (interface : CName) :
    ∃ s' calls, flushPackets env fuel interface packets s = .ok () s' ∧ s'.cache = s.cache ∧
      s'.log.sends = calls ++ s.log.sends ∧
      List.Forall₂ (Transmits s.ifList a e.mac) calls.reverse packets := by
  induction packets generalizing s with
  | nil => exact ⟨s, [], rfl, rfl, rfl, List.Forall₂.nil⟩
  | cons p rest ih =>
    obtain ⟨hd,ht⟩ := hp p List.mem_cons_self
    have hrest : ∀ q ∈ rest, ipDst q.buf.mem = ip ∧ 1 < ipTtl q.buf.mem := by
      intro q hq
      exact hp q (List.mem_cons_of_mem p hq)
    let c := forwardCall env s p.buf p.len a e
    obtain ⟨s',calls,hflush,hcache,hsends,hall⟩ := ih hrest (s := s.addSend c) hrt he ha
    refine ⟨s', calls ++ [c], ?_, hcache, ?_, ?_⟩
    · rw [flushPackets, bind_apply, packetToOtherDest_of_mapped ht hd hrt he ha]
      exact hflush
    · rw [hsends, List.append_assoc]
      rfl
    · rw [List.reverse_append]
      exact List.Forall₂.cons (forwardCall_transmits ha s p) hall

end Flush

/-- A reply that maps `ip` to `mac` resolves the request for `ip`. -/
theorem arpPacket_resolves {env : Env} {s : SrInstance} {a : SrIf} {name : CName} {ip : UInt32}
    {r : SrArpreq} (h : Awaits s a name ip r) {buf : Buf} {mac : Six}
    (hf : ArpFields buf.mem 2 mac ip a.ip) (fuel len : ℕ) :
    ∃ s', arpPacket env fuel buf name len s = .ok () s' ∧ Resolves s s' a mac ip r := by
  obtain ⟨rt,hrt,ha⟩ := h.route
  obtain ⟨hi,hroute,hsends,-,-⟩ := insertedState_frame env mac ip s
  obtain ⟨hip,pre,post,hs,hpre⟩ := List.find?_eq_some_iff_append.mp h.request
  have hmap : mappedMac (insertedState env mac ip s).cache.entries ip = some mac := by
    rw [insertedState_entries]
    -- the mapping goes into a free slot, and no other entry is for this address
    have hne : freeSlot s.cache.entries ≠ none := by
      intro hn
      obtain ⟨i,hv⟩ := h.free
      rw [(freeSlot_eq_none_iff _).mp hn i] at hv
      contradiction
    obtain ⟨i,hfree⟩ := Option.ne_none_iff_exists'.mp hne
    apply (mappedMac_insert_free hfree mac ip _).mpr
    exact Or.inl fun k _ => h.unmapped k
  obtain ⟨e,he,hmac⟩ := Option.map_eq_some_iff.mp hmap
  have hrt' : longestPrefixSum (insertedState env mac ip s).routingTable ip = some rt := by
    rw [hroute]
    exact hrt
  have ha' : srGetInterface (insertedState env mac ip s).ifList rt.interface = some a := by
    rw [hi]
    exact ha
  obtain ⟨s₁,calls,hflush,hcache,hcalls,hall⟩ :=
    flushPackets_of_mapped env h.packets hrt' he ha' fuel name
  -- the interfaces and the MAC address are those of the state before the insertion
  rw [hi, hmac] at hall
  have hu : Unlinked (insertedState env mac ip s) r.addr := insertedState_unlinked h.request
  have hpend : (insertedState env mac ip s).cache.requests.pending = pre ++ post := by
    rw [insertedState_pending]
    exact Requests.unlink_pending_split hs (by simpa using hpre) hip
  refine ⟨s₁.setRequests (s₁.cache.requests.destroy r), ?_, ?_, ?_, calls, ?_, hall⟩
  · -- the call: the mapping goes in, the packets go out, the request is destroyed
    have hrequest : s.cache.requests.pending.find? (fun r => r.ip == arSip buf.mem) = some r := by
      rw [hf.sip]
      exact h.request
    rw [arpPacket_of_answered h.iface hf.tip hf.op hrequest, hf.sha, hf.sip, bind_apply, hflush]
    rfl
  · -- the insertion has unlinked the request, and the destruction finds it no more
    rw [Requests.filter_addr_split hs, ← hpend, SrInstance.setRequests_cache_requests, hcache]
    apply List.eraseP_of_forall_not
    intro x hx
    have hne := hu.2 x hx
    simpa using hne
  · rw [SrInstance.setRequests_entries, hcache]
    exact hmap
  · exact hcalls.trans (congrArg _ hsends)

/-- A request for an interface's address is answered with one frame. -/
theorem arpPacket_answers {env : Env} {s : SrInstance} {b : SrIf} {name : CName}
    (hb : srGetInterface s.ifList name = some b) {buf : Buf} {sha : Six} {sip : UInt32}
    (hf : ArpFields buf.mem 1 sha sip b.ip) (fuel len : ℕ) :
    arpPacket env fuel buf name len s = .ok () (s.addSend ⟨.arpPacket, some buf.origin,
      arpReplyFrame buf.mem b, len, name,
      sendResult env s (arpReplyFrame buf.mem b) len name⟩) :=
  arpPacket_of_request hb hf.tip hf.op

theorem srArpReqNotForUs_of_tip {iface : SrIf} {packet : Mem} (h : arTip packet = iface.ip)
    (len : ℕ) : srArpReqNotForUs iface packet len = false := by
  simp [srArpReqNotForUs, h]

/-- The broadcast changes nothing that the request waits for. -/
theorem Awaits.broadcast {env : Env} {s : SrInstance} {a : SrIf} {name : CName} {ip : UInt32}
    {r : SrArpreq} (h : Awaits s a name ip r) : Awaits (broadcastState env s r a) a name ip r :=
  ⟨h.request, h.route, h.iface, h.packets, h.free, h.unmapped⟩

/-- Two routers resolve each other's addresses. The request router A broadcasts for `ip`
passes B's filter, B answers it with one frame, and when that frame comes in at A, then or
later, what waits for `ip` at A goes out to B. -/
theorem arp_resolution {envA envB : Env} {s sB : SrInstance} {a b : SrIf} {name nameB : CName}
    {ip : UInt32} {r : SrArpreq} (hA : Awaits s a name ip r)
    (hB : srGetInterface sB.ifList nameB = some b) (hip : b.ip = ip) :
    ∃ rt s₁ c₁, longestPrefixSum s.routingTable ip = some rt ∧
      arpRequestSend envA r.addr (some rt) s = .ok c₁.ret s₁ ∧
      s₁.log.sends = c₁ :: s.log.sends ∧ c₁.iface = a.name ∧ Awaits s₁ a name ip r ∧
      ∀ slackB originB fuelB,
        srArpReqNotForUs b (load c₁.frame slackB) c₁.frame.length = false ∧
        ∃ sB' c₂, arpPacket envB fuelB ⟨load c₁.frame slackB, originB⟩ nameB c₁.frame.length sB =
            .ok () sB' ∧
          sB'.log.sends = c₂ :: sB.log.sends ∧ c₂.iface = nameB ∧
          ∀ t r' slackA originA fuelA, Awaits t a name ip r' →
            ∃ t', arpPacket envA fuelA ⟨load c₂.frame slackA, originA⟩ name c₂.frame.length t =
                .ok () t' ∧ Resolves t t' a b.addr ip r' := by
  obtain ⟨rt,hrt,ha⟩ := hA.route
  have hr := List.mem_of_find?_eq_some hA.request
  have hrip : r.ip = ip := by simpa using List.find?_some hA.request
  let c₁ := arpRequestCall envA s a r.ip
  have hlen : c₁.frame.length = 42 := wire_length _ _
  refine ⟨rt, broadcastState envA s r a, c₁, hrt, arpRequestSend_of_some envA hr ha, rfl, rfl,
    hA.broadcast, fun slackB originB fuelB => ?_⟩
  have hreq : ArpFields (load c₁.frame slackB) 1 a.addr a.ip b.ip := by
    rw [hip, ← hrip]
    exact (arpRequestFrame_fields _ _ _ a r.ip).congr fun i hi => load_wire slackB hi
  refine ⟨srArpReqNotForUs_of_tip hreq.tip _, _, _, arpPacket_answers hB hreq fuelB _, rfl, rfl,
    fun t r' slackA originA fuelA hT => ?_⟩
  have hrep := arpReplyFrame_fields hreq b
  rw [hip] at hrep
  -- the 42 bytes of the answer are all that A reads of it
  refine arpPacket_resolves hT (hrep.congr fun i hi => ?_) fuelA _
  exact load_wire slackA (hlen.symm ▸ hi)

/-- The neighbour behind `eth1` as a router, with the address the small router asks for. -/
def neighbour : SrInstance where
  ifList := [⟨eth0, fun _ => 12, address 10 0 1 2⟩]
  routingTable := []
  cache := srArpcacheInit
  log := Log.empty

theorem queuedRouter_awaits :
    ∃ r, Awaits queuedRouter ⟨eth1, fun _ => 11, address 10 0 1 1⟩ eth1 (address 10 0 1 2) r := by
  have hstep : Step obligingHost (.receive transitFrame (fun _ => 0) eth0) smallRouter
      queuedRouter := step_after (by decide +kernel)
  have hpk : (queuedRouter.cache.requests.pending.find? fun r => r.ip == address 10 0 1 2).any
      (fun r => r.packets.all fun p =>
        decide (ipDst p.buf.mem = address 10 0 1 2 ∧ 1 < ipTtl p.buf.mem)) = true := by
    decide +kernel
  obtain ⟨r,hr,hp⟩ := Option.any_eq_true _ _ |>.mp hpk
  refine ⟨r, hr, ?_, ?_, ?_, ⟨⟨0, by decide⟩, by decide +kernel⟩,
    by decide +kernel⟩
  · rw [hstep.tables.1, hstep.tables.2]
    exact ⟨⟨address 10 0 1 2, address 10 0 1 2, 0, eth1⟩, rfl, rfl⟩
  · rw [hstep.tables.1]
    rfl
  · intro p hm
    exact of_decide_eq_true (List.all_eq_true.mp hp p hm)

theorem arp_resolution_neighbour :
    ∃ r rt s₁, ∃ c₁ : SendCall,
      arpRequestSend obligingHost r.addr (some rt) queuedRouter = .ok c₁.ret s₁ ∧
      ∃ sB', ∃ c₂ : SendCall,
        arpPacket obligingHost 0 ⟨load c₁.frame fun _ => 0, 0⟩ eth0 c₁.frame.length neighbour =
          .ok () sB' ∧
        ∃ t', arpPacket obligingHost 0 ⟨load c₂.frame fun _ => 0, 1⟩ eth1 c₂.frame.length s₁ =
            .ok () t' ∧
          Resolves s₁ t' ⟨eth1, fun _ => 11, address 10 0 1 1⟩ (fun _ => 12)
            (address 10 0 1 2) r := by
  obtain ⟨r,hA⟩ := queuedRouter_awaits
  have hB : srGetInterface neighbour.ifList eth0 = some ⟨eth0, fun _ => 12, address 10 0 1 2⟩ := rfl
  obtain ⟨rt,s₁,c₁,-,hsend,-,-,hA₁,hlink⟩ :=
    @arp_resolution obligingHost obligingHost _ _ _ _ _ _ _ _ hA hB rfl
  obtain ⟨-,sB',c₂,hans,-,-,hback⟩ := hlink (fun _ => 0) 0 0
  obtain ⟨t',hres⟩ := hback s₁ r (fun _ => 0) 1 0 hA₁
  exact ⟨r, rt, s₁, c₁, hsend, sB', c₂, hans, t', hres⟩

end InternetCourse.Router
