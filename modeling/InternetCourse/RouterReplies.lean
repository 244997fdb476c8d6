import InternetCourse.RouterResolve

/-! What `IP_packet` sends back about a packet: an answer, where the packet is for the router
itself, or an error message. -/
namespace InternetCourse.Router

open ByteMem StateTriple

/-- The protocols `IP_packet` answers for. -/
def Answerable (m : Mem) : Prop := ipP m = 1 ∨ ipP m = 17 ∨ ipP m = 6

instance (m : Mem) : Decidable (Answerable m) := inferInstanceAs (Decidable (_ ∨ _ ∨ _))

/-- The answer `buf` to a packet of `len` bytes that came in by interface `i`. -/
structure Reply (buf : Mem) (len : ℕ) (packet : Mem) (i : SrIf) : Prop where
  checksummed : Checksummed buf len
  proto : ipP buf = 1
  src : ipSrc buf = i.ip
  dst : ipDst buf = ipSrc packet
  shost : etherShost buf = i.addr

theorem echoReplyFrame_reply {packet : Mem} {len : ℕ} (ha : Accepted packet len)
    (hp : ipP packet = 1) (i : SrIf) : Reply (echoReplyFrame packet i) len packet i where
  checksummed := by
    obtain ⟨hl,ht,-⟩ := (accepted_iff packet len).mp ha
    apply checksummed_of_filled hl
    · rw [← ht]
      simp (disch := omega) only [ethertype, etherType, echoReplyFrame, get16_put16_outside,
        get16_put8_outside, get16_put32_outside, get16_putSix_outside]
    · intro j _ hj
      rw [echoReplyFrame, put16_outside _ _ (by omega), put16_outside _ _ (by omega)]
  proto := by
    rw [← hp]
    simp (disch := omega) only [ipP, echoReplyFrame, put16_outside, put8_outside, put32_outside,
      putSix_outside]
  src := by
    simp (disch := omega) only [ipSrc, echoReplyFrame, get32_put16_outside, get32_put8_outside,
      get32_put32]
  dst := by
    simp (disch := omega) only [ipDst, ipSrc, echoReplyFrame, get32_put16_outside,
      get32_put8_outside, get32_put32_outside, get32_putSix_outside, get32_put32]
  shost := by
    simp (disch := omega) only [etherShost, echoReplyFrame, getSix_put16_outside,
      getSix_put8_outside, getSix_put32_outside, getSix_putSix_outside, getSix_putSix]

theorem icmpErrorFrame_reply {packet : Mem} {len : ℕ} (ha : Accepted packet len)
    (type code : UInt8) (ttl : UInt8 → UInt8) (buff : Mem) (i : SrIf) :
    Reply (icmpErrorFrame type code ttl buff packet i) len packet i where
  checksummed := by
    obtain ⟨hl,ht,-⟩ := (accepted_iff packet len).mp ha
    apply checksummed_of_filled hl
    · rw [← ht]
      simp (disch := omega) only [ethertype, etherType, icmpErrorFrame, get16_put16_outside,
        get16_put8_outside, get16_put32_outside, get16_memcpy_outside, get16_put16]
    · intro j _ hj
      rw [icmpErrorFrame, put16_outside _ _ (by omega), put16_outside _ _ (by omega)]
  proto := by
    simp (disch := omega) only [ipP, icmpErrorFrame, put16_outside, put8_outside, memcpy_outside]
    rfl
  src := by
    simp (disch := omega) only [ipSrc, icmpErrorFrame, get32_put16_outside, get32_put8_outside,
      get32_memcpy_outside, get32_put32]
  dst := by
    simp (disch := omega) only [ipDst, icmpErrorFrame, get32_put16_outside, get32_put8_outside,
      get32_put32_outside, get32_memcpy_outside, get32_put32]
  shost := by
    simp (disch := omega) only [etherShost, icmpErrorFrame, getSix_put16_outside,
      getSix_put8_outside, getSix_put32_outside, getSix_putSix_outside, getSix_memcpy_outside,
      getSix_putSix]

theorem echoReplyFrame_ttl (packet : Mem) (i : SrIf) :
    ipTtl (echoReplyFrame packet i) = ipTtl packet := by
  simp (disch := omega) only [ipTtl, echoReplyFrame, put16_outside, put8_outside, put32_outside,
    putSix_outside]

theorem icmpErrorFrame_ttl (type code : UInt8) (ttl : UInt8 → UInt8) (buff packet : Mem)
    (i : SrIf) : ipTtl (icmpErrorFrame type code ttl buff packet i) = ttl (ipTtl packet) := by
  simp (disch := omega) only [ipTtl, icmpErrorFrame, put16_outside, put8_outside, memcpy_outside]
  rfl

/-- The host of a router: its server takes every message it is sent. -/
structure Host where
  env : Env
  takes : ∀ n len : ℕ, (len : ℤ) ≤ env.write n len

/-- The call `c` by which the router sends a message back about a packet. -/
structure SendsBack (s : SrInstance) (packet : Buf) (length : ℕ) (interface : CName) (i : SrIf)
    (c : SendCall) : Prop where
  emitter : c.emitter ≠ .arpPacket
  origin : c.origin = some packet.origin
  iface : c.iface = interface
  len : c.len = length
  ret : c.ret = 0
  reply : Reply c.buf length packet.mem i
  echo : Local s packet.mem → ipP packet.mem = 1 → c.buf = echoReplyFrame packet.mem i
  ttl : Local s packet.mem → ipTtl c.buf = ipTtl packet.mem

theorem local_iff {s : SrInstance} {m : Mem} : Local s m ↔ ∃ w ∈ s.ifList, w.ip = ipDst m := by
  simp only [Local, ipPacketRouterCheck, List.find?_isSome, beq_iff_eq]

end InternetCourse.Router
