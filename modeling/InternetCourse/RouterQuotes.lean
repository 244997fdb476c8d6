import InternetCourse.RouterEcho
import InternetCourse.RouterReplies
import InternetCourse.RouterRules

/-! The ICMP errors as the sender of the offending packet reads them. -/
namespace InternetCourse.Router

open ByteMem StateTriple

/-- What `IP_packet` reports about an accepted packet: the handler it calls, and the type and
code of the error. -/
inductive Offends (s : SrInstance) (packet : Mem) : Emitter → UInt8 → UInt8 → Prop where
  | expired : ¬Local s packet → ipTtl packet ≤ 1 → Offends s packet .timeExceeded 11 0
  | noRoute : ¬Local s packet → 1 < ipTtl packet →
      longestPrefixSum s.routingTable (ipDst packet) = none → Offends s packet .destHostUnreach 3 1
  | port : Local s packet → (ipP packet = 17 ∨ ipP packet = 6) → Offends s packet .portUnreach 3 3

/-- A well-formed error about the packet in a frame that came in by interface `i`. -/
structure QuotesOffender (frame : List UInt8) (slack : Mem) (i : SrIf) (type code : UInt8)
    (buf : Mem) : Prop where
  dhost : etherDhost buf = etherShost (load frame slack)
  shost : etherShost buf = i.addr
  dst : ipDst buf = ipSrc (load frame slack)
  src : ipSrc buf = i.ip
  version : (buf 14).toNat/16 = 4
  hl : ipHl buf = 5
  length : ntohs (ipLen buf) = 56
  proto : ipP buf = 1
  type : icmpType buf = type
  code : icmpCode buf = code
  quote : wire (shift buf 42) 28 = (frame.drop 14).take 28
  header : onesSum 20 (shift buf 14) = 0xffff
  message : onesSum 36 (shift buf 34) = 0xffff

section Frame

variable (type code : UInt8) (ttl : UInt8 → UInt8) (buff packet : Mem) (i : SrIf)

theorem icmpErrorFrame_outside {k : ℕ} (h : k < 24 ∨ 26 ≤ k) (h' : k < 36 ∨ 38 ≤ k) :
    icmpErrorFrame type code ttl buff packet i k = icmpErrorBody type code ttl buff packet i k := by
  rw [icmpErrorFrame_eq, put16_outside _ _ h', put16_outside _ _ h', icmpErrorSummed,
    put16_outside _ _ h, put16_outside _ _ h]

theorem icmpErrorFrame_dhost :
    etherDhost (icmpErrorFrame type code ttl buff packet i) = etherShost packet := by
  simp (disch := omega) only [etherDhost, icmpErrorFrame, getSix_put16_outside,
    getSix_put8_outside, getSix_put32_outside, getSix_memcpy_outside, getSix_putSix]

theorem icmpErrorFrame_version : icmpErrorFrame type code ttl buff packet i 14 = 0x45 := by
  rw [icmpErrorFrame_outside type code ttl buff packet i (by decide) (by decide)]
  rfl

theorem icmpErrorFrame_type : icmpType (icmpErrorFrame type code ttl buff packet i) = type := by
  rw [icmpType, icmpErrorFrame_outside type code ttl buff packet i (by decide) (by decide)]
  rfl

theorem icmpErrorFrame_code : icmpCode (icmpErrorFrame type code ttl buff packet i) = code := by
  rw [icmpCode, icmpErrorFrame_outside type code ttl buff packet i (by decide) (by decide)]
  rfl

/-- The quoted bytes are those of the packet, from its IP header on. -/
theorem icmpErrorFrame_quote {k : ℕ} (h : k < 28) :
    icmpErrorFrame type code ttl buff packet i (42+k) = packet (14+k) := by
  have hlt : 42+k < 42+ICMP_DATA_SIZE := by
    rw [ICMP_DATA_SIZE]
    omega
  have hin : icmpErrorBody type code ttl buff packet i (42+k) = shift packet 14 (42+k-42) :=
    memcpy_inside _ _ ⟨by omega, hlt⟩
  rw [icmpErrorFrame_outside type code ttl buff packet i (by omega) (by omega), hin,
    Nat.add_sub_cancel_left]
  rfl

theorem icmpErrorFrame_header :
    onesSum 20 (shift (icmpErrorFrame type code ttl buff packet i) 14) = 0xffff := by
  have hbytes : onesSum 20 (shift (icmpErrorFrame type code ttl buff packet i) 14) =
      onesSum 20 (shift (icmpErrorSummed (icmpErrorBody type code ttl buff packet i)) 14) := by
    apply onesSum_congr
    intro k hk
    rw [shift, shift, icmpErrorFrame_eq, put16_outside _ _ (by omega), put16_outside _ _ (by omega)]
  rw [hbytes]
  exact @onesSum_of_cksum 5 20 (by decide) (by decide) _ 14

theorem icmpErrorFrame_message :
    onesSum 36 (shift (icmpErrorFrame type code ttl buff packet i) 34) = 0xffff := by
  rw [icmpErrorFrame_eq]
  exact @onesSum_of_cksum 1 36 (by decide) (by decide) _ 34

end Frame

/-- The message built about a packet that was accepted, whatever the allocated buffer held. -/
theorem icmpErrorFrame_quotes {frame : List UInt8} {slack : Mem} (hlen : 42 ≤ frame.length)
    (ha : Accepted (load frame slack) frame.length) (type code : UInt8) (ttl : UInt8 → UInt8)
    (buff : Mem) (i : SrIf) : QuotesOffender frame slack i type code
      (icmpErrorFrame type code ttl buff (load frame slack) i) where
  dhost := icmpErrorFrame_dhost type code ttl buff _ i
  shost := (icmpErrorFrame_reply ha type code ttl buff i).shost
  dst := (icmpErrorFrame_reply ha type code ttl buff i).dst
  src := (icmpErrorFrame_reply ha type code ttl buff i).src
  version := by
    rw [icmpErrorFrame_version]
    rfl
  hl := by
    rw [ipHl, icmpErrorFrame_version]
    rfl
  length := icmpErrorFrame_ipLen type code ttl buff _ i
  proto := (icmpErrorFrame_reply ha type code ttl buff i).proto
  type := icmpErrorFrame_type type code ttl buff _ i
  code := icmpErrorFrame_code type code ttl buff _ i
  quote := by
    apply List.ext_getElem
    · rw [wire_length, List.length_take, List.length_drop]
      omega
    · intro k hk hk'
      rw [wire_length] at hk
      rw [List.getElem_take, List.getElem_drop]
      calc
        _ = shift (icmpErrorFrame type code ttl buff (load frame slack) i) 42 k := by
          simp only [wire, List.getElem_map, List.getElem_range]
        _ = load frame slack (14+k) := icmpErrorFrame_quote type code ttl buff _ i hk
        _ = frame[14+k] := by
          exact load_of_lt slack (by omega)
  header := icmpErrorFrame_header type code ttl buff _ i
  message := icmpErrorFrame_message type code ttl buff _ i

section Receive

variable {env : Env} {s : SrInstance} {frame : List UInt8} {slack : Mem} {interface : CName}

/-- The handler a packet makes `IP_packet` call, and the call it ends with. -/
theorem Offends.handled {emitter : Emitter} {type code : UInt8} {i : SrIf}
    (h : Offends s (load frame slack) emitter type code)
    (ha : Accepted (load frame slack) frame.length)
    (hi : srGetInterface s.ifList interface = some i) (fuel : ℕ) :
    ∃ ttl, handle env fuel (.receive frame slack interface) s =
      .ok () (s.addArrival.addMalloc.addSend (icmpErrorCall env s.addArrival emitter type code ttl
        (received s frame slack interface).buf i interface frame.length)) := by
  generalize hp : received s frame slack interface = p at *
  have hi' : srGetInterface s.addArrival.ifList interface = some i := hi
  have hmem : p.buf.mem = load frame slack := by
    rw [← hp]
    rfl
  cases h with
  | expired hl ht =>
    refine ⟨fun ttl => ttl-1, ?_⟩
    rw [receive_of_transit ha hl, hp, packetToOtherDest_of_expired (hmem ▸ ht), timeExceeded,
      bind_apply, bind_apply, icmpError_of_some env hi']
    rfl
  | noRoute hl ht hr =>
    have hr' : longestPrefixSum s.addArrival.routingTable (ipDst p.buf.mem) = none := hmem ▸ hr
    refine ⟨fun ttl => ttl, ?_⟩
    rw [receive_of_transit ha hl, hp, bind_apply,
      packetToOtherDest_of_noRoute (hmem ▸ ht) hr', destHostUnreach, bind_apply,
      icmpError_of_some env hi']
    rfl
  | port hl hproto =>
    have hl' : Local s.addArrival p.buf.mem := hmem ▸ hl
    refine ⟨fun ttl => ttl, ?_⟩
    rw [receive_of_accepted ha, hp, ipPacket_of_unreachable (hmem ▸ ha) hl' (hmem ▸ hproto),
      portUnreach, icmpError_of_some env hi']

/-- Every packet that `IP_packet` reports makes it send one message, and the message is a
well-formed error that quotes the packet as it came in. -/
theorem error_quotes_offender {emitter : Emitter} {type code : UInt8} {i : SrIf}
    (hlen : 42 ≤ frame.length) (ha : Accepted (load frame slack) frame.length)
    (h : Offends s (load frame slack) emitter type code)
    (hi : srGetInterface s.ifList interface = some i) (env : Env) (fuel : ℕ) :
    ∃ s' c, handle env fuel (.receive frame slack interface) s = .ok () s' ∧
      s'.log.sends = c :: s.log.sends ∧ c.emitter = emitter ∧
      QuotesOffender frame slack i type code c.buf := by
  obtain ⟨ttl,hs⟩ := h.handled ha hi fuel
  refine ⟨_, _, hs, rfl, rfl, ?_⟩
  exact icmpErrorFrame_quotes hlen ha type code ttl _ i

end Receive

/-- The expiring packet with eight bytes of payload. -/
def expiringDatagram : List UInt8 := expiringFrame ++ [0, 53, 0, 53, 0, 8, 0, 0]

theorem error_quotes_offender_expiring : ∃ s' c,
    handle obligingHost 1 (.receive expiringDatagram (fun _ => 0) eth0) smallRouter = .ok () s' ∧
      s'.log.sends = [c] ∧ c.emitter = .timeExceeded ∧
      QuotesOffender expiringDatagram (fun _ => 0) ⟨eth0, fun _ => 10, address 10 0 0 1⟩ 11 0
        c.buf :=
  error_quotes_offender (by decide) (by decide +kernel)
    (Offends.expired (by decide +kernel) (by decide)) rfl obligingHost 1

end InternetCourse.Router
