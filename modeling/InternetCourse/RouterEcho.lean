import InternetCourse.RouterValidation

/-! What `Echo_Reply` makes of a ping. -/
namespace InternetCourse.Router

open ByteMem StateTriple

/-- Where the message of an IP packet starts. -/
def icmpOffset (m : Mem) : ℕ := sizeofEthernetHdr+4*ipHl m

/-- The sum over the ICMP message in a frame of `len` bytes. -/
def icmpSum (m : Mem) (len : ℕ) : ℕ := onesSum (len-icmpOffset m) (shift m (icmpOffset m))

/-- A well-formed echo request to one of the router's addresses, with any payload. -/
structure EchoRequest (s : SrInstance) (m : Mem) (len : ℕ) : Prop where
  ip : ethertype m = ethertypeIp
  hl : 5 ≤ ipHl m
  length : len = sizeofEthernetHdr+(ntohs (ipLen m)).toNat
  room : icmpOffset m+8 ≤ len
  proto : ipP m = 1
  type : m (icmpOffset m) = 8
  header : headerSum m = 0xffff
  message : icmpSum m len = 0xffff
  here : Local s m

/-- The request with source and destination exchanged and type 0, and with checksums to match. -/
structure IsEchoReply (m : Mem) (len : ℕ) (c : SendCall) : Prop where
  length : c.len = len
  dhost : etherDhost c.buf = etherShost m
  shost : etherShost c.buf = etherDhost m
  dst : ipDst c.buf = ipSrc m
  src : ipSrc c.buf = ipDst m
  type : c.buf (icmpOffset m) = 0
  same : ∀ k < len, 12 ≤ k → (k < 24 ∨ 34 ≤ k) → k ≠ icmpOffset m →
    k ≠ icmpOffset m+2 → k ≠ icmpOffset m+3 → c.buf k = m k
  header : headerSum c.buf = 0xffff
  message : icmpSum c.buf len = 0xffff

section Frame

variable (m : Mem) (i : SrIf)

/-- The reply before its ICMP checksum. -/
def echoReplySummed : Mem :=
  let targetaddr := etherShost m
  let m := putSix m 6 i.addr
  let m := putSix m 0 targetaddr
  let m := put32 m 30 (ipSrc m)
  let m := put32 m 26 i.ip
  let m := put8 m 34 0
  let m := put16 m 24 0
  put16 m 24 (cksum (shift m 14) sizeofIpHdr)

theorem echoReplyFrame_eq : echoReplyFrame m i = put16 (put16 (echoReplySummed m i) 36 0) 36
    (cksum (shift (put16 (echoReplySummed m i) 36 0) 34) sizeofIcmpHdr) := rfl

theorem echoReplyFrame_outside {k : ℕ} (h : k < 36 ∨ 38 ≤ k) :
    echoReplyFrame m i k = echoReplySummed m i k := by
  rw [echoReplyFrame_eq, put16_outside _ _ (by omega), put16_outside _ _ (by omega)]

theorem echoReplyFrame_same {k : ℕ} (h12 : 12 ≤ k) (h24 : k < 24 ∨ 34 < k)
    (h36 : k < 36 ∨ 38 ≤ k) : echoReplyFrame m i k = m k := by
  rw [echoReplyFrame_outside m i h36]
  simp (disch := omega) only [echoReplySummed, put16_outside, put8_outside, put32_outside,
    putSix_outside]

theorem echoReplyFrame_type : echoReplyFrame m i 34 = 0 := by
  rw [echoReplyFrame_outside m i (by omega), echoReplySummed, put16_outside _ _ (by omega),
    put16_outside _ _ (by omega)]
  rfl

theorem echoReplyFrame_dhost : etherDhost (echoReplyFrame m i) = etherShost m := by
  simp (disch := omega) only [etherDhost, echoReplyFrame, getSix_put16_outside,
    getSix_put8_outside, getSix_put32_outside, getSix_putSix]

theorem echoReplyFrame_shost : etherShost (echoReplyFrame m i) = i.addr := by
  simp (disch := omega) only [etherShost, echoReplyFrame, getSix_put16_outside,
    getSix_put8_outside, getSix_put32_outside, getSix_putSix_outside, getSix_putSix]

theorem echoReplyFrame_header :
    onesSum sizeofIpHdr (shift (echoReplyFrame m i) 14) = 0xffff := by
  have hbytes : onesSum sizeofIpHdr (shift (echoReplyFrame m i) 14) =
      onesSum sizeofIpHdr (shift (echoReplySummed m i) 14) := by
    apply onesSum_congr
    intro k hk
    have hk' : k < 20 := hk
    exact echoReplyFrame_outside m i (by omega)
  rw [hbytes]
  exact @onesSum_of_cksum 5 20 (by decide) (by decide) _ 14

/-- The ICMP checksum makes up for the first four bytes of the message, and for no more. -/
theorem echoReplyFrame_message (n : ℕ) :
    onesSum (4+n) (shift (echoReplyFrame m i) 34) = 0xffff ↔
      onesSum n (shift m 38) = 0 ∨ onesSum n (shift m 38) = 0xffff := by
  have hfirst : onesSum 4 (shift (echoReplyFrame m i) 34) = 0xffff := by
    rw [echoReplyFrame_eq]
    exact @onesSum_of_cksum 1 4 (by decide) (by decide) _ 34
  obtain ⟨hpos,hdvd⟩ := (onesSum_eq_ones_iff _ _).mp hfirst
  have hrest : wordSum n (shift (shift (echoReplyFrame m i) 34) (2*2)) =
      wordSum n (shift m 38) := by
    apply wordSum_congr
    intro k hk
    have hoff : 34+(2*2+k) = 38+k := by omega
    rw [shift, shift, hoff]
    exact echoReplyFrame_same m i (by omega) (by omega) (by omega)
  have hsplit : wordSum (4+n) (shift (echoReplyFrame m i) 34) =
      wordSum 4 (shift (echoReplyFrame m i) 34)+wordSum n (shift m 38) := by
    rw [← hrest]
    exact wordSum_append 2 n _
  rw [onesSum_eq_ones_iff, onesSum_isZero_iff, hsplit, Nat.dvd_add_right hdvd]
  exact and_iff_right (by omega)

end Frame

section Request

variable {s : SrInstance} {m : Mem} {len : ℕ} {interface : CName} {i : SrIf}

/-- The call that answers an echo request. -/
def echoReplyCall (env : Env) (s : SrInstance) (packet : Buf) (i : SrIf) (interface : CName)
    (len : ℕ) : SendCall :=
  ⟨.echoReply, some packet.origin, echoReplyFrame packet.mem i, len, interface,
    sendResult env s (echoReplyFrame packet.mem i) len interface⟩

theorem EchoRequest.echoed (h : EchoRequest s m len) (ha : Accepted m len)
    (hi : srGetInterface s.ifList interface = some i) (env : Env) (fuel origin : ℕ) :
    ipPacket env fuel ⟨m,origin⟩ interface len s =
      .ok () (s.addSend (echoReplyCall env s ⟨m,origin⟩ i interface len)) := by
  rw [@ipPacket_of_echo ⟨m,origin⟩ len s ha h.here h.proto, echoReply_of_some env hi]
  rfl

/-- A well-formed request without options is turned away only for its checksum field. -/
theorem EchoRequest.accepted_iff (h : EchoRequest s m len) (hl : ipHl m = 5) :
    Accepted m len ↔ ipSum m ≠ 0 ∧ ipSum m ≠ 0xffff := by
  have hroom := h.room
  have hlen : validateIP m len = 0 := by
    rw [validateIP, if_neg]
    rw [icmpOffset, hl] at hroom
    rw [sizeofIpHdr]
    omega
  have hsum : 65535 ∣ wordSum sizeofIpHdr (shift m 14) := by
    have hheader := (headerSum_eq_ones_iff h.hl).mp h.header
    rw [hl] at hheader
    exact hheader
  have hpasses : Accepted m len ↔ (validateChecksum m len).1 = some 0 := and_iff_right hlen
  rw [hpasses, validateChecksum_passes_iff h.ip h.hl]
  constructor
  · rintro ⟨hne,hne',-⟩
    exact ⟨hne,hne'⟩
  · rintro ⟨hne,hne'⟩
    exact ⟨hne,hne',hsum⟩

/-- The reply is as it should be for a request that came to the right address, by the right
interface, and with bytes behind its checksum that do not count. -/
theorem EchoRequest.reply_iff (h : EchoRequest s m len) (env : Env) (t : SrInstance) (origin : ℕ) :
    IsEchoReply m len (echoReplyCall env t ⟨m,origin⟩ i interface len) ↔
      ipHl m = 5 ∧ etherDhost m = i.addr ∧ ipDst m = i.ip ∧
        (onesSum (len-38) (shift m 38) = 0 ∨ onesSum (len-38) (shift m 38) = 0xffff) := by
  have hroom := h.room
  have hshost := echoReplyFrame_shost m i
  have hsrc : ipSrc (echoReplyFrame m i) = i.ip := by
    simp (disch := omega) only [ipSrc, echoReplyFrame, get32_put16_outside, get32_put8_outside,
      get32_put32]
  have hdst : ipDst (echoReplyFrame m i) = ipSrc m := by
    simp (disch := omega) only [ipDst, ipSrc, echoReplyFrame, get32_put16_outside,
      get32_put8_outside, get32_put32_outside, get32_putSix_outside, get32_put32]
  have hipHl : ipHl (echoReplyFrame m i) = ipHl m := by
    rw [ipHl, echoReplyFrame_same m i (by omega) (by omega) (by omega)]
    rfl
  have hoff : icmpOffset (echoReplyFrame m i) = icmpOffset m := by rw [icmpOffset, hipHl]; rfl
  have hsum (hl : ipHl m = 5) : icmpSum (echoReplyFrame m i) len = 0xffff ↔
      onesSum (len-38) (shift m 38) = 0 ∨ onesSum (len-38) (shift m 38) = 0xffff := by
    have h34 : icmpOffset m = 34 := by rw [icmpOffset, hl]; rfl
    rw [h34] at hroom
    rw [icmpSum, hoff, h34, show len-34 = 4+(len-38) by omega]
    exact echoReplyFrame_message m i (len-38)
  constructor
  · intro hr
    have hl : ipHl m = 5 := by
      -- with options, the type in the message itself stays what it was
      by_contra hne
      have hge := h.hl
      have hlong : 38 ≤ icmpOffset m := by
        rw [icmpOffset, sizeofEthernetHdr]
        omega
      have htype : echoReplyFrame m i (icmpOffset m) = 8 := by
        rw [echoReplyFrame_same m i (by omega) (by omega) (by omega)]
        exact h.type
      exact absurd (hr.type.symm.trans htype) (by decide)
    exact ⟨hl, hr.shost.symm.trans hshost, hr.src.symm.trans hsrc, (hsum hl).mp hr.message⟩
  · rintro ⟨hl,haddr,hip,hmessage⟩
    have h34 : icmpOffset m = 34 := by rw [icmpOffset, hl]; rfl
    refine ⟨rfl, echoReplyFrame_dhost m i, hshost.trans haddr.symm, hdst, hsrc.trans hip.symm, ?_,
      ?_, ?_, (hsum hl).mpr hmessage⟩
    · rw [h34]
      exact echoReplyFrame_type m i
    · intro k _ h12 h24 hne hne2 hne3
      rw [h34] at hne hne2 hne3
      exact echoReplyFrame_same m i h12 (by omega) (by omega)
    · have hheader := echoReplyFrame_header m i
      rw [headerSum]
      dsimp only [echoReplyCall]
      rw [hipHl, hl]
      exact hheader

end Request

/-- Exactly when a well-formed echo request is answered as it should be: it has no options and a
checksum field that is neither of the two zeros, it was sent to the addresses of the interface it
came in by, and what follows the first four bytes of its ICMP message sums up to zero. -/
theorem echoReply_correct_iff {env : Env} {s : SrInstance} {frame : List UInt8} {slack : Mem}
    {interface : CName} {i : SrIf} (hi : srGetInterface s.ifList interface = some i)
    (h : EchoRequest s (load frame slack) frame.length) (fuel : ℕ) :
    (∃ c, (after env fuel (.receive frame slack interface) s).log.sends = c :: s.log.sends ∧
        c.emitter = .echoReply ∧ c.iface = interface ∧
        IsEchoReply (load frame slack) frame.length c) ↔
      ipHl (load frame slack) = 5 ∧ ipSum (load frame slack) ≠ 0 ∧
        ipSum (load frame slack) ≠ 0xffff ∧ etherDhost (load frame slack) = i.addr ∧
        ipDst (load frame slack) = i.ip ∧
        (onesSum (frame.length-38) (shift (load frame slack) 38) = 0 ∨
          onesSum (frame.length-38) (shift (load frame slack) 38) = 0xffff) := by
  have h' : EchoRequest s.addArrival (load frame slack) frame.length :=
    ⟨h.ip, h.hl, h.length, h.room, h.proto, h.type, h.header, h.message, h.here⟩
  -- an accepted frame is answered in place, whether the answer is right or not
  by_cases ha : Accepted (load frame slack) frame.length
  · have hafter : (after env fuel (.receive frame slack interface) s).log.sends =
        echoReplyCall env s.addArrival ⟨load frame slack, s.log.arrivals⟩ i interface
          frame.length :: s.log.sends := by
      rw [after, receive_ip h.ip, h'.echoed ha hi]
      rfl
    have hreply := @EchoRequest.reply_iff s (load frame slack) frame.length interface i h env
      s.addArrival s.log.arrivals
    constructor
    · rintro ⟨c,hc,-,-,hr⟩
      rw [hafter] at hc
      obtain rfl := (List.cons.inj hc).1
      obtain ⟨hl,hrest⟩ := hreply.mp hr
      obtain ⟨hne,hne'⟩ := (h.accepted_iff hl).mp ha
      exact ⟨hl, hne, hne', hrest⟩
    · rintro ⟨hl,-,-,hrest⟩
      exact ⟨_, hafter, rfl, rfl, hreply.mpr ⟨hl,hrest⟩⟩
  · have hafter : (after env fuel (.receive frame slack interface) s).log.sends = s.log.sends := by
      rw [after, receive_ip h.ip,
        @ipPacket_of_rejected ⟨load frame slack, s.log.arrivals⟩ frame.length h.ip ha]
      rfl
    constructor
    · rintro ⟨c,hc,-⟩
      rw [hafter] at hc
      simp at hc
    -- with a header of 20 bytes, what is rejected has one of the zeros in its checksum field
    · rintro ⟨hl,hne,hne',-⟩
      exact absurd ((h.accepted_iff hl).mpr ⟨hne,hne'⟩) ha

/-- The first host pings the router's address on its own link, without a payload. -/
def bareEcho : List UInt8 :=
  [10, 10, 10, 10, 10, 10, 2, 0, 0, 0, 0, 2, 8, 0, 0x45, 0, 0, 28, 0, 1, 0, 0, 64, 1, 0x66, 0xde,
    10, 0, 0, 2, 10, 0, 0, 1, 8, 0, 0xf7, 0xfd, 0, 1, 0, 1]

theorem bareEcho_request :
    EchoRequest smallRouter (load bareEcho fun _ => 0) bareEcho.length where
  ip := by decide
  hl := by decide
  length := by decide
  room := by decide
  proto := by decide
  type := by decide
  header := by decide +kernel
  message := by decide +kernel
  here := by decide +kernel

theorem echoReply_correct_iff_bareEcho :
    (∃ c, (after obligingHost 1 (.receive bareEcho (fun _ => 0) eth0) smallRouter).log.sends =
        c :: smallRouter.log.sends ∧ c.emitter = .echoReply ∧ c.iface = eth0 ∧
        IsEchoReply (load bareEcho fun _ => 0) bareEcho.length c) ↔
      ipHl (load bareEcho fun _ => 0) = 5 ∧ ipSum (load bareEcho fun _ => 0) ≠ 0 ∧
        ipSum (load bareEcho fun _ => 0) ≠ 0xffff ∧
        (etherDhost (load bareEcho fun _ => 0) = fun _ => 10) ∧
        ipDst (load bareEcho fun _ => 0) = address 10 0 0 1 ∧
        (onesSum (bareEcho.length-38) (shift (load bareEcho fun _ => 0) 38) = 0 ∨
          onesSum (bareEcho.length-38) (shift (load bareEcho fun _ => 0) 38) = 0xffff) :=
  @echoReply_correct_iff obligingHost smallRouter bareEcho (fun _ => 0) eth0
    ⟨eth0, fun _ => 10, address 10 0 0 1⟩ rfl bareEcho_request 1

/-- Its identifier and sequence number are not in the checksum of the reply. -/
theorem bareEcho_misanswered :
    EchoRequest smallRouter (load bareEcho fun _ => 0) bareEcho.length ∧
    ¬∃ c, (after obligingHost 1 (.receive bareEcho (fun _ => 0) eth0) smallRouter).log.sends =
        c :: smallRouter.log.sends ∧ c.emitter = .echoReply ∧ c.iface = eth0 ∧
        IsEchoReply (load bareEcho fun _ => 0) bareEcho.length c := by
  refine ⟨bareEcho_request,?_⟩
  rintro ⟨c,hc,-,-,hr⟩
  have hwrong : ∀ c ∈ (after obligingHost 1 (.receive bareEcho (fun _ => 0) eth0)
      smallRouter).log.sends, icmpSum c.buf bareEcho.length ≠ 0xffff := by decide +kernel
  rw [hc] at hwrong
  exact hwrong c List.mem_cons_self hr.message

end InternetCourse.Router
