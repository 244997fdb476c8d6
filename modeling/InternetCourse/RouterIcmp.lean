import InternetCourse.RouterState

/-! The ICMP messages of sr_icmp.c. -/
namespace InternetCourse.Router

open ByteMem

/-- The reply `Echo_Reply` makes of the request, in place. -/
def echoReplyFrame (packet : Mem) (i : SrIf) : Mem :=
  let targetaddr := etherShost packet
  let m := putSix packet 6 i.addr
  let m := putSix m 0 targetaddr
  let m := put32 m 30 (ipSrc m)
  let m := put32 m 26 i.ip
  -- whatever the type was
  let m := put8 m 34 0
  let m := put16 m 24 0
  let m := put16 m 24 (cksum (shift m 14) sizeofIpHdr)
  -- summed over the 4 bytes of `struct sr_icmp_hdr` only
  let m := put16 m 36 0
  put16 m 36 (cksum (shift m 34) sizeofIcmpHdr)

def echoReply (env : Env) (packet : Buf) (interface : CName) (len : ℕ) : RouterM Unit := do
  let s ← get
  let i ← deref (srGetInterface s.ifList interface)
  let _ ← srSendPacket env .echoReply (some packet.origin) (echoReplyFrame packet.mem i) len interface

/-- Size of the buffer the three error handlers allocate and fill. -/
def sizeofIcmpError : ℕ := sizeofEthernetHdr+sizeofIpHdr+sizeofIcmpT3Hdr

/-- What an error handler writes into `buff` about `packet`: bytes 40 and 41, the
`next_mtu` field, are not among it. -/
def icmpErrorFrame (type code : UInt8) (ttl : UInt8 → UInt8) (buff packet : Mem) (i : SrIf) : Mem :=
  let m := putSix buff 6 i.addr
  let m := putSix m 0 (etherShost packet)
  let m := put16 m 12 (etherType packet)
  let m := put32 m 30 (ipSrc packet)
  let m := put32 m 26 i.ip
  let m := put8 m 14 0x45
  -- `ip_hl` and `ip_v` share byte 14; `ip_tos` is written twice
  let m := put8 m 15 0
  let m := put8 m 15 (ipTos packet)
  let m := put16 m 16 (htons (UInt16.ofNat (sizeofIpHdr+sizeofIcmpT3Hdr)))
  let m := put16 m 18 (ipId packet)
  let m := put16 m 20 (ipOff packet)
  -- each handler has its own way with the time to live
  let m := put8 m 22 (ttl (ipTtl packet))
  let m := put8 m 23 1
  let m := put8 m 34 type
  let m := put8 m 35 code
  let m := put16 m 38 0
  -- the header and the first 8 bytes of the packet, also where it is shorter
  let m := memcpy m 42 (shift packet 14) ICMP_DATA_SIZE
  let m := put16 m 24 0
  let m := put16 m 24 (cksum (shift m 14) sizeofIpHdr)
  let m := put16 m 36 0
  put16 m 36 (cksum (shift m 34) sizeofIcmpT3Hdr)

/-- The common body of the three error handlers. The length handed to
`sr_send_packet` is that of the offending packet. -/
def icmpError (env : Env) (emitter : Emitter) (type code : UInt8) (ttl : UInt8 → UInt8)
    (packet : Buf) (interface : CName) (len : ℕ) : RouterM Unit := do
  let buff ← malloc env
  let s ← get
  let i ← deref (srGetInterface s.ifList interface)
  let _ ← srSendPacket env emitter (some packet.origin)
    (icmpErrorFrame type code ttl buff packet.mem i) len interface

def timeExceeded (env : Env) (packet : Buf) (interface : CName) (len : ℕ) : RouterM Unit :=
  icmpError env .timeExceeded 11 0 (fun ttl => ttl-1) packet interface len

def destHostUnreach (env : Env) (packet : Buf) (interface : CName) (len : ℕ) : RouterM Unit :=
  icmpError env .destHostUnreach 3 1 (fun ttl => ttl) packet interface len

def portUnreach (env : Env) (packet : Buf) (interface : CName) (len : ℕ) : RouterM Unit :=
  icmpError env .portUnreach 3 3 (fun ttl => ttl) packet interface len

end InternetCourse.Router
