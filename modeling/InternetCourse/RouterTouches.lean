import InternetCourse.RouterRun
import InternetCourse.TracedState

/-! The functions that handle a frame, with the accesses they make to it. Each is the function
of the same name without the `T`, in the order of the source, with its reads and writes of the
packet put in. -/
namespace InternetCourse.Router

open ByteMem StateTriple TracedState

/-- A number of bytes from an offset on, read or written. -/
structure Span where
  off : ℕ
  size : ℕ
  write : Bool
  deriving DecidableEq

def rd (off size : ℕ) : Span := ⟨off, size, false⟩

def wr (off size : ℕ) : Span := ⟨off, size, true⟩

/-- An access to a buffer that holds the `origin`-th received frame or a copy of it. -/
structure Touch where
  origin : ℕ
  span : Span
  deriving DecidableEq

/-- The host, and whether packets are logged to a file. -/
structure Platform extends Env where
  logfile : Bool

abbrev TouchM := TracedState.Traced Fault SrInstance Touch

def touch (packet : Buf) (spans : List Span) : TouchM Unit :=
  note (spans.map fun x => ⟨packet.origin, x⟩)

def printHdrEth (packet : Buf) : TouchM Unit := touch packet [rd 0 6, rd 6 6, rd 12 2]

def printHdrIp (packet : Buf) : TouchM Unit :=
  touch packet [rd 14 1, rd 15 1, rd 16 2, rd 18 2, rd 20 2, rd 22 1, rd 23 1, rd 24 2, rd 26 4,
    rd 30 4]

def printHdrIcmp (packet : Buf) : TouchM Unit := touch packet [rd 34 1, rd 35 1, rd 36 2]

def printHdrArp (packet : Buf) : TouchM Unit :=
  touch packet [rd 14 2, rd 16 2, rd 18 1, rd 19 1, rd 20 2, rd 22 6, rd 28 4, rd 32 6, rd 38 4]

def printHdrs (packet : Buf) (len : ℕ) : TouchM Unit := do
  let minlength := sizeofEthernetHdr
  if len < minlength then pure ()
  else
    -- each header is printed only where the length leaves room for it
    touch packet [rd 12 2]
    printHdrEth packet
    if ethertype packet.mem = ethertypeIp then
      let minlength := minlength+sizeofIpHdr
      if len < minlength then pure ()
      else
        printHdrIp packet
        touch packet [rd 23 1]
        if ipP packet.mem = 1 then
          let minlength := minlength+sizeofIcmpHdr
          if len < minlength then pure () else printHdrIcmp packet
        else pure ()
    else if ethertype packet.mem = ethertypeArp then
      let minlength := minlength+sizeofArpHdr
      if len < minlength then pure () else printHdrArp packet
    else pure ()

def PACKET_DUMP_SIZE : ℕ := 1024

/-- `sr_log_packet` -/
def srLogPacketT (host : Platform) (packet : Buf) (len : ℕ) : TouchM Unit :=
  if host.logfile then touch packet [rd 0 (min PACKET_DUMP_SIZE len)] else pure ()

/-- `sr_send_packet` reads the frame into the message to the server and into the log, and
compares its source address. -/
def touchSent (host : Platform) (packet : Buf) (len : ℕ) (iface : CName) : TouchM Unit := do
  if len < sizeofEthernetHdr then pure ()
  else
    touch packet [rd 0 len]
    srLogPacketT host packet len
    let s ← lift get
    -- the source address is compared only if the interface is listed
    if (srGetInterface s.ifList iface).isSome then touch packet [rd 6 6] else pure ()

/-- `sr_send_packet` of a buffer that holds a received frame. -/
def srSendPacketT (host : Platform) (emitter : Emitter) (packet : Buf) (len : ℕ) (iface : CName) :
    TouchM ℤ := do
  touchSent host packet len iface
  lift (srSendPacket host.toEnv emitter (some packet.origin) packet.mem len iface)

def echoReplyT (host : Platform) (packet : Buf) (interface : CName) (len : ℕ) : TouchM Unit := do
  let s ← lift get
  touch packet [rd 6 6]
  let i ← lift (deref (srGetInterface s.ifList interface))
  -- the Ethernet and IP addresses, `icmp_type`, and the two checksums
  touch packet [wr 6 6, wr 0 6, rd 26 4, wr 30 4, wr 26 4, wr 34 1, wr 24 2,
    rd 14 sizeofIpHdr, wr 24 2, wr 36 2, rd 34 sizeofIcmpHdr, wr 36 2]
  let packet := { packet with mem := echoReplyFrame packet.mem i }
  printHdrs packet len
  let _ ← srSendPacketT host .echoReply packet len interface

/-- The common body of the error handlers. What is printed and sent is a buffer of its own. -/
def icmpErrorT (host : Platform) (emitter : Emitter) (type code : UInt8) (ttl : UInt8 → UInt8)
    (packet : Buf) (interface : CName) (len : ℕ) : TouchM Unit := do
  let buff ← lift (malloc host.toEnv)
  let s ← lift get
  touch packet [rd 6 6]
  let i ← lift (deref (srGetInterface s.ifList interface))
  touch packet [rd 12 2, rd 26 4, rd 15 1, rd 18 2, rd 20 2, rd 22 1, rd 14 ICMP_DATA_SIZE]
  let _ ← lift (srSendPacket host.toEnv emitter (some packet.origin)
    (icmpErrorFrame type code ttl buff packet.mem i) len interface)

def timeExceededT (host : Platform) (packet : Buf) (interface : CName) (len : ℕ) : TouchM Unit :=
  icmpErrorT host .timeExceeded 11 0 (fun ttl => ttl-1) packet interface len

def destHostUnreachT (host : Platform) (packet : Buf) (interface : CName) (len : ℕ) : TouchM Unit :=
  icmpErrorT host .destHostUnreach 3 1 (fun ttl => ttl) packet interface len

def portUnreachT (host : Platform) (packet : Buf) (interface : CName) (len : ℕ) : TouchM Unit :=
  icmpErrorT host .portUnreach 3 3 (fun ttl => ttl) packet interface len

def giveUpLoopT (host : Platform) (fuel : ℕ) (req : ℕ) (packets : List SrPacket) : TouchM Unit :=
  loop .outOfFuel (fun packets => do
    match packets with
    | p :: _ :: _ =>
      let r ← lift (readReq req .ip)
      let destRt ← lift (longestPrefixSumAt host.toEnv r.ip)
      let destRt ← lift (deref destRt)
      destHostUnreachT host p.buf destRt.interface p.len
      pure (.inl packets)
    | _ => pure (.inr ())) fuel packets

def handleArpreqT (host : Platform) (fuel : ℕ) (req : ℕ) (destRt : Option SrRt) : TouchM Unit := do
  let now ← lift (time host.toEnv)
  lift (modify fun s => s.addArp (.handle req now))
  let r ← lift (readReq req .sent)
  if 1 < now-r.sent then
    let r ← lift (readReq req .timesSent)
    if 5 ≤ r.timesSent then
      lift (modify fun s => s.addArp (.giveUp req now))
      let r ← lift (readReq req .packets)
      if r.packets ≠ [] then
        giveUpLoopT host fuel req r.packets
      lift (srArpreqDestroy r)
    else
      lift (modify fun s => s.addArp (.requestSend req now))
      let _success ← lift (arpRequestSend host.toEnv req destRt)
    lift (writeReq req .sent fun r => { r with sent := now })
    lift (writeReq req .timesSent fun r => { r with timesSent := r.timesSent+1 })

def packetToOtherDestT (host : Platform) (fuel : ℕ) (packet : Buf) (interface : CName) (len : ℕ) :
    TouchM (Option ℤ) := do
  touch packet [rd 22 1]
  if ipTtl packet.mem ≤ 1 then
    timeExceededT host packet interface len
    pure none
  else
    let s ← lift get
    touch packet [rd 30 4]
    match longestPrefixSum s.routingTable (ipDst packet.mem) with
    | none =>
      destHostUnreachT host packet interface len
      pure none
    | some destRt =>
      touch packet [rd 30 4]
      match srArpcacheLookup s.cache.entries (ipDst packet.mem) with
      | some arpRequestField =>
        let getInterface ← lift (deref (srGetInterface s.ifList destRt.interface))
        -- both addresses are printed when they have been written
        touch packet [wr 6 6, rd 6 6, wr 0 6, rd 0 6, rd 22 1, wr 22 1, wr 24 2,
          rd 14 sizeofIpHdr, wr 24 2]
        let packet :=
          { packet with mem := forwardFrame packet.mem getInterface.addr arpRequestField.mac }
        printHdrs packet len
        let success ← srSendPacketT host .packetToOtherDest packet len getInterface.name
        pure (some success)
      | none =>
        touch packet (if len ≠ 0 then [rd 30 4, rd 0 len] else [rd 30 4])
        let req ← lift (srArpcacheQueuereq host.toEnv (ipDst packet.mem) packet len interface)
        handleArpreqT host fuel req (some destRt)
        pure (some 0)

/-- The accesses of `validate_checksum`. -/
def validateChecksumT (packet : Buf) : TouchM Unit := do
  touch packet [rd 12 2]
  if ethertype packet.mem = ethertypeArp then pure ()
  else if ethertype packet.mem = ethertypeIp then
    touch packet [rd 24 2, wr 24 2, rd 14 sizeofIpHdr]
    if cksum (shift (put16 packet.mem 24 0) 14) sizeofIpHdr ≠ get16 packet.mem 24 then pure ()
    else touch packet [wr 24 2]
  else pure ()

def ipPacketT (host : Platform) (fuel : ℕ) (packet : Buf) (interface : CName) (len : ℕ) :
    TouchM Unit := do
  if validateIP packet.mem len ≠ 0 then pure ()
  else
    validateChecksumT packet
    let mem := (validateChecksum packet.mem len).2
    match (validateChecksum packet.mem len).1 with
    | none => lift (throw .indeterminate)
    | some wrong =>
      if wrong ≠ 0 then pure ()
      else
        let s ← lift get
        -- `ip_dst` is compared with the address of each interface in turn
        if s.ifList ≠ [] then touch packet [rd 30 4]
        match ipPacketRouterCheck s.ifList mem with
        | some _ =>
          let packet := { packet with mem := mem }
          printHdrs packet len
          touch packet [rd 23 1]
          if ipP mem = 1 then echoReplyT host packet interface len
          else if ipP mem = 17 ∨ ipP mem = 6 then portUnreachT host packet interface len
          else pure ()
        | none =>
          printHdrs { packet with mem := mem } len
          validateChecksumT { packet with mem := mem }
          let mem := (validateChecksum mem len).2
          let _ ← packetToOtherDestT host fuel { packet with mem := mem } interface len

/-- `arp_packet` prints the first packet of an answered request before the loop. -/
def printFirst : List SrPacket → TouchM Unit
  | [] => pure ()
  | p :: _ => printHdrs p.buf p.len

def flushPacketsT (host : Platform) (fuel : ℕ) (interface : CName) : List SrPacket → TouchM Unit
  | [] => pure ()
  | p :: rest => do
    let _ ← packetToOtherDestT host fuel p.buf interface p.len
    flushPacketsT host fuel interface rest

def arpPacketT (host : Platform) (fuel : ℕ) (buf : Buf) (interface : CName) (len : ℕ) :
    TouchM Unit := do
  let s ← lift get
  -- `ar_op` is printed; the comparison takes its operands from left to right
  touch buf [rd 20 2, rd 38 4]
  let getInterface ← lift (deref (srGetInterface s.ifList interface))
  if arTip buf.mem = getInterface.ip then
    touch buf [rd 20 2]
    if ntohs (arOp buf.mem) = 1 then
      printHdrs buf len
      -- the reply is made in place
      touch buf [wr 20 2, rd 28 4, rd 22 6, wr 28 4, wr 38 4, wr 22 6, wr 32 6, wr 0 6, wr 6 6]
      let _success ← srSendPacketT host .arpPacket
        { buf with mem := arpReplyFrame buf.mem getInterface } len interface
    else
      touch buf [rd 20 2]
      if ntohs (arOp buf.mem) = 2 then
        printHdrArp buf
        -- the MAC address is copied only into a free slot
        touch buf (if (freeSlot s.cache.entries).isSome then [rd 28 4, rd 22 6] else [rd 28 4])
        match ← lift (srArpcacheInsert host.toEnv (arSha buf.mem) (arSip buf.mem)) with
        | none => pure ()
        | some request =>
          printFirst request.packets
          flushPacketsT host fuel interface request.packets
          lift (srArpreqDestroy request)
      else pure ()
  else pure ()

def srHandlepacketT (host : Platform) (fuel : ℕ) (packet : Buf) (len : ℕ) (interface : CName) :
    TouchM Unit := do
  touch packet [rd 12 2]
  if ethertype packet.mem = ethertypeArp then arpPacketT host fuel packet interface len
  else if ethertype packet.mem = ethertypeIp then ipPacketT host fuel packet interface len
  else pure ()

/-- A frame comes in. -/
def receiveT (host : Platform) (fuel : ℕ) (frame : List UInt8) (slack : Mem) (interface : CName) :
    TouchM Unit := do
  let packet ← lift (arrive frame slack)
  srHandlepacketT host fuel packet frame.length interface

section Erasure

variable (host : Platform) (fuel : ℕ) (packet : Buf) (interface : CName) (len : ℕ)

@[simp] theorem pure_bind_unit {α : Type} (x : Unit → RouterM α) :
    ((pure () : RouterM Unit) >>= x) = x () := rfl

@[simp] theorem erase_touch (spans : List Span) : erase (touch packet spans) = pure () := rfl

@[simp] theorem erase_printHdrs : erase (printHdrs packet len) = pure () := by
  simp only [printHdrs, printHdrEth, printHdrIp, printHdrIcmp, printHdrArp, erase_bind, erase_touch,
    erase_ite, erase_pure, pure_bind_unit, ite_self]

@[simp] theorem erase_touchSent : erase (touchSent host packet len interface) = pure () := by
  simp only [touchSent, srLogPacketT, erase_bind, erase_touch, erase_ite, erase_pure, erase_lift,
    pure_bind_unit, ite_self]
  split <;> rfl

@[simp] theorem erase_srSendPacketT (emitter : Emitter) :
    erase (srSendPacketT host emitter packet len interface) =
      srSendPacket host.toEnv emitter (some packet.origin) packet.mem len interface := by
  simp only [srSendPacketT, erase_bind, erase_touchSent, erase_lift, pure_bind_unit]

@[simp] theorem erase_echoReplyT :
    erase (echoReplyT host packet interface len) = echoReply host.toEnv packet interface len := by
  simp only [echoReplyT, echoReply, erase_bind, erase_lift, erase_touch, erase_printHdrs,
    erase_srSendPacketT, erase_pure, pure_bind_unit]

@[simp] theorem erase_icmpErrorT (emitter : Emitter) (type code : UInt8) (ttl : UInt8 → UInt8) :
    erase (icmpErrorT host emitter type code ttl packet interface len) =
      icmpError host.toEnv emitter type code ttl packet interface len := by
  simp only [icmpErrorT, icmpError, erase_bind, erase_lift, erase_touch, erase_pure, pure_bind_unit]

@[simp] theorem erase_giveUpLoopT (req : ℕ) (packets : List SrPacket) :
    erase (giveUpLoopT host fuel req packets) = giveUpLoop host.toEnv fuel req packets := by
  rw [giveUpLoopT, giveUpLoop, erase_loop]
  congr 1
  funext packets
  match packets with
  | [] | [p] => rfl
  | p :: p' :: rest =>
    simp only [destHostUnreachT, destHostUnreach, erase_bind, erase_lift, erase_icmpErrorT,
      erase_pure]

@[simp] theorem erase_handleArpreqT (req : ℕ) (destRt : Option SrRt) :
    erase (handleArpreqT host fuel req destRt) = handleArpreq host.toEnv fuel req destRt := by
  simp only [handleArpreqT, handleArpreq, erase_bind, erase_lift, erase_ite, erase_pure,
    erase_giveUpLoopT]

@[simp] theorem erase_packetToOtherDestT :
    erase (packetToOtherDestT host fuel packet interface len) =
      packetToOtherDest host.toEnv fuel packet interface len := by
  simp only [packetToOtherDestT, packetToOtherDest, timeExceededT, timeExceeded, erase_bind,
    erase_lift, erase_ite, erase_pure, erase_touch, erase_icmpErrorT, pure_bind_unit]
  congr 1
  funext s
  rw [bind_apply, bind_apply, get_apply]
  dsimp only
  cases longestPrefixSum s.routingTable (ipDst packet.mem) with
  | none =>
    simp only [destHostUnreachT, destHostUnreach, erase_bind, erase_icmpErrorT, erase_pure]
  | some rt =>
    simp only [erase_bind, erase_touch, pure_bind_unit]
    cases srArpcacheLookup s.cache.entries (ipDst packet.mem) with
    | none =>
      simp only [erase_bind, erase_touch, erase_lift, erase_handleArpreqT, erase_pure,
        pure_bind_unit]
    | some e =>
      simp only [erase_bind, erase_touch, erase_lift, erase_printHdrs, erase_srSendPacketT,
        erase_pure, pure_bind_unit]

@[simp] theorem erase_validateChecksumT : erase (validateChecksumT packet) = pure () := by
  simp only [validateChecksumT, erase_bind, erase_touch, erase_ite, erase_pure, pure_bind_unit,
    ite_self]

@[simp] theorem erase_ipPacketT :
    erase (ipPacketT host fuel packet interface len) =
      ipPacket host.toEnv fuel packet interface len := by
  simp only [ipPacketT, ipPacket, erase_ite, erase_pure, erase_bind, erase_validateChecksumT,
    pure_bind_unit]
  congr 1
  cases (validateChecksum packet.mem len).1 with
  | none => rfl
  | some wrong =>
    simp only [erase_ite, erase_pure, erase_bind, erase_lift, erase_touch, ite_self, pure_bind_unit]
    congr 1
    funext s
    rw [bind_apply, bind_apply, get_apply]
    dsimp only
    cases ipPacketRouterCheck s.ifList (validateChecksum packet.mem len).2 with
    | none =>
      simp only [erase_bind, erase_printHdrs, erase_validateChecksumT, erase_packetToOtherDestT,
        erase_pure, pure_bind_unit]
    | some w =>
      simp only [portUnreachT, portUnreach, erase_bind, erase_printHdrs, erase_touch, erase_ite,
        erase_echoReplyT, erase_icmpErrorT, erase_pure, pure_bind_unit]

@[simp] theorem erase_flushPacketsT (packets : List SrPacket) :
    erase (flushPacketsT host fuel interface packets) =
      flushPackets host.toEnv fuel interface packets := by
  induction packets with
  | nil => rfl
  | cons p rest ih =>
    simp only [flushPacketsT, flushPackets, erase_bind, erase_packetToOtherDestT, ih]

@[simp] theorem erase_printFirst (packets : List SrPacket) :
    erase (printFirst packets) = pure () := by
  cases packets with
  | nil => rfl
  | cons p rest => exact erase_printHdrs p.buf p.len

@[simp] theorem erase_arpPacketT :
    erase (arpPacketT host fuel packet interface len) =
      arpPacket host.toEnv fuel packet interface len := by
  simp only [arpPacketT, arpPacket, erase_bind, erase_lift, erase_touch, erase_ite, erase_pure,
    erase_printHdrs, erase_srSendPacketT, pure_bind_unit, printHdrArp]
  congr 1
  funext s
  congr 1
  funext i
  congr 2
  congr 2
  funext r
  cases r with
  | none => rfl
  | some request =>
    simp only [erase_bind, erase_printFirst, erase_flushPacketsT, erase_lift, pure_bind_unit]

/-- Without its accesses, `srHandlepacketT` is `sr_handlepacket`. -/
@[simp] theorem erase_srHandlepacketT :
    erase (srHandlepacketT host fuel packet len interface) =
      srHandlepacket host.toEnv fuel packet len interface := by
  simp only [srHandlepacketT, srHandlepacket, erase_bind, erase_touch, erase_ite, erase_pure,
    erase_arpPacketT, erase_ipPacketT, pure_bind_unit]

theorem erase_receiveT (frame : List UInt8) (slack : Mem) :
    erase (receiveT host fuel frame slack interface) =
      handle host.toEnv fuel (.receive frame slack interface) := by
  simp only [receiveT, handle, erase_bind, erase_lift, erase_srHandlepacketT]

end Erasure

end InternetCourse.Router
