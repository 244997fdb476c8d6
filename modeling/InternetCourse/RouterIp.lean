import InternetCourse.RouterArpreq

/-! Forwarding and local delivery: sr_ip.c. -/
namespace InternetCourse.Router

open ByteMem

def ipPacketRouterCheck (ifList : List SrIf) (packet : Mem) : Option SrIf :=
  ifList.find? fun ifWalker => ifWalker.ip == ipDst packet

/-- The rewriting of a transit packet whose next hop is known. -/
def forwardFrame (packet : Mem) (shost dhost : Six) : Mem :=
  let m := putSix packet 6 shost
  let m := putSix m 0 dhost
  let m := put8 m 22 (ipTtl m-1)
  let m := put16 m 24 0
  put16 m 24 (cksum (shift m 14) sizeofIpHdr)

/-- `none` is the value of a `return` without one. -/
def packetToOtherDest (env : Env) (fuel : ℕ) (packet : Buf) (interface : CName) (len : ℕ) :
    RouterM (Option ℤ) := do
  if ipTtl packet.mem ≤ 1 then
    timeExceeded env packet interface len
    pure none
  else
    let s ← get
    match longestPrefixSum s.routingTable (ipDst packet.mem) with
    | none =>
      destHostUnreach env packet interface len
      pure none
    | some destRt =>
      match srArpcacheLookup s.cache.entries (ipDst packet.mem) with
      -- `destRt.gw` is not looked at: the next hop is taken to be the destination
      | some arpRequestField =>
        let getInterface ← deref (srGetInterface s.ifList destRt.interface)
        let success ← srSendPacket env .packetToOtherDest (some packet.origin)
          (forwardFrame packet.mem getInterface.addr arpRequestField.mac) len getInterface.name
        pure (some success)
      | none =>
        -- the packet waits as it came in: nothing has been rewritten yet
        let req ← srArpcacheQueuereq env (ipDst packet.mem) packet len interface
        handleArpreq env fuel req (some destRt)
        pure (some 0)

def ipPacket (env : Env) (fuel : ℕ) (packet : Buf) (interface : CName) (len : ℕ) :
    RouterM Unit := do
  if validateIP packet.mem len ≠ 0 then pure ()
  else
    let mem := (validateChecksum packet.mem len).2
    match (validateChecksum packet.mem len).1 with
    | none => throw .indeterminate
    | some wrong =>
      if wrong ≠ 0 then pure ()
      else
        let s ← get
        match ipPacketRouterCheck s.ifList mem with
        | some _ =>
          -- the ICMP type is not looked at
          if ipP mem = 1 then echoReply env { packet with mem := mem } interface len
          else if ipP mem = 17 ∨ ipP mem = 6 then
            portUnreach env { packet with mem := mem } interface len
          else pure ()
        | none =>
          -- checked a second time, the outcome is not looked at
          let mem := (validateChecksum mem len).2
          let _ ← packetToOtherDest env fuel { packet with mem := mem } interface len

end InternetCourse.Router
