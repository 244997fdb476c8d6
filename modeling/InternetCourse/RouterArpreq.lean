import InternetCourse.RouterArpcache
import InternetCourse.RouterIcmp

/-! ARP requests: `handle_arpreq` and `arp_request_send` of sr_arp.c, and the sweep
of the request queue in sr_arpcache.c. -/
namespace InternetCourse.Router

open ByteMem StateTriple

/-- Destinations are compared whole; `mask` and `gw` play no part. -/
def longestPrefixSum (routingTable : List SrRt) (ipDst : UInt32) : Option SrRt :=
  routingTable.find? fun current => ipDst == current.dest

/-- `longest_prefix_sum(sr, req->ip)`: the number is used as the address of a header, and
`ip_dst` is read there before the table is looked at. -/
def longestPrefixSumAt (env : Env) (ip : UInt32) : RouterM (Option SrRt) := do
  match env.ipDstAt ip with
  | none => throw .wildPointer
  | some ipDst =>
    let s ← get
    pure (longestPrefixSum s.routingTable ipDst)

/-- The route found for what is read at the number `ip`, where both are there. -/
def routeAt (env : Env) (routingTable : List SrRt) (ip : UInt32) : Option SrRt :=
  (env.ipDstAt ip).bind (longestPrefixSum routingTable)

/-- Where the number of an address is used as the address of a header, nothing but that
address is read there. -/
def Env.ReadsAddress (env : Env) : Prop :=
  ∀ ip ipDst, env.ipDstAt ip = some ipDst → ipDst = ip

/-- The Ethernet header of the broadcast. -/
def arpRequestEhdr (ehdr : Mem) (i : SrIf) : Mem :=
  let ehdr := putSix ehdr 0 (fun _ => 255)
  let ehdr := putSix ehdr 6 i.addr
  put16 ehdr 12 (htons 2054)

/-- The ARP header of the broadcast. -/
def arpRequestArpHdr (arpHdr : Mem) (i : SrIf) (ip : UInt32) : Mem :=
  let arpHdr := put16 arpHdr 0 (htons 1)
  let arpHdr := put16 arpHdr 2 (htons 2048)
  let arpHdr := putSix arpHdr 18 (fun _ => 255)
  let arpHdr := putSix arpHdr 8 i.addr
  let arpHdr := put8 arpHdr 4 6
  let arpHdr := put8 arpHdr 5 4
  let arpHdr := put16 arpHdr 6 (htons 1)
  let arpHdr := put32 arpHdr 14 i.ip
  put32 arpHdr 24 ip

/-- The broadcast `arp_request_send` assembles from three allocations. -/
def arpRequestFrame (packet ehdr arpHdr : Mem) (i : SrIf) (ip : UInt32) : Mem :=
  memcpy (memcpy packet 0 (arpRequestEhdr ehdr i) sizeofEthernetHdr) sizeofEthernetHdr
    (arpRequestArpHdr arpHdr i ip) sizeofArpHdr

def arpRequestSend (env : Env) (request : ℕ) (dest : Option SrRt) : RouterM ℤ := do
  let dest ← deref dest
  let s ← get
  let getInterface := srGetInterface s.ifList dest.interface
  let packet ← malloc env
  let ehdr ← malloc env
  -- the interface is not used, nor checked, before the header is filled in
  let getInterface ← deref getInterface
  let arpHdr ← malloc env
  let r ← readReq request .ip
  srSendPacket env .arpRequestSend none (arpRequestFrame packet ehdr arpHdr getInterface r.ip)
    (sizeofEthernetHdr+sizeofArpHdr) getInterface.name

/-- `while (packets->next != NULL) { … }` of `handle_arpreq`: no statement of the body
assigns to `packets`. -/
def giveUpLoop (env : Env) (fuel : ℕ) (req : ℕ) (packets : List SrPacket) : RouterM Unit :=
  iterate .outOfFuel (fun packets => do
    match packets with
    | p :: _ :: _ =>
      let r ← readReq req .ip
      let destRt ← longestPrefixSumAt env r.ip
      let destRt ← deref destRt
      destHostUnreach env p.buf destRt.interface p.len
      -- nothing has moved on to the next packet
      pure (.inl packets)
    | _ => pure (.inr ())) fuel packets

def handleArpreq (env : Env) (fuel : ℕ) (req : ℕ) (destRt : Option SrRt) : RouterM Unit := do
  let now ← time env
  modify fun s => s.addArp (.handle req now)
  let r ← readReq req .sent
  -- `difftime(now, req->sent) > 1.0`
  if 1 < now-r.sent then
    let r ← readReq req .timesSent
    if 5 ≤ r.timesSent then
      modify fun s => s.addArp (.giveUp req now)
      let r ← readReq req .packets
      -- the loop takes its own route, and `dest_rt` is left alone
      if r.packets ≠ [] then
        giveUpLoop env fuel req r.packets
      srArpreqDestroy r
    else
      modify fun s => s.addArp (.requestSend req now)
      let _success ← arpRequestSend env req destRt
    -- these two run after the request may have been freed
    writeReq req .sent fun r => { r with sent := now }
    writeReq req .timesSent fun r => { r with timesSent := r.timesSent+1 }

/-- One round of the sweep's loop, at the node `req` points to. -/
def sweepRound (env : Env) (fuel : ℕ) (destRt : Option SrRt) (req : ℕ) : RouterM (ℕ ⊕ ℕ) := do
  match ← readNext req with
  -- the last node is left to the statement after the loop
  | none => pure (.inr req)
  | some _ =>
    handleArpreq env fuel req destRt
    -- read only now, when the request may have been freed
    let next ← deref (← readNext req)
    pure (.inl next)

/-- The route is looked up for the head of the queue only. -/
def srArpcacheSweepreqs (env : Env) (fuel : ℕ) : RouterM Unit := do
  let s ← get
  match s.cache.requests.pending with
  | [] => pure ()
  | head :: _ =>
    let r ← readReq head.addr .ip
    let destRt ← longestPrefixSumAt env r.ip
    let last ← iterate .outOfFuel (sweepRound env fuel destRt) fuel head.addr
    handleArpreq env fuel last destRt

end InternetCourse.Router
