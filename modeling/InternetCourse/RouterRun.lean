import InternetCourse.RouterIp

/-! The entry points of a router (sr_arp.c, sr_router.c, sr_arpcache.c, sr_vns_comm.c)
and its runs: any number of events, in any order. -/
namespace InternetCourse.Router

open ByteMem StateTriple

/-- The loop of `arp_packet` over the packets of an answered request, whose last
round stands after the loop. -/
def flushPackets (env : Env) (fuel : ℕ) (interface : CName) : List SrPacket → RouterM Unit
  | [] => pure ()
  | p :: rest => do
    let _ ← packetToOtherDest env fuel p.buf interface p.len
    flushPackets env fuel interface rest

/-- The reply `arp_packet` makes of a request for the interface's address, in place. -/
def arpReplyFrame (buf : Mem) (i : SrIf) : Mem :=
  let targetIp := arSip buf
  let target := arSha buf
  let m := put16 buf 20 (htons 2)
  let m := put32 m 28 i.ip
  let m := put32 m 38 targetIp
  let m := putSix m 22 i.addr
  let m := putSix m 32 target
  let m := putSix m 0 target
  putSix m 6 i.addr

def arpPacket (env : Env) (fuel : ℕ) (buf : Buf) (interface : CName) (len : ℕ) :
    RouterM Unit := do
  let s ← get
  let getInterface ← deref (srGetInterface s.ifList interface)
  if arTip buf.mem = getInterface.ip then
    if ntohs (arOp buf.mem) = 1 then
      let _success ← srSendPacket env .arpPacket (some buf.origin)
        (arpReplyFrame buf.mem getInterface) len interface
    else if ntohs (arOp buf.mem) = 2 then
      match ← srArpcacheInsert env (arSha buf.mem) (arSip buf.mem) with
      | none => pure ()
      | some request =>
        -- with the mapping dropped, these packets go into a new request
        flushPackets env fuel interface request.packets
        srArpreqDestroy request
    else pure ()
  else pure ()

def srHandlepacket (env : Env) (fuel : ℕ) (packet : Buf) (len : ℕ) (interface : CName) :
    RouterM Unit :=
  if ethertype packet.mem = ethertypeArp then arpPacket env fuel packet interface len
  else if ethertype packet.mem = ethertypeIp then ipPacket env fuel packet interface len
  else pure ()

/-- Whether `sr_read_from_server_expect` drops a frame unseen. -/
def srArpReqNotForUs (iface : SrIf) (packet : Mem) (len : ℕ) : Bool :=
  if len < sizeofEthernetHdr+sizeofArpHdr then false
  else decide (etherType packet = htons ethertypeArp ∧ arOp packet = htons 1 ∧
    arTip packet ≠ iface.ip)

/-- The atomic events of a router: a frame comes in, followed in memory by `slack`,
or the timer thread makes one of its two passes. -/
inductive Event where
  | receive (frame : List UInt8) (slack : Mem) (interface : CName)
  | expiry
  | sweep

/-- The received frame gets the next ghost number. -/
def arrive (frame : List UInt8) (slack : Mem) : RouterM Buf := fun s =>
  .ok ⟨load frame slack, s.log.arrivals⟩ s.addArrival

def handle (env : Env) (fuel : ℕ) : Event → RouterM Unit
  | .receive frame slack interface => do
    let packet ← arrive frame slack
    srHandlepacket env fuel packet frame.length interface
  | .expiry => srArpcacheExpire env
  | .sweep => srArpcacheSweepreqs env fuel

/-- One event, handled to its end. -/
def Step (env : Env) (ev : Event) (s s' : SrInstance) : Prop :=
  ∃ fuel, handle env fuel ev s = .ok () s'

/-- Any number of events, in any order. -/
def Run (env : Env) : SrInstance → SrInstance → Prop :=
  Relation.ReflTransGen fun s s' => ∃ ev, Step env ev s s'

/-- A router just started: `sr_init` has run and nothing has happened since. -/
structure Initial (s : SrInstance) : Prop where
  cache : s.cache = srArpcacheInit
  log : s.log = Log.empty

/-- Events handled one after the other. -/
def handleAll (env : Env) (fuel : ℕ) : List Event → RouterM Unit
  | [] => pure ()
  | ev :: events => do
    handle env fuel ev
    handleAll env fuel events

theorem run_handleAll {env : Env} {fuel : ℕ} {events : List Event} {s s' : SrInstance}
    (h : handleAll env fuel events s = .ok () s') : Run env s s' := by
  induction events generalizing s with
  | nil =>
    obtain rfl := (EStateM.Result.ok.inj h).2
    exact Relation.ReflTransGen.refl
  | cons ev events ih =>
    rw [handleAll, bind_apply] at h
    cases hev : handle env fuel ev s with
    | error e s₁ =>
      rw [hev] at h
      contradiction
    | ok u s₁ =>
      rw [hev] at h
      exact Relation.ReflTransGen.head ⟨ev, fuel, hev⟩ (ih h)

/-- The state an event leaves, if it is over with that much fuel. -/
def after (env : Env) (fuel : ℕ) (ev : Event) (s : SrInstance) : SrInstance :=
  finalState (handle env fuel ev s)

theorem step_after {env : Env} {fuel : ℕ} {ev : Event} {s : SrInstance}
    (h : returns (handle env fuel ev s) = true) : Step env ev s (after env fuel ev s) :=
  ⟨fuel, eq_ok_of_returns h⟩

/-- The state a number of events leave, if each is over with that much fuel. -/
def afterAll (env : Env) (fuel : ℕ) (events : List Event) (s : SrInstance) : SrInstance :=
  finalState (handleAll env fuel events s)

theorem run_afterAll {env : Env} {fuel : ℕ} {events : List Event} {s : SrInstance}
    (h : returns (handleAll env fuel events s) = true) : Run env s (afterAll env fuel events s) :=
  run_handleAll (eq_ok_of_returns h)

/-! A small router: two interfaces, a host behind each, and an obliging server. -/

def address (a b c d : UInt8) : UInt32 := get32 (load [a, b, c, d] fun _ => 0) 0

def eth0 : CName := [101, 116, 104, 48]
def eth1 : CName := [101, 116, 104, 49]

def smallRouter : SrInstance where
  ifList := [⟨eth0, fun _ => 10, address 10 0 0 1⟩, ⟨eth1, fun _ => 11, address 10 0 1 1⟩]
  routingTable := [⟨address 10 0 0 2, address 10 0 0 2, 0, eth0⟩,
    ⟨address 10 0 1 2, address 10 0 1 2, 0, eth1⟩]
  cache := srArpcacheInit
  log := Log.empty

def obligingHost : Env := ⟨fun n => 100+2*n, fun _ _ => 0, fun _ len => len, some⟩

theorem obligingHost_readsAddress : obligingHost.ReadsAddress :=
  fun _ _ h => (Option.some.inj h).symm

/-- A packet without payload, from the first host to the second. -/
def transitFrame : List UInt8 :=
  [10, 10, 10, 10, 10, 10, 2, 0, 0, 0, 0, 2, 8, 0, 0x45, 0, 0, 20, 0, 1, 0, 0, 64, 17, 0x65, 0xd5,
    10, 0, 0, 2, 10, 0, 1, 2]

/-- The second host's answer to the request the router broadcasts for it. -/
def arpReplyToEth1 : List UInt8 :=
  [11, 11, 11, 11, 11, 11, 2, 0, 0, 0, 1, 2, 8, 6, 0, 1, 8, 0, 6, 4, 0, 2, 2, 0, 0, 0, 1, 2,
    10, 0, 1, 2, 11, 11, 11, 11, 11, 11, 10, 0, 1, 1]

/-- The small router with one packet waiting. -/
def queuedRouter : SrInstance :=
  after obligingHost 1 (.receive transitFrame (fun _ => 0) eth0) smallRouter

/-- The small router once the answer has come and the packet has gone out. -/
def answeredRouter : SrInstance :=
  after obligingHost 1 (.receive arpReplyToEth1 (fun _ => 0) eth1) queuedRouter

theorem smallRouter_initial : Initial smallRouter := ⟨rfl,rfl⟩

end InternetCourse.Router
