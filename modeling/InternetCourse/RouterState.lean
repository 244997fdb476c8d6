import InternetCourse.RouterPacket
import InternetCourse.StateTriple
import InternetCourse.SlotTable
import Mathlib.Tactic.Simps.Basic

/-! The state of one router (sr_if.h, sr_rt.h, sr_arpcache.h, sr_router.h), the
calls it makes to the host, and `sr_send_packet`. -/
namespace InternetCourse.Router

open ByteMem

/-- A `char` buffer: what lies after the first NUL, or past the end, is not part of the name. -/
abbrev CName := List UInt8

def srIfaceNamelen : ℕ := 32

/-- `strncmp(a, b, n) == 0` -/
def strncmpEq (a b : CName) (n : ℕ) : Bool :=
  (a.take n).takeWhile (· ≠ 0) == (b.take n).takeWhile (· ≠ 0)

/-- What `strncpy(dst, src, n)` leaves in an `n`-byte `dst`. -/
def strncpy (src : CName) (n : ℕ) : CName := src.take n

structure SrIf where
  name : CName
  addr : Six
  ip : UInt32

structure SrRt where
  dest : UInt32
  gw : UInt32
  mask : UInt32
  interface : CName

/-- A frame buffer. `origin` is a ghost: which received frame this is, or is a copy
of. No function of the router looks at it. -/
structure Buf where
  mem : Mem
  origin : ℕ

structure SrPacket where
  buf : Buf
  len : ℕ
  iface : CName

structure SrArpentry where
  mac : Six
  ip : UInt32
  added : ℤ
  valid : Bool

/-- A request object at address `addr`. Its `next` pointer is its place in the queue. -/
structure SrArpreq where
  addr : ℕ
  ip : UInt32
  sent : ℤ
  timesSent : ℕ
  packets : List SrPacket

/-- The linked list `cache->requests` with the heap its nodes live in: the pending
requests in list order, the freed ones with the `next` pointer they were freed
with, and the allocator, which hands out addresses from `fresh` on. -/
structure Requests where
  pending : List SrArpreq
  destroyed : List (SrArpreq × Option ℕ)
  fresh : ℕ
  -- no address is handed out twice
  nodup : (pending.map SrArpreq.addr).Nodup
  lt_fresh : ∀ r ∈ pending, r.addr < fresh

namespace Requests

def empty : Requests := ⟨[], [], 0, List.nodup_nil, by simp⟩

/-- `calloc` a request for `ip` and make it the head of the queue. -/
@[simps] def push (q : Requests) (ip : UInt32) : Requests where
  pending := ⟨q.fresh, ip, 0, 0, []⟩ :: q.pending
  destroyed := q.destroyed
  fresh := q.fresh+1
  nodup := by
    rw [List.map_cons, List.nodup_cons]
    refine ⟨fun h => ?_, q.nodup⟩
    obtain ⟨r,hr,he⟩ := List.mem_map.mp h
    exact (q.lt_fresh r hr).ne he
  lt_fresh := by
    intro r hr
    rcases List.mem_cons.mp hr with rfl | hr
    · exact Nat.lt_succ_self _
    · exact (q.lt_fresh r hr).trans (Nat.lt_succ_self _)

/-- Assign fields of the object at `addr`, pending or freed. -/
@[simps] def modify (q : Requests) (addr : ℕ) (f : SrArpreq → SrArpreq) : Requests where
  pending := q.pending.map fun r => if r.addr = addr then { f r with addr := r.addr } else r
  destroyed := q.destroyed.map fun r =>
    if r.1.addr = addr then ({ f r.1 with addr := r.1.addr }, r.2) else r
  fresh := q.fresh
  nodup := by
    have he : (q.pending.map fun r => if r.addr = addr then { f r with addr := r.addr } else r).map
        SrArpreq.addr = q.pending.map SrArpreq.addr := by
      rw [List.map_map]
      apply List.map_congr_left
      intro r _
      dsimp only [Function.comp]
      split <;> rfl
    rw [he]
    exact q.nodup
  lt_fresh := by
    intro r hr
    obtain ⟨r',hr',rfl⟩ := List.mem_map.mp hr
    have h := q.lt_fresh r' hr'
    split <;> exact h

/-- Unlink the first request that `p` accepts. -/
@[simps] def unlink (q : Requests) (p : SrArpreq → Bool) : Requests where
  pending := q.pending.eraseP p
  destroyed := q.destroyed
  fresh := q.fresh
  nodup := q.nodup.sublist (List.eraseP_sublist.map _)
  lt_fresh := fun r hr => q.lt_fresh r (List.mem_of_mem_eraseP hr)

/-- The address of the node that follows the one at `addr` in the list. -/
def follower : List SrArpreq → ℕ → Option ℕ
  | r :: rest, addr => if r.addr = addr then rest.head?.map SrArpreq.addr else follower rest addr
  | [], _ => none

/-- Unlink `entry` if it is in the queue, and free it. -/
@[simps] def destroy (q : Requests) (entry : SrArpreq) : Requests :=
  { q.unlink (fun r => r.addr = entry.addr) with
    destroyed := (entry, follower q.pending entry.addr) :: q.destroyed }

/-- The object behind a pointer and whether it has been freed. -/
def find (q : Requests) (addr : ℕ) : Option (SrArpreq × Bool) :=
  match q.pending.find? (fun r => r.addr = addr) with
  | some r => some (r, false)
  | none => (q.destroyed.find? fun r => r.1.addr = addr).map fun r => (r.1, true)

/-- The `next` field of the object behind a pointer. -/
def nextOf (q : Requests) (addr : ℕ) : Option ℕ :=
  match q.pending.find? (fun r => r.addr = addr) with
  | some _ => follower q.pending addr
  | none => (q.destroyed.find? fun r => r.1.addr = addr).bind Prod.snd

end Requests

def SR_ARPCACHE_SZ : ℕ := 100

abbrev Entries := Fin SR_ARPCACHE_SZ → SrArpentry

structure SrArpcache where
  entries : Entries
  requests : Requests

/-- The function that called `sr_send_packet`. -/
inductive Emitter where
  | packetToOtherDest
  | echoReply
  | timeExceeded
  | destHostUnreach
  | portUnreach
  | arpPacket
  | arpRequestSend
  deriving DecidableEq

/-- One call of `sr_send_packet`: its arguments, its caller, the received frame
the message is or is about, and the value returned. -/
structure SendCall where
  emitter : Emitter
  origin : Option ℕ
  buf : Mem
  len : ℕ
  iface : CName
  ret : ℤ

/-- The bytes a call puts on the wire. -/
def SendCall.frame (c : SendCall) : List UInt8 := wire c.buf c.len

inductive ArpreqField where
  | ip
  | sent
  | timesSent
  | packets
  | next
  deriving DecidableEq

/-- One access to a field of a request object through its pointer. -/
structure Access where
  req : ℕ
  field : ArpreqField
  write : Bool
  destroyed : Bool
  deriving DecidableEq

/-- What `handle_arpreq` does with a request, with the clock value it read. -/
inductive ArpEvent where
  | handle (req : ℕ) (now : ℤ)
  | requestSend (req : ℕ) (now : ℤ)
  | giveUp (req : ℕ) (now : ℤ)
  deriving DecidableEq

/-- A ghost record of a run, newest entry first, and how often the clock and the
allocator were called. -/
structure Log where
  sends : List SendCall
  arp : List ArpEvent
  accesses : List Access
  times : ℕ
  mallocs : ℕ
  arrivals : ℕ

def Log.empty : Log := ⟨[], [], [], 0, 0, 0⟩

structure SrInstance where
  ifList : List SrIf
  routingTable : List SrRt
  cache : SrArpcache
  log : Log

/-- The host: the `n`-th reading of `time`, the bytes found behind the `n`-th
`malloc`, how many bytes the `n`-th message to the server gets written, and what is read
as `ip_dst` where a number used as the address of an IP header points, if anything is. -/
structure Env where
  time : ℕ → ℤ
  malloc : ℕ → Mem
  write : ℕ → ℕ → ℤ
  ipDstAt : UInt32 → Option UInt32

/-- The ways not to return: a null pointer dereferenced, a pointer that was never
handed out, a value that was never set, an array on the stack written past its end, a loop
that is still running. -/
inductive Fault where
  | nullDeref
  | wildPointer
  | indeterminate
  | overrun
  | outOfFuel
  deriving DecidableEq

abbrev RouterM := EStateM Fault SrInstance

def deref {α : Type} : Option α → RouterM α
  | some a => pure a
  | none => throw .nullDeref

namespace SrInstance

@[simps] def setRequests (s : SrInstance) (q : Requests) : SrInstance :=
  { s with cache := { s.cache with requests := q } }

@[simps] def setEntries (s : SrInstance) (t : Entries) : SrInstance :=
  { s with cache := { s.cache with entries := t } }

@[simp] theorem setRequests_entries (s : SrInstance) (q : Requests) :
    (s.setRequests q).cache.entries = s.cache.entries := rfl

@[simp] theorem setEntries_entries (s : SrInstance) (t : Entries) :
    (s.setEntries t).cache.entries = t := rfl

@[simps] def addSend (s : SrInstance) (c : SendCall) : SrInstance :=
  { s with log := { s.log with sends := c :: s.log.sends } }

@[simps] def addArp (s : SrInstance) (e : ArpEvent) : SrInstance :=
  { s with log := { s.log with arp := e :: s.log.arp } }

@[simps] def addAccess (s : SrInstance) (a : Access) : SrInstance :=
  { s with log := { s.log with accesses := a :: s.log.accesses } }

@[simps] def addTime (s : SrInstance) : SrInstance :=
  { s with log := { s.log with times := s.log.times+1 } }

@[simps] def addMalloc (s : SrInstance) : SrInstance :=
  { s with log := { s.log with mallocs := s.log.mallocs+1 } }

@[simps] def addArrival (s : SrInstance) : SrInstance :=
  { s with log := { s.log with arrivals := s.log.arrivals+1 } }

end SrInstance

def time (env : Env) : RouterM ℤ := fun s => .ok (env.time s.log.times) s.addTime

def malloc (env : Env) : RouterM Mem := fun s => .ok (env.malloc s.log.mallocs) s.addMalloc

/-- `req->field`, read -/
def readReq (req : ℕ) (field : ArpreqField) : RouterM SrArpreq := fun s =>
  match s.cache.requests.find req with
  | some (r, destroyed) => .ok r (s.addAccess ⟨req, field, false, destroyed⟩)
  | none => .error .wildPointer s

/-- `req->next`, read -/
def readNext (req : ℕ) : RouterM (Option ℕ) := do
  let _ ← readReq req .next
  let s ← get
  pure (s.cache.requests.nextOf req)

/-- `req->field = …` -/
def writeReq (req : ℕ) (field : ArpreqField) (f : SrArpreq → SrArpreq) : RouterM Unit := fun s =>
  match s.cache.requests.find req with
  | some (_, destroyed) =>
    .ok () ((s.setRequests (s.cache.requests.modify req f)).addAccess
      ⟨req, field, true, destroyed⟩)
  | none => .error .wildPointer s

def srGetInterface (ifList : List SrIf) (name : CName) : Option SrIf :=
  ifList.find? fun ifWalker => strncmpEq ifWalker.name name srIfaceNamelen

def srEtherAddrsMatchInterface (ifList : List SrIf) (buf : Mem) (name : CName) : Bool :=
  match srGetInterface ifList name with
  | none => false
  | some iface => etherShost buf = iface.addr

def sizeofPacketHeader : ℕ := 24

/-- The value `sr_send_packet` returns. -/
def sendResult (env : Env) (s : SrInstance) (buf : Mem) (len : ℕ) (iface : CName) : ℤ :=
  let totalLen := len+sizeofPacketHeader
  if len < sizeofEthernetHdr then -1
  -- the source address of the frame has to be that of the interface
  else if !srEtherAddrsMatchInterface s.ifList buf iface then -1
  -- a short write, or none at all
  else if env.write s.log.sends.length totalLen < totalLen then -1
  else 0

def srSendPacket (env : Env) (emitter : Emitter) (origin : Option ℕ) (buf : Mem) (len : ℕ)
    (iface : CName) : RouterM ℤ := fun s =>
  let ret := sendResult env s buf len iface
  .ok ret (s.addSend ⟨emitter, origin, buf, len, iface, ret⟩)

end InternetCourse.Router
