import InternetCourse.RouterState

/-! The ARP cache of sr_arpcache.c: the table of mappings and the request queue. -/
namespace InternetCourse.Router

open ByteMem SlotTable StateTriple

def SR_ARPCACHE_TO : ℤ := 15

/-- `sr_arpcache_init`: every entry invalid, no request. -/
def srArpcacheInit : SrArpcache := ⟨fun _ => ⟨fun _ => 0, 0, 0, false⟩, Requests.empty⟩

def srArpcacheLookup (entries : Entries) (ip : UInt32) : Option SrArpentry :=
  -- no `break`: a later slot overrides an earlier one
  lastMatch (fun e => e.valid && e.ip == ip) entries

/-- The slot `sr_arpcache_insert` writes to. -/
def freeSlot (entries : Entries) : Option (Fin SR_ARPCACHE_SZ) :=
  firstSlot (fun e => !e.valid) entries

/-- The second half of `sr_arpcache_insert`: the mapping goes into the first free slot, if any. -/
def insertEntry (entries : Entries) (mac : Six) (ip : UInt32) (now : ℤ) : Entries :=
  match freeSlot entries with
  | some i => Function.update entries i ⟨mac, ip, now, true⟩
  | none => entries

/-- The expiry pass of `sr_arpcache_timeout`. -/
def expireEntries (entries : Entries) (curtime : ℤ) : Entries := fun i =>
  if (entries i).valid && decide (SR_ARPCACHE_TO < curtime-(entries i).added) then
    { entries i with valid := false }
  else entries i

/-- The copy `sr_arpcache_queuereq` makes of a packet, in freshly allocated memory. -/
def queuedCopy (fresh : Mem) (packet : Buf) (packetLen : ℕ) (iface : CName) : SrPacket :=
  ⟨⟨memcpy fresh 0 packet.mem packetLen, packet.origin⟩, packetLen, strncpy iface srIfaceNamelen⟩

theorem queuedCopy_mem (fresh : Mem) (packet : Buf) (len : ℕ) (iface : CName) {i : ℕ}
    (hi : i < len) : (queuedCopy fresh packet len iface).buf.mem i = packet.mem i := by
  simp [queuedCopy, memcpy, hi]

/-- Yields the address of the request. `packet` and `iface` are never null here. -/
def srArpcacheQueuereq (env : Env) (ip : UInt32) (packet : Buf) (packetLen : ℕ) (iface : CName) :
    RouterM ℕ := do
  let s ← get
  let q := s.cache.requests
  -- an `ip` that is asked for already keeps its request
  let req ← match q.pending.find? (fun r => r.ip == ip) with
    | some r => pure r.addr
    | none => do
      -- zeroed by `calloc`, so the new request is due at once
      modify fun s => s.setRequests (q.push ip)
      pure q.fresh
  if packetLen ≠ 0 then
    let fresh ← malloc env
    -- the newest packet comes first
    modify fun s => s.setRequests (s.cache.requests.modify req fun r =>
      { r with packets := queuedCopy fresh packet packetLen iface :: r.packets })
  pure req

/-- Yields the request for `ip`, unlinked from the queue but not freed. -/
def srArpcacheInsert (env : Env) (mac : Six) (ip : UInt32) : RouterM (Option SrArpreq) := do
  let s ← get
  let req := s.cache.requests.pending.find? (fun r => r.ip == ip)
  modify fun s => s.setRequests (s.cache.requests.unlink fun r => r.ip == ip)
  -- with all entries valid the mapping is dropped, and the clock is not read
  if (freeSlot s.cache.entries).isSome then
    let now ← time env
    modify fun s => s.setEntries (insertEntry s.cache.entries mac ip now)
  pure req

/-- The state `sr_arpcache_insert` leaves. -/
def insertedState (env : Env) (mac : Six) (ip : UInt32) (s : SrInstance) : SrInstance :=
  let unlinked := s.setRequests (s.cache.requests.unlink fun r => r.ip == ip)
  if (freeSlot s.cache.entries).isSome then
    unlinked.addTime.setEntries (insertEntry s.cache.entries mac ip (env.time s.log.times))
  else unlinked

theorem srArpcacheInsert_apply (env : Env) (mac : Six) (ip : UInt32) (s : SrInstance) :
    srArpcacheInsert env mac ip s =
      .ok (s.cache.requests.pending.find? fun r => r.ip == ip) (insertedState env mac ip s) := by
  cases hi : freeSlot s.cache.entries with
  | none => simp only [srArpcacheInsert, insertedState, bind_apply, get_apply, modify_apply,
      pure_apply, hi, Option.isSome_none, Bool.false_eq_true, if_false]
  | some i => simp only [srArpcacheInsert, insertedState, bind_apply, get_apply, modify_apply,
      pure_apply, hi, time, Option.isSome_some, if_true]; rfl

theorem insertedState_entries (env : Env) (mac : Six) (ip : UInt32) (s : SrInstance) :
    (insertedState env mac ip s).cache.entries =
      insertEntry s.cache.entries mac ip (env.time s.log.times) := by
  cases hi : freeSlot s.cache.entries with
  | none => simp [insertedState, insertEntry, hi]
  | some i => simp [insertedState, hi]

def srArpreqDestroy (entry : SrArpreq) : RouterM Unit :=
  modify fun s => s.setRequests (s.cache.requests.destroy entry)

def srArpcacheExpire (env : Env) : RouterM Unit := do
  let curtime ← time env
  modify fun s => s.setEntries (expireEntries s.cache.entries curtime)

end InternetCourse.Router
