import InternetCourse.RouterChecksum
import InternetCourse.RouterForward
import InternetCourse.RouterHistory
import InternetCourse.RouterResolve
import InternetCourse.RouterReplies
import InternetCourse.RouterSweep

/-! Next hops. The cache is searched, packets are queued and requests are broadcast for the
destination of a packet; the gateway of its route is never looked at. -/
namespace InternetCourse.Router

open ByteMem SlotTable StateTriple

/-- An address of none of the interfaces: packets for it are passed on. -/
def Foreign (ifList : List SrIf) (d : UInt32) : Prop := ∀ i ∈ ifList, i.ip ≠ d

/-- What an event sends for passing packets, it sends by way of the gateway of their route:
a frame to a MAC address cached for the gateway, a request for its address. -/
structure ResolvesNextHop (env : Env) (x : Happening) : Prop where
  forwarded : ∀ c ∈ x.sends env, c.emitter = .packetToOtherDest →
    ∃ rt i, longestPrefixSum x.before.routingTable (ipDst c.buf) = some rt ∧
      Maps ((x.after env).cache.entries i) rt.gw ∧
      ((x.after env).cache.entries i).mac = etherDhost c.buf
  asked : ∀ c ∈ x.sends env, c.emitter = .arpRequestSend →
    ∀ r ∈ (x.after env).cache.requests.pending, r.ip = arTip c.buf → ∀ p ∈ r.packets,
      ∃ rt, longestPrefixSum x.before.routingTable (ipDst p.buf.mem) = some rt ∧
        rt.gw = arTip c.buf

/-- Every event of every run of a router with these tables resolves next hops. The lookup
`longest_prefix_sum(sr, req->ip)` of the sweep finds the route of that address, if it returns. -/
def NextHopAlways (ifList : List SrIf) (routingTable : List SrRt) : Prop :=
  ∀ env s₀ h s, env.ReadsAddress → Initial s₀ → s₀.ifList = ifList → s₀.routingTable = routingTable →
    History env s₀ h s → ∀ x ∈ h, ResolvesNextHop env x

/-- Some route for passing packets has an interface. -/
def HasWayOut (ifList : List SrIf) (routingTable : List SrRt) : Prop :=
  ∃ d rt, Foreign ifList d ∧ longestPrefixSum routingTable d = some rt ∧
    (srGetInterface ifList rt.interface).isSome = true

/-- No route needs a gateway: packets go straight to their destination. -/
def Gatewayless (ifList : List SrIf) (routingTable : List SrRt) : Prop :=
  ∀ d rt, Foreign ifList d → longestPrefixSum routingTable d = some rt → rt.gw = d

variable {env : Env} {s₀ s s' : SrInstance} {h : List Happening} {ifs : List SrIf}
  {routes : List SrRt} {table : Entries}

/-- What is known of a packet on its way out. -/
structure Passing (ifs : List SrIf) (p : SrPacket) : Prop where
  len : 34 ≤ p.len
  dst : Foreign ifs (ipDst p.buf.mem)

/-- The packets of a request are for the address it asks for, which has a route. -/
structure Asks (ifs : List SrIf) (routes : List SrRt) (r : SrArpreq) : Prop where
  ip : Foreign ifs r.ip
  packets : ∀ p ∈ r.packets, Passing ifs p ∧ ipDst p.buf.mem = r.ip ∧
    ∃ rt, longestPrefixSum routes r.ip = some rt

structure Steered (ifs : List SrIf) (routes : List SrRt) (s : SrInstance) : Prop where
  ifList : s.ifList = ifs
  routingTable : s.routingTable = routes
  pending : ∀ r ∈ s.cache.requests.pending, Asks ifs routes r

/-- What is known of a call while the cache holds `entries`. -/
structure SentOn (ifs : List SrIf) (routes : List SrRt) (table : Entries)
    (c : SendCall) : Prop where
  forwarded : c.emitter = .packetToOtherDest →
    ∃ rt i, longestPrefixSum routes (ipDst c.buf) = some rt ∧ Maps (table i) rt.gw ∧
      (table i).mac = etherDhost c.buf
  asked : c.emitter = .arpRequestSend → HasWayOut ifs routes

/-- The state while an event is handled that began with `sends` on record. -/
structure Steering (ifs : List SrIf) (routes : List SrRt) (table : Entries)
    (sends : List SendCall) (s : SrInstance) : Prop where
  steered : Steered ifs routes s
  entries : s.cache.entries = table
  sends : ∃ calls, s.log.sends = calls ++ sends ∧
    ∀ c ∈ calls, SentOn ifs routes table c

theorem Asks.congr {r r' : SrArpreq} (hr : Asks ifs routes r) (hip : r'.ip = r.ip)
    (hp : r'.packets = r.packets) : Asks ifs routes r' := by
  refine ⟨by rw [hip]; exact hr.ip, ?_⟩
  rw [hip, hp]
  exact hr.packets

theorem Steered.of_mem (hs : Steered ifs routes s) (hi : s'.ifList = s.ifList)
    (ht : s'.routingTable = s.routingTable) (hq : ∀ r ∈ s'.cache.requests.pending,
      ∃ r₀ ∈ s.cache.requests.pending, r.ip = r₀.ip ∧ r.packets = r₀.packets) :
    Steered ifs routes s' := by
  refine ⟨hi.trans hs.ifList, ht.trans hs.routingTable, ?_⟩
  intro r hr
  obtain ⟨r₀,hr₀,hip,hp⟩ := hq r hr
  exact (hs.pending r₀ hr₀).congr hip hp

theorem Passing.copy {p : SrPacket} (hp : Passing ifs p) (fresh : Mem) (interface : CName) :
    Passing ifs (queuedCopy fresh p.buf p.len interface) ∧
      ipDst (queuedCopy fresh p.buf p.len interface).buf.mem = ipDst p.buf.mem := by
  have hl := hp.len
  have hdst : ipDst (queuedCopy fresh p.buf p.len interface).buf.mem = ipDst p.buf.mem :=
    get32_congr fun i _ hi => queuedCopy_mem fresh p.buf p.len interface (by omega)
  exact ⟨⟨hl, by rw [hdst]; exact hp.dst⟩, hdst⟩

theorem Steered.enqueued {p : SrPacket} {interface : CName} {rt : SrRt} {r : SrArpreq}
    (hs : Steered ifs routes s) (hp : Passing ifs p)
    (hrt : longestPrefixSum s.routingTable (ipDst p.buf.mem) = some rt)
    (he : Enqueued s (ipDst p.buf.mem) (queuedCopies env s p.buf p.len interface) r s') :
    Steered ifs routes s' := by
  refine ⟨he.ifList.trans hs.ifList, he.routingTable.trans hs.routingTable, ?_⟩
  have hpkts : ∀ q ∈ queuedCopies env s p.buf p.len interface,
      Passing ifs q ∧ ipDst q.buf.mem = ipDst p.buf.mem := by
    intro q hq
    simp only [queuedCopies] at hq
    split at hq
    · obtain rfl := List.mem_singleton.mp hq
      exact hp.copy _ _
    · simp at hq
  have hroute : ∃ rt, longestPrefixSum routes (ipDst p.buf.mem) = some rt :=
    ⟨rt, by rw [← hs.routingTable]; exact hrt⟩
  -- behind the packets of a request for the same address, or alone in a new request
  rcases he.queue with ⟨pre,r₀,post,hq,hip,rfl,hq',-⟩ | ⟨-,rfl,hq',-⟩
  · intro x hx
    rw [hq'] at hx
    have hold (y : SrArpreq) (hy : y ∈ pre ++ r₀ :: post) : Asks ifs routes y :=
      hs.pending y (by rwa [hq])
    rcases List.mem_append.mp hx with hx | hx
    · exact hold x (List.mem_append_left _ hx)
    rcases List.mem_cons.mp hx with rfl | hx
    · have hr₀ := hold r₀ (List.mem_append_right _ List.mem_cons_self)
      refine ⟨hr₀.ip, ?_⟩
      intro q hq
      rcases List.mem_append.mp hq with hq | hq
      · obtain ⟨hpass,hdst⟩ := hpkts q hq
        exact ⟨hpass, hdst.trans hip.symm, by rw [hip]; exact hroute⟩
      · exact hr₀.packets q hq
    · exact hold x (List.mem_append_right _ (List.mem_cons_of_mem _ hx))
  · intro x hx
    rw [hq'] at hx
    rcases List.mem_cons.mp hx with rfl | hx
    · refine ⟨hp.dst, ?_⟩
      intro q hq
      obtain ⟨hpass,hdst⟩ := hpkts q hq
      exact ⟨hpass, hdst, hroute⟩
    · exact hs.pending x hx

theorem Steering.addSend {sends : List SendCall} {c : SendCall}
    (hs : Steering ifs routes table sends s)
    (hc : SentOn ifs routes table c) :
    Steering ifs routes table sends (s.addSend c) := by
  obtain ⟨calls,hcalls,hall⟩ := hs.sends
  refine ⟨⟨hs.steered.ifList,hs.steered.routingTable,hs.steered.pending⟩, hs.entries,
    c :: calls, congrArg _ hcalls, ?_⟩
  intro c' hc'
  rcases List.mem_cons.mp hc' with rfl | hc'
  · exact hc
  · exact hall c' hc'

/-- A message that is neither passed on nor a request. -/
theorem sentOn_of_other {c : SendCall} (he : c.emitter ≠ .packetToOtherDest ∧
    c.emitter ≠ .arpRequestSend) : SentOn ifs routes table c :=
  ⟨fun h => absurd h he.1, fun h => absurd h he.2⟩

theorem Steering.of_same {sends : List SendCall} (hs : Steering ifs routes table sends s)
    (hi : s'.ifList = s.ifList) (ht : s'.routingTable = s.routingTable)
    (he : s'.cache.entries = s.cache.entries) (hl : s'.log.sends = s.log.sends)
    (hq : ∀ r ∈ s'.cache.requests.pending,
      ∃ r₀ ∈ s.cache.requests.pending, r.ip = r₀.ip ∧ r.packets = r₀.packets) :
    Steering ifs routes table sends s' :=
  ⟨hs.steered.of_mem hi ht hq, he.trans hs.entries, by rw [hl]; exact hs.sends⟩

/-- Without gateways, or without a way out, the lookups go by the right address. -/
theorem steering_preserved (hread : env.ReadsAddress) (table : Entries) (sends : List SendCall)
    (hg : HasWayOut ifs routes → Gatewayless ifs routes) :
    Preserved env (Passing ifs) (Foreign ifs) (Steering ifs routes table sends) where
  time _ hs := hs.of_same rfl rfl rfl rfl fun r hr => ⟨r,hr,rfl,rfl⟩
  malloc _ hs := hs.of_same rfl rfl rfl rfl fun r hr => ⟨r,hr,rfl,rfl⟩
  access _ _ hs := hs.of_same rfl rfl rfl rfl fun r hr => ⟨r,hr,rfl,rfl⟩
  arp _ _ hs := hs.of_same rfl rfl rfl rfl fun r hr => ⟨r,hr,rfl,rfl⟩
  waiting s hs r hr p hp := ((hs.steered.pending r hr).packets p hp).1
  dst p hp := hp.dst
  ip s hs r hr d hd := by
    rw [hread _ _ hd]
    exact (hs.steered.pending r hr).ip
  stamped s addr now destroyed hs :=
    hs.of_same rfl rfl rfl rfl fun r hr => stampedState_mem hr
  destroyed s r hs := hs.of_same rfl rfl rfl rfl fun x hx =>
    ⟨x, List.mem_of_mem_eraseP hx, rfl, rfl⟩
  enqueued s p interface rt r s' hs hp _ hrt he := by
    refine ⟨hs.steered.enqueued hp hrt he, he.entries.trans hs.entries, ?_⟩
    rw [he.sends]
    exact hs.sends
  broadcast s r d rt i hs hr hd hrt hi := by
    have hsame : Steering ifs routes table sends (s.addMalloc.addMalloc.addMalloc.addAccess
        ⟨r.addr, .ip, false, false⟩) :=
      hs.of_same rfl rfl rfl rfl fun r hr => ⟨r,hr,rfl,rfl⟩
    rw [hs.steered.routingTable] at hrt
    rw [hs.steered.ifList] at hi
    refine hsame.addSend ⟨fun he => ?_, fun _ => ⟨d, rt, hd, hrt, by rw [hi]; rfl⟩⟩
    simp [arpRequestCall] at he
  -- the mapping is one for the gateway only because the gateway is the destination
  forwarded s p rt e i hs hp ht hrt he hi := by
    rw [hs.steered.routingTable] at hrt
    rw [hs.steered.ifList] at hi
    rw [hs.entries] at he
    have hgw : rt.gw = ipDst p.buf.mem :=
      hg ⟨_, rt, hp.dst, hrt, by rw [hi]; rfl⟩ _ rt hp.dst hrt
    obtain ⟨k,rfl,hm,-⟩ := (lastMatch_eq_some_iff _ _ _).mp he
    refine hs.addSend ⟨fun _ => ⟨rt, k, ?_, ?_, ?_⟩, fun he => ?_⟩
    · exact (congrArg _ (forwardFrame_ipDst _ _ _)).trans hrt
    · rw [hgw]
      exact (maps_iff _ _).mp hm
    · exact (forwardFrame_dhost _ _ _).symm
    · simp [forwardCall] at he
  expired s p i interface hs _ _ _ := by
    have hsame : Steering ifs routes table sends s.addMalloc :=
      hs.of_same rfl rfl rfl rfl fun r hr => ⟨r,hr,rfl,rfl⟩
    exact hsame.addSend (sentOn_of_other ⟨by simp [icmpErrorCall], by simp [icmpErrorCall]⟩)
  unreachable s p i interface hs _ _ := by
    have hsame : Steering ifs routes table sends s.addMalloc :=
      hs.of_same rfl rfl rfl rfl fun r hr => ⟨r,hr,rfl,rfl⟩
    exact hsame.addSend (sentOn_of_other ⟨by simp [icmpErrorCall], by simp [icmpErrorCall]⟩)

theorem Steered.steering (hs : Steered ifs routes s) :
    Steering ifs routes s.cache.entries s.log.sends s :=
  ⟨hs, rfl, [], rfl, by simp⟩

theorem Steered.receives (hs : Steered ifs routes s) {frame : List UInt8} {slack : Mem}
    {interface : CName} : Receives env (Passing ifs)
      (Steering ifs routes (entriesAfter env s (.receive frame slack interface)) s.log.sends) s
      (received s frame slack interface) := by
  have hsteer := hs.steering
  have hflush : ∀ q ∈ waitingFor s (arSip (load frame slack)), Passing ifs q := by
    intro q hq
    obtain ⟨r,hr,-,hq⟩ := mem_waitingFor hq
    exact ((hs.pending r hr).packets q hq).1
  by_cases hst : StoresReply s (load frame slack) interface
  · have hno : ∀ len, ¬Accepted (load frame slack) len := hst.not_accepted
    refine ⟨fun h => absurd hst h, fun _ => ?_, fun _ => hflush, ?_, fun ha => absurd ha (hno _),
      fun _ ha => absurd ha (hno _), fun _ ha => absurd ha (hno _)⟩
    · obtain ⟨hi,ht,hse,-⟩ := insertedState_frame env (arSha (load frame slack))
        (arSip (load frame slack)) s.addArrival
      refine ⟨hs.of_mem hi ht ?_, ?_, [], hse, by simp⟩
      · intro r hr
        rw [insertedState_pending] at hr
        exact ⟨r, List.mem_of_mem_eraseP hr, rfl, rfl⟩
      · rw [entriesAfter_of_stores hst]
        exact insertedState_entries env _ _ s.addArrival
    · intro i _ _ h1
      exact absurd h1 hst.not_request
  -- no mapping is stored: the frame adds at most an answer, and answers are not steered
  · rw [entriesAfter_of_not_stores hst]
    have hsame (t : SrInstance) (hi : t.ifList = s.ifList) (ht : t.routingTable = s.routingTable)
        (hc : t.cache = s.cache) (hl : t.log.sends = s.log.sends) :
        Steering ifs routes s.cache.entries s.log.sends t := by
      refine hsteer.of_same hi ht (by rw [hc]) hl ?_
      rw [hc]
      exact fun r hr => ⟨r,hr,rfl,rfl⟩
    have harr := hsame s.addArrival rfl rfl rfl rfl
    refine ⟨fun _ => harr, fun h => absurd h hst, fun _ => hflush, ?_, ?_, ?_, ?_⟩
    · intro i _ _ _
      exact harr.addSend (sentOn_of_other ⟨by simp, by simp⟩)
    · intro ha hl
      refine ⟨((accepted_iff _ _).mp ha).1, ?_⟩
      intro i hi hip
      exact hl (local_iff.mpr ⟨i, by rw [hs.ifList]; exact hi, hip⟩)
    · intro i _ _ _ _
      exact harr.addSend (sentOn_of_other ⟨by simp, by simp⟩)
    · intro i _ _ _ _
      exact (hsame s.addArrival.addMalloc rfl rfl rfl rfl).addSend
        (sentOn_of_other ⟨by simp [icmpErrorCall], by simp [icmpErrorCall]⟩)

theorem Steered.handle (hread : env.ReadsAddress) (hg : HasWayOut ifs routes → Gatewayless ifs routes)
    (hs : Steered ifs routes s) (ev : Event) (fuel : ℕ) :
    Steering ifs routes (entriesAfter env s ev) s.log.sends
      (finalState (Router.handle env fuel ev s)) := by
  cases ev with
  | receive frame slack interface =>
    exact receive_keeps (steering_preserved hread _ _ hg) hs.receives fuel
  | expiry => exact ⟨⟨hs.ifList,hs.routingTable,hs.pending⟩, rfl, [], rfl, by simp⟩
  | sweep => exact sweep_keeps (steering_preserved hread _ _ hg) hs.steering fuel

theorem Steering.resolves {x : Happening} (hg : HasWayOut ifs routes → Gatewayless ifs routes)
    (hs : Steered ifs routes x.before)
    (hx : Steering ifs routes (x.after env).cache.entries x.before.log.sends (x.after env)) :
    ResolvesNextHop env x := by
  obtain ⟨calls,hcalls,hall⟩ := hx.sends
  have hsends : x.sends env = calls :=
    List.append_cancel_right ((x.sends_append env).symm.trans hcalls)
  refine ⟨?_, ?_⟩
  · intro c hc he
    rw [hsends] at hc
    rw [hs.routingTable]
    exact (hall c hc).forwarded he
  · intro c hc he r hr hip p hp
    rw [hsends] at hc
    obtain ⟨-,hdst,rt,hrt⟩ := (hx.steered.pending r hr).packets p hp
    have hgw := hg ((hall c hc).asked he) r.ip rt (hx.steered.pending r hr).ip hrt
    exact ⟨rt, by rw [hs.routingTable, hdst]; exact hrt, hgw.trans hip⟩

theorem History.steered (hread : env.ReadsAddress)
    (hg : HasWayOut ifs routes → Gatewayless ifs routes) (h₀ : Initial s₀) (hi : s₀.ifList = ifs) (ht : s₀.routingTable = routes)
    (hh : History env s₀ h s) : Steered ifs routes s ∧ ∀ x ∈ h, ResolvesNextHop env x := by
  induction hh with
  | start =>
    have hp : s₀.cache.requests.pending = [] := by rw [h₀.cache]; rfl
    exact ⟨⟨hi, ht, by simp [hp]⟩, by simp⟩
  | @next h s ev fuel _ ih =>
    obtain ⟨hs,hold⟩ := ih
    have hnext : Steering ifs routes (entriesAfter env s ev) s.log.sends
        (finalState (Router.handle env fuel ev s)) := hs.handle hread hg ev fuel
    refine ⟨hnext.steered, ?_⟩
    intro x hx
    rcases List.mem_append.mp hx with hx | hx
    · exact hold x hx
    · obtain rfl := List.mem_singleton.mp hx
      apply Steering.resolves hg hs
      rw [← handle_entries env fuel ev s] at hnext
      exact hnext

/-! Where a gateway matters, a run shows it. -/

/-- The transit packet with another destination and identification, its checksum field empty. -/
def readdressed (d : UInt32) (id : UInt16) : Mem :=
  put16 (put16 (put32 (load transitFrame fun _ => 0) 30 d) 18 id) 24 0

/-- An identification with which the header does not sum up to all ones. -/
def transitId (d : UInt32) : UInt16 :=
  if SumsToOnes (shift (readdressed d 0) 14) sizeofIpHdr then 1 else 0

def transitMem (d : UInt32) : Mem :=
  let m := readdressed d (transitId d)
  put16 m 24 (cksum (shift m 14) sizeofIpHdr)

theorem wordSum_readdressed (d : UInt32) (id : UInt16) :
    wordSum sizeofIpHdr (shift (readdressed d id) 14) =
      wordSum sizeofIpHdr (shift (readdressed d 0) 14)+(swap16 id).toNat := by
  let m := put32 (load transitFrame fun _ => 0) 30 d
  have hsum (v : UInt16) : wordSum sizeofIpHdr (shift (readdressed d v) 14) =
      wordSum 4 (shift m 14)+(swap16 v).toNat+wordSum 4 (shift m 20)+0+wordSum 8 (shift m 26) := by
    have hfield := @wordSum_put16 5 20 (by decide) (put16 m 18 v) 14 0
    have hid := @wordSum_put16 2 10 (by decide) m 14 v
    have hbehind : wordSum 8 (shift (put16 m 18 v) 26) = wordSum 8 (shift m 26) :=
      wordSum_congr 8 fun i _ => put16_outside m v (by omega)
    rw [← hbehind, ← hid]
    exact hfield
  have hzero : (swap16 0).toNat = 0 := rfl
  rw [hsum id, hsum 0, hzero]
  omega

theorem transitMem_not_ones (d : UInt32) :
    ¬SumsToOnes (shift (put16 (transitMem d) 24 0) 14) sizeofIpHdr := by
  have hbound (id : UInt16) : wordSum sizeofIpHdr (shift (readdressed d id) 14) < 2^32 :=
    (wordSum_le _ _).trans_lt (by decide)
  have hclear (id v : UInt16) : put16 (put16 (readdressed d id) 24 v) 24 0 = readdressed d id := by
    rw [readdressed, put16_put16, put16_put16]
  have hone : (swap16 1).toNat = 256 := rfl
  rw [transitMem, hclear, transitId]
  split_ifs with h
  · -- the other identification adds less than all ones
    rw [sumsToOnes_iff (hbound 0)] at h
    rw [sumsToOnes_iff (hbound 1), wordSum_readdressed, hone]
    omega
  · exact h

def transitTo (d : UInt32) : List UInt8 := wire (transitMem d) 34

theorem transitTo_length (d : UInt32) : (transitTo d).length = 34 := wire_length _ _

theorem transitTo_byte (d : UInt32) (slack : Mem) {i : ℕ} (hi : i < 34) :
    load (transitTo d) slack i = transitMem d i := load_wire slack hi

theorem transitTo_accepted (d : UInt32) (slack : Mem) :
    Accepted (load (transitTo d) slack) (transitTo d).length := by
  have hmem : Accepted (transitMem d) 34 := by
    have ht : ethertype (transitMem d) = ethertypeIp := by
      have hsame : etherType (transitMem d) = etherType (load transitFrame fun _ => 0) := by
        simp (disch := omega) only [etherType, transitMem, readdressed, get16_put16_outside,
          get16_put32_outside]
      rw [ethertype, hsame]
      decide
    have hsum : Checksummed (transitMem d) 34 := by
      refine @checksummed_of_filled _ (readdressed d (transitId d)) _ (by omega) ht fun i _ _ => ?_
      rw [readdressed, put16_put16]
      rfl
    exact hsum.accepted_iff.mpr (transitMem_not_ones d)
  rw [transitTo_length]
  exact hmem.congr fun i hi => transitTo_byte d slack hi

theorem transitTo_ipDst (d : UInt32) (slack : Mem) : ipDst (load (transitTo d) slack) = d := by
  have hmem : ipDst (transitMem d) = d := by
    simp (disch := omega) only [ipDst, transitMem, readdressed, get32_put16_outside, get32_put32]
  calc
    _ = ipDst (transitMem d) := get32_congr fun i _ hi => transitTo_byte d slack (by omega)
    _ = d := hmem

theorem transitTo_ttl (d : UInt32) (slack : Mem) : ipTtl (load (transitTo d) slack) = 64 := by
  rw [ipTtl, transitTo_byte d slack (by omega), transitMem, readdressed]
  simp (disch := omega) only [put16_outside, put32_outside]
  rfl

theorem retriedState_sends (s : SrInstance) (r : SrArpreq) (i : SrIf) :
    (retriedState env s r i).log.sends =
      arpRequestCall env (retryingState env s r) i r.ip :: s.log.sends := by
  simp [retriedState, stampedState, broadcastState, retryingState, handledState]

theorem arpRequestCall_tip (s : SrInstance) (i : SrIf) (ip : UInt32) :
    arTip (arpRequestCall env s i ip).buf = ip := (arpRequestFrame_fields _ _ _ i ip).tip

/-- A packet for an address nobody is asked for yet makes a request of its own, and the
request is handled at once. -/
theorem receive_queues {d : UInt32} {rt : SrRt} (hd : Foreign s.ifList d)
    (hrt : longestPrefixSum s.routingTable d = some rt)
    (hno : srArpcacheLookup s.cache.entries d = none)
    (hnew : ∀ r ∈ s.cache.requests.pending, r.ip ≠ d) (slack : Mem) (interface : CName) :
    ∃ p s₁, ipDst p.buf.mem = d ∧
      Enqueued s.addArrival d [p] ⟨s.cache.requests.fresh, d, 0, 0, [p]⟩ s₁ ∧
      s₁.cache.requests.pending =
        ⟨s.cache.requests.fresh, d, 0, 0, [p]⟩ :: s.cache.requests.pending ∧
      ∀ fuel, finalState (handle env fuel (.receive (transitTo d) slack interface) s) =
        finalState (handleArpreq env fuel s.cache.requests.fresh (some rt) s₁) := by
  have ha := transitTo_accepted d slack
  have hdst := transitTo_ipDst d slack
  have hl : ¬Local s (load (transitTo d) slack) := by
    rw [local_iff]
    rintro ⟨i,hi,hip⟩
    exact hd i hi (hip.trans hdst)
  let p := received s (transitTo d) slack interface
  have ht : ¬ipTtl p.buf.mem ≤ 1 := by
    have h64 : ipTtl p.buf.mem = 64 := transitTo_ttl d slack
    rw [h64]
    decide
  have hpd : ipDst p.buf.mem = d := hdst
  obtain ⟨r,s₁,hq,henq⟩ :=
    srArpcacheQueuereq_returns env d p.buf p.len interface s.addArrival
  have hlen : p.len ≠ 0 := by
    have h34 : p.len = 34 := transitTo_length d
    omega
  have hcopies : queuedCopies env s.addArrival p.buf p.len interface =
      [queuedCopy (env.malloc s.log.mallocs) p.buf p.len interface] := if_pos hlen
  rw [hcopies] at henq
  -- no request is for `d` yet, so the packet goes into a new one
  rcases henq.queue with ⟨pre,r₀,post,hp,hip,-⟩ | ⟨-,hr,hp,-⟩
  · exact absurd hip (hnew r₀ (Requests.mem_of_split hp))
  have hr' : r = ⟨s.cache.requests.fresh, d, 0, 0,
    [queuedCopy (env.malloc s.log.mallocs) p.buf p.len interface]⟩ := hr
  refine ⟨queuedCopy (env.malloc s.log.mallocs) p.buf p.len interface, s₁, ?_,
    by rw [← hr']; exact henq, by rw [← hr']; exact hp, fun fuel => ?_⟩
  · have hpass : Passing s.ifList p := ⟨(transitTo_length d).ge, by rw [hpd]; exact hd⟩
    exact (hpass.copy _ _).2.trans hpd
  · have hq' : srArpcacheQueuereq env d (received s (transitTo d) slack interface).buf
        (transitTo d).length interface s.addArrival = .ok r.addr s₁ := hq
    rw [receive_of_transit ha hl, bind_apply, packetToOtherDest, if_neg ht, bind_apply, get_apply]
    dsimp only
    rw [hpd, SrInstance.addArrival_routingTable, hrt]
    dsimp only
    rw [SrInstance.addArrival_cache, hno]
    dsimp only
    rw [bind_apply, hq']
    dsimp only
    rw [bind_apply, hr']
    cases handleArpreq env fuel s.cache.requests.fresh (some rt) s₁ <;> rfl

/-- A request for `d` was sent on behalf of a packet that waits for `d`. -/
theorem ResolvesNextHop.gw_eq {x : Happening} {d : UInt32} {rt : SrRt} {c : SendCall}
    {r : SrArpreq} {p : SrPacket} (hx : ResolvesNextHop env x)
    (hrt : longestPrefixSum x.before.routingTable d = some rt) (hc : c ∈ x.sends env)
    (he : c.emitter = .arpRequestSend) (hcd : arTip c.buf = d)
    (hr : r ∈ (x.after env).cache.requests.pending) (hrd : r.ip = d) (hp : p ∈ r.packets)
    (hpd : ipDst p.buf.mem = d) : rt.gw = d := by
  obtain ⟨rt',hrt',hgw⟩ := hx.asked c hc he r hr (hrd.trans hcd.symm) p hp
  rw [hpd, hrt] at hrt'
  obtain rfl := Option.some.inj hrt'
  exact hgw.trans hcd

/-- A router just started. -/
def started (ifs : List SrIf) (routes : List SrRt) : SrInstance :=
  ⟨ifs, routes, srArpcacheInit, Log.empty⟩

theorem started_initial (ifs : List SrIf) (routes : List SrRt) : Initial (started ifs routes) :=
  ⟨rfl,rfl⟩

theorem lookup_init (d : UInt32) : srArpcacheLookup srArpcacheInit.entries d = none := by
  rw [srArpcacheLookup, Option.eq_none_iff_forall_not_mem]
  intro e he
  obtain ⟨i,-,hp,-⟩ := (lastMatch_eq_some_iff _ _ _).mp he
  exact absurd ((maps_iff _ _).mp hp).1 Bool.false_ne_true

/-- The route has its interface: the request goes out when the packet comes in. -/
theorem gw_eq_of_interface (hall : NextHopAlways ifs routes) {d : UInt32} {rt : SrRt} {i : SrIf}
    (hd : Foreign ifs d) (hrt : longestPrefixSum routes d = some rt)
    (hi : srGetInterface ifs rt.interface = some i) : rt.gw = d := by
  -- a router just started gets one packet for `d`, and asks for `d` at once
  let s₀ := started ifs routes
  obtain ⟨p,s₁,hpd,henq,hpend,hrun⟩ := @receive_queues obligingHost s₀ d rt hd hrt (lookup_init d)
    (fun r hr => absurd hr List.not_mem_nil) (fun _ => 0) eth0
  let r : SrArpreq := ⟨s₀.cache.requests.fresh, d, 0, 0, [p]⟩
  have hi₁ : srGetInterface s₁.ifList rt.interface = some i := by rw [henq.ifList]; exact hi
  have hdue : Due obligingHost s₁ r := by
    rw [Due, SrInstance.now, henq.times]
    exact (by decide : (1 : ℤ) < 100-0)
  let x : Happening := ⟨s₀, .receive (transitTo d) (fun _ => 0) eth0, 1⟩
  have hafter : x.after obligingHost = retriedState obligingHost s₁ r i := by
    have hfirst : ¬5 ≤ r.timesSent := Nat.not_succ_le_zero 4
    have hret := handleArpreq_of_retry obligingHost henq.mem hdue hfirst hi₁ 1
    rw [Happening.after, hrun 1, hret]
    rfl
  have hsends : x.sends obligingHost =
      [arpRequestCall obligingHost (retryingState obligingHost s₁ r) i d] := by
    have happ := x.sends_append obligingHost
    rw [hafter, retriedState_sends, henq.sends] at happ
    exact (List.append_cancel_right happ).symm
  have hone : s₁.cache.requests.pending = [] ++ r :: [] := hpend
  have hpend' := @retriedState_pending obligingHost s₁ r [] [] hone i
  -- the rule, read for this run, says that it asked for the gateway
  have hx := hall obligingHost s₀ [x] _ obligingHost_readsAddress (started_initial ifs routes) rfl rfl
    (History.next _ 1 History.start) x List.mem_cons_self
  refine hx.gw_eq hrt (by rw [hsends]; exact List.mem_cons_self) rfl (arpRequestCall_tip _ _ _)
    (by rw [hafter, hpend']; exact List.mem_cons_self) rfl List.mem_cons_self hpd

/-- A host whose clock starts at zero and then jumps. -/
def lateHost : Env := ⟨fun n => if n < 2 then 0 else 100, fun _ _ => 0, fun _ len => len, some⟩

/-- Two packets have come in while the clock stood at zero, and nothing has been asked yet. -/
theorem exists_two_waiting {d d' : UInt32} {rt rt' : SrRt} (hd : Foreign ifs d)
    (hd' : Foreign ifs d') (hne : d ≠ d') (hrt : longestPrefixSum routes d = some rt)
    (hrt' : longestPrefixSum routes d' = some rt') :
    ∃ h t r r' p, History lateHost (started ifs routes) h t ∧
      t.ifList = ifs ∧ t.routingTable = routes ∧ t.log.times = 2 ∧
      t.cache.requests.pending = [r', r] ∧ r = ⟨0, d, 0, 0, [p]⟩ ∧ ipDst p.buf.mem = d ∧
      r'.ip = d' ∧ r'.sent = 0 ∧ r'.timesSent = 0 := by
  let s₀ := started ifs routes
  let ev (d : UInt32) : Event := .receive (transitTo d) (fun _ => 0) eth0
  obtain ⟨p,s₁,hpd,henq,hpend,hrun⟩ := @receive_queues lateHost s₀ d rt hd hrt (lookup_init d)
    (fun r hr => absurd hr List.not_mem_nil) (fun _ => 0) eth0
  let r : SrArpreq := ⟨s₀.cache.requests.fresh, d, 0, 0, [p]⟩
  -- the clock still stands at zero, so neither request goes out when its packet comes in
  have hdue : ¬Due lateHost s₁ r := by
    rw [Due, SrInstance.now, henq.times]
    exact (by decide : ¬(1 : ℤ) < 0-0)
  let t₁ := handledState lateHost s₁ r
  have h₁ : finalState (handle lateHost 1 (ev d) s₀) = t₁ := by
    rw [hrun 1, handleArpreq_of_not_due lateHost henq.mem hdue]
    rfl
  have hi₁ : t₁.ifList = ifs := henq.ifList
  have ht₁ : t₁.routingTable = routes := henq.routingTable
  have hp₁ : t₁.cache.requests.pending = [r] := hpend
  have hc₁ : srArpcacheLookup t₁.cache.entries d' = none := by
    have he : t₁.cache.entries = s₀.cache.entries := henq.entries
    rw [he]
    exact lookup_init d'
  have hnew : ∀ x ∈ t₁.cache.requests.pending, x.ip ≠ d' := by
    rw [hp₁]
    intro x hx
    obtain rfl := List.mem_singleton.mp hx
    exact hne
  -- the second request is pushed in front of the first
  obtain ⟨p',s₂,-,henq',hpend',hrun'⟩ := @receive_queues lateHost t₁ d' rt'
    (by rw [hi₁]; exact hd') (by rw [ht₁]; exact hrt') hc₁ hnew (fun _ => 0) eth0
  let r' : SrArpreq := ⟨t₁.cache.requests.fresh, d', 0, 0, [p']⟩
  have htimes : s₂.log.times = 1 := by
    have h : t₁.log.times = s₁.log.times+1 := rfl
    rw [henq'.times, SrInstance.addArrival_log_times, h, henq.times]
    rfl
  have hdue' : ¬Due lateHost s₂ r' := by
    rw [Due, SrInstance.now, htimes]
    exact (by decide : ¬(1 : ℤ) < 0-0)
  let t₂ := handledState lateHost s₂ r'
  have h₂ : finalState (handle lateHost 1 (ev d') t₁) = t₂ := by
    rw [hrun' 1, handleArpreq_of_not_due lateHost henq'.mem hdue']
    rfl
  have hone : History lateHost s₀ [⟨s₀, ev d, 1⟩] t₁ := by
    rw [← h₁]
    exact History.next (ev d) 1 History.start
  have hboth : History lateHost s₀ [⟨s₀, ev d, 1⟩, ⟨t₁, ev d', 1⟩] t₂ := by
    rw [← h₂]
    exact History.next (ev d') 1 hone
  refine ⟨_, t₂, r, r', p, hboth, henq'.ifList.trans hi₁, henq'.routingTable.trans ht₁, ?_, ?_,
    rfl, hpd, rfl, rfl, rfl⟩
  · have h : t₂.log.times = s₂.log.times+1 := rfl
    rw [h, htimes]
  · rw [← hp₁]
    exact hpend'

/-- A sweep over two due requests broadcasts both by the interface of the first one's route. -/
theorem sweep_broadcasts {t : SrInstance} {r r' : SrArpreq} {rt : SrRt} {i : SrIf}
    (hp : t.cache.requests.pending = [r', r]) (hread : env.ipDstAt r'.ip = some r'.ip)
    (hrt : longestPrefixSum t.routingTable r'.ip = some rt)
    (hi : srGetInterface t.ifList rt.interface = some i)
    (hdue' : 1 < env.time t.log.times-r'.sent) (hdue : 1 < env.time (t.log.times+1)-r.sent)
    (hfirst' : r'.timesSent = 0) (hfirst : r.timesSent = 0) :
    ∃ c ∈ (⟨t,.sweep,2⟩ : Happening).sends env, c.emitter = .arpRequestSend ∧
      arTip c.buf = r.ip ∧ ∃ x ∈ ((⟨t,.sweep,2⟩ : Happening).after env).cache.requests.pending,
        x.ip = r.ip ∧ x.packets = r.packets := by
  have hnew' : r'.timesSent < 5 := by omega
  have hnew : ¬5 ≤ r.timesSent := by omega
  let t₁ := (t.addAccess ⟨r'.addr, .ip, false, false⟩).addAccess ⟨r'.addr, .next, false, false⟩
  have hp₁ : t₁.cache.requests.pending = [] ++ r' :: [r] := hp
  have hd₁ : Due env t₁ r' := hdue'
  have hi₁ : srGetInterface t₁.ifList rt.interface = some i := hi
  have hret₁ := handleArpreq_of_retry env (Requests.mem_of_split hp₁) hd₁
    (Nat.not_le.mpr hnew') hi₁ 2
  have hh₁ : Handled env (some rt) t₁ r' (retriedState env t₁ r' i) :=
    Handled.retried hd₁ hnew' rfl hi₁
  have hp₂ := @retriedState_pending env t₁ r' [] [r] hp₁ i
  -- from here on only the place of the first request in the queue matters
  generalize ({ r' with sent := t₁.now env, timesSent := r'.timesSent+1 } : SrArpreq) = asked at hp₂
  have hs₂ := @retriedState_sends env t₁ r' i
  generalize retriedState env t₁ r' i = t₂ at hret₁ hh₁ hp₂ hs₂
  -- the walk goes on to `r`, with the route that was looked up for `r'`
  let a : Access := ⟨r'.addr, .next, false,
    decide (Exhausted env (t.addAccess ⟨r'.addr, .ip, false, false⟩) r')⟩
  let t₃ := (t₂.addAccess a).addAccess ⟨r.addr, .next, false, false⟩
  have hp₃ : t₃.cache.requests.pending = [asked] ++ r :: [] := hp₂
  have hd₃ : Due env t₃ r := by
    have htimes : t₃.log.times = t.log.times+1 := hh₁.times
    rw [Due, SrInstance.now, htimes]
    exact hdue
  have hi₃ : srGetInterface t₃.ifList rt.interface = some i := by
    have hl : t₃.ifList = t.ifList := hh₁.frame.1
    rw [hl]
    exact hi
  have hret₃ := handleArpreq_of_retry env (Requests.mem_of_split hp₃) hd₃ hnew hi₃ 2
  let x : Happening := ⟨t,.sweep,2⟩
  have hafter : x.after env = retriedState env t₃ r i := by
    have hs : handle env 2 .sweep t = .ok () (retriedState env t₃ r i) := by
      have hpa : (t₂.addAccess a).cache.requests.pending = [asked] ++ [r] := hp₂
      rw [handle, srArpcacheSweepreqs_cons hp hread, hrt,
        @sweepFrom_cons env 2 (some rt) (t.addAccess ⟨r'.addr, .ip, false, false⟩)
          t₂ r' r [] [] hp₁ hret₁, sweepFrom_last hpa]
      exact hret₃
    rw [Happening.after, hs]
    rfl
  have hsends : x.sends env = [arpRequestCall env (retryingState env t₃ r) i r.ip,
      arpRequestCall env (retryingState env t₁ r') i r'.ip] := by
    have happ := x.sends_append env
    have hold : t₃.log.sends =
        arpRequestCall env (retryingState env t₁ r') i r'.ip :: t.log.sends := hs₂
    rw [hafter, retriedState_sends, hold] at happ
    apply List.append_cancel_right
    exact happ.symm
  have hp₄ := @retriedState_pending env t₃ r [asked] [] hp₃ i
  refine ⟨_, by rw [hsends]; exact List.mem_cons_self, rfl, arpRequestCall_tip _ _ _,
    { r with sent := t₃.now env, timesSent := r.timesSent+1 }, ?_, rfl, rfl⟩
  rw [hafter, hp₄]
  simp

/-- The route has no interface, but another one has: the sweep takes the route of the head of
the queue for every request, so the request goes out behind one that has a way out. -/
theorem gw_eq_of_other_interface (hall : NextHopAlways ifs routes) {d d' : UInt32}
    {rt rt' : SrRt} {i : SrIf} (hd : Foreign ifs d) (hd' : Foreign ifs d') (hne : d ≠ d')
    (hrt : longestPrefixSum routes d = some rt) (hrt' : longestPrefixSum routes d' = some rt')
    (hi : srGetInterface ifs rt'.interface = some i) : rt.gw = d := by
  obtain ⟨h,t,r,r',p,hh,htl,htr,htimes,hp,rfl,hpd,hip,hsent,hfirst⟩ :=
    exists_two_waiting hd hd' hne hrt hrt'
  have hlate : 1 < lateHost.time t.log.times-r'.sent := by
    rw [htimes, hsent]
    exact (by decide : (1 : ℤ) < 100-0)
  have hlater : 1 < lateHost.time (t.log.times+1)-(0 : ℤ) := by
    rw [htimes]
    exact (by decide : (1 : ℤ) < 100-0)
  obtain ⟨c,hc,he,htip,x,hx,hxip,hxp⟩ := @sweep_broadcasts lateHost t ⟨0, d, 0, 0, [p]⟩ r' rt' i hp rfl
    (by rw [htr, hip]; exact hrt') (by rw [htl]; exact hi) hlate hlater hfirst rfl
  have hres := hall lateHost _ _ _ (fun _ _ h => (Option.some.inj h).symm)
    (started_initial ifs routes) rfl rfl (History.next .sweep 2 hh) ⟨t,.sweep,2⟩ (by simp)
  exact hres.gw_eq (by rw [htr]; exact hrt) hc he htip hx hxip (by rw [hxp]; exact List.mem_cons_self)
    hpd

/-- Next hops are resolved in every run exactly if no route needs a gateway, or none has an
interface. -/
theorem nextHopAlways_iff (ifs : List SrIf) (routes : List SrRt) :
    NextHopAlways ifs routes ↔ (HasWayOut ifs routes → Gatewayless ifs routes) := by
  constructor
  · rintro hall ⟨d',rt',hd',hrt',hi'⟩ d rt hd hrt
    obtain ⟨i',hi'⟩ := Option.isSome_iff_exists.mp hi'
    cases hi : srGetInterface ifs rt.interface with
    | some i => exact gw_eq_of_interface hall hd hrt hi
    | none =>
      refine gw_eq_of_other_interface hall hd hd' ?_ hrt hrt' hi'
      rintro rfl
      rw [hrt] at hrt'
      obtain rfl := Option.some.inj hrt'
      rw [hi] at hi'
      contradiction
  · intro hg env s₀ h s hread h₀ hi ht hh
    exact (hh.steered hread hg h₀ hi ht).2

/-- The small router with the second host behind a gateway. -/
def gatewayRouter : SrInstance :=
  { smallRouter with
    routingTable := [⟨address 10 0 1 2, address 10 0 1 254, 0, eth1⟩] }

/-- The request that goes out for the transit packet asks for its destination. -/
theorem gateway_not_asked :
    let x : Happening := ⟨gatewayRouter, .receive transitFrame (fun _ => 0) eth0, 1⟩
    Initial gatewayRouter ∧ History obligingHost gatewayRouter [x] (x.after obligingHost) ∧
      ¬ResolvesNextHop obligingHost x := by
  intro x
  refine ⟨⟨rfl,rfl⟩, History.next _ 1 History.start, ?_⟩
  intro hx
  have hc : ∃ c ∈ x.sends obligingHost, c.emitter = .arpRequestSend ∧
      arTip c.buf = address 10 0 1 2 := by decide +kernel
  have hr : ∃ r ∈ (x.after obligingHost).cache.requests.pending, r.ip = address 10 0 1 2 ∧
      ∃ p ∈ r.packets, ipDst p.buf.mem = address 10 0 1 2 := by decide +kernel
  obtain ⟨c,hc,he,htip⟩ := hc
  obtain ⟨r,hr,hrip,p,hp,hpd⟩ := hr
  have hgw := hx.gw_eq rfl hc he htip hr hrip hp hpd
  exact absurd hgw (by decide)

end InternetCourse.Router
