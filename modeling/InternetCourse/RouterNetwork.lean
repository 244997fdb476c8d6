import InternetCourse.MessagePassing
import InternetCourse.RouterForward
import InternetCourse.RouterReplies
import InternetCourse.RouterResolve
import InternetCourse.RouterNextHop
import InternetCourse.RouterHistory

/-! Any number of routers on any network: what one of them puts on the wire may reach any other,
late, twice, or not at all. No cache learns a mapping that nobody answers for, and no packet
is passed on that nobody sent. -/
namespace InternetCourse.Router

open ByteMem SlotTable StateTriple MessagePassing

/-- The frames handed to `sr_send_packet` so far. -/
def framesSent (s : SrInstance) : Set (List UInt8) := {f | ∃ c ∈ s.log.sends, c.frame = f}

/-- A router as a component of a network. An event that crashes leaves the state it crashed in. -/
def station (env : Env) : Component SrInstance (List UInt8) where
  takes f s s' := ∃ fuel slack interface,
    s' = finalState (handle env fuel (.receive f slack interface) s)
  acts s s' := ∃ fuel,
    s' = finalState (handle env fuel .expiry s) ∨ s' = finalState (handle env fuel .sweep s)
  sent := framesSent

/-- The interfaces are `ifs`, every mapping in the cache satisfies `E`, every packet that waits
`P`, and every message sent `C`. -/
structure Vouched (ifs : List SrIf) (E : UInt32 → Six → Prop) (P : Mem → ℕ → Prop)
    (C : Emitter → Mem → ℕ → Prop) (s : SrInstance) : Prop where
  ifList : s.ifList = ifs
  entries : ∀ k, (s.cache.entries k).valid = true → E (s.cache.entries k).ip (s.cache.entries k).mac
  waiting : ∀ r ∈ s.cache.requests.pending, ∀ p ∈ r.packets, P p.buf.mem p.len
  calls : ∀ c ∈ s.log.sends, C c.emitter c.buf c.len

/-- What the messages are made of speaks for them. -/
structure Vouches (ifs : List SrIf) (E : UInt32 → Six → Prop) (P : Mem → ℕ → Prop)
    (C : Emitter → Mem → ℕ → Prop) : Prop where
  copy : ∀ m m' len, P m len → (∀ i < len, m' i = m i) → P m' len
  forward : ∀ m len mac, ∀ i ∈ ifs, P m len → 1 < ipTtl m → E (ipDst m) mac →
    C .packetToOtherDest (forwardFrame m i.addr mac) len
  error : ∀ emitter type code ttl buff m len, ∀ i ∈ ifs, P m len → emitter ≠ .packetToOtherDest →
    C emitter (icmpErrorFrame type code ttl buff m i) len
  broadcast : ∀ packet ehdr arpHdr ip, ∀ i ∈ ifs,
    C .arpRequestSend (arpRequestFrame packet ehdr arpHdr i ip) 42

/-- The same for a frame that comes in. -/
structure VouchesIn (ifs : List SrIf) (E : UInt32 → Six → Prop) (P : Mem → ℕ → Prop)
    (C : Emitter → Mem → ℕ → Prop) (m : Mem) (len : ℕ) : Prop where
  taken : Accepted m len → P m len
  stored : ethertype m = ethertypeArp → ntohs (arOp m) = 2 → E (arSip m) (arSha m)
  replied : ∀ i ∈ ifs, ethertype m = ethertypeArp → ntohs (arOp m) = 1 →
    C .arpPacket (arpReplyFrame m i) len
  echoed : ∀ i ∈ ifs, Accepted m len → ipP m = 1 → C .echoReply (echoReplyFrame m i) len

section Vouched

variable {env : Env} {ifs : List SrIf} {E : UInt32 → Six → Prop} {P : Mem → ℕ → Prop}
  {C : Emitter → Mem → ℕ → Prop} {s t : SrInstance}

theorem Vouched.addSend (h : Vouched ifs E P C s) {c : SendCall} (hc : C c.emitter c.buf c.len) :
    Vouched ifs E P C (s.addSend c) := by
  refine ⟨h.ifList, h.entries, h.waiting, ?_⟩
  intro x hx
  rcases List.mem_cons.mp hx with rfl | hx
  · exact hc
  · exact h.calls x hx

/-- What waits may be fewer packets, everything else is the same. -/
theorem Vouched.of_same (h : Vouched ifs E P C s) (hi : t.ifList = s.ifList)
    (he : t.cache.entries = s.cache.entries) (hs : t.log.sends = s.log.sends)
    (hq : ∀ r ∈ t.cache.requests.pending,
      ∃ r₀ ∈ s.cache.requests.pending, r.packets = r₀.packets) : Vouched ifs E P C t := by
  refine ⟨hi.trans h.ifList, by rw [he]; exact h.entries, ?_, by rw [hs]; exact h.calls⟩
  intro r hr p hp
  obtain ⟨r₀,hr₀,hpk⟩ := hq r hr
  rw [hpk] at hp
  exact h.waiting r₀ hr₀ p hp

/-- A message of an error handler, about a packet that is vouched for. -/
theorem Vouched.error (h : Vouched ifs E P C s) (hv : Vouches ifs E P C) {packet : Buf} {len : ℕ}
    (hp : P packet.mem len) {i : SrIf} (hi : i ∈ ifs) {emitter : Emitter}
    (he : emitter ≠ .packetToOtherDest) (type code : UInt8) (ttl : UInt8 → UInt8)
    (interface : CName) : Vouched ifs E P C
      (s.addMalloc.addSend (icmpErrorCall env s emitter type code ttl packet i interface len)) := by
  have hsame : Vouched ifs E P C s.addMalloc := h.of_same rfl rfl rfl fun r hr => ⟨r,hr,rfl⟩
  apply hsame.addSend
  exact hv.error emitter type code ttl (env.malloc s.log.mallocs) packet.mem len i hi hp he

theorem srGetInterface_mem {ifList : List SrIf} {name : CName} {i : SrIf}
    (h : srGetInterface ifList name = some i) : i ∈ ifList := List.mem_of_find?_eq_some h

theorem vouched_preserved (env : Env) (hv : Vouches ifs E P C) :
    Preserved env (fun p => P p.buf.mem p.len) (fun _ => True) (Vouched ifs E P C) where
  time _ h := h.of_same rfl rfl rfl fun r hr => ⟨r,hr,rfl⟩
  malloc _ h := h.of_same rfl rfl rfl fun r hr => ⟨r,hr,rfl⟩
  access _ _ h := h.of_same rfl rfl rfl fun r hr => ⟨r,hr,rfl⟩
  arp _ _ h := h.of_same rfl rfl rfl fun r hr => ⟨r,hr,rfl⟩
  waiting _ h := h.waiting
  dst _ _ := trivial
  ip _ _ _ _ _ _ := trivial
  stamped s addr now destroyed h := h.of_same rfl rfl rfl fun r hr => by
    obtain ⟨r₀,hr₀,-,hp⟩ := stampedState_mem hr
    exact ⟨r₀,hr₀,hp⟩
  destroyed s r h := h.of_same rfl rfl rfl fun x hx => ⟨x, List.mem_of_mem_eraseP hx, rfl⟩
  enqueued s p interface rt r s' h hp _ _ he := by
    refine ⟨he.ifList.trans h.ifList, by rw [he.entries]; exact h.entries, ?_,
      by rw [he.sends]; exact h.calls⟩
    intro x hx q hq
    rcases he.packets hx hq with ⟨hq,-⟩ | ⟨r₀,hr₀,-,hq⟩
    · -- the copy starts with the bytes of the packet
      rw [queuedCopies] at hq
      split_ifs at hq
      · obtain rfl := List.mem_singleton.mp hq
        exact hv.copy _ _ _ hp fun i hi => queuedCopy_mem _ _ _ _ hi
      · exact absurd hq List.not_mem_nil
    · exact h.waiting r₀ hr₀ q hq
  broadcast s r d rt i h _ _ _ hi := by
    have hmem : i ∈ ifs := h.ifList ▸ srGetInterface_mem hi
    have hsame : Vouched ifs E P C (s.addMalloc.addMalloc.addMalloc.addAccess
        ⟨r.addr, .ip, false, false⟩) := h.of_same rfl rfl rfl fun r hr => ⟨r,hr,rfl⟩
    apply hsame.addSend
    exact hv.broadcast _ _ _ r.ip i hmem
  forwarded s p rt e i h hp httl _ he hi := by
    obtain ⟨k,rfl,hk,-⟩ := (lastMatch_eq_some_iff _ _ _).mp he
    obtain ⟨hvalid,hip⟩ := (maps_iff _ _).mp hk
    apply h.addSend
    apply hv.forward _ _ _ i (h.ifList ▸ srGetInterface_mem hi) hp httl
    rw [← hip]
    exact h.entries k hvalid
  expired s p i interface h hp _ hi := by
    have hmem : i ∈ ifs := h.ifList ▸ srGetInterface_mem hi
    exact h.error hv hp hmem (by decide) _ _ _ interface
  unreachable s p i interface h hp hi := by
    have hmem : i ∈ ifs := h.ifList ▸ srGetInterface_mem hi
    exact h.error hv hp hmem (by decide) _ _ _ interface

theorem insertEntry_cases {entries : Entries} {mac : Six} {ip : UInt32} {now : ℤ}
    {k : Fin SR_ARPCACHE_SZ} : insertEntry entries mac ip now k = entries k ∨
      insertEntry entries mac ip now k = ⟨mac, ip, now, true⟩ := by
  rw [insertEntry]
  cases freeSlot entries with
  | none => exact Or.inl rfl
  | some i =>
    by_cases hk : k = i
    · subst hk
      exact Or.inr (Function.update_self ..)
    · exact Or.inl (Function.update_of_ne hk ..)

/-- What is known of the mappings, the packets that wait and the messages stays known when a frame
comes in that is vouched for. -/
theorem Vouched.receive (h : Vouched ifs E P C s) (hv : Vouches ifs E P C)
    {frame : List UInt8} {slack : Mem}
    (hin : VouchesIn ifs E P C (load frame slack) frame.length) (interface : CName) (fuel : ℕ) :
    Vouched ifs E P C (finalState (handle env fuel (.receive frame slack interface) s)) := by
  have harr : Vouched ifs E P C s.addArrival := h.of_same rfl rfl rfl fun r hr => ⟨r,hr,rfl⟩
  have hmem {i : SrIf} (hi : srGetInterface s.ifList interface = some i) : i ∈ ifs :=
    h.ifList ▸ srGetInterface_mem hi
  refine receive_keeps (vouched_preserved env hv) ⟨fun _ => harr, ?_, ?_, ?_, ?_, ?_, ?_⟩ fuel
  · rintro ⟨ha,h2,-⟩
    obtain ⟨hi,-,hs,-⟩ := insertedState_frame env (arSha (load frame slack))
      (arSip (load frame slack)) s.addArrival
    refine ⟨hi.trans h.ifList, ?_, ?_, by rw [received, hs]; exact h.calls⟩
    · intro k hk
      rw [received, insertedState_entries] at hk ⊢
      rcases @insertEntry_cases s.addArrival.cache.entries (arSha (load frame slack))
        (arSip (load frame slack)) (env.time s.addArrival.log.times) k with hold | hnew
      · rw [hold] at hk ⊢
        exact h.entries k hk
      · rw [hnew]
        exact hin.stored ha h2
    · intro r hr
      rw [received, insertedState_pending] at hr
      exact h.waiting r (List.mem_of_mem_eraseP hr)
  · intro _ q hq
    obtain ⟨r,hr,-,hq⟩ := mem_waitingFor hq
    exact h.waiting r hr q hq
  · intro i hi ha h1
    apply harr.addSend
    exact hin.replied i (hmem hi) ha h1
  · exact fun ha _ => hin.taken ha
  · intro i ha _ h1 hi
    apply harr.addSend
    exact hin.echoed i (hmem hi) ha h1
  · intro i ha _ _ hi
    have hp := hin.taken ha
    exact @Vouched.error _ _ _ _ _ _ harr hv (received s frame slack interface).buf _ hp _ (hmem hi)
      _ (by decide) _ _ _ interface

theorem Vouched.expiry (h : Vouched ifs E P C s) (fuel : ℕ) :
    Vouched ifs E P C (finalState (handle env fuel .expiry s)) := by
  refine ⟨h.ifList, ?_, h.waiting, h.calls⟩
  intro k hk
  have hexp := handle_entries env fuel .expiry s
  rw [hexp] at hk ⊢
  rw [entriesAfter, expireEntries_of_valid hk]
  apply h.entries k
  rwa [entriesAfter, expireEntries_of_valid hk] at hk

/-- The timer's two passes need nothing vouched for. -/
theorem Vouched.acts (h : Vouched ifs E P C s) (hv : Vouches ifs E P C)
    (ha : (station env).acts s t) : Vouched ifs E P C t := by
  obtain ⟨fuel,rfl | rfl⟩ := ha
  · exact h.expiry fuel
  · exact sweep_keeps (vouched_preserved env hv) h fuel

theorem Initial.vouched (h : Initial s) : Vouched s.ifList E P C s := by
  refine ⟨rfl, ?_, ?_, ?_⟩
  · intro k hk
    rw [h.cache] at hk
    contradiction
  · intro r hr
    rw [h.cache] at hr
    exact absurd hr List.not_mem_nil
  · intro c hc
    rw [h.log] at hc
    exact absurd hc List.not_mem_nil

end Vouched

/-! No cache is poisoned. -/

/-- A frame that is whole if it is an ARP packet, and if it is a reply announces a mapping that
`Owns` bears out, whatever lies behind it in memory. -/
def Honest (Owns : UInt32 → Six → Prop) (f : List UInt8) : Prop :=
  ∀ slack, ethertype (load f slack) = ethertypeArp → 42 ≤ f.length ∧
    (ntohs (arOp (load f slack)) = 2 → Owns (arSip (load f slack)) (arSha (load f slack)))

section Honest

variable {env : Env} {ifs : List SrIf} {Owns : UInt32 → Six → Prop} {m : Mem} {len : ℕ}

theorem wire_load (f : List UInt8) (slack : Mem) : wire (load f slack) f.length = f := by
  apply List.ext_getElem
  · exact wire_length _ _
  · intro i h _
    rw [wire_length] at h
    rw [← load_of_lt slack h]
    simp only [wire, List.getElem_map, List.getElem_range]

theorem honest_of_type_ne (hl : 14 ≤ len) (ht : ethertype m ≠ ethertypeArp) :
    Honest Owns (wire m len) := by
  intro slack ha
  have hsame : ethertype (load (wire m len) slack) = ethertype m :=
    congrArg ntohs (get16_congr fun i _ hi => load_wire slack (by omega))
  exact absurd (hsame.symm.trans ha) ht

theorem honest_of_checksummed (h : Checksummed m len) : Honest Owns (wire m len) := by
  have hl := h.length
  apply honest_of_type_ne (by omega)
  rw [h.ip]
  decide

theorem honest_of_arp {op : UInt16} {sha : Six} {sip tip : UInt32} (hl : 42 ≤ len)
    (hm : ArpFields m op sha sip tip) (hop : op = 2 → Owns sip sha) :
    Honest Owns (wire m len) := by
  intro slack _
  have hf : ArpFields (load (wire m len) slack) op sha sip tip :=
    hm.congr fun i hi => load_wire slack (by omega)
  rw [wire_length, hf.op, hf.sip, hf.sha]
  exact ⟨hl,hop⟩

/-- What is known of a message of a router among honest ones. -/
def Truthful (Owns : UInt32 → Six → Prop) (emitter : Emitter) (m : Mem) (len : ℕ) : Prop :=
  Honest Owns (wire m len) ∧
    (emitter = .packetToOtherDest → Owns (ipDst m) (etherDhost m))

theorem truthful_vouches : Vouches ifs Owns Accepted (Truthful Owns) where
  copy _ _ _ ha hb := ha.congr hb
  forward m len mac i _ ha _ he := by
    refine ⟨honest_of_checksummed (forwardFrame_checksummed ha i.addr mac), ?_⟩
    intro _
    rw [forwardFrame_ipDst, forwardFrame_dhost]
    exact he
  error emitter type code ttl buff m len i _ ha hne := by
    have hsum := (icmpErrorFrame_reply ha type code ttl buff i).checksummed
    exact ⟨honest_of_checksummed hsum, fun he => absurd he hne⟩
  broadcast packet ehdr arpHdr ip i _ := by
    have hf := arpRequestFrame_fields packet ehdr arpHdr i ip
    exact ⟨honest_of_arp (Nat.le_refl _) hf fun h => absurd h (by decide), by simp⟩

theorem Honest.vouchesIn (hown : ∀ i ∈ ifs, Owns i.ip i.addr) {f : List UInt8} (hf : Honest Owns f)
    (slack : Mem) : VouchesIn ifs Owns Accepted (Truthful Owns) (load f slack) f.length where
  taken := id
  stored ha := (hf slack ha).2
  replied i hi ha _ := by
    -- the reply announces the interface itself, in a frame as long as the request
    have hin : ArpFields (load f slack) _ _ _ _ := ⟨ha,rfl,rfl,rfl,rfl⟩
    exact ⟨honest_of_arp (hf slack ha).1 (arpReplyFrame_fields hin i) fun _ => hown i hi, by simp⟩
  echoed i _ ha h1 := by
    have hsum := (echoReplyFrame_reply ha h1 i).checksummed
    exact ⟨honest_of_checksummed hsum, by simp⟩

end Honest

section Network

variable {ι : Type} [DecidableEq ι] {env : ι → Env} {Owns : UInt32 → Six → Prop}
  {net net' : Net ι SrInstance (List UInt8)}

/-- If the frames from outside announce only what is so, every router announces only what is so
and stores only what is so, and what it passes on goes to the owner of the destination address;
so no two routers disagree about an address that has one owner. -/
theorem no_cache_poisoned (h₀ : ∀ i, Initial (net.node i))
    (hown : ∀ i, ∀ x ∈ (net.node i).ifList, Owns x.ip x.addr)
    (hout : ∀ f ∈ net.wire, Honest Owns f)
    (hnet : NetRun (fun i => station (env i)) net net') (i : ι) :
    (∀ ip e, srArpcacheLookup (net'.node i).cache.entries ip = some e → Owns ip e.mac) ∧
    (∀ c ∈ (net'.node i).log.sends, Honest Owns c.frame ∧
      (c.emitter = .packetToOtherDest → Owns (ipDst c.buf) (etherDhost c.buf))) ∧
    ∀ j ip e e', (∀ mac mac', Owns ip mac → Owns ip mac' → mac = mac') →
      srArpcacheLookup (net'.node i).cache.entries ip = some e →
      srArpcacheLookup (net'.node j).cache.entries ip = some e' → e.mac = e'.mac := by
  have hall : ∀ j, Vouched (net.node j).ifList Owns Accepted (Truthful Owns) (net'.node j) := by
    apply (hnet.rely_guarantee ?_ ?_ ?_ (fun j => (h₀ j).vouched) hout).1
    · rintro j s hs f ⟨c,hc,rfl⟩
      exact (hs.calls c hc).1
    · rintro j f s s' hs hf ⟨fuel,slack,interface,rfl⟩
      exact hs.receive truthful_vouches (hf.vouchesIn (hown j) slack) interface fuel
    · intro j s s' hs ha
      exact hs.acts truthful_vouches ha
  have hlookup {j : ι} {ip : UInt32} {e : SrArpentry}
      (he : srArpcacheLookup (net'.node j).cache.entries ip = some e) : Owns ip e.mac := by
    obtain ⟨k,rfl,hk,-⟩ := (lastMatch_eq_some_iff _ _ _).mp he
    obtain ⟨hvalid,rfl⟩ := (maps_iff _ _).mp hk
    exact (hall j).entries k hvalid
  refine ⟨fun ip e he => hlookup he, (hall i).calls, ?_⟩
  intro j ip e e' hone he he'
  exact hone _ _ (hlookup he) (hlookup he')

end Network

/-- Two small routers, of which the first gets a packet and the answer to its request. -/
def smallNet : Net Bool SrInstance (List UInt8) :=
  ⟨fun _ => smallRouter, {transitFrame, arpReplyToEth1}⟩

theorem smallNet_runs : ∃ net', NetRun (fun _ => station obligingHost) smallNet net' ∧
    net'.node true = answeredRouter := by
  let net₁ := smallNet.move (fun _ => station obligingHost) true queuedRouter
  have h₁ : NetStep (fun _ => station obligingHost) smallNet net₁ :=
    NetStep.deliver (Set.mem_insert transitFrame {arpReplyToEth1})
      ⟨1, fun _ => 0, eth0, rfl⟩
  have hwire : arpReplyToEth1 ∈ net₁.wire :=
    h₁.wire_mono (Set.mem_insert_of_mem transitFrame (Set.mem_singleton arpReplyToEth1))
  have htakes : (station obligingHost).takes arpReplyToEth1 (net₁.node true) answeredRouter := by
    rw [show net₁.node true = queuedRouter from Net.move_self ..]
    exact ⟨1, fun _ => 0, eth1, rfl⟩
  exact ⟨_, (Relation.ReflTransGen.single h₁).tail (NetStep.deliver hwire htakes),
    Net.move_self ..⟩

/-- Who has which address around the small router. -/
def smallOwners (ip : UInt32) (mac : Six) : Prop :=
  (∃ i ∈ smallRouter.ifList, ip = i.ip ∧ mac = i.addr) ∨
    ip = address 10 0 1 2 ∧ mac = arSha (load arpReplyToEth1 fun _ => 0)

theorem no_cache_poisoned_smallNet : ∃ net' e,
    NetRun (fun _ => station obligingHost) smallNet net' ∧
    srArpcacheLookup (net'.node true).cache.entries (address 10 0 1 2) = some e ∧
    smallOwners (address 10 0 1 2) e.mac := by
  obtain ⟨net',hnet,hnode⟩ := smallNet_runs
  have hout : ∀ f ∈ smallNet.wire, Honest smallOwners f := by
    rintro f (rfl | rfl)
    · rw [← wire_load transitFrame fun _ => 0]
      exact honest_of_type_ne (by decide) (by decide)
    · rw [← wire_load arpReplyToEth1 fun _ => 0]
      exact honest_of_arp (by decide) ⟨by decide, rfl, rfl, rfl, rfl⟩
        fun _ => Or.inr ⟨by decide, rfl⟩
  have hsome : (srArpcacheLookup answeredRouter.cache.entries (address 10 0 1 2)).isSome := by
    decide +kernel
  obtain ⟨e,he⟩ := Option.isSome_iff_exists.mp hsome
  rw [← hnode] at he
  have htrue := (no_cache_poisoned (fun _ => smallRouter_initial)
    (fun _ x hx => Or.inl ⟨x,hx,rfl,rfl⟩) hout hnet true).1 _ _ he
  exact ⟨net', e, hnet, he, htrue⟩

/-! No packet is passed on that nobody sent. -/

/-- A packet in the memory of a router that started as one of the frames in `M`. -/
def CameFrom (M : Set (List UInt8)) (m : Mem) (len : ℕ) : Prop :=
  ∃ f ∈ M, len = f.length ∧ Accepted m len ∧ ∀ i < len, m i = f.getD i 0

/-- A frame that is passed on has made one hop since it was last on the wire. -/
def HopFrom (M : Set (List UInt8)) (emitter : Emitter) (m : Mem) (len : ℕ) : Prop :=
  emitter = .packetToOtherDest → ∃ f ∈ M, Travelled 1 f (wire m len)

section Provenance

variable {ifs : List SrIf} {M M' : Set (List UInt8)} {E : UInt32 → Six → Prop}
  {P P' : Mem → ℕ → Prop} {C C' : Emitter → Mem → ℕ → Prop} {s : SrInstance}

theorem Vouched.mono (h : Vouched ifs E P C s) (hp : ∀ m len, P m len → P' m len)
    (hc : ∀ emitter m len, C emitter m len → C' emitter m len) : Vouched ifs E P' C' s :=
  ⟨h.ifList, h.entries, fun r hr p hpk => hp _ _ (h.waiting r hr p hpk),
    fun c hm => hc _ _ _ (h.calls c hm)⟩

/-- What is passed on is a frame one hop further; the state it is passed on in does not matter. -/
theorem forwardFrame_travelled {f : List UInt8} {m : Mem} (ha : Accepted m f.length)
    (hb : ∀ i < f.length, m i = f.getD i 0) (ht : 1 < ipTtl m) (i : SrIf) (mac : Six) :
    Travelled 1 f (wire (forwardFrame m i.addr mac) f.length) :=
  (@forward_hereditary obligingHost f).forward smallRouter ⟨⟨m,0⟩, f.length, []⟩ i
    ⟨mac, 0, 0, true⟩ ⟨rfl,ha,hb⟩ ht rfl

theorem hopFrom_vouches : Vouches ifs (fun _ _ => True) (CameFrom M) (HopFrom M) where
  copy := by
    rintro m m' len ⟨f,hf,rfl,ha,hb⟩ hsame
    exact ⟨f, hf, rfl, ha.congr hsame, fun i hi => (hsame i hi).trans (hb i hi)⟩
  forward := by
    rintro m len mac i _ ⟨f,hf,rfl,ha,hb⟩ ht _ _
    exact ⟨f, hf, forwardFrame_travelled ha hb ht i mac⟩
  error _ _ _ _ _ _ _ _ _ _ hne he := absurd he hne
  broadcast _ _ _ _ _ _ he := by contradiction

theorem hopFrom_vouchesIn {f : List UInt8} (hf : f ∈ M) (slack : Mem) :
    VouchesIn ifs (fun _ _ => True) (CameFrom M) (HopFrom M) (load f slack) f.length where
  taken ha := by
    refine ⟨f, hf, rfl, ha, ?_⟩
    intro i hi
    rw [load_of_lt slack hi, List.getD_eq_getElem _ _ hi]
  stored _ _ := trivial
  replied _ _ _ _ he := by contradiction
  echoed _ _ _ _ he := by contradiction

theorem timeToLive_le (f : List UInt8) : timeToLive f ≤ 255 := Nat.le_of_lt_succ (UInt8.toNat_lt _)

variable {ι : Type} [DecidableEq ι] {env : ι → Env} {net net' : Net ι SrInstance (List UInt8)}

/-- A frame that was not passed on: it was on the wire from the start, or some router has made
it itself. -/
def Original (net net' : Net ι SrInstance (List UInt8)) (f : List UInt8) : Prop :=
  f ∈ net.wire ∨
    ∃ i, ∃ c ∈ (net'.node i).log.sends, c.emitter ≠ .packetToOtherDest ∧ c.frame = f

theorem framesSent_mono {env : Env} {s : SrInstance} (fuel : ℕ) (ev : Event) :
    framesSent s ⊆ framesSent (finalState (handle env fuel ev s)) := by
  rintro f ⟨c,hc,rfl⟩
  exact ⟨c, (handle_sends env fuel ev s).mem hc, rfl⟩

/-- Whatever a network of routers does with the frames, and whatever loops its tables have: a frame
that is passed on is one that somebody has sent, after one hop or more and at most 254; only the
bytes a router rewrites have changed, and the time to live has gone down by the hops. -/
theorem forwarded_was_sent (h₀ : ∀ i, Initial (net.node i))
    (hnet : NetRun (fun i => station (env i)) net net') {i : ι} {c : SendCall}
    (hc : c ∈ (net'.node i).log.sends) (he : c.emitter = .packetToOtherDest) :
    ∃ k f, Original net net' f ∧ Travelled k f c.frame ∧ 1 ≤ k ∧ k ≤ 254 := by
  have hinv : ∀ j, Vouched (net.node j).ifList (fun _ _ => True) (CameFrom net'.wire)
      (HopFrom net'.wire) (net'.node j) := by
    apply hnet.invariant (I := fun j M s =>
      Vouched (net.node j).ifList (fun _ _ => True) (CameFrom M) (HopFrom M) s) ?_ ?_ ?_
      fun j => (h₀ j).vouched
    · intro j M M' s hM hs
      refine hs.mono ?_ ?_
      · rintro m len ⟨f,hf,hrest⟩
        exact ⟨f, hM hf, hrest⟩
      · intro emitter m len hm he
        obtain ⟨f,hf,ht⟩ := hm he
        exact ⟨f, hM hf, ht⟩
    · rintro j M f s s' hs hf ⟨fuel,slack,interface,rfl⟩
      exact hs.receive hopFrom_vouches (hopFrom_vouchesIn hf slack) interface fuel
    · intro j M s s' hs ha
      exact hs.acts hopFrom_vouches ha
  have hsource : ∀ f ∈ net'.wire, f ∈ net.wire ∨ ∃ j, f ∈ framesSent (net'.node j) := by
    intro f hf
    apply hnet.wire ?_ ?_ hf
    · rintro j m s s' ⟨fuel,slack,interface,rfl⟩
      exact framesSent_mono fuel _
    · rintro j s s' ⟨fuel,rfl | rfl⟩
      · exact framesSent_mono fuel _
      · exact framesSent_mono fuel _
  -- a hop back the time to live was one more, so the way back ends
  have hback : ∀ d j (c : SendCall), c ∈ (net'.node j).log.sends →
      c.emitter = .packetToOtherDest → 255-timeToLive c.frame = d →
      ∃ k f, Original net net' f ∧ Travelled k f c.frame ∧ 1 ≤ k := by
    intro d
    induction d using Nat.strong_induction_on with
    | _ d ih =>
      intro j c hc he hd
      obtain ⟨f,hf,ht⟩ := (hinv j).calls c hc he
      have httl := ht.timeToLive
      have hle := timeToLive_le f
      rcases hsource f hf with hout | ⟨j',c',hc',rfl⟩
      · exact ⟨1, f, Or.inl hout, ht, Nat.le_refl 1⟩
      by_cases he' : c'.emitter = .packetToOtherDest
      · obtain ⟨k,g,hg,hk,-⟩ := ih (255-timeToLive c'.frame) (by rw [SendCall.frame] at *; omega)
          j' c' hc' he' rfl
        exact ⟨k+1, g, hg, hk.trans ht, Nat.le_add_left 1 k⟩
      · exact ⟨1, _, Or.inr ⟨j',c',hc',he',rfl⟩, ht, Nat.le_refl 1⟩
  obtain ⟨k,f,hf,ht,hk⟩ := hback _ i c hc he rfl
  have httl := ht.timeToLive
  have halive := ht.alive
  have hle := timeToLive_le f
  exact ⟨k, f, hf, ht, hk, by omega⟩

end Provenance

theorem forwarded_was_sent_smallNet : ∃ net' c k f, c ∈ (net'.node true).log.sends ∧
    c.emitter = .packetToOtherDest ∧ Original smallNet net' f ∧ Travelled k f c.frame ∧ 1 ≤ k := by
  obtain ⟨net',hnet,hnode⟩ := smallNet_runs
  have hsent : ∃ c ∈ answeredRouter.log.sends, c.emitter = .packetToOtherDest := by decide +kernel
  obtain ⟨c,hc,he⟩ := hsent
  rw [← hnode] at hc
  obtain ⟨k,f,hf,ht,hk,-⟩ := forwarded_was_sent (fun _ => smallRouter_initial) hnet hc he
  exact ⟨net', c, k, f, hc, he, hf, ht, hk⟩

end InternetCourse.Router
