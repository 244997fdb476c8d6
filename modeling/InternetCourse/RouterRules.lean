import InternetCourse.RouterReach

/-! Hoare rules for the functions of the router. An assertion that the elementary effects
keep is kept by every event, also by one that crashes or is never over. -/
namespace InternetCourse.Router

open ByteMem StateTriple

/-- `J` is kept by each effect the handling of a packet can have, where `P` is known of every
packet in hand and `Q` of every address packets wait for. -/
structure Preserved (env : Env) (P : SrPacket → Prop) (Q : UInt32 → Prop)
    (J : SrInstance → Prop) : Prop where
  -- what the bookkeeping of the model adds to the record
  time : ∀ s, J s → J s.addTime
  malloc : ∀ s, J s → J s.addMalloc
  access : ∀ s a, J s → J (s.addAccess a)
  arp : ∀ s e, J s → J (s.addArp e)
  -- `P` is what is known of a packet, `Q` of an address a route is looked up for
  waiting : ∀ s, J s → ∀ r ∈ s.cache.requests.pending, ∀ p ∈ r.packets, P p
  dst : ∀ p, P p → Q (ipDst p.buf.mem)
  ip : ∀ s, J s → ∀ r ∈ s.cache.requests.pending, ∀ d, env.ipDstAt r.ip = some d → Q d
  -- what happens to a request
  stamped : ∀ s addr now destroyed, J s → J (stampedState s addr now destroyed)
  destroyed : ∀ s r, J s → J (s.setRequests (s.cache.requests.destroy r))
  enqueued : ∀ s p interface rt r s', J s → P p → 1 < ipTtl p.buf.mem →
    longestPrefixSum s.routingTable (ipDst p.buf.mem) = some rt →
    Enqueued s (ipDst p.buf.mem) (queuedCopies env s p.buf p.len interface) r s' → J s'
  -- what goes out
  broadcast : ∀ s r d rt i, J s → r ∈ s.cache.requests.pending → Q d →
    longestPrefixSum s.routingTable d = some rt → srGetInterface s.ifList rt.interface = some i →
    J (broadcastState env s r i)
  forwarded : ∀ s p rt e i, J s → P p → 1 < ipTtl p.buf.mem →
    longestPrefixSum s.routingTable (ipDst p.buf.mem) = some rt →
    srArpcacheLookup s.cache.entries (ipDst p.buf.mem) = some e →
    srGetInterface s.ifList rt.interface = some i →
    J (s.addSend (forwardCall env s p.buf p.len i e))
  expired : ∀ s p i interface, J s → P p → ipTtl p.buf.mem ≤ 1 →
    srGetInterface s.ifList interface = some i → J (s.addMalloc.addSend
      (icmpErrorCall env s .timeExceeded 11 0 (fun ttl => ttl-1) p.buf i interface p.len))
  unreachable : ∀ s p i interface, J s → P p → srGetInterface s.ifList interface = some i →
    J (s.addMalloc.addSend
      (icmpErrorCall env s .destHostUnreach 3 1 (fun ttl => ttl) p.buf i interface p.len))

variable {env : Env} {P : SrPacket → Prop} {Q : UInt32 → Prop} {J : SrInstance → Prop}
  {s : SrInstance}

theorem Requests.mem_modify {q : Requests} {addr : ℕ} {f : SrArpreq → SrArpreq} {r : SrArpreq}
    (hf : ∀ r, (f r).ip = r.ip ∧ (f r).packets = r.packets) (hr : r ∈ (q.modify addr f).pending) :
    ∃ r₀ ∈ q.pending, r.ip = r₀.ip ∧ r.packets = r₀.packets := by
  rw [Requests.modify_pending] at hr
  obtain ⟨r₀,hr₀,rfl⟩ := List.mem_map.mp hr
  refine ⟨r₀, hr₀, ?_⟩
  split
  · exact hf r₀
  · exact ⟨rfl,rfl⟩

/-- The two assignments that end `handle_arpreq` leave addresses and packets alone. -/
theorem stampedState_mem {addr : ℕ} {now : ℤ} {destroyed : Bool} {r : SrArpreq}
    (hr : r ∈ (stampedState s addr now destroyed).cache.requests.pending) :
    ∃ r₀ ∈ s.cache.requests.pending, r.ip = r₀.ip ∧ r.packets = r₀.packets := by
  obtain ⟨r₁,hr₁,hi₁,hp₁⟩ := Requests.mem_modify
    (f := fun r => { r with timesSent := r.timesSent+1 }) (fun _ => ⟨rfl,rfl⟩) hr
  obtain ⟨r₂,hr₂,hi₂,hp₂⟩ := Requests.mem_modify (f := fun r => { r with sent := now })
    (fun _ => ⟨rfl,rfl⟩) hr₁
  exact ⟨r₂, hr₂, hi₁.trans hi₂, hp₁.trans hp₂⟩

theorem arpRequestSend_keeps (h : Preserved env P Q J) {r : SrArpreq}
    (hr : r ∈ s.cache.requests.pending) (hs : J s) {d : UInt32} (hd : Q d) :
    J (finalState (arpRequestSend env r.addr (longestPrefixSum s.routingTable d) s)) := by
  cases hrt : longestPrefixSum s.routingTable d with
  | none => exact hs
  | some rt =>
    cases hi : srGetInterface s.ifList rt.interface with
    | none =>
      -- the header of the broadcast is filled in from a null pointer
      have hm := h.malloc _ (h.malloc s hs)
      simpa only [arpRequestSend, bind_apply, deref, pure_apply, get_apply, hi, malloc,
        throw_apply, finalState] using hm
    | some i =>
      rw [arpRequestSend_of_some env hr hi]
      exact h.broadcast s r d rt i hs hr hd hrt hi

theorem destHostUnreach_preserved (h : Preserved env P Q J) {p : SrPacket} (hp : P p)
    (interface : CName) : Keeps J (destHostUnreach env p.buf interface p.len) := by
  intro t ht
  rw [destHostUnreach]
  cases hi : srGetInterface t.ifList interface with
  | none =>
    rw [icmpError_of_none env hi]
    exact h.malloc t ht
  | some i =>
    rw [icmpError_of_some env hi]
    exact h.unreachable t p i interface ht hp hi

theorem giveUpLoop_preserved (h : Preserved env P Q J) {packets : List SrPacket}
    (hp : ∀ p ∈ packets, P p) (fuel req : ℕ) : Keeps J (giveUpLoop env fuel req packets) := by
  have hloop : Triple (fun t => packets = packets ∧ J t) (giveUpLoop env fuel req packets)
      (fun _ => J) J := by
    -- the loop variable is handed on as it is, so what is known of its packets stays known
    apply iterate_triple (fun b t => b = packets ∧ J t)
    · rintro b t ⟨rfl,ht⟩
      match b with
      | [] => exact ht
      | [p] => exact ht
      | p :: p' :: rest =>
        have hround : Triple J (do
            let r ← readReq req .ip
            let destRt ← longestPrefixSumAt env r.ip
            let destRt ← deref destRt
            destHostUnreach env p.buf destRt.interface p.len
            pure (.inl (p :: p' :: rest)))
            (fun (x : List SrPacket ⊕ Unit) t => x = .inl (p :: p' :: rest) ∧ J t) J := by
          apply Triple.bind (readReq_keeps (fun t a => h.access t a) req .ip)
          intro r
          apply Triple.bind (longestPrefixSumAt_keeps env r.ip)
          intro found
          apply Triple.bind (deref_keeps _)
          intro rt
          apply Triple.bind (destHostUnreach_preserved h (hp p List.mem_cons_self) _)
          intro _
          exact Triple.pure fun t h => ⟨rfl,h⟩
        have hres := hround t ht
        revert hres
        dsimp only
        split
        · rintro ⟨rfl,h⟩
          exact ⟨rfl,h⟩
        · exact id
    · exact fun b t h => h.2
  exact hloop.conseq (fun t h => ⟨rfl,h⟩) (fun _ t h => h) fun t h => h

theorem handledState_keeps (h : Preserved env P Q J) (hs : J s) (r : SrArpreq) :
    J (handledState env s r) := h.access _ _ (h.arp _ _ (h.time s hs))

/-- What is kept from the moment a request is given up. -/
theorem giveUp_keeps (h : Preserved env P Q J) {r : SrArpreq}
    (hr : r ∈ s.cache.requests.pending) (hd : Due env s r) (hx : 5 ≤ r.timesSent)
    (hp : ∀ p ∈ r.packets, P p) (hgiving : J (givingUpState env s r)) (destRt : Option SrRt)
    (fuel : ℕ) : J (finalState (handleArpreq env fuel r.addr destRt s)) := by
  have hr' : r ∈ (givingUpState env s r).cache.requests.pending := hr
  have hfinish {t : SrInstance} (ht : J t) (hrt : r ∈ t.cache.requests.pending) :
      J (finalState (finishGiveUp r (s.now env) t)) := by
    rw [finishGiveUp_apply hrt]
    exact h.stamped _ _ _ _ (h.destroyed t r ht)
  rw [handleArpreq_of_giveUp env hr hd hx]
  split
  · have hloop := giveUpLoop_preserved h hp fuel r.addr
    rw [bind_apply]
    cases hl : giveUpLoop env fuel r.addr r.packets (givingUpState env s r) with
    | error e t => exact hloop.error hgiving hl
    | ok u t =>
      obtain ⟨-,rfl⟩ := giveUpLoop_returns env hl
      exact hfinish hgiving hr'
  · exact hfinish hgiving hr'

theorem handleArpreq_keeps (h : Preserved env P Q J) {r : SrArpreq}
    (hr : r ∈ s.cache.requests.pending) (hs : J s) {d : UInt32} (hQ : Q d) (fuel : ℕ) :
    J (finalState (handleArpreq env fuel r.addr (longestPrefixSum s.routingTable d) s)) := by
  have hstart := handledState_keeps h hs r
  by_cases hd : Due env s r
  swap
  · rw [handleArpreq_of_not_due env hr hd]
    exact hstart
  by_cases hx : 5 ≤ r.timesSent
  · have hgiving : J (givingUpState env s r) :=
      h.access _ _ (h.arp _ _ (h.access _ _ hstart))
    exact giveUp_keeps h hr hd hx (h.waiting s hs r hr) hgiving _ fuel
  · have hr' : r ∈ (retryingState env s r).cache.requests.pending := hr
    have hretry : J (retryingState env s r) := h.arp _ _ (h.access _ _ hstart)
    have hsend := arpRequestSend_keeps h hr' hretry hQ
    have htable : (retryingState env s r).routingTable = s.routingTable := rfl
    rw [htable] at hsend
    rw [handleArpreq_of_retrying env hr hd hx, bind_apply]
    -- with no route or no interface the call crashes, before the request is stamped
    cases ha : arpRequestSend env r.addr (longestPrefixSum s.routingTable d)
        (retryingState env s r) with
    | error e t =>
      rw [ha] at hsend
      exact hsend
    | ok ret t =>
      rw [ha] at hsend
      obtain ⟨rt,i,hrt,hi⟩ := arpRequestSend_returns env ha
      rw [hrt, arpRequestSend_of_some env hr' hi] at ha
      obtain rfl := (EStateM.Result.ok.inj ha).2
      have hf : (broadcastState env (retryingState env s r) r i).cache.requests.find r.addr =
          some (r, false) := Requests.find_of_mem hr
      dsimp only
      rw [stampReq_apply hf]
      exact h.stamped _ _ _ _ hsend

theorem packetToOtherDest_keeps (h : Preserved env P Q J) {p : SrPacket} (hp : P p) (fuel : ℕ)
    (interface : CName) : Keeps J (packetToOtherDest env fuel p.buf interface p.len) := by
  intro s hs
  cases routeWay s p.buf.mem with
  | expired ht =>
    have hk : Keeps J (do
        timeExceeded env p.buf interface p.len
        pure (none : Option ℤ)) := by
      refine Triple.bind (Q := fun _ => J) ?_ fun _ => Keeps.pure none
      intro t hJ
      rw [timeExceeded]
      cases hi : srGetInterface t.ifList interface with
      | none =>
        rw [icmpError_of_none env hi]
        exact h.malloc t hJ
      | some i =>
        rw [icmpError_of_some env hi]
        exact h.expired t p i interface hJ hp ht hi
    rw [packetToOtherDest_of_expired ht]
    exact hk s hs
  | noRoute ht hrt =>
    have hk : Keeps J (do
        destHostUnreach env p.buf interface p.len
        pure (none : Option ℤ)) :=
      Triple.bind (destHostUnreach_preserved h hp interface) fun _ => Keeps.pure none
    rw [packetToOtherDest_of_noRoute ht hrt]
    exact hk s hs
  | unlisted ht hrt he hi =>
    rw [packetToOtherDest_of_unlisted ht hrt he hi]
    exact hs
  | hit ht hrt he hi =>
    rw [packetToOtherDest_of_hit ht hrt he hi]
    exact h.forwarded s p _ _ _ hs hp ht hrt he hi
  | @miss rt ht hrt he =>
    obtain ⟨r,s₁,hq,henq⟩ :=
      srArpcacheQueuereq_returns env (ipDst p.buf.mem) p.buf p.len interface s
    have hs₁ := h.enqueued s p interface rt r s₁ hs hp ht hrt henq
    have hh := handleArpreq_keeps h henq.mem hs₁ (h.dst p hp) fuel
    rw [henq.routingTable, hrt] at hh
    rw [packetToOtherDest_of_miss ht hrt he, bind_apply, hq]
    dsimp only
    rw [bind_apply]
    cases hx : handleArpreq env fuel r.addr (some rt) s₁ with
    | error e s₂ =>
      rw [hx] at hh
      exact hh
    | ok u s₂ =>
      rw [hx] at hh
      exact hh

theorem flushPackets_keeps (h : Preserved env P Q J) {packets : List SrPacket}
    (hp : ∀ p ∈ packets, P p) (fuel : ℕ) (interface : CName) :
    Keeps J (flushPackets env fuel interface packets) := by
  induction packets with
  | nil => exact Keeps.pure ()
  | cons p rest ih =>
    apply Triple.bind (packetToOtherDest_keeps h (hp p List.mem_cons_self) fuel interface)
    intro _
    exact ih fun q hq => hp q (List.mem_cons_of_mem p hq)

theorem sweepFrom_keeps (h : Preserved env P Q J) {r : SrArpreq} {pre rest : List SrArpreq}
    (hp : s.cache.requests.pending = pre ++ r :: rest) (hs : J s) {d : UInt32} (hQ : Q d)
    (inner fuel : ℕ) : J (finalState
      (sweepFrom env inner (longestPrefixSum s.routingTable d) fuel r.addr s)) := by
  -- by induction on what comes after `r` in the queue
  induction rest generalizing r s pre fuel with
  | nil =>
    cases fuel with
    | zero => exact hs
    | succ n =>
      rw [sweepFrom_last hp]
      have hm : r ∈ (s.addAccess ⟨r.addr, .next, false, false⟩).cache.requests.pending :=
        Requests.mem_of_split hp
      exact handleArpreq_keeps h hm (h.access _ _ hs) hQ inner
  | cons r' rest ih =>
    have hm := Requests.mem_of_split hp
    have hm' : r ∈ (s.addAccess ⟨r.addr, .next, false, false⟩).cache.requests.pending := hm
    have hk := handleArpreq_keeps h hm' (h.access _ _ hs) hQ inner
    rw [SrInstance.addAccess_routingTable] at hk
    cases fuel with
    | zero => exact hs
    | succ n =>
      cases hh : handleArpreq env inner r.addr (longestPrefixSum s.routingTable d)
          (s.addAccess ⟨r.addr, .next, false, false⟩) with
      | error e s₁ =>
        rw [hh] at hk
        rw [sweepFrom_of_error hp hh]
        exact hk
      | ok u s₁ =>
        -- the call may drop `r`, but what came after it is still there
        have hd := handleArpreq_returns env hm' hh
        obtain ⟨pre',hp'⟩ := hd.pending_tail hp
        have htable : s₁.routingTable = s.routingTable := hd.frame.2.1
        rw [hh] at hk
        rw [sweepFrom_cons hp hh, ← htable]
        exact ih (by exact hp') (h.access _ _ hk) n

theorem sweep_keeps (h : Preserved env P Q J) (hs : J s) (fuel : ℕ) :
    J (finalState (handle env fuel .sweep s)) := by
  rw [handle]
  cases hp : s.cache.requests.pending with
  | nil =>
    simp only [srArpcacheSweepreqs, bind_apply, get_apply, hp]
    exact hs
  | cons head rest =>
    have hp' : (s.addAccess ⟨head.addr, .ip, false, false⟩).cache.requests.pending =
        [] ++ head :: rest := hp
    cases hd : env.ipDstAt head.ip with
    | none =>
      rw [srArpcacheSweepreqs_unread hp hd]
      exact h.access _ _ hs
    | some ipDst =>
      have hQ : Q ipDst := h.ip s hs head (by rw [hp]; exact List.mem_cons_self) ipDst hd
      rw [srArpcacheSweepreqs_cons hp hd]
      exact sweepFrom_keeps h hp' (h.access _ _ hs) hQ _ _

/-- A frame that makes `arp_packet` store a mapping: a reply to the address of the
interface it came in by. -/
def StoresReply (s : SrInstance) (m : Mem) (interface : CName) : Prop :=
  ethertype m = ethertypeArp ∧ ntohs (arOp m) = 2 ∧
    (srGetInterface s.ifList interface).map SrIf.ip = some (arTip m)

instance (s : SrInstance) (m : Mem) (interface : CName) : Decidable (StoresReply s m interface) :=
  inferInstanceAs (Decidable (_ ∧ _ ∧ _))

theorem StoresReply.not_accepted {m : Mem} {interface : CName} (h : StoresReply s m interface)
    (len : ℕ) : ¬Accepted m len := by
  intro ha
  have hi := ((accepted_iff m len).mp ha).2.1
  exact absurd (hi.symm.trans h.1) (by decide)

theorem StoresReply.not_request {m : Mem} {interface : CName} (h : StoresReply s m interface) :
    ntohs (arOp m) ≠ 1 := by
  rw [h.2.1]
  decide

/-- `J` survives the arrival of a frame and what the router does with it first. -/
structure Receives (env : Env) (P : SrPacket → Prop) (J : SrInstance → Prop) (s : SrInstance)
    (p : SrPacket) : Prop where
  arrived : ¬StoresReply s p.buf.mem p.iface → J s.addArrival
  inserted : StoresReply s p.buf.mem p.iface →
    J (insertedState env (arSha p.buf.mem) (arSip p.buf.mem) s.addArrival)
  flushed : StoresReply s p.buf.mem p.iface → ∀ q ∈ waitingFor s (arSip p.buf.mem), P q
  replied : ∀ i, srGetInterface s.ifList p.iface = some i → ethertype p.buf.mem = ethertypeArp →
    ntohs (arOp p.buf.mem) = 1 →
      J (s.addArrival.addSend ⟨.arpPacket, some p.buf.origin, arpReplyFrame p.buf.mem i, p.len,
        p.iface, sendResult env s.addArrival (arpReplyFrame p.buf.mem i) p.len p.iface⟩)
  transit : Accepted p.buf.mem p.len → ¬Local s p.buf.mem → P p
  echoed : ∀ i, Accepted p.buf.mem p.len → Local s p.buf.mem → ipP p.buf.mem = 1 →
    srGetInterface s.ifList p.iface = some i →
    J (s.addArrival.addSend ⟨.echoReply, some p.buf.origin, echoReplyFrame p.buf.mem i, p.len,
      p.iface, sendResult env s.addArrival (echoReplyFrame p.buf.mem i) p.len p.iface⟩)
  unreachable : ∀ i, Accepted p.buf.mem p.len → Local s p.buf.mem →
    (ipP p.buf.mem = 17 ∨ ipP p.buf.mem = 6) → srGetInterface s.ifList p.iface = some i →
    J (s.addArrival.addMalloc.addSend
      (icmpErrorCall env s.addArrival .portUnreach 3 3 (fun ttl => ttl) p.buf i p.iface p.len))

theorem arpPacket_keeps (h : Preserved env P Q J) {p : SrPacket} (hp : Receives env P J s p)
    (ha : ethertype p.buf.mem = ethertypeArp) (fuel : ℕ) :
    J (finalState (arpPacket env fuel p.buf p.iface p.len s.addArrival)) := by
  cases arpWay s.addArrival p.buf.mem p.iface with
  | unlisted hi =>
    rw [arpPacket_of_unlisted hi]
    apply hp.arrived
    rintro ⟨-,-,hn⟩
    rw [show srGetInterface s.ifList p.iface = none from hi] at hn
    contradiction
  | @ignored i hi hno =>
    rw [arpPacket_of_ignored hi hno]
    apply hp.arrived
    rintro ⟨-,h2,hn⟩
    rw [show srGetInterface s.ifList p.iface = some i from hi] at hn
    rcases hno with htip | ⟨-,hop⟩
    · exact htip (Option.some.inj hn).symm
    · exact hop h2
  | request hi htip h1 =>
    rw [arpPacket_of_request hi htip h1]
    exact hp.replied _ hi ha h1
  | @reply i hi htip h2 =>
    -- the mapping is stored whoever asked for it
    have hst : StoresReply s p.buf.mem p.iface := by
      refine ⟨ha, h2, ?_⟩
      rw [show srGetInterface s.ifList p.iface = some i from hi, htip]
      rfl
    have hins := hp.inserted hst
    cases hf : s.addArrival.cache.requests.pending.find? (fun r => r.ip == arSip p.buf.mem) with
    | none =>
      rw [arpPacket_of_unasked hi htip h2 hf]
      exact hins
    | some r =>
      have hw : waitingFor s (arSip p.buf.mem) = r.packets := waitingFor_eq (by exact hf)
      have hpk : ∀ q ∈ r.packets, P q := by
        rw [← hw]
        exact hp.flushed hst
      have hflush := flushPackets_keeps h hpk fuel p.iface
      have hall : Keeps J (do
          flushPackets env fuel p.iface r.packets
          srArpreqDestroy r) := by
        apply Triple.bind hflush
        intro _ t ht
        exact h.destroyed t r ht
      rw [arpPacket_of_answered hi htip h2 hf]
      exact hall.finalState hins

theorem ipPacket_keeps (h : Preserved env P Q J) {p : SrPacket} (hp : Receives env P J s p)
    (hi : ethertype p.buf.mem = ethertypeIp) (fuel : ℕ) :
    J (finalState (ipPacket env fuel p.buf p.iface p.len s.addArrival)) := by
  have harr : J s.addArrival := by
    apply hp.arrived
    rintro ⟨ha,-⟩
    exact absurd (hi.symm.trans ha) (by decide)
  cases ipWay s.addArrival p.buf.mem p.len with
  | rejected ha =>
    rcases ipPacket_of_not_accepted ha with hd | hd
    · rw [hd]
      exact harr
    · rw [hd]
      exact harr
  | echo ha hl h1 =>
    rw [ipPacket_of_echo ha hl h1]
    cases hi : srGetInterface s.addArrival.ifList p.iface with
    | none =>
      rw [echoReply_of_none env hi]
      exact harr
    | some i =>
      rw [echoReply_of_some env hi]
      exact hp.echoed i ha hl h1 hi
  | unreachable ha hl h2 =>
    rw [ipPacket_of_unreachable ha hl h2, portUnreach]
    cases hi : srGetInterface s.addArrival.ifList p.iface with
    | none =>
      rw [icmpError_of_none env hi]
      exact h.malloc _ harr
    | some i =>
      rw [icmpError_of_some env hi]
      exact hp.unreachable i ha hl h2 hi
  | ignored ha hl hp' =>
    rw [ipPacket_of_ignored ha hl hp']
    exact harr
  | transit ha hl =>
    have hk : Keeps J (do let _ ← packetToOtherDest env fuel p.buf p.iface p.len) :=
      Triple.bind (packetToOtherDest_keeps h (hp.transit ha hl) fuel p.iface) fun _ =>
        Keeps.pure ()
    rw [ipPacket_of_transit ha hl]
    exact hk.finalState harr

/-- What is kept while a frame is handled, to the end or not. -/
theorem receive_keeps (h : Preserved env P Q J) {frame : List UInt8} {slack : Mem}
    {interface : CName} (hp : Receives env P J s (received s frame slack interface)) (fuel : ℕ) :
    J (finalState (handle env fuel (.receive frame slack interface) s)) := by
  rw [receive_apply, srHandlepacket]
  split_ifs with ha hi
  · exact arpPacket_keeps h hp ha fuel
  · exact ipPacket_keeps h hp hi fuel
  · apply hp.arrived
    rintro ⟨hn,-⟩
    exact ha hn

theorem receive_of_accepted {frame : List UInt8} {slack : Mem} {interface : CName}
    (ha : Accepted (load frame slack) frame.length) (fuel : ℕ) :
    handle env fuel (.receive frame slack interface) s =
      ipPacket env fuel (received s frame slack interface).buf interface frame.length
        s.addArrival :=
  receive_ip ((accepted_iff _ _).mp ha).2.1 env fuel interface s

/-- What becomes of a frame for another destination is up to `packet_to_other_dest`. -/
theorem receive_of_transit {frame : List UInt8} {slack : Mem} {interface : CName}
    (ha : Accepted (load frame slack) frame.length) (hl : ¬Local s (load frame slack))
    (fuel : ℕ) : handle env fuel (.receive frame slack interface) s =
      (do let _ ← packetToOtherDest env fuel (received s frame slack interface).buf interface
            frame.length) s.addArrival := by
  rw [receive_of_accepted ha]
  exact @ipPacket_of_transit (received s frame slack interface).buf frame.length s.addArrival ha hl
    env fuel interface

end InternetCourse.Router
