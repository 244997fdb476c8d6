import InternetCourse.RouterSteps

/-! An event as a sequence of elementary moves on the state and the packets in hand:
those read off the wire or taken from an answered request and not yet disposed of. -/
namespace InternetCourse.Router

open ByteMem StateTriple

/-- The packets of the request for `ip`, if there is one. -/
def waitingFor (s : SrInstance) (ip : UInt32) : List SrPacket :=
  ((s.cache.requests.pending.find? fun r => r.ip == ip).map SrArpreq.packets).getD []

theorem waitingFor_eq {s : SrInstance} {ip : UInt32} {r : SrArpreq}
    (hf : s.cache.requests.pending.find? (fun r => r.ip == ip) = some r) :
    waitingFor s ip = r.packets := by
  rw [waitingFor, hf]
  rfl

/-- The frame just received, as it is handed to `IP_packet`. -/
def received (s : SrInstance) (frame : List UInt8) (slack : Mem) (interface : CName) : SrPacket :=
  ⟨⟨load frame slack, s.log.arrivals⟩, frame.length, interface⟩

/-- The call of `sr_send_packet` on a cache hit. -/
def forwardCall (env : Env) (s : SrInstance) (packet : Buf) (len : ℕ) (i : SrIf)
    (e : SrArpentry) : SendCall :=
  let buf := forwardFrame packet.mem i.addr e.mac
  ⟨.packetToOtherDest, some packet.origin, buf, len, i.name, sendResult env s buf len i.name⟩

/-- One elementary move. -/
inductive Move (env : Env) : SrInstance × List SrPacket → SrInstance × List SrPacket → Prop where
  -- a frame comes in, and is dropped or taken in hand
  | arrived {s : SrInstance} : Move env (s, []) (s.addArrival, [])
  | accepted {s : SrInstance} {frame : List UInt8} {slack : Mem} {interface : CName} :
      Accepted (load frame slack) frame.length →
      Move env (s, []) (s.addArrival, [received s frame slack interface])
  | replied {s : SrInstance} {c : SendCall} : c.emitter = .arpPacket →
      (∀ t, c.origin = some t → t < s.log.arrivals) → Move env (s, []) (s.addSend c, [])
  | delivered {s : SrInstance} {frame : List UInt8} {slack : Mem} {interface : CName}
      {c : SendCall} : Accepted (load frame slack) frame.length →
      (c.emitter = .echoReply ∧ c.origin = some s.log.arrivals ∨
        c.emitter = .portUnreach ∧
          ErrorAbout c (received s frame slack interface).buf frame.length) →
      Move env (s, []) (s.addArrival.addSend c, [])
  | allocated {s : SrInstance} {hand : List SrPacket} : Move env (s, hand) (s.addMalloc, hand)
  | accessed {s : SrInstance} {hand : List SrPacket} {a : Access} :
      Move env (s, hand) (s.addAccess a, hand)
  -- a packet leaves the hand with an error message, through an interface, or into the queue
  | bounced {s : SrInstance} {p : SrPacket} {hand : List SrPacket} {c : SendCall} :
      ipTtl p.buf.mem ≤ 1 ∨ longestPrefixSum s.routingTable (ipDst p.buf.mem) = none →
      c.emitter = .timeExceeded ∨ c.emitter = .destHostUnreach → ErrorAbout c p.buf p.len →
      Move env (s, p :: hand) (s.addSend c, hand)
  | forwarded {s : SrInstance} {p : SrPacket} {hand : List SrPacket} {rt : SrRt}
      {e : SrArpentry} {i : SrIf} : 1 < ipTtl p.buf.mem →
      longestPrefixSum s.routingTable (ipDst p.buf.mem) = some rt →
      srArpcacheLookup s.cache.entries (ipDst p.buf.mem) = some e →
      srGetInterface s.ifList rt.interface = some i →
      Move env (s, p :: hand) (s.addSend (forwardCall env s p.buf p.len i e), hand)
  | queued {s s' : SrInstance} {p : SrPacket} {hand : List SrPacket} {rt : SrRt} {r : SrArpreq}
      {fresh : Mem} {interface : CName} : 1 < ipTtl p.buf.mem →
      longestPrefixSum s.routingTable (ipDst p.buf.mem) = some rt →
      Enqueued s (ipDst p.buf.mem)
        (if p.len ≠ 0 then [queuedCopy fresh p.buf p.len interface] else []) r s' →
      Move env (s, p :: hand) (s', hand)
  -- a request is looked after
  | handled {s s' : SrInstance} {hand : List SrPacket} {destRt : Option SrRt} {r : SrArpreq} :
      r ∈ s.cache.requests.pending → Handled env destRt s r s' → Move env (s, hand) (s', hand)
  -- a reply takes in hand what waited for it, and frees the request afterwards
  | inserted (s : SrInstance) (mac : Six) (ip : UInt32) :
      Move env (s, []) (insertedState env mac ip s, waitingFor s ip)
  | freed {s : SrInstance} {r : SrArpreq} :
      (∀ r' ∈ s.cache.requests.pending, r'.addr ≠ r.addr) →
      Move env (s, []) (s.setRequests (s.cache.requests.destroy r), [])
  | expired {s : SrInstance} :
      Move env (s, []) (s.addTime.setEntries (expireEntries s.cache.entries (s.now env)), [])

/-- Any number of moves. -/
abbrev Moves (env : Env) := Relation.ReflTransGen (Move env)

section Moves

variable {env : Env} {s s' : SrInstance} {hand : List SrPacket}

theorem Routed.moves {p : SrPacket} {interface : CName}
    (h : Routed env s p.buf interface p.len s') : Moves env (s, p :: hand) (s', hand) := by
  have hmalloc : Moves env (s, p :: hand) (s.addMalloc, p :: hand) :=
    Relation.ReflTransGen.single Move.allocated
  cases h with
  | @expired i ht hi =>
    have hc := icmpErrorCall_about env (Or.inl rfl) s 11 0 (fun ttl => ttl-1) p.buf i interface p.len
    exact hmalloc.tail (Move.bounced (Or.inl ht) (Or.inl rfl) hc)
  | @noRoute i ht hrt hi =>
    have hc := icmpErrorCall_about env (Or.inr (Or.inl rfl)) s 3 1 (fun ttl => ttl) p.buf i
      interface p.len
    exact hmalloc.tail (Move.bounced (Or.inr hrt) (Or.inr rfl) hc)
  | sent ht hrt he hi => exact Relation.ReflTransGen.single (Move.forwarded ht hrt he hi)
  | queued ht hrt he henq hh =>
    have hq := Relation.ReflTransGen.single (@Move.queued env _ _ _ hand _ _ _ _ ht hrt henq)
    exact hq.tail (Move.handled henq.mem hh)

theorem Flushed.moves {interface : CName} {packets : List SrPacket}
    (h : Flushed env interface packets s s') : Moves env (s, packets) (s', []) := by
  induction h with
  | nil => exact Relation.ReflTransGen.refl
  | cons hp _ ih => exact hp.moves.trans ih

/-- Handling a request leaves the addresses and the packets in the queue as they were. -/
theorem Handled.mem {destRt : Option SrRt} {r : SrArpreq} (h : Handled env destRt s r s')
    (hm : r ∈ s.cache.requests.pending) {r' : SrArpreq} (hr' : r' ∈ s'.cache.requests.pending) :
    ∃ r₀ ∈ s.cache.requests.pending,
      r₀.addr = r'.addr ∧ r₀.ip = r'.ip ∧ r₀.packets = r'.packets := by
  obtain ⟨pre,post,hs⟩ := List.append_of_mem hm
  have hsame {x : SrArpreq} (hx : x ∈ pre ∨ x ∈ post) : x ∈ s.cache.requests.pending := by
    rw [hs]
    rcases hx with hx | hx <;> simp [hx]
  rcases h.pending hs with hp | hp | hp <;> rw [hp] at hr'
  · exact ⟨r', by rwa [hs], rfl, rfl, rfl⟩
  · rcases List.mem_append.mp hr' with hx | hx
    · exact ⟨r', hsame (Or.inl hx), rfl, rfl, rfl⟩
    · rcases List.mem_cons.mp hx with rfl | hx
      · exact ⟨r, hm, rfl, rfl, rfl⟩
      · exact ⟨r', hsame (Or.inr hx), rfl, rfl, rfl⟩
  · exact ⟨r', hsame (List.mem_append.mp hr'), rfl, rfl, rfl⟩

theorem insertedState_pending (mac : Six) (ip : UInt32) (s : SrInstance) :
    (insertedState env mac ip s).cache.requests = s.cache.requests.unlink fun r => r.ip == ip := by
  simp only [insertedState]
  split <;> rfl

theorem insertedState_frame (env : Env) (mac : Six) (ip : UInt32) (s : SrInstance) :
    let s' := insertedState env mac ip s
    s'.ifList = s.ifList ∧ s'.routingTable = s.routingTable ∧ s'.log.sends = s.log.sends ∧
      s'.log.arp = s.log.arp ∧ s'.log.arrivals = s.log.arrivals := by
  simp only [insertedState]
  split <;> simp

/-- Handling a request sends nothing but its broadcast. -/
theorem Handled.log {destRt : Option SrRt} {r : SrArpreq} (h : Handled env destRt s r s') :
    (∃ events, s'.log.arp = events ++ s.log.arp) ∧
      ∃ calls, s'.log.sends = calls ++ s.log.sends ∧
        ∀ c ∈ calls, c.emitter = .arpRequestSend ∧ c.origin = none := by
  cases h with
  | notDue => exact ⟨⟨[_], handledState_arp s r⟩, [], rfl, by simp⟩
  | @retried rt i =>
    have hsends : (retriedState env s r i).log.sends =
        [arpRequestCall env (retryingState env s r) i r.ip] ++ s.log.sends := by
      simp [retriedState, stampedState, broadcastState, retryingState, handledState]
    exact ⟨⟨[_, _], retriedState_arp s r i⟩, _, hsends, by simp [arpRequestCall]⟩
  | gaveUp =>
    refine ⟨⟨[_, _], gaveUpState_arp s r⟩, [], ?_, by simp⟩
    simp [gaveUpState, givingUpState, stampedState, handledState]

/-- The record of a run only grows. -/
theorem Move.log {c c' : SrInstance × List SrPacket} (h : Move env c c') :
    (∃ events, c'.1.log.arp = events ++ c.1.log.arp) ∧
      ∃ calls, c'.1.log.sends = calls ++ c.1.log.sends := by
  cases h with
  | arrived | accepted | allocated | accessed | freed | expired => exact ⟨⟨[],rfl⟩, [], rfl⟩
  | replied | delivered | bounced | forwarded => exact ⟨⟨[],rfl⟩, [_], rfl⟩
  | queued _ _ he => exact ⟨⟨[], by simp [he.arp]⟩, [], by simp [he.sends]⟩
  | handled _ hh =>
    obtain ⟨calls,hc,-⟩ := hh.log.2
    exact ⟨hh.log.1, calls, hc⟩
  | inserted s mac ip =>
    obtain ⟨-,-,hs,ha,-⟩ := insertedState_frame env mac ip s
    exact ⟨⟨[], by simp [ha]⟩, [], by simp [hs]⟩

/-- A packet that waits after an enqueueing is new or waited before, for the same address. -/
theorem Enqueued.packets {ip : UInt32} {pkts : List SrPacket} {r x : SrArpreq} {p : SrPacket}
    (h : Enqueued s ip pkts r s') (hx : x ∈ s'.cache.requests.pending) (hp : p ∈ x.packets) :
    (p ∈ pkts ∧ x.ip = ip) ∨ ∃ r₀ ∈ s.cache.requests.pending, r₀.ip = x.ip ∧ p ∈ r₀.packets := by
  rcases h.queue with ⟨pre,r₀,post,hs,hip,rfl,hq,-⟩ | ⟨-,rfl,hq,-⟩
  · rw [hq] at hx
    rw [hs]
    rcases List.mem_append.mp hx with hx | hx
    · exact Or.inr ⟨x, by simp [hx], rfl, hp⟩
    rcases List.mem_cons.mp hx with rfl | hx
    · rcases List.mem_append.mp hp with hp | hp
      · exact Or.inl ⟨hp,hip⟩
      · exact Or.inr ⟨r₀, by simp, rfl, hp⟩
    · exact Or.inr ⟨x, by simp [hx], rfl, hp⟩
  · rw [hq] at hx
    rcases List.mem_cons.mp hx with rfl | hx
    · exact Or.inl ⟨hp,rfl⟩
    · exact Or.inr ⟨x, hx, rfl, hp⟩

theorem mem_waitingFor {ip : UInt32} {p : SrPacket} (h : p ∈ waitingFor s ip) :
    ∃ r ∈ s.cache.requests.pending, r.ip = ip ∧ p ∈ r.packets := by
  simp only [waitingFor] at h
  cases hf : s.cache.requests.pending.find? (fun r => r.ip == ip) with
  | none => simp [hf] at h
  | some r =>
    rw [hf] at h
    exact ⟨r, List.mem_of_find?_eq_some hf, by simpa using List.find?_some hf, h⟩

/-- Every packet waiting, sent or in hand stems from a frame received earlier. -/
structure Tagged (c : SrInstance × List SrPacket) : Prop where
  sends : ∀ x ∈ c.1.log.sends, ∀ t, x.origin = some t → t < c.1.log.arrivals
  waiting : ∀ r ∈ c.1.cache.requests.pending, ∀ p ∈ r.packets, p.buf.origin < c.1.log.arrivals
  hand : ∀ p ∈ c.2, p.buf.origin < c.1.log.arrivals

theorem Move.tables {c c' : SrInstance × List SrPacket} (h : Move env c c') :
    c'.1.ifList = c.1.ifList ∧ c'.1.routingTable = c.1.routingTable := by
  cases h with
  | queued _ _ henq => exact ⟨henq.ifList, henq.routingTable⟩
  | handled _ hh => exact ⟨hh.frame.1, hh.frame.2.1⟩
  | inserted => exact ⟨(insertedState_frame _ _ _ _).1, (insertedState_frame _ _ _ _).2.1⟩
  | _ => exact ⟨rfl,rfl⟩

theorem Move.arrivals {c c' : SrInstance × List SrPacket} (h : Move env c c') :
    c.1.log.arrivals ≤ c'.1.log.arrivals := by
  cases h with
  | arrived | accepted | delivered => exact Nat.le_succ _
  | queued _ _ he => exact he.arrivals.ge
  | handled _ hh => exact hh.frame.2.2.2.1.ge
  | inserted => exact (insertedState_frame _ _ _ _).2.2.2.2.ge
  | _ => exact Nat.le_refl _

/-! Where the packets and the messages after a move come from. -/

/-- A packet that waits has waited before, or is a copy of one in hand, for its destination. -/
theorem Move.waits {c c' : SrInstance × List SrPacket} (h : Move env c c') {x : SrArpreq}
    (hx : x ∈ c'.1.cache.requests.pending) {q : SrPacket} (hq : q ∈ x.packets) :
    (∃ r ∈ c.1.cache.requests.pending, r.ip = x.ip ∧ q ∈ r.packets) ∨
      ∃ p ∈ c.2, p.len ≠ 0 ∧ x.ip = ipDst p.buf.mem ∧
        ∃ fresh interface, q = queuedCopy fresh p.buf p.len interface := by
  cases h with
  | arrived | accepted | replied | delivered | allocated | accessed | bounced | forwarded
      | expired => exact Or.inl ⟨x,hx,rfl,hq⟩
  | @queued s s' p hand rt r fresh interface _ _ he =>
    rcases he.packets hx hq with ⟨hm,hip⟩ | ⟨r₀,hr₀,hip,hm⟩
    · -- an empty packet is not copied
      split_ifs at hm with hl
      · exact Or.inr ⟨p, List.mem_cons_self, hl, hip, fresh, interface, List.mem_singleton.mp hm⟩
      · exact absurd hm List.not_mem_nil
    · exact Or.inl ⟨r₀,hr₀,hip,hm⟩
  | handled hm hd =>
    obtain ⟨r₀,hr₀,-,hip,hpk⟩ := hd.mem hm hx
    exact Or.inl ⟨r₀, hr₀, hip, hpk ▸ hq⟩
  | inserted s mac ip =>
    rw [insertedState_pending] at hx
    exact Or.inl ⟨x, List.mem_of_mem_eraseP hx, rfl, hq⟩
  | freed => exact Or.inl ⟨x, List.mem_of_mem_eraseP hx, rfl, hq⟩

/-- A packet in hand was there before, has waited, or has just come in. -/
theorem Move.holds {c c' : SrInstance × List SrPacket} (h : Move env c c') {p : SrPacket}
    (hp : p ∈ c'.2) : p ∈ c.2 ∨ (∃ r ∈ c.1.cache.requests.pending, p ∈ r.packets) ∨
      p.buf.origin = c.1.log.arrivals ∧ c.1.log.arrivals < c'.1.log.arrivals := by
  cases h with
  | arrived | replied | delivered | allocated | accessed | handled | freed | expired =>
    exact Or.inl hp
  | accepted =>
    obtain rfl := List.mem_singleton.mp hp
    exact Or.inr (Or.inr ⟨rfl, Nat.lt_succ_self _⟩)
  | bounced | forwarded | queued => exact Or.inl (List.mem_cons_of_mem _ hp)
  | inserted s mac ip =>
    obtain ⟨r,hr,-,hm⟩ := mem_waitingFor hp
    exact Or.inr (Or.inl ⟨r,hr,hm⟩)

/-- A message a move from `c` sends, when `n` frames have come in after it: an answer to the frame
that comes in, an error about a packet in hand or that packet itself, or a broadcast. -/
inductive MoveSends (env : Env) (c : SrInstance × List SrPacket) (n : ℕ) (x : SendCall) : Prop
  | reply : x.emitter = .arpPacket → (∀ t, x.origin = some t → t < n) → MoveSends env c n x
  | answer : x.origin = some c.1.log.arrivals → c.1.log.arrivals < n → MoveSends env c n x
  | error {p : SrPacket} : p ∈ c.2 →
      ipTtl p.buf.mem ≤ 1 ∨ longestPrefixSum c.1.routingTable (ipDst p.buf.mem) = none →
      ErrorAbout x p.buf p.len → MoveSends env c n x
  | forward {p : SrPacket} {rt : SrRt} {i : SrIf} {e : SrArpentry} : p ∈ c.2 →
      1 < ipTtl p.buf.mem → longestPrefixSum c.1.routingTable (ipDst p.buf.mem) = some rt →
      srGetInterface c.1.ifList rt.interface = some i →
      x = forwardCall env c.1 p.buf p.len i e → MoveSends env c n x
  | broadcast : x.origin = none → MoveSends env c n x

/-- What a move adds to the messages sent. -/
theorem Move.calls {c c' : SrInstance × List SrPacket} (h : Move env c c') :
    ∃ calls, c'.1.log.sends = calls ++ c.1.log.sends ∧
      ∀ x ∈ calls, MoveSends env c c'.1.log.arrivals x := by
  have hone {y : SendCall} (hy : MoveSends env c c'.1.log.arrivals y) :
      ∀ x ∈ [y], MoveSends env c c'.1.log.arrivals x := by
    intro x hx
    rw [List.mem_singleton.mp hx]
    exact hy
  cases h with
  | arrived | accepted | allocated | accessed | freed | expired => exact ⟨[], rfl, by simp⟩
  | replied he ho => exact ⟨[_], rfl, hone (MoveSends.reply he ho)⟩
  | @delivered s frame slack interface y _ hy =>
    have ho : y.origin = some s.log.arrivals := by
      rcases hy with ⟨-,ho⟩ | ⟨-,ho⟩
      · exact ho
      · exact ho.origin
    exact ⟨[_], rfl, hone (MoveSends.answer ho (Nat.lt_succ_self _))⟩
  | bounced hb _ hy => exact ⟨[_], rfl, hone (MoveSends.error List.mem_cons_self hb hy)⟩
  | forwarded httl hrt _ hi =>
    exact ⟨[_], rfl, hone (MoveSends.forward List.mem_cons_self httl hrt hi rfl)⟩
  | queued _ _ he => exact ⟨[], he.sends, by simp⟩
  | handled _ hd =>
    obtain ⟨calls,hc,ho⟩ := hd.log.2
    exact ⟨calls, hc, fun x hx => MoveSends.broadcast (ho x hx).2⟩
  | inserted s mac ip => exact ⟨[], (insertedState_frame env mac ip s).2.2.1, by simp⟩

theorem Move.sent {c c' : SrInstance × List SrPacket} (h : Move env c c') {x : SendCall}
    (hx : x ∈ c'.1.log.sends) : x ∈ c.1.log.sends ∨ MoveSends env c c'.1.log.arrivals x := by
  obtain ⟨calls,hc,hall⟩ := h.calls
  rw [hc] at hx
  rcases List.mem_append.mp hx with hx | hx
  · exact Or.inr (hall x hx)
  · exact Or.inl hx

/-- What has a tag keeps it, and the count of arrivals only grows. -/
theorem Move.tagged {c c' : SrInstance × List SrPacket} (h : Move env c c') (ht : Tagged c) :
    Tagged c' where
  sends x hx t he := by
    rcases h.sent hx with hx | hx
    · exact (ht.sends x hx t he).trans_le h.arrivals
    cases hx with
    | reply _ ho => exact ho t he
    | answer ho hlt =>
      rw [ho] at he
      obtain rfl := Option.some.inj he
      exact hlt
    | @error p hp _ hx =>
      rw [hx.origin] at he
      obtain rfl := Option.some.inj he
      exact (ht.hand p hp).trans_le h.arrivals
    | @forward p rt i e hp _ _ _ hx =>
      rw [hx] at he
      obtain rfl := Option.some.inj he
      exact (ht.hand p hp).trans_le h.arrivals
    | broadcast ho =>
      rw [ho] at he
      contradiction
  waiting x hx q hq := by
    rcases h.waits hx hq with ⟨r,hr,-,hm⟩ | ⟨p,hp,-,-,fresh,interface,rfl⟩
    · exact (ht.waiting r hr q hm).trans_le h.arrivals
    · exact (ht.hand p hp).trans_le h.arrivals
  hand p hp := by
    rcases h.holds hp with hp | ⟨r,hr,hm⟩ | ⟨ho,hlt⟩
    · exact (ht.hand p hp).trans_le h.arrivals
    · exact (ht.waiting r hr p hm).trans_le h.arrivals
    · rw [ho]
      exact hlt

/-- An address handed out that no pending request has. -/
def Unlinked (s : SrInstance) (addr : ℕ) : Prop :=
  addr < s.cache.requests.fresh ∧ ∀ r ∈ s.cache.requests.pending, r.addr ≠ addr

/-- No move brings an unlinked request back into the queue. -/
theorem Move.unlinked {c c' : SrInstance × List SrPacket} (h : Move env c c') {addr : ℕ}
    (hu : Unlinked c.1 addr) : Unlinked c'.1 addr := by
  obtain ⟨hlt,hne⟩ := hu
  cases h with
  | arrived | accepted | replied | delivered | allocated | accessed | bounced | forwarded |
    expired => exact ⟨hlt,hne⟩
  | queued ht hrt henq =>
    rcases henq.queue with ⟨pre,r₀,post,hs,hip,hr,hp,hf⟩ | ⟨hip,hr,hp,hf⟩
    · rw [Unlinked, hf, hp]
      rw [hs] at hne
      refine ⟨hlt,?_⟩
      intro x hx
      rcases List.mem_append.mp hx with hx | hx
      · exact hne x (List.mem_append_left _ hx)
      rcases List.mem_cons.mp hx with rfl | hx
      · rw [hr]
        exact hne r₀ (List.mem_append_right pre List.mem_cons_self)
      · exact hne x (List.mem_append_right pre (List.mem_cons_of_mem r₀ hx))
    · rw [Unlinked, hf, hp]
      refine ⟨hlt.trans (Nat.lt_succ_self _), ?_⟩
      intro x hx
      rcases List.mem_cons.mp hx with rfl | hx
      · -- the new request is at the next address, which was not handed out before
        rw [hr]
        exact hlt.ne'
      · exact hne x hx
  | handled hm hh =>
    rw [Unlinked, hh.frame.2.2.2.2]
    refine ⟨hlt,?_⟩
    intro x hx
    obtain ⟨r₀,hr₀,ha,-,-⟩ := hh.mem hm hx
    rw [← ha]
    exact hne r₀ hr₀
  | inserted =>
    rw [Unlinked, insertedState_pending]
    refine ⟨hlt,?_⟩
    intro x hx
    exact hne x (List.mem_of_mem_eraseP hx)
  | freed hr =>
    refine ⟨hlt,?_⟩
    intro x hx
    exact hne x (List.mem_of_mem_eraseP hx)

theorem Moves.unlinked {c c' : SrInstance × List SrPacket} (h : Moves env c c') {addr : ℕ}
    (hu : Unlinked c.1 addr) : Unlinked c'.1 addr :=
  invariant_of_run (I := fun c => Unlinked c.1 addr) (fun _ _ hm => hm.unlinked) h hu

/-- The request that `sr_arpcache_insert` takes out of the queue is unlinked. -/
theorem insertedState_unlinked {mac : Six} {ip : UInt32} {r : SrArpreq}
    (h : s.cache.requests.pending.find? (fun r => r.ip == ip) = some r) :
    Unlinked (insertedState env mac ip s) r.addr := by
  obtain ⟨hip,pre,post,hs,hpre⟩ := List.find?_eq_some_iff_append.mp h
  have hm := List.mem_of_find?_eq_some h
  rw [Unlinked, insertedState_pending]
  refine ⟨s.cache.requests.lt_fresh r hm, ?_⟩
  rw [Requests.unlink_pending_split hs (by simpa using hpre) hip]
  intro x hx
  exact Requests.addr_ne_of_split hs hx

theorem Resolved.moves {buf : Buf} {interface : CName} {len : ℕ}
    (h : Resolved env s buf interface len s') (ho : buf.origin < s.log.arrivals) :
    Moves env (s, []) (s', []) := by
  have hm : Move env (s, []) (_, waitingFor s (arSip buf.mem)) :=
    Move.inserted s (arSha buf.mem) (arSip buf.mem)
  cases h with
  | ignored => exact Relation.ReflTransGen.refl
  | replied =>
    apply Relation.ReflTransGen.single
    apply Move.replied rfl
    intro t ht
    obtain rfl := Option.some.inj ht
    exact ho
  | unasked hi htip hop hf =>
    rw [waitingFor, hf] at hm
    exact Relation.ReflTransGen.single hm
  | answered hi htip hop hf hfl =>
    rw [waitingFor, hf] at hm
    have hms := (Relation.ReflTransGen.single hm).trans hfl.moves
    -- the request was unlinked before the flush, and the flush does not bring it back
    have hu := Moves.unlinked hfl.moves (insertedState_unlinked hf)
    exact hms.tail (Move.freed hu.2)

theorem Swept.moves {destRt : Option SrRt} {l : List SrArpreq} (h : Swept env destRt l s s') :
    Moves env (s, []) (s', []) := by
  induction h with
  | last hm hh =>
    exact (Relation.ReflTransGen.single Move.accessed).tail (Move.handled (by exact hm) hh)
  | @cons r r' rest s s₁ s' hm hh _ ih =>
    have h₁ : Moves env (s, []) (s₁, []) :=
      (Relation.ReflTransGen.single Move.accessed).tail (Move.handled (by exact hm) hh)
    exact (h₁.tail Move.accessed).trans ih

theorem Step.receive_cases {frame : List UInt8} {slack : Mem} {interface : CName}
    (h : Step env (.receive frame slack interface) s s') :
    let p := received s frame slack interface
    (ethertype p.buf.mem = ethertypeArp ∧ Resolved env s.addArrival p.buf interface p.len s') ∨
    (ethertype p.buf.mem = ethertypeIp ∧ Delivered env s.addArrival p.buf interface p.len s') ∨
    (ethertype p.buf.mem ≠ ethertypeArp ∧ ethertype p.buf.mem ≠ ethertypeIp ∧
      s' = s.addArrival) := by
  obtain ⟨fuel,h⟩ := h
  dsimp only [received]
  by_cases ha : ethertype (load frame slack) = ethertypeArp
  · rw [receive_arp ha] at h
    exact Or.inl ⟨ha, arpPacket_returns h⟩
  by_cases hi : ethertype (load frame slack) = ethertypeIp
  · rw [receive_ip hi] at h
    exact Or.inr (Or.inl ⟨hi, ipPacket_returns h⟩)
  · rw [receive_other ha hi] at h
    exact Or.inr (Or.inr ⟨ha, hi, (EStateM.Result.ok.inj h).2.symm⟩)

theorem Step.expiry_eq (h : Step env .expiry s s') :
    s' = s.addTime.setEntries (expireEntries s.cache.entries (s.now env)) := by
  obtain ⟨fuel,h⟩ := h
  exact (EStateM.Result.ok.inj h).2.symm

theorem Step.sweep_cases (h : Step env .sweep s s') :
    (s.cache.requests.pending = [] ∧ s' = s) ∨
    ∃ head rest, s.cache.requests.pending = head :: rest ∧
      Swept env (routeAt env s.routingTable head.ip) (head :: rest)
        (s.addAccess ⟨head.addr, .ip, false, false⟩) s' := by
  obtain ⟨fuel,h⟩ := h
  rw [handle] at h
  cases hp : s.cache.requests.pending with
  | nil =>
    simp only [srArpcacheSweepreqs, bind_apply, get_apply, hp] at h
    exact Or.inl ⟨rfl, (EStateM.Result.ok.inj h).2.symm⟩
  | cons head rest =>
    cases hd : env.ipDstAt head.ip with
    | none =>
      rw [srArpcacheSweepreqs_unread hp hd] at h
      contradiction
    | some ipDst =>
      rw [srArpcacheSweepreqs_cons hp hd, ← routeAt_of_read hd] at h
      exact Or.inr ⟨head, rest, rfl, sweepFrom_returns (hp.trans (List.nil_append _).symm) h⟩

/-- What becomes of an accepted packet for another destination is up to `packet_to_other_dest`. -/
theorem Step.transit_routed {frame : List UInt8} {slack : Mem} {interface : CName}
    (ha : Accepted (load frame slack) frame.length) (hl : ¬Local s (load frame slack))
    (h : Step env (.receive frame slack interface) s s') :
    Routed env s.addArrival (received s frame slack interface).buf interface frame.length s' := by
  have hi := ((accepted_iff _ _).mp ha).2.1
  rcases h.receive_cases with ⟨h',-⟩ | ⟨-,h'⟩ | ⟨-,h',-⟩
  · exact absurd (hi.symm.trans h') (by decide)
  · cases h' with
    | rejected hn => exact absurd ha hn
    | echoed _ hl' | unreachable _ hl' | dropped _ hl' => exact absurd hl' hl
    | transit _ _ hr => exact hr
  · exact absurd hi h'

/-- It is taken in hand, and then disposed of. -/
theorem Step.transit_moves {frame : List UInt8} {slack : Mem} {interface : CName}
    (ha : Accepted (load frame slack) frame.length) (hl : ¬Local s (load frame slack))
    (h : Step env (.receive frame slack interface) s s') :
    Moves env (s.addArrival, [received s frame slack interface]) (s', []) :=
  Routed.moves (p := received s frame slack interface) (h.transit_routed ha hl)

/-- What becomes of a frame before anything else is done: it is passed over, taken in
hand, or answered at once. -/
inductive Taken (s : SrInstance) (frame : List UInt8) (slack : Mem) (interface : CName) :
    SrInstance × List SrPacket → Prop where
  | ignored : Taken s frame slack interface (s.addArrival, [])
  | accepted : Accepted (load frame slack) frame.length → ¬Local s (load frame slack) →
      Taken s frame slack interface (s.addArrival, [received s frame slack interface])
  | answered {s₁ : SrInstance} {c : SendCall} : s₁ = s ∨ s₁ = s.addMalloc →
      Accepted (load frame slack) frame.length → Local s (load frame slack) →
      (c.emitter = .echoReply ∧ c.origin = some s.log.arrivals ∨
        c.emitter = .portUnreach ∧
          ErrorAbout c (received s frame slack interface).buf frame.length) →
      Taken s frame slack interface (s₁.addArrival.addSend c, [])

theorem Taken.moves {frame : List UInt8} {slack : Mem} {interface : CName}
    {c : SrInstance × List SrPacket} (h : Taken s frame slack interface c) :
    Moves env (s, []) c := by
  cases h with
  | ignored => exact Relation.ReflTransGen.single Move.arrived
  | accepted ha => exact Relation.ReflTransGen.single (Move.accepted ha)
  | answered hs ha _ hc =>
    rcases hs with rfl | rfl
    · exact Relation.ReflTransGen.single (@Move.delivered env _ frame slack interface _ ha hc)
    · exact (Relation.ReflTransGen.single Move.allocated).tail
        (@Move.delivered env s.addMalloc frame slack interface _ ha hc)

theorem Step.taken {frame : List UInt8} {slack : Mem} {interface : CName}
    (h : Step env (.receive frame slack interface) s s') :
    ∃ c, Taken s frame slack interface c ∧ Moves env c (s', []) := by
  have hlt : s.log.arrivals < s.addArrival.log.arrivals := Nat.lt_succ_self _
  rcases h.receive_cases with ⟨-,hr⟩ | ⟨-,hd⟩ | ⟨-,-,rfl⟩
  · exact ⟨_, Taken.ignored, hr.moves hlt⟩
  · cases hd with
    | rejected | dropped => exact ⟨_, Taken.ignored, Relation.ReflTransGen.refl⟩
    | echoed ha hl =>
      exact ⟨_, Taken.answered (Or.inl rfl) ha hl (Or.inl ⟨rfl,rfl⟩), Relation.ReflTransGen.refl⟩
    | unreachable ha hl =>
      exact ⟨_, Taken.answered (Or.inr rfl) ha hl (Or.inr ⟨rfl,
        icmpErrorCall_about env (Or.inr (Or.inr rfl)) _ _ _ _ _ _ _ _⟩),
        Relation.ReflTransGen.refl⟩
    | transit ha hl hr =>
      exact ⟨_, Taken.accepted ha hl, Routed.moves (p := received s frame slack interface) hr⟩
  · exact ⟨_, Taken.ignored, Relation.ReflTransGen.refl⟩

/-- Every event is a sequence of moves that begins and ends with nothing in hand. -/
theorem Step.moves {ev : Event} (h : Step env ev s s') : Moves env (s, []) (s', []) := by
  cases ev with
  | receive frame slack interface =>
    obtain ⟨c,ht,hm⟩ := h.taken
    exact ht.moves.trans hm
  | expiry =>
    rw [h.expiry_eq]
    exact Relation.ReflTransGen.single Move.expired
  | sweep =>
    rcases h.sweep_cases with ⟨-,rfl⟩ | ⟨head,rest,-,hs⟩
    · exact Relation.ReflTransGen.refl
    · exact (Relation.ReflTransGen.single Move.accessed).trans hs.moves

theorem Run.moves (h : Run env s s') : Moves env (s, []) (s', []) := by
  induction h with
  | refl => exact Relation.ReflTransGen.refl
  | tail _ hst ih => exact ih.trans (hst.choose_spec).moves

/-- No sequence of moves changes the interfaces or the routing table. -/
theorem Moves.tables {c c' : SrInstance × List SrPacket} (h : Moves env c c') :
    c'.1.ifList = c.1.ifList ∧ c'.1.routingTable = c.1.routingTable := by
  refine invariant_of_run (I := fun d => d.1.ifList = c.1.ifList ∧
    d.1.routingTable = c.1.routingTable) (fun d d' hm hd => ?_) h ⟨rfl,rfl⟩
  exact ⟨hm.tables.1.trans hd.1, hm.tables.2.trans hd.2⟩

theorem Step.tables {ev : Event} (h : Step env ev s s') :
    s'.ifList = s.ifList ∧ s'.routingTable = s.routingTable :=
  Moves.tables h.moves

/-- What has been sent stays on record. -/
theorem Moves.sends_mem {c c' : SrInstance × List SrPacket} (h : Moves env c c') {x : SendCall}
    (hx : x ∈ c.1.log.sends) : x ∈ c'.1.log.sends := by
  refine invariant_of_run (I := fun d => x ∈ d.1.log.sends) (fun d d' hm hd => ?_) h hx
  obtain ⟨calls,hs⟩ := hm.log.2
  rw [hs]
  exact List.mem_append_right calls hd

theorem Initial.tagged (h : Initial s) : Tagged (s, []) := by
  have hp : s.cache.requests.pending = [] := by rw [h.cache]; rfl
  have hs : s.log.sends = [] := by rw [h.log]; rfl
  exact ⟨by simp [hs], by simp [hp], by simp⟩

theorem Run.tagged (h : Run env s s') (ht : Tagged (s, [])) : Tagged (s', []) :=
  invariant_of_run (fun _ _ hm => hm.tagged) h.moves ht

end Moves

end InternetCourse.Router
