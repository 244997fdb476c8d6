import InternetCourse.RouterQueue

/-! Transit packets are neither lost nor duplicated: what has been sent on of a packet
and the copies of it that wait add up to one. -/
namespace InternetCourse.Router

open ByteMem StateTriple

/-- A successful transmission of the `t`-th received frame by `packet_to_other_dest`. -/
def sentOn (t : ℕ) (c : SendCall) : Bool :=
  c.emitter == .packetToOtherDest && c.origin == some t && c.ret == 0

/-- A copy of the `t`-th received frame. -/
def copyOf (t : ℕ) (p : SrPacket) : Bool := p.buf.origin == t

def transmissions (s : SrInstance) (t : ℕ) : ℕ := s.log.sends.countP (sentOn t)

def waitingCopies (s : SrInstance) (t : ℕ) : ℕ :=
  (s.cache.requests.pending.map fun r => r.packets.countP (copyOf t)).sum

/-- Transmissions, copies waiting and copies in hand. -/
def copies (c : SrInstance × List SrPacket) (t : ℕ) : ℕ :=
  transmissions c.1 t+waitingCopies c.1 t+c.2.countP (copyOf t)

/-- Every call of `sr_send_packet` succeeded and no request was given up. -/
structure Clean (s : SrInstance) : Prop where
  sends : ∀ c ∈ s.log.sends, c.ret = 0
  arp : ∀ req now, ArpEvent.giveUp req now ∉ s.log.arp

variable {env : Env} {s s' : SrInstance} {t : ℕ}

theorem Move.clean {c c' : SrInstance × List SrPacket} (h : Move env c c') (hc : Clean c'.1) :
    Clean c.1 := by
  obtain ⟨⟨events,he⟩,calls,hs⟩ := h.log
  obtain ⟨hsends,harp⟩ := hc
  rw [hs] at hsends
  rw [he] at harp
  refine ⟨?_,?_⟩
  · intro x hx
    exact hsends x (List.mem_append_right calls hx)
  · intro req now hm
    exact harp req now (List.mem_append_right events hm)

/-- What the lists of waiting packets add up to. -/
def waitingSum (f : List SrPacket → ℕ) (s : SrInstance) : ℕ :=
  (s.cache.requests.pending.map fun r => f r.packets).sum

theorem waitingSum_split {pre post : List SrArpreq} {r : SrArpreq}
    (h : s.cache.requests.pending = pre ++ r :: post) (f : List SrPacket → ℕ) :
    waitingSum f s = (pre.map fun r => f r.packets).sum+
      (f r.packets+(post.map fun r => f r.packets).sum) := by
  simp only [waitingSum, h, List.map_append, List.map_cons, List.sum_append, List.sum_cons]

/-- Packets are only lost where a request is handled. -/
theorem Handled.waitingSum_le {destRt : Option SrRt} {r : SrArpreq}
    (h : Handled env destRt s r s') (hm : r ∈ s.cache.requests.pending)
    (f : List SrPacket → ℕ) : waitingSum f s' ≤ waitingSum f s := by
  obtain ⟨pre,post,hs⟩ := List.append_of_mem hm
  rw [waitingSum_split hs]
  rcases h.pending hs with hp | hp | hp
  · rw [waitingSum_split hp]
  · rw [waitingSum_split hp]
  · simp only [waitingSum, hp, List.map_append, List.sum_append]
    omega

theorem Enqueued.waitingSum {ip : UInt32} {pkts : List SrPacket} {r : SrArpreq}
    {f : List SrPacket → ℕ} (h : Enqueued s ip pkts r s')
    (hf : ∀ l l', f (l ++ l') = f l+f l') : waitingSum f s' = f pkts+waitingSum f s := by
  rcases h.queue with ⟨pre,r₀,post,hs,-,rfl,hp,-⟩ | ⟨-,rfl,hp,-⟩
  · rw [waitingSum_split hs, waitingSum_split hp]
    dsimp only
    rw [hf]
    omega
  · rw [waitingSum_split (hp.trans (List.nil_append _).symm)]
    simp [Router.waitingSum]

theorem waitingSum_insert {f : List SrPacket → ℕ} (hf : f [] = 0) (mac : Six) (ip : UInt32)
    (s : SrInstance) :
    waitingSum f (insertedState env mac ip s)+f (waitingFor s ip) = waitingSum f s := by
  cases hfind : s.cache.requests.pending.find? (fun r => r.ip == ip) with
  | none =>
    have hu : (s.cache.requests.unlink fun r => r.ip == ip).pending = s.cache.requests.pending :=
      List.eraseP_of_forall_not (List.find?_eq_none.mp hfind)
    simp only [waitingFor, hfind, waitingSum, insertedState_pending, hu, Option.map_none,
      Option.getD_none, hf, Nat.add_zero]
  | some r =>
    obtain ⟨hip,pre,post,hs,hpre⟩ := List.find?_eq_some_iff_append.mp hfind
    have hu : (s.cache.requests.unlink fun r => r.ip == ip).pending = pre ++ post :=
      Requests.unlink_pending_split hs (by simpa using hpre) hip
    rw [waitingSum_split hs]
    simp only [waitingFor, hfind, waitingSum, insertedState_pending, hu, Option.map_some,
      Option.getD_some, List.map_append, List.sum_append]
    omega

/-- Handling a request keeps the packets that wait, unless it gives the request up. -/
theorem Handled.waitingCopies {destRt : Option SrRt} {r : SrArpreq}
    (h : Handled env destRt s r s') (hm : r ∈ s.cache.requests.pending) (hc : Clean s') (t : ℕ) :
    waitingCopies s' t = waitingCopies s t := by
  cases h with
  | notDue => rfl
  | @retried rt i =>
    obtain ⟨pre,post,hs⟩ := List.append_of_mem hm
    exact (waitingSum_split (retriedState_pending hs i) _).trans (waitingSum_split hs _).symm
  | gaveUp =>
    -- packets are lost only where a request is given up, and that is on record
    have hgive : ArpEvent.giveUp r.addr (s.now env) ∈ (gaveUpState env s r).log.arp := by
      rw [gaveUpState_arp]
      exact List.mem_cons_self
    exact absurd hgive (hc.arp r.addr (s.now env))

theorem Handled.transmissions {destRt : Option SrRt} {r : SrArpreq}
    (h : Handled env destRt s r s') (t : ℕ) : transmissions s' t = transmissions s t := by
  obtain ⟨calls,hs,hc⟩ := h.log.2
  have hz : calls.countP (sentOn t) = 0 := by
    rw [List.countP_eq_zero]
    intro c hm
    simp [sentOn, (hc c hm).1]
  rw [Router.transmissions, hs, List.countP_append, hz, Nat.zero_add]
  rfl

theorem Enqueued.waitingCopies {ip : UInt32} {pkts : List SrPacket} {r : SrArpreq}
    (h : Enqueued s ip pkts r s') (t : ℕ) :
    waitingCopies s' t = pkts.countP (copyOf t)+waitingCopies s t :=
  h.waitingSum fun _ _ => List.countP_append

theorem waitingCopies_insert (mac : Six) (ip : UInt32) (s : SrInstance) (t : ℕ) :
    waitingCopies (insertedState env mac ip s) t+(waitingFor s ip).countP (copyOf t) =
      waitingCopies s t :=
  waitingSum_insert List.countP_nil mac ip s

/-- The invariant for the `t`-th received frame: as long as nothing fails, there is one of it. -/
structure OneCopy (t : ℕ) (c : SrInstance × List SrPacket) : Prop where
  inv : HandInv c
  arrived : t < c.1.log.arrivals
  hand : ∀ p ∈ c.2, copyOf t p = true → 1 < ipTtl p.buf.mem ∧
    ∃ rt, longestPrefixSum c.1.routingTable (ipDst p.buf.mem) = some rt
  one : Clean c.1 → copies c t = 1

theorem transmissions_addSend (s : SrInstance) (c : SendCall) (t : ℕ) :
    transmissions (s.addSend c) t = transmissions s t+(if sentOn t c then 1 else 0) :=
  List.countP_cons

theorem countP_cons_origin (t : ℕ) (p : SrPacket) (hand : List SrPacket) :
    (p :: hand).countP (copyOf t) = hand.countP (copyOf t)+(if copyOf t p then 1 else 0) :=
  List.countP_cons

/-- One move keeps the number of copies, if nothing fails. -/
theorem Move.copies {c c' : SrInstance × List SrPacket} (h : Move env c c') (ho : OneCopy t c)
    (hc : Clean c'.1) : copies c' t = copies c t := by
  obtain ⟨hi,hlt,hh,-⟩ := ho
  cases h with
  | arrived | allocated | accessed | expired => rfl
  | @accepted s frame slack interface =>
    have hne : copyOf t (received s frame slack interface) = false := by
      simpa [copyOf, received] using hlt.ne'
    simp only [Router.copies, countP_cons_origin, hne]
    rfl
  | @replied s c he =>
    have hne : sentOn t c = false := by simp [sentOn, he]
    simp only [Router.copies, transmissions_addSend, hne, Bool.false_eq_true, if_false]
    rfl
  | @delivered s frame slack interface c _ he =>
    have hne : sentOn t c = false := by
      rcases he with ⟨he,-⟩ | ⟨he,-⟩ <;> simp [sentOn, he]
    simp only [Router.copies, transmissions_addSend, hne, Bool.false_eq_true, if_false]
    rfl
  | @bounced s p hand c ht he =>
    have hne : copyOf t p = false := by
      by_contra hcp
      obtain ⟨htl,rt,hrt⟩ := hh p List.mem_cons_self (by simpa using hcp)
      rcases ht with ht | ht
      · exact absurd htl (UInt8.not_lt.mpr ht)
      · simp [hrt] at ht
    -- an error message is no transmission of the packet
    have hns : sentOn t c = false := by
      rcases he with he | he <;> simp [sentOn, he]
    simp only [Router.copies, transmissions_addSend, countP_cons_origin, hne, hns,
      Bool.false_eq_true, if_false]
    rfl
  | @forwarded s p hand rt e i =>
    have hret : (forwardCall env s p.buf p.len i e).ret = 0 := hc.sends _ (by simp)
    have hs : sentOn t (forwardCall env s p.buf p.len i e) = copyOf t p := by
      rw [sentOn, hret]
      simp [forwardCall, copyOf]
    have hw : waitingCopies (s.addSend (forwardCall env s p.buf p.len i e)) t =
        waitingCopies s t := rfl
    -- the copy moves from the hand to the wire
    simp only [Router.copies, transmissions_addSend, countP_cons_origin, hs, hw]
    omega
  | @queued s s' p hand rt r fresh interface ht hrt he =>
    have hl := ((accepted_iff _ _).mp (hi.2 p List.mem_cons_self)).1
    have hw := he.waitingCopies t
    have htr : transmissions s' t = transmissions s t := by
      rw [transmissions, he.sends]
      rfl
    have hq : copyOf t (queuedCopy fresh p.buf p.len interface) = copyOf t p := rfl
    rw [if_pos (by omega), List.countP_singleton, hq] at hw
    -- the copy moves from the hand to the queue
    simp only [Router.copies, htr, hw, countP_cons_origin]
    omega
  | @handled s s' hand destRt r hm hd =>
    simp only [Router.copies, hd.transmissions, hd.waitingCopies hm hc]
  | inserted s mac ip =>
    have hw := @waitingCopies_insert env mac ip s t
    have htr : transmissions (insertedState env mac ip s) t = transmissions s t := by
      rw [transmissions, (insertedState_frame env mac ip s).2.2.1]
      rfl
    -- the copies that waited for this address are in hand now
    simp only [Router.copies, htr, List.countP_nil]
    omega
  | @freed s r hr =>
    have hp : (s.cache.requests.destroy r).pending = s.cache.requests.pending :=
      List.eraseP_of_forall_not (by simpa using hr)
    simp only [Router.copies, waitingCopies, SrInstance.setRequests_cache_requests, hp]
    rfl

theorem Move.oneCopy {c c' : SrInstance × List SrPacket} (h : Move env c c') (ho : OneCopy t c) :
    OneCopy t c' where
  inv := h.handInv ho.inv
  arrived := ho.arrived.trans_le h.arrivals
  hand := by
    have hh := ho.hand
    have hlt := ho.arrived
    rw [h.tables.2]
    cases h with
    | arrived | replied | delivered | freed | expired => simp
    | accepted =>
      intro p hp hcp
      obtain rfl := List.mem_singleton.mp hp
      simp only [copyOf, received, beq_iff_eq] at hcp
      exact absurd hcp hlt.ne'
    | allocated | accessed | handled => exact hh
    | bounced | forwarded | queued =>
      intro p hp
      exact hh p (List.mem_cons_of_mem _ hp)
    | inserted =>
      -- what waited was checked before, by the invariant of the queue
      intro p hp _
      obtain ⟨r,hr,rfl,hm⟩ := mem_waitingFor hp
      have hw := ho.inv.1.waiting r hr p hm
      rw [hw.dst]
      exact ⟨hw.ttl,hw.route⟩
  one := by
    intro hc
    have hone := ho.one (h.clean hc)
    rw [h.copies ho hc]
    exact hone

/-- No copy of the next frame waits. -/
theorem waitingCopies_arrivals (ht : Tagged (s, [])) : waitingCopies s s.log.arrivals = 0 := by
  apply List.sum_eq_zero
  intro n hn
  obtain ⟨r,hr,rfl⟩ := List.mem_map.mp hn
  rw [List.countP_eq_zero]
  intro p hp hcp
  simp only [copyOf, beq_iff_eq] at hcp
  exact (ht.waiting r hr p hp).ne hcp

/-- A frame just taken in hand is the first copy of it. -/
theorem copies_received (ht : Tagged (s, [])) (frame : List UInt8) (slack : Mem)
    (interface : CName) :
    copies (s.addArrival, [received s frame slack interface]) s.log.arrivals = 1 := by
  have hs : transmissions s.addArrival s.log.arrivals = 0 := by
    rw [transmissions, List.countP_eq_zero]
    intro c hc hsent
    simp only [sentOn, Bool.and_eq_true, beq_iff_eq] at hsent
    exact (ht.sends c hc _ hsent.1.2).ne rfl
  have hw : waitingCopies s.addArrival s.log.arrivals = 0 := waitingCopies_arrivals ht
  have hh : copyOf s.log.arrivals (received s frame slack interface) = true := by
    simp [copyOf, received]
  simp only [copies, hs, hw, List.countP_singleton, hh]
  rfl

/-- Transit packets are neither lost nor duplicated. As long as nothing fails, an accepted
packet for another destination has been sent on once or waits once, never both. -/
theorem transit_conserved {s₀ s₁ s₂ : SrInstance} {frame : List UInt8} {slack : Mem}
    {interface : CName} (h₀ : Initial s₀) (hbefore : Run env s₀ s)
    (hacc : Accepted (load frame slack) frame.length) (hlocal : ¬Local s (load frame slack))
    (httl : 1 < ipTtl (load frame slack))
    (hroute : ∃ rt, longestPrefixSum s.routingTable (ipDst (load frame slack)) = some rt)
    (hrecv : Step env (.receive frame slack interface) s s₁) (hafter : Run env s₁ s₂)
    (hclean : Clean s₂) :
    transmissions s₂ s.log.arrivals+waitingCopies s₂ s.log.arrivals = 1 := by
  have htag := hbefore.tagged h₀.tagged
  have hq : HandInv (s, []) := ⟨hbefore.queueInv h₀.queueInv, by simp⟩
  have hmove : Move env (s, []) (s.addArrival, [received s frame slack interface]) :=
    Move.accepted hacc
  have hstart : OneCopy s.log.arrivals (s.addArrival, [received s frame slack interface]) := by
    refine ⟨hmove.handInv hq, Nat.lt_succ_self _, ?_, ?_⟩
    · intro p hp _
      obtain rfl := List.mem_singleton.mp hp
      exact ⟨httl,hroute⟩
    · intro _
      exact copies_received htag frame slack interface
  have hmoves := (hrecv.transit_moves hacc hlocal).trans hafter.moves
  have hend := invariant_of_run (fun _ _ hm => hm.oneCopy) hmoves hstart
  -- at the end of an event nothing is in hand
  exact hend.one hclean

theorem transit_conserved_smallRouter :
    transmissions answeredRouter 0+waitingCopies answeredRouter 0 = 1 := by
  have harp : answeredRouter.log.arp = [.requestSend 0 100, .handle 0 100] := by decide +kernel
  refine transit_conserved smallRouter_initial
    Relation.ReflTransGen.refl (by decide +kernel) (by decide +kernel) (by decide +kernel)
    (Option.isSome_iff_exists.mp (by decide +kernel)) (step_after (by decide +kernel))
    (Relation.ReflTransGen.single ⟨_, step_after (by decide +kernel)⟩) ⟨by decide +kernel, ?_⟩
  simp [harp]

end InternetCourse.Router
