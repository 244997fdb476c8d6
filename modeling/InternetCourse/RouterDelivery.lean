import InternetCourse.RouterForward
import InternetCourse.RouterResolve
import InternetCourse.RouterRules
import InternetCourse.RouterTransit
import Mathlib.Data.Multiset.Filter
import Mathlib.Data.Multiset.ZeroCons

/-! Frames that wait for the address of their destination go out as they would have gone out at
once. Two runs are compared: in one the address is announced after the frames have come in, in
the other it is known all along. -/
namespace InternetCourse.Router

open ByteMem StateTriple

/-- A frame that comes in, what lies behind it in memory, and the interface. -/
structure Arrival where
  frame : List UInt8
  slack : Mem
  interface : CName

def Arrival.mem (a : Arrival) : Mem := load a.frame a.slack

def Arrival.event (a : Arrival) : Event := .receive a.frame a.slack a.interface

/-- An accepted packet for `ip`, which is no address of the router, with a time to live above 1. -/
structure InTransit (ifList : List SrIf) (ip : UInt32) (a : Arrival) : Prop where
  accepted : Accepted a.mem a.frame.length
  foreign : ipPacketRouterCheck ifList a.mem = none
  dst : ipDst a.mem = ip
  alive : 1 < ipTtl a.mem

/-- Frames come in one after the other, each in a state in `C` and under the next number; in
between and after the last of them anything may happen. -/
inductive Arrivals (env : Env) (C : SrInstance → Prop) (s₀ : SrInstance) :
    List (Arrival × ℕ) → SrInstance → Prop where
  | start : Arrivals env C s₀ [] s₀
  | other {l : List (Arrival × ℕ)} {s s' : SrInstance} {ev : Event} :
      Arrivals env C s₀ l s → Step env ev s s' → Arrivals env C s₀ l s'
  | arrive {l : List (Arrival × ℕ)} {s s' : SrInstance} {a : Arrival} :
      Arrivals env C s₀ l s → C s → Step env a.event s s' →
      Arrivals env C s₀ (l ++ [(a, s.log.arrivals)]) s'

/-- The frames of `l` come in while `ip` is not cached, and all of them wait when a reply comes
that announces `ip` at `mac` and makes the cache say so. -/
inductive DeliveredLate (env : Env) (s : SrInstance) (ip : UInt32) (mac : Six)
    (l : List (Arrival × ℕ)) : SrInstance → Prop where
  | flushed {sn s' : SrInstance} {reply : Arrival} {i : SrIf} :
      Arrivals env (fun s => srArpcacheLookup s.cache.entries ip = none) s l sn →
      (∀ x ∈ l, ∃ p ∈ waitingFor sn ip, p.buf.origin = x.2) →
      srGetInterface sn.ifList reply.interface = some i → ArpFields reply.mem 2 mac ip i.ip →
      mappedMac (insertedState env mac ip sn.addArrival).cache.entries ip = some mac →
      Step env reply.event sn s' → DeliveredLate env s ip mac l s'

/-- The frames of `l` come in while `ip` is cached with `mac`. -/
abbrev DeliveredAtOnce (env : Env) (s : SrInstance) (ip : UInt32) (mac : Six) :
    List (Arrival × ℕ) → SrInstance → Prop :=
  Arrivals env (fun s => mappedMac s.cache.entries ip = some mac) s

/-- A call made on behalf of the `t`-th received frame, if that is an IP packet. -/
def sentFor (t : ℕ) (c : SendCall) : Bool := c.emitter != .arpPacket && c.origin == some t

/-- The frames sent on behalf of the received frames with these numbers, and the interfaces
they leave by. -/
def transmitted (tags : List ℕ) (s : SrInstance) : Multiset (List UInt8 × CName) :=
  ((s.log.sends : Multiset SendCall).filter fun c => ∃ t ∈ tags, sentFor t c = true).map
    fun c => (c.frame, c.iface)

/-- What becomes of a frame that goes out by interface `i` to the MAC address `mac`. -/
def relayed (i : SrIf) (mac : Six) (a : Arrival) : List UInt8 × CName :=
  (wire (forwardFrame a.mem i.addr mac) a.frame.length, i.name)

/-- One call was made on behalf of the `t`-th frame, and this is what it sent. -/
structure SentOnce (s : SrInstance) (t : ℕ) (o : List UInt8 × CName) : Prop where
  sent : ∃ c ∈ s.log.sends, sentFor t c = true ∧ (c.frame, c.iface) = o
  once : s.log.sends.countP (sentFor t) ≤ 1

/-- Calls on behalf of the frame, copies of it that wait, and copies in hand. -/
def tokens (c : SrInstance × List SrPacket) (t : ℕ) : ℕ :=
  c.1.log.sends.countP (sentFor t)+waitingCopies c.1 t+c.2.countP (copyOf t)

variable {env env' : Env} {s s' : SrInstance} {t : ℕ}

theorem Handled.sentFor {destRt : Option SrRt} {r : SrArpreq} (h : Handled env destRt s r s')
    (t : ℕ) : s'.log.sends.countP (sentFor t) = s.log.sends.countP (sentFor t) := by
  obtain ⟨calls,hs,hc⟩ := h.log.2
  have hz : calls.countP (Router.sentFor t) = 0 := by
    rw [List.countP_eq_zero]
    intro c hm
    simp [Router.sentFor, (hc c hm).2]
  rw [hs, List.countP_append, hz, Nat.zero_add]

theorem ErrorAbout.sentFor {c : SendCall} {packet : Buf} {len : ℕ} (h : ErrorAbout c packet len)
    (t : ℕ) : sentFor t c = (packet.origin == t) := by
  have hne : (c.emitter != .arpPacket) = true := by
    rcases h.emitter with he | he | he <;> rw [he] <;> decide
  simp [Router.sentFor, hne, h.origin]

theorem countP_sentFor_addSend (s : SrInstance) (c : SendCall) (t : ℕ) :
    (s.addSend c).log.sends.countP (sentFor t) =
      s.log.sends.countP (sentFor t)+(if sentFor t c then 1 else 0) :=
  List.countP_cons

/-- No move makes a second copy of a frame that has come in. -/
theorem Move.tokens_le {c c' : SrInstance × List SrPacket} (h : Move env c c')
    (hlt : t < c.1.log.arrivals) : tokens c' t ≤ tokens c t := by
  cases h with
  | arrived | allocated | accessed | expired => exact Nat.le_refl _
  | @accepted s frame slack interface =>
    have hne : copyOf t (received s frame slack interface) = false := by
      simpa [copyOf, received] using hlt.ne'
    simp only [tokens, countP_cons_origin, hne]
    exact Nat.le_refl _
  | @replied s c he =>
    have hne : sentFor t c = false := by simp [sentFor, he]
    simp only [tokens, countP_sentFor_addSend, hne]
    exact Nat.le_refl _
  | @delivered s frame slack interface c _ he =>
    have ho : c.origin = some s.log.arrivals := by
      rcases he with ⟨-,ho⟩ | ⟨-,ho⟩
      · exact ho
      · exact ho.origin
    -- it is about a later frame
    have hne : sentFor t c = false := by simpa [sentFor, ho] using fun _ => hlt.ne'
    have hw : waitingCopies (s.addArrival.addSend c) t = waitingCopies s t := rfl
    have hs : (s.addArrival.addSend c).log.sends.countP (sentFor t) =
        s.log.sends.countP (sentFor t) := by
      rw [countP_sentFor_addSend, hne]
      rfl
    simp only [tokens, hs, hw]
    exact Nat.le_refl _
  | @bounced s p hand c _ _ he =>
    have hs : sentFor t c = copyOf t p := he.sentFor t
    have hw : waitingCopies (s.addSend c) t = waitingCopies s t := rfl
    simp only [tokens, countP_sentFor_addSend, countP_cons_origin, hs, hw]
    omega
  | @forwarded s p hand rt e i =>
    have hs : sentFor t (forwardCall env s p.buf p.len i e) = copyOf t p := by
      simp [sentFor, forwardCall, copyOf]
    have hw : waitingCopies (s.addSend (forwardCall env s p.buf p.len i e)) t =
        waitingCopies s t := rfl
    simp only [tokens, countP_sentFor_addSend, countP_cons_origin, hs, hw]
    omega
  | @queued s s' p hand rt r fresh interface _ _ he =>
    have hw := he.waitingCopies t
    have hcopy : (if p.len ≠ 0 then [queuedCopy fresh p.buf p.len interface] else []).countP
        (copyOf t) ≤ if copyOf t p then 1 else 0 := by
      have hq : copyOf t (queuedCopy fresh p.buf p.len interface) = copyOf t p := rfl
      split
      · rw [List.countP_singleton, hq]
      · exact Nat.zero_le _
    -- the copy in hand becomes the one that waits
    simp only [tokens, he.sends, hw, countP_cons_origin]
    omega
  | @handled s s' hand destRt r hm hd =>
    -- the packets of a request that is given up are lost
    have hw : waitingCopies s' t ≤ waitingCopies s t := hd.waitingSum_le hm _
    simp only [tokens, hd.sentFor]
    omega
  | inserted s mac ip =>
    have hw := @waitingCopies_insert env mac ip s t
    simp only [tokens, (insertedState_frame env mac ip s).2.2.1, List.countP_nil]
    omega
  | @freed s r hr =>
    have hp : (s.cache.requests.destroy r).pending = s.cache.requests.pending :=
      List.eraseP_of_forall_not (by simpa using hr)
    simp only [tokens, waitingCopies, SrInstance.setRequests_cache_requests, hp]
    exact Nat.le_refl _

/-- The copies of `a`: as long as it, and with its bytes. -/
def CopyOf (a : Arrival) (p : SrPacket) : Prop :=
  p.len = a.frame.length ∧ ∀ i < a.frame.length, p.buf.mem i = a.mem i

theorem copyOf_hereditary (env : Env) (a : Arrival) : Hereditary env (CopyOf a) fun _ => True where
  copy fresh p interface := by
    rintro ⟨hl,hb⟩
    refine ⟨hl, fun i hi => ?_⟩
    rw [queuedCopy_mem fresh p.buf p.len interface (hl ▸ hi)]
    exact hb i hi
  forward _ _ _ _ _ _ := trivial
  error _ _ _ _ := trivial
  reply _ _ := trivial

/-- What holds of a frame from its arrival on: there is one of it at most, and what there is
of it is faithful. -/
structure Tracked (a : Arrival) (t : ℕ) (c : SrInstance × List SrPacket) : Prop where
  one : tokens c t ≤ 1
  traced : Traced t (CopyOf a) (fun _ => True) c

theorem Move.tracked {a : Arrival} {c c' : SrInstance × List SrPacket} (h : Move env c c')
    (ht : Tracked a t c) : Tracked a t c' where
  one := (h.tokens_le ht.traced.arrived).trans ht.one
  traced := h.traced (copyOf_hereditary env a) ht.traced

theorem Moves.tracked {a : Arrival} {c c' : SrInstance × List SrPacket} (h : Moves env c c')
    (ht : Tracked a t c) : Tracked a t c' :=
  invariant_of_run (I := Tracked a t) (fun _ _ hm => hm.tracked) h ht

/-- A frame just taken in hand. -/
theorem tracked_received (env : Env) (ht : Tagged (s, [])) {a : Arrival}
    (ha : Accepted a.mem a.frame.length) (hl : ¬Local s a.mem) :
    Tracked a s.log.arrivals (s.addArrival, [received s a.frame a.slack a.interface]) where
  one := by
    have hs : s.addArrival.log.sends.countP (sentFor s.log.arrivals) = 0 := by
      rw [List.countP_eq_zero]
      intro c hc hsent
      simp only [sentFor, Bool.and_eq_true, beq_iff_eq] at hsent
      exact (ht.sends c hc _ hsent.2).ne rfl
    have hw : waitingCopies s.addArrival s.log.arrivals = 0 := waitingCopies_arrivals ht
    simp only [tokens, hs, hw, Nat.zero_add]
    exact List.countP_le_length
  traced := (Taken.accepted ha hl).traced (copyOf_hereditary env a) ht fun _ =>
    ⟨rfl, fun _ _ => rfl⟩

section Transmitted

theorem SentOnce.filter {o : List UInt8 × CName} (h : SentOnce s t o) :
    ((s.log.sends : Multiset SendCall).filter fun c => sentFor t c = true).map
      (fun c => (c.frame, c.iface)) = {o} := by
  obtain ⟨⟨c,hc,hsent,rfl⟩,hone⟩ := h
  let calls := (s.log.sends : Multiset SendCall).filter fun c => sentFor t c = true
  have hm : c ∈ calls := Multiset.mem_filter.mpr ⟨hc,hsent⟩
  have hcard : calls.card ≤ 1 := by
    rw [List.countP_eq_length_filter] at hone
    simpa [calls] using hone
  obtain ⟨rest,hrest⟩ := Multiset.exists_cons_of_mem hm
  rw [hrest, Multiset.card_cons] at hcard
  have hz : rest = 0 := Multiset.card_eq_zero.mp (by omega)
  have hs : calls = {c} := by
    rw [hrest, hz]
    rfl
  calc
    _ = calls.map fun c => (c.frame, c.iface) := rfl
    _ = {(c.frame, c.iface)} := by rw [hs, Multiset.map_singleton]

/-- A call is made on behalf of one frame only. -/
theorem transmitted_cons {tags : List ℕ} (hn : t ∉ tags) (s : SrInstance) :
    transmitted (t :: tags) s =
      ((s.log.sends : Multiset SendCall).filter fun c => sentFor t c = true).map
        (fun c => (c.frame, c.iface))+transmitted tags s := by
  have hdisj : (s.log.sends : Multiset SendCall).filter
      (fun c => sentFor t c = true ∧ ∃ u ∈ tags, sentFor u c = true) = 0 := by
    rw [Multiset.filter_eq_nil]
    rintro c - ⟨ht,u,hu,hc⟩
    simp only [sentFor, Bool.and_eq_true, beq_iff_eq] at ht hc
    have he : t = u := Option.some.inj (ht.2.symm.trans hc.2)
    exact hn (he ▸ hu)
  have hor : (s.log.sends : Multiset SendCall).filter (fun c => ∃ u ∈ t :: tags, sentFor u c = true) =
      (s.log.sends : Multiset SendCall).filter
        (fun c => sentFor t c = true ∨ ∃ u ∈ tags, sentFor u c = true) :=
    Multiset.filter_congr fun c _ => by simp
  rw [transmitted, transmitted, hor, ← Multiset.map_add, Multiset.filter_add_filter, hdisj, add_zero]

theorem transmitted_eq {tags : List ℕ} {out : List (List UInt8 × CName)} (hn : tags.Nodup)
    (h : List.Forall₂ (SentOnce s) tags out) : transmitted tags s = out := by
  induction h with
  | nil => simp [transmitted]
  | @cons t o tags out ho _ ih =>
    obtain ⟨ht,hn⟩ := List.nodup_cons.mp hn
    rw [transmitted_cons ht, ho.filter, ih hn]
    rfl

end Transmitted

/-- The frame before its checksum is filled in. -/
def zeroedFrame (packet : Mem) (shost dhost : Six) : Mem :=
  put16 (put8 (putSix (putSix packet 6 shost) 0 dhost) 22
    (ipTtl (putSix (putSix packet 6 shost) 0 dhost)-1)) 24 0

theorem forwardFrame_eq (packet : Mem) (shost dhost : Six) : forwardFrame packet shost dhost =
    put16 (zeroedFrame packet shost dhost) 24
      (cksum (shift (zeroedFrame packet shost dhost) 14) sizeofIpHdr) := rfl

/-- What `packet_to_other_dest` makes of a packet depends on the bytes of the packet only. -/
theorem forwardFrame_congr {m m' : Mem} {len : ℕ} (hl : 34 ≤ len) (h : ∀ i < len, m i = m' i)
    (shost dhost : Six) {i : ℕ} (hi : i < len) :
    forwardFrame m shost dhost i = forwardFrame m' shost dhost i := by
  have hz : ∀ j < len, zeroedFrame m shost dhost j = zeroedFrame m' shost dhost j := by
    intro j hj
    simp only [zeroedFrame, put16, put8, putSix, ipTtl, h j hj, h 22 (by omega)]
  -- the header is inside the packet, so the checksums agree
  have hc : cksum (shift (zeroedFrame m shost dhost) 14) sizeofIpHdr =
      cksum (shift (zeroedFrame m' shost dhost) 14) sizeofIpHdr := by
    apply cksum_congr
    intro j hj
    have hj' : j < 20 := hj
    exact hz (14+j) (by omega)
  rw [forwardFrame_eq, forwardFrame_eq, hc, put16, put16, hz i hi]

/-- A faithful copy is relayed as the frame itself would be. -/
theorem CopyOf.relayed {a : Arrival} {p : SrPacket} (hp : CopyOf a p)
    (ha : Accepted a.mem a.frame.length) (i : SrIf) (mac : Six) :
    (wire (forwardFrame p.buf.mem i.addr mac) p.len, i.name) = relayed i mac a := by
  obtain ⟨hl,hb⟩ := hp
  have h34 := ((accepted_iff _ _).mp ha).1
  have hwire : wire (forwardFrame p.buf.mem i.addr mac) a.frame.length =
      wire (forwardFrame a.mem i.addr mac) a.frame.length :=
    List.map_congr_left fun j hj => forwardFrame_congr h34 hb _ _ (List.mem_range.mp hj)
  rw [hl, hwire]
  rfl

theorem CopyOf.transit {a : Arrival} {p : SrPacket} {ip : UInt32} {ifs : List SrIf}
    (hp : CopyOf a p) (ha : InTransit ifs ip a) :
    ipDst p.buf.mem = ip ∧ 1 < ipTtl p.buf.mem := by
  have h34 := ((accepted_iff _ _).mp ha.accepted).1
  have hdst : ipDst p.buf.mem = ipDst a.mem := get32_congr fun i _ hi => hp.2 i (by omega)
  have httl : ipTtl p.buf.mem = ipTtl a.mem := hp.2 22 (by omega)
  rw [hdst, httl]
  exact ⟨ha.dst, ha.alive⟩

section Relays

variable {ip : UInt32} {mac : Six} {rt : SrRt}

theorem Routed.entries {packet : Buf} {interface : CName} {len : ℕ}
    (h : Routed env s packet interface len s') : s'.cache.entries = s.cache.entries := by
  cases h with
  | expired | noRoute | sent => rfl
  | queued _ _ _ he hh => exact hh.frame.2.2.1.trans he.entries

/-- With the address mapped a packet is relayed at once. -/
theorem Routed.relays {packet : Buf} {interface : CName} {len : ℕ}
    (h : Routed env s packet interface len s') (hd : ipDst packet.mem = ip)
    (ht : 1 < ipTtl packet.mem) (hrt : longestPrefixSum s.routingTable ip = some rt)
    (hm : mappedMac s.cache.entries ip = some mac) :
    ∃ i, srGetInterface s.ifList rt.interface = some i ∧ ∃ c ∈ s'.log.sends,
      sentFor packet.origin c = true ∧
      (c.frame, c.iface) = (wire (forwardFrame packet.mem i.addr mac) len, i.name) := by
  obtain ⟨e,he,hmac⟩ := Option.map_eq_some_iff.mp hm
  subst hd
  cases h with
  | expired hn => exact absurd ht (UInt8.not_lt.mpr hn)
  | noRoute _ hn =>
    rw [hrt] at hn
    contradiction
  | queued _ _ hn =>
    rw [show srArpcacheLookup s.cache.entries (ipDst packet.mem) = some e from he] at hn
    contradiction
  | @sent rt' e' i _ hrt' he' hi =>
    obtain rfl := Option.some.inj (hrt.symm.trans hrt')
    obtain rfl := Option.some.inj (he.symm.trans he')
    refine ⟨i, hi, _, List.mem_cons_self, ?_, ?_⟩
    · simp [sentFor]
    · rw [← hmac]
      rfl

/-- The flush relays every packet of the list for which the address is mapped. -/
theorem Flushed.relays {interface : CName} {packets : List SrPacket}
    (h : Flushed env interface packets s s') {p : SrPacket} (hp : p ∈ packets)
    (hd : ipDst p.buf.mem = ip) (ht : 1 < ipTtl p.buf.mem)
    (hrt : longestPrefixSum s.routingTable ip = some rt)
    (hm : mappedMac s.cache.entries ip = some mac) :
    ∃ i, srGetInterface s.ifList rt.interface = some i ∧ ∃ c ∈ s'.log.sends,
      sentFor p.buf.origin c = true ∧
      (c.frame, c.iface) = (wire (forwardFrame p.buf.mem i.addr mac) p.len, i.name) := by
  -- by induction on the flush; the ones before `p` change neither tables nor entries
  induction h with
  | nil => contradiction
  | @cons q rest s s₁ s₂ hq hrest ih =>
    rcases List.mem_cons.mp hp with rfl | hp
    · obtain ⟨i,hi,c,hc,hsent⟩ := hq.relays hd ht hrt hm
      exact ⟨i, hi, c, Moves.sends_mem hrest.moves hc, hsent⟩
    · obtain ⟨hif,htab⟩ := Moves.tables ((hq.moves : Moves env (s, [q]) (s₁, [])))
      rw [← hif]
      apply ih hp
      · rw [htab]
        exact hrt
      · rw [hq.entries]
        exact hm

end Relays

section Arrivals

variable {C : SrInstance → Prop} {s₀ : SrInstance} {l : List (Arrival × ℕ)} {ip : UInt32}
  {mac : Six} {rt : SrRt}

theorem Arrivals.moves (h : Arrivals env C s₀ l s) : Moves env (s₀, []) (s, []) := by
  induction h with
  | start => exact Relation.ReflTransGen.refl
  | other _ hst ih => exact ih.trans hst.moves
  | arrive _ _ hst ih => exact ih.trans hst.moves

theorem Moves.tagged {c c' : SrInstance × List SrPacket} (h : Moves env c c') (ht : Tagged c) :
    Tagged c' :=
  invariant_of_run (fun _ _ hm => hm.tagged) h ht

theorem InTransit.not_local {a : Arrival} (ha : InTransit s₀.ifList ip a)
    (h : s.ifList = s₀.ifList) : ¬Local s a.mem := by
  rw [Local, h, ha.foreign]
  exact Bool.false_ne_true

/-- Every frame is kept track of from its arrival on, under a number of its own. -/
theorem Arrivals.tracked (h : Arrivals env C s₀ l s) (ht : Tagged (s₀, []))
    (hl : ∀ x ∈ l, InTransit s₀.ifList ip x.1) :
    (∀ x ∈ l, Tracked x.1 x.2 (s, [])) ∧ (l.map Prod.snd).Nodup := by
  induction h with
  | start => exact ⟨by simp, List.nodup_nil⟩
  | other _ hst ih =>
    obtain ⟨hall,hn⟩ := ih hl
    exact ⟨fun x hx => Moves.tracked hst.moves (hall x hx), hn⟩
  | @arrive l s s' a hl' _ hst ih =>
    obtain ⟨hall,hn⟩ := ih fun x hx => hl x (List.mem_append_left _ hx)
    have ha : InTransit s₀.ifList ip a := hl _ (List.mem_append_right l List.mem_cons_self)
    have hloc : ¬Local s a.mem := ha.not_local (Moves.tables hl'.moves).1
    have htag : Tagged (s, []) := Moves.tagged hl'.moves ht
    constructor
    · intro x hx
      rcases List.mem_append.mp hx with hx | hx
      · exact Moves.tracked hst.moves (hall x hx)
      · obtain rfl := List.mem_singleton.mp hx
        exact Moves.tracked (Step.transit_moves ha.accepted hloc hst)
          (tracked_received env htag ha.accepted hloc)
    · rw [List.map_append, List.nodup_append]
      refine ⟨hn, List.nodup_singleton _, ?_⟩
      rintro t hm u hu rfl
      obtain ⟨x,hx,rfl⟩ := List.mem_map.mp hm
      -- the numbers given out so far are below the next one
      have hlt : x.2 < s.log.arrivals := (hall x hx).traced.arrived
      exact hlt.ne (List.mem_singleton.mp hu)

theorem Tracked.once {a : Arrival} (h : Tracked a t (s, [])) :
    s.log.sends.countP (sentFor t) ≤ 1 := by
  have hone : s.log.sends.countP (sentFor t)+waitingCopies s t+0 ≤ 1 := h.one
  omega

/-- A frame that comes in while its destination is cached is relayed at once. -/
theorem Arrivals.relayed (h : DeliveredAtOnce env s₀ ip mac l s)
    (hl : ∀ x ∈ l, InTransit s₀.ifList ip x.1)
    (hrt : longestPrefixSum s₀.routingTable ip = some rt) :
    ∀ x ∈ l, ∃ i, srGetInterface s₀.ifList rt.interface = some i ∧ ∃ c ∈ s.log.sends,
      sentFor x.2 c = true ∧ (c.frame, c.iface) = Router.relayed i mac x.1 := by
  -- what is on record stays there
  have hlater {s s' : SrInstance} {x : Arrival × ℕ} (hm : Moves env (s, []) (s', []))
      (hx : ∃ i, srGetInterface s₀.ifList rt.interface = some i ∧ ∃ c ∈ s.log.sends,
        sentFor x.2 c = true ∧ (c.frame, c.iface) = Router.relayed i mac x.1) :
      ∃ i, srGetInterface s₀.ifList rt.interface = some i ∧ ∃ c ∈ s'.log.sends,
        sentFor x.2 c = true ∧ (c.frame, c.iface) = Router.relayed i mac x.1 := by
    obtain ⟨i,hi,c,hc,hsent⟩ := hx
    exact ⟨i, hi, c, Moves.sends_mem hm hc, hsent⟩
  induction h with
  | start => simp
  | other _ hst ih =>
    intro x hx
    exact hlater hst.moves (ih hl x hx)
  | @arrive l s s' a hl' hC hst ih =>
    intro x hx
    rcases List.mem_append.mp hx with hx | hx
    · exact hlater hst.moves (ih (fun y hy => hl y (List.mem_append_left _ hy)) x hx)
    · obtain rfl := List.mem_singleton.mp hx
      have ha : InTransit s₀.ifList ip a := hl _ (List.mem_append_right l List.mem_cons_self)
      obtain ⟨hif,htab⟩ := Moves.tables hl'.moves
      have hr := Step.transit_routed ha.accepted (ha.not_local hif) hst
      rw [← hif]
      refine hr.relays ha.dst ha.alive ?_ hC
      exact (congrArg (fun t => longestPrefixSum t ip) htab).trans hrt

/-- The reply that flushes the queue relays what waited. -/
theorem DeliveredLate.relayed (h : DeliveredLate env s₀ ip mac l s) (ht : Tagged (s₀, []))
    (hl : ∀ x ∈ l, InTransit s₀.ifList ip x.1)
    (hrt : longestPrefixSum s₀.routingTable ip = some rt) :
    ∀ x ∈ l, ∃ i, srGetInterface s₀.ifList rt.interface = some i ∧
      SentOnce s x.2 (Router.relayed i mac x.1) := by
  obtain ⟨harr,hwait,hi,hf,hmap,hst⟩ := h
  rename_i sn reply i
  obtain ⟨hif,htab⟩ := Moves.tables harr.moves
  have htrack := (harr.tracked ht hl).1
  intro x hx
  obtain ⟨p,hp,ho⟩ := hwait x hx
  -- the reply is an announcement, and somebody waits for it
  have hflush : ∃ r s₁, sn.cache.requests.pending.find? (fun r => r.ip == ip) = some r ∧
      Flushed env reply.interface r.packets (insertedState env mac ip sn.addArrival) s₁ ∧
      s = s₁.setRequests (s₁.cache.requests.destroy r) := by
    rcases hst.receive_cases with ⟨-,hr⟩ | ⟨hn,-⟩ | ⟨hn,-⟩
    · have hne : ¬ntohs (arOp reply.mem) = 1 := by
        rw [hf.op]
        decide
      have hsha : arSha (received sn reply.frame reply.slack reply.interface).buf.mem = mac := hf.sha
      have hsip : arSip (received sn reply.frame reply.slack reply.interface).buf.mem = ip := hf.sip
      cases hr with
      | @ignored j hj hn =>
        obtain rfl := Option.some.inj (hi.symm.trans hj)
        rcases hn with hn | ⟨-,hn⟩
        · exact absurd hf.tip hn
        · exact absurd hf.op hn
      | replied _ _ hn => exact absurd hn hne
      | unasked _ _ _ hn =>
        rw [hsip] at hn
        rw [waitingFor, show sn.cache.requests.pending.find? (fun r => r.ip == ip) = none from hn]
          at hp
        contradiction
      | @answered j r s₁ _ _ _ hr hfl =>
        rw [hsip] at hr
        rw [hsha, hsip] at hfl
        exact ⟨r, s₁, hr, hfl, rfl⟩
    · exact absurd (hn.symm.trans hf.type) (by decide)
    · exact absurd hf.type hn
  obtain ⟨r,s₁,hr,hfl,rfl⟩ := hflush
  rw [waitingFor, hr] at hp
  have hx' := htrack x hx
  have hcopy : CopyOf x.1 p := hx'.traced.waiting r (List.mem_of_find?_eq_some hr) p hp ho
  obtain ⟨hd,httl⟩ := hcopy.transit (hl x hx)
  obtain ⟨hif',htab',-,-,-⟩ := insertedState_frame env mac ip sn.addArrival
  have hrt' : longestPrefixSum (insertedState env mac ip sn.addArrival).routingTable ip = some rt := by
    rw [htab', show sn.addArrival.routingTable = s₀.routingTable from htab]
    exact hrt
  obtain ⟨i',hi',c,hc,hsent,hout⟩ := hfl.relays hp hd httl hrt' hmap
  rw [hif', show sn.addArrival.ifList = s₀.ifList from hif] at hi'
  rw [ho] at hsent
  refine ⟨i', hi', ⟨c, hc, hsent, hout.trans (hcopy.relayed (hl x hx).accepted i' mac)⟩, ?_⟩
  exact (Moves.tracked hst.moves hx').once

/-- With the destination cached and the interface of the route there, frames can come in one
after the other. -/
theorem exists_deliveredAtOnce (env : Env) {i : SrIf}
    (hi : srGetInterface s.ifList rt.interface = some i)
    (hrt : longestPrefixSum s.routingTable ip = some rt)
    (hm : mappedMac s.cache.entries ip = some mac) (arrivals : List Arrival)
    (ha : ∀ a ∈ arrivals, InTransit s.ifList ip a) :
    ∃ l s', DeliveredAtOnce env s ip mac l s' ∧ l.map Prod.fst = arrivals ∧ s'.cache = s.cache := by
  induction arrivals using List.reverseRecOn with
  | nil => exact ⟨[], s, Arrivals.start, rfl, rfl⟩
  | append_singleton as a ih =>
    obtain ⟨l,s₁,hl,hfst,hcache⟩ := ih fun b hb => ha b (List.mem_append_left _ hb)
    have ha' : InTransit s.ifList ip a := ha a (List.mem_append_right as List.mem_cons_self)
    obtain ⟨hif,htab⟩ : s₁.ifList = s.ifList ∧ s₁.routingTable = s.routingTable :=
      Moves.tables hl.moves
    have hm' : mappedMac s₁.cache.entries ip = some mac := by
      rw [hcache]
      exact hm
    obtain ⟨e,he,-⟩ := Option.map_eq_some_iff.mp hm'
    have hrt' : longestPrefixSum s₁.addArrival.routingTable ip = some rt :=
      (congrArg (fun t => longestPrefixSum t ip) htab).trans hrt
    have hi' : srGetInterface s₁.addArrival.ifList rt.interface = some i :=
      (congrArg (fun t => srGetInterface t rt.interface) hif).trans hi
    let p := received s₁ a.frame a.slack a.interface
    let c := forwardCall env s₁.addArrival p.buf p.len i e
    -- the mapping is still there, as forwarding leaves the cache alone
    have hp : packetToOtherDest env 0 p.buf a.interface a.frame.length s₁.addArrival =
        .ok (some c.ret) (s₁.addArrival.addSend c) :=
      packetToOtherDest_of_mapped (p := p) ha'.alive ha'.dst hrt' he hi' 0 a.interface
    have hst : Step env a.event s₁ (s₁.addArrival.addSend c) := by
      refine ⟨0, ?_⟩
      rw [Arrival.event, receive_of_transit ha'.accepted (ha'.not_local hif), bind_apply, hp]
      rfl
    refine ⟨_, _, hl.arrive hm' hst, ?_, ?_⟩
    · rw [List.map_append, hfst]
      rfl
    · exact hcache

theorem relayed_timeToLive {a : Arrival} (ha : InTransit s.ifList ip a) (i : SrIf) (mac : Six) :
    timeToLive (Router.relayed i mac a).1+1 = timeToLive a.frame := by
  have h34 := ((accepted_iff _ _).mp ha.accepted).1
  have hold : (a.mem 22).toNat = timeToLive a.frame := by
    have hb : a.mem 22 = a.frame[22] := load_of_lt a.slack (by omega)
    rw [timeToLive, List.getD_eq_getElem _ _ (by omega), hb]
  have hnew : timeToLive (Router.relayed i mac a).1 = (a.mem 22-1).toNat := by
    have hb := load_wire (m := forwardFrame a.mem i.addr mac) (fun _ => 0)
      (show 22 < a.frame.length by omega)
    calc
      _ = (forwardFrame a.mem i.addr mac 22).toNat := congrArg UInt8.toNat hb
      _ = (a.mem 22-1).toNat := congrArg UInt8.toNat (forwardFrame_ttl a.mem i.addr mac)
  -- the time to live is above 1, so the decrement does not wrap round
  have hsub : (a.mem 22-1).toNat = (a.mem 22).toNat-1 :=
    UInt8.toNat_sub_of_le (a.mem 22) 1 (UInt8.le_of_lt ha.alive)
  have h1 : 1 < (a.mem 22).toNat := ha.alive
  omega

/-- The frames with these numbers have gone out by interface `i` to `mac`, each once. -/
theorem transmitted_relayed (h : Arrivals env C s₀ l s) (ht : Tagged (s₀, []))
    (hl : ∀ x ∈ l, InTransit s₀.ifList ip x.1) {i : SrIf}
    (hsent : ∀ x ∈ l, SentOnce s' x.2 (Router.relayed i mac x.1)) :
    transmitted (l.map Prod.snd) s' = ((l.map Prod.fst).map (Router.relayed i mac)) := by
  apply transmitted_eq (h.tracked ht hl).2
  rw [List.map_map, List.forall₂_map_left_iff, List.forall₂_map_right_iff, List.forall₂_same]
  exact hsent

/-- Queued delivery agrees with immediate delivery. Frames to one destination that wait for its
address and are flushed go out as they would have if the address had been cached before they
came in: the same bytes by the same interfaces, the time to live less by one. -/
theorem queued_delivery_eq_immediate {f : SrInstance} (ht : Tagged (s, []))
    (hl : ∀ x ∈ l, InTransit s.ifList ip x.1)
    (hrt : longestPrefixSum s.routingTable ip = some rt)
    (hlate : DeliveredLate env s ip mac l s') (htf : Tagged (f, [])) (hif : f.ifList = s.ifList)
    (htab : f.routingTable = s.routingTable) (hm : mappedMac f.cache.entries ip = some mac) :
    (∃ l' f', DeliveredAtOnce env' f ip mac l' f' ∧ l'.map Prod.fst = l.map Prod.fst) ∧
    ∀ l' f', DeliveredAtOnce env' f ip mac l' f' → l'.map Prod.fst = l.map Prod.fst →
      transmitted (l.map Prod.snd) s' = transmitted (l'.map Prod.snd) f' ∧
      ∃ out : List (List UInt8 × CName), transmitted (l.map Prod.snd) s' = out ∧
        List.Forall₂ (fun x o => timeToLive o.1+1 = timeToLive x.1.frame) l out := by
  have hlate' := hlate.relayed ht hl hrt
  have hl₁ : ∀ a ∈ l.map Prod.fst, InTransit f.ifList ip a := by
    intro a ha
    obtain ⟨x,hx,rfl⟩ := List.mem_map.mp ha
    rw [hif]
    exact hl x hx
  have hrt₁ : longestPrefixSum f.routingTable ip = some rt := by
    rw [htab]
    exact hrt
  cases hi : srGetInterface s.ifList rt.interface with
  | none =>
    -- without the interface of the route nothing can have been flushed
    have hnil : l = [] := by
      rw [List.eq_nil_iff_forall_not_mem]
      intro x hx
      obtain ⟨i,hi',-⟩ := hlate' x hx
      rw [hi] at hi'
      contradiction
    subst hnil
    refine ⟨⟨[], f, Arrivals.start, rfl⟩, ?_⟩
    intro l' f' _ hfst
    obtain rfl := List.map_eq_nil_iff.mp hfst
    exact ⟨by simp [transmitted], [], by simp [transmitted], List.Forall₂.nil⟩
  | some i =>
    have hi₁ : srGetInterface f.ifList rt.interface = some i := by
      rw [hif]
      exact hi
    have hslow : transmitted (l.map Prod.snd) s' = (l.map Prod.fst).map (Router.relayed i mac) := by
      obtain ⟨harr,-,-,-,-,-⟩ := hlate
      apply transmitted_relayed harr ht hl
      intro x hx
      obtain ⟨i',hi',hsent⟩ := hlate' x hx
      obtain rfl := Option.some.inj (hi.symm.trans hi')
      exact hsent
    constructor
    · obtain ⟨l',f',h,hfst,-⟩ := exists_deliveredAtOnce env' hi₁ hrt₁ hm _ hl₁
      exact ⟨l', f', h, hfst⟩
    · intro l' f' hfast hfst
      have hl' : ∀ x ∈ l', InTransit f.ifList ip x.1 := by
        intro x hx
        apply hl₁
        rw [← hfst]
        exact List.mem_map_of_mem hx
      have hquick : transmitted (l'.map Prod.snd) f' =
          (l'.map Prod.fst).map (Router.relayed i mac) := by
        apply transmitted_relayed hfast htf hl'
        intro x hx
        obtain ⟨i',hi',hsent⟩ := hfast.relayed hl' hrt₁ x hx
        obtain rfl := Option.some.inj (hi₁.symm.trans hi')
        exact ⟨hsent, ((hfast.tracked htf hl').1 x hx).once⟩
      refine ⟨by rw [hslow, hquick, hfst], _, hslow, ?_⟩
      rw [List.map_map, List.forall₂_map_right_iff, List.forall₂_same]
      intro x hx
      exact relayed_timeToLive (hl x hx) i mac

end Arrivals

def transitArrival : Arrival := ⟨transitFrame, fun _ => 0, eth0⟩

/-- A second packet for the same host, one hop further on its way. -/
def laterArrival : Arrival where
  frame := [10, 10, 10, 10, 10, 10, 2, 0, 0, 0, 0, 2, 8, 0, 0x45, 0, 0, 20, 0, 1, 0, 0, 63, 17,
    0x66, 0xd5, 10, 0, 0, 2, 10, 0, 1, 2]
  slack := fun _ => 0
  interface := eth0

def replyArrival : Arrival := ⟨arpReplyToEth1, fun _ => 0, eth1⟩

/-- The MAC address of the second host. -/
def hostMac : Six := fun i => [2, 0, 0, 0, 1, 2].getD i.val 0

/-- The small router, with the second host in its cache. -/
def cachedRouter : SrInstance :=
  smallRouter.setEntries (insertEntry smallRouter.cache.entries hostMac (address 10 0 1 2) 100)

/-- The small router with both packets waiting, and once the answer has come. -/
def crowdedRouter : SrInstance := after obligingHost 1 laterArrival.event queuedRouter

def flushedRouter : SrInstance := after obligingHost 1 replyArrival.event crowdedRouter

theorem smallRouter_deliveredLate : DeliveredLate obligingHost smallRouter (address 10 0 1 2) hostMac
    [(transitArrival, 0), (laterArrival, 1)] flushedRouter := by
  have hmiss : (srArpcacheLookup smallRouter.cache.entries (address 10 0 1 2)).isNone = true := by
    decide +kernel
  have hmiss' : (srArpcacheLookup queuedRouter.cache.entries (address 10 0 1 2)).isNone = true := by
    decide +kernel
  have hrecv : Step obligingHost transitArrival.event smallRouter queuedRouter :=
    step_after (by decide +kernel)
  have hrecv' : Step obligingHost laterArrival.event queuedRouter crowdedRouter :=
    step_after (by decide +kernel)
  refine @DeliveredLate.flushed obligingHost smallRouter (address 10 0 1 2) hostMac _ crowdedRouter
    flushedRouter replyArrival ⟨eth1, fun _ => 11, address 10 0 1 1⟩
    ((Arrivals.start.arrive (Option.isNone_iff_eq_none.mp hmiss) hrecv).arrive
      (Option.isNone_iff_eq_none.mp hmiss') hrecv') ?_ rfl
    ⟨by decide +kernel, by decide +kernel, by decide +kernel, by decide +kernel, by decide +kernel⟩
    (by decide +kernel) (step_after (by decide +kernel))
  decide +kernel

theorem queued_delivery_eq_immediate_smallRouter : ∃ l' f',
    DeliveredAtOnce obligingHost cachedRouter (address 10 0 1 2) hostMac l' f' ∧
      transmitted [0, 1] flushedRouter = transmitted (l'.map Prod.snd) f' := by
  have hl : ∀ x ∈ [(transitArrival, 0), (laterArrival, 1)],
      InTransit smallRouter.ifList (address 10 0 1 2) x.1 := by
    intro x hx
    rcases List.mem_cons.mp hx with rfl | hx
    · exact ⟨by decide +kernel, by rfl, by decide +kernel, by decide +kernel⟩
    · obtain rfl := List.mem_singleton.mp hx
      exact ⟨by decide +kernel, by rfl, by decide +kernel, by decide +kernel⟩
  have htag : Tagged (cachedRouter, []) := by
    obtain ⟨hs,hw,hh⟩ := smallRouter_initial.tagged
    exact ⟨hs,hw,hh⟩
  obtain ⟨⟨l',f',h,hfst⟩,hall⟩ := @queued_delivery_eq_immediate obligingHost obligingHost smallRouter
    flushedRouter [(transitArrival, 0), (laterArrival, 1)] (address 10 0 1 2) hostMac
    ⟨address 10 0 1 2, address 10 0 1 2, 0, eth1⟩ cachedRouter smallRouter_initial.tagged hl rfl
    smallRouter_deliveredLate htag rfl rfl (by decide +kernel)
  exact ⟨l', f', h, (hall l' f' h hfst).1⟩

end InternetCourse.Router
