import InternetCourse.RouterEcho
import InternetCourse.RouterForward
import InternetCourse.RouterHistory
import InternetCourse.RouterReplies
import InternetCourse.RouterTransit

/-! Two routers on a link. A packet comes in at one of them, and every frame that either of them
then sends over the link on account of it is followed, while both do whatever else they do. -/
namespace InternetCourse.Router

open ByteMem StateTriple

/-- One end of a link: the host of the router there, and the name by which the router knows
its interface to the link. -/
structure LinkEnd extends Host where
  name : CName

/-- What a router sends by `interface` goes over the link. -/
def LinkEnd.leads (x : LinkEnd) (ifList : List SrIf) (interface : CName) : Bool :=
  (srGetInterface ifList interface).map SrIf.name == (srGetInterface ifList x.name).map SrIf.name

/-- The message is about one of the frames with these numbers, and goes over the link. -/
def Crosses (x : LinkEnd) (ifList : List SrIf) (seen : List ℕ) (c : SendCall) : Prop :=
  c.emitter ≠ .arpPacket ∧ c.ret = 0 ∧ x.leads ifList c.iface = true ∧
    ∃ n ∈ seen, c.origin = some n

instance (x : LinkEnd) (ifList : List SrIf) (seen : List ℕ) (c : SendCall) :
    Decidable (Crosses x ifList seen c) :=
  inferInstanceAs (Decidable (_ ∧ _ ∧ _ ∧ ∃ n ∈ seen, _))

/-- The router at one end: the numbers under which frames of the exchange have come in, and those
frames that are still on their way to it. -/
structure Side where
  router : SrInstance
  seen : List ℕ
  inbox : List (List UInt8)

/-- What crosses the link during an event. -/
def Side.across (x : LinkEnd) (a : Side) (ev : Event) (fuel : ℕ) : List (List UInt8) :=
  (((⟨a.router,ev,fuel⟩ : Happening).sends x.env).filter fun c =>
    Crosses x a.router.ifList a.seen c).map SendCall.frame

/-- The one router handles an event, which need not be over. -/
def acts (x : LinkEnd) (a b : Side) (ev : Event) (fuel : ℕ) : Side × Side :=
  (⟨after x.env fuel ev a.router, a.seen, a.inbox⟩,
    ⟨b.router, b.seen, b.inbox ++ a.across x ev fuel⟩)

/-- A turn of the first router: any event at all, or a frame of the exchange comes in, and not
always the oldest. -/
inductive Turn (x : LinkEnd) : Side × Side → Side × Side → Prop where
  | event {a b : Side} (ev : Event) (fuel : ℕ) : Turn x (a,b) (acts x a b ev fuel)
  | arrival {a b : Side} {pre post : List (List UInt8)} {frame : List UInt8} (slack : Mem)
      (fuel : ℕ) : a.inbox = pre ++ frame :: post →
      Turn x (a,b) (acts x ⟨a.router, a.router.log.arrivals :: a.seen, pre ++ post⟩ b
        (.receive frame slack x.name) fuel)

/-- Any number of turns of the two routers, in any order. -/
def Exchange (x y : LinkEnd) : Side × Side → Side × Side → Prop :=
  Relation.ReflTransGen fun p q => Turn x p q ∨ Turn y p.swap q.swap

/-- A packet for `d` with `ttl` hops left, at the router `s`, is got rid of without a message about
it over the link: the router passes it on, and where the route leads over the link the other router
does the same. Nor is it reported over the link if it is given up. -/
inductive Departs : LinkEnd → LinkEnd → SrInstance → SrInstance → UInt32 → ℕ → Prop where
  | passedOn {x y : LinkEnd} {s t : SrInstance} {d : UInt32} {ttl : ℕ} {rt : SrRt} :
      (¬∃ w ∈ s.ifList, w.ip = d) → 1 < ttl → longestPrefixSum s.routingTable d = some rt →
      (∀ rt', routeAt x.env s.routingTable d = some rt' →
        x.leads s.ifList rt'.interface = false) →
      (x.leads s.ifList rt.interface = true → Departs y x t s d (ttl-1)) → Departs x y s t d ttl

def tally (seen : List ℕ) (packets : List SrPacket) : ℕ :=
  (packets.map fun p => if p.buf.origin ∈ seen then (ipTtl p.buf.mem).toNat else 0).sum

/-- What the packets with a router have left. -/
def timeLeft (seen : List ℕ) (c : SrInstance × List SrPacket) : ℕ :=
  waitingSum (tally seen) c.1+tally seen c.2

/-- What the messages that cross the link take with them, and one more for each. -/
def toll (x : LinkEnd) (ifList : List SrIf) (seen : List ℕ) (calls : List SendCall) : ℕ :=
  ((calls.filter fun c => Crosses x ifList seen c).map fun c => (ipTtl c.buf).toNat+1).sum

/-- The packets of these frames that are with the router, which has the tables of `t`. -/
structure Held (t : SrInstance) (P : SrPacket → Prop) (seen : List ℕ)
    (c : SrInstance × List SrPacket) : Prop where
  tables : c.1.ifList = t.ifList ∧ c.1.routingTable = t.routingTable
  arrived : ∀ n ∈ seen, n < c.1.log.arrivals
  waiting : ∀ r ∈ c.1.cache.requests.pending, ∀ p ∈ r.packets, p.buf.origin ∈ seen →
    P p ∧ r.ip = ipDst p.buf.mem
  hand : ∀ p ∈ c.2, p.buf.origin ∈ seen → P p

/-- Packets of `P` are passed on, and not reported over the link when they are given up. -/
structure Leaving (x : LinkEnd) (t : SrInstance) (P : SrPacket → Prop) : Prop where
  length : ∀ p, P p → 34 ≤ p.len
  copy : ∀ fresh p interface, P p → P (queuedCopy fresh p.buf p.len interface)
  alive : ∀ p, P p → 1 < ipTtl p.buf.mem
  route : ∀ p, P p → ∃ rt, longestPrefixSum t.routingTable (ipDst p.buf.mem) = some rt
  givenUp : ∀ p rt, P p → routeAt x.env t.routingTable (ipDst p.buf.mem) = some rt →
    x.leads t.ifList rt.interface = false

/-- The message is a packet of `P`, passed on by a route over the link. -/
def PassesOver (x : LinkEnd) (t : SrInstance) (P : SrPacket → Prop) (c : SendCall) : Prop :=
  ∃ p rt, P p ∧ longestPrefixSum t.routingTable (ipDst p.buf.mem) = some rt ∧
    x.leads t.ifList rt.interface = true ∧ c.len = p.len ∧ ipDst c.buf = ipDst p.buf.mem ∧
    ipTtl c.buf = ipTtl p.buf.mem-1

/-- On the way from `c` to `c'` nothing else about these frames goes over the link, and it is paid
for. -/
def Paid (x : LinkEnd) (t : SrInstance) (P : SrPacket → Prop) (seen : List ℕ)
    (c c' : SrInstance × List SrPacket) : Prop :=
  ∃ calls, c'.1.log.sends = calls ++ c.1.log.sends ∧
    toll x t.ifList seen calls+timeLeft seen c' ≤ timeLeft seen c ∧
    ∀ y ∈ calls, Crosses x t.ifList seen y → PassesOver x t P y

section Paid

variable {x : LinkEnd} {s s' t : SrInstance} {P : SrPacket → Prop} {seen : List ℕ}
  {c c' c₁ : SrInstance × List SrPacket}

theorem tally_append (l l' : List SrPacket) :
    tally seen (l ++ l') = tally seen l+tally seen l' := by
  rw [tally, List.map_append, List.sum_append]
  rfl

theorem tally_cons (p : SrPacket) (l : List SrPacket) : tally seen (p :: l) =
    (if p.buf.origin ∈ seen then (ipTtl p.buf.mem).toNat else 0)+tally seen l := by
  rw [tally, List.map_cons, List.sum_cons]
  rfl

theorem tally_of_unseen {l : List SrPacket} (h : ∀ p ∈ l, p.buf.origin ∉ seen) :
    tally seen l = 0 := by
  apply List.sum_eq_zero
  intro n hn
  obtain ⟨p,hp,rfl⟩ := List.mem_map.mp hn
  exact if_neg (h p hp)

theorem toll_append (ifList : List SrIf) (l l' : List SendCall) :
    toll x ifList seen (l ++ l') = toll x ifList seen l+toll x ifList seen l' := by
  rw [toll, List.filter_append, List.map_append, List.sum_append]
  rfl

theorem toll_of_none {ifList : List SrIf} {l : List SendCall}
    (h : ∀ c ∈ l, ¬Crosses x ifList seen c) : toll x ifList seen l = 0 := by
  have hnil : (l.filter fun c => Crosses x ifList seen c) = [] := by
    rw [List.filter_eq_nil_iff]
    intro c hc hcross
    exact h c hc (of_decide_eq_true hcross)
  rw [toll, hnil]
  rfl

/-- Where nothing crosses the link, packets may be lost. -/
theorem Paid.of_none {calls : List SendCall} (hs : c'.1.log.sends = calls ++ c.1.log.sends)
    (hn : ∀ y ∈ calls, ¬Crosses x t.ifList seen y) (hle : timeLeft seen c' ≤ timeLeft seen c) :
    Paid x t P seen c c' := by
  refine ⟨calls, hs, ?_, ?_⟩
  · rw [toll_of_none hn, Nat.zero_add]
    exact hle
  · intro y hy hcross
    exact absurd hcross (hn y hy)

theorem Paid.quiet (hs : c'.1.log.sends = c.1.log.sends)
    (hle : timeLeft seen c' ≤ timeLeft seen c) : Paid x t P seen c c' :=
  @Paid.of_none x t P seen c c' [] hs (by simp) hle

theorem Paid.of_one {y : SendCall} (hs : c'.1.log.sends = y :: c.1.log.sends)
    (hn : ¬Crosses x t.ifList seen y) (hle : timeLeft seen c' ≤ timeLeft seen c) :
    Paid x t P seen c c' := by
  refine @Paid.of_none x t P seen c c' [y] hs ?_ hle
  intro y' hy'
  rwa [List.mem_singleton.mp hy']

theorem Paid.trans (h : Paid x t P seen c c₁) (h' : Paid x t P seen c₁ c') :
    Paid x t P seen c c' := by
  obtain ⟨calls,hs,hle,hall⟩ := h
  obtain ⟨calls',hs',hle',hall'⟩ := h'
  refine ⟨calls' ++ calls, ?_, ?_, ?_⟩
  · rw [hs', hs, List.append_assoc]
  · rw [toll_append]
    omega
  · intro y hy
    rcases List.mem_append.mp hy with hy | hy
    · exact hall' y hy
    · exact hall y hy

theorem not_crosses_of_origin {ifList : List SrIf} {y : SendCall} {n : ℕ}
    (ho : y.origin = some n) (hn : n ∉ seen) : ¬Crosses x ifList seen y := by
  rintro ⟨-,-,-,k,hk,ho'⟩
  rw [ho] at ho'
  exact hn (Option.some.inj ho' ▸ hk)

theorem Move.held (hl : Leaving x t P) (h : Move x.env c c') (hc : Held t P seen c) :
    Held t P seen c' where
  tables := ⟨h.tables.1.trans hc.tables.1, h.tables.2.trans hc.tables.2⟩
  arrived n hn := (hc.arrived n hn).trans_le h.arrivals
  waiting r hr p hp he := by
    rcases h.waits hr hp with ⟨r₀,hr₀,hip,hm⟩ | ⟨q,hq,-,hip,fresh,interface,rfl⟩
    · rw [← hip]
      exact hc.waiting r₀ hr₀ p hm he
    · have hP := hc.hand q hq he
      have hlen := hl.length q hP
      have hdst : ipDst (queuedCopy fresh q.buf q.len interface).buf.mem = ipDst q.buf.mem :=
        get32_congr fun i _ hi => queuedCopy_mem fresh q.buf q.len interface (by omega)
      rw [hdst]
      exact ⟨hl.copy fresh q interface hP, hip⟩
  hand p hp he := by
    rcases h.holds hp with hp | ⟨r,hr,hm⟩ | ⟨ho,-⟩
    · exact hc.hand p hp he
    · exact (hc.waiting r hr p hm he).1
    · rw [ho] at he
      exact absurd (hc.arrived _ he) (Nat.lt_irrefl _)

theorem leads_of_found {ifList : List SrIf} {interface : CName} {i : SrIf}
    (h : srGetInterface ifList interface = some i) :
    x.leads ifList i.name = x.leads ifList interface := by
  rw [LinkEnd.leads, LinkEnd.leads, srGetInterface_name h, h]

theorem unseen_of_arriving (hc : Held t P seen c) : c.1.log.arrivals ∉ seen :=
  fun h => absurd (hc.arrived _ h) (Nat.lt_irrefl _)

/-- A packet that is passed on takes one hop less with it. -/
theorem forwarded_paid {p : SrPacket} {hand : List SrPacket} {rt : SrRt} {i : SrIf}
    {e : SrArpentry} (hc : Held t P seen (s, p :: hand)) (httl : 1 < ipTtl p.buf.mem)
    (hrt : longestPrefixSum s.routingTable (ipDst p.buf.mem) = some rt)
    (hi : srGetInterface s.ifList rt.interface = some i) :
    Paid x t P seen (s, p :: hand) (s.addSend (forwardCall x.env s p.buf p.len i e), hand) := by
  let y := forwardCall x.env s p.buf p.len i e
  have hy : ipTtl y.buf = ipTtl p.buf.mem-1 := forwardFrame_ttl p.buf.mem i.addr e.mac
  have hwait : waitingSum (tally seen) (s.addSend y) = waitingSum (tally seen) s := rfl
  by_cases ho : p.buf.origin ∈ seen
  · refine ⟨[y], rfl, ?_, ?_⟩
    · -- one hop less, and one for the frame
      have hle : toll x t.ifList seen [y] ≤ (ipTtl p.buf.mem).toNat := by
        by_cases hcross : Crosses x t.ifList seen y
        · have hone : toll x t.ifList seen [y] = (ipTtl y.buf).toNat+1 := by
            rw [toll, List.filter_singleton, decide_eq_true hcross]
            rfl
          have hsub : (ipTtl p.buf.mem-1).toNat = (ipTtl p.buf.mem).toNat-1 :=
            UInt8.toNat_sub_of_le _ 1 (UInt8.le_of_lt httl)
          have hpos : 1 < (ipTtl p.buf.mem).toNat := UInt8.lt_iff_toNat_lt.mp httl
          rw [hone, hy, hsub]
          omega
        · rw [toll_of_none (by simpa using hcross)]
          exact Nat.zero_le _
      simp only [timeLeft, tally_cons, if_pos ho]
      change _+(waitingSum (tally seen) (s.addSend y)+_) ≤ _
      rw [hwait]
      omega
    · intro y' hy' hcross
      obtain rfl := List.mem_singleton.mp hy'
      have hleads : x.leads s.ifList rt.interface = true := by
        rw [← leads_of_found hi, hc.tables.1]
        exact hcross.2.2.1
      refine ⟨p, rt, hc.hand p List.mem_cons_self ho, ?_, ?_, rfl, ?_, hy⟩
      · rw [← hrt, hc.tables.2]
      · rw [← hc.tables.1]
        exact hleads
      · exact forwardFrame_ipDst p.buf.mem i.addr e.mac
  · apply Paid.of_one rfl (not_crosses_of_origin rfl ho)
    simp only [timeLeft, tally_cons, if_neg ho, Nat.zero_add]
    exact le_rfl

/-- What a move sends over the link about these frames is paid for. -/
theorem Move.paid (hl : Leaving x t P) (h : Move x.env c c') (hc : Held t P seen c) :
    Paid x t P seen c c' := by
  have hnew := unseen_of_arriving hc
  cases h with
  | arrived | allocated | accessed | expired => exact Paid.quiet rfl le_rfl
  | @accepted s frame slack interface =>
    -- a frame that comes in now is none of the exchange
    have hzero : tally seen [received s frame slack interface] = 0 := by
      apply tally_of_unseen
      intro p hp
      obtain rfl := List.mem_singleton.mp hp
      exact hnew
    refine Paid.quiet rfl ?_
    simp only [timeLeft, hzero]
    exact Nat.add_le_add_left (Nat.zero_le _) _
  | replied he => exact Paid.of_one rfl (fun h => h.1 he) le_rfl
  | @delivered s frame slack interface y _ hy =>
    have ho : y.origin = some s.log.arrivals := by
      rcases hy with ⟨-,ho⟩ | ⟨-,ho⟩
      · exact ho
      · exact ho.origin
    exact Paid.of_one rfl (not_crosses_of_origin ho hnew) le_rfl
  | @bounced s p hand y hcause _ hab =>
    -- no error is sent about one of these frames
    have ho : p.buf.origin ∉ seen := by
      intro ho
      have hP := hc.hand p List.mem_cons_self ho
      obtain ⟨rt,hrt⟩ := hl.route p hP
      rcases hcause with httl | hno
      · exact absurd (hl.alive p hP) (UInt8.not_lt.mpr httl)
      · rw [hc.tables.2, hrt] at hno
        contradiction
    apply Paid.of_one rfl (not_crosses_of_origin hab.origin ho)
    simp only [timeLeft, tally_cons, if_neg ho, Nat.zero_add]
    exact le_rfl
  | forwarded httl hrt _ hi => exact forwarded_paid hc httl hrt hi
  | @queued s s' p hand rt r fresh interface _ _ he =>
    have hcopy : tally seen (if p.len ≠ 0 then [queuedCopy fresh p.buf p.len interface] else []) ≤
        if p.buf.origin ∈ seen then (ipTtl p.buf.mem).toNat else 0 := by
      by_cases ho : p.buf.origin ∈ seen
      · have hlen := hl.length p (hc.hand p List.mem_cons_self ho)
        have httl : ipTtl (queuedCopy fresh p.buf p.len interface).buf.mem = ipTtl p.buf.mem :=
          queuedCopy_mem fresh p.buf p.len interface (by omega)
        have hq : (queuedCopy fresh p.buf p.len interface).buf.origin = p.buf.origin := rfl
        rw [if_pos (by omega), if_pos ho, tally_cons, hq, if_pos ho, httl]
        exact le_rfl
      · rw [tally_of_unseen]
        · exact Nat.zero_le _
        · intro q hq
          split_ifs at hq
          · obtain rfl := List.mem_singleton.mp hq
            exact ho
          · exact absurd hq List.not_mem_nil
    -- the copy in hand becomes the one that waits
    have hwait := he.waitingSum (@tally_append seen)
    apply Paid.quiet he.sends
    simp only [timeLeft, tally_cons, hwait]
    omega
  | @handled s s' hand destRt r hm hd =>
    obtain ⟨calls,hs,hall⟩ := hd.log.2
    have hwait := hd.waitingSum_le hm (tally seen)
    apply Paid.of_none hs
    · rintro y hy ⟨-,-,-,n,-,ho⟩
      rw [(hall y hy).2] at ho
      contradiction
    · exact Nat.add_le_add_right hwait _
  | inserted s mac ip =>
    have hwait := @waitingSum_insert x.env (tally seen) rfl mac ip s
    apply Paid.quiet (insertedState_frame x.env mac ip s).2.2.1
    rw [timeLeft, hwait]
    exact Nat.le_add_right _ _
  | @freed s r hr =>
    have hp : (s.cache.requests.destroy r).pending = s.cache.requests.pending :=
      List.eraseP_of_forall_not (by simpa using hr)
    refine Paid.quiet rfl ?_
    simp only [timeLeft, waitingSum, SrInstance.setRequests_cache_requests, hp]
    exact le_rfl

theorem Moves.paid (hl : Leaving x t P) (h : Moves x.env c c') (hc : Held t P seen c) :
    Held t P seen c' ∧ Paid x t P seen c c' := by
  refine invariant_of_run (I := fun d => Held t P seen d ∧ Paid x t P seen c d) ?_ h
    ⟨hc, Paid.quiet rfl le_rfl⟩
  intro d d' hm hd
  exact ⟨hm.held hl hd.1, hd.2.trans (hm.paid hl hd.1)⟩

/-- The same where an event stops short: the loop that gives a request up sends by the route it
finds, and the packets in hand are lost. -/
theorem Stopped.paid (hl : Leaving x t P) (h : Stopped x.env c s') (hc : Held t P seen c)
    (htables : s'.ifList = t.ifList ∧ s'.routingTable = t.routingTable) :
    Held t P seen (s', []) ∧ Paid x t P seen c (s', []) := by
  obtain ⟨c',hm,h'⟩ := h
  obtain ⟨hc',hpaid⟩ := Moves.paid hl hm hc
  have hend (hcache : s'.cache = c'.1.cache) (ha : s'.log.arrivals = c'.1.log.arrivals) :
      Held t P seen (s', []) ∧ timeLeft seen (s', []) ≤ timeLeft seen c' := by
    refine ⟨⟨htables, ?_, ?_, by simp⟩, ?_⟩
    · rw [ha]
      exact hc'.arrived
    · rw [hcache]
      exact hc'.waiting
    · rw [timeLeft, waitingSum, hcache]
      exact Nat.add_le_add_left (Nat.zero_le _) _
  rcases h' with rfl | ⟨r,hr,hint⟩
  · obtain ⟨hheld,hle⟩ := hend rfl rfl
    exact ⟨hheld, hpaid.trans (Paid.quiet rfl hle)⟩
  cases hint with
  | retrying hsame _ _ _ hs =>
    obtain ⟨hheld,hle⟩ := hend hsame.1 hsame.2
    exact ⟨hheld, hpaid.trans (Paid.quiet hs hle)⟩
  | givingUp hsame _ _ _ hs hall =>
    obtain ⟨hheld,hle⟩ := hend hsame.1 hsame.2
    refine ⟨hheld, hpaid.trans (Paid.of_none hs ?_ hle)⟩
    rintro y hy ⟨-,-,hleads,n,hn,ho⟩
    -- the message would go out by the route found for the packets that wait
    obtain ⟨-,⟨p,hp,hab⟩,rt,hrt,hiface⟩ := hall y hy
    obtain rfl := Option.some.inj (hab.origin.symm.trans ho)
    obtain ⟨hP,hip⟩ := hc'.waiting r hr p hp hn
    rw [hip, hc'.tables.2] at hrt
    rw [hiface, hl.givenUp p rt hP hrt] at hleads
    contradiction

end Paid

/-- A packet for `d` that a router has taken in hand, and that is got rid of. -/
structure Onward (x y : LinkEnd) (s t : SrInstance) (d : UInt32) (p : SrPacket) : Prop where
  length : 34 ≤ p.len
  dst : ipDst p.buf.mem = d
  departs : Departs x y s t d (ipTtl p.buf.mem).toNat

/-- Such a packet on the link. -/
structure InFlight (x y : LinkEnd) (s t : SrInstance) (d : UInt32) (frame : List UInt8) : Prop where
  length : 34 ≤ frame.length
  dst : ∀ slack, ipDst (load frame slack) = d
  departs : Departs x y s t d (timeToLive frame)

def Side.timeLeft (a : Side) : ℕ :=
  Router.timeLeft a.seen (a.router, [])+(a.inbox.map timeToLive).sum

section Exchange

variable {x y : LinkEnd} {a b : Side} {s t : SrInstance} {ev : Event} {fuel : ℕ} {d : UInt32}

/-- What the one router passes on over the link is for the other one to get rid of. -/
theorem PassesOver.inFlight {c : SendCall} (h : PassesOver x s (Onward x y s t d) c) :
    InFlight y x t s d c.frame ∧ timeToLive c.frame = (ipTtl c.buf).toNat := by
  obtain ⟨p,rt,hp,hrt,hleads,hlen,hdst,httl⟩ := h
  have hwire (slack : Mem) (i : ℕ) (hi : i < 34) : load c.frame slack i = c.buf i :=
    load_wire slack (by rw [hlen]; exact hi.trans_le hp.length)
  have hlive : timeToLive c.frame = (ipTtl c.buf).toNat :=
    congrArg UInt8.toNat (hwire (fun _ => 0) 22 (by omega))
  refine ⟨⟨?_, ?_, ?_⟩, hlive⟩
  · rw [SendCall.frame, wire_length, hlen]
    exact hp.length
  · intro slack
    calc
      _ = ipDst c.buf := get32_congr fun i _ hi => hwire slack i (by omega)
      _ = d := hdst.trans hp.dst
  · rw [hp.dst] at hrt
    cases hp.departs with
    | passedOn _ halive hrt' _ hnext =>
      obtain rfl := Option.some.inj (hrt'.symm.trans hrt)
      have hle : (1 : UInt8) ≤ ipTtl p.buf.mem :=
        UInt8.le_of_lt (UInt8.lt_iff_toNat_lt.mpr halive)
      rw [hlive, httl, UInt8.toNat_sub_of_le _ 1 hle]
      exact hnext hleads

theorem Turn.cases {q : Side × Side} (h : Turn x (a,b) q) :
    (∃ ev fuel, q = acts x a b ev fuel) ∨ ∃ pre post frame slack fuel,
      a.inbox = pre ++ frame :: post ∧
        q = acts x ⟨a.router, a.router.log.arrivals :: a.seen, pre ++ post⟩ b
          (.receive frame slack x.name) fuel := by
  generalize hp : (a,b) = p at h
  cases h with
  | event ev fuel =>
    obtain ⟨rfl,rfl⟩ := Prod.mk.inj hp
    exact Or.inl ⟨ev,fuel,rfl⟩
  | arrival slack fuel hin =>
    obtain ⟨rfl,rfl⟩ := Prod.mk.inj hp
    exact Or.inr ⟨_, _, _, slack, fuel, hin, rfl⟩

theorem SendsBack.wire {packet : Buf} {length : ℕ} {interface : CName} {i : SrIf} {c : SendCall}
    (h : SendsBack s packet length interface i c) (slack : Mem) {k : ℕ} (hk : k < 34) :
    load c.frame slack k = c.buf k := by
  have hlen := h.reply.checksummed.length
  rw [← h.len] at hlen
  exact load_wire slack (hk.trans_le hlen)

theorem SendsBack.accepted {packet : Buf} {length : ℕ} {interface : CName} {i : SrIf} {c : SendCall}
    (h : SendsBack s packet length interface i c) (ha : Accepted c.buf length) :
    Accepted (load c.frame fun _ => 0) c.frame.length := by
  have hl : c.frame.length = length := (wire_length _ _).trans h.len
  rw [hl]
  apply ha.congr
  intro k hk
  exact load_wire _ (h.len.symm ▸ hk)

variable {interface : CName} {frame : List UInt8} {slack : Mem} {i : SrIf}

theorem Held.mono {P Q : SrPacket → Prop} {seen : List ℕ} {c : SrInstance × List SrPacket}
    (h : Held s P seen c) (hPQ : ∀ p, P p → Q p) : Held s Q seen c :=
  ⟨h.tables, h.arrived, fun r hr p hp he => ⟨hPQ p (h.waiting r hr p hp he).1,
    (h.waiting r hr p hp he).2⟩, fun p hp he => hPQ p (h.hand p hp he)⟩

theorem Exchange.swap {p q : Side × Side} (h : Exchange x y p q) : Exchange y x p.swap q.swap := by
  refine Relation.ReflTransGen.lift Prod.swap ?_ _ _ h
  rintro p q (hpq | hpq)
  · exact Or.inr (by rwa [Prod.swap_swap, Prod.swap_swap])
  · exact Or.inl hpq

end Exchange

end InternetCourse.Router
