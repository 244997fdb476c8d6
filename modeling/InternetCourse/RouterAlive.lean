import InternetCourse.RouterHistory
import InternetCourse.RouterForward
import InternetCourse.RouterReplies
import InternetCourse.RouterErrors

/-! The time to live of what a router sends. An error or an answer about a packet takes the
time to live of the packet over, and Time Exceeded takes one off. -/
namespace InternetCourse.Router

open ByteMem StateTriple

/-- `ip_ttl` was 0 before 1 was taken from it: no other value gives 255. -/
def Wrapped (c : SendCall) : Prop :=
  (c.emitter = .packetToOtherDest ∨ c.emitter = .timeExceeded) ∧ ipTtl c.buf = 255

/-- A frame that, if it is an IP packet, has some time left to live, and did not get it by
wrapping around. -/
structure Alive (c : SendCall) : Prop where
  left : ethertype c.buf = ethertypeIp → 1 ≤ ipTtl c.buf
  unwrapped : ¬Wrapped c

/-- What the router answers or sends back has some time left to live, what it passes on has
more than one hop. Without the interface it came in by nothing is sent back. -/
def ArrivesAlive (s : SrInstance) (m : Mem) (len : ℕ) (interface : CName) : Prop :=
  Accepted m len → (srGetInterface s.ifList interface).isSome = true →
    (Local s m → Answerable m → ipTtl m ≠ 0) ∧ (¬Local s m → 1 < ipTtl m)

/-- The condition on an event. -/
def Happening.ArrivesAlive (x : Happening) : Prop :=
  match x.event with
  | .receive frame slack interface =>
    Router.ArrivesAlive x.before (load frame slack) frame.length interface
  | _ => True

variable {env : Env} {s₀ s s' : SrInstance} {h : List Happening}

theorem sub_one_eq_255_iff (ttl : UInt8) : ttl-1 = 255 ↔ ttl = 0 := by
  constructor
  · intro h
    have hlt : ttl.toNat < 256 := ttl.toNat_lt
    have h1 : (1 : UInt8).toNat = 1 := rfl
    have h255 : (2^8-(1 : UInt8).toNat+ttl.toNat)%2^8 = 255 := by
      rw [← UInt8.toNat_sub, h]
      rfl
    apply UInt8.toNat.inj
    rw [show (0 : UInt8).toNat = 0 from rfl]
    omega
  · rintro rfl
    decide

theorem one_le_sub_one {ttl : UInt8} (h : 1 < ttl) : 1 ≤ ttl-1 := by
  have hn : 1 < ttl.toNat := UInt8.lt_iff_toNat_lt.mp h
  rw [UInt8.le_iff_toNat_le, UInt8.toNat_sub_of_le _ _ (UInt8.le_of_lt h)]
  have h1 : (1 : UInt8).toNat = 1 := rfl
  omega

theorem one_le_of_ne_zero {ttl : UInt8} (h : ttl ≠ 0) : 1 ≤ ttl := by
  rw [UInt8.le_iff_toNat_le]
  have hn : ttl.toNat ≠ 0 := fun hz => h (UInt8.toNat.inj hz)
  have h1 : (1 : UInt8).toNat = 1 := rfl
  omega

theorem icmpErrorCall_ttl (env : Env) (s : SrInstance) (emitter : Emitter) (type code : UInt8)
    (ttl : UInt8 → UInt8) (packet : Buf) (i : SrIf) (interface : CName) (len : ℕ) :
    ipTtl (icmpErrorCall env s emitter type code ttl packet i interface len).buf =
      ttl (ipTtl packet.mem) := icmpErrorFrame_ttl type code ttl _ _ i

theorem icmpErrorCall_isIp {packet : Buf} {len : ℕ} (ha : Accepted packet.mem len) (env : Env)
    (s : SrInstance) (emitter : Emitter) (type code : UInt8) (ttl : UInt8 → UInt8) (i : SrIf)
    (interface : CName) : ethertype
      (icmpErrorCall env s emitter type code ttl packet i interface len).buf = ethertypeIp :=
  (icmpErrorFrame_reply ha type code ttl _ i).checksummed.ip

/-- ARP frames are not meant. -/
theorem alive_of_arp {c : SendCall} (ht : ethertype c.buf = ethertypeArp)
    (he : c.emitter = .arpPacket ∨ c.emitter = .arpRequestSend) : Alive c := by
  refine ⟨fun hi => absurd (ht.symm.trans hi) (by decide), ?_⟩
  rintro ⟨hw,-⟩
  rcases he with he | he <;> rw [he] at hw <;> simp at hw

theorem alive_of_unchanged {c : SendCall} (hl : 1 ≤ ipTtl c.buf)
    (he : c.emitter = .echoReply ∨ c.emitter = .destHostUnreach ∨ c.emitter = .portUnreach) :
    Alive c := by
  refine ⟨fun _ => hl, ?_⟩
  rintro ⟨hw,-⟩
  rcases he with he | he | he <;> rw [he] at hw <;> simp at hw

theorem forwardCall_alive {packet : Buf} (ht : 1 < ipTtl packet.mem) (len : ℕ) (i : SrIf)
    (e : SrArpentry) : Alive (forwardCall env s packet len i e) := by
  have httl : ipTtl (forwardCall env s packet len i e).buf = ipTtl packet.mem-1 :=
    forwardFrame_ttl _ _ _
  refine ⟨fun _ => ?_, ?_⟩
  · rw [httl]
    exact one_le_sub_one ht
  · rintro ⟨-,hw⟩
    rw [httl, sub_one_eq_255_iff] at hw
    rw [hw] at ht
    exact absurd ht (by decide)

/-- What is known of a packet that waits or is passed on. -/
def PassedOn (p : SrPacket) : Prop := Accepted p.buf.mem p.len ∧ 1 < ipTtl p.buf.mem

theorem PassedOn.copy {p : SrPacket} (hp : PassedOn p) (fresh : Mem) (interface : CName) :
    PassedOn (queuedCopy fresh p.buf p.len interface) := by
  have hl := ((accepted_iff _ _).mp hp.1).1
  have hb (i : ℕ) (hi : i < p.len) := queuedCopy_mem fresh p.buf p.len interface hi
  refine ⟨hp.1.congr hb, ?_⟩
  rw [ipTtl, hb 22 (by omega)]
  exact hp.2

/-- What waits has time left, and what was sent had. -/
structure AllAlive (s : SrInstance) : Prop where
  waiting : ∀ r ∈ s.cache.requests.pending, ∀ p ∈ r.packets, PassedOn p
  sends : ∀ c ∈ s.log.sends, Alive c

theorem AllAlive.addSend (hs : AllAlive s) {c : SendCall} (hc : Alive c) :
    AllAlive (s.addSend c) := by
  refine ⟨hs.waiting, ?_⟩
  intro c' hc'
  rcases List.mem_cons.mp hc' with rfl | hc'
  · exact hc
  · exact hs.sends c' hc'

theorem allAlive_preserved (env : Env) : Preserved env PassedOn (fun _ => True) AllAlive where
  time _ hs := ⟨hs.waiting,hs.sends⟩
  malloc _ hs := ⟨hs.waiting,hs.sends⟩
  access _ _ hs := ⟨hs.waiting,hs.sends⟩
  arp _ _ hs := ⟨hs.waiting,hs.sends⟩
  waiting _ hs := hs.waiting
  dst _ _ := trivial
  ip _ _ _ _ _ _ := trivial
  stamped s addr now destroyed hs := by
    refine ⟨?_, hs.sends⟩
    intro r hr
    obtain ⟨r₀,hr₀,-,hp⟩ := stampedState_mem hr
    rw [hp]
    exact hs.waiting r₀ hr₀
  destroyed s r hs := ⟨fun r' hr' => hs.waiting r' (List.mem_of_mem_eraseP hr'), hs.sends⟩
  -- a copy waits with the time to live it came in with
  enqueued s p interface rt r s' hs hp _ _ he := by
    refine ⟨?_, by rw [he.sends]; exact hs.sends⟩
    intro x hx q hq
    rcases he.packets hx hq with ⟨hq,-⟩ | ⟨r₀,hr₀,-,hq⟩
    · simp only [queuedCopies] at hq
      split at hq
      · obtain rfl := List.mem_singleton.mp hq
        exact hp.copy _ _
      · simp at hq
    · exact hs.waiting r₀ hr₀ q hq
  broadcast s r _ _ i hs _ _ _ _ := by
    have hc : Alive (arpRequestCall env s i r.ip) :=
      alive_of_arp (arpRequestFrame_fields _ _ _ i r.ip).type (Or.inr rfl)
    exact AllAlive.addSend (s := s.addMalloc.addMalloc.addMalloc.addAccess
      ⟨r.addr, .ip, false, false⟩) ⟨hs.waiting,hs.sends⟩ hc
  forwarded s p rt e i hs _ ht _ _ _ := hs.addSend (forwardCall_alive ht p.len i e)
  -- a packet that is passed on has not expired
  expired s p i interface hs hp ht _ := absurd hp.2 (UInt8.not_lt.mpr ht)
  unreachable s p i interface hs hp _ := by
    have hc : Alive (icmpErrorCall env s .destHostUnreach 3 1 (fun ttl => ttl) p.buf i interface
        p.len) := by
      refine alive_of_unchanged ?_ (Or.inr (Or.inl rfl))
      rw [icmpErrorCall_ttl]
      exact UInt8.le_of_lt hp.2
    exact AllAlive.addSend (s := s.addMalloc) ⟨hs.waiting,hs.sends⟩ hc

theorem Receives.allAlive {frame : List UInt8} {slack : Mem} {interface : CName}
    (hs : AllAlive s)
    (ha : Accepted (load frame slack) frame.length →
      (Local s (load frame slack) → Answerable (load frame slack) →
        (srGetInterface s.ifList interface).isSome = true → ipTtl (load frame slack) ≠ 0) ∧
      (¬Local s (load frame slack) → 1 < ipTtl (load frame slack))) :
    Receives env PassedOn AllAlive s (received s frame slack interface) where
  arrived _ := ⟨hs.waiting,hs.sends⟩
  inserted _ := by
    obtain ⟨-,-,hse,-⟩ := insertedState_frame env (arSha (load frame slack))
      (arSip (load frame slack)) s.addArrival
    refine ⟨?_, ?_⟩
    · intro r hr
      rw [insertedState_pending] at hr
      exact hs.waiting r (List.mem_of_mem_eraseP hr)
    · intro c hc
      exact hs.sends c (hse ▸ hc)
  flushed _ q hq := by
    obtain ⟨r,hr,-,hq⟩ := mem_waitingFor hq
    exact hs.waiting r hr q hq
  replied i _ harp _ := by
    have hf : ArpFields (load frame slack) _ _ _ _ := ⟨harp,rfl,rfl,rfl,rfl⟩
    have ht := (arpReplyFrame_fields hf i).type
    exact AllAlive.addSend (s := s.addArrival) ⟨hs.waiting,hs.sends⟩
      (alive_of_arp ht (Or.inl rfl))
  -- by the condition on the frame, and in transit only then
  transit hacc hl := ⟨hacc, (ha hacc).2 hl⟩
  echoed i hacc hl hp hi := by
    have httl := (ha hacc).1 hl (Or.inl hp) (Option.isSome_iff_exists.mpr ⟨i,hi⟩)
    refine AllAlive.addSend (s := s.addArrival) ⟨hs.waiting,hs.sends⟩
      (alive_of_unchanged ?_ (Or.inl rfl))
    rw [echoReplyFrame_ttl]
    exact one_le_of_ne_zero httl
  unreachable i hacc hl hp hi := by
    have httl := (ha hacc).1 hl (Or.inr hp) (Option.isSome_iff_exists.mpr ⟨i,hi⟩)
    refine AllAlive.addSend (s := s.addArrival.addMalloc) ⟨hs.waiting,hs.sends⟩
      (alive_of_unchanged ?_ (Or.inr (Or.inr rfl)))
    rw [icmpErrorCall_ttl]
    exact one_le_of_ne_zero httl

theorem AllAlive.next (hs : AllAlive s) {ev : Event} {fuel : ℕ}
    (hx : (⟨s,ev,fuel⟩ : Happening).ArrivesAlive) :
    AllAlive (finalState (handle env fuel ev s)) := by
  cases ev with
  | expiry => exact ⟨hs.waiting,hs.sends⟩
  | sweep => exact sweep_keeps (allAlive_preserved env) hs fuel
  | receive frame slack interface =>
    have hx' : Router.ArrivesAlive s (load frame slack) frame.length interface := hx
    have hkeep := @receive_keeps env _ _ _ s (allAlive_preserved env) frame slack interface
    by_cases hi : (srGetInterface s.ifList interface).isSome = true
    · exact hkeep (Receives.allAlive hs fun ha => ⟨fun hl hp _ => (hx' ha hi).1 hl hp, (hx' ha hi).2⟩)
        fuel
    by_cases hexp : Accepted (load frame slack) frame.length ∧ ¬Local s (load frame slack) ∧
        ipTtl (load frame slack) ≤ 1
    · obtain ⟨ha,hl,ht⟩ := hexp
      have hnone : srGetInterface s.addArrival.ifList interface = none := by
        rw [← Option.isNone_iff_eq_none, ← Option.isSome_eq_false_iff, ← Bool.not_eq_true]
        exact hi
      have ht' : ipTtl (received s frame slack interface).buf.mem ≤ 1 := ht
      -- the error handler crashes before it sends anything
      rw [receive_of_transit ha hl, bind_apply, packetToOtherDest_of_expired ht', bind_apply,
        timeExceeded, icmpError_of_none env hnone]
      exact ⟨hs.waiting,hs.sends⟩
    · refine hkeep (Receives.allAlive hs fun ha => ⟨fun _ _ h => absurd h hi, fun hl => ?_⟩) fuel
      rw [← UInt8.not_le]
      exact fun ht => hexp ⟨ha,hl,ht⟩

/-- A packet that arrives dead makes the router send a dead one. -/
theorem exists_dead {frame : List UInt8} {slack : Mem} {interface : CName} {fuel : ℕ}
    (hx : ¬ArrivesAlive s (load frame slack) frame.length interface) :
    ∃ c ∈ (finalState (handle env fuel (.receive frame slack interface) s)).log.sends,
      ¬Alive c := by
  simp only [ArrivesAlive, Classical.not_imp, not_and_or, ne_eq, not_not, UInt8.not_lt] at hx
  obtain ⟨ha,hi,hx⟩ := hx
  obtain ⟨i,hi⟩ := Option.isSome_iff_exists.mp hi
  have hi' : srGetInterface s.addArrival.ifList interface = some i := hi
  let p := (received s frame slack interface).buf
  -- for the router itself the time to live is 0, in transit it is at most 1
  rcases hx with ⟨hl,hp,ht⟩ | ⟨hl,ht⟩
  · have hdead {c : SendCall} (hc : ethertype c.buf = ethertypeIp)
        (htc : ipTtl c.buf = ipTtl p.mem) : ¬Alive c := by
      intro hal
      have hle := hal.left hc
      have h0 : ipTtl c.buf = 0 := htc.trans ht
      rw [h0] at hle
      exact absurd hle (by decide)
    rw [receive_of_accepted ha]
    -- an answer carries the time to live of the packet it answers
    by_cases h1 : ipP p.mem = 1
    · have hip := (echoReplyFrame_reply ha h1 i).checksummed.ip
      rw [@ipPacket_of_echo p _ s.addArrival ha hl h1, echoReply_of_some env hi']
      exact ⟨_, List.mem_cons_self, hdead hip (echoReplyFrame_ttl _ i)⟩
    · have h2 : ipP p.mem = 17 ∨ ipP p.mem = 6 := hp.resolve_left h1
      have hip := @icmpErrorCall_isIp p _ ha env s.addArrival .portUnreach 3 3 (fun ttl => ttl) i
        interface
      rw [@ipPacket_of_unreachable p _ s.addArrival ha hl h2, portUnreach,
        icmpError_of_some env hi']
      exact ⟨_, List.mem_cons_self, hdead hip (icmpErrorCall_ttl ..)⟩
  · have ht' : ipTtl p.mem ≤ 1 := ht
    have hip := @icmpErrorCall_isIp p _ ha env s.addArrival .timeExceeded 11 0 (fun ttl => ttl-1) i
      interface
    have httl := icmpErrorCall_ttl env s.addArrival .timeExceeded 11 0 (fun ttl => ttl-1) p i
      interface frame.length
    rw [receive_of_transit ha hl, bind_apply, packetToOtherDest_of_expired ht', bind_apply,
      timeExceeded, icmpError_of_some env hi']
    refine ⟨_, List.mem_cons_self, ?_⟩
    intro hal
    by_cases h0 : ipTtl p.mem = 0
    · -- 0 becomes 255
      exact hal.unwrapped ⟨Or.inr rfl, httl.trans ((sub_one_eq_255_iff _).mpr h0)⟩
    · have h1 : ipTtl p.mem = 1 := UInt8.le_antisymm ht' (one_le_of_ne_zero h0)
      have hle := hal.left hip
      rw [httl, h1] at hle
      exact absurd hle (by decide)

theorem Initial.allAlive (h₀ : Initial s₀) : AllAlive s₀ := by
  have hp : s₀.cache.requests.pending = [] := by rw [h₀.cache]; rfl
  have hs : s₀.log.sends = [] := by rw [h₀.log]; rfl
  exact ⟨by simp [hp], by simp [hs]⟩

theorem History.allAlive (h₀ : Initial s₀) (hh : History env s₀ h s)
    (hx : ∀ x ∈ h, x.ArrivesAlive) : AllAlive s := by
  induction hh with
  | start => exact h₀.allAlive
  | next ev fuel _ ih =>
    have hold := ih fun x hx' => hx x (List.mem_append_left _ hx')
    exact hold.next (hx _ (List.mem_append_right _ List.mem_cons_self))

/-- Every IP packet ever put on the wire had time left to live, exactly if every packet the
router had to answer or to pass on had. -/
theorem sends_alive_iff (h₀ : Initial s₀) (hh : History env s₀ h s) :
    (∀ c ∈ s.log.sends, Alive c) ↔ ∀ x ∈ h, x.ArrivesAlive := by
  refine ⟨?_, fun hx => (hh.allAlive h₀ hx).sends⟩
  intro hal
  induction hh with
  | start => simp
  | next ev fuel _ ih =>
    intro x hx
    rcases List.mem_append.mp hx with hx | hx
    · exact ih (fun c hc => hal c ((handle_sends env fuel ev _).mem hc)) x hx
    · obtain rfl := List.mem_singleton.mp hx
      cases ev with
      | expiry | sweep => trivial
      | receive frame slack interface =>
        by_contra hn
        obtain ⟨c,hc,hdead⟩ := exists_dead hn
        exact hdead (hal c hc)

/-- The packet whose time runs out at the router is reported with a time to live of zero. -/
theorem expired_frame_reported_dead :
    History obligingHost smallRouter
      [⟨smallRouter, .receive expiringFrame (fun _ => 0) eth0, 1⟩] expiredRouter ∧
    ∃ c ∈ expiredRouter.log.sends, ethertype c.buf = ethertypeIp ∧ ipTtl c.buf = 0 ∧ ¬Alive c := by
  have hsent : ∃ c ∈ expiredRouter.log.sends, ethertype c.buf = ethertypeIp ∧ ipTtl c.buf = 0 := by
    decide +kernel
  obtain ⟨c,hc,ht,h0⟩ := hsent
  refine ⟨History.next _ 1 History.start, c, hc, ht, h0, ?_⟩
  intro hal
  have hle := hal.left ht
  rw [h0] at hle
  exact absurd hle (by decide)

theorem sends_alive_iff_smallRouter :
    (∀ c ∈ expiredRouter.log.sends, Alive c) ↔
      ∀ x ∈ ([⟨smallRouter, .receive expiringFrame (fun _ => 0) eth0, 1⟩] : List Happening),
        x.ArrivesAlive :=
  sends_alive_iff smallRouter_initial (History.next _ 1 History.start)

end InternetCourse.Router
