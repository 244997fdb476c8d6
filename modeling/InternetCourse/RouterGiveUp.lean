import InternetCourse.RouterQueue

/-! Giving a request up. The loop that should tell every waiting sender never moves on to
the next packet, and is left alone only when there is no next one. -/
namespace InternetCourse.Router

open ByteMem StateTriple

/-- A host-unreachable message to the sender of a waiting packet, by the interface the
packet came in on. -/
structure Notifies (c : SendCall) (p : SrPacket) : Prop where
  emitter : c.emitter = .destHostUnreach
  type : icmpType c.buf = 3
  code : icmpCode c.buf = 1
  dst : ipDst c.buf = ipSrc p.buf.mem
  iface : c.iface = p.iface

/-- The call returns, having sent one message for each waiting packet and nothing else,
and the request is gone while all others are as they were. -/
def GivesUp (env : Env) (destRt : Option SrRt) (s : SrInstance) (r : SrArpreq) : Prop :=
  ∃ fuel s', handleArpreq env fuel r.addr destRt s = .ok () s' ∧
    (∃ calls packets, s'.log.sends = calls ++ s.log.sends ∧ packets.Perm r.packets ∧
      List.Forall₂ Notifies calls packets) ∧
    s'.cache.requests.pending = s.cache.requests.pending.filter fun r' => r'.addr ≠ r.addr

variable {env : Env} {destRt : Option SrRt} {s : SrInstance} {r : SrArpreq}

theorem gaveUpState_sends (s : SrInstance) (r : SrArpreq) :
    (gaveUpState env s r).log.sends = s.log.sends := by
  simp [gaveUpState, givingUpState, stampedState, handledState]

theorem gaveUpState_pending_filter (hr : r ∈ s.cache.requests.pending) :
    (gaveUpState env s r).cache.requests.pending =
      s.cache.requests.pending.filter fun r' => r'.addr ≠ r.addr := by
  obtain ⟨pre,post,hs⟩ := List.append_of_mem hr
  rw [gaveUpState_pending hs, Requests.filter_addr_split hs]

/-- A call that gives a request up sends nothing, so nobody may be waiting. -/
theorem GivesUp.nobody_waits (hr : r ∈ s.cache.requests.pending) (hd : Due env s r)
    (hx : 5 ≤ r.timesSent) (h : GivesUp env destRt s r) : r.packets = [] := by
  obtain ⟨fuel,s',hh,⟨calls,packets,hsends,hperm,hall⟩,-⟩ := h
  -- since the call returns, the loop has run no round, and no round means no message
  obtain ⟨-,rfl⟩ := handleArpreq_giveUp_returns env hr hd hx hh
  rw [gaveUpState_sends] at hsends
  obtain rfl := List.self_eq_append_left.mp hsends
  cases hall
  exact hperm.symm.eq_nil

theorem givesUp_of_nobody (hr : r ∈ s.cache.requests.pending) (hd : Due env s r)
    (hx : 5 ≤ r.timesSent) (hp : r.packets = []) : GivesUp env destRt s r := by
  -- the loop is skipped, so one unit of fuel is enough
  have hh := handleArpreq_giveUp_of_single env hr hd hx (by simp [hp]) destRt Nat.one_pos
  refine ⟨1, _, hh, ⟨[], [], gaveUpState_sends s r, ?_, List.Forall₂.nil⟩,
    gaveUpState_pending_filter hr⟩
  rw [hp]

/-- Giving a request up does all it should exactly when no packet waits: one packet is
dropped in silence, and with two or more the call never returns. -/
theorem givesUp_iff_nobody_waits (hr : r ∈ s.cache.requests.pending) (hd : Due env s r)
    (hx : 5 ≤ r.timesSent) : GivesUp env destRt s r ↔ r.packets = [] :=
  ⟨GivesUp.nobody_waits hr hd hx, givesUp_of_nobody hr hd hx⟩

/-- With two packets waiting the call returns on no amount of fuel. -/
theorem handleArpreq_never_returns (hr : r ∈ s.cache.requests.pending) (hd : Due env s r)
    (hx : 5 ≤ r.timesSent) (hp : 2 ≤ r.packets.length) (fuel : ℕ) (s' : SrInstance) :
    handleArpreq env fuel r.addr destRt s ≠ .ok () s' := by
  intro h
  have hle := (handleArpreq_giveUp_returns env hr hd hx h).1
  omega

/-- The small router with a packet waiting after five broadcasts in vain. -/
def overdueRouter : SrInstance :=
  afterAll obligingHost 1 [.receive transitFrame (fun _ => 0) eth0, .sweep, .sweep, .sweep, .sweep]
    smallRouter

theorem overdueRouter_exhausted : ∃ r ∈ overdueRouter.cache.requests.pending,
    Due obligingHost overdueRouter r ∧ 5 ≤ r.timesSent ∧ r.packets.length = 1 := by
  decide +kernel

/-- The one packet that waits is given up without a word. -/
theorem single_sender_not_notified : ∃ r ∈ overdueRouter.cache.requests.pending,
    Due obligingHost overdueRouter r ∧ 5 ≤ r.timesSent ∧
      ∀ destRt, ¬GivesUp obligingHost destRt overdueRouter r := by
  obtain ⟨r,hr,hd,hx,hp⟩ := overdueRouter_exhausted
  refine ⟨r, hr, hd, hx, fun destRt h => ?_⟩
  have hnil := h.nobody_waits hr hd hx
  rw [hnil, List.length_nil] at hp
  exact Nat.zero_ne_one hp

theorem givesUp_iff_nobody_waits_overdueRouter :
    ∃ r ∈ overdueRouter.cache.requests.pending,
      GivesUp obligingHost none overdueRouter r ↔ r.packets = [] := by
  obtain ⟨r,hr,hd,hx,-⟩ := overdueRouter_exhausted
  exact ⟨r, hr, givesUp_iff_nobody_waits hr hd hx⟩

end InternetCourse.Router
