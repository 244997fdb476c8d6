import InternetCourse.RouterErrors
import InternetCourse.RouterTouches

/-! Which frames are handled without an access past their end. -/
namespace InternetCourse.Router

open ByteMem StateTriple TracedState

/-- A packet the router answers with an echo reply. -/
structure Echoed (s : SrInstance) (m : Mem) (len : ℕ) (interface : CName) : Prop where
  accepted : Accepted m len
  isLocal : Local s m
  icmp : ipP m = 1
  iface : (srGetInterface s.ifList interface).isSome

/-- A packet for elsewhere that the router quotes in an error message: its time to live is over,
there is no route, or the request it joins is given up with other packets waiting and a route
found for it once more. -/
inductive Undeliverable (env : Env) (s : SrInstance) (m : Mem) (interface : CName) : Prop where
  | expired : ipTtl m ≤ 1 → (srGetInterface s.ifList interface).isSome →
      Undeliverable env s m interface
  | noRoute : 1 < ipTtl m → longestPrefixSum s.routingTable (ipDst m) = none →
      (srGetInterface s.ifList interface).isSome → Undeliverable env s m interface
  | givenUp {rt rt' : SrRt} {r : SrArpreq} : 1 < ipTtl m →
      longestPrefixSum s.routingTable (ipDst m) = some rt →
      srArpcacheLookup s.cache.entries (ipDst m) = none →
      s.cache.requests.pending.find? (fun r => r.ip == ipDst m) = some r →
      r.packets ≠ [] → Exhausted env s r → routeAt env s.routingTable (ipDst m) = some rt' →
      (srGetInterface s.ifList rt'.interface).isSome → Undeliverable env s m interface

/-- A packet the router quotes in an error message. -/
inductive Quoted (env : Env) (s : SrInstance) (m : Mem) (len : ℕ) (interface : CName) : Prop where
  | unreachable : Accepted m len → Local s m → ipP m = 17 ∨ ipP m = 6 →
      (srGetInterface s.ifList interface).isSome → Quoted env s m len interface
  | inTransit : Accepted m len → ¬Local s m → Undeliverable env s m interface →
      Quoted env s m len interface

/-- The frame is as long as what is done with it needs. -/
structure LongEnough (env : Env) (s : SrInstance) (m : Mem) (len : ℕ) (interface : CName) :
    Prop where
  ethernet : 14 ≤ len
  arp : ethertype m = ethertypeArp → 42 ≤ len
  echo : Echoed s m len interface → 38 ≤ len
  quote : Quoted env s m len interface → 42 ≤ len

/-- No access to the frame, or to a copy of it, goes past its end. -/
def StaysInside (host : Platform) (s : SrInstance) (frame : List UInt8) (slack : Mem)
    (interface : CName) : Prop :=
  ∀ fuel, ∀ x ∈ trace (receiveT host fuel frame slack interface) s,
    x.origin = s.log.arrivals → x.span.off+x.span.size ≤ frame.length

/-- An access to the packet itself, within its first `n` bytes. -/
def Own (packet : Buf) (n : ℕ) (x : Touch) : Prop :=
  x.origin = packet.origin ∧ x.span.off+x.span.size ≤ n

/-- An access an error handler makes to the packet: only where it finds the interface does it
come to the bytes it quotes. -/
def Quoting (s : SrInstance) (packet : Buf) (interface : CName) (x : Touch) : Prop :=
  Own packet 34 x ∨ (srGetInterface s.ifList interface).isSome ∧ Own packet 42 x

section Accesses

variable {host : Platform} {fuel : ℕ} {packet : Buf} {interface : CName} {len : ℕ} {s s' : SrInstance}

theorem Own.mono {n n' : ℕ} {x : Touch} (h : Own packet n x) (hn : n ≤ n') : Own packet n' x :=
  ⟨h.1, h.2.trans hn⟩

theorem Quoting.origin {x : Touch} (h : Quoting s packet interface x) :
    x.origin = packet.origin := by
  rcases h with h | ⟨-,h⟩ <;> exact h.1

theorem mem_touch {spans : List Span} {x : Touch}
    (h : x ∈ spans.map fun y => (⟨packet.origin, y⟩ : Touch)) :
    x.origin = packet.origin ∧ x.span ∈ spans := by
  obtain ⟨y,hy,rfl⟩ := List.mem_map.mp h
  exact ⟨rfl,hy⟩

theorem own_of_spans {spans : List Span} {n : ℕ} (h : ∀ y ∈ spans, y.off+y.size ≤ n) :
    ∀ x ∈ spans.map fun y => (⟨packet.origin, y⟩ : Touch), Own packet n x := by
  intro x hx
  obtain ⟨ho,hm⟩ := mem_touch hx
  exact ⟨ho, h x.span hm⟩

theorem touch_own {spans : List Span} {n : ℕ} (h : ∀ y ∈ spans, y.off+y.size ≤ n)
    (s : SrInstance) : Leaves (Own packet n) (touch packet spans) s :=
  Leaves.note (own_of_spans h) s

/-- The headers are printed only as far as the packet goes. -/
theorem printHdrs_own (packet : Buf) (len : ℕ) (s : SrInstance) :
    Leaves (Own packet len) (printHdrs packet len) s := by
  have htouch {n : ℕ} (hn : ¬len < n) {spans : List Span} (h : ∀ y ∈ spans, y.off+y.size ≤ n) :
      Leaves (Own packet len) (touch packet spans) s :=
    touch_own (fun y hy => (h y hy).trans (Nat.not_lt.mp hn)) s
  have hpure : Leaves (Own packet len) (pure () : TouchM Unit) s := Leaves.pure _ _ s
  refine Leaves.ite (fun _ => hpure) fun h14 => ?_
  refine Leaves.silent_bind rfl (htouch h14 (by decide)) ?_
  refine Leaves.silent_bind rfl (htouch h14 (by decide)) ?_
  refine Leaves.ite (fun _ => ?_) fun _ => ?_
  · refine Leaves.ite (fun _ => hpure) fun h34 => ?_
    refine Leaves.silent_bind rfl (htouch h34 (by decide)) ?_
    refine Leaves.silent_bind rfl (htouch h34 (by decide)) ?_
    refine Leaves.ite (fun _ => ?_) fun _ => hpure
    exact Leaves.ite (fun _ => hpure) fun h38 => htouch h38 (by decide)
  · refine Leaves.ite (fun _ => ?_) fun _ => hpure
    exact Leaves.ite (fun _ => hpure) fun h42 => htouch h42 (by decide)

theorem srSendPacketT_own (host : Platform) (emitter : Emitter) (packet : Buf) (len : ℕ)
    (iface : CName) (s : SrInstance) :
    Leaves (Own packet len) (srSendPacketT host emitter packet len iface) s := by
  refine Leaves.bind ?_ fun _ s₁ _ => Leaves.lift _ _ s₁
  refine Leaves.ite (fun _ => Leaves.pure _ _ s) fun h14 => ?_
  have h14' : 14 ≤ len := Nat.not_lt.mp h14
  refine Leaves.note_bind (own_of_spans (by simp [rd])) ?_
  refine Leaves.bind ?_ fun _ s₁ _ => Leaves.lift_bind fun u s₂ _ => ?_
  · exact Leaves.ite (fun _ => touch_own (by simp [rd]) s) fun _ => Leaves.pure _ _ s
  · exact Leaves.ite (fun _ => touch_own (by simpa [rd] using by omega) s₂)
      fun _ => Leaves.pure _ _ s₂

theorem echoReplyT_own (h : (srGetInterface s.ifList interface).isSome → 38 ≤ len)
    (h34 : 34 ≤ len) : Leaves (Own packet len) (echoReplyT host packet interface len) s := by
  refine Leaves.lift_bind fun u s₁ hu => ?_
  obtain ⟨rfl,rfl⟩ := EStateM.Result.ok.inj hu
  refine Leaves.note_bind (own_of_spans (by simpa [rd] using by omega)) ?_
  refine Leaves.lift_bind fun i s₂ hi => ?_
  cases hif : srGetInterface s.ifList interface with
  | none =>
    rw [hif] at hi
    contradiction
  | some j =>
    have h38 : 38 ≤ len := h (by rw [hif]; rfl)
    refine Leaves.note_bind (own_of_spans fun y hy => ?_) ?_
    · have hle : y.off+y.size ≤ 38 := by
        revert y
        decide
      exact hle.trans h38
    refine Leaves.silent_bind (erase_printHdrs _ _) ((printHdrs_own _ len s₂).mono fun x hx => hx) ?_
    exact Leaves.bind ((srSendPacketT_own host _ _ len interface s₂).mono fun x hx => hx)
      fun _ s₃ _ => Leaves.pure _ _ s₃

theorem icmpErrorT_quoting (emitter : Emitter) (type code : UInt8) (ttl : UInt8 → UInt8) :
    Leaves (Quoting s packet interface)
      (icmpErrorT host emitter type code ttl packet interface len) s := by
  refine Leaves.lift_bind fun buff s₁ hs₁ => ?_
  obtain rfl := (EStateM.Result.ok.inj hs₁).2
  refine Leaves.lift_bind fun u s₂ hs₂ => ?_
  obtain ⟨rfl,rfl⟩ := EStateM.Result.ok.inj hs₂
  refine Leaves.note_bind (fun x hx => Or.inl (own_of_spans (by decide) x hx)) ?_
  refine Leaves.lift_bind fun i s₃ hi => ?_
  cases hif : srGetInterface s.ifList interface with
  | none =>
    rw [SrInstance.addMalloc_ifList, hif] at hi
    contradiction
  | some j =>
    have hsome : (srGetInterface s.ifList interface).isSome := by
      rw [hif]
      rfl
    refine Leaves.note_bind (fun x hx => Or.inr ⟨hsome, own_of_spans (by decide) x hx⟩) ?_
    exact Leaves.lift_bind fun _ s₄ _ => Leaves.pure _ _ s₄

/-- With the interface there, the error handler reads the 28 bytes from the IP header on. -/
theorem icmpErrorT_reads (h : (srGetInterface s.ifList interface).isSome) (emitter : Emitter)
    (type code : UInt8) (ttl : UInt8 → UInt8) : (⟨packet.origin, rd 14 28⟩ : Touch) ∈
      trace (icmpErrorT host emitter type code ttl packet interface len) s := by
  obtain ⟨i,hi⟩ := Option.isSome_iff_exists.mp h
  apply mem_trace_bind_ok (u := s.addMalloc) rfl
  apply mem_trace_bind_ok (u := s.addMalloc) rfl
  apply mem_trace_bind_ok (u := s.addMalloc) rfl
  have hd : erase (TracedState.lift (deref (srGetInterface s.addMalloc.ifList interface)) :
      TouchM SrIf) s.addMalloc = .ok i s.addMalloc := by
    rw [SrInstance.addMalloc_ifList, hi]
    rfl
  apply mem_trace_bind_ok hd
  apply mem_trace_bind
  exact List.mem_map.mpr ⟨rd 14 28, by decide, rfl⟩

/-- A round of the loop over the waiting packets. -/
def giveUpRoundT (host : Platform) (req : ℕ) (packets : List SrPacket) (p : SrPacket) :
    TouchM (List SrPacket ⊕ Unit) := do
  let r ← TracedState.lift (readReq req .ip)
  let destRt ← TracedState.lift (longestPrefixSumAt host.toEnv r.ip)
  let destRt ← TracedState.lift (deref destRt)
  destHostUnreachT host p.buf destRt.interface p.len
  pure (.inl packets)

/-- What the loop does not touch. -/
def SameTables (s t : SrInstance) : Prop :=
  t.ifList = s.ifList ∧ t.routingTable = s.routingTable ∧ t.cache = s.cache

theorem giveUpRoundT_returns {t t' : SrInstance} {req : ℕ} {packets packets' : List SrPacket}
    {p : SrPacket} (hst : SameTables s t)
    (h : erase (giveUpRoundT host req packets p) t = .ok (.inl packets') t') :
    packets' = packets ∧ SameTables s t' := by
  simp only [giveUpRoundT, destHostUnreachT, erase_bind, erase_lift, erase_icmpErrorT, erase_pure,
    bind_apply] at h
  cases hr : readReq req .ip t with
  -- a round that hands on a list has come through each of its accesses
  | error e t₁ =>
    rw [hr] at h
    contradiction
  | ok r t₁ =>
    have ht₁ : SameTables s t₁ := by
      rw [readReq] at hr
      cases hf : t.cache.requests.find req with
      | none =>
        rw [hf] at hr
        contradiction
      | some x =>
        rw [hf] at hr
        obtain rfl := (EStateM.Result.ok.inj hr).2
        exact hst
    simp only [hr] at h
    cases hl : longestPrefixSumAt host.toEnv r.ip t₁ with
    | error e t₂ =>
      rw [hl] at h
      contradiction
    | ok found t₂ =>
      obtain ⟨-,rfl⟩ := longestPrefixSumAt_returns host.toEnv hl
      simp only [hl] at h
      cases found with
      | none => contradiction
      | some rt =>
        simp only [deref, pure_apply] at h
        cases he : icmpError host.toEnv .destHostUnreach 3 1 (fun ttl => ttl) p.buf rt.interface
            p.len t₂ with
        | error e t₃ =>
          rw [he] at h
          contradiction
        | ok u t₃ =>
          rw [he] at h
          obtain ⟨hp,rfl⟩ := EStateM.Result.ok.inj h
          obtain ⟨i,-,rfl⟩ := icmpError_returns host.toEnv he
          exact ⟨(Sum.inl.inj hp).symm, ht₁⟩

theorem giveUpLoopT_quoting {r : SrArpreq} (hr : r ∈ s.cache.requests.pending) (p p' : SrPacket)
    (rest : List SrPacket) :
    Leaves (fun x => ∃ rt, routeAt host.toEnv s.routingTable r.ip = some rt ∧
      Quoting s p.buf rt.interface x) (giveUpLoopT host fuel r.addr (p :: p' :: rest)) s := by
  -- every round quotes the first packet, as the list is handed on unchanged
  refine Leaves.loop (fun b t => b = p :: p' :: rest ∧ SameTables s t) ?_ ?_ fuel ⟨rfl,rfl,rfl,rfl⟩
  · rintro b t ⟨rfl,hif,htab,hc⟩
    have hr' : r ∈ t.cache.requests.pending := by
      rw [hc]
      exact hr
    refine Leaves.lift_bind fun r₁ t₁ h₁ => ?_
    rw [readReq_of_mem hr'] at h₁
    obtain ⟨rfl,rfl⟩ := EStateM.Result.ok.inj h₁
    refine Leaves.lift_bind fun found t₂ h₂ => ?_
    obtain ⟨hfound,rfl⟩ := longestPrefixSumAt_returns host.toEnv h₂
    refine Leaves.lift_bind fun rt t₃ h₃ => ?_
    rw [SrInstance.addAccess_routingTable, htab] at hfound
    cases found with
    | none => contradiction
    | some rt' =>
      obtain ⟨rfl,rfl⟩ := EStateM.Result.ok.inj h₃
      refine Leaves.bind ?_ fun _ t₄ _ => Leaves.pure _ _ t₄
      refine (icmpErrorT_quoting _ _ _ _).mono fun x hx => ⟨rt', hfound.symm, ?_⟩
      rw [Quoting, SrInstance.addAccess_ifList, hif] at hx
      exact hx
  · rintro b t b' t' ⟨rfl,hst⟩ h
    exact @giveUpRoundT_returns host s t t' r.addr (p :: p' :: rest) b' p hst h

/-- With one packet waiting the loop does not go round. -/
theorem giveUpLoopT_of_single {Q : Touch → Prop} (req : ℕ) (p : SrPacket) (s : SrInstance) :
    Leaves Q (giveUpLoopT host fuel req [p]) s := by
  refine Leaves.loop (fun b _ => b = [p]) ?_ ?_ fuel rfl
  · rintro b t rfl
    exact Leaves.pure Q _ t
  · rintro b t b' t' rfl h
    have hr : Sum.inr () = Sum.inl b' := (EStateM.Result.ok.inj h).1
    contradiction

/-- The first round of the loop quotes the first packet. -/
theorem giveUpLoopT_reads {r : SrArpreq} (hr : r ∈ s.cache.requests.pending) {rt : SrRt}
    (hrt : routeAt host.toEnv s.routingTable r.ip = some rt)
    (hi : (srGetInterface s.ifList rt.interface).isSome) (p p' : SrPacket) (rest : List SrPacket) :
    (⟨p.buf.origin, rd 14 28⟩ : Touch) ∈
      trace (giveUpLoopT host (fuel+1) r.addr (p :: p' :: rest)) s := by
  apply mem_trace_bind
  have hread : erase (TracedState.lift (readReq r.addr .ip) : TouchM SrArpreq) s =
      .ok r (s.addAccess ⟨r.addr, .ip, false, false⟩) := readReq_of_mem hr .ip
  apply mem_trace_bind_ok hread
  have hfound : erase (TracedState.lift (longestPrefixSumAt host.toEnv r.ip) :
      TouchM (Option SrRt)) (s.addAccess ⟨r.addr, .ip, false, false⟩) =
      .ok (some rt) (s.addAccess ⟨r.addr, .ip, false, false⟩) :=
    longestPrefixSumAt_of_route host.toEnv hrt
  apply mem_trace_bind_ok hfound
  apply mem_trace_bind_ok (u := s.addAccess ⟨r.addr, .ip, false, false⟩) rfl
  apply mem_trace_bind
  have hi' : (srGetInterface (s.addAccess ⟨r.addr, .ip, false, false⟩).ifList rt.interface).isSome :=
    hi
  exact icmpErrorT_reads hi' .destHostUnreach 3 1 fun ttl => ttl

/-- `handle_arpreq` touches a packet only where it gives the request up and a second packet
waits. -/
theorem handleArpreqT_quoting {r : SrArpreq} (hr : r ∈ s.cache.requests.pending)
    (destRt : Option SrRt) :
    Leaves (fun x => ∃ p p' rest rt, r.packets = p :: p' :: rest ∧ Exhausted host.toEnv s r ∧
      routeAt host.toEnv s.routingTable r.ip = some rt ∧ Quoting s p.buf rt.interface x)
      (handleArpreqT host fuel r.addr destRt) s := by
  refine Leaves.lift_bind fun now s₁ h₁ => ?_
  obtain ⟨rfl,rfl⟩ := EStateM.Result.ok.inj h₁
  refine Leaves.lift_bind fun _ s₂ h₂ => ?_
  obtain rfl := (EStateM.Result.ok.inj h₂).2
  refine Leaves.lift_bind fun r₁ s₃ h₃ => ?_
  rw [readReq_of_mem (by exact hr)] at h₃
  obtain ⟨rfl,rfl⟩ := EStateM.Result.ok.inj h₃
  refine Leaves.ite (fun hd => ?_) fun _ => Leaves.pure _ _ _
  refine Leaves.lift_bind fun r₂ s₄ h₄ => ?_
  rw [readReq_of_mem (by exact hr)] at h₄
  obtain ⟨rfl,rfl⟩ := EStateM.Result.ok.inj h₄
  have hstamp (Q : Touch → Prop) (t : SrInstance) (now : ℤ) : Leaves Q (do
      TracedState.lift (writeReq r.addr .sent fun r => { r with sent := now })
      TracedState.lift (writeReq r.addr .timesSent fun r =>
        { r with timesSent := r.timesSent+1 }) : TouchM Unit) t :=
    Leaves.lift_bind fun _ t' _ => Leaves.lift Q _ t'
  refine Leaves.ite (fun h5 => ?_) fun _ => ?_
  · refine Leaves.lift_bind fun _ s₅ h₅ => ?_
    obtain rfl := (EStateM.Result.ok.inj h₅).2
    refine Leaves.lift_bind fun r₃ s₆ h₆ => ?_
    rw [readReq_of_mem (by exact hr)] at h₆
    obtain ⟨rfl,rfl⟩ := EStateM.Result.ok.inj h₆
    refine Leaves.ite (fun hp => ?_) fun _ => ?_
    · refine Leaves.bind ?_ fun _ s₇ _ => Leaves.lift_bind fun _ t₁ _ => hstamp _ t₁ _
      -- one packet ends the loop before its first round, and more of them never end it
      match hpk : r.packets with
      | [] => exact absurd hpk hp
      | [p] =>
        exact giveUpLoopT_of_single _ p _
      | p :: p' :: rest =>
        refine (giveUpLoopT_quoting (by exact hr) p p' rest).mono ?_
        rintro x ⟨rt,hrt,hx⟩
        exact ⟨p, p', rest, rt, rfl, ⟨hd,h5⟩, hrt, hx⟩
    · refine Leaves.lift_bind fun _ t₁ _ => ?_
      exact hstamp _ t₁ _
  · refine Leaves.lift_bind fun _ s₅ _ => ?_
    refine Leaves.lift_bind fun _ t₁ _ => ?_
    exact hstamp _ t₁ _

/-- An access `packet_to_other_dest` makes to the packet, or to one that waits. -/
def OnItsWay (env : Env) (s : SrInstance) (packet : Buf) (interface : CName) (len : ℕ)
    (x : Touch) : Prop :=
  Own packet (max 34 len) x ∨ Undeliverable env s packet.mem interface ∧ Own packet 42 x ∨
    ∃ r ∈ s.cache.requests.pending, ∃ q ∈ r.packets, x.origin = q.buf.origin

theorem exhausted_queuedState {env : Env} {r : SrArpreq} {addr : ℕ} {pkts : List SrPacket}
    (h : Exhausted env (queuedState env s addr packet len interface)
      { r with packets := pkts }) : Exhausted env s r := by
  obtain ⟨-,-,-,-,-,-,ht,-⟩ := queuedState_frame env s addr packet len interface
  obtain ⟨hd,h5⟩ := h
  rw [Due, SrInstance.now, ht] at hd
  exact ⟨hd,h5⟩

theorem queueing_onItsWay {rt : SrRt} (httl : 1 < ipTtl packet.mem)
    (hrt : longestPrefixSum s.routingTable (ipDst packet.mem) = some rt)
    (hlk : srArpcacheLookup s.cache.entries (ipDst packet.mem) = none) :
    Leaves (OnItsWay host.toEnv s packet interface len) (do
      let req ← TracedState.lift
        (srArpcacheQueuereq host.toEnv (ipDst packet.mem) packet len interface)
      handleArpreqT host fuel req (some rt)
      pure (some (0 : ℤ))) s := by
  refine Leaves.lift_bind fun req s₁ h₁ => ?_
  refine Leaves.bind ?_ fun _ s₂ _ => Leaves.pure _ _ s₂
  rw [srArpcacheQueuereq_apply] at h₁
  cases hf : s.cache.requests.pending.find? (fun r => r.ip == ipDst packet.mem) with
  | none =>
    rw [hf] at h₁
    obtain ⟨rfl,rfl⟩ := EStateM.Result.ok.inj h₁
    let s' := s.setRequests (s.cache.requests.push (ipDst packet.mem))
    have hs : s'.cache.requests.pending = [] ++ ⟨s.cache.requests.fresh, ipDst packet.mem, 0, 0, []⟩ ::
        s.cache.requests.pending := rfl
    have hm := queuedState_pending host.toEnv hs packet len interface
    refine (handleArpreqT_quoting (Requests.mem_of_split hm) (some rt)).mono ?_
    -- in a request just made no second packet waits
    rintro x ⟨p,p',rest,-,hpk,-⟩
    have hlen := congrArg List.length hpk
    simp only [queuedCopies, List.append_nil] at hlen
    split at hlen <;> simp at hlen
  | some r₀ =>
    rw [hf] at h₁
    obtain ⟨rfl,rfl⟩ := EStateM.Result.ok.inj h₁
    obtain ⟨hip,pre,post,hs,-⟩ := List.find?_eq_some_iff_append.mp hf
    have hip' : r₀.ip = ipDst packet.mem := by simpa using hip
    have hm := queuedState_pending host.toEnv hs packet len interface
    obtain ⟨hif,htab,-⟩ := queuedState_frame host.toEnv s r₀.addr packet len interface
    refine (handleArpreqT_quoting (Requests.mem_of_split hm) (some rt)).mono ?_
    rintro x ⟨p,p',rest,rt',hpk,hx,hrt',hq⟩
    by_cases hl : len = 0
    · -- an empty packet is not queued: the first one waited before
      rw [queuedCopies, if_neg (not_not.mpr hl)] at hpk
      have hp : p ∈ r₀.packets := hpk ▸ List.mem_cons_self
      exact Or.inr (Or.inr ⟨r₀, Requests.mem_of_split hs, p, hp, hq.origin⟩)
    · rw [queuedCopies, if_pos hl] at hpk
      obtain ⟨rfl,hrest⟩ := List.cons.inj hpk
      rcases hq with hq | ⟨hi,hq⟩
      · exact Or.inl (hq.mono (le_max_left _ _))
      · rw [htab, hip'] at hrt'
        rw [hif] at hi
        have hne : r₀.packets ≠ [] := by
          rintro h0
          rw [h0] at hrest
          contradiction
        exact Or.inr (Or.inl ⟨Undeliverable.givenUp httl hrt hlk hf hne
          (exhausted_queuedState hx) hrt' hi, hq⟩)

theorem packetToOtherDestT_onItsWay :
    Leaves (OnItsWay host.toEnv s packet interface len)
      (packetToOtherDestT host fuel packet interface len) s := by
  have hspans {spans : List Span} (h : ∀ y ∈ spans, y.off+y.size ≤ 34) :
      ∀ x ∈ spans.map fun y => (⟨packet.origin, y⟩ : Touch),
        OnItsWay host.toEnv s packet interface len x :=
    fun x hx => Or.inl ((own_of_spans h x hx).mono (le_max_left _ _))
  have herror (hu : (srGetInterface s.ifList interface).isSome →
      Undeliverable host.toEnv s packet.mem interface) (emitter : Emitter) (type code : UInt8)
      (ttl : UInt8 → UInt8) : Leaves (OnItsWay host.toEnv s packet interface len)
        (icmpErrorT host emitter type code ttl packet interface len) s := by
    refine (icmpErrorT_quoting emitter type code ttl).mono ?_
    rintro x (hx | ⟨hi,hx⟩)
    · exact Or.inl (hx.mono (le_max_left _ _))
    · exact Or.inr (Or.inl ⟨hu hi, hx⟩)
  refine Leaves.note_bind (hspans (by decide)) ?_
  refine Leaves.ite (fun httl => ?_) fun httl => ?_
  · exact Leaves.bind (herror (Undeliverable.expired httl) _ _ _ _) fun _ s₁ _ => Leaves.pure _ _ s₁
  -- the decrement of `ip_ttl` and the two checksums stay inside the IP header
  have httl' : 1 < ipTtl packet.mem := by simpa using httl
  refine Leaves.lift_bind fun u s₁ hs₁ => ?_
  obtain ⟨rfl,rfl⟩ := EStateM.Result.ok.inj hs₁
  refine Leaves.note_bind (hspans (by decide)) ?_
  cases hrt : longestPrefixSum s.routingTable (ipDst packet.mem) with
  | none =>
    exact Leaves.bind (herror (Undeliverable.noRoute httl' hrt) _ _ _ _)
      fun _ s₁ _ => Leaves.pure _ _ s₁
  | some rt =>
    refine Leaves.note_bind (hspans (by decide)) ?_
    cases hlk : srArpcacheLookup s.cache.entries (ipDst packet.mem) with
    | none =>
      refine Leaves.note_bind (fun x hx => Or.inl (own_of_spans ?_ x hx))
        (queueing_onItsWay httl' hrt hlk)
      split
      · simp [rd]
      · simp [rd]
    | some e =>
      refine Leaves.lift_bind fun i s₂ h₂ => ?_
      refine Leaves.note_bind (hspans (by decide)) ?_
      refine Leaves.silent_bind (erase_printHdrs _ _)
        ((printHdrs_own _ len s₂).mono fun x hx => Or.inl ⟨hx.1, hx.2.trans (le_max_right _ _)⟩) ?_
      refine Leaves.bind ?_ fun _ s₃ _ => Leaves.pure _ _ s₃
      exact (srSendPacketT_own host _ _ len _ s₂).mono
        fun x hx => Or.inl ⟨hx.1, hx.2.trans (le_max_right _ _)⟩

/-- No packet in sight stems from the `t`-th frame. -/
def OtherFrames (t : ℕ) : SrInstance × List SrPacket → Prop :=
  Router.Traced t (fun _ => False) (fun _ => True)

theorem OtherFrames.moves {env : Env} {t : ℕ} {c c' : SrInstance × List SrPacket} (h : OtherFrames t c)
    (hm : Moves env c c') : OtherFrames t c' := by
  have hpq : Hereditary env (fun _ => False) fun _ => True :=
    ⟨fun _ _ _ h => h, fun _ _ _ _ _ _ => trivial, fun _ _ _ _ => trivial, fun _ _ => trivial⟩
  exact invariant_of_run (fun _ _ hm => hm.traced hpq) hm h

theorem OtherFrames.not_waiting {t : ℕ} {c : SrInstance × List SrPacket} (h : OtherFrames t c)
    {x : Touch}
    (hx : ∃ r ∈ c.1.cache.requests.pending, ∃ q ∈ r.packets, x.origin = q.buf.origin) :
    x.origin ≠ t := by
  obtain ⟨r,hr,q,hq,he⟩ := hx
  rw [he]
  exact h.waiting r hr q hq

/-- While the packets of an answered request are sent, other frames are left alone. -/
theorem flushPacketsT_others {t : ℕ} {packets : List SrPacket} (h : OtherFrames t (s, packets)) :
    Leaves (fun x => x.origin ≠ t) (flushPacketsT host fuel interface packets) s := by
  induction packets generalizing s with
  | nil => exact Leaves.pure _ _ s
  | cons p rest ih =>
    refine Leaves.bind ?_ fun ret s₁ h₁ => ?_
    · refine packetToOtherDestT_onItsWay.mono ?_
      have hp : p.buf.origin ≠ t := h.hand p List.mem_cons_self
      rintro x (hx | ⟨-,hx⟩ | hx)
      · rw [hx.1]
        exact hp
      · rw [hx.1]
        exact hp
      · exact h.not_waiting hx
    · rw [erase_packetToOtherDestT] at h₁
      exact ih (h.moves (packetToOtherDest_returns h₁).moves)

end Accesses

/-- An access, if it is one to the `t`-th frame, is within the first `len` bytes. -/
def Inside (t len : ℕ) (x : Touch) : Prop := x.origin = t → x.span.off+x.span.size ≤ len

section Sufficient

variable {host : Platform} {fuel : ℕ} {packet : Buf} {interface : CName} {len : ℕ} {s s' : SrInstance}

theorem Own.inside {n : ℕ} {x : Touch} (h : Own packet n x) (hn : n ≤ len) (t : ℕ) :
    Inside t len x := fun _ => h.2.trans hn

theorem printFirst_others {t : ℕ} {packets : List SrPacket} (h : OtherFrames t (s, packets))
    (s' : SrInstance) : Leaves (fun x => x.origin ≠ t) (printFirst packets) s' := by
  cases packets with
  | nil => exact Leaves.pure _ _ s'
  | cons p rest =>
    refine (printHdrs_own p.buf p.len s').mono fun x hx => ?_
    rw [hx.1]
    exact h.hand p List.mem_cons_self

theorem arpPacketT_inside {t : ℕ} (hf : OtherFrames t (s, [])) (h : 42 ≤ len) :
    Leaves (Inside t len) (arpPacketT host fuel packet interface len) s := by
  have hspans {spans : List Span} (h' : ∀ y ∈ spans, y.off+y.size ≤ 42) :
      ∀ x ∈ spans.map fun y => (⟨packet.origin, y⟩ : Touch), Inside t len x :=
    fun x hx => (own_of_spans h' x hx).inside h t
  refine Leaves.lift_bind fun u s₁ hs₁ => ?_
  obtain ⟨rfl,rfl⟩ := EStateM.Result.ok.inj hs₁
  refine Leaves.note_bind (hspans (by decide)) ?_
  refine Leaves.lift_bind fun i s₂ hs₂ => ?_
  have hs₂' : s₂ = s := by
    cases hi : srGetInterface s.ifList interface with
    | none =>
      rw [hi] at hs₂
      contradiction
    | some j =>
      rw [hi] at hs₂
      exact (EStateM.Result.ok.inj hs₂).2.symm
  subst hs₂'
  refine Leaves.ite (fun _ => ?_) fun _ => Leaves.pure _ _ s₂
  refine Leaves.note_bind (hspans (by decide)) ?_
  refine Leaves.ite (fun _ => ?_) fun _ => ?_
  · refine Leaves.silent_bind (erase_printHdrs _ _)
      ((printHdrs_own packet len s₂).mono fun x hx => hx.inside le_rfl t) ?_
    refine Leaves.note_bind (hspans (by decide)) ?_
    refine Leaves.bind ?_ fun _ s₃ _ => Leaves.pure _ _ s₃
    exact (srSendPacketT_own host _ _ len interface s₂).mono fun x hx => hx.inside le_rfl t
  · refine Leaves.note_bind (hspans (by decide)) ?_
    refine Leaves.ite (fun _ => ?_) fun _ => Leaves.pure _ _ s₂
    refine Leaves.note_bind (hspans (by decide)) ?_
    refine Leaves.note_bind (hspans ?_) ?_
    · split <;> decide
    refine Leaves.lift_bind fun request s₃ hs₃ => ?_
    rw [srArpcacheInsert_apply] at hs₃
    obtain ⟨rfl,rfl⟩ := EStateM.Result.ok.inj hs₃
    -- what waited for the sender leaves now, none of it from this frame
    have hm : OtherFrames t (insertedState host.toEnv (arSha packet.mem) (arSip packet.mem) s₂,
        waitingFor s₂ (arSip packet.mem)) :=
      hf.moves (Relation.ReflTransGen.single (Move.inserted s₂ _ _))
    cases hreq : s₂.cache.requests.pending.find? (fun r => r.ip == arSip packet.mem) with
    | none => exact Leaves.pure _ _ _
    | some r =>
      rw [waitingFor, hreq] at hm
      have hother (x : Touch) (hx : x.origin ≠ t) : Inside t len x := fun h' => absurd h' hx
      refine Leaves.silent_bind (erase_printFirst _) ((printFirst_others hm _).mono hother) ?_
      refine Leaves.bind ((flushPacketsT_others hm).mono hother) fun _ s₄ _ => ?_
      exact Leaves.lift _ _ s₄

theorem validateChecksumT_own (packet : Buf) (s : SrInstance) :
    Leaves (Own packet 34) (validateChecksumT packet) s := by
  refine Leaves.note_bind (own_of_spans (by decide)) ?_
  refine Leaves.ite (fun _ => Leaves.pure _ _ s) fun _ => ?_
  refine Leaves.ite (fun _ => ?_) fun _ => Leaves.pure _ _ s
  refine Leaves.note_bind (own_of_spans (by decide)) ?_
  exact Leaves.ite (fun _ => Leaves.pure _ _ s) fun _ => touch_own (by decide) s

/-- An accepted packet, its checksum back in place. -/
theorem ipPacketT_inside {t : ℕ} (hf : OtherFrames t (s, []))
    (hecho : Echoed s packet.mem len interface → 38 ≤ len)
    (hquote : Quoted host.toEnv s packet.mem len interface → 42 ≤ len) :
    Leaves (Inside t len) (ipPacketT host fuel packet interface len) s := by
  refine Leaves.ite (fun _ => Leaves.pure _ _ s) fun hv => ?_
  have hv' : validateIP packet.mem len = 0 := not_not.mp hv
  have h34 : 34 ≤ len := by
    rw [validateIP] at hv'
    split at hv'
    · contradiction
    · exact Nat.not_lt.mp ‹_›
  have hspans {spans : List Span} (h' : ∀ y ∈ spans, y.off+y.size ≤ 34) :
      ∀ x ∈ spans.map fun y => (⟨packet.origin, y⟩ : Touch), Inside t len x :=
    fun x hx => (own_of_spans h' x hx).inside h34 t
  have hprint : Leaves (Inside t len) (printHdrs packet len) s :=
    (printHdrs_own packet len s).mono fun x hx => hx.inside le_rfl t
  have hvalidate : Leaves (Inside t len) (validateChecksumT packet) s :=
    (validateChecksumT_own packet s).mono fun x hx => hx.inside h34 t
  refine Leaves.silent_bind (erase_validateChecksumT _) hvalidate ?_
  cases hc : (validateChecksum packet.mem len).1 with
  | none => exact Leaves.lift _ _ s
  | some wrong =>
    refine Leaves.ite (fun _ => Leaves.pure _ _ s) fun hw => ?_
    have hw' : wrong = 0 := not_not.mp hw
    subst hw'
    have ha : Accepted packet.mem len := ⟨hv',hc⟩
    rw [validateChecksum_restores hc]
    refine Leaves.lift_bind fun u s₁ hs₁ => ?_
    obtain ⟨rfl,rfl⟩ := EStateM.Result.ok.inj hs₁
    refine Leaves.note_if (hspans (by decide)) ?_
    -- up to here the frame is read within the 34 bytes of its two headers
    cases hl : ipPacketRouterCheck s.ifList packet.mem with
    | some w =>
      have hloc : Local s packet.mem := by
        rw [Local, hl]
        rfl
      refine Leaves.silent_bind (erase_printHdrs _ _) hprint ?_
      refine Leaves.note_bind (hspans (by decide)) ?_
      refine Leaves.ite (fun h1 => ?_) fun _ => ?_
      · refine (echoReplyT_own (fun hi => hecho ⟨ha,hloc,h1,hi⟩) h34).mono fun x hx => ?_
        exact hx.inside le_rfl t
      · refine Leaves.ite (fun h2 => ?_) fun _ => Leaves.pure _ _ s
        refine (icmpErrorT_quoting _ _ _ _).mono ?_
        rintro x (hx | ⟨hi,hx⟩)
        · exact hx.inside h34 t
        · exact hx.inside (hquote (Quoted.unreachable ha hloc h2 hi)) t
    | none =>
      have hloc : ¬Local s packet.mem := by
        rw [Local, hl]
        exact Bool.false_ne_true
      refine Leaves.silent_bind (erase_printHdrs _ _) hprint ?_
      refine Leaves.silent_bind (erase_validateChecksumT _) hvalidate ?_
      rw [validateChecksum_restores hc]
      refine Leaves.bind ?_ fun _ s₃ _ => Leaves.pure _ _ s₃
      refine packetToOtherDestT_onItsWay.mono ?_
      rintro x (hx | ⟨hu,hx⟩ | hx)
      · exact hx.inside (max_le h34 le_rfl) t
      · exact hx.inside (hquote (Quoted.inTransit ha hloc hu)) t
      -- what waits stems from other frames
      · intro he
        exact absurd he (hf.not_waiting hx)

/-- A frame that is long enough is handled within its bounds. -/
theorem srHandlepacketT_inside {t : ℕ} (hf : OtherFrames t (s, []))
    (h : LongEnough host.toEnv s packet.mem len interface) :
    Leaves (Inside t len) (srHandlepacketT host fuel packet len interface) s := by
  have hsmall : ∀ x ∈ [rd 12 2].map fun y => (⟨packet.origin, y⟩ : Touch), Inside t len x :=
    fun x hx => (own_of_spans (by decide) x hx).inside h.ethernet t
  refine Leaves.note_bind hsmall ?_
  refine Leaves.ite (fun ha => arpPacketT_inside hf (h.arp ha)) fun _ => ?_
  exact Leaves.ite (fun _ => ipPacketT_inside hf h.echo h.quote) fun _ => Leaves.pure _ _ s

end Sufficient

section Arrival

variable {env : Env} {m : Mem} {interface : CName} {len : ℕ} {s : SrInstance}

theorem undeliverable_addArrival :
    Undeliverable env s.addArrival m interface ↔ Undeliverable env s m interface := by
  constructor <;> rintro (⟨h₁,h₂⟩ | ⟨h₁,h₂,h₃⟩ | ⟨h₁,h₂,h₃,h₄,h₅,h₆,h₇,h₈⟩)
  · exact Undeliverable.expired h₁ h₂
  · exact Undeliverable.noRoute h₁ h₂ h₃
  · exact Undeliverable.givenUp h₁ h₂ h₃ h₄ h₅ h₆ h₇ h₈
  · exact Undeliverable.expired h₁ h₂
  · exact Undeliverable.noRoute h₁ h₂ h₃
  · exact Undeliverable.givenUp h₁ h₂ h₃ h₄ h₅ h₆ h₇ h₈

theorem quoted_addArrival :
    Quoted env s.addArrival m len interface ↔ Quoted env s m len interface := by
  constructor <;> rintro (⟨h₁,h₂,h₃,h₄⟩ | ⟨h₁,h₂,h₃⟩)
  · exact Quoted.unreachable h₁ h₂ h₃ h₄
  · exact Quoted.inTransit h₁ h₂ (undeliverable_addArrival.mp h₃)
  · exact Quoted.unreachable h₁ h₂ h₃ h₄
  · exact Quoted.inTransit h₁ h₂ (undeliverable_addArrival.mpr h₃)

/-- A frame that holds every header the router reads. -/
theorem LongEnough.of_le (h : 42 ≤ len) : LongEnough env s m len interface where
  ethernet := by omega
  arp _ := h
  echo _ := by omega
  quote _ := h

/-- That the frame has arrived changes nothing it is handled by. -/
theorem LongEnough.addArrival (h : LongEnough env s m len interface) :
    LongEnough env s.addArrival m len interface where
  ethernet := h.ethernet
  arp := h.arp
  echo he := h.echo ⟨he.accepted, he.isLocal, he.icmp, he.iface⟩
  quote hq := h.quote (quoted_addArrival.mp hq)

/-- The frame on its way in is not yet among what the router holds. -/
theorem Tagged.otherFrames (h : Tagged (s, [])) : OtherFrames s.log.arrivals (s.addArrival, []) where
  arrived := Nat.lt_succ_self _
  waiting := fun r hr p hp he => absurd he (h.waiting r hr p hp).ne
  hand := by simp
  sends := fun _ _ _ => trivial

theorem LongEnough.staysInside {host : Platform} {frame : List UInt8} {slack : Mem}
    (ht : Tagged (s, []))
    (h : LongEnough host.toEnv s (load frame slack) frame.length interface) :
    StaysInside host s frame slack interface := by
  intro fuel
  refine Leaves.lift_bind (P := Inside s.log.arrivals frame.length) fun packet s₁ hs₁ => ?_
  obtain ⟨rfl,rfl⟩ := EStateM.Result.ok.inj hs₁
  exact srHandlepacketT_inside ht.otherFrames h.addArrival

end Arrival

/-! The accesses that need the length. -/
section Necessary

variable {host : Platform} {fuel : ℕ} {packet : Buf} {interface : CName} {len : ℕ} {s : SrInstance}

theorem handleArpreqT_reads {r : SrArpreq} (hr : r ∈ s.cache.requests.pending) {p p' : SrPacket}
    {rest : List SrPacket} (hpk : r.packets = p :: p' :: rest) (hx : Exhausted host.toEnv s r)
    {rt : SrRt} (hrt : routeAt host.toEnv s.routingTable r.ip = some rt)
    (hi : (srGetInterface s.ifList rt.interface).isSome) (destRt : Option SrRt) :
    (⟨p.buf.origin, rd 14 28⟩ : Touch) ∈
      trace (handleArpreqT host (fuel+1) r.addr destRt) s := by
  obtain ⟨hd,h5⟩ := hx
  have hread {t : SrInstance} (ht : r ∈ t.cache.requests.pending) (field : ArpreqField) :
      erase (TracedState.lift (readReq r.addr field) : TouchM SrArpreq) t =
        .ok r (t.addAccess ⟨r.addr, field, false, false⟩) := readReq_of_mem ht field
  have hloop (t : SrInstance) (ht : r ∈ t.cache.requests.pending)
      (htab : t.routingTable = s.routingTable) (hif : t.ifList = s.ifList) :
      (⟨p.buf.origin, rd 14 28⟩ : Touch) ∈
        trace (giveUpLoopT host (fuel+1) r.addr r.packets) t := by
    rw [← htab] at hrt
    rw [← hif] at hi
    rw [hpk]
    exact giveUpLoopT_reads ht hrt hi p p' rest
  have hnote (t : SrInstance) (e : ArpEvent) : erase (TracedState.lift (modify fun s => s.addArp e) :
      TouchM Unit) t = .ok () (t.addArp e) := rfl
  -- what comes before the loop ends well, so the loop is reached
  apply mem_trace_bind_ok (u := s.addTime) rfl
  apply mem_trace_bind_ok (hnote _ _)
  apply mem_trace_bind_ok (hread (by exact hr) .sent)
  have hd' : 1 < host.time s.log.times-r.sent := hd
  rw [if_pos hd']
  apply mem_trace_bind_ok (hread (by exact hr) .timesSent)
  rw [if_pos h5]
  apply mem_trace_bind_ok (hnote _ _)
  apply mem_trace_bind_ok (hread (by exact hr) .packets)
  have hne : r.packets ≠ [] := by
    rw [hpk]
    exact List.cons_ne_nil _ _
  rw [if_pos hne]
  apply mem_trace_bind
  exact hloop _ hr rfl rfl

/-- The packet that joins an exhausted request becomes the first of those that wait. -/
theorem queueing_reads (hl : len ≠ 0) {rt : SrRt} {r : SrArpreq}
    (hrt : routeAt host.toEnv s.routingTable (ipDst packet.mem) = some rt)
    (hf : s.cache.requests.pending.find? (fun r => r.ip == ipDst packet.mem) = some r)
    (hne : r.packets ≠ []) (hx : Exhausted host.toEnv s r)
    (hi : (srGetInterface s.ifList rt.interface).isSome) (destRt : Option SrRt) {α : Type}
    (f : Unit → TouchM α) :
    (⟨packet.origin, rd 14 28⟩ : Touch) ∈ trace (do
      let req ← TracedState.lift
        (srArpcacheQueuereq host.toEnv (ipDst packet.mem) packet len interface)
      let u ← handleArpreqT host (fuel+1) req destRt
      f u) s := by
  obtain ⟨hip,pre,post,hs,-⟩ := List.find?_eq_some_iff_append.mp hf
  have hip' : r.ip = ipDst packet.mem := by simpa using hip
  obtain ⟨p',rest,hpk⟩ := List.exists_cons_of_ne_nil hne
  have hm := queuedState_pending host.toEnv hs packet len interface
  obtain ⟨hif,htab,-,-,-,-,htimes,-⟩ := queuedState_frame host.toEnv s r.addr packet len interface
  generalize hs₁ : queuedState host.toEnv s r.addr packet len interface = s₁ at hm hif htab htimes
  have hq : erase (TracedState.lift (srArpcacheQueuereq host.toEnv (ipDst packet.mem) packet len
      interface) : TouchM ℕ) s = .ok r.addr s₁ := by
    rw [erase_lift, srArpcacheQueuereq_apply, hf, ← hs₁]
  -- the packet is queued in front, so it is the one the error message quotes
  apply mem_trace_bind_ok hq
  apply mem_trace_bind
  rw [queuedCopies, if_pos hl, hpk] at hm
  have hx' : Exhausted host.toEnv s₁ r := by
    rw [Exhausted, Due, SrInstance.now, htimes]
    exact hx
  rw [← htab, ← hip'] at hrt
  rw [← hif] at hi
  exact handleArpreqT_reads (Requests.mem_of_split hm) rfl hx' hrt hi destRt

theorem packetToOtherDestT_reads (hl : len ≠ 0)
    (h : Undeliverable host.toEnv s packet.mem interface) :
    (⟨packet.origin, rd 14 28⟩ : Touch) ∈
      trace (packetToOtherDestT host (fuel+1) packet interface len) s := by
  apply mem_trace_silent_bind rfl
  rcases h with ⟨httl,hi⟩ | ⟨httl,hrt,hi⟩ | ⟨httl,hrt,hlk,hf,hne,hx,hat,hi⟩
  · rw [if_pos httl]
    apply mem_trace_bind
    exact icmpErrorT_reads hi _ _ _ _
  · rw [if_neg (UInt8.not_le.mpr httl)]
    apply mem_trace_bind_ok (u := s) rfl
    apply mem_trace_silent_bind rfl
    dsimp only
    rw [hrt]
    apply mem_trace_bind
    exact icmpErrorT_reads hi _ _ _ _
  · rw [if_neg (UInt8.not_le.mpr httl)]
    apply mem_trace_bind_ok (u := s) rfl
    apply mem_trace_silent_bind rfl
    dsimp only
    rw [hrt]
    apply mem_trace_silent_bind rfl
    rw [hlk]
    apply mem_trace_silent_bind rfl
    exact queueing_reads hl hat hf hne hx hi _ _

theorem ipPacketT_reads_of_local (ha : Accepted packet.mem len) (hl : Local s packet.mem) {x : Touch}
    (h : x ∈ trace (if ipP packet.mem = 1 then echoReplyT host packet interface len
      else if ipP packet.mem = 17 ∨ ipP packet.mem = 6 then portUnreachT host packet interface len
      else pure ()) s) : x ∈ trace (ipPacketT host fuel packet interface len) s := by
  obtain ⟨w,hw⟩ := Option.isSome_iff_exists.mp hl
  rw [ipPacketT, if_neg (not_not.mpr ha.1)]
  apply mem_trace_silent_bind (erase_validateChecksumT _)
  simp only [ha.2, validateChecksum_restores ha.2, ne_eq, not_true_eq_false, if_false]
  apply mem_trace_bind_ok (u := s) rfl
  apply mem_trace_note_if
  rw [hw]
  apply mem_trace_silent_bind (erase_printHdrs _ _)
  exact mem_trace_silent_bind rfl h

theorem ipPacketT_reads_of_transit (ha : Accepted packet.mem len) (hl : ¬Local s packet.mem)
    {x : Touch} (h : x ∈ trace (packetToOtherDestT host fuel packet interface len) s) :
    x ∈ trace (ipPacketT host fuel packet interface len) s := by
  have hw : ipPacketRouterCheck s.ifList packet.mem = none := by
    simpa [Local] using hl
  rw [ipPacketT, if_neg (not_not.mpr ha.1)]
  apply mem_trace_silent_bind (erase_validateChecksumT _)
  simp only [ha.2, validateChecksum_restores ha.2, ne_eq, not_true_eq_false, if_false]
  apply mem_trace_bind_ok (u := s) rfl
  apply mem_trace_note_if
  rw [hw]
  apply mem_trace_silent_bind (erase_printHdrs _ _)
  apply mem_trace_silent_bind (erase_validateChecksumT _)
  exact mem_trace_bind h _

theorem ipPacketT_reads_of_quoted (h : Quoted host.toEnv s packet.mem len interface) :
    (⟨packet.origin, rd 14 28⟩ : Touch) ∈
      trace (ipPacketT host (fuel+1) packet interface len) s := by
  rcases h with ⟨ha,hl,hp,hi⟩ | ⟨ha,hl,hu⟩
  · apply ipPacketT_reads_of_local ha hl
    have h1 : ipP packet.mem ≠ 1 := by
      rcases hp with hp | hp <;> rw [hp] <;> decide
    rw [if_neg h1, if_pos hp]
    exact icmpErrorT_reads hi .portUnreach 3 3 fun ttl => ttl
  · have h34 := ((accepted_iff packet.mem len).mp ha).1
    have h0 : len ≠ 0 := by omega
    exact ipPacketT_reads_of_transit ha hl (packetToOtherDestT_reads h0 hu)

/-- The echo reply sums up the ICMP header. -/
theorem ipPacketT_reads_of_echoed (h : Echoed s packet.mem len interface) :
    (⟨packet.origin, rd 34 4⟩ : Touch) ∈ trace (ipPacketT host fuel packet interface len) s := by
  obtain ⟨ha,hl,hp,hi⟩ := h
  obtain ⟨i,hi⟩ := Option.isSome_iff_exists.mp hi
  apply ipPacketT_reads_of_local ha hl
  rw [if_pos hp]
  apply mem_trace_bind_ok (u := s) rfl
  apply mem_trace_silent_bind rfl
  have hd : erase (TracedState.lift (deref (srGetInterface s.ifList interface)) : TouchM SrIf) s =
      .ok i s := by
    rw [hi]
    rfl
  apply mem_trace_bind_ok hd
  apply mem_trace_bind
  exact List.mem_map.mpr ⟨rd 34 4, by decide, rfl⟩

/-- Whatever the interface, the target address of an ARP packet is read. -/
theorem arpPacketT_reads : (⟨packet.origin, rd 38 4⟩ : Touch) ∈
    trace (arpPacketT host fuel packet interface len) s := by
  apply mem_trace_bind_ok (u := s) rfl
  apply mem_trace_bind
  exact List.mem_map.mpr ⟨rd 38 4, by decide, rfl⟩

/-- A run that makes no access past the end of the frame shows it long enough. -/
theorem longEnough_of_reads {frame : List UInt8} {slack : Mem}
    (h : ∀ x ∈ trace (receiveT host (fuel+1) frame slack interface) s,
      x.origin = s.log.arrivals → x.span.off+x.span.size ≤ frame.length) :
    LongEnough host.toEnv s (load frame slack) frame.length interface := by
  have hreach {x : Touch} (ho : x.origin = s.log.arrivals)
      (hx : x ∈ trace (srHandlepacketT host (fuel+1) ⟨load frame slack, s.log.arrivals⟩ frame.length
        interface) s.addArrival) : x.span.off+x.span.size ≤ frame.length := by
    apply h x _ ho
    exact mem_trace_bind_ok (a := (⟨load frame slack, s.log.arrivals⟩ : Buf)) rfl hx
  have hip {x : Touch} (ho : x.origin = s.log.arrivals)
      (ha : ethertype (load frame slack) = ethertypeIp)
      (hx : x ∈ trace (ipPacketT host (fuel+1) ⟨load frame slack, s.log.arrivals⟩ interface
        frame.length) s.addArrival) : x.span.off+x.span.size ≤ frame.length := by
    apply hreach ho
    apply mem_trace_silent_bind rfl
    have hne : ethertype (load frame slack) ≠ ethertypeArp := by
      rw [ha]
      decide
    rw [if_neg hne, if_pos ha]
    exact hx
  -- each bound comes from one access that cannot be left out
  constructor
  · have hx := @hreach ⟨s.log.arrivals, rd 12 2⟩ rfl
    exact hx (mem_trace_bind (List.mem_map.mpr ⟨rd 12 2, by decide, rfl⟩) _)
  · intro ha
    apply @hreach ⟨s.log.arrivals, rd 38 4⟩ rfl
    apply mem_trace_silent_bind rfl
    rw [if_pos ha]
    exact arpPacketT_reads
  · intro he
    obtain ⟨ha,hl,hp,hi⟩ := he
    apply @hip ⟨s.log.arrivals, rd 34 4⟩ rfl ((accepted_iff _ _).mp ha).2.1
    exact ipPacketT_reads_of_echoed ⟨ha,hl,hp,hi⟩
  · intro hq
    have ha : Accepted (load frame slack) frame.length := by
      rcases hq with ⟨ha,-⟩ | ⟨ha,-⟩ <;> exact ha
    apply @hip ⟨s.log.arrivals, rd 14 28⟩ rfl ((accepted_iff _ _).mp ha).2.1
    exact ipPacketT_reads_of_quoted (quoted_addArrival.mpr hq)

end Necessary

/-- A frame is handled without an access past its end, in whatever state the router is, if and
only if it is long enough for what is done with it. -/
theorem staysInside_iff_longEnough {host : Platform} {s : SrInstance} (ht : Tagged (s, []))
    (frame : List UInt8) (slack : Mem) (interface : CName) :
    StaysInside host s frame slack interface ↔
      LongEnough host.toEnv s (load frame slack) frame.length interface := by
  constructor
  · intro h
    exact @longEnough_of_reads host 0 interface s frame slack (h 1)
  · exact fun h => h.staysInside ht

/-- The host of the small router, without a log file. -/
def quietHost : Platform := ⟨obligingHost,false⟩

theorem staysInside_iff_longEnough_smallRouter :
    StaysInside quietHost smallRouter transitFrame (fun _ => 0) eth0 ↔
      LongEnough quietHost.toEnv smallRouter (load transitFrame fun _ => 0) transitFrame.length
        eth0 :=
  staysInside_iff_longEnough smallRouter_initial.tagged transitFrame (fun _ => 0) eth0

/-- The 34 bytes of a packet whose time to live is over are quoted up to byte 42. -/
theorem expiring_frame_read_past_its_end :
    ¬StaysInside quietHost smallRouter expiringFrame (fun _ => 0) eth0 := by
  intro h
  have hx : (⟨0, rd 14 28⟩ : Touch) ∈
      trace (receiveT quietHost 1 expiringFrame (fun _ => 0) eth0) smallRouter := by
    decide +kernel
  have hle := h 1 _ hx rfl
  revert hle
  decide

end InternetCourse.Router
