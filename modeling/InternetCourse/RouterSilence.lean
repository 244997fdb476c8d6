import InternetCourse.RouterReach
import InternetCourse.RouterEcho
import InternetCourse.RouterNextHop

/-! What a received frame can make the router send: nothing at all if it is dropped, and next
to nothing otherwise. -/
namespace InternetCourse.Router

open ByteMem StateTriple

/-- The frames that come to nothing. -/
inductive Dropped (s : SrInstance) (m : Mem) (len : ℕ) (interface : CName) : Prop where
  | otherType : ethertype m ≠ ethertypeArp → ethertype m ≠ ethertypeIp →
      Dropped s m len interface
  | short : ethertype m = ethertypeIp → len < sizeofEthernetHdr+sizeofIpHdr →
      Dropped s m len interface
  | corrupt : ethertype m = ethertypeIp →
      cksum (shift (put16 m 24 0) 14) sizeofIpHdr ≠ ipSum m → Dropped s m len interface
  | otherProtocol : ethertype m = ethertypeIp → Local s m → ipP m ≠ 1 → ipP m ≠ 6 →
      ipP m ≠ 17 → Dropped s m len interface
  | otherTarget : ethertype m = ethertypeArp →
      (srGetInterface s.ifList interface).map SrIf.ip ≠ some (arTip m) → Dropped s m len interface
  | otherOpcode : ethertype m = ethertypeArp → ntohs (arOp m) ≠ 1 → ntohs (arOp m) ≠ 2 →
      Dropped s m len interface

/-- From `s` to `t` at most `k` messages are sent, unless a request is given up. -/
def Modest (k : ℕ) (s t : SrInstance) : Prop :=
  ∃ calls events, t.log.sends = calls ++ s.log.sends ∧ t.log.arp = events ++ s.log.arp ∧
    (calls.length ≤ k ∨ ∃ req now, ArpEvent.giveUp req now ∈ events)

/-- A reply may send on the packets that wait for it. -/
def allowance (s : SrInstance) (m : Mem) (interface : CName) : ℕ :=
  if StoresReply s m interface then (waitingFor s (arSip m)).length else 1

variable {env : Env} {s t u : SrInstance} {j k fuel : ℕ} {interface : CName}

/-! Dropped frames. -/

theorem arpPacket_dropped {m : Mem} {origin len : ℕ}
    (h : (srGetInterface s.ifList interface).map SrIf.ip ≠ some (arTip m) ∨
      (ntohs (arOp m) ≠ 1 ∧ ntohs (arOp m) ≠ 2)) :
    finalState (arpPacket env fuel ⟨m,origin⟩ interface len s) = s := by
  have hignored {i : SrIf} (hi : srGetInterface s.ifList interface = some i) :
      arTip m ≠ i.ip ∨ ntohs (arOp m) ≠ 1 ∧ ntohs (arOp m) ≠ 2 := by
    refine h.imp_left fun hne he => hne ?_
    rw [hi, he]
    rfl
  cases hi : srGetInterface s.ifList interface with
  | none =>
    rw [arpPacket_of_unlisted hi]
    rfl
  | some i =>
    rw [@arpPacket_of_ignored env fuel ⟨m,origin⟩ interface len s i hi (hignored hi)]
    rfl

theorem ipPacket_dropped {m : Mem} {origin len : ℕ} (ht : ethertype m = ethertypeIp)
    (h : ¬Accepted m len ∨ (Local s m ∧ ipP m ≠ 1 ∧ ipP m ≠ 6 ∧ ipP m ≠ 17)) :
    finalState (ipPacket env fuel ⟨m,origin⟩ interface len s) = s := by
  by_cases ha : Accepted m len
  · obtain ⟨hloc,h1,h6,h17⟩ := h.resolve_left (not_not.mpr ha)
    rw [@ipPacket_of_ignored ⟨m,origin⟩ len s ha hloc ⟨h1,h17,h6⟩]
    rfl
  · rw [@ipPacket_of_rejected ⟨m,origin⟩ len ht ha]
    rfl

/-- All that is left of a dropped frame is that it was received. -/
theorem Dropped.finalState {frame : List UInt8} {slack : Mem}
    (h : Dropped s (load frame slack) frame.length interface) :
    finalState (handle env fuel (.receive frame slack interface) s) = s.addArrival := by
  have hrejected {len : ℕ} (hne : len < sizeofEthernetHdr+sizeofIpHdr ∨
      cksum (shift (put16 (load frame slack) 24 0) 14) sizeofIpHdr ≠ ipSum (load frame slack)) :
      ¬Accepted (load frame slack) len := by
    intro ha
    obtain ⟨hl,-,hc,-⟩ := (accepted_iff _ _).mp ha
    rcases hne with hlt | hne
    · exact absurd hl (Nat.not_le.mpr hlt)
    · exact hne hc
  cases h with
  | otherType ha hip =>
    rw [receive_other ha hip]
    rfl
  | short ht hlt =>
    rw [receive_ip ht]
    exact ipPacket_dropped ht (Or.inl (hrejected (Or.inl hlt)))
  | corrupt ht hne =>
    rw [receive_ip ht]
    exact ipPacket_dropped ht (Or.inl (hrejected (Or.inr hne)))
  | otherProtocol ht hloc h1 h6 h17 =>
    rw [receive_ip ht]
    exact ipPacket_dropped ht (Or.inr ⟨hloc,h1,h6,h17⟩)
  | otherTarget ht hne =>
    rw [receive_arp ht]
    exact arpPacket_dropped (Or.inl hne)
  | otherOpcode ht h1 h2 =>
    rw [receive_arp ht]
    exact arpPacket_dropped (Or.inr ⟨h1,h2⟩)

/-! Frames that are not dropped. -/

theorem Modest.of_same (hs : t.log.sends = s.log.sends) (ha : t.log.arp = s.log.arp) :
    Modest k s t := ⟨[], [], hs, ha, Or.inl (Nat.zero_le k)⟩

theorem Modest.one {c : SendCall} (hs : t.log.sends = c :: s.log.sends)
    (ha : t.log.arp = s.log.arp) : Modest 1 s t := ⟨[c], [], hs, ha, Or.inl le_rfl⟩

theorem Modest.mono (h : Modest j s t) (hjk : j ≤ k) : Modest k s t := by
  obtain ⟨calls,events,hs,ha,hle⟩ := h
  exact ⟨calls, events, hs, ha, hle.imp_left fun hle => hle.trans hjk⟩

theorem Modest.trans (h₁ : Modest j s t) (h₂ : Modest k t u) : Modest (j+k) s u := by
  obtain ⟨calls₁,events₁,hs₁,ha₁,h₁⟩ := h₁
  obtain ⟨calls₂,events₂,hs₂,ha₂,h₂⟩ := h₂
  refine ⟨calls₂ ++ calls₁, events₂ ++ events₁, ?_, ?_, ?_⟩
  · rw [hs₂, hs₁, List.append_assoc]
  · rw [ha₂, ha₁, List.append_assoc]
  · rcases h₁ with hle₁ | ⟨req,now,hm⟩
    · rcases h₂ with hle₂ | ⟨req,now,hm⟩
      · rw [List.length_append, add_comm]
        exact Or.inl (Nat.add_le_add hle₁ hle₂)
      · exact Or.inr ⟨req, now, List.mem_append_left _ hm⟩
    · exact Or.inr ⟨req, now, List.mem_append_right _ hm⟩

theorem Modest.bind {α β : Type} {x : RouterM α} {f : α → RouterM β}
    (hx : Modest j s (finalState (x s)))
    (hf : ∀ a t, x s = .ok a t → Modest k t (finalState (f a t))) :
    Modest (j+k) s (finalState ((x >>= f) s)) := by
  rw [bind_apply]
  cases hr : x s with
  | error e t =>
    rw [hr] at hx
    exact hx.mono (Nat.le_add_right j k)
  | ok a t =>
    rw [hr] at hx
    exact hx.trans (hf a t hr)

/-- What comes after the last message does not count. -/
theorem Modest.before {α β : Type} {x : RouterM α} {f : α → RouterM β}
    (hx : Modest k s (finalState (x s))) (hf : ∀ a t, (finalState (f a t)).log = t.log) :
    Modest k s (finalState ((x >>= f) s)) := by
  have hquiet (a : α) (t : SrInstance) : Modest 0 t (finalState (f a t)) :=
    Modest.of_same (congrArg Log.sends (hf a t)) (congrArg Log.arp (hf a t))
  exact hx.bind fun a t _ => hquiet a t

theorem icmpError_modest (emitter : Emitter) (type code : UInt8) (ttl : UInt8 → UInt8)
    (packet : Buf) (len : ℕ) :
    Modest 1 s (finalState (icmpError env emitter type code ttl packet interface len s)) := by
  cases hi : srGetInterface s.ifList interface with
  | none =>
    rw [icmpError_of_none env hi]
    exact Modest.of_same rfl rfl
  | some i =>
    rw [icmpError_of_some env hi]
    exact Modest.one rfl rfl

theorem Handled.modest {destRt : Option SrRt} {r : SrArpreq} (h : Handled env destRt s r t) :
    Modest 1 s t := by
  cases h with
  | notDue => exact ⟨[], [_], rfl, handledState_arp s r, Or.inl (Nat.zero_le 1)⟩
  | retried _ _ _ hi =>
    exact ⟨[_], [_, _], retriedState_sends s r _, retriedState_arp s r _, Or.inl le_rfl⟩
  | gaveUp =>
    exact ⟨[], [_, _], gaveUpState_sends s r, gaveUpState_arp s r, Or.inl (Nat.zero_le 1)⟩

theorem Interrupted.modest {r : SrArpreq} (h : Interrupted env s r t) : Modest 1 s t := by
  cases h with
  | retrying _ _ _ ha hs => exact ⟨[], [_, _], hs, ha, Or.inl (Nat.zero_le 1)⟩
  | givingUp _ _ _ ha hs _ =>
    exact ⟨_, [_, _], hs, ha, Or.inr ⟨r.addr, s.now env, List.mem_cons_self⟩⟩

theorem handleArpreq_modest {r : SrArpreq} (hr : r ∈ s.cache.requests.pending)
    (destRt : Option SrRt) : Modest 1 s (finalState (handleArpreq env fuel r.addr destRt s)) := by
  cases hh : handleArpreq env fuel r.addr destRt s with
  | ok a t => exact (handleArpreq_returns env hr hh).modest
  | error e t => exact (handleArpreq_fails hr hh).modest

theorem packetToOtherDest_modest (packet : Buf) (len : ℕ) :
    Modest 1 s (finalState (packetToOtherDest env fuel packet interface len s)) := by
  cases routeWay s packet.mem with
  | expired ht =>
    rw [packetToOtherDest_of_expired ht]
    exact (icmpError_modest _ _ _ _ packet len).before fun _ _ => rfl
  | noRoute ht hrt =>
    rw [packetToOtherDest_of_noRoute ht hrt]
    exact (icmpError_modest _ _ _ _ packet len).before fun _ _ => rfl
  | unlisted ht hrt he hi =>
    rw [packetToOtherDest_of_unlisted ht hrt he hi]
    exact Modest.of_same rfl rfl
  | hit ht hrt he hi =>
    rw [packetToOtherDest_of_hit ht hrt he hi]
    exact Modest.one rfl rfl
  | @miss rt ht hrt he =>
    obtain ⟨r,s₁,hq,henq⟩ :=
      srArpcacheQueuereq_returns env (ipDst packet.mem) packet len interface s
    rw [packetToOtherDest_of_miss ht hrt he, bind_apply, hq]
    -- queueing sends nothing, and what `handle_arpreq` sends is its broadcast
    have hqueued : Modest 0 s s₁ := Modest.of_same henq.sends henq.arp
    have hasked : Modest 1 s₁ (finalState (handleArpreq env fuel r.addr (some rt) s₁)) :=
      handleArpreq_modest henq.mem (some rt)
    exact hqueued.trans (hasked.before fun _ _ => rfl)

/-- Each packet of a flush is disposed of with one message at most. -/
theorem flushPackets_modest (packets : List SrPacket) :
    Modest packets.length s (finalState (flushPackets env fuel interface packets s)) := by
  induction packets generalizing s with
  | nil => exact Modest.of_same rfl rfl
  | cons p rest ih =>
    rw [flushPackets, List.length_cons, add_comm]
    exact (packetToOtherDest_modest p.buf p.len).bind fun _ t _ => ih

theorem ipPacket_modest {packet : Buf} {len : ℕ} (ht : ethertype packet.mem = ethertypeIp) :
    Modest 1 s (finalState (ipPacket env fuel packet interface len s)) := by
  cases ipWay s packet.mem len with
  | rejected ha =>
    rw [ipPacket_of_rejected ht ha]
    exact Modest.of_same rfl rfl
  | echo ha hl h1 =>
    rw [ipPacket_of_echo ha hl h1]
    cases hi : srGetInterface s.ifList interface with
    | none =>
      rw [echoReply_of_none env hi]
      exact Modest.of_same rfl rfl
    | some i =>
      rw [echoReply_of_some env hi]
      exact Modest.one rfl rfl
  | unreachable ha hl h2 =>
    rw [ipPacket_of_unreachable ha hl h2]
    exact icmpError_modest _ _ _ _ packet len
  | ignored ha hl hp =>
    rw [ipPacket_of_ignored ha hl hp]
    exact Modest.of_same rfl rfl
  | transit ha hl =>
    rw [ipPacket_of_transit ha hl]
    exact (packetToOtherDest_modest packet len).before fun _ _ => rfl

theorem allowance_of_stores {m : Mem} (h : StoresReply s m interface) :
    allowance s m interface = (waitingFor s (arSip m)).length := if_pos h

theorem allowance_of_not_stores {m : Mem} (h : ¬StoresReply s m interface) :
    allowance s m interface = 1 := if_neg h

/-- A request is answered; a reply sets free the packets that wait for it. -/
theorem arpPacket_modest {m : Mem} (origin len : ℕ) (ht : ethertype m = ethertypeArp) :
    Modest (allowance s m interface) s
      (finalState (arpPacket env fuel ⟨m,origin⟩ interface len s)) := by
  cases arpWay s m interface with
  | unlisted hi =>
    rw [arpPacket_of_unlisted hi]
    exact Modest.of_same rfl rfl
  | @ignored i hi hno =>
    rw [@arpPacket_of_ignored env fuel ⟨m,origin⟩ interface len s i hi hno]
    exact Modest.of_same rfl rfl
  | @request i hi htip h1 =>
    have hno : ¬StoresReply s m interface := by
      rintro ⟨-,h2,-⟩
      exact absurd (h1.symm.trans h2) (by decide)
    rw [@arpPacket_of_request env fuel ⟨m,origin⟩ interface len s i hi htip h1,
      allowance_of_not_stores hno]
    exact Modest.one rfl rfl
  | @reply i hi htip h2 =>
    have hst : StoresReply s m interface := by
      refine ⟨ht, h2, ?_⟩
      rw [hi, htip]
      rfl
    obtain ⟨-,-,hsends,harp,-⟩ := insertedState_frame env (arSha m) (arSip m) s
    have hinsert {k : ℕ} : Modest k s (insertedState env (arSha m) (arSip m) s) :=
      Modest.of_same hsends harp
    cases hf : s.cache.requests.pending.find? fun r => r.ip == arSip m with
    | none =>
      rw [@arpPacket_of_unasked env fuel ⟨m,origin⟩ interface len s i hi htip h2 hf]
      exact hinsert
    | some r =>
      rw [@arpPacket_of_answered env fuel ⟨m,origin⟩ interface len s i hi htip h2 r hf,
        allowance_of_stores hst, waitingFor_eq hf, ← Nat.zero_add r.packets.length]
      exact hinsert.trans ((flushPackets_modest r.packets).before fun _ _ => rfl)

theorem receive_modest (frame : List UInt8) (slack : Mem) :
    Modest (allowance s (load frame slack) interface) s
      (finalState (handle env fuel (.receive frame slack interface) s)) := by
  have harrived : Modest 0 s s.addArrival := Modest.of_same rfl rfl
  rw [← Nat.zero_add (allowance s (load frame slack) interface)]
  refine harrived.trans ?_
  by_cases ha : ethertype (load frame slack) = ethertypeArp
  · rw [receive_arp ha]
    exact arpPacket_modest (s := s.addArrival) s.log.arrivals frame.length ha
  by_cases hip : ethertype (load frame slack) = ethertypeIp
  · have hno : ¬StoresReply s (load frame slack) interface := fun hst => ha hst.1
    rw [receive_ip hip, allowance_of_not_stores hno]
    exact @ipPacket_modest env s.addArrival fuel interface ⟨load frame slack, s.log.arrivals⟩ _ hip
  · rw [receive_other ha hip]
    exact Modest.of_same rfl rfl

/-- Dropped frames make no sound and change nothing. Any other frame makes the router send one
message at most, or a reply one for each packet that waits for it, unless a request is given up
on the way; and no frame changes the interfaces or the routes. -/
theorem receive_silent_or_modest (env : Env) (fuel : ℕ) (s : SrInstance) (frame : List UInt8)
    (slack : Mem) (interface : CName) :
    let t := finalState (handle env fuel (.receive frame slack interface) s)
    (Dropped s (load frame slack) frame.length interface →
      t.log.sends = s.log.sends ∧ t.cache = s.cache) ∧
    Modest (allowance s (load frame slack) interface) s t ∧
    t.ifList = s.ifList ∧ t.routingTable = s.routingTable := by
  refine ⟨fun hd => ?_, receive_modest frame slack, handle_tables env fuel _ s⟩
  rw [hd.finalState]
  exact ⟨rfl,rfl⟩

end InternetCourse.Router
