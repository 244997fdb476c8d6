import InternetCourse.RouterHistory
import InternetCourse.RouterQueue
import InternetCourse.RouterTwins

/-! What an ICMP error message tells about the heap. -/
namespace InternetCourse.Router

open ByteMem StateTriple PairedRuns

/-- No packet of an answered request that is quoted when its turn comes is longer than the part
of a message that is written from the packet and the interface. -/
def FlushShort (env : Env) (interface : CName) : List SrPacket → SrInstance → Prop
  | [], _ => True
  | p :: rest, s => (Undeliverable env s p.buf.mem interface → p.len ≤ 36) ∧
    ∀ fuel ret s', packetToOtherDest env fuel p.buf interface p.len s = .ok ret s' →
      FlushShort env interface rest s'

section Flush

variable {env : Env} {heap : ℕ → Mem} {fuel : ℕ} {interface : CName} {s t : SrInstance}

theorem flushPackets_together {packets : List SrPacket} (h : Twins s t)
    (h34 : ∀ p ∈ packets, 34 ≤ p.len) (hshort : FlushShort env interface packets s) :
    Together (flushPackets env fuel interface packets s)
      (flushPackets (env.withHeap heap) fuel interface packets t) := by
  induction packets generalizing s t with
  | nil => exact h
  | cons p rest ih =>
    obtain ⟨hp,hrest⟩ := hshort
    refine Paired.bind (packetToOtherDest_together h (h34 p List.mem_cons_self) hp fuel).ran ?_
    rintro ret ret' s₁ t₁ ⟨hs₁,-,h₁⟩
    exact ih h₁ (fun q hq => h34 q (List.mem_cons_of_mem p hq)) (hrest fuel ret s₁ hs₁)

end Flush

/-! Messages that differ. -/

section Leaks

variable {env : Env} {heap : ℕ → Mem} {fuel : ℕ} {interface : CName} {s t : SrInstance}
  {packet : Buf} {len : ℕ}

theorem wire_ne {m m' : Mem} {k : ℕ} (hk : k < len) (h : m k ≠ m' k) : wire m len ≠ wire m' len := by
  intro heq
  exact h (List.map_inj_left.mp heq k (List.mem_range.mpr hk))

/-- The first round of the loop over the waiting packets sends a message about the first of
them. -/
theorem giveUpLoop_sends {r : SrArpreq} (hr : r ∈ s.cache.requests.pending) {rt : SrRt} {i : SrIf}
    (hrt : routeAt env s.routingTable r.ip = some rt)
    (hi : srGetInterface s.ifList rt.interface = some i) (p p' : SrPacket) (rest : List SrPacket) :
    ∃ n e s', giveUpLoop env (fuel+1) r.addr (p :: p' :: rest) s = .error e s' ∧
      (.destHostUnreach, wire (icmpErrorFrame 3 1 (fun ttl => ttl) (env.malloc n) p.buf.mem i)
        p.len) :: errorFrames s <:+ errorFrames s' := by
  obtain ⟨s₁,hs₁⟩ : ∃ s₁, s₁ = s.addAccess ⟨r.addr, .ip, false, false⟩ := ⟨_,rfl⟩
  have herr : errorFrames s₁ = errorFrames s := by
    rw [hs₁]
    rfl
  let c := icmpErrorCall env s₁ .destHostUnreach 3 1 (fun ttl => ttl) p.buf i rt.interface p.len
  have hround : giveUpLoop env (fuel+1) r.addr (p :: p' :: rest) s =
      giveUpLoop env fuel r.addr (p :: p' :: rest) (s₁.addMalloc.addSend c) := by
    rw [giveUpLoop_round env hr hrt hi, ← hs₁]
  -- after the first round the message is on record, whatever the others do
  rw [hround]
  cases hl : giveUpLoop env fuel r.addr (p :: p' :: rest) (s₁.addMalloc.addSend c) with
  | ok u s' => exact absurd hl (giveUpLoop_never_returns env fuel r.addr p p' rest _ s')
  | error e s' =>
    have hstart : GivingUp env r.ip (p :: p' :: rest) (s₁.addMalloc.addSend c)
        (s₁.addMalloc.addSend c) := ⟨⟨rfl,rfl⟩, rfl, rfl, [], rfl, by simp⟩
    have hr₁ : r ∈ (s₁.addMalloc.addSend c).cache.requests.pending := by
      rw [hs₁]
      exact hr
    obtain ⟨-,-,-,calls,hs,-⟩ := (giveUpLoop_keeps hr₁ fuel (p :: p' :: rest)).error hstart hl
    refine ⟨s₁.log.mallocs, e, s', rfl, ?_⟩
    have hsuffix : errorFrames (s₁.addMalloc.addSend c) <:+ errorFrames s' :=
      errorFrames_suffix ⟨calls, hs.symm⟩
    have hcall : IsIcmpError c := Or.inr (Or.inl rfl)
    rw [errorFrames_addSend hcall, SrInstance.addMalloc] at hsuffix
    rw [← herr]
    exact hsuffix

/-- A packet that joins an exhausted request with another packet waiting is quoted at once. -/
theorem queueing_sends (hl : len ≠ 0) {rt : SrRt} {r : SrArpreq} {i : SrIf}
    (hrt : routeAt env s.routingTable (ipDst packet.mem) = some rt)
    (hf : s.cache.requests.pending.find? (fun r => r.ip == ipDst packet.mem) = some r)
    (hne : r.packets ≠ []) (hx : Exhausted env s r)
    (hi : srGetInterface s.ifList rt.interface = some i) (destRt : Option SrRt) : ∃ n k e s',
      (do let req ← srArpcacheQueuereq env (ipDst packet.mem) packet len interface
          handleArpreq env (fuel+1) req destRt
          pure (some (0 : ℤ))) s = .error e s' ∧
        (.destHostUnreach, wire (icmpErrorFrame 3 1 (fun ttl => ttl) (env.malloc n)
          (queuedCopy (env.malloc k) packet len interface).buf.mem i) len) :: errorFrames s <:+
            errorFrames s' := by
  obtain ⟨hip,pre,post,hs,-⟩ := List.find?_eq_some_iff_append.mp hf
  have hip' : r.ip = ipDst packet.mem := by simpa using hip
  obtain ⟨p',rest,hpk⟩ := List.exists_cons_of_ne_nil hne
  have hm := queuedState_pending env hs packet len interface
  have herr := queuedState_errorFrames env s r.addr packet len interface
  obtain ⟨hif,htab,-,-,-,-,htimes,-⟩ := queuedState_frame env s r.addr packet len interface
  rw [bind_apply, srArpcacheQueuereq_apply, hf]
  dsimp only
  generalize queuedState env s r.addr packet len interface = s₁ at hm hif htab htimes herr ⊢
  rw [queuedCopies, if_pos hl, hpk] at hm
  let r₁ : SrArpreq :=
    { r with packets := queuedCopy (env.malloc s.log.mallocs) packet len interface :: p' :: rest }
  have hmem : r₁ ∈ s₁.cache.requests.pending := Requests.mem_of_split hm
  have hd : Due env s₁ r₁ := by
    rw [Due, SrInstance.now, htimes]
    exact hx.1
  -- the packet just queued is the first of two, so the loop quotes it, and again for ever
  have hloop := @giveUpLoop_sends env fuel (givingUpState env s₁ r₁) r₁ hmem rt i
    (by rw [← hrt, ← hip', ← htab]; rfl) (by rw [← hi, ← hif]; rfl)
    (queuedCopy (env.malloc s.log.mallocs) packet len interface) p' rest
  obtain ⟨n,e,s',hl',hsuffix⟩ := hloop
  have hpk₁ : r₁.packets ≠ [] := List.cons_ne_nil _ _
  have hgive : handleArpreq env (fuel+1) r₁.addr destRt s₁ = .error e s' := by
    rw [handleArpreq_of_giveUp env hmem hd hx.2, if_pos hpk₁, bind_apply, hl']
  refine ⟨n, s.log.mallocs, e, s', ?_, ?_⟩
  · rw [bind_apply]
    have hgive' : handleArpreq env (fuel+1) r.addr destRt s₁ = .error e s' := hgive
    rw [hgive']
  · have hstart : errorFrames (givingUpState env s₁ r₁) = errorFrames s := by
      rw [← herr]
      rfl
    rw [hstart] at hsuffix
    exact hsuffix

theorem bounced_sends {emitter : Emitter}
    (he : emitter = .timeExceeded ∨ emitter = .destHostUnreach ∨ emitter = .portUnreach)
    (type code : UInt8) (ttl : UInt8 → UInt8) {i : SrIf}
    (hi : srGetInterface s.ifList interface = some i) :
    (emitter, wire (icmpErrorFrame type code ttl (env.malloc s.log.mallocs) packet.mem i) len) ::
      errorFrames s <:+ errorFrames (finalState
        ((do icmpError env emitter type code ttl packet interface len
             pure (none : Option ℤ)) s)) := by
  rw [bind_apply, icmpError_of_some env hi]
  have hcall : IsIcmpError (icmpErrorCall env s emitter type code ttl packet i interface len) := he
  change _ <:+ errorFrames (s.addMalloc.addSend
    (icmpErrorCall env s emitter type code ttl packet i interface len))
  rw [errorFrames_addSend hcall]
  exact List.suffix_rfl

/-- The same on another heap, in a state that is alike. -/
theorem queueing_sends_alike (hl : len ≠ 0) {rt : SrRt} {r : SrArpreq} {i : SrIf}
    (hrt : routeAt env s.routingTable (ipDst packet.mem) = some rt)
    (hf : s.cache.requests.pending.find? (fun r => r.ip == ipDst packet.mem) = some r)
    (hne : r.packets ≠ []) (hx : Exhausted env s r)
    (hi : srGetInterface s.ifList rt.interface = some i) (h : Alike s t) (heap : ℕ → Mem)
    (fuel : ℕ) (destRt : Option SrRt) : ∃ n k e t',
      (do let req ← srArpcacheQueuereq (env.withHeap heap) (ipDst packet.mem) packet len interface
          handleArpreq (env.withHeap heap) (fuel+1) req destRt
          pure (some (0 : ℤ))) t = .error e t' ∧
        (.destHostUnreach, wire (icmpErrorFrame 3 1 (fun ttl => ttl) (heap n)
          (queuedCopy (heap k) packet len interface).buf.mem i) len) :: errorFrames t <:+
            errorFrames t' := by
  obtain ⟨r',hf',ho⟩ := h.find_some hf
  have hsame := sameRequest_of_outline ho
  have hne' : r'.packets ≠ [] := by
    rw [← List.length_pos_iff, hsame.count]
    exact List.length_pos_iff.mpr hne
  have hx' : Exhausted (env.withHeap heap) t r' :=
    ⟨(h.due_iff hsame).mpr hx.1, hsame.timesSent ▸ hx.2⟩
  have hrt' : routeAt (env.withHeap heap) t.routingTable (ipDst packet.mem) = some rt := by
    rw [h.routingTable]
    exact hrt
  exact queueing_sends hl hrt' hf' hne' hx' (by rw [h.ifList, hi]) destRt

/-- The copies of a packet made on the two heaps differ in byte 40 at most. -/
theorem queuedCopy_heaps (n n' : ℕ) (packet : Buf) (len : ℕ) (interface : CName) {k : ℕ}
    (hk : k ≠ 40) : (queuedCopy (blankHeap n) packet len interface).buf.mem k =
      (queuedCopy (markedHeap n') packet len interface).buf.mem k := by
  have hheap : blankHeap n k = markedHeap n' k := (if_neg hk).symm
  simp only [queuedCopy, memcpy, hheap]

/-- An undeliverable packet of more than 36 bytes is answered differently on the two heaps. -/
theorem packetToOtherDest_leaks {s₁ s₂ : SrInstance}
    (hu : Undeliverable env s packet.mem interface) (hlen : 36 < len) (h₁ : Alike s s₁)
    (h₂ : Alike s s₂) : ∃ x y, x ≠ y ∧
      x :: errorFrames s₁ <:+ errorFrames (finalState (packetToOtherDest
        (env.withHeap blankHeap) (fuel+1) packet interface len s₁)) ∧
      y :: errorFrames s₂ <:+ errorFrames (finalState (packetToOtherDest
        (env.withHeap markedHeap) (fuel+1) packet interface len s₂)) := by
  have hdiff (emitter : Emitter) (type code : UInt8) (ttl : UInt8 → UInt8) (i : SrIf) (n n' : ℕ) :
      (emitter, wire (icmpErrorFrame type code ttl (blankHeap n) packet.mem i) len) ≠
        (emitter, wire (icmpErrorFrame type code ttl (markedHeap n') packet.mem i) len) := by
    intro he
    exact wire_ne hlen (icmpErrorFrame_leaks type code ttl i (fun _ _ => rfl) (Or.inl rfl) rfl n n')
      (Prod.mk.inj he).2
  have hl : len ≠ 0 := by omega
  rcases hu with ⟨httl,hi⟩ | ⟨httl,hrt,hi⟩ | @⟨rt,rt',r,httl,hrt,hlk,hf,hne,hx,hat,hi⟩
  · obtain ⟨i,hi⟩ := Option.isSome_iff_exists.mp hi
    rw [← h₁.ifList] at hi
    have hi₂ : srGetInterface s₂.ifList interface = some i := by rw [h₂.ifList, ← h₁.ifList, hi]
    rw [packetToOtherDest_of_expired httl, packetToOtherDest_of_expired httl, timeExceeded,
      timeExceeded]
    have hb₁ := @bounced_sends (env.withHeap blankHeap) interface s₁ packet len _ (Or.inl rfl) 11 0
      (fun ttl => ttl-1) i hi
    have hb₂ := @bounced_sends (env.withHeap markedHeap) interface s₂ packet len _ (Or.inl rfl) 11 0
      (fun ttl => ttl-1) i hi₂
    refine ⟨_, _, ?_, hb₁, hb₂⟩
    exact hdiff .timeExceeded 11 0 (fun ttl => ttl-1) i s₁.log.mallocs s₂.log.mallocs
  · obtain ⟨i,hi⟩ := Option.isSome_iff_exists.mp hi
    have hrt₁ : longestPrefixSum s₁.routingTable (ipDst packet.mem) = none := by
      rw [h₁.routingTable, hrt]
    have hrt₂ : longestPrefixSum s₂.routingTable (ipDst packet.mem) = none := by
      rw [h₂.routingTable, hrt]
    rw [← h₁.ifList] at hi
    have hi₂ : srGetInterface s₂.ifList interface = some i := by rw [h₂.ifList, ← h₁.ifList, hi]
    rw [packetToOtherDest_of_noRoute httl hrt₁, packetToOtherDest_of_noRoute httl hrt₂,
      destHostUnreach, destHostUnreach]
    have hb₁ := @bounced_sends (env.withHeap blankHeap) interface s₁ packet len _
      (Or.inr (Or.inl rfl)) 3 1 (fun ttl => ttl) i hi
    have hb₂ := @bounced_sends (env.withHeap markedHeap) interface s₂ packet len _
      (Or.inr (Or.inl rfl)) 3 1 (fun ttl => ttl) i hi₂
    refine ⟨_, _, ?_, hb₁, hb₂⟩
    exact hdiff .destHostUnreach 3 1 (fun ttl => ttl) i s₁.log.mallocs s₂.log.mallocs
  · obtain ⟨i,hi⟩ := Option.isSome_iff_exists.mp hi
    have hrt₁ : longestPrefixSum s₁.routingTable (ipDst packet.mem) = some rt := by
      rw [h₁.routingTable, hrt]
    have hrt₂ : longestPrefixSum s₂.routingTable (ipDst packet.mem) = some rt := by
      rw [h₂.routingTable, hrt]
    have hlk₁ : srArpcacheLookup s₁.cache.entries (ipDst packet.mem) = none := by
      rw [h₁.entries, hlk]
    have hlk₂ : srArpcacheLookup s₂.cache.entries (ipDst packet.mem) = none := by
      rw [h₂.entries, hlk]
    obtain ⟨n₁,k₁,e₁,t₁,ht₁,hsuffix₁⟩ :=
      queueing_sends_alike hl hat hf hne hx hi h₁ blankHeap fuel (some rt)
    obtain ⟨n₂,k₂,e₂,t₂,ht₂,hsuffix₂⟩ :=
      queueing_sends_alike hl hat hf hne hx hi h₂ markedHeap fuel (some rt)
    rw [packetToOtherDest_of_miss httl hrt₁ hlk₁, packetToOtherDest_of_miss httl hrt₂ hlk₂, ht₁, ht₂]
    refine ⟨_, _, ?_, hsuffix₁, hsuffix₂⟩
    intro he
    -- the quoted copy may end in bytes of the heap as well
    refine wire_ne hlen (icmpErrorFrame_leaks 3 1 (fun ttl => ttl) i (fun k hk => ?_) ?_ ?_ n₁ n₂)
      (Prod.mk.inj he).2
    · exact queuedCopy_heaps k₁ k₂ packet len interface hk.ne
    · by_cases h40 : 40 < len
      · exact Or.inl ((queuedCopy_mem _ _ _ _ h40).trans (queuedCopy_mem _ _ _ _ h40).symm)
      · exact Or.inr ⟨if_neg (by omega), if_neg (by omega)⟩
    · exact queuedCopy_heaps k₁ k₂ packet len interface (by decide)

/-- Fuel that lets the call return lets it return the same way wherever there is some. -/
theorem handleArpreq_refuel {r : SrArpreq} (hr : r ∈ s.cache.requests.pending)
    {destRt : Option SrRt} (h : handleArpreq env fuel r.addr destRt s = .ok () t) {fuel' : ℕ}
    (hf : 0 < fuel') : handleArpreq env fuel' r.addr destRt s = .ok () t := by
  cases handleArpreq_returns env hr h with
  | notDue hd => exact handleArpreq_of_not_due env hr hd fuel' destRt
  | retried hd hx hrt hi =>
    subst hrt
    exact handleArpreq_of_retry env hr hd (Nat.not_le.mpr hx) hi fuel'
  | gaveUp hd hx hp => exact handleArpreq_giveUp_of_single env hr hd hx hp destRt hf

theorem packetToOtherDest_refuel {ret : Option ℤ}
    (h : packetToOtherDest env fuel packet interface len s = .ok ret t) {fuel' : ℕ}
    (hf : 0 < fuel') : packetToOtherDest env fuel' packet interface len s = .ok ret t := by
  cases routeWay s packet.mem with
  | expired ht =>
    rw [packetToOtherDest_of_expired ht] at h ⊢
    exact h
  | noRoute ht hrt =>
    rw [packetToOtherDest_of_noRoute ht hrt] at h ⊢
    exact h
  | unlisted ht hrt hlk hi =>
    rw [packetToOtherDest_of_unlisted ht hrt hlk hi] at h
    contradiction
  | hit ht hrt hlk hi =>
    rw [packetToOtherDest_of_hit ht hrt hlk hi] at h ⊢
    exact h
  | @miss rt ht hrt hlk =>
    obtain ⟨r,s₁,hq,henq⟩ :=
      srArpcacheQueuereq_returns env (ipDst packet.mem) packet len interface s
    rw [packetToOtherDest_of_miss ht hrt hlk, bind_apply, hq] at h ⊢
    dsimp only at h ⊢
    rw [bind_apply] at h ⊢
    -- only the loop of `handle_arpreq` uses fuel, and one that returns has used none
    cases hh : handleArpreq env fuel r.addr (some rt) s₁ with
    | error e s₂ =>
      rw [hh] at h
      contradiction
    | ok u s₂ =>
      rw [hh] at h
      rw [handleArpreq_refuel henq.mem hh hf]
      exact h

/-- What a packet makes the router send stays on record while the others are sent. -/
theorem flushPackets_suffix (env : Env) (fuel : ℕ) (interface : CName) (p : SrPacket)
    (rest : List SrPacket) (s : SrInstance) :
    errorFrames (finalState (packetToOtherDest env fuel p.buf interface p.len s)) <:+
      errorFrames (finalState (flushPackets env fuel interface (p :: rest) s)) := by
  rw [flushPackets, bind_apply]
  cases hp : packetToOtherDest env fuel p.buf interface p.len s with
  | error e s₁ => exact List.suffix_rfl
  | ok ret s₁ =>
    apply errorFrames_suffix
    exact (flushPackets_keeps (sends_preserved env s₁.log.sends) (fun _ _ => trivial) fuel
      interface).finalState List.suffix_rfl

theorem ne_of_suffix {α : Type} {x y : α} {l m n : List α} (hxy : x ≠ y) (hm : x :: l <:+ m)
    (hn : y :: l <:+ n) : m ≠ n := by
  rintro rfl
  have h := List.suffix_of_suffix_length_le hm hn le_rfl
  exact hxy (List.cons.inj (h.eq_of_length rfl)).1

/-- Where the condition fails, the two heaps show in what is sent. -/
theorem flushPackets_leaks {packets : List SrPacket} {s₁ s₂ : SrInstance} (h₁ : Twins s s₁)
    (h₂ : Twins s s₂) (h34 : ∀ p ∈ packets, 34 ≤ p.len)
    (hlong : ¬FlushShort env interface packets s) :
    errorFrames (finalState (flushPackets (env.withHeap blankHeap) (fuel+1) interface packets s₁)) ≠
      errorFrames (finalState
        (flushPackets (env.withHeap markedHeap) (fuel+1) interface packets s₂)) := by
  induction packets generalizing s s₁ s₂ with
  | nil => exact absurd trivial hlong
  | cons p rest ih =>
    by_cases hp : Undeliverable env s p.buf.mem interface → p.len ≤ 36
    · -- this packet is harmless: the two runs go on in step
      have hrest : ¬∀ fuel ret s', packetToOtherDest env fuel p.buf interface p.len s =
          .ok ret s' → FlushShort env interface rest s' := fun h => hlong ⟨hp,h⟩
      push Not at hrest
      obtain ⟨n,ret,s',hs',hlong'⟩ := hrest
      have hok := packetToOtherDest_refuel hs' (Nat.succ_pos fuel)
      have hlen := h34 p List.mem_cons_self
      have htog₁ := @packetToOtherDest_together env blankHeap _ _ _ _ _ h₁ hlen hp (fuel+1)
      have htog₂ := @packetToOtherDest_together env markedHeap _ _ _ _ _ h₂ hlen hp (fuel+1)
      rw [hok] at htog₁ htog₂
      obtain ⟨ret₁,t₁,ht₁,htwin₁⟩ := htog₁.returns
      obtain ⟨ret₂,t₂,ht₂,htwin₂⟩ := htog₂.returns
      rw [flushPackets, flushPackets, bind_apply, bind_apply, ht₁, ht₂]
      exact ih htwin₁ htwin₂ (fun q hq => h34 q (List.mem_cons_of_mem p hq)) hlong'
    · push Not at hp
      obtain ⟨hu,hlen⟩ := hp
      obtain ⟨x,y,hxy,hx,hy⟩ :=
        @packetToOtherDest_leaks env fuel interface s p.buf p.len s₁ s₂ hu hlen h₁.1 h₂.1
      rw [h₁.2] at hx
      rw [h₂.2] at hy
      exact ne_of_suffix hxy (hx.trans (flushPackets_suffix _ _ _ p rest s₁))
        (hy.trans (flushPackets_suffix _ _ _ p rest s₂))

end Leaks

/-! Events. -/

/-- The frame releases the packets of this request. -/
structure Releases (s : SrInstance) (m : Mem) (interface : CName) (r : SrArpreq) : Prop where
  arp : ethertype m = ethertypeArp
  target : ∃ i, srGetInterface s.ifList interface = some i ∧ arTip m = i.ip
  reply : ntohs (arOp m) = 2
  request : s.cache.requests.pending.find? (fun r => r.ip == arSip m) = some r

/-- What the router quotes on account of the frame is not longer than the part of a message that
is written from the packet and the interface. -/
structure ErrorsShort (env : Env) (s : SrInstance) (m : Mem) (len : ℕ) (interface : CName) :
    Prop where
  quoted : Quoted env s m len interface → len ≤ 36
  flushed : ∀ r, Releases s m interface r →
    FlushShort env interface r.packets (insertedState env (arSha m) (arSip m) s.addArrival)

/-- Whatever the heap contains, the error messages sent on account of the frame are the same,
byte for byte, as far as the handling has come on any fuel. -/
def NoLeak (env : Env) (s : SrInstance) (frame : List UInt8) (slack : Mem) (interface : CName) :
    Prop :=
  ∀ fuel heap heap', errorFrames (finalState
      (handle (env.withHeap heap) fuel (.receive frame slack interface) s)) =
    errorFrames (finalState (handle (env.withHeap heap') fuel (.receive frame slack interface) s))

section Events

variable {env : Env} {heap : ℕ → Mem} {fuel : ℕ} {interface : CName} {s : SrInstance}
  {packet : Buf} {len : ℕ}

theorem not_error_of_reply {c : SendCall} (h : c.emitter = .echoReply ∨ c.emitter = .arpPacket) :
    ¬IsIcmpError c := by
  rintro (he | he | he) <;> rcases h with h | h <;> rw [he] at h <;> contradiction

theorem ipPacket_together (hshort : Quoted env s packet.mem len interface → len ≤ 36) :
    Together (ipPacket env fuel packet interface len s)
      (ipPacket (env.withHeap heap) fuel packet interface len s) := by
  have htwins := Twins.refl s
  cases ipWay s packet.mem len with
  | rejected ha =>
    -- the drop looks neither at the heap nor at the state
    rcases ipPacket_of_not_accepted ha with hd | hd
    · rw [hd, hd]
      exact htwins
    · rw [hd, hd]
      exact rfl
  | echo ha hl h1 =>
    rw [ipPacket_of_echo ha hl h1, ipPacket_of_echo ha hl h1]
    cases hi : srGetInterface s.ifList interface with
    | none =>
      rw [echoReply_of_none env hi, echoReply_of_none _ hi]
      exact rfl
    | some i =>
      rw [echoReply_of_some env hi, echoReply_of_some _ hi]
      exact htwins.sent (not_error_of_reply (Or.inl rfl)) (not_error_of_reply (Or.inl rfl))
  | unreachable ha hl h2 =>
    rw [ipPacket_of_unreachable ha hl h2, ipPacket_of_unreachable ha hl h2]
    exact icmpError_together htwins (Or.inr (Or.inr rfl)) 3 3 _ (fun _ _ => rfl) fun hi =>
      hshort (Quoted.unreachable ha hl h2 hi)
  | ignored ha hl hp =>
    rw [ipPacket_of_ignored ha hl hp, ipPacket_of_ignored ha hl hp]
    exact htwins
  | transit ha hl =>
    have h34 := ((accepted_iff packet.mem len).mp ha).1
    rw [ipPacket_of_transit ha hl, ipPacket_of_transit ha hl]
    refine Paired.bind (packetToOtherDest_together htwins h34 ?_ fuel) fun _ _ _ _ h => h
    exact fun hu => hshort (Quoted.inTransit ha hl hu)

theorem insertedState_withHeap (mac : Six) (ip : UInt32) :
    insertedState (env.withHeap heap) mac ip s = insertedState env mac ip s := rfl

theorem arpPacket_together
    (hshort : ∀ i r, srGetInterface s.ifList interface = some i → arTip packet.mem = i.ip →
      ntohs (arOp packet.mem) = 2 →
      s.cache.requests.pending.find? (fun r => r.ip == arSip packet.mem) = some r →
      (∀ p ∈ r.packets, 34 ≤ p.len) ∧ FlushShort env interface r.packets
        (insertedState env (arSha packet.mem) (arSip packet.mem) s)) :
    Paired (fun _ _ s' t' => errorFrames t' = errorFrames s')
      (fun s' t' => errorFrames t' = errorFrames s')
      (arpPacket env fuel packet interface len s)
      (arpPacket (env.withHeap heap) fuel packet interface len s) := by
  cases arpWay s packet.mem interface with
  | unlisted hi =>
    rw [arpPacket_of_unlisted hi, arpPacket_of_unlisted hi]
    exact rfl
  | ignored hi hno =>
    rw [arpPacket_of_ignored hi hno, arpPacket_of_ignored hi hno]
    exact rfl
  | request hi htip h1 =>
    rw [arpPacket_of_request hi htip h1, arpPacket_of_request hi htip h1]
    exact ((Twins.refl s).sent (not_error_of_reply (Or.inr rfl))
      (not_error_of_reply (Or.inr rfl))).2
  | reply hi htip h2 =>
    cases hf : s.cache.requests.pending.find? (fun r => r.ip == arSip packet.mem) with
    | none =>
      rw [arpPacket_of_unasked hi htip h2 hf, arpPacket_of_unasked hi htip h2 hf,
        insertedState_withHeap]
      exact rfl
    | some r =>
      obtain ⟨h34,hflush⟩ := hshort _ r hi htip h2 hf
      rw [arpPacket_of_answered hi htip h2 hf, arpPacket_of_answered hi htip h2 hf,
        insertedState_withHeap]
      refine Paired.bind (flushPackets_together (Twins.refl _) h34 hflush) ?_
      exact fun _ _ s' t' h => h.2

theorem waiting_length (hs : QueueInv s) {ip : UInt32} {r : SrArpreq}
    (hr : s.cache.requests.pending.find? (fun r => r.ip == ip) = some r) :
    ∀ p ∈ r.packets, 34 ≤ p.len := by
  intro p hp
  exact (hs.waiting r (List.mem_of_find?_eq_some hr) p hp).len

/-- Where nothing long is quoted, no heap shows. -/
theorem ErrorsShort.together {frame : List UInt8} {slack : Mem} (hs : QueueInv s)
    (h : ErrorsShort env s (load frame slack) frame.length interface) (heap : ℕ → Mem) :
    errorFrames (finalState (handle (env.withHeap heap) fuel (.receive frame slack interface) s)) =
      errorFrames (finalState (handle env fuel (.receive frame slack interface) s)) := by
  have hquoted : Quoted env s.addArrival (load frame slack) frame.length interface →
      frame.length ≤ 36 := fun hq => h.quoted (quoted_addArrival.mp hq)
  have hpaired : Paired (fun _ _ s' t' => errorFrames t' = errorFrames s')
      (fun s' t' => errorFrames t' = errorFrames s')
      (srHandlepacket env fuel ⟨load frame slack, s.log.arrivals⟩ frame.length interface
        s.addArrival)
      (srHandlepacket (env.withHeap heap) fuel ⟨load frame slack, s.log.arrivals⟩ frame.length
        interface s.addArrival) := by
    rw [srHandlepacket, srHandlepacket]
    split_ifs with harp hip
    · apply arpPacket_together
      intro i r hi htip hop hf
      exact ⟨waiting_length hs hf, h.flushed r ⟨harp, ⟨i,hi,htip⟩, hop, hf⟩⟩
    · exact (ipPacket_together hquoted).mono (fun _ _ _ _ ht => ht.2) fun _ _ he => he
    · exact rfl
  exact hpaired.finalState (fun _ _ _ _ he => he) fun _ _ he => he

/-- Its last effects send nothing. -/
theorem finalState_bind_errorFrames {α β : Type} {x : RouterM α} {f : α → RouterM β}
    (hf : ∀ a s', errorFrames (finalState (f a s')) = errorFrames s') (s : SrInstance) :
    errorFrames (finalState ((x >>= f) s)) = errorFrames (finalState (x s)) := by
  rw [bind_apply]
  cases x s with
  | ok a s' => exact hf a s'
  | error e s' => rfl

theorem unreachable_leaks {frame : List UInt8} {slack : Mem}
    (ha : Accepted (load frame slack) frame.length) (hl : Local s (load frame slack))
    (hp : ipP (load frame slack) = 17 ∨ ipP (load frame slack) = 6)
    (hi : (srGetInterface s.ifList interface).isSome) (hlen : 36 < frame.length) :
    ¬NoLeak env s frame slack interface := by
  intro h
  obtain ⟨i,hi⟩ := Option.isSome_iff_exists.mp hi
  let packet := (received s frame slack interface).buf
  have hevent (heap : ℕ → Mem) : errorFrames (finalState
      (handle (env.withHeap heap) 1 (.receive frame slack interface) s)) =
        (.portUnreach, wire (icmpErrorFrame 3 3 (fun ttl => ttl) (heap s.log.mallocs) packet.mem i)
          frame.length) :: errorFrames s := by
    have hi' : srGetInterface s.addArrival.ifList interface = some i := hi
    rw [receive_of_accepted ha, @ipPacket_of_unreachable packet _ s.addArrival ha hl hp,
      portUnreach, icmpError_of_some _ hi']
    exact errorFrames_addSend (Or.inr (Or.inr rfl)) s.addArrival.addMalloc
  have hsame := h 1 blankHeap markedHeap
  rw [hevent, hevent] at hsame
  exact wire_ne hlen (icmpErrorFrame_leaks 3 3 _ i (fun _ _ => rfl) (Or.inl rfl) rfl _ _)
    (Prod.mk.inj (List.cons.inj hsame).1).2

theorem undeliverable_leaks {frame : List UInt8} {slack : Mem}
    (ha : Accepted (load frame slack) frame.length) (hl : ¬Local s (load frame slack))
    (hu : Undeliverable env s (load frame slack) interface) (hlen : 36 < frame.length) :
    ¬NoLeak env s frame slack interface := by
  intro h
  let packet := (received s frame slack interface).buf
  have hevent (heap : ℕ → Mem) : errorFrames (finalState
      (handle (env.withHeap heap) 1 (.receive frame slack interface) s)) =
        errorFrames (finalState (packetToOtherDest (env.withHeap heap) 1 packet interface
          frame.length s.addArrival)) := by
    rw [receive_of_transit ha hl]
    exact finalState_bind_errorFrames (fun _ _ => rfl) _
  have hsame := h 1 blankHeap markedHeap
  rw [hevent, hevent] at hsame
  obtain ⟨x,y,hxy,hx,hy⟩ := @packetToOtherDest_leaks env 0 interface s.addArrival packet _ _ _
    (undeliverable_addArrival.mpr hu) hlen
    (Alike.refl s.addArrival) (Alike.refl s.addArrival)
  exact ne_of_suffix hxy hx hy hsame

theorem quoted_leaks {frame : List UInt8} {slack : Mem}
    (hq : Quoted env s (load frame slack) frame.length interface) (hlen : 36 < frame.length) :
    ¬NoLeak env s frame slack interface := by
  cases hq with
  | unreachable ha hl hp hi => exact unreachable_leaks ha hl hp hi hlen
  | inTransit ha hl hu => exact undeliverable_leaks ha hl hu hlen

theorem flushed_leaks {frame : List UInt8} {slack : Mem} (hs : QueueInv s) {r : SrArpreq}
    (ha : Releases s (load frame slack) interface r)
    (hlong : ¬FlushShort env interface r.packets
      (insertedState env (arSha (load frame slack)) (arSip (load frame slack)) s.addArrival)) :
    ¬NoLeak env s frame slack interface := by
  intro h
  obtain ⟨harp,⟨i,hi,htip⟩,hop,hf⟩ := ha
  have hflush (heap : ℕ → Mem) : errorFrames (finalState
      (handle (env.withHeap heap) 1 (.receive frame slack interface) s)) =
        errorFrames (finalState (flushPackets (env.withHeap heap) 1 interface r.packets
          (insertedState env (arSha (load frame slack)) (arSip (load frame slack))
            s.addArrival))) := by
    have hanswered := @arpPacket_of_answered (env.withHeap heap) 1
      ⟨load frame slack, s.log.arrivals⟩ interface frame.length s.addArrival i hi htip hop r hf
    rw [receive_arp harp, hanswered]
    exact finalState_bind_errorFrames (fun _ _ => rfl) _
  have hsame := h 1 blankHeap markedHeap
  rw [hflush, hflush] at hsame
  exact flushPackets_leaks (Twins.refl _) (Twins.refl _) (waiting_length hs hf) hlong hsame

end Events

/-- The error messages sent on account of a frame tell nothing about the heap, in whatever state
the router has come to, if and only if nothing longer than 36 bytes is quoted in them. -/
theorem noLeak_iff_errorsShort {env : Env} {s₀ s : SrInstance} (h₀ : Initial s₀)
    (hrun : Run env s₀ s) (frame : List UInt8) (slack : Mem) (interface : CName) :
    NoLeak env s frame slack interface ↔
      ErrorsShort env s (load frame slack) frame.length interface := by
  have hs : QueueInv s := hrun.queueInv h₀.queueInv
  constructor
  · intro h
    constructor
    · intro hq
      by_contra hlen
      exact quoted_leaks hq (Nat.not_le.mp hlen) h
    · intro r ha
      by_contra hlong
      exact flushed_leaks hs ha hlong h
  · intro h fuel heap heap'
    exact (h.together hs heap).trans (h.together hs heap').symm

theorem noLeak_iff_errorsShort_smallRouter :
    NoLeak obligingHost smallRouter expiringFrame (fun _ => 0) eth0 ↔
      ErrorsShort obligingHost smallRouter (load expiringFrame fun _ => 0) expiringFrame.length
        eth0 :=
  noLeak_iff_errorsShort smallRouter_initial Relation.ReflTransGen.refl expiringFrame
    (fun _ => 0) eth0

/-- The same packet with 8 bytes of payload. -/
def expiringPayload : List UInt8 := expiringFrame ++ [1, 2, 3, 4, 5, 6, 7, 8]

/-- Its Time Exceeded carries byte 40 of what the heap contained, and a checksum over it. -/
theorem timeExceeded_leaks_next_mtu :
    ¬NoLeak obligingHost smallRouter expiringPayload (fun _ => 0) eth0 := by
  intro h
  have hsame := h 1 blankHeap markedHeap
  revert hsame
  decide +kernel

end InternetCourse.Router
