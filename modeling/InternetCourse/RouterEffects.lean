import InternetCourse.RouterRun

/-! What each function of the router does to the state. Later modules derive their
invariants from these statements and do not unfold the functions again. -/
namespace InternetCourse.Router

open ByteMem StateTriple

namespace Requests

variable {q : Requests} {r : SrArpreq}

theorem mem_of_split {pre post : List SrArpreq} (h : q.pending = pre ++ r :: post) :
    r ∈ q.pending := by
  rw [h]
  exact List.mem_append_right pre List.mem_cons_self

/-- No other request of the queue has the address of `r`. -/
theorem addr_ne_of_split {pre post : List SrArpreq} (h : q.pending = pre ++ r :: post)
    {x : SrArpreq} (hx : x ∈ pre ++ post) : x.addr ≠ r.addr := by
  have hn := q.nodup
  rw [h, List.map_append, List.map_cons, List.nodup_middle, ← List.map_append] at hn
  have hr : r.addr ∉ (pre ++ post).map SrArpreq.addr := (List.nodup_cons.mp hn).1
  intro he
  apply hr
  rw [← he]
  exact List.mem_map_of_mem hx

theorem eq_of_addr (h : r ∈ q.pending) {r' : SrArpreq} (h' : r' ∈ q.pending)
    (he : r'.addr = r.addr) : r' = r :=
  List.inj_on_of_nodup_map q.nodup h' h he

theorem find_of_mem (h : r ∈ q.pending) : q.find r.addr = some (r, false) := by
  have hf : q.pending.find? (fun r' => r'.addr = r.addr) = some r := by
    cases hr : q.pending.find? (fun r' => r'.addr = r.addr) with
    | none => simpa using List.find?_eq_none.mp hr r h
    | some r' =>
      have he := List.find?_some hr
      rw [eq_of_addr h (List.mem_of_find?_eq_some hr) (by simpa using he)]
  simp only [find, hf]

theorem follower_append {pre post : List SrArpreq}
    (hn : ((pre ++ r :: post).map SrArpreq.addr).Nodup) :
    follower (pre ++ r :: post) r.addr = post.head?.map SrArpreq.addr := by
  induction pre with
  | nil => simp only [List.nil_append, follower, if_true]
  | cons a pre ih =>
    rw [List.cons_append, List.map_cons, List.nodup_cons] at hn
    have hne : a.addr ≠ r.addr := fun h => hn.1 (by
      rw [h]
      exact List.mem_map_of_mem (by simp))
    rw [List.cons_append, follower, if_neg hne]
    exact ih hn.2

theorem nextOf_of_split {pre post : List SrArpreq} (h : q.pending = pre ++ r :: post) :
    q.nextOf r.addr = post.head?.map SrArpreq.addr := by
  have hm := mem_of_split h
  have hn := q.nodup
  have hf : (q.pending.find? fun r' => r'.addr = r.addr).isSome := by
    rw [List.find?_isSome]
    exact ⟨r, hm, by simp⟩
  obtain ⟨r',hr'⟩ := Option.isSome_iff_exists.mp hf
  simp only [nextOf, hr']
  rw [h] at hn ⊢
  exact follower_append hn

/-- Destroying a pending request leaves the rest of the queue in order. -/
theorem destroy_pending_split {pre post : List SrArpreq} (h : q.pending = pre ++ r :: post) :
    (q.destroy r).pending = pre ++ post := by
  have hpre : ∀ a ∈ pre, ¬decide (a.addr = r.addr) = true := by
    intro a ha he
    exact addr_ne_of_split h (List.mem_append_left post ha) (of_decide_eq_true he)
  simp only [destroy_pending, unlink_pending, h]
  rw [List.eraseP_append_right _ hpre, List.eraseP_cons_of_pos (by simp)]

/-- The requests at other addresses than that of `r`. -/
theorem filter_addr_split {pre post : List SrArpreq} (h : q.pending = pre ++ r :: post) :
    (q.pending.filter fun r' => r'.addr ≠ r.addr) = pre ++ post := by
  have hkeep (l : List SrArpreq) (hl : ∀ x ∈ l, x ∈ pre ++ post) :
      l.filter (fun r' => r'.addr ≠ r.addr) = l := by
    rw [List.filter_eq_self]
    intro x hx
    have hne : x.addr ≠ r.addr := addr_ne_of_split h (hl x hx)
    simpa using hne
  rw [h, List.filter_append, List.filter_cons_of_neg (by simp),
    hkeep pre fun x hx => List.mem_append_left _ hx,
    hkeep post fun x hx => List.mem_append_right _ hx]

/-- Unlinking takes out the first request that satisfies the condition, and no other. -/
theorem unlink_pending_split {p : SrArpreq → Bool} {pre post : List SrArpreq}
    (h : q.pending = pre ++ r :: post) (hpre : ∀ a ∈ pre, p a = false) (hr : p r = true) :
    (q.unlink p).pending = pre ++ post := by
  rw [unlink_pending, h, List.eraseP_append_right _ (fun a ha => by simp [hpre a ha]),
    List.eraseP_cons_of_pos hr]

theorem not_mem_destroy (h : r ∈ q.pending) :
    ∀ r' ∈ (q.destroy r).pending, r'.addr ≠ r.addr := by
  obtain ⟨pre,post,hs⟩ := List.append_of_mem h
  intro r' hr'
  rw [destroy_pending_split hs] at hr'
  exact addr_ne_of_split hs hr'

theorem find?_destroy_pending (h : r ∈ q.pending) :
    (q.destroy r).pending.find? (fun r' => r'.addr = r.addr) = none := by
  rw [List.find?_eq_none]
  intro r' hr'
  have hne := not_mem_destroy h r' hr'
  simpa using hne

theorem find_destroy (h : r ∈ q.pending) : (q.destroy r).find r.addr = some (r, true) := by
  simp only [find, find?_destroy_pending h]
  simp

/-- Assigning to a field keeps the queue in order and touches one request. -/
theorem modify_pending_split {pre post : List SrArpreq} (h : q.pending = pre ++ r :: post)
    (f : SrArpreq → SrArpreq) :
    (q.modify r.addr f).pending = pre ++ { f r with addr := r.addr } :: post := by
  have hsame (l : List SrArpreq) (hl : ∀ a ∈ l, a.addr ≠ r.addr) :
      l.map (fun a => if a.addr = r.addr then { f a with addr := a.addr } else a) = l := by
    conv_rhs => rw [← List.map_id l]
    exact List.map_congr_left fun a ha => if_neg (hl a ha)
  have hnot : ∀ a ∈ pre ++ post, a.addr ≠ r.addr := by
    intro a ha
    exact addr_ne_of_split h ha
  simp only [modify_pending, h, List.map_append, List.map_cons, if_true]
  rw [hsame pre fun a ha => hnot a (List.mem_append_left _ ha),
    hsame post fun a ha => hnot a (List.mem_append_right _ ha)]

theorem follower_map (f : SrArpreq → SrArpreq) (hf : ∀ r, (f r).addr = r.addr)
    (l : List SrArpreq) (addr : ℕ) : follower (l.map f) addr = follower l addr := by
  induction l with
  | nil => rfl
  | cons a l ih =>
    simp only [List.map_cons, follower, hf, ih]
    cases l with
    | nil => rfl
    | cons b l => simp only [List.map_cons, List.head?_cons, Option.map_some, hf]

theorem nextOf_modify (q : Requests) (addr : ℕ) (f : SrArpreq → SrArpreq) (addr' : ℕ) :
    (q.modify addr f).nextOf addr' = q.nextOf addr' := by
  have hp (r : SrArpreq) :
      (if r.addr = addr then { f r with addr := r.addr } else r).addr = r.addr := by
    split <;> rfl
  have hd (r : SrArpreq × Option ℕ) :
      (if r.1.addr = addr then ({ f r.1 with addr := r.1.addr }, r.2) else r).1.addr = r.1.addr ∧
      (if r.1.addr = addr then ({ f r.1 with addr := r.1.addr }, r.2) else r).2 = r.2 := by
    split <;> exact ⟨rfl,rfl⟩
  simp only [nextOf, modify_pending, modify_destroyed, List.find?_map, Function.comp_def, hp,
    (hd _).1, follower_map _ hp]
  cases q.pending.find? (fun r => r.addr = addr') with
  | some r => rfl
  | none =>
    cases q.destroyed.find? (fun r => r.1.addr = addr') with
    | none => rfl
    | some r => exact (hd r).2

theorem nextOf_destroy (h : r ∈ q.pending) :
    (q.destroy r).nextOf r.addr = follower q.pending r.addr := by
  simp only [nextOf, find?_destroy_pending h]
  simp

/-- Assigning to a field of a freed object leaves the queue alone. -/
theorem modify_pending_of_not_mem {addr : ℕ} (h : ∀ r ∈ q.pending, r.addr ≠ addr)
    (f : SrArpreq → SrArpreq) : (q.modify addr f).pending = q.pending := by
  simp only [modify_pending]
  conv_rhs => rw [← List.map_id q.pending]
  exact List.map_congr_left fun a ha => if_neg (h a ha)

end Requests

variable (env : Env)

/-- The next reading of the clock. -/
def SrInstance.now (s : SrInstance) : ℤ := env.time s.log.times

theorem srSendPacket_apply (emitter : Emitter) (origin : Option ℕ) (buf : Mem) (len : ℕ)
    (iface : CName) (s : SrInstance) : srSendPacket env emitter origin buf len iface s =
      .ok (sendResult env s buf len iface)
        (s.addSend ⟨emitter, origin, buf, len, iface, sendResult env s buf len iface⟩) := rfl

/-- The call of `sr_send_packet` an ICMP error handler ends with. -/
def icmpErrorCall (s : SrInstance) (emitter : Emitter) (type code : UInt8) (ttl : UInt8 → UInt8)
    (packet : Buf) (i : SrIf) (interface : CName) (len : ℕ) : SendCall :=
  let buf := icmpErrorFrame type code ttl (env.malloc s.log.mallocs) packet.mem i
  ⟨emitter, some packet.origin, buf, len, interface, sendResult env s buf len interface⟩

/-- A message of one of the error handlers about a packet: it is as long as the packet,
and the header it carries declares 56 bytes. -/
structure ErrorAbout (c : SendCall) (packet : Buf) (len : ℕ) : Prop where
  emitter : c.emitter = .timeExceeded ∨ c.emitter = .destHostUnreach ∨ c.emitter = .portUnreach
  origin : c.origin = some packet.origin
  len : c.len = len
  declared : ntohs (ipLen c.buf) = 56

theorem icmpErrorFrame_ipLen (type code : UInt8) (ttl : UInt8 → UInt8) (buff packet : Mem)
    (i : SrIf) : ntohs (ipLen (icmpErrorFrame type code ttl buff packet i)) = 56 := by
  have h : ipLen (icmpErrorFrame type code ttl buff packet i) = htons 56 := by
    simp [ipLen, get16, icmpErrorFrame, put16, put8, memcpy, sizeofIpHdr, sizeofIcmpT3Hdr]
    decide
  rw [h]
  decide

theorem icmpErrorCall_about {emitter : Emitter}
    (he : emitter = .timeExceeded ∨ emitter = .destHostUnreach ∨ emitter = .portUnreach)
    (s : SrInstance) (type code : UInt8) (ttl : UInt8 → UInt8) (packet : Buf) (i : SrIf)
    (interface : CName) (len : ℕ) :
    ErrorAbout (icmpErrorCall env s emitter type code ttl packet i interface len) packet len :=
  ⟨he, rfl, rfl, icmpErrorFrame_ipLen _ _ _ _ _ _⟩

theorem icmpError_of_none {s : SrInstance} {interface : CName}
    (h : srGetInterface s.ifList interface = none) (emitter : Emitter) (type code : UInt8)
    (ttl : UInt8 → UInt8) (packet : Buf) (len : ℕ) :
    icmpError env emitter type code ttl packet interface len s = .error .nullDeref s.addMalloc := by
  simp only [icmpError, bind_apply, malloc, get_apply, SrInstance.addMalloc_ifList, h, deref,
    throw_apply]

theorem icmpError_of_some {s : SrInstance} {interface : CName} {i : SrIf}
    (h : srGetInterface s.ifList interface = some i) (emitter : Emitter) (type code : UInt8)
    (ttl : UInt8 → UInt8) (packet : Buf) (len : ℕ) :
    icmpError env emitter type code ttl packet interface len s =
      .ok () (s.addMalloc.addSend
        (icmpErrorCall env s emitter type code ttl packet i interface len)) := by
  simp only [icmpError, bind_apply, malloc, get_apply, SrInstance.addMalloc_ifList, h, deref,
    pure_apply, srSendPacket_apply]
  rfl

theorem icmpError_returns {s s' : SrInstance} {interface : CName} {emitter : Emitter}
    {type code : UInt8} {ttl : UInt8 → UInt8} {packet : Buf} {len : ℕ}
    (h : icmpError env emitter type code ttl packet interface len s = .ok () s') :
    ∃ i, srGetInterface s.ifList interface = some i ∧
      s' = s.addMalloc.addSend (icmpErrorCall env s emitter type code ttl packet i interface len) := by
  cases hi : srGetInterface s.ifList interface with
  | none =>
    rw [icmpError_of_none env hi] at h
    contradiction
  | some i =>
    rw [icmpError_of_some env hi] at h
    exact ⟨i, rfl, (EStateM.Result.ok.inj h).2.symm⟩

/-- An error handler that crashes has done so after its allocation. -/
theorem icmpError_fails {s s' : SrInstance} {interface : CName} {emitter : Emitter}
    {type code : UInt8} {ttl : UInt8 → UInt8} {packet : Buf} {len : ℕ} {e : Fault}
    (h : icmpError env emitter type code ttl packet interface len s = .error e s') :
    s' = s.addMalloc := by
  cases hi : srGetInterface s.ifList interface with
  | none =>
    rw [icmpError_of_none env hi] at h
    exact (EStateM.Result.error.inj h).2.symm
  | some i =>
    rw [icmpError_of_some env hi] at h
    contradiction

theorem echoReply_of_none {s : SrInstance} {interface : CName}
    (h : srGetInterface s.ifList interface = none) (packet : Buf) (len : ℕ) :
    echoReply env packet interface len s = .error .nullDeref s := by
  simp only [echoReply, bind_apply, get_apply, h, deref, throw_apply]

theorem echoReply_of_some {s : SrInstance} {interface : CName} {i : SrIf}
    (h : srGetInterface s.ifList interface = some i) (packet : Buf) (len : ℕ) :
    echoReply env packet interface len s =
      .ok () (s.addSend ⟨.echoReply, some packet.origin, echoReplyFrame packet.mem i, len,
        interface, sendResult env s (echoReplyFrame packet.mem i) len interface⟩) := by
  simp only [echoReply, bind_apply, get_apply, h, deref, pure_apply, srSendPacket_apply]

theorem readReq_of_mem {s : SrInstance} {r : SrArpreq} (h : r ∈ s.cache.requests.pending)
    (field : ArpreqField) :
    readReq r.addr field s = .ok r (s.addAccess ⟨r.addr, field, false, false⟩) := by
  simp only [readReq, Requests.find_of_mem h]

/-- The call of `sr_send_packet` that broadcasts a request for `ip`. -/
def arpRequestCall (s : SrInstance) (i : SrIf) (ip : UInt32) : SendCall :=
  let k := s.log.mallocs
  let buf := arpRequestFrame (env.malloc k) (env.malloc (k+1)) (env.malloc (k+2)) i ip
  ⟨.arpRequestSend, none, buf, sizeofEthernetHdr+sizeofArpHdr, i.name,
    sendResult env s buf (sizeofEthernetHdr+sizeofArpHdr) i.name⟩

/-- The state after `arp_request_send` for `r` by interface `i`. -/
def broadcastState (s : SrInstance) (r : SrArpreq) (i : SrIf) : SrInstance :=
  (s.addMalloc.addMalloc.addMalloc.addAccess ⟨r.addr, .ip, false, false⟩).addSend
    (arpRequestCall env s i r.ip)

theorem arpRequestSend_of_some {s : SrInstance} {r : SrArpreq} (hr : r ∈ s.cache.requests.pending)
    {rt : SrRt} {i : SrIf} (h : srGetInterface s.ifList rt.interface = some i) :
    arpRequestSend env r.addr (some rt) s =
      .ok (arpRequestCall env s i r.ip).ret (broadcastState env s r i) := by
  have hr' : r ∈ s.addMalloc.addMalloc.addMalloc.cache.requests.pending := hr
  simp only [arpRequestSend, bind_apply, deref, pure_apply, get_apply, h, malloc,
    readReq_of_mem hr', srSendPacket_apply]
  rfl

theorem arpRequestSend_returns {s s' : SrInstance} {req : ℕ} {dest : Option SrRt} {ret : ℤ}
    (h : arpRequestSend env req dest s = .ok ret s') :
    ∃ rt i, dest = some rt ∧ srGetInterface s.ifList rt.interface = some i := by
  cases dest with
  | none => simp [arpRequestSend, bind_apply, deref, throw_apply] at h
  | some rt =>
    cases hi : srGetInterface s.ifList rt.interface with
    | some i => exact ⟨rt, i, rfl, hi⟩
    | none => simp [arpRequestSend, bind_apply, deref, pure_apply, throw_apply, get_apply, hi,
        malloc] at h

/-- `handle_arpreq` finds the request due: it was last sent more than a second ago. -/
def Due (s : SrInstance) (r : SrArpreq) : Prop := 1 < s.now env-r.sent

instance (s : SrInstance) (r : SrArpreq) : Decidable (Due env s r) :=
  inferInstanceAs (Decidable (_ < _))

/-- The state in which `handle_arpreq` has looked at `req->sent`. -/
def handledState (s : SrInstance) (r : SrArpreq) : SrInstance :=
  (s.addTime.addArp (.handle r.addr (s.now env))).addAccess ⟨r.addr, .sent, false, false⟩

/-- The two assignments that end `handle_arpreq`. -/
def stampedState (s : SrInstance) (addr : ℕ) (now : ℤ) (destroyed : Bool) : SrInstance :=
  let s := (s.setRequests (s.cache.requests.modify addr fun r => { r with sent := now })).addAccess
    ⟨addr, .sent, true, destroyed⟩
  (s.setRequests (s.cache.requests.modify addr fun r =>
    { r with timesSent := r.timesSent+1 })).addAccess ⟨addr, .timesSent, true, destroyed⟩

/-- The state in which `handle_arpreq` calls `arp_request_send`. -/
def retryingState (s : SrInstance) (r : SrArpreq) : SrInstance :=
  ((handledState env s r).addAccess ⟨r.addr, .timesSent, false, false⟩).addArp
    (.requestSend r.addr (s.now env))

/-- The state after a call of `handle_arpreq` that broadcasts the request. -/
def retriedState (s : SrInstance) (r : SrArpreq) (i : SrIf) : SrInstance :=
  stampedState (broadcastState env (retryingState env s r) r i) r.addr (s.now env) false

/-- The state in which `handle_arpreq` enters its loop over the waiting packets. -/
def givingUpState (s : SrInstance) (r : SrArpreq) : SrInstance :=
  (((handledState env s r).addAccess ⟨r.addr, .timesSent, false, false⟩).addArp
    (.giveUp r.addr (s.now env))).addAccess ⟨r.addr, .packets, false, false⟩

/-- The state after a call of `handle_arpreq` that gives the request up. -/
def gaveUpState (s : SrInstance) (r : SrArpreq) : SrInstance :=
  let s₁ := givingUpState env s r
  stampedState (s₁.setRequests (s₁.cache.requests.destroy r)) r.addr (s.now env) true

theorem writeReq_apply {s : SrInstance} {req : ℕ} {r : SrArpreq} {destroyed : Bool}
    (h : s.cache.requests.find req = some (r, destroyed)) (field : ArpreqField)
    (f : SrArpreq → SrArpreq) :
    writeReq req field f s = .ok () ((s.setRequests (s.cache.requests.modify req f)).addAccess
      ⟨req, field, true, destroyed⟩) := by
  simp only [writeReq, h]

theorem Requests.find_modify {q : Requests} {addr : ℕ} {r : SrArpreq} {destroyed : Bool}
    (h : q.find addr = some (r, destroyed)) (f : SrArpreq → SrArpreq) :
    ∃ r', (q.modify addr f).find addr = some (r', destroyed) := by
  have hp : ∀ r : SrArpreq, (if r.addr = addr then { f r with addr := r.addr } else r).addr = addr ↔
      r.addr = addr := by
    intro r
    split <;> simp_all
  have hd : ∀ r : SrArpreq × Option ℕ,
      (if r.1.addr = addr then ({ f r.1 with addr := r.1.addr }, r.2) else r).1.addr = addr ↔
      r.1.addr = addr := by
    intro r
    split <;> simp_all
  simp only [Requests.find, Requests.modify_pending, Requests.modify_destroyed, List.find?_map,
    Function.comp_def, hp, hd] at h ⊢
  cases hq : q.pending.find? (fun r => r.addr = addr) with
  | some r' =>
    simp only [hq, Option.some.injEq, Prod.mk.injEq] at h
    simp [h.2]
  | none =>
    simp only [hq, Option.map_eq_some_iff] at h
    obtain ⟨x,hx,he⟩ := h
    simp only [Prod.mk.injEq] at he
    simp [hx, he.2]

/-- The two assignments that end `handle_arpreq`, as a program. -/
def stampReq (req : ℕ) (now : ℤ) : RouterM Unit := do
  writeReq req .sent fun r => { r with sent := now }
  writeReq req .timesSent fun r => { r with timesSent := r.timesSent+1 }

theorem stampReq_apply {s : SrInstance} {req : ℕ} {r : SrArpreq} {destroyed : Bool}
    (h : s.cache.requests.find req = some (r, destroyed)) (now : ℤ) :
    stampReq req now s = .ok () (stampedState s req now destroyed) := by
  obtain ⟨r',h'⟩ := Requests.find_modify h fun r => { r with sent := now }
  simp only [stampReq, bind_apply, writeReq_apply h]
  have hw := @writeReq_apply ((s.setRequests (s.cache.requests.modify req fun r =>
    { r with sent := now })).addAccess ⟨req, .sent, true, destroyed⟩) req r' destroyed h'
  rw [hw]
  rfl

theorem handleArpreq_of_not_due {s : SrInstance} {r : SrArpreq}
    (hr : r ∈ s.cache.requests.pending) (hd : ¬Due env s r) (fuel : ℕ) (destRt : Option SrRt) :
    handleArpreq env fuel r.addr destRt s = .ok () (handledState env s r) := by
  have hr' : r ∈ (s.addTime.addArp (.handle r.addr (s.now env))).cache.requests.pending := hr
  simp only [handleArpreq, bind_apply, time, modify_apply]
  rw [← SrInstance.now, readReq_of_mem hr']
  dsimp only
  rw [if_neg (show ¬1 < s.now env-r.sent from hd)]
  rfl

/-- What `handle_arpreq` comes down to when it broadcasts. -/
theorem handleArpreq_of_retrying {s : SrInstance} {r : SrArpreq}
    (hr : r ∈ s.cache.requests.pending) (hd : Due env s r) (hx : ¬5 ≤ r.timesSent)
    (destRt : Option SrRt) (fuel : ℕ) :
    handleArpreq env fuel r.addr destRt s =
      (do let _ ← arpRequestSend env r.addr destRt
          stampReq r.addr (s.now env)) (retryingState env s r) := by
  have hr₀ : r ∈ (s.addTime.addArp (.handle r.addr (s.now env))).cache.requests.pending := hr
  have hr₁ : r ∈ (handledState env s r).cache.requests.pending := hr
  conv_lhs => simp only [handleArpreq, bind_apply, time, modify_apply]
  -- `req->sent` is read, then `req->times_sent`
  rw [← SrInstance.now, readReq_of_mem hr₀]
  dsimp only
  rw [if_pos (show 1 < s.now env-r.sent from hd), bind_apply, ← handledState,
    readReq_of_mem hr₁]
  dsimp only
  rw [if_neg hx, bind_apply, modify_apply]
  rfl

theorem handleArpreq_of_retry {s : SrInstance} {r : SrArpreq}
    (hr : r ∈ s.cache.requests.pending) (hd : Due env s r) (hx : ¬5 ≤ r.timesSent)
    {rt : SrRt} {i : SrIf} (hi : srGetInterface s.ifList rt.interface = some i) (fuel : ℕ) :
    handleArpreq env fuel r.addr (some rt) s = .ok () (retriedState env s r i) := by
  have hr' : r ∈ (retryingState env s r).cache.requests.pending := hr
  have hf : (broadcastState env (retryingState env s r) r i).cache.requests.find r.addr =
      some (r, false) := Requests.find_of_mem hr
  rw [handleArpreq_of_retrying env hr hd hx, bind_apply, arpRequestSend_of_some env hr' hi]
  exact stampReq_apply hf (s.now env)

/-- Without a route, or without the route's interface, the broadcast crashes. -/
theorem handleArpreq_retry_returns {s s' : SrInstance} {r : SrArpreq}
    (hr : r ∈ s.cache.requests.pending) (hd : Due env s r) (hx : ¬5 ≤ r.timesSent)
    {destRt : Option SrRt} {fuel : ℕ} (h : handleArpreq env fuel r.addr destRt s = .ok () s') :
    ∃ rt i, destRt = some rt ∧ srGetInterface s.ifList rt.interface = some i := by
  rw [handleArpreq_of_retrying env hr hd hx, bind_apply] at h
  cases ha : arpRequestSend env r.addr destRt (retryingState env s r) with
  | ok ret s₂ => exact arpRequestSend_returns env (s := retryingState env s r) ha
  | error e s₂ =>
    rw [ha] at h
    contradiction

/-- With two or more packets waiting the loop is never left: either it crashes or it
goes round for as long as there is fuel. -/
theorem giveUpLoop_never_returns (fuel req : ℕ) (p p' : SrPacket) (rest : List SrPacket)
    (s s' : SrInstance) : giveUpLoop env fuel req (p :: p' :: rest) s ≠ .ok () s' := by
  apply iterate_diverges (fun packets => packets = p :: p' :: rest)
  · rintro packets rfl
    apply Triple.bind Triple.trivial
    intro r
    apply Triple.bind Triple.trivial
    intro found
    apply Triple.bind Triple.trivial
    intro rt
    apply Triple.bind Triple.trivial
    intro _
    -- the loop variable is handed on unchanged
    exact Triple.pure fun _ _ => rfl
  · rfl

theorem longestPrefixSumAt_apply {ip ipDst : UInt32} (h : env.ipDstAt ip = some ipDst)
    (s : SrInstance) :
    longestPrefixSumAt env ip s = .ok (longestPrefixSum s.routingTable ipDst) s := by
  simp only [longestPrefixSumAt, h]
  rfl

theorem longestPrefixSumAt_error {ip : UInt32} (h : env.ipDstAt ip = none) (s : SrInstance) :
    longestPrefixSumAt env ip s = .error .wildPointer s := by
  simp only [longestPrefixSumAt, h]
  rfl

theorem routeAt_of_read {env : Env} {ip ipDst : UInt32} {routingTable : List SrRt}
    (h : env.ipDstAt ip = some ipDst) :
    routeAt env routingTable ip = longestPrefixSum routingTable ipDst := by
  rw [routeAt, h]
  rfl

/-- A lookup that returns has found what there is, and changed nothing. -/
theorem longestPrefixSumAt_returns {ip : UInt32} {found : Option SrRt} {s s' : SrInstance}
    (h : longestPrefixSumAt env ip s = .ok found s') :
    found = routeAt env s.routingTable ip ∧ s' = s := by
  cases hd : env.ipDstAt ip with
  | none =>
    rw [longestPrefixSumAt_error env hd] at h
    contradiction
  | some ipDst =>
    rw [longestPrefixSumAt_apply env hd, ← routeAt_of_read hd] at h
    obtain ⟨rfl,rfl⟩ := EStateM.Result.ok.inj h
    exact ⟨rfl,rfl⟩

theorem longestPrefixSumAt_fails {ip : UInt32} {e : Fault} {s s' : SrInstance}
    (h : longestPrefixSumAt env ip s = .error e s') : s' = s := by
  cases hd : env.ipDstAt ip with
  | none =>
    rw [longestPrefixSumAt_error env hd] at h
    exact (EStateM.Result.error.inj h).2.symm
  | some ipDst =>
    rw [longestPrefixSumAt_apply env hd] at h
    contradiction

theorem longestPrefixSumAt_of_route {ip : UInt32} {rt : SrRt} {s : SrInstance}
    (h : routeAt env s.routingTable ip = some rt) :
    longestPrefixSumAt env ip s = .ok (some rt) s := by
  obtain ⟨ipDst,hd,hrt⟩ := Option.bind_eq_some_iff.mp h
  rw [longestPrefixSumAt_apply env hd, hrt]

/-- A round of the loop that finds a route tells the sender of the first packet. -/
theorem giveUpLoop_round {s : SrInstance} {r : SrArpreq} (hr : r ∈ s.cache.requests.pending)
    {rt : SrRt} {i : SrIf} (hrt : routeAt env s.routingTable r.ip = some rt)
    (hi : srGetInterface s.ifList rt.interface = some i) (fuel : ℕ) (p p' : SrPacket)
    (rest : List SrPacket) :
    giveUpLoop env (fuel+1) r.addr (p :: p' :: rest) s =
      giveUpLoop env fuel r.addr (p :: p' :: rest)
        ((s.addAccess ⟨r.addr, .ip, false, false⟩).addMalloc.addSend
          (icmpErrorCall env (s.addAccess ⟨r.addr, .ip, false, false⟩) .destHostUnreach 3 1
            (fun ttl => ttl) p.buf i rt.interface p.len)) := by
  have hi' : srGetInterface (s.addAccess ⟨r.addr, .ip, false, false⟩).ifList rt.interface =
      some i := hi
  have hrt' : routeAt env (s.addAccess ⟨r.addr, .ip, false, false⟩).routingTable r.ip =
      some rt := hrt
  simp only [giveUpLoop, iterate, bind_apply, readReq_of_mem hr,
    longestPrefixSumAt_of_route env hrt', deref, pure_apply, destHostUnreach, icmpError_of_some env hi']

/-- Where nothing can be read at the number, the first round crashes. -/
theorem giveUpLoop_unread {s : SrInstance} {r : SrArpreq} (hr : r ∈ s.cache.requests.pending)
    (hd : env.ipDstAt r.ip = none) (p p' : SrPacket) (rest : List SrPacket) (fuel : ℕ) :
    ∃ t, giveUpLoop env (fuel+1) r.addr (p :: p' :: rest) s = .error .wildPointer t := by
  refine ⟨s.addAccess ⟨r.addr, .ip, false, false⟩, ?_⟩
  simp only [giveUpLoop, iterate, bind_apply, readReq_of_mem hr, longestPrefixSumAt_error env hd]

/-- With no second packet the loop is left at once, and the first packet is not looked at. -/
theorem giveUpLoop_of_single {fuel : ℕ} (hf : 0 < fuel) (req : ℕ) {packets : List SrPacket}
    (hp : packets.length ≤ 1) (s : SrInstance) :
    giveUpLoop env fuel req packets s = .ok () s := by
  obtain ⟨n,rfl⟩ : ∃ n, fuel = n+1 := ⟨fuel-1, by omega⟩
  match packets, hp with
  | [], _ => rfl
  | [p], _ => rfl

/-- A loop that is left has been left at once. -/
theorem giveUpLoop_returns {fuel req : ℕ} {packets : List SrPacket} {s s' : SrInstance}
    (h : giveUpLoop env fuel req packets s = .ok () s') : packets.length ≤ 1 ∧ s' = s := by
  match packets, fuel with
  | _, 0 => contradiction
  | [], fuel+1 | [p], fuel+1 =>
    rw [giveUpLoop_of_single env (Nat.succ_pos fuel) req (by simp)] at h
    exact ⟨by simp, (EStateM.Result.ok.inj h).2.symm⟩
  | p :: p' :: rest, fuel+1 => exact absurd h (giveUpLoop_never_returns env _ req p p' rest s s')

/-- What `handle_arpreq` still does once it has left its loop. -/
def finishGiveUp (r : SrArpreq) (now : ℤ) : RouterM Unit := do
  srArpreqDestroy r
  stampReq r.addr now

theorem finishGiveUp_apply {s : SrInstance} {r : SrArpreq} (hr : r ∈ s.cache.requests.pending)
    (now : ℤ) : finishGiveUp r now s =
      .ok () (stampedState (s.setRequests (s.cache.requests.destroy r)) r.addr now true) := by
  have hf : (s.setRequests (s.cache.requests.destroy r)).cache.requests.find r.addr =
      some (r, true) := Requests.find_destroy hr
  rw [finishGiveUp, bind_apply, srArpreqDestroy, modify_apply]
  exact stampReq_apply hf now

theorem handleArpreq_of_giveUp {s : SrInstance} {r : SrArpreq}
    (hr : r ∈ s.cache.requests.pending) (hd : Due env s r) (hx : 5 ≤ r.timesSent)
    (destRt : Option SrRt) (fuel : ℕ) :
    handleArpreq env fuel r.addr destRt s =
      (if r.packets ≠ [] then
        (do giveUpLoop env fuel r.addr r.packets; finishGiveUp r (s.now env))
      else finishGiveUp r (s.now env)) (givingUpState env s r) := by
  have hr₀ : r ∈ (s.addTime.addArp (.handle r.addr (s.now env))).cache.requests.pending := hr
  have hr₁ : r ∈ (handledState env s r).cache.requests.pending := hr
  have hr₂ : r ∈ (((handledState env s r).addAccess ⟨r.addr, .timesSent, false, false⟩).addArp
    (.giveUp r.addr (s.now env))).cache.requests.pending := hr
  conv_lhs => simp only [handleArpreq, bind_apply, time, modify_apply]
  rw [← SrInstance.now, readReq_of_mem hr₀]
  dsimp only
  rw [if_pos (show 1 < s.now env-r.sent from hd), bind_apply, ← handledState,
    readReq_of_mem hr₁]
  dsimp only
  rw [if_pos hx, bind_apply, modify_apply]
  dsimp only
  rw [bind_apply, readReq_of_mem hr₂]
  rfl

theorem handleArpreq_giveUp_of_single {s : SrInstance} {r : SrArpreq}
    (hr : r ∈ s.cache.requests.pending) (hd : Due env s r) (hx : 5 ≤ r.timesSent)
    (hp : r.packets.length ≤ 1) (destRt : Option SrRt) {fuel : ℕ} (hf : 0 < fuel) :
    handleArpreq env fuel r.addr destRt s = .ok () (gaveUpState env s r) := by
  have hr' : r ∈ (givingUpState env s r).cache.requests.pending := hr
  rw [handleArpreq_of_giveUp env hr hd hx]
  split
  · rw [bind_apply, giveUpLoop_of_single env hf r.addr hp]
    exact finishGiveUp_apply hr' _
  · exact finishGiveUp_apply hr' _

/-- A call that gives a request up returns only with at most one packet waiting. -/
theorem handleArpreq_giveUp_returns {s s' : SrInstance} {r : SrArpreq}
    (hr : r ∈ s.cache.requests.pending) (hd : Due env s r) (hx : 5 ≤ r.timesSent)
    {destRt : Option SrRt} {fuel : ℕ} (h : handleArpreq env fuel r.addr destRt s = .ok () s') :
    r.packets.length ≤ 1 ∧ s' = gaveUpState env s r := by
  have hr' : r ∈ (givingUpState env s r).cache.requests.pending := hr
  have hfinish := finishGiveUp_apply hr' (s.now env)
  rw [handleArpreq_of_giveUp env hr hd hx] at h
  by_cases hp : r.packets = []
  · rw [if_neg (not_not.mpr hp), hfinish] at h
    exact ⟨by simp [hp], (EStateM.Result.ok.inj h).2.symm⟩
  · rw [if_pos hp, bind_apply] at h
    cases hl : giveUpLoop env fuel r.addr r.packets (givingUpState env s r) with
    | error e t =>
      rw [hl] at h
      contradiction
    | ok u t =>
      obtain ⟨hle,rfl⟩ := giveUpLoop_returns env hl
      rw [hl] at h
      dsimp only at h
      rw [hfinish] at h
      exact ⟨hle, (EStateM.Result.ok.inj h).2.symm⟩

/-- The ways a call of `handle_arpreq` on a pending request returns. -/
inductive Handled (destRt : Option SrRt) (s : SrInstance) (r : SrArpreq) : SrInstance → Prop where
  | notDue : ¬Due env s r → Handled destRt s r (handledState env s r)
  | retried {rt : SrRt} {i : SrIf} : Due env s r → r.timesSent < 5 → destRt = some rt →
      srGetInterface s.ifList rt.interface = some i →
      Handled destRt s r (retriedState env s r i)
  | gaveUp : Due env s r → 5 ≤ r.timesSent → r.packets.length ≤ 1 →
      Handled destRt s r (gaveUpState env s r)

theorem handleArpreq_returns {s s' : SrInstance} {r : SrArpreq}
    (hr : r ∈ s.cache.requests.pending) {destRt : Option SrRt} {fuel : ℕ}
    (h : handleArpreq env fuel r.addr destRt s = .ok () s') : Handled env destRt s r s' := by
  by_cases hd : Due env s r
  · by_cases hx : 5 ≤ r.timesSent
    · obtain ⟨hp,rfl⟩ := handleArpreq_giveUp_returns env hr hd hx h
      exact Handled.gaveUp hd hx hp
    · obtain ⟨rt,i,rfl,hi⟩ := handleArpreq_retry_returns env hr hd hx h
      rw [handleArpreq_of_retry env hr hd hx hi] at h
      obtain rfl := (EStateM.Result.ok.inj h).2
      exact Handled.retried hd (by omega) rfl hi
  · rw [handleArpreq_of_not_due env hr hd] at h
    obtain rfl := (EStateM.Result.ok.inj h).2
    exact Handled.notDue hd

variable {env} {destRt : Option SrRt}

/-- Handling a request leaves the tables alone. -/
theorem Handled.frame {s s' : SrInstance} {r : SrArpreq} (h : Handled env destRt s r s') :
    s'.ifList = s.ifList ∧ s'.routingTable = s.routingTable ∧
      s'.cache.entries = s.cache.entries ∧ s'.log.arrivals = s.log.arrivals ∧
      s'.cache.requests.fresh = s.cache.requests.fresh := by
  cases h with
  | notDue => simp [handledState]
  | retried => simp [retriedState, stampedState, broadcastState, retryingState, handledState]
  | gaveUp => simp [gaveUpState, stampedState, givingUpState, handledState]

theorem stampedState_pending {s : SrInstance} {r : SrArpreq} {pre post : List SrArpreq}
    (h : s.cache.requests.pending = pre ++ r :: post) (now : ℤ) (destroyed : Bool) :
    (stampedState s r.addr now destroyed).cache.requests.pending =
      pre ++ { r with sent := now, timesSent := r.timesSent+1 } :: post := by
  have h₁ := Requests.modify_pending_split h fun r => { r with sent := now }
  exact Requests.modify_pending_split (r := { r with sent := now }) h₁ fun r =>
    { r with timesSent := r.timesSent+1 }

theorem retriedState_pending {s : SrInstance} {r : SrArpreq} {pre post : List SrArpreq}
    (hs : s.cache.requests.pending = pre ++ r :: post) (i : SrIf) :
    (retriedState env s r i).cache.requests.pending =
      pre ++ { r with sent := s.now env, timesSent := r.timesSent+1 } :: post :=
  stampedState_pending (by exact hs) _ _

theorem gaveUpState_pending {s : SrInstance} {r : SrArpreq} {pre post : List SrArpreq}
    (hs : s.cache.requests.pending = pre ++ r :: post) :
    (gaveUpState env s r).cache.requests.pending = pre ++ post := by
  have hm := Requests.mem_of_split hs
  -- the two assignments go to the freed object
  let q := s.cache.requests.destroy r
  let q₁ := q.modify r.addr fun r => { r with sent := s.now env }
  have hq : ∀ r' ∈ q.pending, r'.addr ≠ r.addr := Requests.not_mem_destroy hm
  have h₁ : q₁.pending = q.pending := Requests.modify_pending_of_not_mem hq _
  have hq₁ : ∀ r' ∈ q₁.pending, r'.addr ≠ r.addr := by
    rw [h₁]
    exact hq
  calc
    _ = q₁.pending := Requests.modify_pending_of_not_mem hq₁ fun r =>
      { r with timesSent := r.timesSent+1 }
    _ = q.pending := h₁
    _ = pre ++ post := Requests.destroy_pending_split hs

theorem handledState_arp (s : SrInstance) (r : SrArpreq) :
    (handledState env s r).log.arp = .handle r.addr (s.now env) :: s.log.arp := rfl

theorem retriedState_arp (s : SrInstance) (r : SrArpreq) (i : SrIf) :
    (retriedState env s r i).log.arp =
      .requestSend r.addr (s.now env) :: .handle r.addr (s.now env) :: s.log.arp := by
  simp [retriedState, stampedState, broadcastState, retryingState, handledState]

theorem gaveUpState_arp (s : SrInstance) (r : SrArpreq) :
    (gaveUpState env s r).log.arp =
      .giveUp r.addr (s.now env) :: .handle r.addr (s.now env) :: s.log.arp := by
  simp [gaveUpState, givingUpState, stampedState, handledState]

/-- The queue after a request has been handled: in place, stamped, or gone. -/
theorem Handled.pending {s s' : SrInstance} {r : SrArpreq} (h : Handled env destRt s r s')
    {pre post : List SrArpreq} (hs : s.cache.requests.pending = pre ++ r :: post) :
    s'.cache.requests.pending = pre ++ r :: post ∨
      s'.cache.requests.pending =
        pre ++ { r with sent := s.now env, timesSent := r.timesSent+1 } :: post ∨
      s'.cache.requests.pending = pre ++ post := by
  cases h with
  | notDue => exact Or.inl hs
  | retried => exact Or.inr (Or.inl (retriedState_pending hs _))
  | gaveUp => exact Or.inr (Or.inr (gaveUpState_pending hs))

/-- The pointer to a handled request still leads to the rest of the queue, through
the freed object if need be. -/
theorem Handled.nextOf {s s' : SrInstance} {r : SrArpreq} (h : Handled env destRt s r s')
    {pre post : List SrArpreq} (hs : s.cache.requests.pending = pre ++ r :: post) :
    s'.cache.requests.nextOf r.addr = post.head?.map SrArpreq.addr := by
  have hm := Requests.mem_of_split hs
  have hn := Requests.nextOf_of_split hs
  have hstamp (t : SrInstance) (now : ℤ) (destroyed : Bool) :
      (stampedState t r.addr now destroyed).cache.requests.nextOf r.addr =
        t.cache.requests.nextOf r.addr :=
    (Requests.nextOf_modify _ _ _ _).trans (Requests.nextOf_modify _ _ _ _)
  cases h with
  | notDue => exact hn
  | retried => exact (hstamp _ _ _).trans hn
  | gaveUp =>
    have hnod := s.cache.requests.nodup
    rw [hs] at hnod
    calc
      _ = (s.cache.requests.destroy r).nextOf r.addr := hstamp _ _ _
      _ = Requests.follower s.cache.requests.pending r.addr := Requests.nextOf_destroy hm
      _ = Requests.follower (pre ++ r :: post) r.addr := by rw [hs]
      _ = post.head?.map SrArpreq.addr := Requests.follower_append hnod

/-- Whether a call of `handle_arpreq` frees the request it is made for. -/
def Exhausted (env : Env) (s : SrInstance) (r : SrArpreq) : Prop := Due env s r ∧ 5 ≤ r.timesSent

instance (env : Env) (s : SrInstance) (r : SrArpreq) : Decidable (Exhausted env s r) :=
  inferInstanceAs (Decidable (_ ∧ _))

/-- The pointer to a handled request is not wild: it is that of a pending request,
or of a freed one when the request was exhausted. -/
theorem Handled.find {s s' : SrInstance} {r : SrArpreq} (h : Handled env destRt s r s')
    (hm : r ∈ s.cache.requests.pending) :
    ∃ r', s'.cache.requests.find r.addr = some (r', decide (Exhausted env s r)) := by
  have stamp (q : Requests) (d : Bool) (hf : q.find r.addr = some (r, d)) (now : ℤ) :
      ∃ r', ((q.modify r.addr fun r => { r with sent := now }).modify r.addr fun r =>
        { r with timesSent := r.timesSent+1 }).find r.addr = some (r', d) := by
    obtain ⟨r',hr'⟩ := Requests.find_modify hf fun r => { r with sent := now }
    exact Requests.find_modify hr' _
  cases h with
  | notDue hd =>
    rw [decide_eq_false (fun he => hd he.1)]
    exact ⟨r, Requests.find_of_mem hm⟩
  | retried hd hx =>
    rw [decide_eq_false (fun he => by have := he.2; omega)]
    exact stamp _ _ (Requests.find_of_mem hm) _
  | gaveUp hd hx =>
    rw [decide_eq_true ⟨hd,hx⟩]
    exact stamp _ _ (Requests.find_destroy hm) _

/-- What `sr_arpcache_queuereq` does: the packets go in front of those of the request
for `ip`, a new request at the head of the queue if there was none. -/
structure Enqueued (s : SrInstance) (ip : UInt32) (pkts : List SrPacket) (r : SrArpreq)
    (s' : SrInstance) : Prop where
  ifList : s'.ifList = s.ifList
  routingTable : s'.routingTable = s.routingTable
  entries : s'.cache.entries = s.cache.entries
  sends : s'.log.sends = s.log.sends
  arp : s'.log.arp = s.log.arp
  times : s'.log.times = s.log.times
  arrivals : s'.log.arrivals = s.log.arrivals
  queue : (∃ pre r₀ post, s.cache.requests.pending = pre ++ r₀ :: post ∧ r₀.ip = ip ∧
      r = { r₀ with packets := pkts ++ r₀.packets } ∧
      s'.cache.requests.pending = pre ++ r :: post ∧
      s'.cache.requests.fresh = s.cache.requests.fresh) ∨
    ((∀ r' ∈ s.cache.requests.pending, r'.ip ≠ ip) ∧ r = ⟨s.cache.requests.fresh, ip, 0, 0, pkts⟩ ∧
      s'.cache.requests.pending = r :: s.cache.requests.pending ∧
      s'.cache.requests.fresh = s.cache.requests.fresh+1)

theorem Enqueued.mem {s s' : SrInstance} {ip : UInt32} {pkts : List SrPacket} {r : SrArpreq}
    (h : Enqueued s ip pkts r s') : r ∈ s'.cache.requests.pending := by
  rcases h.queue with ⟨pre,r₀,post,-,-,-,hp,-⟩ | ⟨-,-,hp,-⟩ <;> rw [hp] <;> simp

/-- The packets one call of `sr_arpcache_queuereq` adds: an empty one is not queued. -/
def queuedCopies (env : Env) (s : SrInstance) (packet : Buf) (len : ℕ) (iface : CName) :
    List SrPacket :=
  if len ≠ 0 then [queuedCopy (env.malloc s.log.mallocs) packet len iface] else []

/-- The state after a packet has been added to the request at `addr`. -/
def queuedState (env : Env) (s : SrInstance) (addr : ℕ) (packet : Buf) (len : ℕ) (iface : CName) :
    SrInstance :=
  if len ≠ 0 then s.addMalloc.setRequests (s.cache.requests.modify addr fun r =>
    { r with packets := queuedCopy (env.malloc s.log.mallocs) packet len iface :: r.packets })
  else s

theorem srArpcacheQueuereq_apply (env : Env) (ip : UInt32) (packet : Buf) (len : ℕ)
    (iface : CName) (s : SrInstance) : srArpcacheQueuereq env ip packet len iface s =
      match s.cache.requests.pending.find? (fun r => r.ip == ip) with
      | some r => .ok r.addr (queuedState env s r.addr packet len iface)
      | none => .ok s.cache.requests.fresh
        (queuedState env (s.setRequests (s.cache.requests.push ip)) s.cache.requests.fresh packet
          len iface) := by
  simp only [srArpcacheQueuereq, bind_apply, get_apply]
  cases s.cache.requests.pending.find? (fun r => r.ip == ip) <;> by_cases hl : len = 0 <;>
    simp only [queuedState, hl, ne_eq, not_true_eq_false, not_false_eq_true, if_true, if_false,
      pure_apply, bind_apply, malloc, modify_apply] <;> rfl

theorem queuedState_pending (env : Env) {s : SrInstance} {r : SrArpreq} {pre post : List SrArpreq}
    (hs : s.cache.requests.pending = pre ++ r :: post) (packet : Buf) (len : ℕ) (iface : CName) :
    (queuedState env s r.addr packet len iface).cache.requests.pending =
      pre ++ { r with packets := queuedCopies env s packet len iface ++ r.packets } :: post := by
  by_cases hl : len = 0
  · simp [queuedState, queuedCopies, hl, hs]
  · simp only [queuedState, queuedCopies, if_pos hl]
    exact Requests.modify_pending_split hs _

theorem queuedState_frame (env : Env) (s : SrInstance) (addr : ℕ) (packet : Buf) (len : ℕ)
    (iface : CName) :
    let s' := queuedState env s addr packet len iface
    s'.ifList = s.ifList ∧ s'.routingTable = s.routingTable ∧
      s'.cache.entries = s.cache.entries ∧ s'.cache.requests.fresh = s.cache.requests.fresh ∧
      s'.log.sends = s.log.sends ∧ s'.log.arp = s.log.arp ∧ s'.log.times = s.log.times ∧
      s'.log.arrivals = s.log.arrivals := by
  by_cases hl : len = 0 <;> simp [queuedState, hl]

theorem srArpcacheQueuereq_returns (env : Env) (ip : UInt32) (packet : Buf) (len : ℕ)
    (iface : CName) (s : SrInstance) : ∃ r s',
      srArpcacheQueuereq env ip packet len iface s = .ok r.addr s' ∧
        Enqueued s ip (queuedCopies env s packet len iface) r s' := by
  rw [srArpcacheQueuereq_apply]
  cases hf : s.cache.requests.pending.find? (fun r => r.ip == ip) with
  | some r₀ =>
    obtain ⟨hip,pre,post,hs,-⟩ := List.find?_eq_some_iff_append.mp hf
    have hip' : r₀.ip = ip := by simpa using hip
    have hp := queuedState_pending env hs packet len iface
    obtain ⟨h₁,h₂,h₃,h₄,h₅,h₆,h₇,h₈⟩ := queuedState_frame env s r₀.addr packet len iface
    refine ⟨{ r₀ with packets := queuedCopies env s packet len iface ++ r₀.packets }, _, rfl, ?_⟩
    exact ⟨h₁, h₂, h₃, h₅, h₆, h₇, h₈, Or.inl ⟨pre, r₀, post, hs, hip', rfl, hp, h₄⟩⟩
  | none =>
    have hip : ∀ r' ∈ s.cache.requests.pending, r'.ip ≠ ip := by
      intro r' hr'
      simpa using List.find?_eq_none.mp hf r' hr'
    -- the packets go to the request just pushed, at the head of the queue
    let s₁ := s.setRequests (s.cache.requests.push ip)
    have hs : s₁.cache.requests.pending =
        [] ++ ⟨s.cache.requests.fresh, ip, 0, 0, []⟩ :: s.cache.requests.pending := rfl
    obtain ⟨h₁,h₂,h₃,h₄,h₅,h₆,h₇,h₈⟩ :=
      queuedState_frame env s₁ s.cache.requests.fresh packet len iface
    have hp := queuedState_pending env hs packet len iface
    rw [List.append_nil] at hp
    exact ⟨_, _, rfl, h₁, h₂, h₃, h₅, h₆, h₇, h₈, Or.inr ⟨hip, rfl, hp, h₄⟩⟩

/-- The ways `packet_to_other_dest` takes. -/
inductive RouteWay (s : SrInstance) (packet : Mem) : Prop where
  | expired : ipTtl packet ≤ 1 → RouteWay s packet
  | noRoute : 1 < ipTtl packet → longestPrefixSum s.routingTable (ipDst packet) = none →
      RouteWay s packet
  | unlisted {rt : SrRt} {e : SrArpentry} : 1 < ipTtl packet →
      longestPrefixSum s.routingTable (ipDst packet) = some rt →
      srArpcacheLookup s.cache.entries (ipDst packet) = some e →
      srGetInterface s.ifList rt.interface = none → RouteWay s packet
  | hit {rt : SrRt} {e : SrArpentry} {i : SrIf} : 1 < ipTtl packet →
      longestPrefixSum s.routingTable (ipDst packet) = some rt →
      srArpcacheLookup s.cache.entries (ipDst packet) = some e →
      srGetInterface s.ifList rt.interface = some i → RouteWay s packet
  | miss {rt : SrRt} : 1 < ipTtl packet →
      longestPrefixSum s.routingTable (ipDst packet) = some rt →
      srArpcacheLookup s.cache.entries (ipDst packet) = none → RouteWay s packet

theorem routeWay (s : SrInstance) (packet : Mem) : RouteWay s packet := by
  by_cases ht : ipTtl packet ≤ 1
  · exact RouteWay.expired ht
  have ht' : 1 < ipTtl packet := UInt8.not_le.mp ht
  cases hrt : longestPrefixSum s.routingTable (ipDst packet) with
  | none => exact RouteWay.noRoute ht' hrt
  | some rt =>
    cases he : srArpcacheLookup s.cache.entries (ipDst packet) with
    | none => exact RouteWay.miss ht' hrt he
    | some e =>
      cases hi : srGetInterface s.ifList rt.interface with
      | none => exact RouteWay.unlisted ht' hrt he hi
      | some i => exact RouteWay.hit ht' hrt he hi

/-! What `packet_to_other_dest` comes down to on each of them. -/
section Ways

variable {packet : Buf} {s : SrInstance} {rt : SrRt}

theorem packetToOtherDest_of_expired (ht : ipTtl packet.mem ≤ 1) (fuel : ℕ)
    (interface : CName) (len : ℕ) : packetToOtherDest env fuel packet interface len =
      (do timeExceeded env packet interface len
          pure none) := by
  rw [packetToOtherDest, if_pos ht]

theorem packetToOtherDest_of_noRoute (ht : 1 < ipTtl packet.mem)
    (hrt : longestPrefixSum s.routingTable (ipDst packet.mem) = none) (fuel : ℕ)
    (interface : CName) (len : ℕ) : packetToOtherDest env fuel packet interface len s =
      (do destHostUnreach env packet interface len
          pure none) s := by
  rw [packetToOtherDest, if_neg (UInt8.not_le.mpr ht), bind_apply, get_apply]
  dsimp only
  rw [hrt]

/-- The next hop is known, but not the interface of the route. -/
theorem packetToOtherDest_of_unlisted (ht : 1 < ipTtl packet.mem)
    (hrt : longestPrefixSum s.routingTable (ipDst packet.mem) = some rt) {e : SrArpentry}
    (he : srArpcacheLookup s.cache.entries (ipDst packet.mem) = some e)
    (hi : srGetInterface s.ifList rt.interface = none) (fuel : ℕ) (interface : CName) (len : ℕ) :
    packetToOtherDest env fuel packet interface len s = .error .nullDeref s := by
  rw [packetToOtherDest, if_neg (UInt8.not_le.mpr ht), bind_apply, get_apply]
  dsimp only
  rw [hrt]
  dsimp only
  rw [he]
  dsimp only
  rw [bind_apply, hi]
  rfl

theorem packetToOtherDest_of_hit (ht : 1 < ipTtl packet.mem)
    (hrt : longestPrefixSum s.routingTable (ipDst packet.mem) = some rt) {e : SrArpentry}
    (he : srArpcacheLookup s.cache.entries (ipDst packet.mem) = some e) {i : SrIf}
    (hi : srGetInterface s.ifList rt.interface = some i) (fuel : ℕ) (interface : CName) (len : ℕ) :
    packetToOtherDest env fuel packet interface len s =
      let frame := forwardFrame packet.mem i.addr e.mac
      .ok (some (sendResult env s frame len i.name)) (s.addSend ⟨.packetToOtherDest,
        some packet.origin, frame, len, i.name, sendResult env s frame len i.name⟩) := by
  rw [packetToOtherDest, if_neg (UInt8.not_le.mpr ht), bind_apply, get_apply]
  dsimp only
  rw [hrt]
  dsimp only
  rw [he]
  dsimp only
  rw [bind_apply, hi, deref, pure_apply]
  dsimp only
  rw [bind_apply, srSendPacket_apply]
  rfl

theorem packetToOtherDest_of_miss (ht : 1 < ipTtl packet.mem)
    (hrt : longestPrefixSum s.routingTable (ipDst packet.mem) = some rt)
    (he : srArpcacheLookup s.cache.entries (ipDst packet.mem) = none) (fuel : ℕ)
    (interface : CName) (len : ℕ) : packetToOtherDest env fuel packet interface len s =
      (do let req ← srArpcacheQueuereq env (ipDst packet.mem) packet len interface
          handleArpreq env fuel req (some rt)
          pure (some 0)) s := by
  rw [packetToOtherDest, if_neg (UInt8.not_le.mpr ht), bind_apply, get_apply]
  dsimp only
  rw [hrt]
  dsimp only
  rw [he]

end Ways

/-- The ways a call of `packet_to_other_dest` returns. -/
inductive Routed (env : Env) (s : SrInstance) (packet : Buf) (interface : CName) (len : ℕ) :
    SrInstance → Prop where
  | expired {i : SrIf} : ipTtl packet.mem ≤ 1 → srGetInterface s.ifList interface = some i →
      Routed env s packet interface len (s.addMalloc.addSend
        (icmpErrorCall env s .timeExceeded 11 0 (fun ttl => ttl-1) packet i interface len))
  | noRoute {i : SrIf} : 1 < ipTtl packet.mem →
      longestPrefixSum s.routingTable (ipDst packet.mem) = none →
      srGetInterface s.ifList interface = some i →
      Routed env s packet interface len (s.addMalloc.addSend
        (icmpErrorCall env s .destHostUnreach 3 1 (fun ttl => ttl) packet i interface len))
  | sent {rt : SrRt} {e : SrArpentry} {i : SrIf} : 1 < ipTtl packet.mem →
      longestPrefixSum s.routingTable (ipDst packet.mem) = some rt →
      srArpcacheLookup s.cache.entries (ipDst packet.mem) = some e →
      srGetInterface s.ifList rt.interface = some i →
      Routed env s packet interface len (s.addSend ⟨.packetToOtherDest, some packet.origin,
        forwardFrame packet.mem i.addr e.mac, len, i.name,
        sendResult env s (forwardFrame packet.mem i.addr e.mac) len i.name⟩)
  | queued {rt : SrRt} {r : SrArpreq} {s₁ s₂ : SrInstance} : 1 < ipTtl packet.mem →
      longestPrefixSum s.routingTable (ipDst packet.mem) = some rt →
      srArpcacheLookup s.cache.entries (ipDst packet.mem) = none →
      Enqueued s (ipDst packet.mem) (queuedCopies env s packet len interface) r s₁ →
      Handled env (some rt) s₁ r s₂ → Routed env s packet interface len s₂

theorem packetToOtherDest_returns {env : Env} {fuel : ℕ} {packet : Buf} {interface : CName}
    {len : ℕ} {s s' : SrInstance} {ret : Option ℤ}
    (h : packetToOtherDest env fuel packet interface len s = .ok ret s') :
    Routed env s packet interface len s' := by
  cases routeWay s packet.mem with
  | expired ht =>
    rw [packetToOtherDest_of_expired ht, bind_apply, timeExceeded] at h
    cases he : icmpError env .timeExceeded 11 0 (fun ttl => ttl-1) packet interface len s with
    | error e s₁ => simp [he] at h
    | ok u s₁ =>
      rw [he] at h
      obtain rfl := (EStateM.Result.ok.inj h).2
      obtain ⟨i,hi,rfl⟩ := icmpError_returns env he
      exact Routed.expired ht hi
  | noRoute ht hrt =>
    rw [packetToOtherDest_of_noRoute ht hrt, bind_apply, destHostUnreach] at h
    cases he : icmpError env .destHostUnreach 3 1 (fun ttl => ttl) packet interface len s with
    | error e s₁ => simp [he] at h
    | ok u s₁ =>
      rw [he] at h
      obtain rfl := (EStateM.Result.ok.inj h).2
      obtain ⟨i,hi,rfl⟩ := icmpError_returns env he
      exact Routed.noRoute ht hrt hi
  | unlisted ht hrt he hi =>
    rw [packetToOtherDest_of_unlisted ht hrt he hi] at h
    contradiction
  | hit ht hrt he hi =>
    rw [packetToOtherDest_of_hit ht hrt he hi] at h
    obtain rfl := (EStateM.Result.ok.inj h).2
    exact Routed.sent ht hrt he hi
  | @miss rt ht hrt he =>
    obtain ⟨r,s₁,hq,henq⟩ := srArpcacheQueuereq_returns env (ipDst packet.mem) packet len interface s
    rw [packetToOtherDest_of_miss ht hrt he, bind_apply, hq] at h
    dsimp only at h
    rw [bind_apply] at h
    cases hh : handleArpreq env fuel r.addr (some rt) s₁ with
    | error e s₂ => simp [hh] at h
    | ok u s₂ =>
      simp only [hh, pure_apply] at h
      obtain rfl := (EStateM.Result.ok.inj h).2
      -- the call returns only if `handle_arpreq` does
      exact Routed.queued ht hrt he henq (handleArpreq_returns env henq.mem hh)

end InternetCourse.Router
