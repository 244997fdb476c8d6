import InternetCourse.PairedRuns
import InternetCourse.RouterBounds
import InternetCourse.RouterRules
import InternetCourse.RouterUnwritten

/-! Two runs that differ in the contents of the heap. What the handling of a frame looks at
stays the same in both. -/
namespace InternetCourse.Router

open ByteMem StateTriple PairedRuns

/-- The same host with another heap. -/
def Env.withHeap (env : Env) (heap : ℕ → Mem) : Env := { env with malloc := heap }

/-- The error messages on record, as they went out. -/
def errorFrames (s : SrInstance) : List (Emitter × List UInt8) :=
  (s.log.sends.filter fun c => IsIcmpError c).map fun c => (c.emitter, c.frame)

/-- A request but for the contents of its packets. -/
def outline (r : SrArpreq) : ℕ × UInt32 × ℤ × ℕ × ℕ :=
  (r.addr, r.ip, r.sent, r.timesSent, r.packets.length)

/-- Two states of a router that handle packets the same way. -/
structure Alike (s t : SrInstance) : Prop where
  ifList : t.ifList = s.ifList
  routingTable : t.routingTable = s.routingTable
  entries : t.cache.entries = s.cache.entries
  queue : t.cache.requests.pending.map outline = s.cache.requests.pending.map outline
  fresh : t.cache.requests.fresh = s.cache.requests.fresh
  times : t.log.times = s.log.times

/-- Two states that have sent the same error messages besides. -/
def Twins (s t : SrInstance) : Prop := Alike s t ∧ errorFrames t = errorFrames s

/-- Two runs that end alike. -/
abbrev Together {α β : Type} : EStateM.Result Fault SrInstance α →
    EStateM.Result Fault SrInstance β → Prop :=
  Paired (fun _ _ => Twins) fun s t => errorFrames t = errorFrames s

variable {env : Env} {heap : ℕ → Mem} {s t : SrInstance}

theorem Alike.refl (s : SrInstance) : Alike s s := ⟨rfl,rfl,rfl,rfl,rfl,rfl⟩

theorem errorFrames_congr (h : t.log.sends = s.log.sends) : errorFrames t = errorFrames s := by
  rw [errorFrames, h, errorFrames]

theorem errorFrames_suffix (h : s.log.sends <:+ t.log.sends) : errorFrames s <:+ errorFrames t :=
  (h.filter _).map _

theorem errorFrames_addSend {c : SendCall} (h : IsIcmpError c) (s : SrInstance) :
    errorFrames (s.addSend c) = (c.emitter, c.frame) :: errorFrames s := by
  rw [errorFrames, SrInstance.addSend_log_sends,
    List.filter_cons_of_pos (p := fun c => decide (IsIcmpError c)) (decide_eq_true h)]
  rfl

theorem errorFrames_addSend_of_not {c : SendCall} (h : ¬IsIcmpError c) (s : SrInstance) :
    errorFrames (s.addSend c) = errorFrames s := by
  have hc : ¬decide (IsIcmpError c) = true := by simpa using h
  rw [errorFrames, SrInstance.addSend_log_sends,
    List.filter_cons_of_neg (p := fun c => decide (IsIcmpError c)) hc]
  rfl

theorem Twins.refl (s : SrInstance) : Twins s s := ⟨Alike.refl s, rfl⟩

/-- Frames that are no error messages may differ. -/
theorem Twins.sent (h : Twins s t) {c d : SendCall} (hc : ¬IsIcmpError c) (hd : ¬IsIcmpError d) :
    Twins (s.addSend c) (t.addSend d) := by
  obtain ⟨ha,herr⟩ := h
  refine ⟨⟨ha.ifList, ha.routingTable, ha.entries, ha.queue, ha.fresh, ha.times⟩, ?_⟩
  rw [errorFrames_addSend_of_not hc, errorFrames_addSend_of_not hd, herr]

/-! The operations of the queue, on outlines. -/

theorem modify_outline {q : Requests} {addr : ℕ} {f : SrArpreq → SrArpreq}
    {g : ℕ × UInt32 × ℤ × ℕ × ℕ → ℕ × UInt32 × ℤ × ℕ × ℕ}
    (h : ∀ r, outline { f r with addr := r.addr } = g (outline r)) :
    (q.modify addr f).pending.map outline =
      (q.pending.map outline).map fun o => if o.1 = addr then g o else o := by
  rw [Requests.modify_pending, List.map_map, List.map_map]
  apply List.map_congr_left
  intro r _
  by_cases ha : r.addr = addr
  · simp only [Function.comp, if_pos ha, h]
    exact (if_pos ha).symm
  · simp only [Function.comp, if_neg ha]
    exact (if_neg ha).symm

theorem destroy_outline (q : Requests) (r : SrArpreq) :
    (q.destroy r).pending.map outline = (q.pending.map outline).eraseP fun o => o.1 = r.addr := by
  rw [Requests.destroy_pending, Requests.unlink_pending, List.eraseP_map]
  rfl

theorem find_outline (q : Requests) (ip : UInt32) :
    (q.pending.find? fun r => r.ip == ip).map outline =
      (q.pending.map outline).find? fun o => o.2.1 == ip := by
  rw [List.find?_map]
  rfl

/-- The two assignments that end `handle_arpreq`, on outlines. -/
theorem stampedState_outline (s : SrInstance) (addr : ℕ) (now : ℤ) (destroyed : Bool) :
    (stampedState s addr now destroyed).cache.requests.pending.map outline =
      ((s.cache.requests.pending.map outline).map fun o =>
        if o.1 = addr then (o.1, o.2.1, now, o.2.2.2) else o).map fun o =>
          if o.1 = addr then (o.1, o.2.1, o.2.2.1, o.2.2.2.1+1, o.2.2.2.2) else o := by
  have h₁ := @modify_outline s.cache.requests addr (fun r => { r with sent := now })
    (fun o => (o.1, o.2.1, now, o.2.2.2)) fun _ => rfl
  have h₂ := @modify_outline (s.cache.requests.modify addr fun r => { r with sent := now }) addr
    (fun r => { r with timesSent := r.timesSent+1 })
    (fun o => (o.1, o.2.1, o.2.2.1, o.2.2.2.1+1, o.2.2.2.2)) fun _ => rfl
  rw [← h₁, ← h₂]
  rfl

theorem Alike.stamped (h : Alike s t) (addr : ℕ) (now : ℤ) (destroyed : Bool) :
    Alike (stampedState s addr now destroyed) (stampedState t addr now destroyed) where
  ifList := h.ifList
  routingTable := h.routingTable
  entries := h.entries
  queue := by
    rw [stampedState_outline, stampedState_outline, h.queue]
  fresh := h.fresh
  times := h.times

theorem Alike.destroyed (h : Alike s t) {r r' : SrArpreq} (ha : r'.addr = r.addr) :
    Alike (s.setRequests (s.cache.requests.destroy r))
      (t.setRequests (t.cache.requests.destroy r')) where
  ifList := h.ifList
  routingTable := h.routingTable
  entries := h.entries
  queue := by
    rw [SrInstance.setRequests_cache_requests, SrInstance.setRequests_cache_requests,
      destroy_outline, destroy_outline, h.queue, ha]
  fresh := h.fresh
  times := h.times

theorem Alike.find_none (h : Alike s t) {ip : UInt32}
    (hf : s.cache.requests.pending.find? (fun r => r.ip == ip) = none) :
    t.cache.requests.pending.find? (fun r => r.ip == ip) = none := by
  have ht := find_outline t.cache.requests ip
  rw [h.queue, ← find_outline, hf] at ht
  exact Option.map_eq_none_iff.mp ht

theorem Alike.find_some (h : Alike s t) {ip : UInt32} {r : SrArpreq}
    (hf : s.cache.requests.pending.find? (fun r => r.ip == ip) = some r) :
    ∃ r', t.cache.requests.pending.find? (fun r => r.ip == ip) = some r' ∧
      outline r' = outline r := by
  have ht := find_outline t.cache.requests ip
  rw [h.queue, ← find_outline, hf] at ht
  exact Option.map_eq_some_iff.mp ht

/-- Two requests with the same outline. -/
structure SameRequest (r r' : SrArpreq) : Prop where
  addr : r'.addr = r.addr
  ip : r'.ip = r.ip
  sent : r'.sent = r.sent
  timesSent : r'.timesSent = r.timesSent
  count : r'.packets.length = r.packets.length

theorem sameRequest_of_outline {r r' : SrArpreq} (h : outline r' = outline r) :
    SameRequest r r' := by
  simp only [outline, Prod.mk.injEq] at h
  obtain ⟨h₁,h₂,h₃,h₄,h₅⟩ := h
  exact ⟨h₁,h₂,h₃,h₄,h₅⟩

theorem Alike.due_iff (h : Alike s t) {r r' : SrArpreq} (hr : SameRequest r r') :
    Due (env.withHeap heap) t r' ↔ Due env s r := by
  rw [Due, Due, SrInstance.now, SrInstance.now, h.times, hr.sent]
  rfl

/-! What the handlers send. -/

/-- A message cut off before its ICMP checksum is the same in both runs. -/
theorem wire_icmpErrorFrame {type code : UInt8} {ttl : UInt8 → UInt8} {buff buff' packet packet' : Mem}
    {i : SrIf} {len : ℕ} (hp : ∀ k < 34, packet' k = packet k) (hlen : len ≤ 36) :
    wire (icmpErrorFrame type code ttl buff' packet' i) len =
      wire (icmpErrorFrame type code ttl buff packet i) len := by
  apply List.map_congr_left
  intro k hk
  exact icmpErrorFrame_head hp ((List.mem_range.mp hk).trans_le hlen)

theorem Alike.errorSent (h : Alike s t) (c d : SendCall) :
    Alike (s.addMalloc.addSend c) (t.addMalloc.addSend d) :=
  ⟨h.ifList, h.routingTable, h.entries, h.queue, h.fresh, h.times⟩

theorem icmpError_together (h : Twins s t) {emitter : Emitter}
    (he : emitter = .timeExceeded ∨ emitter = .destHostUnreach ∨ emitter = .portUnreach)
    (type code : UInt8) (ttl : UInt8 → UInt8) {packet packet' : Buf}
    (hp : ∀ k < 34, packet'.mem k = packet.mem k) {interface : CName} {len : ℕ}
    (hlen : (srGetInterface s.ifList interface).isSome → len ≤ 36) :
    Together (icmpError env emitter type code ttl packet interface len s)
      (icmpError (env.withHeap heap) emitter type code ttl packet' interface len t) := by
  obtain ⟨ha,herr⟩ := h
  cases hi : srGetInterface s.ifList interface with
  | none =>
    have hi' : srGetInterface t.ifList interface = none := by rw [ha.ifList, hi]
    rw [icmpError_of_none env hi, icmpError_of_none _ hi']
    exact herr
  | some i =>
    have hi' : srGetInterface t.ifList interface = some i := by rw [ha.ifList, hi]
    have h36 : len ≤ 36 := hlen (by rw [hi]; rfl)
    rw [icmpError_of_some env hi, icmpError_of_some _ hi']
    refine ⟨ha.errorSent _ _, ?_⟩
    have hcall (env : Env) (s : SrInstance) (packet : Buf) :
        IsIcmpError (icmpErrorCall env s emitter type code ttl packet i interface len) := he
    rw [errorFrames_addSend (hcall _ _ _), errorFrames_addSend (hcall _ _ _)]
    have hframe := @wire_icmpErrorFrame type code ttl (env.malloc s.log.mallocs)
      (heap t.log.mallocs) packet.mem packet'.mem i len hp h36
    exact congrArg₂ List.cons (congrArg (Prod.mk emitter) hframe) herr

/-! The requests. -/

/-- The first waiting packet of two requests: the same header, the same length. -/
def SameHead (r r' : SrArpreq) : Prop :=
  ∀ p p' rest rest', r.packets = p :: rest → r'.packets = p' :: rest' →
    (∀ k < 34, p'.buf.mem k = p.buf.mem k) ∧ p'.len = p.len

/-- No message that the loop sends is longer than what both runs agree on. -/
def ShortHead (env : Env) (s : SrInstance) (r : SrArpreq) : Prop :=
  ∀ p p' rest rt, r.packets = p :: p' :: rest →
    routeAt env s.routingTable r.ip = some rt →
    (srGetInterface s.ifList rt.interface).isSome → p.len ≤ 36

theorem Alike.accessed (h : Alike s t) (a b : Access) : Alike (s.addAccess a) (t.addAccess b) :=
  ⟨h.ifList, h.routingTable, h.entries, h.queue, h.fresh, h.times⟩

/-- The loop over two packets or more, which is never left. -/
theorem giveUpLoop_together {r r' : SrArpreq} (hsame : SameRequest r r') (hhead : SameHead r r')
    {p p' q q' : SrPacket} {rest rest' : List SrPacket} (hp : r.packets = p :: p' :: rest)
    (hp' : r'.packets = q :: q' :: rest') (hr : r ∈ s.cache.requests.pending)
    (hr' : r' ∈ t.cache.requests.pending) (hshort : ShortHead env s r) (h : Twins s t) (fuel : ℕ) :
    Paired (fun _ _ _ _ => False) (fun s' t' => errorFrames t' = errorFrames s')
      (giveUpLoop env fuel r.addr r.packets s)
      (giveUpLoop (env.withHeap heap) fuel r'.addr r'.packets t) := by
  -- a round that ends changes no list, so the invariant is that both runs are where they began
  refine Paired.iterate (fun b c s' t' => b = r.packets ∧ c = r'.packets ∧
    r ∈ s'.cache.requests.pending ∧ r' ∈ t'.cache.requests.pending ∧ ShortHead env s' r ∧
    Twins s' t') ?_ (fun _ _ _ _ hI => hI.2.2.2.2.2.2) fuel ⟨rfl,rfl,hr,hr',hshort,h⟩
  rintro b c s₁ t₁ ⟨rfl,rfl,hr,hr',hshort,ha,herr⟩
  obtain ⟨hmem,hlen⟩ := hhead p q _ _ hp hp'
  have hacc := ha.accessed ⟨r.addr, .ip, false, false⟩ ⟨r'.addr, .ip, false, false⟩
  rw [hp, hp']
  simp only [bind_apply, readReq_of_mem hr, readReq_of_mem hr', hsame.ip]
  -- what is read at the number is the same in both runs, or nothing
  cases hd : env.ipDstAt r.ip with
  | none =>
    have hd' : (env.withHeap heap).ipDstAt r.ip = none := hd
    simp only [longestPrefixSumAt_error env hd, longestPrefixSumAt_error _ hd']
    exact herr
  | some ipDst =>
    have hd' : (env.withHeap heap).ipDstAt r.ip = some ipDst := hd
    simp only [longestPrefixSumAt_apply env hd, longestPrefixSumAt_apply _ hd',
      SrInstance.addAccess_routingTable, ha.routingTable]
    cases hrt : longestPrefixSum s₁.routingTable ipDst with
    | none => exact herr
    | some rt =>
      have hat : routeAt env s₁.routingTable r.ip = some rt := by
        rw [routeAt_of_read hd, hrt]
      have hmsg : Together
          (icmpError env .destHostUnreach 3 1 (fun ttl => ttl) p.buf rt.interface p.len
            (s₁.addAccess ⟨r.addr, .ip, false, false⟩))
          (icmpError (env.withHeap heap) .destHostUnreach 3 1 (fun ttl => ttl) q.buf rt.interface
            p.len (t₁.addAccess ⟨r'.addr, .ip, false, false⟩)) :=
        icmpError_together ⟨hacc,herr⟩ (Or.inr (Or.inl rfl)) 3 1 _ hmem (hshort p p' rest rt hp hat)
      simp only [deref, pure_apply, destHostUnreach, hlen]
      cases hi : srGetInterface (s₁.addAccess ⟨r.addr, .ip, false, false⟩).ifList rt.interface with
      | none =>
        have hi' : srGetInterface (t₁.addAccess ⟨r'.addr, .ip, false, false⟩).ifList rt.interface =
            none := by
          rw [hacc.ifList, hi]
        rw [icmpError_of_none env hi, icmpError_of_none _ hi']
        -- without the interface both runs crash, before the message is sent
        exact herr
      | some i =>
        have hi' : srGetInterface (t₁.addAccess ⟨r'.addr, .ip, false, false⟩).ifList rt.interface =
            some i := by
          rw [hacc.ifList, hi]
        rw [icmpError_of_some env hi, icmpError_of_some _ hi'] at hmsg ⊢
        exact ⟨rfl, rfl, hr, hr', hshort, hmsg⟩

theorem arpRequestCall_not_error (env : Env) (s : SrInstance) (i : SrIf) (ip : UInt32) :
    ¬IsIcmpError (arpRequestCall env s i ip) := by
  rintro (h | h | h) <;> contradiction

/-- A stretch of a run that reads the clock once and leaves tables and queue alone. -/
structure Ticked (s s' : SrInstance) : Prop where
  ifList : s'.ifList = s.ifList
  routingTable : s'.routingTable = s.routingTable
  cache : s'.cache = s.cache
  times : s'.log.times = s.log.times+1

theorem Alike.ticked {s' t' : SrInstance} (h : Alike s t) (hs : Ticked s s') (ht : Ticked t t') :
    Alike s' t' where
  ifList := by rw [hs.ifList, ht.ifList, h.ifList]
  routingTable := by rw [hs.routingTable, ht.routingTable, h.routingTable]
  entries := by rw [hs.cache, ht.cache, h.entries]
  queue := by rw [hs.cache, ht.cache, h.queue]
  fresh := by rw [hs.cache, ht.cache, h.fresh]
  times := by rw [hs.times, ht.times, h.times]

theorem handledState_ticked (env : Env) (s : SrInstance) (r : SrArpreq) :
    Ticked s (handledState env s r) := by
  constructor <;> simp [handledState]

theorem broadcast_ticked (env : Env) (s : SrInstance) (r : SrArpreq) (i : SrIf) :
    Ticked s (broadcastState env (retryingState env s r) r i) := by
  constructor <;> simp [broadcastState, retryingState, handledState]

theorem givingUpState_ticked (env : Env) (s : SrInstance) (r : SrArpreq) :
    Ticked s (givingUpState env s r) := by
  constructor <;> simp [givingUpState, handledState]

theorem retriedState_errorFrames (env : Env) (s : SrInstance) (r : SrArpreq) (i : SrIf) :
    errorFrames (retriedState env s r i) = errorFrames s := by
  have hsends : (retriedState env s r i).log.sends =
      (s.addSend (arpRequestCall env (retryingState env s r) i r.ip)).log.sends := by
    simp [retriedState, stampedState, broadcastState, retryingState, handledState]
  rw [errorFrames_congr hsends, errorFrames_addSend_of_not (arpRequestCall_not_error _ _ _ _)]

theorem gaveUpState_errorFrames (env : Env) (s : SrInstance) (r : SrArpreq) :
    errorFrames (gaveUpState env s r) = errorFrames s := by
  apply errorFrames_congr
  simp [gaveUpState, givingUpState, stampedState, handledState]

theorem Alike.retried (h : Alike s t) {r r' : SrArpreq} (hsame : SameRequest r r') (i : SrIf) :
    Alike (retriedState env s r i) (retriedState (env.withHeap heap) t r' i) := by
  have hnow : t.now (env.withHeap heap) = s.now env := congrArg env.time h.times
  rw [retriedState, retriedState, hnow, hsame.addr]
  exact (h.ticked (broadcast_ticked env s r i) (broadcast_ticked _ t r' i)).stamped r.addr _ false

theorem Alike.gaveUp (h : Alike s t) {r r' : SrArpreq} (hsame : SameRequest r r') :
    Alike (gaveUpState env s r) (gaveUpState (env.withHeap heap) t r') := by
  have hnow : t.now (env.withHeap heap) = s.now env := congrArg env.time h.times
  have hstart := h.ticked (givingUpState_ticked env s r)
    (givingUpState_ticked (env.withHeap heap) t r')
  simp only [gaveUpState, hnow, hsame.addr]
  exact (hstart.destroyed hsame.addr).stamped r.addr _ true

/-- A broadcast that crashes. -/
theorem handleArpreq_retry_fails {r : SrArpreq} (hr : r ∈ s.cache.requests.pending)
    (hd : Due env s r) (hx : ¬5 ≤ r.timesSent) {destRt : Option SrRt}
    (hno : ¬∃ rt i, destRt = some rt ∧ srGetInterface s.ifList rt.interface = some i) (fuel : ℕ) :
    ∃ e s', handleArpreq env fuel r.addr destRt s = .error e s' ∧
      errorFrames s' = errorFrames s := by
  cases h : handleArpreq env fuel r.addr destRt s with
  | ok u s' => exact absurd (handleArpreq_retry_returns env hr hd hx h) hno
  | error e s' =>
    refine ⟨e, s', rfl, ?_⟩
    cases handleArpreq_fails hr h with
    | retrying _ _ _ _ hs => exact errorFrames_congr hs
    | givingUp _ _ h5 => exact absurd h5 hx

/-- The broadcasts of both runs, or their crashes for want of an interface. -/
theorem handleArpreq_retry_together {r r' : SrArpreq} (h : Twins s t)
    (hr : r ∈ s.cache.requests.pending) (hr' : r' ∈ t.cache.requests.pending)
    (hsame : SameRequest r r') (hd : Due env s r) (hx : ¬5 ≤ r.timesSent) (fuel : ℕ)
    (destRt : Option SrRt) :
    Together (handleArpreq env fuel r.addr destRt s)
      (handleArpreq (env.withHeap heap) fuel r'.addr destRt t) := by
  obtain ⟨ha,herr⟩ := h
  have hd' : Due (env.withHeap heap) t r' := (ha.due_iff hsame).mpr hd
  have hx' : ¬5 ≤ r'.timesSent := by
    rw [hsame.timesSent]
    exact hx
  by_cases hrt : ∃ rt i, destRt = some rt ∧ srGetInterface s.ifList rt.interface = some i
  · obtain ⟨rt,i,rfl,hi⟩ := hrt
    have hi' : srGetInterface t.ifList rt.interface = some i := by rw [ha.ifList, hi]
    rw [handleArpreq_of_retry env hr hd hx hi, handleArpreq_of_retry _ hr' hd' hx' hi']
    refine ⟨ha.retried hsame i, ?_⟩
    rw [retriedState_errorFrames, retriedState_errorFrames]
    exact herr
  · have hrt' : ¬∃ rt i, destRt = some rt ∧ srGetInterface t.ifList rt.interface = some i := by
      rw [ha.ifList]
      exact hrt
    obtain ⟨e,s₁,hs₁,hsent⟩ := handleArpreq_retry_fails hr hd hx hrt fuel
    obtain ⟨e',t₁,ht₁,hsent'⟩ := handleArpreq_retry_fails hr' hd' hx' hrt' fuel
    rw [hs₁, ht₁]
    change errorFrames t₁ = errorFrames s₁
    rw [hsent, hsent', herr]

/-- Both runs give the request up: at once if no packet waits, after one round of the loop if
one does, never if more do. -/
theorem handleArpreq_giveUp_together {r r' : SrArpreq} (h : Twins s t)
    (hr : r ∈ s.cache.requests.pending) (hr' : r' ∈ t.cache.requests.pending)
    (hsame : SameRequest r r') (hhead : SameHead r r') (hshort : ShortHead env s r)
    (hd : Due env s r) (hx : 5 ≤ r.timesSent) (fuel : ℕ) (destRt : Option SrRt) :
    Together (handleArpreq env fuel r.addr destRt s)
      (handleArpreq (env.withHeap heap) fuel r'.addr destRt t) := by
  obtain ⟨ha,herr⟩ := h
  have hd' : Due (env.withHeap heap) t r' := (ha.due_iff hsame).mpr hd
  have hx' : 5 ≤ r'.timesSent := by
    rw [hsame.timesSent]
    exact hx
  have hstart : Twins (givingUpState env s r) (givingUpState (env.withHeap heap) t r') :=
    ⟨ha.ticked (givingUpState_ticked env s r) (givingUpState_ticked _ t r'), herr⟩
  have hgave : Twins (gaveUpState env s r) (gaveUpState (env.withHeap heap) t r') := by
    refine ⟨ha.gaveUp hsame, ?_⟩
    rw [gaveUpState_errorFrames, gaveUpState_errorFrames, herr]
  have hcount := hsame.count
  match hp : r.packets, hp' : r'.packets with
  | [], [] =>
    rw [handleArpreq_of_giveUp env hr hd hx, handleArpreq_of_giveUp _ hr' hd' hx', hp, hp',
      if_neg (not_not.mpr rfl), if_neg (not_not.mpr rfl), finishGiveUp_apply (by exact hr),
      finishGiveUp_apply (by exact hr')]
    exact hgave
  | [p], [q] =>
    match fuel with
    | 0 =>
      rw [handleArpreq_of_giveUp env hr hd hx, handleArpreq_of_giveUp _ hr' hd' hx', hp, hp']
      exact hstart.2
    | fuel+1 =>
      rw [handleArpreq_giveUp_of_single env hr hd hx (by simp [hp]) destRt (Nat.succ_pos fuel),
        handleArpreq_giveUp_of_single _ hr' hd' hx' (by simp [hp']) destRt (Nat.succ_pos fuel)]
      exact hgave
  | p :: p' :: rest, q :: q' :: rest' =>
    have hne : r.packets ≠ [] := by simp [hp]
    have hne' : r'.packets ≠ [] := by simp [hp']
    rw [handleArpreq_of_giveUp env hr hd hx, handleArpreq_of_giveUp _ hr' hd' hx', if_pos hne,
      if_pos hne']
    -- the loop never leaves, so nothing is left to show of what comes after it
    refine Paired.bind (giveUpLoop_together hsame hhead hp hp' (by exact hr) (by exact hr') ?_
      hstart fuel) fun _ _ _ _ => False.elim
    exact hshort
  | [], _ :: _ | _ :: _, [] | [_], _ :: _ :: _ | _ :: _ :: _, [_] =>
    rw [hp, hp'] at hcount
    simp at hcount

theorem handleArpreq_together {r r' : SrArpreq} (h : Twins s t)
    (hr : r ∈ s.cache.requests.pending) (hr' : r' ∈ t.cache.requests.pending)
    (hsame : SameRequest r r') (hhead : SameHead r r')
    (hshort : Exhausted env s r → ShortHead env s r) (fuel : ℕ) (destRt : Option SrRt) :
    Together (handleArpreq env fuel r.addr destRt s)
      (handleArpreq (env.withHeap heap) fuel r'.addr destRt t) := by
  by_cases hd : Due env s r
  · by_cases hx : 5 ≤ r.timesSent
    · exact handleArpreq_giveUp_together h hr hr' hsame hhead (hshort ⟨hd,hx⟩) hd hx fuel destRt
    · exact handleArpreq_retry_together h hr hr' hsame hd hx fuel destRt
  · obtain ⟨ha,herr⟩ := h
    have hd' : ¬Due (env.withHeap heap) t r' := mt (ha.due_iff hsame).mp hd
    rw [handleArpreq_of_not_due env hr hd, handleArpreq_of_not_due _ hr' hd']
    exact ⟨ha.ticked (handledState_ticked env s r) (handledState_ticked _ t r'), herr⟩

/-! Packets for elsewhere. -/

section Packets

variable {packet : Buf} {interface : CName} {len : ℕ}

theorem Alike.pushed (h : Alike s t) (ip : UInt32) :
    Alike (s.setRequests (s.cache.requests.push ip)) (t.setRequests (t.cache.requests.push ip)) where
  ifList := h.ifList
  routingTable := h.routingTable
  entries := h.entries
  queue := by
    simp only [SrInstance.setRequests_cache_requests, Requests.push_pending, List.map_cons, h.queue,
      h.fresh]
  fresh := congrArg Nat.succ h.fresh
  times := h.times

theorem Alike.queued (h : Alike s t) (addr : ℕ) (packet : Buf) (len : ℕ) (interface : CName) :
    Alike (queuedState env s addr packet len interface)
      (queuedState (env.withHeap heap) t addr packet len interface) := by
  by_cases hl : len ≠ 0
  swap
  · rw [queuedState, queuedState, if_neg hl, if_neg hl]
    exact h
  have hqueue (s : SrInstance) (copy : SrPacket) :
      (s.cache.requests.modify addr fun r => { r with packets := copy :: r.packets }).pending.map
        outline = (s.cache.requests.pending.map outline).map fun o =>
          if o.1 = addr then (o.1, o.2.1, o.2.2.1, o.2.2.2.1, o.2.2.2.2+1) else o :=
    modify_outline fun _ => rfl
  rw [queuedState, queuedState, if_pos hl, if_pos hl]
  refine ⟨h.ifList, h.routingTable, h.entries, ?_, h.fresh, h.times⟩
  rw [SrInstance.setRequests_cache_requests, SrInstance.setRequests_cache_requests]
  exact (hqueue t _).trans ((congrArg _ h.queue).trans (hqueue s _).symm)

theorem queuedState_errorFrames (env : Env) (s : SrInstance) (addr : ℕ) (packet : Buf) (len : ℕ)
    (interface : CName) :
    errorFrames (queuedState env s addr packet len interface) = errorFrames s := by
  obtain ⟨-,-,-,-,hs,-⟩ := queuedState_frame env s addr packet len interface
  exact errorFrames_congr hs

/-- The newest packets of two requests the same packet has joined. -/
theorem sameHead_queuedCopy (h34 : 34 ≤ len) (fresh fresh' : Mem) {r r' : SrArpreq}
    {rest rest' : List SrPacket} (hr : r.packets = queuedCopy fresh packet len interface :: rest)
    (hr' : r'.packets = queuedCopy fresh' packet len interface :: rest') : SameHead r r' := by
  intro p p' ps ps' hp hp'
  rw [hr] at hp
  rw [hr'] at hp'
  obtain ⟨rfl,-⟩ := List.cons.inj hp
  obtain ⟨rfl,-⟩ := List.cons.inj hp'
  refine ⟨fun k hk => ?_, rfl⟩
  rw [queuedCopy_mem _ _ _ _ (by omega), queuedCopy_mem _ _ _ _ (by omega)]

theorem queueing_together (h : Twins s t) (h34 : 34 ≤ len) {rt : SrRt}
    (httl : 1 < ipTtl packet.mem)
    (hrt : longestPrefixSum s.routingTable (ipDst packet.mem) = some rt)
    (hlk : srArpcacheLookup s.cache.entries (ipDst packet.mem) = none)
    (hshort : Undeliverable env s packet.mem interface → len ≤ 36) (fuel : ℕ) :
    Together
      ((do let req ← srArpcacheQueuereq env (ipDst packet.mem) packet len interface
           handleArpreq env fuel req (some rt)
           pure (some (0 : ℤ))) s)
      ((do let req ← srArpcacheQueuereq (env.withHeap heap) (ipDst packet.mem) packet len interface
           handleArpreq (env.withHeap heap) fuel req (some rt)
           pure (some (0 : ℤ))) t) := by
  obtain ⟨ha,herr⟩ := h
  have hl : len ≠ 0 := by omega
  have hcopies (env : Env) (s : SrInstance) : queuedCopies env s packet len interface =
      [queuedCopy (env.malloc s.log.mallocs) packet len interface] := if_pos hl
  rw [bind_apply, bind_apply, srArpcacheQueuereq_apply, srArpcacheQueuereq_apply]
  cases hf : s.cache.requests.pending.find? (fun r => r.ip == ipDst packet.mem) with
  -- nobody waits for this address: both runs make a request, and handle it at once
  | none =>
    rw [ha.find_none hf]
    dsimp only
    let new (s : SrInstance) : SrArpreq := ⟨s.cache.requests.fresh, ipDst packet.mem, 0, 0, []⟩
    have hs (s : SrInstance) :
        (s.setRequests (s.cache.requests.push (ipDst packet.mem))).cache.requests.pending =
          [] ++ new s :: s.cache.requests.pending := rfl
    have hm := queuedState_pending env (hs s) packet len interface
    have hm' := queuedState_pending (env.withHeap heap) (hs t) packet len interface
    rw [hcopies] at hm hm'
    have htwins := @Alike.queued env heap _ _ (ha.pushed (ipDst packet.mem)) s.cache.requests.fresh
      packet len interface
    simp only [new, ha.fresh] at hm' ⊢
    refine Paired.bind (handleArpreq_together ⟨htwins,?_⟩ (Requests.mem_of_split hm)
      (Requests.mem_of_split hm') ⟨rfl,rfl,rfl,rfl,rfl⟩ ?_ ?_ fuel (some rt)) fun _ _ _ _ h => h
    · rw [queuedState_errorFrames, queuedState_errorFrames]
      exact herr
    · exact sameHead_queuedCopy h34 _ _ rfl rfl
    · -- no second packet waits in a request just made
      rintro - p p' rest rt' hpk
      exact absurd (List.cons.inj hpk).2.symm (List.cons_ne_nil _ _)
  -- the request is there already: should it be given up, the error quotes what waited before
  | some r =>
    obtain ⟨r',hf',ho⟩ := ha.find_some hf
    have hsame := sameRequest_of_outline ho
    rw [hf']
    dsimp only
    obtain ⟨hip,pre,post,hs,-⟩ := List.find?_eq_some_iff_append.mp hf
    obtain ⟨-,pre',post',hs',-⟩ := List.find?_eq_some_iff_append.mp hf'
    have hm := queuedState_pending env hs packet len interface
    have hm' := queuedState_pending (env.withHeap heap) hs' packet len interface
    rw [hcopies] at hm hm'
    have htwins : Twins (queuedState env s r.addr packet len interface)
        (queuedState (env.withHeap heap) t r.addr packet len interface) := by
      refine ⟨ha.queued r.addr packet len interface, ?_⟩
      rw [queuedState_errorFrames, queuedState_errorFrames, herr]
    rw [hsame.addr] at hm' ⊢
    refine Paired.bind (handleArpreq_together htwins (Requests.mem_of_split hm)
      (Requests.mem_of_split hm') ?_ ?_ ?_ fuel (some rt)) fun _ _ _ _ h => h
    · exact ⟨rfl, hsame.ip, hsame.sent, hsame.timesSent, congrArg Nat.succ hsame.count⟩
    · exact sameHead_queuedCopy h34 _ _ rfl rfl
    · intro hx p p' rest rt' hpk hrt' hi
      obtain ⟨rfl,hrest⟩ := List.cons.inj hpk
      obtain ⟨hif,htab,-⟩ := queuedState_frame env s r.addr packet len interface
      have hip' : r.ip = ipDst packet.mem := by simpa using hip
      rw [htab, hip'] at hrt'
      rw [hif] at hi
      have hne : r.packets ≠ [] := by
        rintro h0
        rw [h0] at hrest
        contradiction
      exact hshort (Undeliverable.givenUp httl hrt hlk hf hne (exhausted_queuedState hx)
        hrt' hi)

/-- The common end of the error messages about a packet at hand. -/
theorem bounced_together (h : Twins s t) {emitter : Emitter}
    (he : emitter = .timeExceeded ∨ emitter = .destHostUnreach ∨ emitter = .portUnreach)
    (type code : UInt8) (ttl : UInt8 → UInt8)
    (hlen : (srGetInterface s.ifList interface).isSome → len ≤ 36) :
    Together
      ((do icmpError env emitter type code ttl packet interface len
           pure (none : Option ℤ)) s)
      ((do icmpError (env.withHeap heap) emitter type code ttl packet interface len
           pure (none : Option ℤ)) t) :=
  Paired.bind (icmpError_together h he type code ttl (fun _ _ => rfl) hlen) fun _ _ _ _ h => h

theorem packetToOtherDest_together (h : Twins s t) (h34 : 34 ≤ len)
    (hshort : Undeliverable env s packet.mem interface → len ≤ 36) (fuel : ℕ) :
    Together (packetToOtherDest env fuel packet interface len s)
      (packetToOtherDest (env.withHeap heap) fuel packet interface len t) := by
  obtain ⟨ha,herr⟩ := h
  -- the two states agree on what the way depends on
  have hroute {o : Option SrRt} (hrt : longestPrefixSum s.routingTable (ipDst packet.mem) = o) :
      longestPrefixSum t.routingTable (ipDst packet.mem) = o := by rwa [ha.routingTable]
  have hlookup {o : Option SrArpentry}
      (hlk : srArpcacheLookup s.cache.entries (ipDst packet.mem) = o) :
      srArpcacheLookup t.cache.entries (ipDst packet.mem) = o := by rwa [ha.entries]
  have hiface {name : CName} {o : Option SrIf} (hi : srGetInterface s.ifList name = o) :
      srGetInterface t.ifList name = o := by rwa [ha.ifList]
  cases routeWay s packet.mem with
  | expired ht =>
    rw [packetToOtherDest_of_expired ht, packetToOtherDest_of_expired ht]
    exact bounced_together ⟨ha,herr⟩ (Or.inl rfl) 11 0 _ fun hi =>
      hshort (Undeliverable.expired ht hi)
  | noRoute ht hrt =>
    rw [packetToOtherDest_of_noRoute ht hrt, packetToOtherDest_of_noRoute ht (hroute hrt)]
    exact bounced_together ⟨ha,herr⟩ (Or.inr (Or.inl rfl)) 3 1 _ fun hi =>
      hshort (Undeliverable.noRoute ht hrt hi)
  | unlisted ht hrt hlk hi =>
    rw [packetToOtherDest_of_unlisted ht hrt hlk hi,
      packetToOtherDest_of_unlisted ht (hroute hrt) (hlookup hlk) (hiface hi)]
    exact herr
  | @hit rt e i ht hrt hlk hi =>
    rw [packetToOtherDest_of_hit ht hrt hlk hi,
      packetToOtherDest_of_hit ht (hroute hrt) (hlookup hlk) (hiface hi)]
    have hcall (env : Env) (s : SrInstance) : ¬IsIcmpError (forwardCall env s packet len i e) := by
      rintro (h | h | h) <;> contradiction
    exact Twins.sent ⟨ha,herr⟩ (hcall env s) (hcall (env.withHeap heap) t)
  | miss ht hrt hlk =>
    rw [packetToOtherDest_of_miss ht hrt hlk,
      packetToOtherDest_of_miss ht (hroute hrt) (hlookup hlk)]
    exact queueing_together ⟨ha,herr⟩ h34 ht hrt hlk hshort fuel

end Packets

end InternetCourse.Router
