import InternetCourse.RouterMoves

/-! The representation invariant of the request queue, and what the queue operations
leave alone. -/
namespace InternetCourse.Router

open ByteMem StateTriple

/-- What was checked of a packet before it was made to wait for `ip`. -/
structure Waiting (s : SrInstance) (ip : UInt32) (p : SrPacket) : Prop where
  len : 34 ≤ p.len
  dst : ipDst p.buf.mem = ip
  ttl : 1 < ipTtl p.buf.mem
  checksum : (validateChecksum p.buf.mem p.len).1 = some 0
  route : ∃ rt, longestPrefixSum s.routingTable ip = some rt

structure QueueInv (s : SrInstance) : Prop where
  nodup : (s.cache.requests.pending.map SrArpreq.ip).Nodup
  nonempty : ∀ r ∈ s.cache.requests.pending, r.packets ≠ []
  waiting : ∀ r ∈ s.cache.requests.pending, ∀ p ∈ r.packets, Waiting s r.ip p

/-- The invariant between two moves: what is in hand has been validated. -/
def HandInv (c : SrInstance × List SrPacket) : Prop :=
  QueueInv c.1 ∧ ∀ p ∈ c.2, Accepted p.buf.mem p.len

variable {env : Env} {s s' : SrInstance}

theorem Waiting.accepted {ip : UInt32} {p : SrPacket} (h : Waiting s ip p) :
    Accepted p.buf.mem p.len := by
  exact ⟨if_neg (Nat.not_lt.mpr h.len), h.checksum⟩

theorem Waiting.of_table {ip : UInt32} {p : SrPacket} (h : Waiting s ip p)
    (ht : s'.routingTable = s.routingTable) : Waiting s' ip p :=
  ⟨h.len, h.dst, h.ttl, h.checksum, by rw [ht]; exact h.route⟩

/-- A validated packet that a route takes on waits as a faithful copy. -/
theorem Waiting.of_copy {fresh : Mem} {p : SrPacket} {interface : CName} {rt : SrRt}
    (ha : Accepted p.buf.mem p.len) (ht : 1 < ipTtl p.buf.mem)
    (hr : longestPrefixSum s.routingTable (ipDst p.buf.mem) = some rt) :
    Waiting s (ipDst p.buf.mem) (queuedCopy fresh p.buf p.len interface) := by
  have hl := ((accepted_iff _ _).mp ha).1
  have hb (i : ℕ) (hi : i < p.len) := queuedCopy_mem fresh p.buf p.len interface hi
  refine ⟨hl, ?_, ?_, (ha.congr hb).2, ⟨rt,hr⟩⟩
  · exact get32_congr fun i _ hi => hb i (by omega)
  · rw [ipTtl, hb 22 (by omega)]
    exact ht

theorem Handled.ips {destRt : Option SrRt} {r : SrArpreq} (h : Handled env destRt s r s')
    (hm : r ∈ s.cache.requests.pending) :
    (s'.cache.requests.pending.map SrArpreq.ip).Sublist
      (s.cache.requests.pending.map SrArpreq.ip) := by
  obtain ⟨pre,post,hs⟩ := List.append_of_mem hm
  rw [hs]
  rcases h.pending hs with hp | hp | hp <;> rw [hp]
  · simp
  · -- given up: one request less
    have hsub : (pre ++ post).Sublist (pre ++ r :: post) :=
      (List.sublist_cons_self r post).append_left pre
    exact hsub.map SrArpreq.ip

/-- Requests may leave the queue. -/
theorem QueueInv.sublist (h : QueueInv s) (ht : s'.routingTable = s.routingTable)
    (hp : s'.cache.requests.pending.Sublist s.cache.requests.pending) : QueueInv s' where
  nodup := h.nodup.sublist (hp.map SrArpreq.ip)
  nonempty := by
    intro r hr
    exact h.nonempty r (hp.subset hr)
  waiting := by
    intro r hr p hpk
    exact (h.waiting r (hp.subset hr) p hpk).of_table ht

theorem QueueInv.handled {destRt : Option SrRt} {r : SrArpreq} (h : QueueInv s)
    (hm : r ∈ s.cache.requests.pending) (hh : Handled env destRt s r s') : QueueInv s' where
  nodup := h.nodup.sublist (hh.ips hm)
  nonempty := by
    intro x hx
    obtain ⟨r₀,hr₀,-,-,hpk⟩ := hh.mem hm hx
    rw [← hpk]
    exact h.nonempty r₀ hr₀
  waiting := by
    intro x hx p hp
    obtain ⟨r₀,hr₀,-,hip,hpk⟩ := hh.mem hm hx
    rw [← hpk] at hp
    rw [← hip]
    exact (h.waiting r₀ hr₀ p hp).of_table hh.frame.2.1

theorem Enqueued.nodup {ip : UInt32} {pkts : List SrPacket} {r : SrArpreq}
    (he : Enqueued s ip pkts r s') (hn : (s.cache.requests.pending.map SrArpreq.ip).Nodup) :
    (s'.cache.requests.pending.map SrArpreq.ip).Nodup := by
  rcases he.queue with ⟨pre,r₀,post,hs,-,rfl,hp,-⟩ | ⟨hip,rfl,hp,-⟩
  · rw [hs] at hn
    rw [hp]
    simpa using hn
  · -- a new request was made because none was for this address
    have hnew : ip ∉ s.cache.requests.pending.map SrArpreq.ip := by
      intro hm
      obtain ⟨x,hx,he⟩ := List.mem_map.mp hm
      exact hip x hx he
    rw [hp, List.map_cons]
    exact List.nodup_cons.mpr ⟨hnew,hn⟩

theorem Enqueued.nonempty {ip : UInt32} {p : SrPacket} {pkts : List SrPacket} {r : SrArpreq}
    (he : Enqueued s ip (p :: pkts) r s')
    (h : ∀ x ∈ s.cache.requests.pending, x.packets ≠ []) :
    ∀ x ∈ s'.cache.requests.pending, x.packets ≠ [] := by
  intro x hx
  rcases he.queue with ⟨pre,r₀,post,hs,-,rfl,hp,-⟩ | ⟨-,rfl,hp,-⟩ <;> rw [hp] at hx
  · rw [hs] at h
    rcases List.mem_append.mp hx with hx | hx
    · exact h x (List.mem_append_left _ hx)
    rcases List.mem_cons.mp hx with rfl | hx
    · simp
    · exact h x (List.mem_append_right pre (List.mem_cons_of_mem r₀ hx))
  · rcases List.mem_cons.mp hx with rfl | hx
    · simp
    · exact h x hx

theorem QueueInv.enqueued {fresh : Mem} {p : SrPacket} {interface : CName} {rt : SrRt}
    {r : SrArpreq} (h : QueueInv s) (ha : Accepted p.buf.mem p.len) (ht : 1 < ipTtl p.buf.mem)
    (hrt : longestPrefixSum s.routingTable (ipDst p.buf.mem) = some rt)
    (he : Enqueued s (ipDst p.buf.mem) [queuedCopy fresh p.buf p.len interface] r s') :
    QueueInv s' where
  nodup := he.nodup h.nodup
  nonempty := he.nonempty h.nonempty
  waiting := by
    intro x hx q hq
    apply Waiting.of_table _ he.routingTable
    rcases he.packets hx hq with ⟨hm,hip⟩ | ⟨r₀,hr₀,hip,hm⟩
    · obtain rfl := List.mem_singleton.mp hm
      rw [hip]
      exact Waiting.of_copy ha ht hrt
    · rw [← hip]
      exact h.waiting r₀ hr₀ q hm

/-- One move keeps the invariant. A packet may be made to wait because it was validated
when it was taken in hand, or when it was made to wait before. -/
theorem Move.handInv {c c' : SrInstance × List SrPacket} (h : Move env c c') (hi : HandInv c) :
    HandInv c' := by
  obtain ⟨hq,hh⟩ := hi
  have hsame := List.Sublist.refl c.1.cache.requests.pending
  cases h with
  | arrived | replied | delivered | allocated | accessed | expired =>
    exact ⟨hq.sublist rfl hsame, hh⟩
  | accepted ha =>
    refine ⟨hq.sublist rfl hsame, ?_⟩
    intro p hp
    obtain rfl := List.mem_singleton.mp hp
    exact ha
  | bounced | forwarded =>
    refine ⟨hq.sublist rfl hsame, ?_⟩
    intro p hp
    exact hh p (List.mem_cons_of_mem _ hp)
  | queued ht hrt he =>
    -- an accepted packet is not empty, so a copy of it is made to wait
    have ha := hh _ List.mem_cons_self
    have hl := ((accepted_iff _ _).mp ha).1
    rw [if_pos (by omega)] at he
    refine ⟨hq.enqueued ha ht hrt he, ?_⟩
    intro p hp
    exact hh p (List.mem_cons_of_mem _ hp)
  | handled hm hd => exact ⟨hq.handled hm hd, hh⟩
  | inserted s mac ip =>
    refine ⟨hq.sublist (insertedState_frame env mac ip s).2.1 ?_, ?_⟩
    · rw [insertedState_pending]
      exact List.eraseP_sublist
    · intro p hp
      obtain ⟨r,hr,-,hm⟩ := mem_waitingFor hp
      -- the invariant of the queue gives back what was checked when the packet came in
      exact (hq.waiting r hr p hm).accepted
  | freed => exact ⟨hq.sublist rfl List.eraseP_sublist, hh⟩

theorem Moves.handInv {c c' : SrInstance × List SrPacket} (h : Moves env c c') (hi : HandInv c) :
    HandInv c' :=
  invariant_of_run (fun _ _ hm => hm.handInv) h hi

theorem Initial.queueInv (h : Initial s) : QueueInv s := by
  have hp : s.cache.requests.pending = [] := by
    rw [h.cache]
    rfl
  exact ⟨by simp [hp], by simp [hp], by simp [hp]⟩

theorem Run.queueInv (h : Run env s s') (hi : QueueInv s) : QueueInv s' := by
  have hstart : HandInv (s, []) := ⟨hi, by simp⟩
  exact (h.moves.handInv hstart).1

/-- A router's event, or `sr_arpreq_destroy` on a pending request. -/
def QueueStep (env : Env) (s s' : SrInstance) : Prop :=
  (∃ ev, Step env ev s s') ∨
    ∃ entry ∈ s.cache.requests.pending, srArpreqDestroy entry s = .ok () s'

/-- Any number of events and destructions, in any order. -/
abbrev QueueRun (env : Env) := Relation.ReflTransGen (QueueStep env)

theorem QueueRun.queueInv (h : QueueRun env s s') (hi : QueueInv s) : QueueInv s' := by
  apply invariant_of_run _ h hi
  intro a b hst ha
  rcases hst with ⟨ev,hst⟩ | ⟨entry,-,hd⟩
  · exact Run.queueInv (Relation.ReflTransGen.single ⟨ev,hst⟩) ha
  · obtain rfl := (EStateM.Result.ok.inj hd).2
    exact ha.sublist rfl List.eraseP_sublist

/-- The requests that `p` does not pick out are the same, in the same order. -/
def SameOthers (p : SrArpreq → Bool) (s s' : SrInstance) : Prop :=
  s'.cache.requests.pending.filter (fun r => !p r) = s.cache.requests.pending.filter fun r => !p r

/-- Each queue operation alters at most the request it is about. -/
structure QueueLocal (env : Env) (s : SrInstance) : Prop where
  queuereq : ∀ ip packet len iface, ∃ req s',
    srArpcacheQueuereq env ip packet len iface s = .ok req s' ∧ SameOthers (fun r => r.ip == ip) s s'
  insert : ∀ mac ip, ∃ req s',
    srArpcacheInsert env mac ip s = .ok req s' ∧ SameOthers (fun r => r.ip == ip) s s'
  destroy : ∀ entry, ∃ s',
    srArpreqDestroy entry s = .ok () s' ∧ SameOthers (fun r => r.addr == entry.addr) s s'

theorem Enqueued.sameOthers {ip : UInt32} {pkts : List SrPacket} {r : SrArpreq}
    (h : Enqueued s ip pkts r s') : SameOthers (fun r => r.ip == ip) s s' := by
  rcases h.queue with ⟨pre,r₀,post,hs,hip,rfl,hp,-⟩ | ⟨hip,rfl,hp,-⟩
  · simp only [SameOthers, hs, hp, List.filter_append]
    rw [List.filter_cons_of_neg (by simp [hip]), List.filter_cons_of_neg (by simp [hip])]
  · simp only [SameOthers, hp]
    rw [List.filter_cons_of_neg (by simp)]

theorem filter_eraseP {α : Type} (p : α → Bool) (l : List α) :
    (l.eraseP p).filter (fun a => !p a) = l.filter fun a => !p a := by
  induction l with
  | nil => rfl
  | cons a l ih =>
    cases ha : p a with
    | true => rw [List.eraseP_cons_of_pos ha, List.filter_cons_of_neg (by simp [ha])]
    | false =>
      rw [List.eraseP_cons_of_neg (by simp [ha]), List.filter_cons_of_pos (by simp [ha]),
        List.filter_cons_of_pos (by simp [ha]), ih]

theorem queueLocal (env : Env) (s : SrInstance) : QueueLocal env s where
  queuereq ip packet len iface := by
    obtain ⟨r,s',hq,he⟩ := srArpcacheQueuereq_returns env ip packet len iface s
    exact ⟨_, s', hq, he.sameOthers⟩
  insert mac ip := by
    refine ⟨_, _, srArpcacheInsert_apply env mac ip s, ?_⟩
    rw [SameOthers, insertedState_pending]
    exact filter_eraseP _ _
  destroy entry := ⟨_, rfl, filter_eraseP _ _⟩

/-- In every reachable state the requests have different addresses, each has a packet
waiting, every packet that waits is one `packet_to_other_dest` would send; and no queue
operation alters a request it is not about. -/
theorem queue_invariant {s₀ : SrInstance} (h₀ : Initial s₀) (hrun : QueueRun env s₀ s) :
    QueueInv s ∧ QueueLocal env s :=
  ⟨hrun.queueInv h₀.queueInv, queueLocal env s⟩

theorem queue_invariant_smallRouter :
    QueueInv queuedRouter ∧ QueueLocal obligingHost queuedRouter :=
  queue_invariant smallRouter_initial
    (Relation.ReflTransGen.single (Or.inl ⟨_, step_after (by decide +kernel)⟩))

end InternetCourse.Router
