import InternetCourse.RouterReach

/-! The retry protocol: how often, and how far apart, a request is broadcast. -/
namespace InternetCourse.Router

open ByteMem StateTriple

/-- The clock values of the calls of `arp_request_send` for a request, latest first. -/
def broadcastTimes (req : ℕ) (events : List ArpEvent) : List ℤ :=
  events.filterMap fun e => match e with
    | .requestSend r now => if r = req then some now else none
    | _ => none

/-- At most five broadcasts of a request, more than a second apart; and it is given up
only after five, more than a second after the last of them. -/
structure RetryLaw (events : List ArpEvent) : Prop where
  bounded : ∀ req, (broadcastTimes req events).length ≤ 5
  paced : ∀ req, (broadcastTimes req events).IsChain fun later earlier => 1 < later-earlier
  givenUp : ∀ req now later older, events = later ++ .giveUp req now :: older →
    (broadcastTimes req older).length = 5 ∧ ∀ last ∈ (broadcastTimes req older).head?, 1 < now-last

/-- The counters of a pending request agree with the record. -/
structure Accounted (events : List ArpEvent) (r : SrArpreq) : Prop where
  timesSent : (broadcastTimes r.addr events).length = r.timesSent
  bounded : r.timesSent ≤ 5
  sent : ∀ last ∈ (broadcastTimes r.addr events).head?, last = r.sent

def ArpEvent.req : ArpEvent → ℕ
  | .handle req _ => req
  | .requestSend req _ => req
  | .giveUp req _ => req

structure RetryInv (s : SrInstance) : Prop where
  law : RetryLaw s.log.arp
  accounted : ∀ r ∈ s.cache.requests.pending, Accounted s.log.arp r
  fresh : ∀ e ∈ s.log.arp, e.req < s.cache.requests.fresh

section Events

variable {req : ℕ} {now : ℤ} {events : List ArpEvent}

@[simp] theorem broadcastTimes_handle (req req' : ℕ) (now : ℤ) (events : List ArpEvent) :
    broadcastTimes req (.handle req' now :: events) = broadcastTimes req events := rfl

theorem broadcastTimes_requestSend (req : ℕ) (now : ℤ) (events : List ArpEvent) :
    broadcastTimes req (.requestSend req now :: events) = now :: broadcastTimes req events := by
  simp [broadcastTimes]

theorem broadcastTimes_requestSend_ne {req' : ℕ} (h : req' ≠ req) (now : ℤ)
    (events : List ArpEvent) :
    broadcastTimes req (.requestSend req' now :: events) = broadcastTimes req events := by
  simp [broadcastTimes, h]

/-- A request that no event is about has not been broadcast. -/
theorem broadcastTimes_of_fresh (h : ∀ e ∈ events, e.req < req) :
    broadcastTimes req events = [] := by
  rw [broadcastTimes, List.filterMap_eq_nil_iff]
  intro e he
  have hlt := h e he
  cases e with
  | requestSend r now => exact if_neg hlt.ne
  | handle | giveUp => rfl

theorem RetryLaw.handle (h : RetryLaw events) (req : ℕ) (now : ℤ) :
    RetryLaw (.handle req now :: events) := by
  refine ⟨h.bounded, h.paced, ?_⟩
  intro req' now' later older he
  cases later with
  | nil => simp at he
  | cons e later => exact h.givenUp req' now' later older (List.cons.inj he).2

theorem Accounted.congr {events' : List ArpEvent} {r r' : SrArpreq} (h : Accounted events r)
    (he : broadcastTimes r'.addr events' = broadcastTimes r.addr events)
    (ht : r'.timesSent = r.timesSent) (hs : r'.sent = r.sent) : Accounted events' r' := by
  obtain ⟨htimes,hbounded,hsent⟩ := h
  rw [← he, ← ht] at htimes
  rw [← ht] at hbounded
  rw [← he, ← hs] at hsent
  exact ⟨htimes,hbounded,hsent⟩

/-- One more broadcast of a request that is due and has been sent fewer than five times. -/
theorem RetryLaw.requestSend (h : RetryLaw events) {r : SrArpreq} (ha : Accounted events r)
    (hx : r.timesSent < 5) (hd : 1 < now-r.sent) :
    RetryLaw (.requestSend r.addr now :: events) := by
  refine ⟨?_,?_,?_⟩
  · intro req
    by_cases hreq : r.addr = req
    · subst hreq
      rw [broadcastTimes_requestSend, List.length_cons, ha.timesSent]
      omega
    · rw [broadcastTimes_requestSend_ne hreq]
      exact h.bounded req
  · intro req
    by_cases hreq : r.addr = req
    · subst hreq
      rw [broadcastTimes_requestSend, List.isChain_cons]
      refine ⟨?_, h.paced r.addr⟩
      -- the last broadcast was at `r.sent`
      intro last hl
      rw [ha.sent last hl]
      exact hd
    · rw [broadcastTimes_requestSend_ne hreq]
      exact h.paced req
  · intro req' now' later older he
    cases later with
    | nil => simp at he
    | cons e later => exact h.givenUp req' now' later older (List.cons.inj he).2

/-- A request that is due and has been sent five times is given up. -/
theorem RetryLaw.giveUp (h : RetryLaw events) {r : SrArpreq} (ha : Accounted events r)
    (hx : 5 ≤ r.timesSent) (hd : 1 < now-r.sent) :
    RetryLaw (.giveUp r.addr now :: events) := by
  refine ⟨h.bounded, h.paced, ?_⟩
  intro req' now' later older he
  cases later with
  | nil =>
    obtain ⟨hg,rfl⟩ := List.cons.inj he
    obtain ⟨rfl,rfl⟩ := ArpEvent.giveUp.inj hg
    have hb := ha.bounded
    -- five at least by the guard, and never more by the invariant
    have hfive : (broadcastTimes r.addr events).length = 5 := by
      rw [ha.timesSent]
      omega
    refine ⟨hfive,?_⟩
    intro last hl
    rw [ha.sent last hl]
    exact hd
  | cons e later => exact h.givenUp req' now' later older (List.cons.inj he).2

end Events

variable {env : Env} {s s' : SrInstance}

theorem RetryInv.handled {destRt : Option SrRt} {r : SrArpreq} (h : RetryInv s)
    (hm : r ∈ s.cache.requests.pending) (hh : Handled env destRt s r s') : RetryInv s' := by
  obtain ⟨pre,post,hs⟩ := List.append_of_mem hm
  have hlt := s.cache.requests.lt_fresh r hm
  have hf := hh.frame.2.2.2.2
  -- the other requests have other addresses, so the new events are not about them
  have hother {x : SrArpreq} (hx : x ∈ pre ++ post) :
      x ∈ s.cache.requests.pending ∧ x.addr ≠ r.addr := by
    refine ⟨?_, Requests.addr_ne_of_split hs hx⟩
    rw [hs]
    rcases List.mem_append.mp hx with hx | hx
    · exact List.mem_append_left _ hx
    · exact List.mem_append_right _ (List.mem_cons_of_mem r hx)
  -- events are about addresses that have been handed out
  have hkeep (events : List ArpEvent) (hnew : ∀ e ∈ events, e.req = r.addr) :
      ∀ e ∈ events ++ s.log.arp, e.req < s.cache.requests.fresh := by
    intro e he
    rcases List.mem_append.mp he with he | he
    · exact hnew e he ▸ hlt
    · exact h.fresh e he
  cases hh with
  | notDue =>
    refine ⟨h.law.handle _ _, ?_, ?_⟩
    · intro x hx
      exact (h.accounted x hx).congr rfl rfl rfl
    · exact hkeep [.handle r.addr (s.now env)] (by simp [ArpEvent.req])
  | @retried rt i hd hx =>
    have ha := h.accounted r hm
    refine ⟨?_,?_,?_⟩
    · rw [retriedState_arp]
      exact (h.law.handle _ _).requestSend (ha.congr rfl rfl rfl) hx hd
    · intro x hmem
      rw [retriedState_pending hs] at hmem
      rw [retriedState_arp]
      have hsame (hx : x ∈ pre ++ post) : Accounted (.requestSend r.addr (s.now env) ::
          .handle r.addr (s.now env) :: s.log.arp) x := by
        obtain ⟨hxm,hne⟩ := hother hx
        exact (h.accounted x hxm).congr (broadcastTimes_requestSend_ne hne.symm _ _) rfl rfl
      rcases List.mem_append.mp hmem with hx' | hx'
      · exact hsame (List.mem_append_left post hx')
      rcases List.mem_cons.mp hx' with rfl | hx'
      · -- the request itself: one more broadcast, and both counters say so
        refine ⟨?_, by dsimp only; omega, ?_⟩ <;> dsimp only <;> rw [broadcastTimes_requestSend]
        · rw [broadcastTimes_handle, List.length_cons, ha.timesSent]
        · simp
      · exact hsame (List.mem_append_right pre hx')
    · rw [retriedState_arp, hf]
      exact hkeep [_, _] (by simp [ArpEvent.req])
  | gaveUp hd hx =>
    have ha := h.accounted r hm
    refine ⟨?_,?_,?_⟩
    · rw [gaveUpState_arp]
      exact (h.law.handle _ _).giveUp (ha.congr rfl rfl rfl) hx hd
    · intro x hmem
      rw [gaveUpState_pending hs] at hmem
      rw [gaveUpState_arp]
      obtain ⟨hxm,-⟩ := hother hmem
      exact (h.accounted x hxm).congr rfl rfl rfl
    · rw [gaveUpState_arp, hf]
      exact hkeep [_, _] (by simp [ArpEvent.req])

/-- Events that the record and the counters do not see. -/
theorem RetryInv.of_mem (h : RetryInv s) (harp : s'.log.arp = s.log.arp)
    (hfresh : s'.cache.requests.fresh = s.cache.requests.fresh)
    (hp : ∀ x ∈ s'.cache.requests.pending, x ∈ s.cache.requests.pending) : RetryInv s' := by
  obtain ⟨hlaw,hacc,hold⟩ := h
  rw [← harp] at hlaw hacc hold
  rw [← hfresh] at hold
  refine ⟨hlaw,?_,hold⟩
  intro x hx
  exact hacc x (hp x hx)

theorem RetryInv.enqueued {ip : UInt32} {pkts : List SrPacket} {r : SrArpreq} (h : RetryInv s)
    (he : Enqueued s ip pkts r s') : RetryInv s' := by
  obtain ⟨hlaw,hacc,hold⟩ := h
  -- a packet joins a request of which nothing on record changes, or a new one is made
  rcases he.queue with ⟨pre,r₀,post,hs,-,rfl,hp,hf⟩ | ⟨-,rfl,hp,hf⟩
  · rw [hs] at hacc
    refine ⟨?_,?_,?_⟩
    · rw [he.arp]
      exact hlaw
    · rw [he.arp, hp]
      intro x hx
      rcases List.mem_append.mp hx with hx | hx
      · exact hacc x (List.mem_append_left _ hx)
      rcases List.mem_cons.mp hx with rfl | hx
      · have ha := hacc r₀ (List.mem_append_right pre List.mem_cons_self)
        exact ha.congr rfl rfl rfl
      · exact hacc x (List.mem_append_right pre (List.mem_cons_of_mem r₀ hx))
    · rw [he.arp, hf]
      exact hold
  · refine ⟨?_,?_,?_⟩
    · rw [he.arp]
      exact hlaw
    · rw [he.arp, hp]
      intro x hx
      rcases List.mem_cons.mp hx with rfl | hx
      · -- the address is new, so the record has nothing about it
        have hnil := broadcastTimes_of_fresh hold
        exact ⟨by simp [hnil], by simp, by simp [hnil]⟩
      · exact hacc x hx
    · rw [he.arp, hf]
      intro e hm
      exact (hold e hm).trans (Nat.lt_succ_self _)

theorem Move.retryInv {c c' : SrInstance × List SrPacket} (h : Move env c c')
    (hi : RetryInv c.1) : RetryInv c'.1 := by
  cases h with
  | queued _ _ he => exact hi.enqueued he
  | handled hm hh => exact hi.handled hm hh
  | inserted s mac ip =>
    have hq := @insertedState_pending env mac ip s
    apply hi.of_mem (insertedState_frame env mac ip s).2.2.2.1
    · rw [hq]
      rfl
    · rw [hq]
      intro x hx
      exact List.mem_of_mem_eraseP hx
  | freed =>
    refine hi.of_mem rfl rfl ?_
    intro x hx
    exact List.mem_of_mem_eraseP hx
  | _ => exact hi.of_mem rfl rfl fun x hx => hx

theorem Initial.retryInv (h : Initial s) : RetryInv s := by
  have ha : s.log.arp = [] := by rw [h.log]; rfl
  have hp : s.cache.requests.pending = [] := by rw [h.cache]; rfl
  refine ⟨?_, by simp [hp], by simp [ha]⟩
  rw [ha]
  exact ⟨by simp [broadcastTimes], by simp [broadcastTimes], by simp⟩

theorem Stopped.retryLaw {c : SrInstance × List SrPacket} (h : Stopped env c s')
    (hi : RetryInv c.1) : RetryLaw s'.log.arp := by
  obtain ⟨c',hm,h'⟩ := h
  have hi' : RetryInv c'.1 :=
    invariant_of_run (I := fun c => RetryInv c.1) (fun _ _ hm => hm.retryInv) hm hi
  rcases h' with rfl | ⟨r,hr,hint⟩
  · exact hi'.law
  · have ha := hi'.accounted r hr
    cases hint with
    | retrying _ hd hx harp =>
      rw [harp]
      exact (hi'.law.handle _ _).requestSend (ha.congr rfl rfl rfl) hx hd
    | givingUp _ hd hx harp =>
      rw [harp]
      exact (hi'.law.handle _ _).giveUp (ha.congr rfl rfl rfl) hx hd

/-- The retry protocol is bounded and paced: `times_sent` of a pending request is the
number of its broadcasts, at most five, and the law holds of the record at all times, also
in the middle of an event. -/
theorem arp_retries_bounded_and_paced {s₀ : SrInstance} (h₀ : Initial s₀) :
    (∀ s, Run env s₀ s → ∀ r ∈ s.cache.requests.pending,
      (broadcastTimes r.addr s.log.arp).length = r.timesSent ∧ r.timesSent ≤ 5) ∧
    ∀ s, Observable env s₀ s → RetryLaw s.log.arp := by
  constructor
  · intro s hrun r hr
    have hi : RetryInv s := invariant_of_run (I := fun c => RetryInv c.1)
      (fun _ _ hm => hm.retryInv) hrun.moves h₀.retryInv
    have ha := hi.accounted r hr
    exact ⟨ha.timesSent,ha.bounded⟩
  · intro s hobs
    exact hobs.stopped.retryLaw h₀.retryInv

/-- The small router when nobody has answered for five sweeps. -/
def unansweredRouter : SrInstance :=
  afterAll obligingHost 1 [.receive transitFrame (fun _ => 0) eth0, .sweep, .sweep, .sweep, .sweep,
    .sweep] smallRouter

theorem arp_retries_bounded_and_paced_unanswered :
    .giveUp 0 110 ∈ unansweredRouter.log.arp ∧ RetryLaw unansweredRouter.log.arp := by
  have hrun : Run obligingHost smallRouter unansweredRouter := run_afterAll (by decide +kernel)
  exact ⟨by decide +kernel,
    (arp_retries_bounded_and_paced smallRouter_initial).2 _ ⟨_, hrun, Or.inl rfl⟩⟩

end InternetCourse.Router
