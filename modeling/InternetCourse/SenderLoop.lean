import InternetCourse.SenderController
import InternetCourse.SlidingWindow
import InternetCourse.StateTriple

/-! The sender of sender.cc: its counters, the three rules of its loop, and its runs against a
receiver that acknowledges what it got. -/
namespace InternetCourse.Sender

open StateTriple

/-- The fields of a message that the sender reads or writes, and what `is_ack` says of it. -/
structure ContestMessage where
  sequenceNumber : UInt64
  sendTimestamp : UInt64
  ackSequenceNumber : UInt64
  ackSendTimestamp : UInt64
  ackRecvTimestamp : UInt64
  isAck : Bool
  deriving DecidableEq

/-- `sent` and `acked` are a ghost record: the numbers sent and the numbers acknowledged, newest
first. No function of the sender looks at it. -/
structure DatagrumpSender (κ : Type) where
  controller : κ
  sequenceNumber : UInt64
  nextAckExpected : UInt64
  sent : List UInt64
  acked : List UInt64

inductive Fault where
  | notAnAck
  | outOfFuel
  deriving DecidableEq

abbrev SenderM (κ : Type) := EStateM Fault (DatagrumpSender κ)

/-- The sender as it is constructed. -/
def datagrumpSender {κ : Type} (c : κ) : DatagrumpSender κ := ⟨c, 0, 0, [], []⟩

section Source

variable {κ : Type} (ops : ControllerOps κ) (clock : ℕ → UInt64)

/-- `clock` is the time at which the `n`-th datagram is stamped. Sends succeed. -/
def sendDatagram (afterTimeout : Bool) : SenderM κ Unit := modify fun s => { s with
  sequenceNumber := s.sequenceNumber+1
  controller := ops.datagramWasSent s.controller s.sequenceNumber (clock s.sent.length) afterTimeout
  sent := s.sequenceNumber :: s.sent }

def gotAck (timestamp : UInt64) (ack : ContestMessage) : SenderM κ Unit := do
  if ¬ack.isAck then throw .notAnAck
  else modify fun s => { s with
    -- acks may come late and out of order
    nextAckExpected := max s.nextAckExpected (ack.ackSequenceNumber+1)
    controller := ops.ackReceived s.controller ack.ackSequenceNumber ack.ackSendTimestamp
      ack.ackRecvTimestamp timestamp
    acked := ack.ackSequenceNumber :: s.acked }

def windowIsOpen (s : DatagrumpSender κ) : Bool :=
  s.sequenceNumber-s.nextAckExpected < (ops.windowSize s.controller).toUInt64

/-- The first rule: `while (window_is_open()) send_datagram(false);` -/
def closeWindow (fuel : ℕ) : SenderM κ Unit :=
  iterate .outOfFuel (fun _ => do
    let s ← get
    if windowIsOpen ops s then
      sendDatagram ops clock false
      pure (.inl ())
    else pure (.inr ())) fuel ()

end Source

/-- The sender and what the receiver has got from it. -/
structure Link (κ : Type) where
  sender : DatagrumpSender κ
  received : List UInt64

/-- A datagram reaches the receiver, or one of the rules of the loop is applied. -/
inductive Event where
  | deliver (n : UInt64)
  | windowOpen
  | ack (timestamp : UInt64) (ack : ContestMessage)
  | timeout
  deriving DecidableEq

/-- The first rule is applied also where the poller would not, as the window is closed. The
receiver acknowledges what it has got, in any order and as often as it likes; what is lost is not
delivered. -/
inductive Step {κ : Type} (ops : ControllerOps κ) (clock : ℕ → UInt64) :
    Event → Link κ → Link κ → Prop where
  | deliver {w : Link κ} {n : UInt64} : n ∈ w.sender.sent →
      Step ops clock (.deliver n) w { w with received := n :: w.received }
  | windowOpen {w : Link κ} {s : DatagrumpSender κ} {fuel : ℕ} :
      closeWindow ops clock fuel w.sender = .ok () s →
      Step ops clock .windowOpen w { w with sender := s }
  -- only what has been received is acknowledged
  | ack {w : Link κ} {s : DatagrumpSender κ} {timestamp : UInt64} {a : ContestMessage} :
      a.ackSequenceNumber ∈ w.received → gotAck ops timestamp a w.sender = .ok () s →
      Step ops clock (.ack timestamp a) w { w with sender := s }
  | timeout {w : Link κ} {s : DatagrumpSender κ} :
      sendDatagram ops clock true w.sender = .ok () s →
      Step ops clock .timeout w { w with sender := s }

/-- A run with the states it went through, the first one first. -/
inductive Run {κ : Type} (ops : ControllerOps κ) (clock : ℕ → UInt64) (w₀ : Link κ) :
    List (Link κ × Event) → Link κ → Prop where
  | start : Run ops clock w₀ [] w₀
  | next {l : List (Link κ × Event)} {w w' : Link κ} {ev : Event} :
      Run ops clock w₀ l w → Step ops clock ev w w' → Run ops clock w₀ (l ++ [(w,ev)]) w'

section Accounting

variable {κ : Type} (ops : ControllerOps κ) {clock : ℕ → UInt64}

def DatagrumpSender.window (s : DatagrumpSender κ) : ℕ := (ops.windowSize s.controller).toNat

/-- How many datagrams are in flight, as the sender computes it. -/
def DatagrumpSender.inFlight (s : DatagrumpSender κ) : ℕ :=
  (s.sequenceNumber-s.nextAckExpected).toNat

/-- The largest window so far. -/
def largestReported (l : List (Link κ × Event)) (w : Link κ) : ℕ :=
  SlidingWindow.peak (l.map fun x => x.1.sender.window ops) (w.sender.window ops)

/-- How many timeouts there have been. -/
def timeouts (l : List (Link κ × Event)) : ℕ := l.countP fun x => x.2 = .timeout

/-- The counters of the sender as those of a sender in unbounded arithmetic. -/
def DatagrumpSender.view (s : DatagrumpSender κ) : SlidingWindow.State :=
  ⟨s.sequenceNumber.toNat, s.nextAckExpected.toNat, s.window ops⟩

/-- What the sender expects next is one past the highest number acknowledged, or 0. -/
def DatagrumpSender.ExpectsNext (s : DatagrumpSender κ) : Prop :=
  s.acked = [] ∧ s.nextAckExpected = 0 ∨
    ∃ n ∈ s.acked, (∀ m ∈ s.acked, m ≤ n) ∧ s.nextAckExpected.toNat = n.toNat+1

/-- The controller changes its window on acknowledgements only. -/
def ChangesOnAcks : Prop := ∀ c n t b,
  ops.windowSize (ops.datagramWasSent c n t b) = ops.windowSize c

end Accounting

/-! The first rule. -/
section Rule

variable {κ : Type} {ops : ControllerOps κ} {clock : ℕ → UInt64} {s s' : DatagrumpSender κ}

/-- The state a datagram more leaves. -/
def DatagrumpSender.send (ops : ControllerOps κ) (clock : ℕ → UInt64) (afterTimeout : Bool)
    (s : DatagrumpSender κ) : DatagrumpSender κ :=
  { s with
    sequenceNumber := s.sequenceNumber+1
    controller :=
      ops.datagramWasSent s.controller s.sequenceNumber (clock s.sent.length) afterTimeout
    sent := s.sequenceNumber :: s.sent }

/-- The state so many datagrams more leave. -/
def DatagrumpSender.sends (ops : ControllerOps κ) (clock : ℕ → UInt64) :
    ℕ → DatagrumpSender κ → DatagrumpSender κ
  | 0, s => s
  | n+1, s => sends ops clock n (s.send ops clock false)

/-- The state an acknowledgement leaves. -/
def DatagrumpSender.heard (ops : ControllerOps κ) (timestamp : UInt64) (ack : ContestMessage)
    (s : DatagrumpSender κ) : DatagrumpSender κ :=
  { s with
    nextAckExpected := max s.nextAckExpected (ack.ackSequenceNumber+1)
    controller := ops.ackReceived s.controller ack.ackSequenceNumber ack.ackSendTimestamp
      ack.ackRecvTimestamp timestamp
    acked := ack.ackSequenceNumber :: s.acked }

theorem sendDatagram_apply (afterTimeout : Bool) :
    sendDatagram ops clock afterTimeout s = .ok () (s.send ops clock afterTimeout) := rfl

theorem send_window (hk : ChangesOnAcks ops) (afterTimeout : Bool) :
    (s.send ops clock afterTimeout).window ops = s.window ops :=
  congrArg UInt32.toNat (hk s.controller _ _ _)

theorem windowIsOpen_iff : windowIsOpen ops s = true ↔ s.inFlight < s.window ops := by
  rw [windowIsOpen, decide_eq_true_iff, UInt64.lt_iff_toNat_lt, UInt32.toNat_toUInt64]
  rfl

/-- While the window is open, the difference does not wrap round. -/
theorem send_inFlight (h : s.inFlight < s.window ops) (afterTimeout : Bool) :
    (s.send ops clock afterTimeout).inFlight = s.inFlight+1 := by
  have hw : s.window ops < 2^32 := (ops.windowSize s.controller).toNat_lt
  have ha := s.sequenceNumber.toNat_lt
  have hb := s.nextAckExpected.toNat_lt
  have h1 : (1 : UInt64).toNat = 1 := rfl
  rw [DatagrumpSender.inFlight] at h ⊢
  dsimp only [DatagrumpSender.send]
  rw [UInt64.toNat_sub, UInt64.toNat_add, h1]
  rw [UInt64.toNat_sub] at h
  rw [DatagrumpSender.inFlight, UInt64.toNat_sub]
  omega

/-- The rule sends what is missing to a full window, if there is fuel for it. -/
theorem closeWindow_apply (hk : ChangesOnAcks ops) (fuel : ℕ) (s : DatagrumpSender κ) :
    closeWindow ops clock fuel s =
      if s.window ops-s.inFlight < fuel then .ok () (s.sends ops clock (s.window ops-s.inFlight))
      else .error .outOfFuel (s.sends ops clock fuel) := by
  induction fuel generalizing s with
  | zero => rfl
  | succ fuel ih =>
    rw [closeWindow, iterate, bind_apply, bind_apply, get_apply]
    dsimp only
    by_cases hopen : s.inFlight < s.window ops
    · have hrest := ih (s.send ops clock false)
      rw [send_window hk, send_inFlight hopen, closeWindow] at hrest
      obtain ⟨k,hk'⟩ : ∃ k, s.window ops-s.inFlight = k+1 :=
        ⟨s.window ops-s.inFlight-1, by omega⟩
      have hk₁ : s.window ops-(s.inFlight+1) = k := by omega
      rw [if_pos (windowIsOpen_iff.mpr hopen), bind_apply, sendDatagram_apply, hk']
      rw [hk₁] at hrest
      simp only [Nat.add_lt_add_iff_right]
      exact hrest
    · have hzero : s.window ops-s.inFlight = 0 := by omega
      rw [if_neg (mt windowIsOpen_iff.mp hopen), hzero, if_pos (Nat.succ_pos fuel)]
      rfl

theorem sends_window (hk : ChangesOnAcks ops) (n : ℕ) (s : DatagrumpSender κ) :
    (s.sends ops clock n).window ops = s.window ops := by
  induction n generalizing s with
  | zero => rfl
  | succ n ih => exact (ih _).trans (send_window hk false)

theorem sends_inFlight (hk : ChangesOnAcks ops) {n : ℕ} {s : DatagrumpSender κ}
    (h : n ≤ s.window ops-s.inFlight) : (s.sends ops clock n).inFlight = s.inFlight+n := by
  induction n generalizing s with
  | zero => rfl
  | succ n ih =>
    have hopen : s.inFlight < s.window ops := by omega
    have hnext := ih (s := s.send ops clock false) (by
      rw [send_window hk, send_inFlight hopen]
      omega)
    rw [send_inFlight hopen] at hnext
    exact hnext.trans (by omega)

theorem sends_record (n : ℕ) (s : DatagrumpSender κ) :
    (s.sends ops clock n).sent.length = s.sent.length+n ∧
    (s.sends ops clock n).nextAckExpected = s.nextAckExpected ∧
    (s.sends ops clock n).acked = s.acked := by
  induction n generalizing s with
  | zero => exact ⟨rfl,rfl,rfl⟩
  | succ n ih =>
    obtain ⟨hl,hn,ha⟩ := ih (s.send ops clock false)
    refine ⟨hl.trans ?_, hn, ha⟩
    dsimp only [DatagrumpSender.send]
    rw [List.length_cons]
    omega

/-- The rule is over after so many rounds, and the window is closed then. -/
theorem closeWindow_settles (hk : ChangesOnAcks ops) (clock : ℕ → UInt64)
    (s : DatagrumpSender κ) : ∃ s', Settles (closeWindow ops clock) s () s' ∧
      s'.sent.length = s.sent.length+(s.window ops-s.inFlight) ∧ windowIsOpen ops s' = false := by
  refine ⟨s.sends ops clock (s.window ops-s.inFlight),
    ⟨s.window ops-s.inFlight+1, fun fuel hf => ?_⟩, (sends_record _ _).1, ?_⟩
  · rw [closeWindow_apply hk, if_pos (by omega)]
  · rw [← Bool.not_eq_true, windowIsOpen_iff, sends_window hk, sends_inFlight hk le_rfl]
    omega

end Rule

/-! What the runs keep. -/
section Runs

variable {κ : Type} {ops : ControllerOps κ} {clock : ℕ → UInt64} {w w' : Link κ} {ev : Event}
  {l : List (Link κ × Event)}

/-- The first so many numbers, the last one first. -/
def numbers (n : ℕ) : List UInt64 := ((List.range n).map UInt64.ofNat).reverse

theorem numbers_succ (n : ℕ) : numbers (n+1) = UInt64.ofNat n :: numbers n := by
  rw [numbers, List.range_succ, List.map_append, List.reverse_append]
  rfl

theorem numbers_length (n : ℕ) : (numbers n).length = n := by
  rw [numbers, List.length_reverse, List.length_map, List.length_range]

theorem mem_numbers {n : ℕ} (hn : n < 2^64) {a : UInt64} : a ∈ numbers n ↔ a.toNat < n := by
  rw [numbers, List.mem_reverse, List.mem_map]
  constructor
  · rintro ⟨k,hk,rfl⟩
    have hlt := List.mem_range.mp hk
    rw [UInt64.toNat_ofNat_of_lt' (hlt.trans hn)]
    exact hlt
  · intro h
    exact ⟨a.toNat, List.mem_range.mpr h, UInt64.ofNat_toNat⟩

/-- The numbers are given out in turn, and nothing is received or acknowledged that was not
sent. -/
structure Numbered (w : Link κ) : Prop where
  sent : w.sender.sent = numbers w.sender.sent.length
  next : w.sender.sequenceNumber = UInt64.ofNat w.sender.sent.length
  received : ∀ n ∈ w.received, n ∈ w.sender.sent
  acked : ∀ n ∈ w.sender.acked, n ∈ w.sender.sent

theorem Numbered.send (h : Numbered w) (afterTimeout : Bool) :
    Numbered { w with sender := w.sender.send ops clock afterTimeout } where
  sent := by
    dsimp only [DatagrumpSender.send]
    rw [List.length_cons, numbers_succ, ← h.sent, h.next]
  next := by
    dsimp only [DatagrumpSender.send]
    rw [List.length_cons, h.next, UInt64.ofNat_add]
    rfl
  received n hn := List.mem_cons_of_mem _ (h.received n hn)
  acked n hn := List.mem_cons_of_mem _ (h.acked n hn)

theorem Numbered.sends (h : Numbered w) (n : ℕ) :
    Numbered { w with sender := w.sender.sends ops clock n } := by
  induction n generalizing w with
  | zero => exact h
  | succ n ih => exact ih (h.send false)

/-- What a step does to the sender: nothing, so many datagrams more, one after a timeout, or
the account of an acknowledgement. -/
theorem Step.cases (hk : ChangesOnAcks ops) (h : Step ops clock ev w w') :
    (∃ n ∈ w.sender.sent, ev = .deliver n ∧ w' = { w with received := n :: w.received }) ∨
    (ev = .windowOpen ∧ w' = { w with
      sender := w.sender.sends ops clock (w.sender.window ops-w.sender.inFlight) }) ∨
    (∃ t a, a.ackSequenceNumber ∈ w.received ∧ ev = .ack t a ∧
      w' = { w with sender := w.sender.heard ops t a }) ∨
    (ev = .timeout ∧ w' = { w with sender := w.sender.send ops clock true }) := by
  cases h with
  | @deliver w n hn => exact Or.inl ⟨n,hn,rfl,rfl⟩
  | @windowOpen w s fuel hs =>
    refine Or.inr (Or.inl ⟨rfl,?_⟩)
    rw [closeWindow_apply hk] at hs
    split at hs
    · rw [(EStateM.Result.ok.inj hs).2]
    · contradiction
  | @ack w s t a hr hs =>
    refine Or.inr (Or.inr (Or.inl ⟨t,a,hr,rfl,?_⟩))
    rw [gotAck] at hs
    split at hs
    · contradiction
    · rw [← (EStateM.Result.ok.inj hs).2]
      rfl
  | timeout hs =>
    refine Or.inr (Or.inr (Or.inr ⟨rfl,?_⟩))
    rw [← (EStateM.Result.ok.inj hs).2]
    rfl

theorem Step.numbered (hk : ChangesOnAcks ops) (h : Step ops clock ev w w') (hn : Numbered w) :
    Numbered w' := by
  rcases h.cases hk with ⟨n,hm,-,rfl⟩ | ⟨-,rfl⟩ | ⟨t,a,hr,-,rfl⟩ | ⟨-,rfl⟩
  · refine ⟨hn.sent, hn.next, ?_, hn.acked⟩
    intro m hm'
    rcases List.mem_cons.mp hm' with rfl | hm'
    · exact hm
    · exact hn.received m hm'
  · exact hn.sends _
  · refine ⟨hn.sent, hn.next, hn.received, ?_⟩
    intro m hm
    rcases List.mem_cons.mp hm with rfl | hm
    · exact hn.received _ hr
    · exact hn.acked m hm
  · exact hn.send true

theorem Step.sent_length (hk : ChangesOnAcks ops) (h : Step ops clock ev w w') :
    w.sender.sent.length ≤ w'.sender.sent.length := by
  rcases h.cases hk with ⟨n,-,-,rfl⟩ | ⟨-,rfl⟩ | ⟨t,a,-,-,rfl⟩ | ⟨-,rfl⟩
  · exact le_rfl
  · dsimp only
    rw [(sends_record _ _).1]
    exact Nat.le_add_right _ _
  · exact le_rfl
  · exact Nat.le_succ _

theorem Numbered.sequenceNumber (h : Numbered w) (hlt : w.sender.sent.length < 2^64) :
    w.sender.sequenceNumber.toNat = w.sender.sent.length := by
  rw [h.next, UInt64.toNat_ofNat_of_lt' hlt]

/-- An acknowledged number was sent, so the one after it can be counted to. -/
theorem Numbered.received_lt (h : Numbered w) (hlt : w.sender.sent.length < 2^64) {n : UInt64}
    (hn : n ∈ w.received) : n.toNat < w.sender.sent.length := by
  have hs := h.received n hn
  rw [h.sent] at hs
  exact (mem_numbers hlt).mp hs

theorem heard_next {s : DatagrumpSender κ} {a : ContestMessage}
    (ha : a.ackSequenceNumber.toNat+1 < 2^64) (t : UInt64) :
    (s.heard ops t a).nextAckExpected.toNat =
      max s.nextAckExpected.toNat (a.ackSequenceNumber.toNat+1) := by
  have h1 : (1 : UInt64).toNat = 1 := rfl
  rw [DatagrumpSender.heard, UInt64.toNat_max, UInt64.toNat_add, h1, Nat.mod_eq_of_lt ha]

theorem Step.expectsNext (hk : ChangesOnAcks ops) (h : Step ops clock ev w w') (hn : Numbered w)
    (hlt : w.sender.sent.length < 2^64) (he : w.sender.ExpectsNext) : w'.sender.ExpectsNext := by
  rcases h.cases hk with ⟨n,-,-,rfl⟩ | ⟨-,rfl⟩ | ⟨t,a,hr,-,rfl⟩ | ⟨-,rfl⟩
  · exact he
  · obtain ⟨-,hnext,hacked⟩ := @sends_record κ ops clock
      (w.sender.window ops-w.sender.inFlight) w.sender
    rw [DatagrumpSender.ExpectsNext]
    dsimp only
    rw [hnext, hacked]
    exact he
  · have hrlt := hn.received_lt hlt hr
    have hmax := @heard_next κ ops w.sender a (by omega) t
    -- the ack is the first, or it competes with the largest number so far
    rcases he with ⟨hnil,hzero⟩ | ⟨n,hmem,hle,hnext⟩
    · refine Or.inr ⟨_, List.mem_cons_self, ?_, ?_⟩
      · intro m hm
        dsimp only [DatagrumpSender.heard] at hm
        rw [hnil] at hm
        rw [List.mem_singleton.mp hm]
        exact UInt64.le_refl _
      · have h0 : w.sender.nextAckExpected.toNat = 0 := by
          rw [hzero]
          rfl
        dsimp only
        omega
    · by_cases hc : a.ackSequenceNumber ≤ n
      · refine Or.inr ⟨n, List.mem_cons_of_mem _ hmem, ?_, ?_⟩
        · intro m hm
          rcases List.mem_cons.mp hm with rfl | hm
          · exact hc
          · exact hle m hm
        · have hc' := UInt64.le_iff_toNat_le.mp hc
          dsimp only
          omega
      · have hc' : n.toNat < a.ackSequenceNumber.toNat := by
          rw [UInt64.le_iff_toNat_le] at hc
          omega
        refine Or.inr ⟨_, List.mem_cons_self, ?_, ?_⟩
        · intro m hm
          rcases List.mem_cons.mp hm with rfl | hm
          · exact UInt64.le_refl _
          · exact UInt64.le_trans (hle m hm) (UInt64.le_iff_toNat_le.mpr hc'.le)
        · dsimp only
          omega
  · exact he

/-- Without a wrap of the difference the two accounts of what is in flight agree. -/
theorem view_inFlight {s : DatagrumpSender κ} (h : (s.view ops).expected ≤ (s.view ops).next) :
    (s.view ops).inFlight = s.inFlight := by
  have ha := s.sequenceNumber.toNat_lt
  have hb := s.nextAckExpected.toNat_lt
  rw [SlidingWindow.State.inFlight, DatagrumpSender.inFlight, UInt64.toNat_sub]
  dsimp only [DatagrumpSender.view] at h ⊢
  omega

/-- Each step of the sender is one of a sender in unbounded arithmetic, or none, as long as the
numbers last. -/
theorem Step.refines (hk : ChangesOnAcks ops) (h : Step ops clock ev w w') (hn : Numbered w)
    (hlt : w'.sender.sent.length < 2^64)
    (ho : (w.sender.view ops).expected ≤ (w.sender.view ops).next) :
    (w'.sender.view ops = w.sender.view ops ∧ ev ≠ .timeout) ∨
    ∃ a, SlidingWindow.Step a (w.sender.view ops) (w'.sender.view ops) ∧
      (a = .nudge ↔ ev = .timeout) := by
  have hw := hn.sequenceNumber ((h.sent_length hk).trans_lt hlt)
  have hw' := (h.numbered hk hn).sequenceNumber hlt
  -- an arrival is none of the window's business; the others are a fill, an ack and a nudge
  rcases h.cases hk with ⟨n,-,rfl,rfl⟩ | ⟨rfl,rfl⟩ | ⟨t,a,hr,rfl,rfl⟩ | ⟨rfl,rfl⟩
  · exact Or.inl ⟨rfl, Event.noConfusion⟩
  · refine Or.inr ⟨.fill, ?_, by simp⟩
    obtain ⟨hlen,hnext,-⟩ := @sends_record κ ops clock
      (w.sender.window ops-w.sender.inFlight) w.sender
    have hin := view_inFlight ho
    rw [SlidingWindow.State.inFlight] at hin
    have hview : (w.sender.sends ops clock (w.sender.window ops-w.sender.inFlight)).view ops =
        ⟨max (w.sender.view ops).next ((w.sender.view ops).expected+(w.sender.view ops).window),
          (w.sender.view ops).expected, (w.sender.view ops).window⟩ := by
      rw [DatagrumpSender.view, sends_window hk, hnext]
      dsimp only [DatagrumpSender.view] at ho hin hw' ⊢
      congr 1
      omega
    dsimp only
    rw [hview]
    exact SlidingWindow.Step.fill
  · refine Or.inr ⟨.ack a.ackSequenceNumber.toNat ((w.sender.heard ops t a).window ops), ?_,
      by simp⟩
    -- what is acknowledged has been sent, as its number was received
    have hrlt := hn.received_lt ((h.sent_length hk).trans_lt hlt) hr
    have hsent : a.ackSequenceNumber.toNat < (w.sender.view ops).next := hrlt.trans_eq hw.symm
    have hlen := h.sent_length hk
    have hview : (w.sender.heard ops t a).view ops = ⟨(w.sender.view ops).next,
        max (w.sender.view ops).expected (a.ackSequenceNumber.toNat+1),
        (w.sender.heard ops t a).window ops⟩ := by
      rw [DatagrumpSender.view, heard_next (by omega)]
      rfl
    dsimp only
    rw [hview]
    exact SlidingWindow.Step.ack _ hsent
  · refine Or.inr ⟨.nudge, ?_, by simp⟩
    have hview : (w.sender.send ops clock true).view ops =
        ⟨(w.sender.view ops).next+1, (w.sender.view ops).expected, (w.sender.view ops).window⟩ := by
      rw [DatagrumpSender.view, send_window hk]
      dsimp only [DatagrumpSender.view, DatagrumpSender.send] at hw' ⊢
      rw [hw', List.length_cons, hw]
    dsimp only
    rw [hview]
    exact SlidingWindow.Step.nudge

/-- The expectation never goes down. -/
theorem Step.expected_le (hk : ChangesOnAcks ops) (h : Step ops clock ev w w') :
    w.sender.nextAckExpected.toNat ≤ w'.sender.nextAckExpected.toNat := by
  rcases h.cases hk with ⟨n,-,-,rfl⟩ | ⟨-,rfl⟩ | ⟨t,a,-,-,rfl⟩ | ⟨-,rfl⟩
  · exact le_rfl
  · dsimp only
    rw [(sends_record _ _).2.1]
  · dsimp only [DatagrumpSender.heard]
    rw [UInt64.toNat_max]
    exact le_max_left _ _
  · exact le_rfl

theorem largestReported_snoc (l : List (Link κ × Event)) (w w' : Link κ) (ev : Event) :
    largestReported ops (l ++ [(w,ev)]) w' =
      max (largestReported ops l w) (w'.sender.window ops) := by
  rw [largestReported, List.map_append]
  exact SlidingWindow.peak_snoc _ _ _

theorem timeouts_snoc (l : List (Link κ × Event)) (w : Link κ) (ev : Event) :
    timeouts (l ++ [(w,ev)]) = timeouts l+if ev = .timeout then 1 else 0 := by
  simp [timeouts, List.countP_append, List.countP_cons]

/-- A whole run is one of a sender in unbounded arithmetic, as long as the numbers last. -/
theorem Run.refines (hk : ChangesOnAcks ops) {c₀ : κ}
    (h : Run ops clock ⟨datagrumpSender c₀, []⟩ l w) (hlt : w.sender.sent.length < 2^64) :
    Numbered w ∧ w.sender.ExpectsNext ∧ ∃ L,
      SlidingWindow.Run ((datagrumpSender c₀).view ops) L (w.sender.view ops) ∧
        SlidingWindow.nudges L = timeouts l ∧
        SlidingWindow.largest L (w.sender.view ops) ≤ largestReported ops l w := by
  induction h with
  | start =>
    refine ⟨⟨rfl,rfl,by simp,by simp [datagrumpSender]⟩, Or.inl ⟨rfl,rfl⟩, [],
      SlidingWindow.Run.start, rfl, le_rfl⟩
  | @next l w w' ev hrun hst ih =>
    have hle := hst.sent_length hk
    obtain ⟨hn,he,L,hL,hnudges,hlargest⟩ := ih (hle.trans_lt hlt)
    refine ⟨hst.numbered hk hn, hst.expectsNext hk hn (hle.trans_lt hlt) he, ?_⟩
    rw [timeouts_snoc, largestReported_snoc]
    rcases hst.refines hk hn hlt (hL.accounted rfl).ordered with ⟨hview,hev⟩ | ⟨a,ha,hev⟩
    · -- the sender took no part
      rw [hview, if_neg hev]
      exact ⟨L, hL, hnudges, le_max_of_le_left hlargest⟩
    · refine ⟨_, hL.next ha, ?_, ?_⟩
      · rw [SlidingWindow.nudges_snoc, hnudges]
        simp only [hev]
      · rw [SlidingWindow.largest_snoc]
        exact max_le_max hlargest le_rfl

theorem Run.expected_le (hk : ChangesOnAcks ops) {w₀ : Link κ} (h : Run ops clock w₀ l w) :
    ∀ x ∈ l, x.1.sender.nextAckExpected ≤ w.sender.nextAckExpected := by
  induction h with
  | start => simp
  | @next l w w' ev _ hst ih =>
    have hle : w.sender.nextAckExpected ≤ w'.sender.nextAckExpected :=
      UInt64.le_iff_toNat_le.mpr (hst.expected_le hk)
    intro x hx
    rcases List.mem_append.mp hx with hx | hx
    · exact UInt64.le_trans (ih x hx) hle
    · rw [List.mem_singleton.mp hx]
      exact hle

end Runs

/-- The window accounting of the sender, in every run in which fewer than 2^64 datagrams are
sent and the window changes on acknowledgements only. -/
theorem window_accounting {κ : Type} {ops : ControllerOps κ} (hk : ChangesOnAcks ops)
    {clock : ℕ → UInt64} {c₀ : κ} {l : List (Link κ × Event)} {w : Link κ}
    (h : Run ops clock ⟨datagrumpSender c₀, []⟩ l w) (hlt : w.sender.sent.length < 2^64) :
    (∀ x ∈ l, x.1.sender.nextAckExpected ≤ w.sender.nextAckExpected) ∧
    w.sender.nextAckExpected ≤ w.sender.sequenceNumber ∧ w.sender.ExpectsNext ∧
    w.sender.sent.reverse.map UInt64.toNat = List.range w.sender.sent.length ∧
    (∃ s', Settles (closeWindow ops clock) w.sender () s' ∧
      s'.sent.length = w.sender.sent.length+(w.sender.window ops-w.sender.inFlight) ∧
      windowIsOpen ops s' = false) ∧
    w.sender.inFlight ≤ largestReported ops l w+timeouts l := by
  obtain ⟨hn,he,L,hL,hnudges,hlargest⟩ := h.refines hk hlt
  obtain ⟨hordered,hbounded⟩ := hL.accounted rfl
  refine ⟨h.expected_le hk, UInt64.le_iff_toNat_le.mpr hordered, he, ?_,
    closeWindow_settles hk clock w.sender, ?_⟩
  · rw [hn.sent, numbers_length, numbers, List.reverse_reverse, List.map_map]
    conv_rhs => rw [← List.map_id (List.range w.sender.sent.length)]
    apply List.map_congr_left
    intro k hk'
    exact UInt64.toNat_ofNat_of_lt' ((List.mem_range.mp hk').trans hlt)
  · rw [view_inFlight hordered] at hbounded
    omega

/-! The first datagram of a full window is acknowledged. -/

def startedLink : Link Controller := ⟨datagrumpSender (controller 10 25), []⟩

def filledLink : Link Controller :=
  { startedLink with sender := finalState (closeWindow aimd (fun _ => 0) 11 startedLink.sender) }

def deliveredLink : Link Controller := { filledLink with received := [0] }

/-- The receiver's answer to the first datagram. -/
def firstAck : ContestMessage := ⟨0, 0, 0, 0, 0, true⟩

def ackedLink : Link Controller :=
  { deliveredLink with sender := finalState (gotAck aimd 50 firstAck deliveredLink.sender) }

def firstRun : List (Link Controller × Event) :=
  [(startedLink, .windowOpen), (filledLink, .deliver 0), (deliveredLink, .ack 50 firstAck)]

theorem window_accounting_firstAck :
    ackedLink.sender.sequenceNumber = 10 ∧ ackedLink.sender.nextAckExpected = 1 ∧
    ackedLink.sender.inFlight ≤ largestReported aimd firstRun ackedLink+timeouts firstRun := by
  have hfill : Step aimd (fun _ => 0) .windowOpen startedLink filledLink :=
    Step.windowOpen (eq_ok_of_returns (by decide +kernel))
  have hdeliver : Step aimd (fun _ => 0) (.deliver 0) filledLink deliveredLink :=
    Step.deliver (by decide +kernel)
  have hack : Step aimd (fun _ => 0) (.ack 50 firstAck) deliveredLink ackedLink :=
    Step.ack (by decide +kernel) (eq_ok_of_returns (by decide +kernel))
  have hrun : Run aimd (fun _ => 0) startedLink firstRun ackedLink :=
    ((Run.start.next hfill).next hdeliver).next hack
  have hall := window_accounting (fun _ _ _ _ => rfl) hrun (by decide +kernel)
  exact ⟨by decide +kernel, by decide +kernel, hall.2.2.2.2.2⟩

end InternetCourse.Sender
