import InternetCourse.SenderController
import Mathlib.Algebra.Order.Ring.Int
import Mathlib.Data.List.Count

/-! The controller of controller_throughput.cc, which counts the acks in each slot of time. Its
rates are exact here, and what it counts with is rounded as a `double` is. -/
namespace InternetCourse.Sender.Throughput

/-- A whole number as a `double`: 53 bits of it, a tie going to the even one. -/
def toDouble (n : ℕ) : ℕ :=
  let ulp := 2^(n.log2-52)
  if ulp < 2*(n%ulp) ∨ ulp = 2*(n%ulp) ∧ n/ulp%2 = 1 then ulp*(n/ulp+1) else ulp*(n/ulp)

def alpha : ℚ := 15/100
def nextTimeOut : ℚ := 100
def slot : ℕ := 30

/-- The window and the globals. -/
structure Controller where
  thisWindow : ℚ
  estimateThroughput : ℚ
  observedThroughput : ℚ
  delay : ℚ
  successiveTimeOut : ℕ
  endTime : UInt64
  packetCount : ℕ

def initially (window : ℚ) : Controller := ⟨window, 0, 0, 50, 0, 0, 0⟩

def timeoutMs : UInt64 := UInt64.ofNat (truncate nextTimeOut).toNat

/-- `slot+end_time`; the conversion back is defined where the sum is below 2^64. -/
def nextEnd (endTime : UInt64) : UInt64 := UInt64.ofNat (toDouble (slot+toDouble endTime.toNat))

def ackReceived (c : Controller) (_sequenceNumberAcked sendTimestampAcked _recvTimestampAcked
    timestampAckReceived : UInt64) : Controller :=
  let c : Controller :=
    if timeoutMs < timestampAckReceived-sendTimestampAcked then
      { c with successiveTimeOut := toDouble (c.successiveTimeOut+1) }
    else { c with successiveTimeOut := 0 }
  let c : Controller := { c with delay := if 2 ≤ c.successiveTimeOut then 44 else 50 }
  let c : Controller :=
    if timestampAckReceived ≤ c.endTime then
      { c with packetCount := toDouble (c.packetCount+1) }
    else
      let observedThroughput := c.packetCount/((slot : ℚ)/2)
      let estimateThroughput := c.estimateThroughput*(1-alpha)+alpha*observedThroughput
      { c with
        observedThroughput := observedThroughput
        estimateThroughput := estimateThroughput
        thisWindow := estimateThroughput*c.delay
        -- one slot further, however late the ack is
        endTime := nextEnd c.endTime
        packetCount := 1 }
  if c.thisWindow < 1 then { c with thisWindow := 3 } else c

def Controller.acked (c : Controller) (a : AckCall) : Controller :=
  ackReceived c a.sequenceNumberAcked a.sendTimestampAcked a.recvTimestampAcked
    a.timestampAckReceived

/-- The controller after some calls, the last one first. -/
def afterAcks (window : ℚ) : List AckCall → Controller
  | [] => initially window
  | a :: before => (afterAcks window before).acked a

/-- The call closes the slot. -/
def Closes (c : Controller) (a : AckCall) : Prop := c.endTime < a.timestampAckReceived

instance (c : Controller) (a : AckCall) : Decidable (Closes c a) :=
  inferInstanceAs (Decidable (c.endTime < a.timestampAckReceived))

/-- The timestamp lies in the slot that ends then. -/
def InSlot (endTime : UInt64) (a : AckCall) : Prop :=
  (endTime.toNat : ℤ)-slot < a.timestampAckReceived.toNat ∧ a.timestampAckReceived ≤ endTime

instance (endTime : UInt64) (a : AckCall) : Decidable (InSlot endTime a) :=
  inferInstanceAs (Decidable (_ ∧ _))

/-- How many of the acks lie in the slot. -/
def countIn (endTime : UInt64) (acks : List AckCall) : ℕ :=
  acks.countP fun a => InSlot endTime a

/-- The slot that a call closes has the acks counted that lie in it, and the next one contains the
ack of the call. -/
structure SlotRight (c : Controller) (before : List AckCall) (a : AckCall) : Prop where
  count : c.packetCount = countIn c.endTime (a :: before)
  contains : a.timestampAckReceived ≤ (c.acked a).endTime

/-- `P` holds of each call and the calls before it. -/
def EachCall (P : List AckCall → AckCall → Prop) : List AckCall → Prop
  | [] => True
  | a :: before => EachCall P before ∧ P before a

theorem EachCall.imp {P Q : List AckCall → AckCall → Prop} {acks : List AckCall}
    (h : EachCall P acks) (hpq : ∀ before a, P before a → Q before a) : EachCall Q acks := by
  induction acks with
  | nil => exact True.intro
  | cons a before ih => exact ⟨ih h.1, hpq before a h.2⟩

/-- The timestamps never go back. -/
def NonDecreasing (acks : List AckCall) : Prop :=
  EachCall (fun before a => ∀ b ∈ before, b.timestampAckReceived ≤ a.timestampAckReceived) acks

def SlotsRight (window : ℚ) (acks : List AckCall) : Prop :=
  EachCall (fun before a => Closes (afterAcks window before) a →
    SlotRight (afterAcks window before) before a) acks

/-- The ack comes before the next slot is over. -/
def NoGap (c : Controller) (a : AckCall) : Prop :=
  a.timestampAckReceived.toNat ≤ c.endTime.toNat+slot

/-- A `double` holds the sum that the call computes. -/
def ExactSum (c : Controller) (a : AckCall) : Prop :=
  if a.timestampAckReceived ≤ c.endTime then toDouble (c.packetCount+1) = c.packetCount+1
  else (nextEnd c.endTime).toNat = c.endTime.toNat+slot

/-! One call. -/
section Call

variable {c : Controller} {a : AckCall} {before : List AckCall}

theorem acked_within (h : a.timestampAckReceived ≤ c.endTime) :
    (c.acked a).endTime = c.endTime ∧ (c.acked a).packetCount = toDouble (c.packetCount+1) := by
  rw [Controller.acked, ackReceived]
  simp only [apply_ite Controller.endTime, apply_ite Controller.packetCount, ite_self, h, if_true,
    and_self]

theorem acked_closes (h : Closes c a) :
    (c.acked a).endTime = nextEnd c.endTime ∧ (c.acked a).packetCount = 1 := by
  have hnot : ¬a.timestampAckReceived ≤ c.endTime := UInt64.not_le.mpr h
  rw [Controller.acked, ackReceived]
  simp only [apply_ite Controller.endTime, apply_ite Controller.packetCount, ite_self, hnot,
    if_false, and_self]

/-- What is known of the slot before a call: its acks are counted, none is late for it, and the
next one will not be early. -/
structure Counting (c : Controller) (before : List AckCall) : Prop where
  count : c.packetCount = countIn c.endTime before
  le_end : ∀ b ∈ before, b.timestampAckReceived ≤ c.endTime
  started : ∀ t : ℕ, (∀ b ∈ before, b.timestampAckReceived.toNat ≤ t) →
    (c.endTime.toNat : ℤ)-slot < t

theorem counting_initially (window : ℚ) : Counting (initially window) [] where
  count := rfl
  le_end := fun b hb => absurd hb List.not_mem_nil
  started := by
    intro t _
    have hend : (initially window).endTime.toNat = 0 := rfl
    rw [hend, slot]
    omega

theorem countIn_cons_in {endTime : UInt64} (h : InSlot endTime a) :
    countIn endTime (a :: before) = countIn endTime before+1 :=
  List.countP_cons_of_pos (decide_eq_true h)

theorem countIn_cons_out {endTime : UInt64} (h : ¬InSlot endTime a) :
    countIn endTime (a :: before) = countIn endTime before :=
  List.countP_cons_of_neg (by rw [decide_eq_true_eq]; exact h)

theorem countIn_eq_zero {endTime : UInt64} (h : ∀ b ∈ before, ¬InSlot endTime b) :
    countIn endTime before = 0 := by
  rw [countIn, List.countP_eq_zero]
  intro b hb
  rw [decide_eq_true_eq]
  exact h b hb

/-- An ack within the slot is counted. -/
theorem Counting.within (h : Counting c before) (hin : a.timestampAckReceived ≤ c.endTime)
    (hmono : ∀ b ∈ before, b.timestampAckReceived ≤ a.timestampAckReceived)
    (hexact : ExactSum c a) : Counting (c.acked a) (a :: before) := by
  obtain ⟨hend,hcount⟩ := acked_within hin
  rw [ExactSum, if_pos hin] at hexact
  have hstart := h.started a.timestampAckReceived.toNat hmono
  refine ⟨?_, ?_, ?_⟩
  · rw [hcount, hexact, hend, h.count, countIn_cons_in ⟨hstart,hin⟩]
  · intro b hb
    rw [hend]
    rcases List.mem_cons.mp hb with rfl | hb
    · exact hin
    · exact h.le_end b hb
  · intro t ht
    rw [hend]
    exact h.started t fun b hb => ht b (List.mem_cons_of_mem a hb)

/-- An ack behind the slot opens the next one, in which it is the first. -/
theorem Counting.closes (h : Counting c before) (hc : Closes c a) (hgap : NoGap c a)
    (hexact : ExactSum c a) : Counting (c.acked a) (a :: before) := by
  obtain ⟨hend,hcount⟩ := acked_closes hc
  have hnot : ¬a.timestampAckReceived ≤ c.endTime := UInt64.not_le.mpr hc
  have hlt : c.endTime.toNat < a.timestampAckReceived.toNat := hc
  rw [ExactSum, if_neg hnot] at hexact
  rw [NoGap] at hgap
  have hslot : InSlot (nextEnd c.endTime) a := by
    rw [InSlot, UInt64.le_iff_toNat_le, hexact]
    omega
  refine ⟨?_, ?_, ?_⟩
  · have hnone : countIn (nextEnd c.endTime) before = 0 := by
      apply countIn_eq_zero
      intro b hb hin
      have hle : b.timestampAckReceived.toNat ≤ c.endTime.toNat := h.le_end b hb
      have hearly := hin.1
      rw [hexact] at hearly
      omega
    rw [hcount, hend, countIn_cons_in hslot, hnone]
  · intro b hb
    rw [hend, UInt64.le_iff_toNat_le, hexact]
    rcases List.mem_cons.mp hb with rfl | hb
    · exact hgap
    · have hle : b.timestampAckReceived.toNat ≤ c.endTime.toNat := h.le_end b hb
      omega
  · intro t ht
    have hat := ht a List.mem_cons_self
    rw [hend, hexact]
    omega

/-- The slot that is closed has been counted, and if no slot is skipped the next one contains the
ack. -/
theorem Counting.slotRight (h : Counting c before) (hc : Closes c a) (hgap : NoGap c a)
    (hexact : ExactSum c a) : SlotRight c before a where
  count := by
    have hlt : ¬a.timestampAckReceived ≤ c.endTime := UInt64.not_le.mpr hc
    rw [h.count, countIn_cons_out fun hin => hlt hin.2]
  contains := (h.closes hc hgap hexact).le_end a List.mem_cons_self

/-- A slot that contains the ack comes next only if none is skipped. -/
theorem SlotRight.noGap (h : Closes c a → SlotRight c before a) (hexact : ExactSum c a) :
    NoGap c a := by
  rw [NoGap]
  by_cases hin : a.timestampAckReceived ≤ c.endTime
  · have hle : a.timestampAckReceived.toNat ≤ c.endTime.toNat := hin
    omega
  · have hc : Closes c a := UInt64.not_le.mp hin
    have hcontains := (h hc).contains
    rw [ExactSum, if_neg hin] at hexact
    rw [(acked_closes hc).1, UInt64.le_iff_toNat_le, hexact] at hcontains
    exact hcontains

end Call

/-! All calls. -/
section Calls

variable {window : ℚ} {acks : List AckCall}

/-- `P` holds of the controller and the call, each time. -/
def EachStep (window : ℚ) (P : Controller → AckCall → Prop) (acks : List AckCall) : Prop :=
  EachCall (fun before a => P (afterAcks window before) a) acks

/-- While no slot is skipped the acks are counted in their slots. -/
theorem counting_afterAcks (hmono : NonDecreasing acks) (hexact : EachStep window ExactSum acks)
    (hgap : EachStep window NoGap acks) : Counting (afterAcks window acks) acks := by
  induction acks with
  | nil => exact counting_initially window
  | cons a before ih =>
    have h := ih hmono.1 hexact.1 hgap.1
    by_cases hin : a.timestampAckReceived ≤ (afterAcks window before).endTime
    · exact h.within hin hmono.2 hexact.2
    · exact h.closes (UInt64.not_le.mp hin) hgap.2 hexact.2

theorem slotsRight_of_each (hmono : NonDecreasing acks) (hexact : EachStep window ExactSum acks)
    (hgap : EachStep window NoGap acks) : SlotsRight window acks := by
  induction acks with
  | nil => exact True.intro
  | cons a before ih =>
    refine ⟨ih hmono.1 hexact.1 hgap.1, ?_⟩
    intro hc
    exact (counting_afterAcks hmono.1 hexact.1 hgap.1).slotRight hc hgap.2 hexact.2

theorem noGap_of_slotsRight (hexact : EachStep window ExactSum acks)
    (h : SlotsRight window acks) : EachStep window NoGap acks := by
  induction acks with
  | nil => exact True.intro
  | cons a before ih => exact ⟨ih hexact.1 h.1, SlotRight.noGap h.2 hexact.2⟩

theorem toDouble_of_lt {n : ℕ} (h : n < 2^53) : toDouble n = n := by
  have hlog : n.log2-52 = 0 := by
    rcases Nat.eq_zero_or_pos n with rfl | hpos
    · rfl
    · have hlt := (Nat.log2_lt hpos.ne').mpr h
      omega
  rw [toDouble, hlog]
  simp only [pow_zero, Nat.mod_one, Nat.div_one]
  norm_num

/-- How far the counters can have got. -/
structure Small (c : Controller) (n : ℕ) : Prop where
  endTime : c.endTime.toNat ≤ slot*n
  packetCount : c.packetCount ≤ n

theorem nextEnd_toNat {endTime : UInt64} {n : ℕ} (h : endTime.toNat ≤ slot*n) (hn : n < 2^48) :
    (nextEnd endTime).toNat = endTime.toNat+slot := by
  have hslot : slot = 30 := rfl
  have hlt : slot+endTime.toNat < 2^53 := by
    rw [hslot] at h ⊢
    omega
  have hend : toDouble endTime.toNat = endTime.toNat := toDouble_of_lt (by omega)
  rw [nextEnd, hend, toDouble_of_lt hlt, UInt64.toNat_ofNat']
  omega

theorem Small.exactSum {c : Controller} {n : ℕ} (h : Small c n) (hn : n < 2^48) (a : AckCall) :
    ExactSum c a := by
  have hcount := h.packetCount
  rw [ExactSum]
  split_ifs
  · exact toDouble_of_lt (by omega)
  · exact nextEnd_toNat h.endTime hn

theorem Small.acked {c : Controller} {n : ℕ} (h : Small c n) (hn : n < 2^48) (a : AckCall) :
    Small (c.acked a) (n+1) := by
  have hexact := h.exactSum hn a
  have hend := h.endTime
  have hcount := h.packetCount
  by_cases hin : a.timestampAckReceived ≤ c.endTime
  · rw [ExactSum, if_pos hin] at hexact
    obtain ⟨hend',hcount'⟩ := acked_within hin
    constructor
    · rw [hend', Nat.mul_succ]
      omega
    · rw [hcount', hexact]
      omega
  · rw [ExactSum, if_neg hin] at hexact
    obtain ⟨hend',hcount'⟩ := acked_closes (UInt64.not_le.mp hin)
    constructor
    · rw [hend', hexact, Nat.mul_succ]
      omega
    · rw [hcount']
      omega

/-- Before 2^48 acks have come no `double` is out of its depth. -/
theorem small_afterAcks (window : ℚ) (h : acks.length ≤ 2^48) :
    Small (afterAcks window acks) acks.length ∧ EachStep window ExactSum acks := by
  induction acks with
  | nil => exact ⟨⟨le_rfl,le_rfl⟩,True.intro⟩
  | cons a before ih =>
    rw [List.length_cons] at h
    obtain ⟨hsmall,hexact⟩ := ih (by omega)
    exact ⟨hsmall.acked (by omega) a, hexact, hsmall.exactSum (by omega) a⟩

/-- The acks are counted in their slots as long as no call comes more than a slot after the one it
closes; and only then, where no sum is rounded, as in the first 2^48 calls. -/
theorem slotsRight_of_noGap (window : ℚ) {acks : List AckCall} (hmono : NonDecreasing acks) :
    (EachStep window (fun c a => ExactSum c a ∧ NoGap c a) acks → SlotsRight window acks) ∧
    (EachStep window ExactSum acks → (SlotsRight window acks ↔ EachStep window NoGap acks)) ∧
    (acks.length ≤ 2^48 → EachStep window ExactSum acks) := by
  refine ⟨?_, ?_, ?_⟩
  · intro h
    exact slotsRight_of_each hmono (h.imp fun _ _ hstep => hstep.1) (h.imp fun _ _ hstep => hstep.2)
  · intro hexact
    exact ⟨noGap_of_slotsRight hexact, slotsRight_of_each hmono hexact⟩
  · intro hlen
    exact (small_afterAcks window hlen).2

end Calls

/-- An ack 50 ms after its datagram. -/
def ackAt (timestamp : UInt64) : AckCall := ⟨0, timestamp-50, timestamp-25, timestamp⟩

/-- Two acks at 45 and 55 behind two in the first slot. -/
theorem slotsRight_of_noGap_dense :
    NonDecreasing [ackAt 55, ackAt 45, ackAt 25, ackAt 20] ∧
      SlotsRight 10 [ackAt 55, ackAt 45, ackAt 25, ackAt 20] := by
  have hmono : NonDecreasing [ackAt 55, ackAt 45, ackAt 25, ackAt 20] := by
    simp only [NonDecreasing, EachCall]
    decide
  have h := slotsRight_of_noGap 10 hmono
  refine ⟨hmono, (h.2.1 (h.2.2 (by decide))).mpr ?_⟩
  simp only [EachStep, EachCall, NoGap]
  decide +kernel

/-- The first ack comes after 100 ms, as on any path that long: its slot is not the one it is
counted in, and the slot that is closed next has one ack counted where there was none. -/
theorem slotsRight_fails : NonDecreasing [ackAt 101, ackAt 100] ∧
    ¬SlotsRight 10 [ackAt 100] ∧
    Closes (afterAcks 10 [ackAt 100]) (ackAt 101) ∧
    (afterAcks 10 [ackAt 100]).packetCount = 1 ∧
    countIn (afterAcks 10 [ackAt 100]).endTime [ackAt 101, ackAt 100] = 0 := by
  have hmono : NonDecreasing [ackAt 101, ackAt 100] := by
    simp only [NonDecreasing, EachCall]
    decide
  have hcloses : Closes (afterAcks 10 []) (ackAt 100) := by decide
  have hlate : ¬(ackAt 100).timestampAckReceived ≤ ((afterAcks 10 []).acked (ackAt 100)).endTime := by
    decide +kernel
  refine ⟨hmono, ?_, ?_, ?_, ?_⟩
  · intro h
    exact hlate (h.2 hcloses).contains
  · decide +kernel
  · decide +kernel
  · decide +kernel

end InternetCourse.Sender.Throughput
