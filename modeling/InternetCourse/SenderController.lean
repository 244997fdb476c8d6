import Mathlib.Data.Rat.Floor
import Mathlib.Tactic.Linarith
import Mathlib.Tactic.Positivity
import Mathlib.Tactic.Ring
import Mathlib.Tactic.FieldSimp

/-! What a sender asks of its congestion controller (controller.hh), and the controller of
controller_AIMD_best.cc. Its `long double` values are exact here. -/
namespace InternetCourse.Sender

/-- The part of the interface `Controller` by which a sender works. -/
structure ControllerOps (κ : Type) where
  windowSize : κ → UInt32
  datagramWasSent : κ → (sequenceNumber sendTimestamp : UInt64) → (afterTimeout : Bool) → κ
  ackReceived : κ → (sequenceNumberAcked sendTimestampAcked recvTimestampAcked
    timestampAckReceived : UInt64) → κ

/-- A `long double` converted to an integer: its fraction is dropped. -/
def truncate (q : ℚ) : ℤ := if 0 ≤ q then ⌊q⌋ else ⌈q⌉

structure Controller where
  thisWindow : ℚ
  ssthresh : ℤ

/-- The constructor. -/
def controller (window thresh : ℚ) : Controller := ⟨window, truncate thresh⟩

def nextTimeOut : ℚ := 105

def timeoutMs : UInt32 := UInt32.ofNat (truncate nextTimeOut).toNat

/-- The whole number of datagrams in the window. -/
def Controller.datagrams (c : Controller) : ℕ := (truncate c.thisWindow).toNat

/-- The conversion to `unsigned int` is defined where the number is below 2^32. -/
def windowSize (c : Controller) : UInt32 := UInt32.ofNat c.datagrams

/-- Prints, if at all. -/
def datagramWasSent (c : Controller) (_sequenceNumber _sendTimestamp : UInt64)
    (_afterTimeout : Bool) : Controller := c

/-- The difference of the two clock readings, cut to an `unsigned int`. -/
def currentRtt (sendTimestampAcked timestampAckReceived : UInt64) : UInt32 :=
  (timestampAckReceived-sendTimestampAcked).toUInt32

def ackReceived (c : Controller) (_sequenceNumberAcked sendTimestampAcked _recvTimestampAcked
    timestampAckReceived : UInt64) : Controller :=
  let c :=
    -- a round trip within the timeout
    if currentRtt sendTimestampAcked timestampAckReceived ≤ timeoutMs then
      if c.thisWindow ≤ c.ssthresh then { c with thisWindow := c.thisWindow+1 }
      else { c with thisWindow := c.thisWindow+2/c.thisWindow }
    else
      -- the threshold is a `long int`, and is set first
      { ssthresh := truncate (c.thisWindow/2+1), thisWindow := 3 }
  if c.thisWindow < 1 then { c with thisWindow := 1 } else c

def aimd : ControllerOps Controller := ⟨windowSize, datagramWasSent, ackReceived⟩

/-- The arguments of one call of `ack_received`. -/
structure AckCall where
  sequenceNumberAcked : UInt64
  sendTimestampAcked : UInt64
  recvTimestampAcked : UInt64
  timestampAckReceived : UInt64

def Controller.acked (c : Controller) (a : AckCall) : Controller :=
  ackReceived c a.sequenceNumberAcked a.sendTimestampAcked a.recvTimestampAcked
    a.timestampAckReceived

/-- The controller that `DatagrumpSender` constructs, after some calls, the last one first. -/
def afterAcks : List AckCall → Controller
  | [] => controller 10 25
  | a :: before => (afterAcks before).acked a

/-- The largest window there has been. -/
def largestWindow : List AckCall → ℚ
  | [] => (afterAcks []).thisWindow
  | a :: before => max (largestWindow before) (afterAcks (a :: before)).thisWindow

/-- The call is one of slow start. -/
def SlowStart (c : Controller) (a : AckCall) : Prop :=
  currentRtt a.sendTimestampAcked a.timestampAckReceived ≤ timeoutMs ∧ c.thisWindow ≤ c.ssthresh

/-- What a call does to the controller: one more datagram, two for each window, or back to
three. -/
inductive Acked (c : Controller) (a : AckCall) : Controller → Prop where
  | slowStart : SlowStart c a → Acked c a ⟨c.thisWindow+1, c.ssthresh⟩
  | avoidance : c.ssthresh < c.thisWindow → Acked c a ⟨c.thisWindow+2/c.thisWindow, c.ssthresh⟩
  | collapse : Acked c a ⟨3, truncate (c.thisWindow/2+1)⟩

theorem truncate_of_nonneg {q : ℚ} (h : 0 ≤ q) : truncate q = ⌊q⌋ := if_pos h

theorem le_truncate {q : ℚ} {n : ℕ} (h : (n : ℚ) ≤ q) : (n : ℤ) ≤ truncate q := by
  rw [truncate_of_nonneg ((Nat.cast_nonneg n).trans h)]
  exact Int.le_floor.mpr (by exact_mod_cast h)

theorem truncate_le {q : ℚ} (h : 0 ≤ q) : (truncate q : ℚ) ≤ q := by
  rw [truncate_of_nonneg h]
  exact Int.floor_le q

/-- From a window of three on the last line of `ack_received` does nothing. -/
theorem acked_cases {c : Controller} (h : 3 ≤ c.thisWindow) (a : AckCall) :
    Acked c a (c.acked a) := by
  have hpos : 0 ≤ 2/c.thisWindow := by positivity
  rw [Controller.acked, ackReceived]
  by_cases hr : currentRtt a.sendTimestampAcked a.timestampAckReceived ≤ timeoutMs
  · rw [if_pos hr]
    by_cases hs : c.thisWindow ≤ c.ssthresh
    · rw [if_pos hs]
      dsimp only
      rw [if_neg (by linarith)]
      exact Acked.slowStart ⟨hr,hs⟩
    · rw [if_neg hs]
      dsimp only
      rw [if_neg (by linarith)]
      exact Acked.avoidance (not_le.mp hs)
  · rw [if_neg hr]
    dsimp only
    rw [if_neg (by norm_num)]
    exact Acked.collapse

/-- Growth by two for each window raises the square of the window by five at most. -/
theorem sq_add_two_div_le {w : ℚ} (h : 3 ≤ w) : (w+2/w)^2 ≤ w^2+5 := by
  have hw : w ≠ 0 := by linarith
  have hinv : 4/w^2 ≤ 1 := by
    rw [div_le_one (by positivity)]
    nlinarith
  calc
    (w+2/w)^2 = w^2+4+4/w^2 := by field_simp; ring
    _ ≤ w^2+5 := by linarith

/-- What is known of the controller after `n` calls, when `W` has been its largest window. -/
structure Within (c : Controller) (W : ℚ) (n : ℕ) : Prop where
  window : 3 ≤ c.thisWindow
  thresh : 2 ≤ c.ssthresh
  le_largest : c.thisWindow ≤ W
  ten_le : 10 ≤ W
  thresh_le : (c.ssthresh : ℚ) ≤ max 25 (1+W/2)
  growth : W^2 ≤ 676+5*n

theorem Within.slowStart_le {c : Controller} {W : ℚ} {n : ℕ} (h : Within c W n)
    (hs : c.thisWindow ≤ c.ssthresh) : c.thisWindow+1 ≤ max 26 W := by
  have hle := hs.trans h.thresh_le
  have hten := h.ten_le
  rcases le_max_iff.mp hle with hle | hle
  · exact le_max_of_le_left (by linarith)
  · -- half of the largest window and two are less than all of it
    exact le_max_of_le_right (by linarith)

/-- A window that meets the bounds of the next call. -/
theorem Within.next {c : Controller} {W w : ℚ} {n : ℕ} (h : Within c W n) (hw : 3 ≤ w)
    (hg : w^2 ≤ 676+5*(n+1 : ℕ)) {t : ℤ} (ht : 2 ≤ t) (htle : (t : ℚ) ≤ max 25 (1+W/2)) :
    Within ⟨w,t⟩ (max W w) (n+1) where
  window := hw
  thresh := ht
  le_largest := le_max_right W w
  ten_le := le_max_of_le_left h.ten_le
  thresh_le := by
    have hmono : 1+W/2 ≤ 1+max W w/2 := by linarith [le_max_left W w]
    exact htle.trans (max_le_max le_rfl hmono)
  growth := by
    have hold := h.growth
    push_cast at hg ⊢
    rcases max_choice W w with hm | hm <;> rw [hm] <;> linarith

theorem Within.acked {c : Controller} {W : ℚ} {n : ℕ} (h : Within c W n) {a : AckCall}
    {c' : Controller} (hc : Acked c a c') : Within c' (max W c'.thisWindow) (n+1) := by
  have hw := h.window
  have hg := h.growth
  cases hc with
  | slowStart hs =>
    apply h.next (by linarith) _ h.thresh h.thresh_le
    -- no further than 26 or a window there has been
    have hsq : (c.thisWindow+1)^2 ≤ (max 26 W)^2 :=
      pow_le_pow_left₀ (by linarith) (h.slowStart_le hs.2) 2
    push_cast
    rcases max_choice (26 : ℚ) W with hm | hm <;> rw [hm] at hsq <;> linarith
  | avoidance _ =>
    have hpos : 0 ≤ 2/c.thisWindow := by positivity
    apply h.next (by linarith) _ h.thresh h.thresh_le
    have hsq : c.thisWindow^2 ≤ W^2 := pow_le_pow_left₀ (by linarith) h.le_largest 2
    have hstep := sq_add_two_div_le hw
    push_cast
    linarith
  | collapse =>
    have hhalf : ((2 : ℕ) : ℚ) ≤ c.thisWindow/2+1 := by push_cast; linarith
    have hle : (truncate (c.thisWindow/2+1) : ℚ) ≤ c.thisWindow/2+1 :=
      truncate_le (by linarith)
    apply h.next le_rfl _ (le_truncate hhalf) (le_max_of_le_right _)
    · push_cast
      linarith [sq_nonneg W, (Nat.cast_nonneg n : (0 : ℚ) ≤ n)]
    · linarith [h.le_largest]

theorem within_afterAcks (acks : List AckCall) :
    Within (afterAcks acks) (largestWindow acks) acks.length := by
  induction acks with
  | nil =>
    have hstart : afterAcks [] = ⟨10,25⟩ := by
      rw [afterAcks, controller, truncate_of_nonneg (by norm_num)]
      norm_num
    rw [largestWindow, hstart]
    constructor <;> norm_num
  | cons a before ih => exact ih.acked (acked_cases ih.window a)

theorem datagrams_eq {c : Controller} (h : 0 ≤ c.thisWindow) :
    c.datagrams = ⌊c.thisWindow⌋₊ := by
  rw [Controller.datagrams, truncate_of_nonneg h]
  rfl

/-- As long as the square of the window is below 2^64 the conversion is defined. -/
theorem windowSize_toNat {c : Controller} (h : 0 ≤ c.thisWindow) (hsq : c.thisWindow^2 < 2^64) :
    (windowSize c).toNat = c.datagrams := by
  have hlt : c.thisWindow < ((2^32 : ℕ) : ℚ) := by
    apply lt_of_pow_lt_pow_left₀ 2 (by positivity)
    calc
      c.thisWindow^2 < 2^64 := hsq
      _ = ((2^32 : ℕ) : ℚ)^2 := by norm_num
  have hfloor : c.datagrams < 2^32 := by
    rw [datagrams_eq h]
    exact (Nat.floor_lt h).mpr hlt
  rw [windowSize, UInt32.toNat_ofNat_of_lt' hfloor]

/-- The bounds on the window and the threshold, after any number of calls. -/
theorem aimd_window_bounds (acks : List AckCall) :
    3 ≤ (afterAcks acks).thisWindow ∧ 2 ≤ (afterAcks acks).ssthresh ∧
    3 ≤ (afterAcks acks).datagrams ∧
    ((afterAcks acks).ssthresh : ℚ) ≤ max 25 (1+largestWindow acks/2) ∧
    (afterAcks acks).thisWindow^2 ≤ 676+5*acks.length ∧
    (∀ a, SlowStart (afterAcks acks) a →
      (afterAcks (a :: acks)).thisWindow ≤ max 26 (largestWindow acks)) ∧
    (676+5*acks.length < 2^64 → (windowSize (afterAcks acks)).toNat = (afterAcks acks).datagrams ∧
      windowSize (afterAcks acks) ≠ 0) := by
  have h := within_afterAcks acks
  have hw := h.window
  have hsq : (afterAcks acks).thisWindow^2 ≤ 676+5*acks.length :=
    (pow_le_pow_left₀ (by linarith) h.le_largest 2).trans h.growth
  -- the window is cut to whole datagrams, and 3 survive the cut
  have hd : 3 ≤ (afterAcks acks).datagrams := by
    rw [datagrams_eq (by linarith)]
    exact Nat.le_floor (by exact_mod_cast hw)
  refine ⟨hw, h.thresh, hd, h.thresh_le, hsq, ?_, ?_⟩
  · intro a hs
    have hle := h.slowStart_le hs.2
    have hnext := acked_cases hw a
    rw [afterAcks]
    generalize (afterAcks acks).acked a = c' at hnext
    cases hnext with
    | slowStart _ => exact hle
    | avoidance hn => exact absurd hs.2 (not_le.mpr hn)
    | collapse => exact le_max_of_le_left (by norm_num)
  -- the window is below the square root of 2^64, so it fits the type of the answer
  · intro hn
    have hcast : (676+5*acks.length : ℚ) < 2^64 := by exact_mod_cast hn
    have htoNat := windowSize_toNat (by linarith) (hsq.trans_lt hcast)
    refine ⟨htoNat, ?_⟩
    intro hz
    rw [hz] at htoNat
    have h0 : (0 : UInt32).toNat = 0 := rfl
    omega

end InternetCourse.Sender
