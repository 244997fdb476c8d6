import InternetCourse.RouterReach
import Mathlib.Data.List.GetD

/-! Forwarding over any number of routers: what becomes of a frame on its way. -/
namespace InternetCourse.Router

open ByteMem StateTriple

/-- The bytes a router rewrites: both MAC addresses, `ip_ttl` and `ip_sum`. -/
def Rewritten (i : ℕ) : Prop := i < 12 ∨ i = 22 ∨ i = 24 ∨ i = 25

instance (i : ℕ) : Decidable (Rewritten i) := inferInstanceAs (Decidable (_ ∨ _ ∨ _ ∨ _))

def timeToLive (frame : List UInt8) : ℕ := (frame.getD 22 0).toNat

/-- A router, in any state and with any tables, receives `f`; at once or at some later time
it forwards it as `f'`. What the router holds when `f` comes in stems from earlier frames. -/
def Hop (f f' : List UInt8) : Prop :=
  ∃ env s slack interface s', Tagged (s, []) ∧ ObservableAfter env f slack interface s s' ∧
    ∃ c ∈ s'.log.sends, c.emitter = .packetToOtherDest ∧ c.origin = some s.log.arrivals ∧
      c.frame = f'

/-- A path over `k` routers, not necessarily different ones. -/
inductive Path : ℕ → List UInt8 → List UInt8 → Prop where
  | source {f : List UInt8} : Path 0 f f
  | hop {k : ℕ} {f g h : List UInt8} : Path k f g → Hop g h → Path (k+1) f h

/-- `f'` is `f` after `k` hops. -/
structure Travelled (k : ℕ) (f f' : List UInt8) : Prop where
  length : f'.length = f.length
  checksummed : ∀ slack, Checksummed (load f' slack) f'.length
  timeToLive : timeToLive f'+k = timeToLive f
  alive : 1 ≤ Router.timeToLive f'
  rest : ∀ i, ¬Rewritten i → f'.getD i 0 = f.getD i 0

/-- What is promised of a frame after `k` hops. -/
structure PreservesPacket (k : ℕ) (f f' : List UInt8) : Prop where
  length : f'.length = f.length
  accepted : ∀ slack, (validateChecksum (load f' slack) f'.length).1 = some 0
  timeToLive : timeToLive f' = timeToLive f-k
  alive : 1 ≤ Router.timeToLive f'
  bounded : k ≤ Router.timeToLive f-1
  rest : ∀ i, ¬Rewritten i → f'.getD i 0 = f.getD i 0

/-- The header as the `k`th router sums it up: the time to live is lower by `k`, and the checksum
field is zeroed. -/
def headerAfter (k : ℕ) (f : List UInt8) : Mem :=
  shift (put16 (put8 (load f fun _ => 0) 22 (UInt8.ofNat (timeToLive f-k))) 24 0) 14

variable {env : Env}

/-- The checksum `packet_to_other_dest` writes is the one `validate_checksum` computes. -/
theorem forwardFrame_checksummed {packet : Mem} {len : ℕ} (h : Accepted packet len)
    (shost dhost : Six) : Checksummed (forwardFrame packet shost dhost) len := by
  obtain ⟨hl,ht,-⟩ := (accepted_iff packet len).mp h
  refine checksummed_of_filled hl ?_ fun i _ _ => rfl
  rw [← ht]
  simp (disch := omega) only [ethertype, etherType, forwardFrame, get16_put16_outside,
    get16_put8_outside, get16_putSix_outside]

theorem forwardFrame_rest (packet : Mem) (shost dhost : Six) {i : ℕ} (hi : ¬Rewritten i) :
    forwardFrame packet shost dhost i = packet i := by
  simp only [Rewritten, not_or] at hi
  simp (disch := omega) only [forwardFrame, put16_outside, put8_outside, putSix_outside]

theorem forwardFrame_ttl (packet : Mem) (shost dhost : Six) :
    ipTtl (forwardFrame packet shost dhost) = ipTtl packet-1 := by
  simp [ipTtl, forwardFrame, put16, put8, putSix]

theorem forwardFrame_ipDst (packet : Mem) (shost dhost : Six) :
    ipDst (forwardFrame packet shost dhost) = ipDst packet := by
  simp (disch := omega) only [ipDst, forwardFrame, get32_put16_outside, get32_put8_outside,
    get32_putSix_outside]

/-- The copies of a received frame are faithful, and so what is forwarded is made of it. -/
theorem forward_hereditary (f : List UInt8) :
    Hereditary env (fun p => p.len = f.length ∧ Accepted p.buf.mem p.len ∧
        ∀ i < f.length, p.buf.mem i = f.getD i 0)
      (fun c => c.emitter = .packetToOtherDest → Travelled 1 f c.frame) where
  copy fresh p interface := by
    rintro ⟨hl,ha,hb⟩
    have hc (i : ℕ) (hi : i < p.len) := queuedCopy_mem fresh p.buf p.len interface hi
    exact ⟨hl, ha.congr hc, fun i hi => (hc i (hl ▸ hi)).trans (hb i hi)⟩
  forward s p i e := by
    rintro ⟨hl,ha,hb⟩ httl _
    have h34 := ((accepted_iff _ _).mp ha).1
    have hsum := forwardFrame_checksummed ha i.addr e.mac
    have hlen : (forwardCall env s p.buf p.len i e).frame.length = f.length := by
      rw [SendCall.frame, wire_length]
      exact hl
    have hbyte (j : ℕ) (hj : j < f.length) : (forwardCall env s p.buf p.len i e).frame.getD j 0 =
        forwardFrame p.buf.mem i.addr e.mac j :=
      load_wire (fun _ => 0) (hl ▸ hj)
    have h22 : timeToLive f = (p.buf.mem 22).toNat := by
      rw [timeToLive, ← hb 22 (by omega)]
    have h1 : 1 < (p.buf.mem 22).toNat := httl
    -- the decrement does not wrap round, as the time to live is above 1
    have hsub : (p.buf.mem 22-1).toNat = (p.buf.mem 22).toNat-1 :=
      UInt8.toNat_sub_of_le (p.buf.mem 22) 1 (UInt8.le_of_lt httl)
    have hnew : timeToLive (forwardCall env s p.buf p.len i e).frame = timeToLive f-1 := by
      calc
        _ = (forwardFrame p.buf.mem i.addr e.mac 22).toNat := by rw [timeToLive, hbyte 22 (by omega)]
        _ = (p.buf.mem 22-1).toNat := congrArg UInt8.toNat (forwardFrame_ttl p.buf.mem i.addr e.mac)
        _ = (p.buf.mem 22).toNat-1 := hsub
        _ = timeToLive f-1 := by rw [h22]
    refine ⟨hlen, ?_, by omega, by omega, ?_⟩
    · intro slack
      rw [hlen, ← hl]
      -- the next router sees the same bytes, whatever lies behind them
      exact hsum.congr fun j hj => load_wire slack hj
    · intro j hj
      by_cases hjl : j < f.length
      · rw [hbyte j hjl, forwardFrame_rest _ _ _ hj, hb j hjl]
      · -- past the end of both frames
        have hjl' : (forwardCall env s p.buf p.len i e).frame.length ≤ j := by omega
        rw [List.getD_eq_default _ _ hjl', List.getD_eq_default _ _ (Nat.not_lt.mp hjl)]
  error c p _ hc he := by
    -- errors and answers are not the work of `packet_to_other_dest`
    rcases hc.emitter with h | h | h <;> simp [h] at he
  reply c hc he := by
    rcases hc with h | h <;> simp [h] at he

/-- One hop. -/
theorem Hop.travelled {f f' : List UInt8} (h : Hop f f') : Travelled 1 f f' := by
  obtain ⟨env,s,slack,interface,s',htag,hobs,c,hc,hemit,horig,rfl⟩ := h
  have hbytes : ∀ i < f.length, load f slack i = f.getD i 0 := by
    intro i hi
    rw [List.getD_eq_getElem _ _ hi]
    exact load_of_lt slack hi
  exact hobs.sends (forward_hereditary f) htag (fun ha => ⟨rfl,ha,hbytes⟩) c hc horig hemit

theorem Travelled.trans {k l : ℕ} {f g h : List UInt8} (h₁ : Travelled k f g)
    (h₂ : Travelled l g h) : Travelled (k+l) f h where
  length := h₂.length.trans h₁.length
  checksummed := h₂.checksummed
  timeToLive := by
    have ht₁ := h₁.timeToLive
    have ht₂ := h₂.timeToLive
    omega
  alive := h₂.alive
  rest i hi := (h₂.rest i hi).trans (h₁.rest i hi)

/-- Any number of hops. The induction is on the path, one hop at a time. -/
theorem Path.travelled {k : ℕ} {f f' : List UInt8} (h : Path k f f') (hk : 1 ≤ k) :
    Travelled k f f' := by
  induction h with
  | source => omega
  | @hop k f g h hpath hhop ih =>
    -- the first hop has nothing before it to compose with
    cases k with
    | zero =>
      cases hpath
      exact hhop.travelled
    | succ k => exact (ih (Nat.le_add_left 1 k)).trans hhop.travelled

/-- The next router accepts the frame unless the checksum filled in is the constant of `cksum`. -/
theorem Travelled.accepted_iff {k : ℕ} {f f' : List UInt8} (h : Travelled k f f') :
    (∀ slack, (validateChecksum (load f' slack) f'.length).1 = some 0) ↔
      ¬SumsToOnes (headerAfter k f) sizeofIpHdr := by
  have hvalid (slack : Mem) : (validateChecksum (load f' slack) f'.length).1 = some 0 ↔
      Accepted (load f' slack) f'.length := by
    have h34 := (h.checksummed slack).length
    have hlen : validateIP (load f' slack) f'.length = 0 := by
      rw [validateIP, if_neg]
      rw [sizeofEthernetHdr, sizeofIpHdr]
      omega
    exact (and_iff_right hlen).symm
  have hheader (slack : Mem) (i : ℕ) (hi : i < sizeofIpHdr) :
      shift (put16 (load f' slack) 24 0) 14 i = headerAfter k f i := by
    have h34 := (h.checksummed slack).length
    have hi' : i < 20 := hi
    have hlen := h.length
    have hleft : load f' slack (14+i) = f'.getD (14+i) 0 := by
      rw [load_of_lt slack (by omega), List.getD_eq_getElem _ _ (by omega)]
    have hright : load f (fun _ => 0) (14+i) = f.getD (14+i) 0 := by
      rw [load_of_lt _ (by omega), List.getD_eq_getElem _ _ (by omega)]
    rw [headerAfter]
    by_cases hsum : 14+i = 24 ∨ 14+i = 25
    · simp only [shift, put16]
      split_ifs
      · rfl
      · rfl
      · omega
    · rw [shift, shift, put16_outside _ _ (by omega), put16_outside _ _ (by omega), hleft]
      by_cases httl : 14+i = 22
      -- the hops have been taken off the time to live
      · have hbyte : f'.getD 22 0 = UInt8.ofNat (Router.timeToLive f') := UInt8.ofNat_toNat.symm
        have hcount := h.timeToLive
        rw [httl, put8, if_pos rfl, hbyte]
        congr 1
        omega
      · have hsame : ¬Rewritten (14+i) := by
          rw [Rewritten]
          omega
        rw [put8_outside _ _ (by omega), hright, h.rest _ hsame]
  have hones (slack : Mem) : (validateChecksum (load f' slack) f'.length).1 = some 0 ↔
      ¬SumsToOnes (headerAfter k f) sizeofIpHdr := by
    rw [hvalid, (h.checksummed slack).accepted_iff]
    exact not_congr (SumsToOnes.congr (hheader slack))
  constructor
  · intro hall
    exact (hones fun _ => 0).mp (hall fun _ => 0)
  · intro hs slack
    exact (hones slack).mpr hs

/-- Multi-hop forwarding: after `k` hops the frame is as long as it was and the same but for the
rewritten bytes, its checksum is that of its header, and its time to live has gone down by `k`
without running out. So `k` is at most the time to live less one, and a packet with none is not
forwarded. The next router accepts the frame, and so all that is promised of it holds, if and only
if the header with the lower time to live does not sum up to all ones. -/
theorem path_preserves_packet_iff {k : ℕ} {f f' : List UInt8} (hk : 1 ≤ k) (h : Path k f f') :
    Travelled k f f' ∧ k ≤ timeToLive f-1 ∧
      (PreservesPacket k f f' ↔ ¬SumsToOnes (headerAfter k f) sizeofIpHdr) := by
  have ht := h.travelled hk
  have htl := ht.timeToLive
  have halive := ht.alive
  have hbound : k ≤ timeToLive f-1 := by omega
  refine ⟨ht, hbound, ?_⟩
  constructor
  · intro hp
    exact ht.accepted_iff.mp hp.accepted
  · intro hs
    exact ⟨ht.length, ht.accepted_iff.mpr hs, by omega, halive, hbound, ht.rest⟩

/-- The small router once `f` has waited for the second host's answer. -/
def released (f : List UInt8) : SrInstance :=
  after obligingHost 1 (.receive arpReplyToEth1 (fun _ => 0) eth1)
    (after obligingHost 1 (.receive f (fun _ => 0) eth0) smallRouter)

theorem released_hop {f f' : List UInt8}
    (hq : returns (handle obligingHost 1 (.receive f (fun _ => 0) eth0) smallRouter) = true)
    (ha : returns (handle obligingHost 1 (.receive arpReplyToEth1 (fun _ => 0) eth1)
      (after obligingHost 1 (.receive f (fun _ => 0) eth0) smallRouter)) = true)
    (hc : ∃ c ∈ (released f).log.sends, c.emitter = .packetToOtherDest ∧
      c.origin = some smallRouter.log.arrivals ∧ c.frame = f') : Hop f f' := by
  have hrun : Run obligingHost (after obligingHost 1 (.receive f (fun _ => 0) eth0) smallRouter)
      (released f) := Relation.ReflTransGen.single ⟨_, step_after ha⟩
  have hobs : ObservableAfter obligingHost f (fun _ => 0) eth0 smallRouter (released f) :=
    Or.inr ⟨_, step_after hq, _, hrun, Or.inl rfl⟩
  exact ⟨obligingHost, smallRouter, _, _, _, smallRouter_initial.tagged, hobs, hc⟩

def transitFrameOnce : List UInt8 :=
  [2, 0, 0, 0, 1, 2, 11, 11, 11, 11, 11, 11, 8, 0, 0x45, 0, 0, 20, 0, 1, 0, 0, 63, 17, 0x66, 0xd5,
    10, 0, 0, 2, 10, 0, 1, 2]

def transitFrameTwice : List UInt8 :=
  [2, 0, 0, 0, 1, 2, 11, 11, 11, 11, 11, 11, 8, 0, 0x45, 0, 0, 20, 0, 1, 0, 0, 62, 17, 0x67, 0xd5,
    10, 0, 0, 2, 10, 0, 1, 2]

/-- The frame waits for an answer and, when it comes round to the router again, does not. -/
theorem path_preserves_packet_smallRouter :
    Path 2 transitFrame transitFrameTwice ∧ PreservesPacket 2 transitFrame transitFrameTwice := by
  have hfirst : Hop transitFrame transitFrameOnce :=
    released_hop (by decide +kernel) (by decide +kernel) (by decide +kernel)
  have hrun : Run obligingHost smallRouter answeredRouter :=
    (Relation.ReflTransGen.single ⟨_, step_after (by decide +kernel)⟩).tail
      ⟨_, step_after (by decide +kernel)⟩
  have hsecond : Hop transitFrameOnce transitFrameTwice :=
    ⟨obligingHost, answeredRouter, fun _ => 0, eth0, _, hrun.tagged smallRouter_initial.tagged,
      Or.inl ⟨1,rfl⟩, by decide +kernel⟩
  have hpath : Path 2 transitFrame transitFrameTwice := (Path.source.hop hfirst).hop hsecond
  exact ⟨hpath, (path_preserves_packet_iff (by decide) hpath).2.2.mpr (by decide +kernel)⟩

/-- A packet whose header sums up to all ones once the time to live has gone down. -/
def onesFrame : List UInt8 :=
  [10, 10, 10, 10, 10, 10, 2, 0, 0, 0, 0, 2, 8, 0, 0x45, 0, 0, 20, 0x66, 0xd6, 0, 0, 64, 17,
    0xfe, 0xff, 10, 0, 0, 2, 10, 0, 1, 2]

def onesFrameOnce : List UInt8 :=
  [2, 0, 0, 0, 1, 2, 11, 11, 11, 11, 11, 11, 8, 0, 0x45, 0, 0, 20, 0x66, 0xd6, 0, 0, 63, 17,
    0xff, 0xff, 10, 0, 0, 2, 10, 0, 1, 2]

/-- The router takes and forwards it, and the next one turns it away. -/
theorem onesFrame_not_preserved : Path 1 onesFrame onesFrameOnce ∧
    Accepted (load onesFrame fun _ => 0) onesFrame.length ∧
    (validateChecksum (load onesFrameOnce fun _ => 0) onesFrameOnce.length).1 = some 1 ∧
    ¬PreservesPacket 1 onesFrame onesFrameOnce := by
  have hhop : Hop onesFrame onesFrameOnce :=
    released_hop (by decide +kernel) (by decide +kernel) (by decide +kernel)
  have hrefused : (validateChecksum (load onesFrameOnce fun _ => 0) onesFrameOnce.length).1 =
      some 1 := by decide +kernel
  refine ⟨Path.source.hop hhop, by decide +kernel, hrefused, ?_⟩
  intro h
  rw [h.accepted fun _ => 0] at hrefused
  simp at hrefused

end InternetCourse.Router
