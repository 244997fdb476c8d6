import InternetCourse.RouterChecksum

/-! Which IP headers `validate_checksum` lets through. -/
namespace InternetCourse.Router

open ByteMem

/-- The sum over the header with its options. -/
def headerSum (packet : Mem) : ℕ := onesSum (4*ipHl packet) (shift packet sizeofEthernetHdr)

/-- The sum over the options alone. -/
def optionsSum (packet : Mem) : ℕ :=
  onesSum (4*ipHl packet-sizeofIpHdr) (shift packet (sizeofEthernetHdr+sizeofIpHdr))

/-- Validation passes exactly the headers that sum up to all ones, and leaves the buffer as it
was. -/
structure ChecksumJudged (packet : Mem) (len : ℕ) : Prop where
  verdict : (validateChecksum packet len).1 = some 0 ↔ headerSum packet = 0xffff
  untouched : (validateChecksum packet len).2 = packet

section Header

variable {packet : Mem} {len : ℕ}

theorem validateChecksum_ip (ht : ethertype packet = ethertypeIp) :
    validateChecksum packet len =
      if cksumInt (shift (put16 packet 24 0) 14) sizeofIpHdr ≠ (ipSum packet).toNat then
        (some 1, put16 packet 24 0)
      else (some 0, packet) := by
  have hne : ethertypeIp ≠ ethertypeArp := by decide
  have hback : put16 (put16 packet 24 0) 24 (get16 packet 24) = packet := put16_restore packet 24 0
  rw [validateChecksum, ht, if_neg hne, if_pos rfl]
  simp only [hback, ipSum]
  rfl

/-- The field counts as one of the words of the header. -/
theorem wordSum_header (packet : Mem) : wordSum sizeofIpHdr (shift packet 14) =
    wordSum sizeofIpHdr (shift (put16 packet 24 0) 14)+(swap16 (ipSum packet)).toNat := by
  have hback : put16 packet 24 (ipSum packet) = packet := by
    have h := put16_restore packet 24 0
    rwa [put16_put16] at h
  have hzero : (swap16 0).toNat = 0 := rfl
  have hput (v : UInt16) : wordSum sizeofIpHdr (shift (put16 packet 24 v) 14) =
      wordSum 10 (shift packet 14)+(swap16 v).toNat+wordSum 8 (shift packet 26) :=
    @wordSum_put16 5 20 (by decide) packet 14 v
  calc
    _ = wordSum sizeofIpHdr (shift (put16 packet 24 (ipSum packet)) 14) := by rw [hback]
    _ = _ := by
      rw [hput, hput, hzero]
      omega

/-- A header that says how long it is does not sum up to the zero of all zeros. -/
theorem wordSum_pos (hl : 5 ≤ ipHl packet) {n : ℕ} : 0 < wordSum (n+2) (shift packet 14) := by
  have hbyte : 0 < (packet 14).toNat := by
    rw [ipHl] at hl
    omega
  rw [wordSum_shift]
  omega

/-- What the code checks: a field that is neither of the two zeros, and the sum over 20 bytes. -/
theorem validateChecksum_passes_iff (ht : ethertype packet = ethertypeIp) (hl : 5 ≤ ipHl packet) :
    (validateChecksum packet len).1 = some 0 ↔
      ipSum packet ≠ 0 ∧ ipSum packet ≠ 0xffff ∧ 65535 ∣ wordSum sizeofIpHdr (shift packet 14) := by
  have hbound : wordSum sizeofIpHdr (shift (put16 packet 24 0) 14) < 2^32 :=
    (wordSum_le _ _).trans_lt (by decide)
  have hpasses : (validateChecksum packet len).1 = some 0 ↔
      cksumInt (shift (put16 packet 24 0) 14) sizeofIpHdr = (ipSum packet).toNat := by
    rw [validateChecksum_ip ht]
    split_ifs with h
    · simp [h]
    · simpa using h
  have hrest : 0 < wordSum sizeofIpHdr (shift (put16 packet 24 0) 14) := by
    have hl' : 5 ≤ ipHl (put16 packet 24 0) := by
      rwa [ipHl, put16_outside _ _ (by omega)]
    exact @wordSum_pos _ hl' 18
  have hzero : (swap16 (ipSum packet)).toNat = 0 ↔ ipSum packet = 0 :=
    ⟨fun h => swap16_inj h, fun h => by rw [h]; rfl⟩
  have hones : (swap16 (ipSum packet)).toNat = 0xffff ↔ ipSum packet = 0xffff :=
    ⟨fun h => swap16_inj h, fun h => by rw [h]; rfl⟩
  have hlt := (swap16 (ipSum packet)).toNat_lt
  rw [hpasses, cksumInt_eq_iff, cksum_eq_iff hbound, sumsToOnes_iff hbound, wordSum_header packet, ne_eq,
    ne_eq, ← hzero, ← hones]
  -- the rest of the header sums up to a zero exactly if the field is one
  omega

/-- Only the field is ever changed, and it stays zeroed unless validation passes. -/
theorem validateChecksum_untouched_iff (ht : ethertype packet = ethertypeIp) :
    (validateChecksum packet len).2 = packet ↔
      (validateChecksum packet len).1 = some 0 ∨ ipSum packet = 0 := by
  rw [validateChecksum_ip ht]
  split_ifs with h
  · constructor
    · intro hput
      have hfield := congrArg ipSum hput
      rw [ipSum, get16_put16] at hfield
      exact Or.inr hfield.symm
    · rintro (h | h)
      · simp at h
      · have hback := put16_restore packet 24 0
        rw [put16_put16, show get16 packet 24 = 0 from h] at hback
        exact hback
  · simp

theorem wordSum_wholeHeader (hl : 5 ≤ ipHl packet) : wordSum (4*ipHl packet) (shift packet 14) =
    wordSum sizeofIpHdr (shift packet 14)+
      wordSum (4*ipHl packet-sizeofIpHdr) (shift packet (sizeofEthernetHdr+sizeofIpHdr)) := by
  have hlen : 4*ipHl packet = 2*10+(4*ipHl packet-sizeofIpHdr) := by
    rw [sizeofIpHdr]
    omega
  have hshift : shift (shift packet 14) (2*10) = shift packet (sizeofEthernetHdr+sizeofIpHdr) :=
    shift_shift packet 14 (2*10)
  calc
    _ = wordSum (2*10+(4*ipHl packet-sizeofIpHdr)) (shift packet 14) := by rw [← hlen]
    _ = _ := by rw [wordSum_append, hshift]; rfl

theorem headerSum_eq_ones_iff (hl : 5 ≤ ipHl packet) :
    headerSum packet = 0xffff ↔ 65535 ∣ wordSum (4*ipHl packet) (shift packet 14) := by
  obtain ⟨n,hn⟩ : ∃ n, 4*ipHl packet = n+2 := ⟨4*ipHl packet-2, by omega⟩
  have hpos : 0 < wordSum (4*ipHl packet) (shift packet sizeofEthernetHdr) := by
    rw [hn]
    exact wordSum_pos hl
  rw [headerSum, onesSum_eq_ones_iff]
  exact and_iff_right hpos

end Header

/-- A rejected IP packet leaves no trace. -/
theorem ipPacket_of_rejected {packet : Buf} {len : ℕ} (ht : ethertype packet.mem = ethertypeIp)
    (h : ¬Accepted packet.mem len) (env : Env) (fuel : ℕ) (interface : CName) (s : SrInstance) :
    ipPacket env fuel packet interface len s = .ok () s := by
  rw [ipPacket]
  by_cases hv : validateIP packet.mem len = 0
  · have hwrong : (validateChecksum packet.mem len).1 = some 1 := by
      have hsum : (validateChecksum packet.mem len).1 ≠ some 0 := fun hc => h ⟨hv,hc⟩
      rw [validateChecksum_ip ht] at hsum ⊢
      split_ifs at hsum ⊢
      · rfl
      · exact absurd rfl hsum
    rw [if_neg (not_not.mpr hv)]
    simp only [hwrong, ne_eq, one_ne_zero, not_false_eq_true, if_true]
    rfl
  · rw [if_pos hv]
    rfl

/-- Validation is right about a header exactly if either its checksum field is neither of the two
zeros, its first 20 bytes sum up to all ones and its options to zero, or the field is the zero of
all zeros and the header does not sum up to all ones. -/
theorem validateChecksum_judges_iff {packet : Mem} {len : ℕ}
    (ht : ethertype packet = ethertypeIp) (hl : 5 ≤ ipHl packet) :
    ChecksumJudged packet len ↔
      (ipSum packet ≠ 0 ∧ ipSum packet ≠ 0xffff ∧
        onesSum sizeofIpHdr (shift packet sizeofEthernetHdr) = 0xffff ∧
        (optionsSum packet = 0 ∨ optionsSum packet = 0xffff)) ∨
      (ipSum packet = 0 ∧ headerSum packet ≠ 0xffff) := by
  have hpasses := @validateChecksum_passes_iff packet len ht hl
  have hkept := @validateChecksum_untouched_iff packet len ht
  have hfirst : onesSum sizeofIpHdr (shift packet sizeofEthernetHdr) = 0xffff ↔
      65535 ∣ wordSum sizeofIpHdr (shift packet 14) := by
    rw [onesSum_eq_ones_iff]
    exact and_iff_right (wordSum_pos hl)
  have hsplit := wordSum_wholeHeader hl
  have hwhole := headerSum_eq_ones_iff hl
  have hoptions : optionsSum packet = 0 ∨ optionsSum packet = 0xffff ↔ _ :=
    onesSum_isZero_iff _ _
  constructor
  · rintro ⟨hverdict,huntouched⟩
    -- the field is kept by a header that passes, and by one whose field was zero already
    rcases hkept.mp huntouched with h | h
    · obtain ⟨hne,hne',hdvd⟩ := hpasses.mp h
      have hall := hwhole.mp (hverdict.mp h)
      rw [hsplit] at hall
      exact Or.inl ⟨hne, hne', hfirst.mpr hdvd, hoptions.mpr ((Nat.dvd_add_right hdvd).mp hall)⟩
    · refine Or.inr ⟨h,?_⟩
      intro hall
      exact (hpasses.mp (hverdict.mpr hall)).1 h
  · rintro (⟨hne,hne',hones,hopt⟩ | ⟨h0,hbad⟩)
    · have hdvd := hfirst.mp hones
      have hpass := hpasses.mpr ⟨hne,hne',hdvd⟩
      have hall : headerSum packet = 0xffff := by
        rw [hwhole, hsplit]
        exact Nat.dvd_add hdvd (hoptions.mp hopt)
      exact ⟨iff_of_true hpass hall, hkept.mpr (Or.inl hpass)⟩
    -- a zero field fails, so the verdict is right only if the header is wrong
    · have hfails : (validateChecksum packet len).1 ≠ some 0 := fun h => (hpasses.mp h).1 h0
      exact ⟨iff_of_false hfails hbad, hkept.mpr (Or.inr h0)⟩

/-- A header whose checksum field holds the zero of all zeros, and whose words sum up to the other
zero. -/
def zeroSumFrame : Mem := fun i =>
  if i = 12 then 0x08 else if i = 14 then 0x45 else if i = 26 then 0xba else if i = 27 then 0xff
  else 0

theorem validateChecksum_judges_zeroSum : ChecksumJudged zeroSumFrame 34 ↔
    (ipSum zeroSumFrame ≠ 0 ∧ ipSum zeroSumFrame ≠ 0xffff ∧
      onesSum sizeofIpHdr (shift zeroSumFrame sizeofEthernetHdr) = 0xffff ∧
      (optionsSum zeroSumFrame = 0 ∨ optionsSum zeroSumFrame = 0xffff)) ∨
    (ipSum zeroSumFrame = 0 ∧ headerSum zeroSumFrame ≠ 0xffff) :=
  validateChecksum_judges_iff (by decide) (by decide)

/-- The same header with the other zero in its field. -/
def onesSumFrame : Mem := put16 zeroSumFrame 24 0xffff

/-- Both are valid, and turned away; the field of the second is left zeroed. -/
theorem zeroSumFrame_misjudged : ethertype zeroSumFrame = ethertypeIp ∧ ipHl zeroSumFrame = 5 ∧
    headerSum zeroSumFrame = 0xffff ∧ (validateChecksum zeroSumFrame 34).1 = some 1 ∧
    ¬ChecksumJudged zeroSumFrame 34 ∧ headerSum onesSumFrame = 0xffff ∧
    validateChecksum onesSumFrame 34 = (some 1, zeroSumFrame) ∧
    ¬ChecksumJudged onesSumFrame 34 := by
  have hsum : headerSum zeroSumFrame = 0xffff := by decide
  have hsum' : headerSum onesSumFrame = 0xffff := by decide
  have hwrong : (validateChecksum zeroSumFrame 34).1 = some 1 := by decide
  have hwrong' : (validateChecksum onesSumFrame 34).1 = some 1 := by decide
  have hmem : (validateChecksum onesSumFrame 34).2 = zeroSumFrame := by
    have hput : put16 zeroSumFrame 24 (get16 zeroSumFrame 24) = zeroSumFrame := by
      have hback := put16_restore zeroSumFrame 24 0
      rwa [put16_put16] at hback
    rw [validateChecksum_ip (by decide), if_pos (by decide), onesSumFrame, put16_put16]
    exact hput
  refine ⟨by decide, by decide, hsum, hwrong, ?_, hsum', Prod.ext hwrong' hmem, ?_⟩
  · intro h
    rw [h.verdict.mpr hsum] at hwrong
    simp at hwrong
  · intro h
    rw [h.verdict.mpr hsum'] at hwrong'
    simp at hwrong'

end InternetCourse.Router
