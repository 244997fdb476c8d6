import InternetCourse.ByteMem

/-! Frame layouts of sr_protocol.h, the checksum of sr_utils.c and the validation
of sr_ip.c. Every offset is counted from the first byte of the Ethernet frame. -/
namespace InternetCourse.Router

open ByteMem

def ICMP_DATA_SIZE : ℕ := 28
def sizeofEthernetHdr : ℕ := 14
def sizeofIpHdr : ℕ := 20
def sizeofArpHdr : ℕ := 28
def sizeofIcmpHdr : ℕ := 4
def sizeofIcmpT3Hdr : ℕ := 36

def ethertypeArp : UInt16 := 0x0806
def ethertypeIp : UInt16 := 0x0800

/-- A little-endian host: both conversions exchange the two bytes. -/
def ntohs (v : UInt16) : UInt16 := swap16 v
def htons (v : UInt16) : UInt16 := swap16 v

/-! struct sr_ethernet_hdr -/

def etherDhost (m : Mem) : Six := getSix m 0
def etherShost (m : Mem) : Six := getSix m 6
def etherType (m : Mem) : UInt16 := get16 m 12

/-! struct sr_ip_hdr, at byte 14 -/

def ipHl (m : Mem) : ℕ := (m 14).toNat%16
def ipTos (m : Mem) : UInt8 := m 15
def ipLen (m : Mem) : UInt16 := get16 m 16
def ipId (m : Mem) : UInt16 := get16 m 18
def ipOff (m : Mem) : UInt16 := get16 m 20
def ipTtl (m : Mem) : UInt8 := m 22
def ipP (m : Mem) : UInt8 := m 23
def ipSum (m : Mem) : UInt16 := get16 m 24
def ipSrc (m : Mem) : UInt32 := get32 m 26
def ipDst (m : Mem) : UInt32 := get32 m 30

/-! struct sr_icmp_hdr and struct sr_icmp_t3_hdr, at byte 34 -/

def icmpType (m : Mem) : UInt8 := m 34
def icmpCode (m : Mem) : UInt8 := m 35

/-! struct sr_arp_hdr, at byte 14 -/

def arOp (m : Mem) : UInt16 := get16 m 20
def arSha (m : Mem) : Six := getSix m 22
def arSip (m : Mem) : UInt32 := get32 m 28
def arTip (m : Mem) : UInt32 := get32 m 38

/-- The first loop of `cksum`, with its 32-bit accumulator, and the odd byte after it. -/
def sumWords : ℕ → Mem → ℕ → ℕ
  | len+2, data, sum =>
    sumWords len (shift data 2) ((sum+((data 0).toNat <<< 8 ||| (data 1).toNat))%2^32)
  | 1, data, sum => (sum+(data 0).toNat <<< 8)%2^32
  | 0, _, sum => sum

/-- `while (sum > 0xffff) sum = (sum >> 16) + (sum & 0xffff);` for a number of rounds. -/
def foldCarry : ℕ → ℕ → ℕ
  | 0, sum => sum
  | n+1, sum => if 0xffff < sum then foldCarry n (sum >>> 16+(sum &&& 0xffff)) else sum

/-- Two rounds empty the loop of `cksum`: its condition fails on what they leave. -/
theorem foldCarry_two_le {sum : ℕ} (h : sum < 2^32) : foldCarry 2 sum ≤ 0xffff := by
  have hm (n : ℕ) : n &&& 0xffff = n%65536 := Nat.and_two_pow_sub_one_eq_mod n 16
  have hs (n : ℕ) : n >>> 16 = n/65536 := Nat.shiftRight_eq_div_pow n 16
  simp only [foldCarry, hm, hs]
  split_ifs <;> omega

def cksum (data : Mem) (len : ℕ) : UInt16 :=
  let sum := foldCarry 2 (sumWords len data 0)
  -- the complement of all 32 bits, cut to 16
  let sum := htons (UInt16.ofNat (2^32-1-sum))
  if sum ≠ 0 then sum else 0xffff

/-- `cksum` as sr_ip.c gets it: without a prototype the result is taken for an `int`, and the
constant `0xffff` comes back as `-1`. -/
def cksumInt (data : Mem) (len : ℕ) : ℤ :=
  let sum := foldCarry 2 (sumWords len data 0)
  let sum := htons (UInt16.ofNat (2^32-1-sum))
  if sum ≠ 0 then sum.toNat else -1

/-- The words sum up to all ones, so that `cksum` returns its constant. -/
def SumsToOnes (data : Mem) (len : ℕ) : Prop := foldCarry 2 (sumWords len data 0) = 0xffff

instance (data : Mem) (len : ℕ) : Decidable (SumsToOnes data len) :=
  inferInstanceAs (Decidable (_ = _))

def ethertype (buf : Mem) : UInt16 := ntohs (etherType buf)

def validateIP (_buf : Mem) (length : ℕ) : ℤ :=
  if length < sizeofEthernetHdr+sizeofIpHdr then -1 else 0

/-- Also yields the buffer, whose checksum field is zeroed and put back in place.
`none` is the value of a call that runs off the end of the function. -/
def validateChecksum (packet : Mem) (_len : ℕ) : Option ℤ × Mem :=
  -- only the branch for IP has a `return`
  if ethertype packet = ethertypeArp then (none, packet)
  else if ethertype packet = ethertypeIp then
    let ipSum := get16 packet 24
    let zeroed := put16 packet 24 0
    -- on a mismatch the field stays zeroed; the comparison is one of `int`s
    if cksumInt (shift zeroed 14) sizeofIpHdr ≠ ipSum.toNat then (some 1, zeroed)
    else (some 0, put16 zeroed 24 ipSum)
  else (none, packet)

/-- What `IP_packet` goes on with: the length and the header checksum are right. -/
def Accepted (packet : Mem) (len : ℕ) : Prop :=
  validateIP packet len = 0 ∧ (validateChecksum packet len).1 = some 0

instance (packet : Mem) (len : ℕ) : Decidable (Accepted packet len) :=
  inferInstanceAs (Decidable (_ ∧ _))

theorem sumWords_congr (len : ℕ) {data data' : Mem} (h : ∀ i < len, data i = data' i)
    (sum : ℕ) : sumWords len data sum = sumWords len data' sum := by
  induction len using Nat.strong_induction_on generalizing data data' sum with
  | _ len ih =>
    match len, ih, h with
    | 0, _, _ => rfl
    | 1, _, h => simp only [sumWords, h 0 (by omega)]
    | len+2, ih, h =>
      simp only [sumWords, h 0 (by omega), h 1 (by omega)]
      exact ih len (by omega) (fun i hi => h (2+i) (by omega)) _

/-- The checksum reads the first `len` bytes only. -/
theorem cksum_congr {len : ℕ} {data data' : Mem} (h : ∀ i < len, data i = data' i) :
    cksum data len = cksum data' len := by
  simp only [cksum, sumWords_congr len h]

theorem SumsToOnes.congr {len : ℕ} {data data' : Mem} (h : ∀ i < len, data i = data' i) :
    SumsToOnes data len ↔ SumsToOnes data' len := by
  simp only [SumsToOnes, sumWords_congr len h]

theorem sumWords_lt (len : ℕ) (data : Mem) {sum : ℕ} (h : sum < 2^32) :
    sumWords len data sum < 2^32 := by
  induction len using Nat.strong_induction_on generalizing data sum with
  | _ len ih =>
    match len, ih with
    | 0, _ => exact h
    | 1, _ => exact Nat.mod_lt _ (by decide)
    | len+2, ih => exact ih len (by omega) _ (Nat.mod_lt _ (by decide))

/-- The complement is cut to zero exactly if all ones were summed up. -/
theorem complement_eq_zero_iff {sum : ℕ} (h : sum ≤ 0xffff) :
    htons (UInt16.ofNat (2^32-1-sum)) = 0 ↔ sum = 0xffff := by
  have hcut : (UInt16.ofNat (2^32-1-sum)).toNat = 0xffff-sum := by
    rw [toNat_ofNat16]
    omega
  have hswap : (htons (UInt16.ofNat (2^32-1-sum))).toNat =
      (0xffff-sum)/256+256*((0xffff-sum)%256) := by
    have hhigh : (0xffff-sum)/256 < 256 := by omega
    have hlow : (0xffff-sum)%256 < 256 := Nat.mod_lt _ (by decide)
    rw [htons, swap16, hcut, toNat_ofNat16, Nat.mod_eq_of_lt (by omega)]
  have hzero : (0 : UInt16).toNat = 0 := rfl
  rw [← UInt16.toNat_inj, hswap, hzero]
  omega

/-- The `int` is the checksum, but for the constant. -/
theorem cksumInt_eq_iff (data : Mem) (len : ℕ) (v : UInt16) :
    cksumInt data len = v.toNat ↔ cksum data len = v ∧ ¬SumsToOnes data len := by
  have hle : foldCarry 2 (sumWords len data 0) ≤ 0xffff :=
    foldCarry_two_le (sumWords_lt len data (by decide))
  have hconst := complement_eq_zero_iff hle
  -- no field of 16 bits is negative
  have hneg : (-1 : ℤ) ≠ v.toNat := (neg_one_lt_zero.trans_le (Int.natCast_nonneg _)).ne
  rw [cksumInt, cksum, SumsToOnes, ← hconst]
  by_cases h : htons (UInt16.ofNat (2^32-1-foldCarry 2 (sumWords len data 0))) = 0
  · rw [if_neg (not_not.mpr h), if_neg (not_not.mpr h)]
    exact iff_of_false hneg fun hv => hv.2 h
  · rw [if_pos h, if_pos h, Nat.cast_inj, UInt16.toNat_inj]
    exact (and_iff_left h).symm

theorem accepted_iff (packet : Mem) (len : ℕ) :
    Accepted packet len ↔ 34 ≤ len ∧ ethertype packet = ethertypeIp ∧
      cksum (shift (put16 packet 24 0) 14) 20 = ipSum packet ∧
      ¬SumsToOnes (shift (put16 packet 24 0) 14) 20 := by
  have hne : ethertypeIp ≠ ethertypeArp := by decide
  rw [← cksumInt_eq_iff]
  simp only [Accepted, validateIP, validateChecksum, sizeofEthernetHdr, sizeofIpHdr, ipSum]
  by_cases hl : len < 34 <;> by_cases ha : ethertype packet = ethertypeArp <;>
    by_cases hi : ethertype packet = ethertypeIp <;>
    by_cases hc : cksumInt (shift (put16 packet 24 0) 14) 20 = (get16 packet 24).toNat <;>
    simp_all
  all_goals omega

/-- A checksum field that was zeroed and then filled with the checksum. -/
structure Checksummed (packet : Mem) (len : ℕ) : Prop where
  length : 34 ≤ len
  ip : ethertype packet = ethertypeIp
  field : cksum (shift (put16 packet 24 0) 14) 20 = ipSum packet

/-- Such a header is accepted, unless the checksum that was filled in is the constant. -/
theorem Checksummed.accepted_iff {packet : Mem} {len : ℕ} (h : Checksummed packet len) :
    Accepted packet len ↔ ¬SumsToOnes (shift (put16 packet 24 0) 14) 20 := by
  rw [Router.accepted_iff]
  constructor
  · rintro ⟨-,-,-,hs⟩
    exact hs
  · intro hs
    exact ⟨h.length, h.ip, h.field, hs⟩

theorem Accepted.checksummed {packet : Mem} {len : ℕ} (h : Accepted packet len) :
    Checksummed packet len := by
  obtain ⟨hl,ht,hc,-⟩ := (accepted_iff packet len).mp h
  exact ⟨hl,ht,hc⟩

theorem checksummed_of_filled {packet filled : Mem} {len : ℕ} (hl : 34 ≤ len)
    (ht : ethertype packet = ethertypeIp)
    (h : ∀ i, 14 ≤ i → i < 34 → packet i =
      put16 (put16 filled 24 0) 24 (cksum (shift (put16 filled 24 0) 14) sizeofIpHdr) i) :
    Checksummed packet len := by
  let sum := cksum (shift (put16 filled 24 0) 14) sizeofIpHdr
  have hb : ∀ i, 14 ≤ i → i < 34 → packet i = put16 filled 24 sum i := by
    intro i h₁ h₂
    rw [h i h₁ h₂, put16_put16]
  have hsum : ipSum packet = sum := by
    calc
      _ = get16 (put16 filled 24 sum) 24 := get16_congr fun i _ _ => hb i (by omega) (by omega)
      _ = sum := get16_put16 _ _ _
  -- validation zeroes the field again, and then sees what was summed up when it was filled
  have hzero : cksum (shift (put16 packet 24 0) 14) 20 = sum := by
    apply cksum_congr
    intro i hi
    have hi' : i < 20 := hi
    have hpi := hb (14+i) (by omega) (by omega)
    simp only [shift, put16] at hpi ⊢
    split_ifs at hpi ⊢
    · rfl
    · rfl
    · exact hpi
  exact ⟨hl, ht, hzero.trans hsum.symm⟩

/-- Validation that succeeds leaves the buffer as it was. -/
theorem validateChecksum_restores {packet : Mem} {len : ℕ}
    (h : (validateChecksum packet len).1 = some 0) : (validateChecksum packet len).2 = packet := by
  revert h
  simp only [validateChecksum]
  split_ifs
  · intro _; rfl
  · intro h; simp at h
  · intro _; exact put16_restore packet 24 0
  · intro _; rfl

/-- Only the Ethernet type and the IP header matter. -/
theorem Checksummed.congr {packet packet' : Mem} {len : ℕ} (h : Checksummed packet len)
    (hb : ∀ i < len, packet' i = packet i) : Checksummed packet' len := by
  have hl := h.length
  have hf (i : ℕ) (hi : i < 34) : packet' i = packet i := hb i (by omega)
  have hsum : ipSum packet' = ipSum packet := get16_congr fun i _ hi => hf i (by omega)
  refine ⟨hl, ?_, ?_⟩
  · rw [← h.ip]
    exact congrArg ntohs (get16_congr fun i _ hi => hf i (by omega))
  · rw [hsum, ← h.field]
    apply cksum_congr
    intro i hi
    simp only [shift, put16, hf (14+i) (by omega)]

/-- Acceptance depends on the Ethernet type and the IP header only. -/
theorem Accepted.congr {packet packet' : Mem} {len : ℕ} (h : Accepted packet len)
    (hb : ∀ i < len, packet' i = packet i) : Accepted packet' len := by
  have hl := h.checksummed.length
  rw [(h.checksummed.congr hb).accepted_iff]
  rw [h.checksummed.accepted_iff] at h
  rwa [SumsToOnes.congr]
  intro i hi
  simp only [shift, put16, hb (14+i) (by omega)]

end InternetCourse.Router
