import InternetCourse.RouterErrors

/-! The bytes of an ICMP error message that come from the heap. `next_mtu` is never written,
and the checksum before it sums it up. -/
namespace InternetCourse.Router

open ByteMem

/-- An error message before its two checksums. -/
def icmpErrorBody (type code : UInt8) (ttl : UInt8 → UInt8) (buff packet : Mem) (i : SrIf) : Mem :=
  let m := putSix buff 6 i.addr
  let m := putSix m 0 (etherShost packet)
  let m := put16 m 12 (etherType packet)
  let m := put32 m 30 (ipSrc packet)
  let m := put32 m 26 i.ip
  let m := put8 m 14 0x45
  let m := put8 m 15 0
  let m := put8 m 15 (ipTos packet)
  let m := put16 m 16 (htons (UInt16.ofNat (sizeofIpHdr+sizeofIcmpT3Hdr)))
  let m := put16 m 18 (ipId packet)
  let m := put16 m 20 (ipOff packet)
  let m := put8 m 22 (ttl (ipTtl packet))
  let m := put8 m 23 1
  let m := put8 m 34 type
  let m := put8 m 35 code
  let m := put16 m 38 0
  memcpy m 42 (shift packet 14) ICMP_DATA_SIZE

/-- The body with the checksum of its IP header. -/
def icmpErrorSummed (body : Mem) : Mem :=
  put16 (put16 body 24 0) 24 (cksum (shift (put16 body 24 0) 14) sizeofIpHdr)

section Frames

variable {type code : UInt8} {ttl : UInt8 → UInt8} {buff buff' packet packet' : Mem} {i : SrIf}

theorem icmpErrorFrame_eq (type code : UInt8) (ttl : UInt8 → UInt8) (buff packet : Mem)
    (i : SrIf) : icmpErrorFrame type code ttl buff packet i =
      put16 (put16 (icmpErrorSummed (icmpErrorBody type code ttl buff packet i)) 36 0) 36
        (cksum (shift (put16 (icmpErrorSummed (icmpErrorBody type code ttl buff packet i)) 36 0) 34)
          sizeofIcmpT3Hdr) := rfl

theorem icmpErrorBody_head (hp : ∀ k < 34, packet k = packet' k) {k : ℕ} (hk : k < 36)
    (hk' : k < 24 ∨ 26 ≤ k) :
    icmpErrorBody type code ttl buff packet i k = icmpErrorBody type code ttl buff' packet' i k := by
  have hshost : etherShost packet = etherShost packet' :=
    getSix_congr fun j _ _ => hp j (by omega)
  have htype : etherType packet = etherType packet' := get16_congr fun j _ _ => hp j (by omega)
  have hsrc : ipSrc packet = ipSrc packet' := get32_congr fun j _ _ => hp j (by omega)
  have hid : ipId packet = ipId packet' := get16_congr fun j _ _ => hp j (by omega)
  have hoff : ipOff packet = ipOff packet' := get16_congr fun j _ _ => hp j (by omega)
  have htos : ipTos packet = ipTos packet' := hp 15 (by omega)
  have httl : ipTtl packet = ipTtl packet' := hp 22 (by omega)
  simp only [icmpErrorBody, hshost, htype, hsrc, hid, hoff, htos, httl]
  interval_cases k <;> simp [put8, put16, put32, putSix, memcpy] at hk' ⊢

theorem put16_agree {m m' : Mem} {off : ℕ} {v : UInt16} {k : ℕ} (h : m k = m' k) :
    put16 m off v k = put16 m' off v k := by
  simp only [put16, h]

theorem icmpErrorSummed_head {body body' : Mem}
    (h : ∀ k < 36, k < 24 ∨ 26 ≤ k → body k = body' k) {k : ℕ} (hk : k < 36) :
    icmpErrorSummed body k = icmpErrorSummed body' k := by
  have hzero : ∀ j < 36, put16 body 24 0 j = put16 body' 24 0 j := by
    intro j hj
    by_cases h24 : j < 24 ∨ 26 ≤ j
    · exact put16_agree (h j hj h24)
    · obtain rfl | rfl : j = 24 ∨ j = 25 := by omega
      · rfl
      · rfl
  have hsum : cksum (shift (put16 body 24 0) 14) sizeofIpHdr =
      cksum (shift (put16 body' 24 0) 14) sizeofIpHdr := by
    apply cksum_congr
    intro j hj
    have hj' : j < 20 := hj
    exact hzero (14+j) (by omega)
  rw [icmpErrorSummed, icmpErrorSummed, hsum]
  exact put16_agree (hzero k hk)

/-- The bytes before the ICMP checksum come from the packet's headers and the interface. -/
theorem icmpErrorFrame_head (hp : ∀ k < 34, packet k = packet' k) {k : ℕ} (hk : k < 36) :
    icmpErrorFrame type code ttl buff packet i k =
      icmpErrorFrame type code ttl buff' packet' i k := by
  rw [icmpErrorFrame_eq, icmpErrorFrame_eq]
  rw [put16_outside _ _ (Or.inl hk), put16_outside _ _ (Or.inl hk)]
  rw [put16_outside _ _ (Or.inl hk), put16_outside _ _ (Or.inl hk)]
  exact icmpErrorSummed_head (fun j hj hj' => icmpErrorBody_head hp hj hj') hk

end Frames

/-! What the checksum adds up. -/

/-- The sum of the 16-bit words, without a bound on it. -/
def wordSum : ℕ → Mem → ℕ
  | len+2, data => 256*(data 0).toNat+(data 1).toNat+wordSum len (shift data 2)
  | 1, data => 256*(data 0).toNat
  | 0, _ => 0

theorem wordSum_le (len : ℕ) (data : Mem) : wordSum len data ≤ 65535*((len+1)/2) := by
  induction len using Nat.strong_induction_on generalizing data with
  | _ len ih =>
    match len, ih with
    | 0, _ => exact le_rfl
    | 1, _ =>
      have h0 := (data 0).toNat_lt
      rw [wordSum]
      omega
    | len+2, ih =>
      have h0 := (data 0).toNat_lt
      have h1 := (data 1).toNat_lt
      have hrest := ih len (by omega) (shift data 2)
      rw [wordSum]
      omega

theorem shiftLeft_or (a b : UInt8) : a.toNat <<< 8 ||| b.toNat = 256*a.toNat+b.toNat := by
  rw [← Nat.shiftLeft_add_eq_or_of_lt b.toNat_lt, Nat.shiftLeft_eq]
  omega

theorem sumWords_eq (len : ℕ) (data : Mem) (sum : ℕ) (h : sum+wordSum len data < 2^32) :
    sumWords len data sum = sum+wordSum len data := by
  induction len using Nat.strong_induction_on generalizing data sum with
  | _ len ih =>
    match len, ih, h with
    | 0, _, _ => rfl
    | 1, _, h =>
      rw [wordSum] at h
      rw [sumWords, wordSum, Nat.shiftLeft_eq, Nat.mod_eq_of_lt (by omega)]
      omega
    | len+2, ih, h =>
      rw [wordSum] at h
      rw [sumWords, wordSum, shiftLeft_or, Nat.mod_eq_of_lt (by omega)]
      rw [ih len (by omega) _ _ (by omega)]
      omega

theorem wordSum_congr (len : ℕ) {data data' : Mem} (h : ∀ i < len, data i = data' i) :
    wordSum len data = wordSum len data' := by
  induction len using Nat.strong_induction_on generalizing data data' with
  | _ len ih =>
    match len, ih, h with
    | 0, _, _ => rfl
    | 1, _, h => rw [wordSum, wordSum, h 0 (by omega)]
    | len+2, ih, h =>
      have hrest : wordSum len (shift data 2) = wordSum len (shift data' 2) :=
        ih len (by omega) fun i hi => h (2+i) (by omega)
      rw [wordSum, wordSum, h 0 (by omega), h 1 (by omega), hrest]

theorem wordSum_shift (len off : ℕ) (m : Mem) : wordSum (len+2) (shift m off) =
    256*(m off).toNat+(m (off+1)).toNat+wordSum len (shift m (off+2)) := by
  have hshift : shift (shift m off) 2 = shift m (off+2) := by
    funext k
    exact congrArg m (Nat.add_assoc off 2 k).symm
  rw [wordSum, hshift]
  rfl

/-- The last word of an even number of bytes. -/
theorem wordSum_snoc (n : ℕ) (data : Mem) : wordSum (2*n+2) data =
    wordSum (2*n) data+(256*(data (2*n)).toNat+(data (2*n+1)).toNat) := by
  induction n generalizing data with
  | zero => simp [wordSum]
  | succ n ih =>
    have hrest := ih (shift data 2)
    have h0 : shift data 2 (2*n) = data (2*(n+1)) := congrArg data (by ring)
    have h1 : shift data 2 (2*n+1) = data (2*(n+1)+1) := congrArg data (by ring)
    rw [h0, h1] at hrest
    have hl : wordSum (2*(n+1)+2) data =
        256*(data 0).toNat+(data 1).toNat+wordSum (2*n+2) (shift data 2) := rfl
    have hr : wordSum (2*(n+1)) data =
        256*(data 0).toNat+(data 1).toNat+wordSum (2*n) (shift data 2) := rfl
    rw [hl, hr, hrest]
    ring

theorem foldCarry_mod (sum : ℕ) : foldCarry 2 sum%65535 = sum%65535 := by
  have hm (n : ℕ) : n &&& 0xffff = n%65536 := Nat.and_two_pow_sub_one_eq_mod n 16
  have hs (n : ℕ) : n >>> 16 = n/65536 := Nat.shiftRight_eq_div_pow n 16
  simp only [foldCarry, hm, hs]
  split_ifs <;> omega

/-- What the two loops of `cksum` leave fits 16 bits and has the residue of the sum. -/
theorem cksum_folded {len : ℕ} {data : Mem} (h : wordSum len data < 2^32) :
    ∃ folded, folded ≤ 0xffff ∧ folded%65535 = wordSum len data%65535 ∧
      cksum data len = if htons (UInt16.ofNat (2^32-1-folded)) ≠ 0 then
        htons (UInt16.ofNat (2^32-1-folded)) else 0xffff := by
  have hsum : sumWords len data 0 = wordSum len data := by
    rw [sumWords_eq len data 0 (by omega), Nat.zero_add]
  refine ⟨foldCarry 2 (wordSum len data), foldCarry_two_le h, foldCarry_mod _, ?_⟩
  rw [← hsum]
  rfl

/-- The first byte of a checksum on the wire. -/
theorem cksum_low (data : Mem) (len : ℕ) (h : wordSum len data < 2^32) :
    (cksum data len).toNat%256 = 255-wordSum len data%65535/256 := by
  obtain ⟨folded,hle,hmod,hsum⟩ := cksum_folded h
  rw [hsum]
  have hc : (htons (UInt16.ofNat (2^32-1-folded))).toNat =
      (65535-folded)/256+256*((65535-folded)%256) := by
    have hcut : (2^32-1-folded)%65536 = 65535-folded := by omega
    rw [htons, swap16, toNat_ofNat16, toNat_ofNat16, hcut]
    omega
  -- a checksum of 0 is sent as 0xffff
  split_ifs with h0
  · have hne : (htons (UInt16.ofNat (2^32-1-folded))).toNat ≠ 0 := fun hz =>
      h0 (UInt16.toNat.inj hz)
    rw [hc] at hne
    have hlt : folded < 65535 := by omega
    have hhigh : (65535-folded)/256 < 256 := by omega
    rw [hc, ← hmod, Nat.mod_eq_of_lt hlt, Nat.add_mul_mod_self_left, Nat.mod_eq_of_lt hhigh]
    omega
  · have hz : (htons (UInt16.ofNat (2^32-1-folded))).toNat = 0 := by
      rw [not_not.mp h0]
      rfl
    rw [hc] at hz
    obtain rfl : folded = 65535 := by omega
    have h255 : (65535 : UInt16).toNat%256 = 255 := rfl
    rw [h255, ← hmod]

/-! What is in `next_mtu` shows in the checksum. -/

section Leaks

variable (type code : UInt8) (ttl : UInt8 → UInt8) (buff packet : Mem) (i : SrIf)

/-- What the ICMP checksum of an error message adds up. -/
theorem icmpErrorFrame_wordSum :
    wordSum sizeofIcmpT3Hdr (shift (put16 (icmpErrorSummed
        (icmpErrorBody type code ttl buff packet i)) 36 0) 34) =
      256*type.toNat+code.toNat+(256*(buff 40).toNat+(buff 41).toNat)+
        wordSum 28 (shift packet 14) := by
  generalize hm : put16 (icmpErrorSummed (icmpErrorBody type code ttl buff packet i)) 36 0 = m
  have hbody (k : ℕ) (hk : 38 ≤ k) : m k = icmpErrorBody type code ttl buff packet i k := by
    rw [← hm, put16_outside _ _ (by omega), icmpErrorSummed, put16_outside _ _ (by omega),
      put16_outside _ _ (by omega)]
  have hquote : wordSum 28 (shift m 42) = wordSum 28 (shift packet 14) := by
    apply wordSum_congr
    intro k hk
    have hlt : 42+k < 42+ICMP_DATA_SIZE := by
      rw [ICMP_DATA_SIZE]
      omega
    have hin : icmpErrorBody type code ttl buff packet i (42+k) = shift packet 14 (42+k-42) :=
      memcpy_inside _ _ ⟨by omega, hlt⟩
    rw [shift, hbody _ (by omega), hin, Nat.add_sub_cancel_left]
  have h34 : m 34 = type := by
    rw [← hm]
    rfl
  have h35 : m 35 = code := by
    rw [← hm]
    rfl
  have h36 : m 36 = 0 := by
    rw [← hm]
    rfl
  have h37 : m 37 = 0 := by
    rw [← hm]
    rfl
  have h38 : m 38 = 0 := hbody 38 (by omega)
  have h39 : m 39 = 0 := hbody 39 (by omega)
  -- these two bytes are never written
  have h40 : m 40 = buff 40 := hbody 40 (by omega)
  have h41 : m 41 = buff 41 := hbody 41 (by omega)
  rw [sizeofIcmpT3Hdr, wordSum_shift, wordSum_shift, wordSum_shift, wordSum_shift, hquote, h34, h35,
    h36, h37, h38, h39, h40, h41, UInt8.toNat_zero]
  ring

/-- The first byte of the ICMP checksum. -/
theorem icmpErrorFrame_checksum : (icmpErrorFrame type code ttl buff packet i 36).toNat =
    255-(256*type.toNat+code.toNat+(256*(buff 40).toNat+(buff 41).toNat)+
      wordSum 28 (shift packet 14))%65535/256 := by
  have hsum := icmpErrorFrame_wordSum type code ttl buff packet i
  have hle := wordSum_le sizeofIcmpT3Hdr (shift (put16 (icmpErrorSummed
    (icmpErrorBody type code ttl buff packet i)) 36 0) 34)
  have hlow := cksum_low _ sizeofIcmpT3Hdr (hle.trans_lt (by decide))
  rw [hsum] at hlow
  rw [icmpErrorFrame_eq, put16, if_pos rfl, toNat_ofNat8, Nat.mod_mod]
  exact hlow

/-- What a heap may contain, and what else it may contain. -/
def blankHeap : ℕ → Mem := fun _ _ => 0

def markedHeap : ℕ → Mem := fun _ k => if k = 40 then 64 else 0

/-- Two packets alike up to their byte 40, which may be unwritten as well. -/
theorem icmpErrorFrame_leaks {packet packet' : Mem} (hp : ∀ k < 40, packet k = packet' k)
    (h40 : packet 40 = packet' 40 ∨ packet 40 = 0 ∧ packet' 40 = 64)
    (h41 : packet 41 = packet' 41) (n n' : ℕ) :
    icmpErrorFrame type code ttl (blankHeap n) packet i 36 ≠
      icmpErrorFrame type code ttl (markedHeap n') packet' i 36 := by
  have hlast (m : Mem) : wordSum 28 (shift m 14) =
      wordSum 26 (shift m 14)+(256*(m 40).toNat+(m 41).toNat) := wordSum_snoc 13 (shift m 14)
  have hhead : wordSum 26 (shift packet 14) = wordSum 26 (shift packet' 14) :=
    wordSum_congr 26 fun k hk => hp (14+k) (by omega)
  intro h
  have hn := congrArg UInt8.toNat h
  have hmarked : (markedHeap n' 40).toNat = 64 := rfl
  have hblank : (blankHeap n 40).toNat = 0 := rfl
  have hmarked' : (markedHeap n' 41).toNat = 0 := rfl
  have hblank' : (blankHeap n 41).toNat = 0 := rfl
  rw [icmpErrorFrame_checksum, icmpErrorFrame_checksum, hlast, hlast, hhead, h41, hmarked, hblank,
    hmarked', hblank'] at hn
  -- the sums differ by 0x4000 or 0x8000, the folded sums by no less than 0x3fff
  rcases h40 with h40 | ⟨h40,h40'⟩
  · rw [h40] at hn
    omega
  · have h64 : (64 : UInt8).toNat = 64 := rfl
    rw [h40, h40', h64, UInt8.toNat_zero] at hn
    omega

end Leaks

end InternetCourse.Router
