import InternetCourse.OnesComplement
import InternetCourse.RouterUnwritten

/-! The checksum of sr_utils.c as a one's-complement sum, and the sums of bytes with a checksum
in them. -/
namespace InternetCourse.Router

open ByteMem

/-- The 16-bit words of the bytes, in network order; a last odd byte is followed by a zero. -/
def words : ℕ → Mem → List ℕ
  | len+2, data => (256*(data 0).toNat+(data 1).toNat) :: words len (shift data 2)
  | 1, data => [256*(data 0).toNat]
  | 0, _ => []

/-- The one's-complement sum of the words. -/
def onesSum (len : ℕ) (data : Mem) : ℕ := OnesComplement.sum 0xffff (words len data)

theorem words_sum (len : ℕ) (data : Mem) : (words len data).sum = wordSum len data := by
  induction len using Nat.strong_induction_on generalizing data with
  | _ len ih =>
    match len, ih with
    | 0, _ => rfl
    | 1, _ => simp [words, wordSum]
    | len+2, ih => rw [words, wordSum, List.sum_cons, ih len (by omega)]

/-- 65537 words of all ones are the most that 32 bits hold. -/
theorem wordSum_lt {len : ℕ} (h : len ≤ 131074) (data : Mem) : wordSum len data < 2^32 := by
  have hle := wordSum_le len data
  have hwords : (len+1)/2 ≤ 65537 := by omega
  calc
    _ ≤ 65535*((len+1)/2) := hle
    _ ≤ 65535*65537 := Nat.mul_le_mul_left 65535 hwords
    _ < 2^32 := by decide

theorem words_le (len : ℕ) (data : Mem) : ∀ w ∈ words len data, w ≤ 0xffff := by
  induction len using Nat.strong_induction_on generalizing data with
  | _ len ih =>
    have h0 := (data 0).toNat_lt
    have h1 := (data 1).toNat_lt
    match len, ih with
    | 0, _ => simp [words]
    | 1, _ =>
      intro w hw
      obtain rfl := List.mem_singleton.mp hw
      omega
    | len+2, ih =>
      intro w hw
      rcases List.mem_cons.mp hw with rfl | hw
      · omega
      · exact ih len (by omega) _ w hw

theorem words_congr (len : ℕ) {data data' : Mem} (h : ∀ i < len, data i = data' i) :
    words len data = words len data' := by
  induction len using Nat.strong_induction_on generalizing data data' with
  | _ len ih =>
    match len, ih, h with
    | 0, _, _ => rfl
    | 1, _, h => rw [words, words, h 0 (by omega)]
    | len+2, ih, h =>
      have hrest : words len (shift data 2) = words len (shift data' 2) :=
        ih len (by omega) fun i hi => h (2+i) (by omega)
      rw [words, words, h 0 (by omega), h 1 (by omega), hrest]

theorem onesSum_congr (len : ℕ) {data data' : Mem} (h : ∀ i < len, data i = data' i) :
    onesSum len data = onesSum len data' := by
  rw [onesSum, onesSum, words_congr len h]

theorem onesSum_eq_ones_iff (len : ℕ) (data : Mem) :
    onesSum len data = 0xffff ↔ 0 < wordSum len data ∧ 65535 ∣ wordSum len data := by
  rw [onesSum, OnesComplement.sum_eq_ones_iff (by decide) (words_le len data), words_sum]

theorem onesSum_isZero_iff (len : ℕ) (data : Mem) :
    onesSum len data = 0 ∨ onesSum len data = 0xffff ↔ 65535 ∣ wordSum len data := by
  rw [onesSum, OnesComplement.sum_isZero_iff (words_le len data), words_sum]

/-- The sum over an even number of bytes and those behind them. -/
theorem wordSum_append (a len : ℕ) (data : Mem) :
    wordSum (2*a+len) data = wordSum (2*a) data+wordSum len (shift data (2*a)) := by
  induction a generalizing data with
  | zero => rw [Nat.mul_zero, Nat.zero_add, shift_zero, wordSum, Nat.zero_add]
  | succ a ih =>
    have hshift : shift (shift data 2) (2*a) = shift data (2*(a+1)) := by
      rw [shift_shift, Nat.mul_succ, Nat.add_comm]
    have hl : wordSum (2*(a+1)+len) data =
        256*(data 0).toNat+(data 1).toNat+wordSum (2*a+len) (shift data 2) := by
      rw [show 2*(a+1)+len = 2*a+len+2 by omega, wordSum]
    have hr : wordSum (2*(a+1)) data =
        256*(data 0).toNat+(data 1).toNat+wordSum (2*a) (shift data 2) := rfl
    rw [hl, hr, ih, hshift]
    omega

theorem swap16_toNat (v : UInt16) : (swap16 v).toNat = v.toNat/256+256*(v.toNat%256) := by
  have hv := v.toNat_lt
  have hhigh : v.toNat/256 < 256 := by omega
  have hlow : v.toNat%256 < 256 := Nat.mod_lt _ (by decide)
  rw [swap16, toNat_ofNat16, Nat.mod_eq_of_lt (by omega)]

/-- A field read in network order. -/
theorem swap16_get16 (m : Mem) (off : ℕ) :
    (swap16 (get16 m off)).toNat = 256*(m off).toNat+(m (off+1)).toNat := by
  have h0 := (m off).toNat_lt
  have h1 := (m (off+1)).toNat_lt
  have hfield : (get16 m off).toNat = (m off).toNat+256*(m (off+1)).toNat := by
    rw [get16, toNat_ofNat16, Nat.mod_eq_of_lt (by omega)]
  rw [swap16_toNat, hfield]
  omega

theorem swap16_inj {v w : UInt16} (h : (swap16 v).toNat = (swap16 w).toNat) : v = w := by
  have hv := v.toNat_lt
  have hw := w.toNat_lt
  rw [swap16_toNat, swap16_toNat] at h
  apply UInt16.toNat.inj
  omega

/-- A field at an even offset counts as one word. -/
theorem wordSum_put16 {a len : ℕ} (h : 2*a+2 ≤ len) (m : Mem) (off : ℕ) (v : UInt16) :
    wordSum len (shift (put16 m (off+2*a) v) off) =
      wordSum (2*a) (shift m off)+(swap16 v).toNat+
        wordSum (len-2*a-2) (shift m (off+2*a+2)) := by
  have hv := v.toNat_lt
  obtain ⟨n,rfl⟩ : ∃ n, len = 2*a+(n+2) := ⟨len-2*a-2, by omega⟩
  have hbefore : wordSum (2*a) (shift (put16 m (off+2*a) v) off) = wordSum (2*a) (shift m off) :=
    wordSum_congr _ fun i hi => put16_outside m v (by omega)
  have hbehind : wordSum n (shift (put16 m (off+2*a) v) (off+2*a+2)) =
      wordSum n (shift m (off+2*a+2)) :=
    wordSum_congr _ fun i hi => put16_outside m v (by omega)
  have hfield := swap16_get16 (put16 m (off+2*a) v) (off+2*a)
  rw [get16_put16] at hfield
  rw [wordSum_append, hbefore, shift_shift, wordSum_shift, ← hfield, hbehind,
    show 2*a+(n+2)-2*a-2 = n by omega]
  omega

/-- What `cksum` returns, in network order: never zero, and with the sum it makes up a multiple of
the word of all ones. -/
theorem cksum_complements {len : ℕ} {data : Mem} (h : wordSum len data < 2^32) :
    0 < (swap16 (cksum data len)).toNat ∧
      65535 ∣ wordSum len data+(swap16 (cksum data len)).toNat := by
  obtain ⟨folded,hle,hmod,hsum⟩ := cksum_folded h
  rw [hsum]
  have hcut : (UInt16.ofNat (2^32-1-folded)).toNat = 65535-folded := by
    rw [toNat_ofNat16]
    omega
  have hswap : (swap16 (htons (UInt16.ofNat (2^32-1-folded)))).toNat = 65535-folded := by
    rw [htons, swap16_toNat, swap16_toNat, hcut]
    omega
  split_ifs with h0
  · have hpos : 65535-folded ≠ 0 := by
      intro hz
      rw [← hswap] at hz
      exact h0 (swap16_inj hz)
    rw [hswap]
    constructor
    · omega
    · omega
  -- all ones were folded: the complement is 0, and all ones are stored for it
  · have hfull : 65535-folded = 0 := by
      rw [← hswap, not_not.mp h0]
      rfl
    have hones : (swap16 65535).toNat = 65535 := by decide
    rw [hones]
    constructor
    · decide
    · omega

/-- A checksum field is right exactly if it is not zero and makes up, with the rest, a multiple
of the word of all ones. -/
theorem cksum_eq_iff {len : ℕ} {data : Mem} (h : wordSum len data < 2^32) (v : UInt16) :
    cksum data len = v ↔
      0 < (swap16 v).toNat ∧ 65535 ∣ wordSum len data+(swap16 v).toNat := by
  have hc := cksum_complements h
  constructor
  · rintro rfl
    exact hc
  · rintro ⟨hpos,hdvd⟩
    have hlt := (swap16 (cksum data len)).toNat_lt
    have hlt' := (swap16 v).toNat_lt
    apply swap16_inj
    -- both lie between 1 and the word of all ones, so they cannot differ by it
    obtain ⟨k,hk⟩ := hdvd
    obtain ⟨k',hk'⟩ := hc.2
    have hpos' := hc.1
    omega

/-- The sum over bytes in which the checksum of the others has been put. -/
theorem onesSum_of_cksum {a len : ℕ} (h : 2*a+2 ≤ len) (hlen : len ≤ 131074) (m : Mem)
    (off : ℕ) :
    onesSum len (shift (put16 (put16 m (off+2*a) 0) (off+2*a)
      (cksum (shift (put16 m (off+2*a) 0) off) len)) off) = 0xffff := by
  have hbound : wordSum len (shift (put16 m (off+2*a) 0) off) < 2^32 :=
    wordSum_lt hlen _
  have hzero : (swap16 0).toNat = 0 := rfl
  obtain ⟨hpos,hdvd⟩ := cksum_complements hbound
  rw [onesSum_eq_ones_iff, put16_put16, wordSum_put16 h]
  rw [wordSum_put16 h, hzero] at hdvd
  constructor
  · omega
  · convert hdvd using 1
    omega

/-- The checksum read off the two bytes it is stored in is that of the words, all ones standing
for zero. -/
theorem cksum_stored {len : ℕ} (h : len ≤ 131074) (data : Mem) :
    (swap16 (cksum data len)).toNat =
      if OnesComplement.checksum 0xffff (words len data) = 0 then 0xffff
      else OnesComplement.checksum 0xffff (words len data) := by
  obtain ⟨hpos,hdvd⟩ := cksum_complements (wordSum_lt h data)
  have hdvd' := OnesComplement.checksum_dvd (words_le len data)
  rw [words_sum] at hdvd'
  have hle : OnesComplement.checksum 0xffff (words len data) ≤ 65535 :=
    OnesComplement.checksum_le 0xffff (words len data)
  have hlt := (swap16 (cksum data len)).toNat_lt
  obtain ⟨k,hk⟩ := hdvd
  obtain ⟨k',hk'⟩ := hdvd'
  -- both are at most the word of all ones, and differ by a multiple of it
  split_ifs with h0
  · omega
  · omega

theorem foldCarry_of_le {sum : ℕ} (h : sum ≤ 0xffff) (n : ℕ) : foldCarry n sum = sum := by
  cases n with
  | zero => rfl
  | succ n =>
    have hstop : ¬0xffff < sum := by omega
    rw [foldCarry, if_neg hstop]

theorem foldCarry_pos {sum : ℕ} (h : 0 < sum) (n : ℕ) : 0 < foldCarry n sum := by
  induction n generalizing sum with
  | zero => exact h
  | succ n ih =>
    rw [foldCarry]
    split_ifs with hcarry
    -- what is carried over is not zero
    · apply ih
      rw [Nat.shiftRight_eq_div_pow]
      omega
    · exact h

/-- `cksum` returns its constant for the other zero of the one's complement. -/
theorem sumsToOnes_iff {len : ℕ} {data : Mem} (h : wordSum len data < 2^32) :
    SumsToOnes data len ↔ 0 < wordSum len data ∧ 65535 ∣ wordSum len data := by
  have hsum : sumWords len data 0 = wordSum len data := by
    rw [sumWords_eq len data 0 (by omega), Nat.zero_add]
  have hle := foldCarry_two_le h
  have hmod : foldCarry 2 (wordSum len data)%65535 = wordSum len data%65535 := foldCarry_mod _
  rw [SumsToOnes, hsum]
  constructor
  · intro hones
    rw [hones] at hmod
    refine ⟨?_, Nat.dvd_of_mod_eq_zero hmod.symm⟩
    by_contra hzero
    have hfold := foldCarry_of_le (show wordSum len data ≤ 0xffff by omega) 2
    omega
  · rintro ⟨hpos,hdvd⟩
    have hpos' := foldCarry_pos hpos 2
    rw [Nat.mod_eq_zero_of_dvd hdvd] at hmod
    omega

theorem words_shift (len : ℕ) (data : Mem) : words (len+2) data =
    (256*(data 0).toNat+(data 1).toNat) :: words len (shift data 2) := rfl

/-- The first loop of `cksum` after `k` of its rounds: the accumulator holds the words read. -/
theorem sumWords_rounds (k : ℕ) {len sum : ℕ} {data : Mem} (hk : 2*k ≤ len)
    (h : sum+wordSum len data < 2^32) : sumWords len data sum =
      sumWords (len-2*k) (shift data (2*k)) (sum+((words len data).take k).sum) := by
  induction k generalizing len sum data with
  | zero =>
    rw [Nat.mul_zero, shift_zero, List.take_zero, List.sum_nil, Nat.add_zero, Nat.sub_zero]
  | succ k ih =>
    obtain ⟨n,rfl⟩ : ∃ n, len = n+2 := ⟨len-2, by omega⟩
    have hshift : shift (shift data 2) (2*k) = shift data (2*(k+1)) := by
      rw [shift_shift, Nat.mul_succ, Nat.add_comm]
    have hlen : n+2-2*(k+1) = n-2*k := by omega
    rw [wordSum] at h
    rw [sumWords, shiftLeft_or, Nat.mod_eq_of_lt (by omega), words_shift, List.take_succ_cons,
      List.sum_cons, ih (by omega) (by omega), hshift, hlen, Nat.add_assoc sum]

/-- No part of the words sums up to more than all of them do. -/
theorem words_take_le (k len : ℕ) (data : Mem) :
    ((words len data).take k).sum ≤ wordSum len data := by
  have hparts := List.sum_take_add_sum_drop (words len data) k
  rw [words_sum] at hparts
  omega

theorem foldCarry_add (a b sum : ℕ) : foldCarry (a+b) sum = foldCarry b (foldCarry a sum) := by
  induction a generalizing sum with
  | zero => rw [Nat.zero_add, foldCarry]
  | succ a ih =>
    rw [Nat.succ_add, foldCarry, foldCarry]
    split_ifs with hcarry
    · exact ih _
    · exact (foldCarry_of_le (by omega) b).symm

/-- The loop of `cksum` that folds the carries is done after two rounds: further ones change
nothing. -/
theorem foldCarry_done {sum : ℕ} (h : sum < 2^32) {n : ℕ} (hn : 2 ≤ n) :
    foldCarry n sum = foldCarry 2 sum := by
  calc
    _ = foldCarry (2+(n-2)) sum := by rw [Nat.add_sub_cancel' hn]
    _ = foldCarry (n-2) (foldCarry 2 sum) := foldCarry_add 2 (n-2) sum
    _ = foldCarry 2 sum := foldCarry_of_le (foldCarry_two_le h) (n-2)

/-- `cksum` is the Internet checksum: its accumulator holds every sum of words on the way, the
folding of the carries comes to an end, the two bytes of the result are the complement of the
one's-complement sum with all ones for zero, and in a zeroed field they bring the sum over the
whole array to all ones. -/
theorem cksum_internet {len : ℕ} (h : len ≤ 131074) (data : Mem) :
    (∀ k, 2*k ≤ len → sumWords len data 0 =
      sumWords (len-2*k) (shift data (2*k)) ((words len data).take k).sum) ∧
    (∀ k, ((words len data).take k).sum < 2^32) ∧
    sumWords len data 0 = (words len data).sum ∧
    (∀ n, 2 ≤ n → foldCarry n (sumWords len data 0) = foldCarry 2 (sumWords len data 0)) ∧
    foldCarry 2 (sumWords len data 0) ≤ 0xffff ∧
    (∀ off, 256*(put16 data off (cksum data len) off).toNat+
        (put16 data off (cksum data len) (off+1)).toNat =
      if OnesComplement.checksum 0xffff (words len data) = 0 then 0xffff
      else OnesComplement.checksum 0xffff (words len data)) ∧
    (∀ a, 2*a+2 ≤ len → get16 data (2*a) = 0 →
      onesSum len (put16 data (2*a) (cksum data len)) = 0xffff) := by
  have hlt := wordSum_lt h data
  have hacc : sumWords len data 0 = wordSum len data := by
    rw [sumWords_eq len data 0 (by omega), Nat.zero_add]
  have hlt' : sumWords len data 0 < 2^32 := hacc ▸ hlt
  refine ⟨?_, ?_, ?_, ?_, foldCarry_two_le hlt', ?_, ?_⟩
  · intro k hk
    have hrounds : sumWords len data 0 =
        sumWords (len-2*k) (shift data (2*k)) (0+((words len data).take k).sum) :=
      sumWords_rounds k hk (by omega)
    rwa [Nat.zero_add] at hrounds
  · intro k
    exact (words_take_le k len data).trans_lt hlt
  · rw [hacc, words_sum]
  · intro n hn
    exact foldCarry_done hlt' hn
  · intro off
    rw [← swap16_get16, get16_put16]
    exact cksum_stored h data
  · intro a ha hzero
    have hclear : put16 data (2*a) 0 = data := by
      have hrestore := put16_restore data (2*a) 0
      rwa [put16_put16, hzero] at hrestore
    have hsum := onesSum_of_cksum ha h data 0
    rwa [Nat.zero_add, hclear, shift_zero, shift_zero] at hsum

/-- Five bytes, of which the middle two make up a zeroed field. -/
def zeroedField : Mem := fun i => if i = 2 ∨ i = 3 then 0 else UInt8.ofNat (50*i+7)

theorem cksum_internet_odd :
    5 ≤ 131074 ∧ sumWords 5 zeroedField 0 = (words 5 zeroedField).sum ∧ 2*1+2 ≤ 5 ∧
      get16 zeroedField (2*1) = 0 ∧
      onesSum 5 (put16 zeroedField (2*1) (cksum zeroedField 5)) = 0xffff := by
  have hlen : 5 ≤ 131074 := by decide
  have hzero : get16 zeroedField (2*1) = 0 := by decide
  obtain ⟨-,-,hacc,-,-,-,hfield⟩ := cksum_internet hlen zeroedField
  exact ⟨hlen, hacc, by decide, hzero, hfield 1 (by decide) hzero⟩

end InternetCourse.Router
