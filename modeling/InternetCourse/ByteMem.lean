import Mathlib.Data.List.Basic
import Mathlib.Data.Fintype.Pi
import Mathlib.Tactic.IntervalCases
import Mathlib.Tactic.Ring

/-! Byte-addressed memory read and written through a pointer, on a little-endian machine. -/
namespace InternetCourse.ByteMem

/-- The bytes from a pointer on. Nothing marks the end of the allocation: a
read past it yields whatever lies there. -/
abbrev Mem := ℕ → UInt8

/-- Pointer arithmetic `p + off`. -/
def shift (m : Mem) (off : ℕ) : Mem := fun i => m (off+i)

def put8 (m : Mem) (off : ℕ) (v : UInt8) : Mem := fun i => if i = off then v else m i

def get16 (m : Mem) (off : ℕ) : UInt16 :=
  UInt16.ofNat ((m off).toNat+256*(m (off+1)).toNat)

def put16 (m : Mem) (off : ℕ) (v : UInt16) : Mem := fun i =>
  if i = off then UInt8.ofNat (v.toNat%256)
  else if i = off+1 then UInt8.ofNat (v.toNat/256)
  else m i

def get32 (m : Mem) (off : ℕ) : UInt32 :=
  UInt32.ofNat ((m off).toNat+256*(m (off+1)).toNat+
    65536*(m (off+2)).toNat+16777216*(m (off+3)).toNat)

def put32 (m : Mem) (off : ℕ) (v : UInt32) : Mem := fun i =>
  if i = off then UInt8.ofNat (v.toNat%256)
  else if i = off+1 then UInt8.ofNat (v.toNat/256%256)
  else if i = off+2 then UInt8.ofNat (v.toNat/65536%256)
  else if i = off+3 then UInt8.ofNat (v.toNat/16777216)
  else m i

/-- Six bytes, the size of a hardware address. -/
abbrev Six := Fin 6 → UInt8

def getSix (m : Mem) (off : ℕ) : Six := fun i => m (off+i.val)

def putSix (m : Mem) (off : ℕ) (a : Six) : Mem := fun i =>
  if h : off ≤ i ∧ i-off < 6 then a ⟨i-off,h.2⟩ else m i

def memcpy (dst : Mem) (off : ℕ) (src : Mem) (n : ℕ) : Mem := fun i =>
  if off ≤ i ∧ i-off < n then src (i-off) else dst i

/-- The first `len` bytes, as they go out on the wire. -/
def wire (m : Mem) (len : ℕ) : List UInt8 := (List.range len).map m

/-- A buffer holding a received frame; `slack` is what follows the frame in memory. -/
def load (frame : List UInt8) (slack : Mem) : Mem := fun i => frame.getD i (slack i)

/-- Exchange of the two bytes of a 16-bit word: `ntohs` and `htons` on a little-endian host. -/
def swap16 (v : UInt16) : UInt16 := UInt16.ofNat (v.toNat/256+256*(v.toNat%256))

/-- Exchange of the four bytes of a 32-bit word: `ntohl` and `htonl`. -/
def swap32 (v : UInt32) : UInt32 :=
  UInt32.ofNat (v.toNat/16777216+256*(v.toNat/65536%256)+65536*(v.toNat/256%256)+
    16777216*(v.toNat%256))

theorem get16_congr {m m' : Mem} {off : ℕ} (h : ∀ i, off ≤ i → i < off+2 → m i = m' i) :
    get16 m off = get16 m' off := by
  simp only [get16, h off (by omega) (by omega), h (off+1) (by omega) (by omega)]

theorem get32_congr {m m' : Mem} {off : ℕ} (h : ∀ i, off ≤ i → i < off+4 → m i = m' i) :
    get32 m off = get32 m' off := by
  simp only [get32, h off (by omega) (by omega), h (off+1) (by omega) (by omega),
    h (off+2) (by omega) (by omega), h (off+3) (by omega) (by omega)]

theorem getSix_congr {m m' : Mem} {off : ℕ} (h : ∀ i, off ≤ i → i < off+6 → m i = m' i) :
    getSix m off = getSix m' off := by
  funext i
  exact h _ (by omega) (by omega)

theorem shift_zero (m : Mem) : shift m 0 = m := by
  funext i
  exact congrArg m (Nat.zero_add i)

theorem shift_shift (m : Mem) (base off : ℕ) : shift (shift m base) off = shift m (base+off) := by
  funext i
  exact congrArg m (Nat.add_assoc base off i).symm

theorem get16_shift (m : Mem) (base off : ℕ) : get16 (shift m base) off = get16 m (base+off) := by
  simp only [get16, shift, Nat.add_assoc]

theorem get32_shift (m : Mem) (base off : ℕ) : get32 (shift m base) off = get32 m (base+off) := by
  simp only [get32, shift, Nat.add_assoc]

theorem getSix_shift (m : Mem) (base off : ℕ) :
    getSix (shift m base) off = getSix m (base+off) := by
  funext i
  exact congrArg m (Nat.add_assoc base off i.val).symm

theorem toNat_ofNat8 (n : ℕ) : (UInt8.ofNat n).toNat = n%256 := rfl

theorem toNat_ofNat16 (n : ℕ) : (UInt16.ofNat n).toNat = n%65536 := rfl

theorem toNat_ofNat32 (n : ℕ) : (UInt32.ofNat n).toNat = n%4294967296 := rfl

@[simp] theorem get16_put16 (m : Mem) (off : ℕ) (v : UInt16) :
    get16 (put16 m off v) off = v := by
  have hv : v.toNat < 65536 := v.toNat_lt
  apply UInt16.toNat.inj
  simp only [get16, put16, if_true, show ¬off+1 = off by omega, if_false,
    toNat_ofNat8, toNat_ofNat16]
  omega

@[simp] theorem get32_put32 (m : Mem) (off : ℕ) (v : UInt32) :
    get32 (put32 m off v) off = v := by
  have hv : v.toNat < 4294967296 := v.toNat_lt
  apply UInt32.toNat.inj
  simp only [get32, put32, if_true, show ¬off+1 = off by omega, show ¬off+2 = off by omega,
    show ¬off+3 = off by omega, show ¬off+2 = off+1 by omega, show ¬off+3 = off+1 by omega,
    show ¬off+3 = off+2 by omega, if_false, toNat_ofNat8, toNat_ofNat32]
  omega

@[simp] theorem getSix_putSix (m : Mem) (off : ℕ) (a : Six) :
    getSix (putSix m off a) off = a := by
  funext i
  have hi : off ≤ off+i.val ∧ off+i.val-off < 6 := by omega
  simp only [getSix, putSix, dif_pos hi]
  congr 1
  exact Fin.ext (by dsimp only; omega)

/-- The four bytes of a word. -/
theorem word_digits {n : ℕ} (h : n < 4294967296) : ∃ a b c d, a < 256 ∧ b < 256 ∧ c < 256 ∧
    d < 256 ∧ n = a+256*b+65536*c+16777216*d :=
  ⟨n%256, n/256%256, n/65536%256, n/16777216, by omega, by omega, by omega, by omega, by omega⟩

theorem swap32_toNat {v : UInt32} {a b c d : ℕ} (ha : a < 256) (hb : b < 256) (hc : c < 256)
    (hd : d < 256) (hv : v.toNat = a+256*b+65536*c+16777216*d) :
    (swap32 v).toNat = d+256*c+65536*b+16777216*a := by
  rw [swap32, toNat_ofNat32, hv, show (a+256*b+65536*c+16777216*d)/16777216 = d by omega,
    show (a+256*b+65536*c+16777216*d)/65536%256 = c by omega,
    show (a+256*b+65536*c+16777216*d)/256%256 = b by omega,
    show (a+256*b+65536*c+16777216*d)%256 = a by omega]
  omega

@[simp] theorem swap32_swap32 (v : UInt32) : swap32 (swap32 v) = v := by
  obtain ⟨a,b,c,d,ha,hb,hc,hd,hv⟩ := word_digits v.toNat_lt
  apply UInt32.toNat.inj
  rw [swap32_toNat hd hc hb ha (swap32_toNat ha hb hc hd hv), hv]

/-! A write leaves the bytes outside it, and every field that lies outside it, alone. -/

section Outside

variable {off off' i : ℕ} (m : Mem)

theorem put8_outside (v : UInt8) (h : i < off ∨ off < i) : put8 m off v i = m i :=
  if_neg (by omega)

theorem put16_outside (v : UInt16) (h : i < off ∨ off+2 ≤ i) : put16 m off v i = m i := by
  rw [put16, if_neg (by omega), if_neg (by omega)]

theorem put32_outside (v : UInt32) (h : i < off ∨ off+4 ≤ i) : put32 m off v i = m i := by
  rw [put32, if_neg (by omega), if_neg (by omega), if_neg (by omega), if_neg (by omega)]

theorem putSix_outside (a : Six) (h : i < off ∨ off+6 ≤ i) : putSix m off a i = m i :=
  dif_neg (by omega)

theorem memcpy_outside (src : Mem) {n : ℕ} (h : i < off ∨ off+n ≤ i) :
    memcpy m off src n i = m i :=
  if_neg (by omega)

theorem memcpy_inside (src : Mem) {n : ℕ} (h : off ≤ i ∧ i < off+n) :
    memcpy m off src n i = src (i-off) :=
  if_pos (by omega)

theorem get16_put8_outside (v : UInt8) (h : off+2 ≤ off' ∨ off' < off) :
    get16 (put8 m off' v) off = get16 m off :=
  get16_congr fun _ _ _ => put8_outside m v (by omega)

theorem get16_put16_outside (v : UInt16) (h : off+2 ≤ off' ∨ off'+2 ≤ off) :
    get16 (put16 m off' v) off = get16 m off :=
  get16_congr fun _ _ _ => put16_outside m v (by omega)

theorem get16_put32_outside (v : UInt32) (h : off+2 ≤ off' ∨ off'+4 ≤ off) :
    get16 (put32 m off' v) off = get16 m off :=
  get16_congr fun _ _ _ => put32_outside m v (by omega)

theorem get16_putSix_outside (a : Six) (h : off+2 ≤ off' ∨ off'+6 ≤ off) :
    get16 (putSix m off' a) off = get16 m off :=
  get16_congr fun _ _ _ => putSix_outside m a (by omega)

theorem get16_memcpy_outside (src : Mem) {n : ℕ} (h : off+2 ≤ off' ∨ off'+n ≤ off) :
    get16 (memcpy m off' src n) off = get16 m off :=
  get16_congr fun _ _ _ => memcpy_outside m src (by omega)

theorem get32_put8_outside (v : UInt8) (h : off+4 ≤ off' ∨ off' < off) :
    get32 (put8 m off' v) off = get32 m off :=
  get32_congr fun _ _ _ => put8_outside m v (by omega)

theorem get32_put16_outside (v : UInt16) (h : off+4 ≤ off' ∨ off'+2 ≤ off) :
    get32 (put16 m off' v) off = get32 m off :=
  get32_congr fun _ _ _ => put16_outside m v (by omega)

theorem get32_put32_outside (v : UInt32) (h : off+4 ≤ off' ∨ off'+4 ≤ off) :
    get32 (put32 m off' v) off = get32 m off :=
  get32_congr fun _ _ _ => put32_outside m v (by omega)

theorem get32_putSix_outside (a : Six) (h : off+4 ≤ off' ∨ off'+6 ≤ off) :
    get32 (putSix m off' a) off = get32 m off :=
  get32_congr fun _ _ _ => putSix_outside m a (by omega)

theorem get32_memcpy_outside (src : Mem) {n : ℕ} (h : off+4 ≤ off' ∨ off'+n ≤ off) :
    get32 (memcpy m off' src n) off = get32 m off :=
  get32_congr fun _ _ _ => memcpy_outside m src (by omega)

theorem getSix_put8_outside (v : UInt8) (h : off+6 ≤ off' ∨ off' < off) :
    getSix (put8 m off' v) off = getSix m off :=
  getSix_congr fun _ _ _ => put8_outside m v (by omega)

theorem getSix_put16_outside (v : UInt16) (h : off+6 ≤ off' ∨ off'+2 ≤ off) :
    getSix (put16 m off' v) off = getSix m off :=
  getSix_congr fun _ _ _ => put16_outside m v (by omega)

theorem getSix_put32_outside (v : UInt32) (h : off+6 ≤ off' ∨ off'+4 ≤ off) :
    getSix (put32 m off' v) off = getSix m off :=
  getSix_congr fun _ _ _ => put32_outside m v (by omega)

theorem getSix_putSix_outside (a : Six) (h : off+6 ≤ off' ∨ off'+6 ≤ off) :
    getSix (putSix m off' a) off = getSix m off :=
  getSix_congr fun _ _ _ => putSix_outside m a (by omega)

theorem getSix_memcpy_outside (src : Mem) {n : ℕ} (h : off+6 ≤ off' ∨ off'+n ≤ off) :
    getSix (memcpy m off' src n) off = getSix m off :=
  getSix_congr fun _ _ _ => memcpy_outside m src (by omega)

end Outside

/-- Writing back a 16-bit field that was overwritten restores the buffer. -/
theorem put16_restore (m : Mem) (off : ℕ) (v : UInt16) :
    put16 (put16 m off v) off (get16 m off) = m := by
  have h0 : (m off).toNat < 256 := (m off).toNat_lt
  have h1 : (m (off+1)).toNat < 256 := (m (off+1)).toNat_lt
  funext i
  simp only [put16, get16, toNat_ofNat16]
  split
  · subst i
    apply UInt8.toNat.inj
    rw [toNat_ofNat8]
    omega
  · split
    · subst i
      apply UInt8.toNat.inj
      rw [toNat_ofNat8]
      omega
    · rfl

/-- A word written where it was read from lies there as it did. -/
theorem put32_get32 (m m' : Mem) {off i : ℕ} (h : off ≤ i ∧ i < off+4) :
    put32 m' off (get32 m off) i = m i := by
  have h0 : (m off).toNat < 256 := (m off).toNat_lt
  have h1 : (m (off+1)).toNat < 256 := (m (off+1)).toNat_lt
  have h2 : (m (off+2)).toNat < 256 := (m (off+2)).toNat_lt
  have h3 : (m (off+3)).toNat < 256 := (m (off+3)).toNat_lt
  obtain rfl | rfl | rfl | rfl : off = i ∨ i = off+1 ∨ i = off+2 ∨ i = off+3 := by omega
  all_goals
    apply UInt8.toNat.inj
    simp only [put32, get32, toNat_ofNat32, toNat_ofNat8, if_true, Nat.add_right_cancel_iff,
      show ¬off+1 = off by omega, show ¬off+2 = off by omega, show ¬off+3 = off by omega,
      show ¬off+2 = off+1 by omega, show ¬off+3 = off+1 by omega, show ¬off+3 = off+2 by omega,
      if_false]
    omega

theorem put16_put16 (m : Mem) (off : ℕ) (v w : UInt16) :
    put16 (put16 m off v) off w = put16 m off w := by
  funext i
  simp only [put16]
  split
  · rfl
  · split <;> rfl

@[simp] theorem wire_length (m : Mem) (len : ℕ) : (wire m len).length = len := by
  simp only [wire, List.length_map, List.length_range]

theorem load_of_lt {frame : List UInt8} {i : ℕ} (slack : Mem) (h : i < frame.length) :
    load frame slack i = frame[i] := by
  simp only [load, List.getD_eq_getElem?_getD, List.getElem?_eq_getElem h, Option.getD_some]

/-- Copying on where a copy ended. -/
theorem memcpy_memcpy (dst src : Mem) {src' : Mem} (off b : ℕ) {n : ℕ}
    (h : ∀ i < n, src' i = src (b+i)) :
    memcpy (memcpy dst off src b) (off+b) src' n = memcpy dst off src (b+n) := by
  funext i
  simp only [memcpy]
  by_cases hlast : off+b ≤ i ∧ i-(off+b) < n
  · rw [if_pos hlast, if_pos (by omega), h _ hlast.2, show b+(i-(off+b)) = i-off by omega]
  · rw [if_neg hlast]
    by_cases hfirst : off ≤ i ∧ i-off < b
    · rw [if_pos hfirst, if_pos (by omega)]
    · rw [if_neg hfirst, if_neg (by omega)]

/-- A part of the bytes in a buffer of its own. -/
theorem load_of_drop {data l u : List UInt8} {b i : ℕ} (h : data.drop b = l ++ u)
    (hi : i < l.length) (slack slack' : Mem) : load l slack i = load data slack' (b+i) := by
  have hget : data[b+i]? = l[i]? := by
    calc
      _ = (data.drop b)[i]? := List.getElem?_drop.symm
      _ = _ := by rw [h, List.getElem?_append_left hi]
  rw [List.getElem?_eq_getElem hi] at hget
  simp only [load, List.getD_eq_getElem?_getD, hget, List.getElem?_eq_getElem hi, Option.getD_some]

theorem load_of_le {frame : List UInt8} {i : ℕ} (slack : Mem) (h : frame.length ≤ i) :
    load frame slack i = slack i := by
  simp only [load, List.getD_eq_getElem?_getD, List.getElem?_eq_none h, Option.getD_none]

/-- Receiving what was sent: the first `len` bytes survive the wire. -/
theorem load_wire {m : Mem} {len i : ℕ} (slack : Mem) (h : i < len) :
    load (wire m len) slack i = m i := by
  rw [load_of_lt slack (by simpa only [wire_length] using h)]
  simp only [wire, List.getElem_map, List.getElem_range]

end InternetCourse.ByteMem
