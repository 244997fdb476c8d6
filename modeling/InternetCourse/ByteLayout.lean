import InternetCourse.ByteMem
import Mathlib.Data.List.GetD

/-! What lies in memory from an offset on, as a list of bytes; words written with their most or
their least significant byte first, and read again. -/
namespace InternetCourse.ByteLayout

open ByteMem

def bigEndian32 (v : UInt32) : List UInt8 :=
  [UInt8.ofNat (v.toNat/16777216), UInt8.ofNat (v.toNat/65536), UInt8.ofNat (v.toNat/256),
    UInt8.ofNat v.toNat]

def littleEndian32 (v : UInt32) : List UInt8 :=
  [UInt8.ofNat v.toNat, UInt8.ofNat (v.toNat/256), UInt8.ofNat (v.toNat/65536),
    UInt8.ofNat (v.toNat/16777216)]

def bigEndian16 (v : UInt16) : List UInt8 := [UInt8.ofNat (v.toNat/256), UInt8.ofNat v.toNat]

def littleEndian16 (v : UInt16) : List UInt8 := [UInt8.ofNat v.toNat, UInt8.ofNat (v.toNat/256)]

/-- The word written with these bytes, the most significant one first. -/
def wordOf (a b c d : UInt8) : UInt32 :=
  UInt32.ofNat (a.toNat*16777216+b.toNat*65536+c.toNat*256+d.toNat)

/-- Reads a word off the front; what follows it is left. -/
def readBig32 : List UInt8 → Option (UInt32 × List UInt8)
  | a :: b :: c :: d :: l => some (wordOf a b c d, l)
  | _ => none

def readLittle32 : List UInt8 → Option (UInt32 × List UInt8)
  | a :: b :: c :: d :: l => some (wordOf d c b a, l)
  | _ => none

def readLittle16 : List UInt8 → Option (UInt16 × List UInt8)
  | a :: b :: l => some (UInt16.ofNat (b.toNat*256+a.toNat), l)
  | _ => none

def readBig16 : List UInt8 → Option (UInt16 × List UInt8)
  | a :: b :: l => some (UInt16.ofNat (a.toNat*256+b.toNat), l)
  | _ => none

/-- Reads so many bytes off the front. -/
def takeBytes (n : ℕ) (l : List UInt8) : Option (List UInt8 × List UInt8) :=
  if n ≤ l.length then some (l.take n, l.drop n) else none

@[simp] theorem bigEndian32_length (v : UInt32) : (bigEndian32 v).length = 4 := rfl

@[simp] theorem littleEndian32_length (v : UInt32) : (littleEndian32 v).length = 4 := rfl

@[simp] theorem bigEndian16_length (v : UInt16) : (bigEndian16 v).length = 2 := rfl

@[simp] theorem littleEndian16_length (v : UInt16) : (littleEndian16 v).length = 2 := rfl

theorem wordOf_bytes (v : UInt32) :
    wordOf (UInt8.ofNat (v.toNat/16777216)) (UInt8.ofNat (v.toNat/65536)) (UInt8.ofNat (v.toNat/256))
      (UInt8.ofNat v.toNat) = v := by
  have hv := v.toNat_lt
  apply UInt32.toNat.inj
  rw [wordOf, toNat_ofNat32, toNat_ofNat8, toNat_ofNat8, toNat_ofNat8, toNat_ofNat8]
  omega

theorem readBig32_append (v : UInt32) (l : List UInt8) :
    readBig32 (bigEndian32 v ++ l) = some (v, l) := by
  change some (wordOf _ _ _ _, l) = _
  rw [wordOf_bytes]

theorem readLittle32_append (v : UInt32) (l : List UInt8) :
    readLittle32 (littleEndian32 v ++ l) = some (v, l) := by
  change some (wordOf _ _ _ _, l) = _
  rw [wordOf_bytes]

theorem readLittle16_append (v : UInt16) (l : List UInt8) :
    readLittle16 (littleEndian16 v ++ l) = some (v, l) := by
  have hv := v.toNat_lt
  have h : UInt16.ofNat ((UInt8.ofNat (v.toNat/256)).toNat*256+(UInt8.ofNat v.toNat).toNat) = v := by
    apply UInt16.toNat.inj
    rw [toNat_ofNat16, toNat_ofNat8, toNat_ofNat8]
    omega
  change some (UInt16.ofNat _, l) = _
  rw [h]

theorem readBig16_append (v : UInt16) (l : List UInt8) :
    readBig16 (bigEndian16 v ++ l) = some (v, l) := by
  have hv := v.toNat_lt
  have h : UInt16.ofNat ((UInt8.ofNat (v.toNat/256)).toNat*256+(UInt8.ofNat v.toNat).toNat) = v := by
    apply UInt16.toNat.inj
    rw [toNat_ofNat16, toNat_ofNat8, toNat_ofNat8]
    omega
  change some (UInt16.ofNat _, l) = _
  rw [h]

theorem takeBytes_append (n : ℕ) (l l' : List UInt8) (h : l.length = n) :
    takeBytes n (l ++ l') = some (l, l') := by
  unfold takeBytes
  rw [if_pos (by rw [List.length_append]; omega), ← h, List.take_left, List.drop_left]

/-- A field of `n` bytes with the string in it, as far as it fits, and zeros behind it. -/
def padded (n : ℕ) (l : List UInt8) : List UInt8 := l.take n ++ List.replicate (n-l.length) 0

@[simp] theorem padded_length (n : ℕ) (l : List UInt8) : (padded n l).length = n := by
  rw [padded, List.length_append, List.length_take, List.length_replicate]
  omega

/-- The string is read again up to its first zero, or to the end of the field. -/
theorem takeWhile_padded (n : ℕ) {l : List UInt8} (h : ∀ b ∈ l, b ≠ 0) :
    (padded n l).takeWhile (· ≠ 0) = l.take n := by
  rw [padded, List.takeWhile_append_of_pos]
  · cases n-l.length with
    | zero => exact List.append_nil _
    | succ k => exact List.append_nil _
  · exact fun b hb => decide_eq_true (h b (List.mem_of_mem_take hb))

/-- These bytes lie at the offset. -/
def LiesAt (m : Mem) (off : ℕ) (l : List UInt8) : Prop :=
  ∀ i (h : i < l.length), m (off+i) = l[i]

section Layout

variable {m m' : Mem} {off : ℕ} {l l' : List UInt8}

theorem LiesAt.wire_eq (h : LiesAt m 0 l) : wire m l.length = l := by
  apply List.ext_getElem
  · exact wire_length m l.length
  · intro i h1 h2
    rw [← h i h2, Nat.zero_add]
    exact (List.getElem_map _).trans (congrArg m (List.getElem_range _))

theorem LiesAt.append (h : LiesAt m off l) (h' : LiesAt m (off+l.length) l') :
    LiesAt m off (l ++ l') := by
  intro i hi
  rw [List.getElem_append]
  split
  · rename_i hl
    exact h i hl
  · rename_i hl
    rw [List.length_append] at hi
    rw [← h' (i-l.length) (by omega), show off+l.length+(i-l.length) = off+i by omega]

/-- What is written elsewhere leaves them alone. -/
theorem LiesAt.frame (h : LiesAt m off l)
    (hm : ∀ i, off ≤ i → i < off+l.length → m' i = m i) : LiesAt m' off l := by
  intro i hi
  rw [hm (off+i) (by omega) (by omega)]
  exact h i hi

theorem LiesAt.put32 (h : LiesAt m off l) {at_ : ℕ} (v : UInt32)
    (hd : off+l.length ≤ at_ ∨ at_+4 ≤ off) : LiesAt (ByteMem.put32 m at_ v) off l :=
  h.frame fun _ h1 h2 => put32_outside m v (by omega)

theorem LiesAt.put16 (h : LiesAt m off l) {at_ : ℕ} (v : UInt16)
    (hd : off+l.length ≤ at_ ∨ at_+2 ≤ off) : LiesAt (ByteMem.put16 m at_ v) off l :=
  h.frame fun _ h1 h2 => put16_outside m v (by omega)

theorem LiesAt.memcpy (h : LiesAt m off l) {at_ n : ℕ} (src : Mem)
    (hd : off+l.length ≤ at_ ∨ at_+n ≤ off) : LiesAt (ByteMem.memcpy m at_ src n) off l :=
  h.frame fun _ h1 h2 => memcpy_outside m src (by omega)

theorem liesAt_load (l l' : List UInt8) (slack : Mem) : LiesAt (load (l ++ l') slack) 0 l := by
  intro i hi
  rw [Nat.zero_add, load_of_lt slack (by rw [List.length_append]; omega),
    List.getElem_append_left hi]

theorem liesAt_memcpy (off : ℕ) {src : Mem} (h : LiesAt src 0 l) {n : ℕ} (hn : l.length ≤ n) :
    LiesAt (ByteMem.memcpy m off src n) off l := by
  intro i hi
  rw [memcpy_inside m _ (by omega), Nat.add_sub_cancel_left, ← h i hi, Nat.zero_add]

theorem liesAt_put32 (m : Mem) (off : ℕ) (v : UInt32) :
    LiesAt (put32 m off v) off (littleEndian32 v) := by
  intro i hi
  have hi : i < 4 := hi
  interval_cases i
  all_goals
    apply UInt8.toNat.inj
    simp only [put32, littleEndian32, show ¬off+1 = off by omega, show ¬off+2 = off by omega,
      show ¬off+3 = off by omega, show ¬off+2 = off+1 by omega, show ¬off+3 = off+1 by omega,
      show ¬off+3 = off+2 by omega, if_true, if_false, toNat_ofNat8, Nat.add_zero,
      Nat.mod_mod]
    rfl

theorem liesAt_htons (m : Mem) (off : ℕ) (v : UInt16) :
    LiesAt (put16 m off (swap16 v)) off (bigEndian16 v) := by
  intro i hi
  have hv : v.toNat < 65536 := v.toNat_lt
  have hi : i < 2 := hi
  have hlt : v.toNat/256+256*(v.toNat%256) < 65536 := by omega
  have hlow : (v.toNat/256+256*(v.toNat%256))%256 = v.toNat/256 := by omega
  have hhigh : (v.toNat/256+256*(v.toNat%256))/256 = v.toNat%256 := by omega
  interval_cases i
  all_goals
    apply UInt8.toNat.inj
    simp only [put16, swap16, bigEndian16, show ¬off+1 = off by omega, if_true, if_false,
      toNat_ofNat8, toNat_ofNat16, Nat.add_zero, List.getElem_cons_zero, List.getElem_cons_succ,
      Nat.mod_eq_of_lt hlt, hlow, hhigh, Nat.mod_mod]

theorem liesAt_padded (n : ℕ) (l : List UInt8) : LiesAt (fun i => l.getD i 0) 0 (padded n l) := by
  intro i hi
  rw [padded_length] at hi
  simp only [padded, List.getElem_append, Nat.zero_add, List.getElem_replicate, List.getElem_take]
  split
  · rename_i h
    rw [List.length_take] at h
    exact List.getD_eq_getElem l 0 (by omega)
  · rename_i h
    rw [List.length_take] at h
    exact List.getD_eq_default l 0 (by omega)

theorem liesAt_zero (off n : ℕ) : LiesAt (fun _ => 0) off (List.replicate n 0) := by
  intro i hi
  rw [List.getElem_replicate]

/-- The bytes of a word, and those of the word with its bytes the other way round. -/
theorem littleEndian32_digits {v : UInt32} {a b c d : ℕ} (ha : a < 256) (hb : b < 256) (hc : c < 256)
    (hv : v.toNat = a+256*b+65536*c+16777216*d) :
    littleEndian32 v = [UInt8.ofNat a, UInt8.ofNat b, UInt8.ofNat c, UInt8.ofNat d] := by
  have ofNat_mod (x y : ℕ) (h : x%256 = y%256) : UInt8.ofNat x = UInt8.ofNat y :=
    UInt8.toNat.inj h
  unfold littleEndian32
  rw [hv, show (a+256*b+65536*c+16777216*d)/16777216 = d by omega,
    ofNat_mod (a+256*b+65536*c+16777216*d) a (by omega),
    ofNat_mod ((a+256*b+65536*c+16777216*d)/256) b (by omega),
    ofNat_mod ((a+256*b+65536*c+16777216*d)/65536) c (by omega)]

theorem bigEndian32_eq_reverse (v : UInt32) : bigEndian32 v = (littleEndian32 v).reverse := rfl

theorem littleEndian32_swap32 (v : UInt32) : littleEndian32 (swap32 v) = bigEndian32 v := by
  obtain ⟨a,b,c,d,ha,hb,hc,hd,hv⟩ := word_digits v.toNat_lt
  rw [bigEndian32_eq_reverse, littleEndian32_digits ha hb hc hv,
    littleEndian32_digits hd hc hb (swap32_toNat ha hb hc hd hv)]
  rfl

/-- A word converted to network order is stored with its most significant byte first. -/
theorem liesAt_htonl (m : Mem) (off : ℕ) (v : UInt32) :
    LiesAt (put32 m off (swap32 v)) off (bigEndian32 v) := by
  rw [← littleEndian32_swap32]
  exact liesAt_put32 m off (swap32 v)

end Layout

end InternetCourse.ByteLayout
