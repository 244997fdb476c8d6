import Mathlib.Algebra.BigOperators.Group.List.Basic
import Mathlib.Data.Nat.ModEq

/-! One's-complement sums of words: `m` is the word of all ones, and a carry out of the top is
added in at the bottom. -/
namespace InternetCourse.OnesComplement

def add (m a b : ℕ) : ℕ := if a+b ≤ m then a+b else a+b-m

def sum (m : ℕ) (l : List ℕ) : ℕ := l.foldr (add m) 0

/-- The complement of the sum. -/
def checksum (m : ℕ) (l : List ℕ) : ℕ := m-sum m l

variable {m a b : ℕ} {l : List ℕ}

theorem add_le (ha : a ≤ m) (hb : b ≤ m) : add m a b ≤ m := by
  rw [add]
  split <;> omega

theorem add_modEq (m a b : ℕ) : add m a b ≡ a+b [MOD m] := by
  rw [add]
  split
  · exact Nat.ModEq.refl _
  · rename_i h
    have hle : m ≤ a+b := by omega
    rw [Nat.ModEq, ← Nat.add_mod_right (a+b-m) m, Nat.sub_add_cancel hle]

theorem add_eq_zero_iff : add m a b = 0 ↔ a+b = 0 := by
  rw [add]
  split <;> omega

theorem sum_le (h : ∀ w ∈ l, w ≤ m) : sum m l ≤ m := by
  induction l with
  | nil => exact Nat.zero_le m
  | cons w l ih =>
    exact add_le (h w List.mem_cons_self) (ih fun v hv => h v (List.mem_cons_of_mem w hv))

/-- Bringing the carries round keeps the sum modulo the word of all ones. -/
theorem sum_modEq (m : ℕ) (l : List ℕ) : sum m l ≡ l.sum [MOD m] := by
  induction l with
  | nil => exact Nat.ModEq.refl _
  | cons w l ih =>
    rw [List.sum_cons]
    exact (add_modEq m w (sum m l)).trans (Nat.ModEq.add_left w ih)

/-- No sum of words becomes zero by its carries. -/
theorem sum_eq_zero_iff : sum m l = 0 ↔ l.sum = 0 := by
  induction l with
  | nil => exact Iff.rfl
  | cons w l ih =>
    rw [List.sum_cons]
    have h : sum m (w :: l) = 0 ↔ w+sum m l = 0 := add_eq_zero_iff
    omega

/-- The words sum up to one of the two zeros exactly if the word of all ones divides their
sum. -/
theorem sum_isZero_iff (h : ∀ w ∈ l, w ≤ m) : sum m l = 0 ∨ sum m l = m ↔ m ∣ l.sum := by
  rw [← Nat.modEq_zero_iff_dvd]
  constructor
  · rintro (h0 | hm)
    · rw [sum_eq_zero_iff.mp h0]
    · have hmod := (sum_modEq m l).symm
      rw [hm] at hmod
      exact hmod.trans (Nat.modEq_zero_iff_dvd.mpr dvd_rfl)
  · intro hmod
    have hdvd := Nat.modEq_zero_iff_dvd.mp ((sum_modEq m l).trans hmod)
    rcases Nat.eq_zero_or_pos (sum m l) with h0 | hpos
    · exact Or.inl h0
    · exact Or.inr ((sum_le h).antisymm (Nat.le_of_dvd hpos hdvd))

/-- They sum up to the word of all ones exactly if it divides their sum and they are not all
zero. -/
theorem sum_eq_ones_iff (hm : 0 < m) (h : ∀ w ∈ l, w ≤ m) :
    sum m l = m ↔ 0 < l.sum ∧ m ∣ l.sum := by
  have hz := sum_isZero_iff h
  have h0 : sum m l = 0 ↔ l.sum = 0 := sum_eq_zero_iff
  constructor
  · intro hs
    exact ⟨by omega, hz.mp (Or.inr hs)⟩
  · rintro ⟨hpos,hdvd⟩
    rcases hz.mpr hdvd with hs | hs
    · omega
    · exact hs

theorem checksum_le (m : ℕ) (l : List ℕ) : checksum m l ≤ m := Nat.sub_le m (sum m l)

/-- With the checksum the sum of the words becomes a multiple of the word of all ones. -/
theorem checksum_dvd (h : ∀ w ∈ l, w ≤ m) : m ∣ l.sum+checksum m l := by
  have hle := sum_le h
  have hmod : l.sum+checksum m l ≡ sum m l+(m-sum m l) [MOD m] :=
    Nat.ModEq.add_right (m-sum m l) (sum_modEq m l).symm
  rw [Nat.add_sub_cancel' hle] at hmod
  exact Nat.modEq_zero_iff_dvd.mp (hmod.trans (Nat.modEq_zero_iff_dvd.mpr dvd_rfl))

end InternetCourse.OnesComplement
