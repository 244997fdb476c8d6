import Mathlib.Data.List.FinRange
import Mathlib.Data.Fin.Tuple.Basic

/-! A table of `n` slots searched by two loops: one that stops at the first slot
it accepts, and one that runs to the end and keeps the last match. -/
namespace InternetCourse.SlotTable

variable {α : Type} {n : ℕ}

/-- `for (i = 0; i < n; i++) if (p(t[i])) break;` -/
def firstSlot (p : α → Bool) (t : Fin n → α) : Option (Fin n) :=
  (List.finRange n).find? (fun i => p (t i))

/-- `for (i = 0; i < n; i++) if (p(t[i])) found = t[i];` -/
def lastMatch (p : α → Bool) (t : Fin n → α) : Option α :=
  (List.finRange n).foldl (fun found i => if p (t i) then some (t i) else found) none

theorem firstSlot_succ (p : α → Bool) (t : Fin (n+1) → α) :
    firstSlot p t = if p (t 0) then some 0 else (firstSlot p (fun i => t i.succ)).map Fin.succ := by
  simp only [firstSlot, List.finRange_succ, List.find?_cons, List.find?_map]
  cases p (t 0) <;> rfl

theorem firstSlot_eq_some_iff (p : α → Bool) (t : Fin n → α) (i : Fin n) :
    firstSlot p t = some i ↔ p (t i) = true ∧ ∀ j < i, p (t j) = false := by
  -- a match in slot 0 ends the search
  induction n with
  | zero => exact i.elim0
  | succ n ih =>
    rw [firstSlot_succ]
    cases h0 : p (t 0) with
    | true =>
      simp only [if_true, Option.some.injEq]
      constructor
      · rintro rfl
        exact ⟨h0, fun j hj => absurd hj (Fin.not_lt_zero j)⟩
      · rintro ⟨-,hj⟩
        by_contra hne
        have hb := hj 0 (Fin.pos_of_ne_zero fun h => hne h.symm)
        rw [h0] at hb
        contradiction
    | false =>
      simp only [Bool.false_eq_true, if_false, Option.map_eq_some_iff]
      constructor
      · rintro ⟨k,hk,rfl⟩
        obtain ⟨hp,hlt⟩ := (ih _ _).mp hk
        refine ⟨hp, fun j hj => ?_⟩
        cases j using Fin.cases with
        | zero => exact h0
        | succ j => exact hlt j (Fin.succ_lt_succ_iff.mp hj)
      · rintro ⟨hp,hlt⟩
        cases i using Fin.cases with
        | zero => rw [h0] at hp; contradiction
        | succ i =>
          exact ⟨i, (ih _ _).mpr ⟨hp, fun j hj => hlt j.succ (Fin.succ_lt_succ_iff.mpr hj)⟩, rfl⟩

theorem firstSlot_eq_none_iff (p : α → Bool) (t : Fin n → α) :
    firstSlot p t = none ↔ ∀ i, p (t i) = false := by
  simp only [firstSlot, List.find?_eq_none, List.mem_finRange, forall_true_left,
    Bool.not_eq_true]

theorem lastMatch_succ (p : α → Bool) (t : Fin (n+1) → α) :
    lastMatch p t = if p (t (Fin.last n)) then some (t (Fin.last n))
      else lastMatch p (fun i => t i.castSucc) := by
  simp only [lastMatch, List.finRange_succ_last, List.foldl_append, List.foldl_map,
    List.foldl_cons, List.foldl_nil]

theorem lastMatch_eq_some_iff (p : α → Bool) (t : Fin n → α) (e : α) :
    lastMatch p t = some e ↔
      ∃ i, t i = e ∧ p (t i) = true ∧ ∀ j, i < j → p (t j) = false := by
  -- a match in the last slot wins; without one the search goes on below it
  induction n with
  | zero => exact ⟨fun h => by simp [lastMatch] at h, fun ⟨i,_⟩ => i.elim0⟩
  | succ n ih =>
    rw [lastMatch_succ]
    cases h : p (t (Fin.last n)) with
    | true =>
      simp only [if_true, Option.some.injEq]
      constructor
      · rintro rfl
        exact ⟨Fin.last n, rfl, h, fun j hj => absurd hj (Fin.le_last j).not_gt⟩
      · rintro ⟨i,hi,-,hlast⟩
        by_contra hne
        have hlt : i < Fin.last n := by
          apply Fin.lt_last_iff_ne_last.mpr
          rintro rfl
          exact hne hi
        rw [hlast _ hlt] at h
        contradiction
    | false =>
      simp only [Bool.false_eq_true, if_false]
      rw [ih]
      constructor
      · rintro ⟨i,hi,hp,hlast⟩
        refine ⟨i.castSucc, hi, hp, fun j hj => ?_⟩
        cases j using Fin.lastCases with
        | last => exact h
        | cast j => exact hlast j (Fin.castSucc_lt_castSucc_iff.mp hj)
      · rintro ⟨i,hi,hp,hlast⟩
        cases i using Fin.lastCases with
        | last => rw [h] at hp; contradiction
        | cast i =>
          exact ⟨i, hi, hp, fun j hj => hlast j.castSucc (Fin.castSucc_lt_castSucc_iff.mpr hj)⟩

/-- Overwriting a slot with an entry the search accepts: a match in a later slot still wins. -/
theorem lastMatch_update_accepted {p : α → Bool} {t : Fin n → α} {i : Fin n} {e : α}
    (he : p e = true) (x : α) :
    lastMatch p (Function.update t i e) = some x ↔
      (x = e ∧ ∀ j, i < j → p (t j) = false) ∨
        ∃ k, i < k ∧ t k = x ∧ p (t k) = true ∧ ∀ j, k < j → p (t j) = false := by
  rw [lastMatch_eq_some_iff]
  constructor
  · rintro ⟨k,hk,hp,hlast⟩
    -- the last match is the new entry itself or sits in a later slot
    have hlater (j : Fin n) (hkj : k < j) (hij : j ≠ i) : p (t j) = false := by
      simpa only [Function.update_of_ne hij] using hlast j hkj
    by_cases hki : k = i
    · subst hki
      rw [Function.update_self] at hk
      exact Or.inl ⟨hk.symm, fun j hj => hlater j hj hj.ne'⟩
    · rw [Function.update_of_ne hki] at hk hp
      have hik : i < k := by
        by_contra hn
        have hki' : k < i := lt_of_le_of_ne (not_lt.mp hn) hki
        have hf := hlast i hki'
        rw [Function.update_self, he] at hf
        contradiction
      exact Or.inr ⟨k, hik, hk, hp, fun j hj => hlater j hj (hik.trans hj).ne'⟩
  · rintro (⟨rfl,hlast⟩ | ⟨k,hik,hk,hp,hlast⟩)
    · refine ⟨i, Function.update_self .., by rwa [Function.update_self], fun j hj => ?_⟩
      rw [Function.update_of_ne hj.ne']
      exact hlast j hj
    · refine ⟨k, by rwa [Function.update_of_ne hik.ne'], by rwa [Function.update_of_ne hik.ne'],
        fun j hj => ?_⟩
      rw [Function.update_of_ne (hik.trans hj).ne']
      exact hlast j hj

/-- Overwriting a slot the search rejects with another such entry changes nothing. -/
theorem lastMatch_update_rejected {p : α → Bool} {t : Fin n → α} {i : Fin n} {e : α}
    (he : p e = false) (hi : p (t i) = false) :
    lastMatch p (Function.update t i e) = lastMatch p t := by
  have hp (j : Fin n) : p (Function.update t i e j) = p (t j) := by
    by_cases hj : j = i
    · rw [hj, Function.update_self, he, hi]
    · rw [Function.update_of_ne hj]
  ext x
  rw [lastMatch_eq_some_iff, lastMatch_eq_some_iff]
  simp only [hp]
  apply exists_congr
  intro k
  by_cases hk : k = i
  · simp only [hk, hi, Bool.false_eq_true, false_and, and_false]
  · rw [Function.update_of_ne hk]

end InternetCourse.SlotTable
