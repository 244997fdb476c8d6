import Mathlib.Data.List.Induction
import Mathlib.Data.Nat.Notation
import Mathlib.Tactic.Ring

/-! A stream taken in blocks of `n`, one element at a time: a value is chained through the blocks
that are complete, and the elements behind the last of them wait for more. -/
namespace InternetCourse.BlockStream

variable {α σ : Type} (compress : σ → List α → σ) (n : ℕ)

/-- The complete blocks; what is left over belongs to none. -/
def blocks (xs : List α) : List (List α) :=
  (List.range (xs.length/n)).map fun i => (xs.drop (n*i)).take n

/-- The value behind the complete blocks. -/
def chain (s : σ) (xs : List α) : σ := (blocks n xs).foldl compress s

/-- The elements behind the last complete block. -/
def rest (xs : List α) : List α := xs.drop (n*(xs.length/n))

/-- One more element: the block it completes is compressed. -/
def push (c : σ × List α) (x : α) : σ × List α :=
  if c.2.length+1 = n then (compress c.1 (c.2 ++ [x]), []) else (c.1, c.2 ++ [x])

def absorb (c : σ × List α) (xs : List α) : σ × List α := xs.foldl (push compress n) c

@[simp] theorem absorb_nil (c : σ × List α) : absorb compress n c [] = c := rfl

theorem absorb_cons (c : σ × List α) (x : α) (xs : List α) :
    absorb compress n c (x :: xs) = absorb compress n (push compress n c x) xs := rfl

theorem absorb_append (c : σ × List α) (xs ys : List α) :
    absorb compress n c (xs ++ ys) = absorb compress n (absorb compress n c xs) ys :=
  List.foldl_append

theorem rest_length (xs : List α) : (rest n xs).length = xs.length%n := by
  unfold rest
  rw [List.length_drop]
  have h := Nat.div_add_mod xs.length n
  omega

/-- What a list of whole blocks and a shorter remainder are made of. -/
theorem div_of_length (xs : List α) (h : xs.length%n+1 = n) :
    (xs.length+1)/n = xs.length/n+1 := by
  have hd := Nat.div_add_mod xs.length n
  apply Nat.div_eq_of_lt_le
  · calc (xs.length/n+1)*n = n*(xs.length/n)+n := by ring
      _ ≤ xs.length+1 := by omega
  · calc xs.length+1 = n*(xs.length/n)+n := by omega
      _ < n*(xs.length/n)+n+n := by omega
      _ = (xs.length/n+1+1)*n := by ring

theorem div_of_length_ne (xs : List α) (hn : 0 < n) (h : xs.length%n+1 ≠ n) :
    (xs.length+1)/n = xs.length/n := by
  have hd := Nat.div_add_mod xs.length n
  have hm := Nat.mod_lt xs.length hn
  apply Nat.div_eq_of_lt_le
  · calc xs.length/n*n = n*(xs.length/n) := Nat.mul_comm _ _
      _ ≤ xs.length+1 := by omega
  · calc xs.length+1 < n*(xs.length/n)+n := by omega
      _ = (xs.length/n+1)*n := by ring

/-- The blocks of the elements so far stay as they are. -/
theorem blocks_so_far (xs : List α) (x : α) :
    ((List.range (xs.length/n)).map fun i => ((xs ++ [x]).drop (n*i)).take n) = blocks n xs := by
  apply List.map_congr_left
  intro i hi
  have hb : n*i+n ≤ xs.length := by
    calc n*i+n = n*(i+1) := by ring
      _ ≤ n*(xs.length/n) := Nat.mul_le_mul_left n (List.mem_range.mp hi)
      _ ≤ xs.length := Nat.mul_div_le xs.length n
  rw [List.drop_append_of_le_length (by omega), List.take_append_of_le_length]
  rw [List.length_drop]
  omega

theorem rest_concat_of_le (xs : List α) (x : α) :
    (xs ++ [x]).drop (n*(xs.length/n)) = rest n xs ++ [x] :=
  List.drop_append_of_le_length (Nat.mul_div_le xs.length n)

theorem push_chain (hn : 0 < n) (s : σ) (xs : List α) (x : α) :
    push compress n (chain compress n s xs, rest n xs) x =
      (chain compress n s (xs ++ [x]), rest n (xs ++ [x])) := by
  unfold push
  rw [rest_length]
  have hl : (xs ++ [x]).length = xs.length+1 := List.length_append
  by_cases h : xs.length%n+1 = n
  · -- the element completes the block of the elements that waited
    have hd := div_of_length n xs h
    have hfull : (rest n xs ++ [x]).length = n := by
      rw [List.length_append, rest_length]
      exact h
    rw [if_pos h]
    apply Prod.ext
    · unfold chain
      rw [show blocks n (xs ++ [x]) = blocks n xs ++ [rest n xs ++ [x]] from ?_, List.foldl_append]
      · rfl
      · unfold blocks
        rw [hl, hd, List.range_succ, List.map_append, blocks_so_far]
        simp only [List.map_cons, List.map_nil, rest_concat_of_le]
        rw [List.take_of_length_le hfull.le]
        rfl
    · have hm := Nat.div_add_mod xs.length n
      change [] = rest n (xs ++ [x])
      unfold rest
      rw [hl, hd, List.drop_eq_nil_of_le]
      calc (xs ++ [x]).length = n*(xs.length/n)+n := by omega
        _ ≤ n*(xs.length/n+1) := by rw [Nat.mul_add, Nat.mul_one]
  · have hd := div_of_length_ne n xs hn h
    rw [if_neg h]
    apply Prod.ext
    · unfold chain blocks
      rw [hl, hd, blocks_so_far]
      rfl
    · unfold rest
      rw [hl, hd]
      exact (rest_concat_of_le n xs x).symm

/-- Taking the elements one by one is chaining the value through the complete blocks. -/
theorem absorb_eq (hn : 0 < n) (s : σ) (xs : List α) :
    absorb compress n (s,[]) xs = (chain compress n s xs, rest n xs) := by
  induction xs using List.reverseRecOn with
  | nil =>
    unfold chain blocks rest
    rw [List.length_nil, Nat.zero_div]
    rfl
  | append_singleton xs x ih =>
    rw [absorb_append, ih]
    exact push_chain compress n hn s xs x

/-- Where the stream was cut does not show. -/
theorem chain_append (hn : 0 < n) (s : σ) (xs ys : List α) :
    chain compress n s (xs ++ ys) =
      (absorb compress n (chain compress n s xs, rest n xs) ys).1 := by
  rw [← absorb_eq compress n hn, ← absorb_append, absorb_eq compress n hn]

/-- Too few elements for a block all wait. -/
theorem absorb_short (s : σ) (xs ys : List α) (h : xs.length+ys.length < n) :
    absorb compress n (s,xs) ys = (s, xs ++ ys) := by
  induction ys generalizing xs with
  | nil => rw [absorb_nil, List.append_nil]
  | cons y ys ih =>
    rw [List.length_cons] at h
    rw [absorb_cons, push, if_neg (show xs.length+1 ≠ n by omega), ih]
    · rw [List.append_assoc]
      rfl
    · rw [List.length_append]
      change xs.length+1+ys.length < n
      omega

/-- The elements that complete a block. -/
theorem absorb_block (s : σ) (xs ys : List α) (hx : xs.length < n) (h : xs.length+ys.length = n) :
    absorb compress n (s,xs) ys = (compress s (xs ++ ys), []) := by
  induction ys using List.reverseRecOn with
  | nil =>
    rw [List.length_nil] at h
    omega
  | append_singleton ys y _ =>
    rw [List.length_append, List.length_singleton] at h
    rw [absorb_append, absorb_short compress n s xs ys (by omega), absorb_cons, absorb_nil, push,
      if_pos (show (xs ++ ys).length+1 = n by rw [List.length_append]; omega)]
    rw [List.append_assoc]

end InternetCourse.BlockStream
