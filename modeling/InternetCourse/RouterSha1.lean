import InternetCourse.BlockStream
import InternetCourse.ByteLayout
import Mathlib.Data.List.GetD
import Mathlib.Data.List.Basic

/-! The hash of the replies to the server (sha1.c), and the digest of a message as the standard
has it (FIPS PUB 180-1), block by block over the padded message. -/
namespace InternetCourse.Router

open BlockStream ByteLayout

/-! sha1.h -/

/-- `Message_Block_Index` is an index into the block: the code never leaves it negative. -/
structure Sha1Context where
  messageDigest : Vector UInt32 5
  lengthLow : UInt32
  lengthHigh : UInt32
  messageBlock : Vector UInt8 64
  messageBlockIndex : ℕ
  computed : Bool
  corrupted : Bool

/-! sha1.c -/

def sha1CircularShift (bits word : UInt32) : UInt32 :=
  ((word <<< bits) &&& 0xFFFFFFFF) ||| (word >>> (32-bits))

/-- The block and what is waiting in it are left as they are. -/
def sha1Reset (context : Sha1Context) : Sha1Context :=
  { context with
    lengthLow := 0, lengthHigh := 0, messageBlockIndex := 0,
    messageDigest := #v[0x67452301, 0xEFCDAB89, 0x98BADCFE, 0x10325476, 0xC3D2E1F0],
    computed := false, corrupted := false }

/-- The word buffers `A` to `E`. -/
structure WordBuffers where
  A : UInt32
  B : UInt32
  C : UInt32
  D : UInt32
  E : UInt32

/-- The first 16 words of the word sequence. -/
def firstWord (block : Vector UInt8 64) (t : ℕ) : UInt32 :=
  (block[t*4]!.toUInt32 <<< 24) ||| (block[t*4+1]!.toUInt32 <<< 16) |||
    (block[t*4+2]!.toUInt32 <<< 8) ||| block[t*4+3]!.toUInt32

/-- The words of `W` that are assigned so far, and the one at `t`. -/
def nextWord (W : Array UInt32) (t : ℕ) : Array UInt32 :=
  W.push (sha1CircularShift 1 (W[t-3]! ^^^ W[t-8]! ^^^ W[t-14]! ^^^ W[t-16]!))

def wordSequence (block : Vector UInt8 64) : Array UInt32 :=
  (List.range' 16 64).foldl nextWord ((List.range 16).map (firstWord block)).toArray

/-- The body of the four loops, which differ in the function of `B`, `C` and `D` and the constant. -/
def sha1Round (f : UInt32 → UInt32 → UInt32 → UInt32) (K : UInt32) (W : Array UInt32)
    (v : WordBuffers) (t : ℕ) : WordBuffers :=
  let temp := (sha1CircularShift 5 v.A+f v.B v.C v.D+v.E+W[t]!+K) &&& 0xFFFFFFFF
  ⟨temp, v.A, sha1CircularShift 30 v.B, v.C, v.D⟩

def sha1Loop1 (W : Array UInt32) (v : WordBuffers) : WordBuffers :=
  (List.range' 0 20).foldl
    (sha1Round (fun B C D => (B &&& C) ||| (~~~B &&& D)) 0x5A827999 W) v

def sha1Loop2 (W : Array UInt32) (v : WordBuffers) : WordBuffers :=
  (List.range' 20 20).foldl (sha1Round (fun B C D => B ^^^ C ^^^ D) 0x6ED9EBA1 W) v

def sha1Loop3 (W : Array UInt32) (v : WordBuffers) : WordBuffers :=
  (List.range' 40 20).foldl
    (sha1Round (fun B C D => (B &&& C) ||| (B &&& D) ||| (C &&& D)) 0x8F1BBCDC W) v

def sha1Loop4 (W : Array UInt32) (v : WordBuffers) : WordBuffers :=
  (List.range' 60 20).foldl (sha1Round (fun B C D => B ^^^ C ^^^ D) 0xCA62C1D6 W) v

def sha1ProcessMessageBlock (context : Sha1Context) : Sha1Context :=
  let W := wordSequence context.messageBlock
  let H := context.messageDigest
  let v := sha1Loop4 W (sha1Loop3 W (sha1Loop2 W (sha1Loop1 W ⟨H[0],H[1],H[2],H[3],H[4]⟩)))
  { context with
    messageDigest := #v[(H[0]+v.A) &&& 0xFFFFFFFF, (H[1]+v.B) &&& 0xFFFFFFFF,
      (H[2]+v.C) &&& 0xFFFFFFFF, (H[3]+v.D) &&& 0xFFFFFFFF, (H[4]+v.E) &&& 0xFFFFFFFF]
    messageBlockIndex := 0 }

/-- `context->Message_Block[context->Message_Block_Index++] = octet`; behind the end of the block
there is no such element. -/
def putOctet (context : Sha1Context) (octet : UInt8) : Option Sha1Context :=
  if h : context.messageBlockIndex < 64 then
    some { context with
      messageBlock := context.messageBlock.set context.messageBlockIndex octet h
      messageBlockIndex := context.messageBlockIndex+1 }
  else none

/-- The length in bits, on two words. -/
def countOctet (context : Sha1Context) : Sha1Context :=
  let low := (context.lengthLow+8) &&& 0xFFFFFFFF
  if low = 0 then
    let high := (context.lengthHigh+1) &&& 0xFFFFFFFF
    -- once it is as long as two words can say, the message is too long
    { context with
      lengthLow := low, lengthHigh := high,
      corrupted := if high = 0 then true else context.corrupted }
  else { context with lengthLow := low }

/-- The body of the loop of `SHA1Input`. -/
def takeOctet (context : Sha1Context) (octet : UInt8) : Option Sha1Context := do
  let context ← putOctet context octet
  let context := countOctet context
  pure (if context.messageBlockIndex = 64 then sha1ProcessMessageBlock context else context)

/-- The loop of `SHA1Input`, over what is left of the array. -/
def inputLoop (context : Sha1Context) : List UInt8 → Option Sha1Context
  | [] => some context
  | octet :: octets =>
    if context.corrupted then some context
    else do
      let context ← takeOctet context octet
      inputLoop context octets

/-- `messageArray` is the array as far as `length` says. -/
def sha1Input (context : Sha1Context) (messageArray : List UInt8) : Option Sha1Context :=
  if messageArray = [] then some context
  else if context.computed ∨ context.corrupted then some { context with corrupted := true }
  else inputLoop context messageArray

/-- `while (Message_Block_Index < limit) Message_Block[Message_Block_Index++] = 0` -/
def zeroFill (limit : ℕ) (context : Sha1Context) : Option Sha1Context :=
  (List.range (limit-context.messageBlockIndex)).foldlM (fun c _ => putOctet c 0) context

/-- The length goes into the last 8 octets of the block. -/
def storeLength (context : Sha1Context) : Sha1Context :=
  let hi := context.lengthHigh
  let lo := context.lengthLow
  { context with messageBlock := ((((((((context.messageBlock.set 56 (hi >>> 24).toUInt8).set
      57 (hi >>> 16).toUInt8).set 58 (hi >>> 8).toUInt8).set 59 hi.toUInt8).set
      60 (lo >>> 24).toUInt8).set 61 (lo >>> 16).toUInt8).set 62 (lo >>> 8).toUInt8).set
      63 lo.toUInt8) }

def sha1PadMessage (context : Sha1Context) : Option Sha1Context := do
  if context.messageBlockIndex > 55 then
    -- there is no room for the length: it goes into a block of its own
    let context ← putOctet context 0x80
    let context ← zeroFill 64 context
    let context ← zeroFill 56 (sha1ProcessMessageBlock context)
    pure (sha1ProcessMessageBlock (storeLength context))
  else
    let context ← putOctet context 0x80
    let context ← zeroFill 56 context
    pure (sha1ProcessMessageBlock (storeLength context))

/-- What it returns, and the context. -/
def sha1Result (context : Sha1Context) : Option (ℤ × Sha1Context) :=
  if context.corrupted then some (0, context)
  else if !context.computed then do
    let context ← sha1PadMessage context
    pure (1, { context with computed := true })
  else some (1, context)

/-! FIPS PUB 180-1 -/

/-- A rotation to the left. -/
def fipsRotate (n : ℕ) (X : UInt32) : UInt32 := ⟨X.toBitVec.rotateLeft n⟩

def fipsF (t : ℕ) (B C D : UInt32) : UInt32 :=
  if t < 20 then (B &&& C) ||| (~~~B &&& D)
  else if t < 40 then B ^^^ C ^^^ D
  else if t < 60 then (B &&& C) ||| (B &&& D) ||| (C &&& D)
  else B ^^^ C ^^^ D

def fipsK (t : ℕ) : UInt32 :=
  if t < 20 then 0x5A827999 else if t < 40 then 0x6ED9EBA1 else if t < 60 then 0x8F1BBCDC
  else 0xCA62C1D6

/-- `W(t)` -/
def fipsW (block : List UInt8) (t : ℕ) : UInt32 :=
  if t < 16 then wordOf (block.getD (4*t) 0) (block.getD (4*t+1) 0) (block.getD (4*t+2) 0)
    (block.getD (4*t+3) 0)
  else fipsRotate 1 (fipsW block (t-3) ^^^ fipsW block (t-8) ^^^ fipsW block (t-14) ^^^
    fipsW block (t-16))
termination_by t

def fipsStep (block : List UInt8) (v : WordBuffers) (t : ℕ) : WordBuffers :=
  ⟨fipsRotate 5 v.A+fipsF t v.B v.C v.D+v.E+fipsW block t+fipsK t,
    v.A, fipsRotate 30 v.B, v.C, v.D⟩

def fipsBlock (H : Vector UInt32 5) (block : List UInt8) : Vector UInt32 5 :=
  let v := (List.range 80).foldl (fipsStep block) ⟨H[0],H[1],H[2],H[3],H[4]⟩
  #v[H[0]+v.A, H[1]+v.B, H[2]+v.C, H[3]+v.D, H[4]+v.E]

def fipsInit : Vector UInt32 5 :=
  #v[0x67452301, 0xEFCDAB89, 0x98BADCFE, 0x10325476, 0xC3D2E1F0]

/-- A one, as few zeros as make room for the length at the end of a block, and the length in bits
on 64 bits. -/
def fipsPadding (length : ℕ) : List UInt8 :=
  0x80 :: List.replicate ((119-length%64)%64) 0 ++
    bigEndian32 (UInt32.ofNat (8*length/2^32)) ++ bigEndian32 (UInt32.ofNat (8*length))

/-- The digest of the message. -/
def fips180 (message : List UInt8) : Vector UInt32 5 :=
  chain fipsBlock 64 fipsInit (message ++ fipsPadding message.length)

/-! The code's blocks are those of the standard. -/

theorem uint32_and_mask (x : UInt32) : x &&& 0xFFFFFFFF = x := by
  apply UInt32.eq_of_toBitVec_eq
  rw [UInt32.toBitVec_and]
  exact BitVec.and_allOnes

theorem sha1CircularShift_eq (n : ℕ) (h0 : 0 < n) (hn : n < 32) (X : UInt32) :
    sha1CircularShift (UInt32.ofNat n) X = fipsRotate n X := by
  unfold sha1CircularShift fipsRotate
  rw [uint32_and_mask]
  apply UInt32.toNat.inj
  have hs : (32-UInt32.ofNat n).toNat = 32-n := by
    rw [UInt32.toNat_sub_of_le]
    · simp [UInt32.toNat_ofNat', Nat.mod_eq_of_lt (show n < 4294967296 by omega)]
    · rw [UInt32.le_iff_toNat_le]
      simp [UInt32.toNat_ofNat', Nat.mod_eq_of_lt (show n < 4294967296 by omega)]
      omega
  rw [UInt32.toNat_or, UInt32.toNat_shiftLeft, UInt32.toNat_shiftRight, hs]
  change _ = (X.toBitVec.rotateLeft n).toNat
  rw [BitVec.toNat_rotateLeft, UInt32.toNat_ofNat', Nat.mod_eq_of_lt (show n < 2^32 by omega),
    Nat.mod_eq_of_lt hn, Nat.mod_eq_of_lt (show 32-n < 32 by omega)]
  rfl

theorem firstWord_eq (block : Vector UInt8 64) (t : ℕ) :
    firstWord block t = wordOf (block[t*4]!) (block[t*4+1]!) (block[t*4+2]!) (block[t*4+3]!) := by
  unfold firstWord wordOf
  generalize block[t*4]! = a
  generalize block[t*4+1]! = b
  generalize block[t*4+2]! = c
  generalize block[t*4+3]! = d
  have ha := a.toNat_lt
  have hb := b.toNat_lt
  have hc := c.toNat_lt
  have hd := d.toNat_lt
  apply UInt32.toNat.inj
  simp only [UInt32.toNat_or, UInt32.toNat_shiftLeft, UInt8.toNat_toUInt32, UInt32.toNat_ofNat']
  change a.toNat <<< 24%2^32 ||| b.toNat <<< 16%2^32 ||| c.toNat <<< 8%2^32 ||| d.toNat = _
  -- no two of them share a bit, so that the disjunction is the sum
  have hor (x y n : ℕ) (hy : y < 2^n) : x*2^n ||| y = x*2^n+y := by
    rw [← Nat.shiftLeft_eq]
    exact (Nat.shiftLeft_add_eq_or_of_lt hy x).symm
  rw [Nat.shiftLeft_eq, Nat.shiftLeft_eq, Nat.shiftLeft_eq,
    Nat.mod_eq_of_lt (show a.toNat*2^24 < 2^32 by omega),
    Nat.mod_eq_of_lt (show b.toNat*2^16 < 2^32 by omega),
    Nat.mod_eq_of_lt (show c.toNat*2^8 < 2^32 by omega), hor a.toNat _ 24 (by omega),
    show a.toNat*2^24+b.toNat*2^16 = (a.toNat*2^8+b.toNat)*2^16 by ring,
    hor _ _ 16 (by omega),
    show (a.toNat*2^8+b.toNat)*2^16+c.toNat*2^8 = (a.toNat*2^16+b.toNat*2^8+c.toNat)*2^8 by ring,
    hor _ _ 8 (by omega), Nat.mod_eq_of_lt (by omega)]
  omega

/-- The first `t` words of the sequence are the ones of the standard. -/
def WordsUpTo (block : List UInt8) (t : ℕ) (W : Array UInt32) : Prop :=
  W.size = t ∧ ∀ i < t, W[i]! = fipsW block i

theorem firstWords (block : Vector UInt8 64) :
    WordsUpTo block.toList 16 ((List.range 16).map (firstWord block)).toArray := by
  constructor
  · rw [List.size_toArray, List.length_map, List.length_range]
  · intro i hi
    rw [List.getElem!_toArray, getElem!_pos _ _ (by simpa using hi), List.getElem_map,
      List.getElem_range, firstWord_eq, fipsW, if_pos hi]
    have octet (j : ℕ) (hj : j < 64) : block[j]! = block.toList.getD j 0 := by
      rw [getElem!_pos block j hj, List.getD_eq_getElem _ _ (by simpa using hj)]
      rfl
    rw [octet _ (by omega), octet _ (by omega), octet _ (by omega), octet _ (by omega),
      Nat.mul_comm i 4]

theorem nextWord_upTo (block : List UInt8) (t : ℕ) (ht : 16 ≤ t) (W : Array UInt32)
    (h : WordsUpTo block t W) : WordsUpTo block (t+1) (nextWord W t) := by
  obtain ⟨hs,hw⟩ := h
  unfold nextWord
  constructor
  · rw [Array.size_push, hs]
  · intro i hi
    by_cases hit : i < t
    · rw [← hw i hit, getElem!_pos _ i (by rw [Array.size_push]; omega),
        getElem!_pos W i (by omega)]
      exact Array.getElem_push_lt _
    · have hi : i = W.size := by omega
      rw [getElem!_pos _ i (by rw [Array.size_push]; omega)]
      subst hi
      rw [Array.getElem_push_eq, fipsW, if_neg (by omega)]
      rw [hw _ (by omega), hw _ (by omega), hw _ (by omega), hw _ (by omega), ← hs]
      exact sha1CircularShift_eq 1 (by omega) (by omega) _

theorem nextWords_upTo (block : List UInt8) (n t : ℕ) (ht : 16 ≤ t) (W : Array UInt32)
    (h : WordsUpTo block t W) : WordsUpTo block (t+n) ((List.range' t n).foldl nextWord W) := by
  induction n generalizing t W with
  | zero => exact h
  | succ n ih =>
    rw [List.range'_succ, List.foldl_cons, show t+(n+1) = t+1+n by omega]
    exact ih (t+1) (by omega) _ (nextWord_upTo block t ht W h)

theorem wordSequence_eq (block : Vector UInt8 64) (t : ℕ) (ht : t < 80) :
    (wordSequence block)[t]! = fipsW block.toList t :=
  (nextWords_upTo block.toList 64 16 (by omega) _ (firstWords block)).2 t ht

theorem sha1Round_eq (block : Vector UInt8 64) (f : UInt32 → UInt32 → UInt32 → UInt32) (K : UInt32)
    (v : WordBuffers) (t : ℕ) (ht : t < 80) (hf : ∀ B C D, fipsF t B C D = f B C D)
    (hK : fipsK t = K) :
    sha1Round f K (wordSequence block) v t = fipsStep block.toList v t := by
  unfold sha1Round fipsStep
  rw [uint32_and_mask, wordSequence_eq block t ht, hf, hK]
  rw [← sha1CircularShift_eq 5 (by omega) (by omega), ← sha1CircularShift_eq 30 (by omega) (by omega)]
  rfl

/-- One of the four loops. -/
theorem sha1Loop_eq (block : Vector UInt8 64) (f : UInt32 → UInt32 → UInt32 → UInt32) (K : UInt32)
    (a n : ℕ) (hb : a+n ≤ 80) (hf : ∀ t, a ≤ t → t < a+n →
    (∀ B C D, fipsF t B C D = f B C D) ∧ fipsK t = K)
    (v : WordBuffers) :
    (List.range' a n).foldl (sha1Round f K (wordSequence block)) v =
      (List.range' a n).foldl (fipsStep block.toList) v := by
  apply List.foldl_ext
  intro v t ht
  rw [List.mem_range'_1] at ht
  obtain ⟨h1,h2⟩ := hf t ht.1 ht.2
  exact sha1Round_eq block f K v t (by omega) h1 h2

theorem sha1Loops_eq (block : Vector UInt8 64) (v : WordBuffers) :
    sha1Loop4 (wordSequence block) (sha1Loop3 (wordSequence block)
      (sha1Loop2 (wordSequence block) (sha1Loop1 (wordSequence block) v))) =
      (List.range 80).foldl (fipsStep block.toList) v := by
  rw [show List.range 80 = List.range' 0 20 ++ List.range' 20 20 ++ List.range' 40 20 ++
    List.range' 60 20 by decide, List.foldl_append, List.foldl_append, List.foldl_append]
  unfold sha1Loop1 sha1Loop2 sha1Loop3 sha1Loop4
  rw [sha1Loop_eq block _ _ 0 20 (by omega), sha1Loop_eq block _ _ 20 20 (by omega),
    sha1Loop_eq block _ _ 40 20 (by omega), sha1Loop_eq block _ _ 60 20 (by omega)]
  · intro t h1 h2
    simp only [fipsF, fipsK, show ¬t < 20 by omega, show ¬t < 40 by omega, show ¬t < 60 by omega,
      if_false, implies_true, and_self]
  · intro t h1 h2
    simp only [fipsF, fipsK, show ¬t < 20 by omega, show ¬t < 40 by omega, show t < 60 by omega,
      if_true, if_false, implies_true, and_self]
  · intro t h1 h2
    simp only [fipsF, fipsK, show ¬t < 20 by omega, show t < 40 by omega, if_true, if_false,
      implies_true, and_self]
  · intro t h1 h2
    simp only [fipsF, fipsK, show t < 20 by omega, if_true, implies_true, and_self]

/-- What the rounds leave is added to the digest, on 32 bits anyway. -/
theorem addDigest_eq (H : Vector UInt32 5) (v w : WordBuffers) (h : v = w) :
    #v[(H[0]+v.A) &&& 0xFFFFFFFF, (H[1]+v.B) &&& 0xFFFFFFFF, (H[2]+v.C) &&& 0xFFFFFFFF,
      (H[3]+v.D) &&& 0xFFFFFFFF, (H[4]+v.E) &&& 0xFFFFFFFF] =
    #v[H[0]+w.A, H[1]+w.B, H[2]+w.C, H[3]+w.D, H[4]+w.E] := by
  subst h
  simp only [uint32_and_mask]

theorem sha1ProcessMessageBlock_eq (context : Sha1Context) :
    sha1ProcessMessageBlock context = { context with
      messageDigest := fipsBlock context.messageDigest context.messageBlock.toList
      messageBlockIndex := 0 } := by
  unfold sha1ProcessMessageBlock
  exact congrArg (fun d => { context with messageDigest := d, messageBlockIndex := 0 })
    (addDigest_eq context.messageDigest _ _ (sha1Loops_eq context.messageBlock _))

end InternetCourse.Router
