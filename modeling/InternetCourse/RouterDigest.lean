import InternetCourse.RouterSha1

/-! The calls of sha1.c against what they are for: a message grows until its digest is asked for,
and a context that was used wrongly says so from then on. -/
namespace InternetCourse.Router

open BlockStream ByteLayout

/-! Writing into the block -/

theorem take_set_octet (block : Vector UInt8 64) (i : ℕ) (v : UInt8) (h : i < 64) :
    (block.set i v h).toList.take (i+1) = block.toList.take i ++ [v] := by
  have hl : i < (block.set i v h).toList.length := by
    rw [Vector.length_toList]
    exact h
  rw [List.take_succ_eq_append_getElem hl, Vector.getElem_toList, Vector.getElem_set_self,
    Vector.toList_set, List.take_set_of_le (Nat.le_refl i)]

theorem putOctet_apply (context : Sha1Context) (octet : UInt8)
    (h : context.messageBlockIndex < 64) :
    ∃ block : Vector UInt8 64,
      putOctet context octet = some { context with
        messageBlock := block, messageBlockIndex := context.messageBlockIndex+1 } ∧
      block.toList.take (context.messageBlockIndex+1) =
        context.messageBlock.toList.take context.messageBlockIndex ++ [octet] := by
  refine ⟨context.messageBlock.set context.messageBlockIndex octet h, ?_, take_set_octet _ _ _ h⟩
  unfold putOctet
  rw [dif_pos h]

theorem zeros_apply (n : ℕ) (context : Sha1Context) (h : context.messageBlockIndex+n ≤ 64) :
    ∃ block : Vector UInt8 64,
      (List.range n).foldlM (fun c _ => putOctet c 0) context = some { context with
        messageBlock := block, messageBlockIndex := context.messageBlockIndex+n } ∧
      block.toList.take (context.messageBlockIndex+n) =
        context.messageBlock.toList.take context.messageBlockIndex ++ List.replicate n 0 := by
  induction n with
  | zero =>
    refine ⟨context.messageBlock, rfl, ?_⟩
    rw [List.replicate_zero, List.append_nil]
    rfl
  | succ n ih =>
    obtain ⟨block,hb,ht⟩ := ih (by omega)
    obtain ⟨block',hb',ht'⟩ := putOctet_apply { context with
      messageBlock := block, messageBlockIndex := context.messageBlockIndex+n } 0
      (show context.messageBlockIndex+n < 64 by omega)
    refine ⟨block', ?_, ?_⟩
    · rw [List.range_succ, List.foldlM_append, hb]
      simp only [Option.bind_eq_bind, Option.bind_some, List.foldlM_cons, List.foldlM_nil, hb',
        Option.pure_def, Nat.add_assoc]
    · rw [← Nat.add_assoc, ht', ht, List.append_assoc, List.replicate_succ']

theorem zeroFill_apply (limit : ℕ) (context : Sha1Context)
    (h : context.messageBlockIndex ≤ limit) (hl : limit ≤ 64) :
    ∃ block : Vector UInt8 64,
      zeroFill limit context = some { context with
        messageBlock := block, messageBlockIndex := limit } ∧
      block.toList.take limit = context.messageBlock.toList.take context.messageBlockIndex ++
        List.replicate (limit-context.messageBlockIndex) 0 := by
  have hz := zeros_apply (limit-context.messageBlockIndex) context (by omega)
  rw [Nat.add_sub_of_le h] at hz
  exact hz

theorem toUInt8_shiftRight (v : UInt32) (n : ℕ) (hn : n < 32) :
    (v >>> UInt32.ofNat n).toUInt8 = UInt8.ofNat (v.toNat/2^n) := by
  apply UInt8.toNat.inj
  rw [UInt32.toNat_toUInt8, UInt32.toNat_shiftRight, UInt32.toNat_ofNat',
    Nat.mod_eq_of_lt (show n < 2^32 by omega), Nat.mod_eq_of_lt hn, Nat.shiftRight_eq_div_pow]
  exact (UInt8.toNat_ofNat').symm

theorem toUInt8_eq (v : UInt32) : v.toUInt8 = UInt8.ofNat v.toNat := rfl

/-- The last block, whatever stood where the length goes. -/
theorem storeLength_apply (context : Sha1Context) :
    ∃ block : Vector UInt8 64,
      storeLength context = { context with messageBlock := block } ∧
      block.toList = context.messageBlock.toList.take 56 ++
        (bigEndian32 context.lengthHigh ++ bigEndian32 context.lengthLow) := by
  refine ⟨_, rfl, ?_⟩
  have hfull (block : Vector UInt8 64) : block.toList = block.toList.take 64 :=
    (List.take_of_length_le Vector.length_toList.le).symm
  rw [hfull, take_set_octet _ 63, take_set_octet _ 62, take_set_octet _ 61, take_set_octet _ 60,
    take_set_octet _ 59, take_set_octet _ 58, take_set_octet _ 57, take_set_octet _ 56]
  unfold bigEndian32
  simp only [List.append_assoc, List.cons_append, List.nil_append]
  have h24 (v : UInt32) : (v >>> 24).toUInt8 = UInt8.ofNat (v.toNat/16777216) :=
    toUInt8_shiftRight v 24 (by omega)
  have h16 (v : UInt32) : (v >>> 16).toUInt8 = UInt8.ofNat (v.toNat/65536) :=
    toUInt8_shiftRight v 16 (by omega)
  have h8 (v : UInt32) : (v >>> 8).toUInt8 = UInt8.ofNat (v.toNat/256) :=
    toUInt8_shiftRight v 8 (by omega)
  rw [h24, h16, h8, h24, h16, h8, toUInt8_eq, toUInt8_eq]

/-! What waits in the block, and what has been compressed -/

/-- The digest so far, and the octets that wait. -/
def held (context : Sha1Context) : Vector UInt32 5 × List UInt8 :=
  (context.messageDigest, context.messageBlock.toList.take context.messageBlockIndex)

theorem held_length (context : Sha1Context) (h : context.messageBlockIndex ≤ 64) :
    (held context).2.length = context.messageBlockIndex := by
  change (context.messageBlock.toList.take context.messageBlockIndex).length = _
  rw [List.length_take, Vector.length_toList]
  omega

/-- The last block is completed by the length, and compressed. -/
theorem lastBlock_apply (context : Sha1Context) :
    ∃ block : Vector UInt8 64,
      sha1ProcessMessageBlock (storeLength context) = { context with
        messageDigest := fipsBlock context.messageDigest (context.messageBlock.toList.take 56 ++
          (bigEndian32 context.lengthHigh ++ bigEndian32 context.lengthLow))
        messageBlock := block, messageBlockIndex := 0 } := by
  obtain ⟨block,hb,ht⟩ := storeLength_apply context
  refine ⟨block, ?_⟩
  rw [hb, sha1ProcessMessageBlock_eq]
  dsimp only
  rw [ht]

/-- The padding, as the octets it comes to. -/
def padding (context : Sha1Context) : List UInt8 :=
  0x80 :: List.replicate ((119-context.messageBlockIndex)%64) 0 ++
    (bigEndian32 context.lengthHigh ++ bigEndian32 context.lengthLow)

theorem padShort_of {context c1 c2 : Sha1Context} (h : ¬context.messageBlockIndex > 55)
    (h1 : putOctet context 0x80 = some c1) (h2 : zeroFill 56 c1 = some c2) :
    sha1PadMessage context = some (sha1ProcessMessageBlock (storeLength c2)) := by
  unfold sha1PadMessage
  rw [if_neg h, Option.bind_eq_bind, h1, Option.bind_some, h2, Option.bind_some, Option.pure_def]

theorem padLong_of {context c1 c2 c3 : Sha1Context} (h : context.messageBlockIndex > 55)
    (h1 : putOctet context 0x80 = some c1) (h2 : zeroFill 64 c1 = some c2)
    (h3 : zeroFill 56 (sha1ProcessMessageBlock c2) = some c3) :
    sha1PadMessage context = some (sha1ProcessMessageBlock (storeLength c3)) := by
  unfold sha1PadMessage
  rw [if_pos h, Option.bind_eq_bind, h1, Option.bind_some, h2, Option.bind_some, h3,
    Option.bind_some, Option.pure_def]

/-- There is room for the length in the block. -/
theorem padShort_apply (context : Sha1Context) (h : context.messageBlockIndex ≤ 55) :
    ∃ block : Vector UInt8 64, sha1PadMessage context = some { context with
      messageDigest := (absorb fipsBlock 64 (held context) (padding context)).1
      messageBlock := block, messageBlockIndex := 0 } := by
  have hlen := held_length context (by omega)
  obtain ⟨b1,hb1,ht1⟩ := putOctet_apply context 0x80 (by omega)
  obtain ⟨b2,hb2,ht2⟩ := zeroFill_apply 56 { context with
    messageBlock := b1, messageBlockIndex := context.messageBlockIndex+1 }
    (show context.messageBlockIndex+1 ≤ 56 by omega) (by omega)
  obtain ⟨b3,hb3⟩ := lastBlock_apply { context with messageBlock := b2, messageBlockIndex := 56 }
  refine ⟨b3, ?_⟩
  rw [padShort_of (by omega) hb1 hb2, hb3]
  dsimp only at ht2 ⊢
  rw [ht2, ht1]
  have hz : (119-context.messageBlockIndex)%64 = 56-(context.messageBlockIndex+1) := by omega
  have hpl : (padding context).length = 64-context.messageBlockIndex := by
    simp only [padding, bigEndian32, List.length_cons, List.length_append, List.length_replicate,
      List.length_nil]
    omega
  have habs : absorb fipsBlock 64 (held context) (padding context) =
      (fipsBlock context.messageDigest ((held context).2 ++ padding context), []) :=
    absorb_block fipsBlock 64 context.messageDigest (held context).2 (padding context)
      (by omega) (by omega)
  rw [habs]
  unfold padding held
  dsimp only
  rw [hz]
  simp only [List.append_assoc, List.cons_append, List.nil_append]

/-- The length goes into a block of its own. -/
theorem padLong_apply (context : Sha1Context) (h55 : 55 < context.messageBlockIndex)
    (h : context.messageBlockIndex < 64) :
    ∃ block : Vector UInt8 64, sha1PadMessage context = some { context with
      messageDigest := (absorb fipsBlock 64 (held context) (padding context)).1
      messageBlock := block, messageBlockIndex := 0 } := by
  have hlen := held_length context h.le
  obtain ⟨b1,hb1,ht1⟩ := putOctet_apply context 0x80 h
  obtain ⟨b2,hb2,ht2⟩ := zeroFill_apply 64 { context with
    messageBlock := b1, messageBlockIndex := context.messageBlockIndex+1 }
    (show context.messageBlockIndex+1 ≤ 64 by omega) (by omega)
  have hp := sha1ProcessMessageBlock_eq { context with
    messageBlock := b2, messageBlockIndex := 64 }
  dsimp only at hp ht2
  rw [List.take_of_length_le Vector.length_toList.le, ht1] at ht2
  rw [ht2] at hp
  obtain ⟨b3,hb3,ht3⟩ := zeroFill_apply 56 { context with
    messageDigest := fipsBlock context.messageDigest
      (List.take context.messageBlockIndex context.messageBlock.toList ++ [128] ++
        List.replicate (64-(context.messageBlockIndex+1)) 0)
    messageBlock := b2, messageBlockIndex := 0 } (Nat.zero_le 56) (by omega)
  obtain ⟨b4,hb4⟩ := lastBlock_apply { context with
    messageDigest := fipsBlock context.messageDigest
      (List.take context.messageBlockIndex context.messageBlock.toList ++ [128] ++
        List.replicate (64-(context.messageBlockIndex+1)) 0)
    messageBlock := b3, messageBlockIndex := 56 }
  refine ⟨b4, ?_⟩
  rw [padLong_of h55 hb1 hb2 ((congrArg (zeroFill 56) hp).trans hb3), hb4]
  dsimp only at ht3 ⊢
  rw [ht3, List.take_zero, List.nil_append]
  have hz : (119-context.messageBlockIndex)%64 = 64-(context.messageBlockIndex+1)+56 := by omega
  -- the one and the first zeros complete the block, the others start the next one
  have hpad : padding context =
      (0x80 :: List.replicate (64-(context.messageBlockIndex+1)) 0) ++
        (List.replicate 56 0 ++
          (bigEndian32 context.lengthHigh ++ bigEndian32 context.lengthLow)) := by
    unfold padding
    rw [hz, List.replicate_add]
    simp only [List.append_assoc, List.cons_append]
  have h1 : absorb fipsBlock 64 (held context)
      (0x80 :: List.replicate (64-(context.messageBlockIndex+1)) 0) =
      (fipsBlock context.messageDigest ((held context).2 ++
        (0x80 :: List.replicate (64-(context.messageBlockIndex+1)) 0)), []) :=
    absorb_block fipsBlock 64 context.messageDigest (held context).2 _ (by omega)
      (by rw [List.length_cons, List.length_replicate]; omega)
  have h2 (d : Vector UInt32 5) : absorb fipsBlock 64 (d,[]) (List.replicate 56 0 ++
      (bigEndian32 context.lengthHigh ++ bigEndian32 context.lengthLow)) =
      (fipsBlock d ([] ++ (List.replicate 56 0 ++
        (bigEndian32 context.lengthHigh ++ bigEndian32 context.lengthLow))), []) :=
    absorb_block fipsBlock 64 d [] _ (by decide) (by
      simp only [bigEndian32, List.length_nil, List.length_append, List.length_replicate,
        List.length_cons])
  rw [hpad, absorb_append, h1, h2]
  unfold held
  dsimp only
  simp only [List.append_assoc, List.nil_append, List.cons_append, Nat.sub_zero]

/-- The padding completes the blocks, and nothing is written outside them. -/
theorem sha1PadMessage_apply (context : Sha1Context) (h : context.messageBlockIndex < 64) :
    ∃ block : Vector UInt8 64, sha1PadMessage context = some { context with
      messageDigest := (absorb fipsBlock 64 (held context) (padding context)).1
      messageBlock := block, messageBlockIndex := 0 } := by
  by_cases h55 : context.messageBlockIndex ≤ 55
  · exact padShort_apply context h55
  · exact padLong_apply context (by omega) h

/-! A message that grows -/

/-- The context has taken these octets, and can say how many they are. -/
structure Absorbing (context : Sha1Context) (message : List UInt8) : Prop where
  short : message.length < 2^61
  bits : context.lengthHigh.toNat*2^32+context.lengthLow.toNat = 8*message.length
  holds : held context = (chain fipsBlock 64 fipsInit message, rest 64 message)
  index : context.messageBlockIndex = message.length%64
  open_ : context.computed = false
  sound : context.corrupted = false

theorem sha1Reset_absorbing (context : Sha1Context) : Absorbing (sha1Reset context) [] where
  short := Nat.two_pow_pos 61
  bits := by
    change (0 : UInt32).toNat*2^32+(0 : UInt32).toNat = 8*0
    rw [UInt32.toNat_zero, Nat.zero_mul]
  holds := rfl
  index := rfl
  open_ := rfl
  sound := rfl

theorem add_eq_zero_iff_mod (a b : UInt32) : a+b = 0 ↔ (a.toNat+b.toNat)%2^32 = 0 := by
  rw [← UInt32.toNat_inj, UInt32.toNat_add]
  rfl

/-- The carry from one word to the other. -/
theorem carry_bits {hi lo n : ℕ} (hlo : lo < 2^32) (hhi : hi < 2^32) (h : hi*2^32+lo = 8*n)
    (h0 : (lo+8)%2^32 = 0) (h1 : (hi+1)%2^32 ≠ 0) :
    (hi+1)%2^32*2^32+(lo+8)%2^32 = 8*(n+1) := by
  have hhi' : (hi+1)%2^32 = hi+1 := by omega
  have hlo' : 2^32 = lo+8 := by omega
  calc (hi+1)%2^32*2^32+(lo+8)%2^32 = hi*2^32+2^32 := by rw [hhi', h0, Nat.add_one_mul, Nat.add_zero]
    _ = hi*2^32+lo+8 := by rw [hlo', ← Nat.add_assoc]
    _ = 8*(n+1) := by rw [h, Nat.mul_add, Nat.mul_one]

/-- One more octet is 8 bits more; the two words start again where they cannot say so. -/
theorem countOctet_bits (context : Sha1Context) (n : ℕ) (hn : n < 2^61)
    (h : context.lengthHigh.toNat*2^32+context.lengthLow.toNat = 8*n)
    (hc : context.corrupted = false) :
    (n+1 < 2^61 → (countOctet context).corrupted = false ∧
      (countOctet context).lengthHigh.toNat*2^32+(countOctet context).lengthLow.toNat =
        8*(n+1)) ∧
    (¬n+1 < 2^61 → (countOctet context).corrupted = true) := by
  have hlow := context.lengthLow.toNat_lt
  have hhigh := context.lengthHigh.toNat_lt
  have hl : (context.lengthLow+8).toNat = (context.lengthLow.toNat+8)%2^32 := UInt32.toNat_add _ _
  have hh : (context.lengthHigh+1).toNat = (context.lengthHigh.toNat+1)%2^32 :=
    UInt32.toNat_add _ _
  have h8 : context.lengthLow+8 = 0 ↔ (context.lengthLow.toNat+8)%2^32 = 0 :=
    add_eq_zero_iff_mod _ 8
  have h1 : context.lengthHigh+1 = 0 ↔ (context.lengthHigh.toNat+1)%2^32 = 0 :=
    add_eq_zero_iff_mod _ 1
  unfold countOctet
  rw [uint32_and_mask, uint32_and_mask]
  dsimp only
  by_cases hlow0 : context.lengthLow+8 = 0
  · rw [if_pos hlow0]
    rw [h8] at hlow0
    by_cases hhigh0 : context.lengthHigh+1 = 0
    · rw [if_pos hhigh0]
      rw [h1] at hhigh0
      exact ⟨fun hs => absurd hs (by omega), fun _ => rfl⟩
    · rw [if_neg hhigh0]
      rw [h1] at hhigh0
      refine ⟨fun _ => ⟨hc,?_⟩, fun hs => absurd ?_ hs⟩
      · dsimp only
        rw [hl, hh]
        exact carry_bits hlow hhigh h hlow0 hhigh0
      · omega
  · rw [if_neg hlow0]
    rw [h8] at hlow0
    refine ⟨fun _ => ⟨hc,?_⟩, fun hs => absurd ?_ hs⟩
    · dsimp only
      rw [hl]
      omega
    · omega

/-- Counting leaves the block and the digest alone. -/
theorem countOctet_held (context : Sha1Context) :
    held (countOctet context) = held context ∧
      (countOctet context).messageBlockIndex = context.messageBlockIndex ∧
      (countOctet context).computed = context.computed := by
  unfold countOctet
  dsimp only
  split
  · exact ⟨rfl,rfl,rfl⟩
  · exact ⟨rfl,rfl,rfl⟩

/-- A full block is compressed as soon as it is full. -/
theorem full_held (context : Sha1Context) :
    held (if context.messageBlockIndex = 64 then sha1ProcessMessageBlock context else context) =
      if context.messageBlockIndex = 64 then (fipsBlock (held context).1 (held context).2, [])
      else held context := by
  by_cases h64 : context.messageBlockIndex = 64
  · rw [if_pos h64, if_pos h64, sha1ProcessMessageBlock_eq]
    unfold held
    dsimp only
    rw [h64, List.take_of_length_le (@Vector.length_toList _ _ context.messageBlock).le,
      List.take_zero]
  · rw [if_neg h64, if_neg h64]

theorem putOctet_held {context context' : Sha1Context} {octet : UInt8}
    (h : context.messageBlockIndex < 64) (hp : putOctet context octet = some context') :
    held context' = ((held context).1, (held context).2 ++ [octet]) ∧
      context'.messageBlockIndex = context.messageBlockIndex+1 ∧
      context'.lengthHigh = context.lengthHigh ∧ context'.lengthLow = context.lengthLow ∧
      context'.computed = context.computed ∧ context'.corrupted = context.corrupted := by
  obtain ⟨block,hb,ht⟩ := putOctet_apply context octet h
  rw [hb] at hp
  obtain rfl := Option.some.inj hp
  exact ⟨Prod.ext rfl ht, rfl, rfl, rfl, rfl, rfl⟩

theorem takeOctet_eq {context c1 : Sha1Context} {octet : UInt8}
    (h : putOctet context octet = some c1) :
    takeOctet context octet = some (if (countOctet c1).messageBlockIndex = 64
      then sha1ProcessMessageBlock (countOctet c1) else countOctet c1) := by
  unfold takeOctet
  rw [h, Option.bind_eq_bind, Option.bind_some, Option.pure_def]

/-- Compressing a block touches neither the length nor the flags. -/
theorem full_fields (context : Sha1Context) (p : Prop) [Decidable p] :
    (if p then sha1ProcessMessageBlock context else context).lengthHigh = context.lengthHigh ∧
    (if p then sha1ProcessMessageBlock context else context).lengthLow = context.lengthLow ∧
    (if p then sha1ProcessMessageBlock context else context).computed = context.computed ∧
    (if p then sha1ProcessMessageBlock context else context).corrupted = context.corrupted := by
  by_cases h : p
  · rw [if_pos h]
    exact ⟨rfl,rfl,rfl,rfl⟩
  · rw [if_neg h]
    exact ⟨rfl,rfl,rfl,rfl⟩

/-- One octet more: the message grows, or has become too long. -/
theorem takeOctet_absorbing {context : Sha1Context} {message : List UInt8}
    (h : Absorbing context message) (octet : UInt8) :
    ∃ context', takeOctet context octet = some context' ∧
      (message.length+1 < 2^61 → Absorbing context' (message ++ [octet])) ∧
      (¬message.length+1 < 2^61 → context'.corrupted = true) := by
  have hidx : context.messageBlockIndex < 64 := by
    rw [h.index]
    exact Nat.mod_lt _ (by decide)
  obtain ⟨block,hp,-⟩ := putOctet_apply context octet hidx
  have hput := putOctet_held hidx hp
  have heq := takeOctet_eq hp
  generalize ({ context with messageBlock := block, messageBlockIndex := context.messageBlockIndex+1
    } : Sha1Context) = c1 at hp hput heq
  obtain ⟨hheld,hi,hhigh,hlow,hcomp,hcorr⟩ := hput
  obtain ⟨hch,hci,hcc⟩ := countOctet_held c1
  obtain ⟨hfh,hfl,hfc,hfx⟩ :=
    full_fields (countOctet c1) ((countOctet c1).messageBlockIndex = 64)
  have hbits := countOctet_bits c1 message.length h.short (by rw [hhigh, hlow]; exact h.bits)
    (by rw [hcorr]; exact h.sound)
  refine ⟨_, heq, fun hs => ?_, fun hs => ?_⟩
  · obtain ⟨hok,hb⟩ := hbits.1 hs
    have hlen : (message ++ [octet]).length = message.length+1 := List.length_append
    have hpush := push_chain fipsBlock 64 (by decide) fipsInit message octet
    rw [← h.holds] at hpush
    have hheld' := full_held (countOctet c1)
    rw [hch, hheld] at hheld'
    have hrest : (held context).2.length = context.messageBlockIndex := held_length context hidx.le
    refine ⟨hlen ▸ hs, ?_, ?_, ?_, ?_, ?_⟩
    · rw [hfh, hfl, hlen]
      exact hb
    · rw [hheld', ← hpush, push, hrest, hci, hi]
    · have hm := h.index
      rw [hlen]
      by_cases h64 : (countOctet c1).messageBlockIndex = 64
      · rw [if_pos h64, sha1ProcessMessageBlock_eq]
        dsimp only
        omega
      · rw [if_neg h64]
        omega
    · rw [hfc, hcc, hcomp]
      exact h.open_
    · rw [hfx]
      exact hok
  · rw [hfx]
    exact hbits.2 hs

theorem inputLoop_corrupted {context : Sha1Context} (h : context.corrupted = true)
    (octets : List UInt8) : inputLoop context octets = some context := by
  cases octets with
  | nil => rfl
  | cons octet octets =>
    rw [inputLoop, if_pos h]

/-- The octets are all taken, up to the one that makes the message too long. -/
theorem inputLoop_absorbing {context : Sha1Context} {message : List UInt8}
    (h : Absorbing context message) (octets : List UInt8) :
    ∃ context', inputLoop context octets = some context' ∧
      (message.length+octets.length < 2^61 → Absorbing context' (message ++ octets)) ∧
      (¬message.length+octets.length < 2^61 → context'.corrupted = true) := by
  induction octets generalizing context message with
  | nil =>
    refine ⟨context, rfl, fun _ => ?_, fun hs => absurd h.short hs⟩
    rw [List.append_nil]
    exact h
  | cons octet octets ih =>
    obtain ⟨c1,hc1,hgrow,hlong⟩ := takeOctet_absorbing h octet
    have hstep : inputLoop context (octet :: octets) = inputLoop c1 octets := by
      rw [inputLoop, h.sound, if_neg Bool.false_ne_true, hc1, Option.bind_eq_bind, Option.bind_some]
    rw [hstep, List.length_cons]
    by_cases hs : message.length+1 < 2^61
    · obtain ⟨c2,hc2,hgrow2,hlong2⟩ := ih (hgrow hs)
      rw [List.length_append, List.length_singleton, List.append_assoc, List.singleton_append]
        at hgrow2
      rw [List.length_append, List.length_singleton] at hlong2
      refine ⟨c2, hc2, fun ht => hgrow2 ?_, fun ht => hlong2 ?_⟩
      · omega
      · omega
    · refine ⟨c1, inputLoop_corrupted (hlong hs) octets, fun ht => absurd ?_ hs, fun _ => hlong hs⟩
      omega

/-! The digest of what was taken -/

theorem bits_words {hi lo : UInt32} {n : ℕ} (h : hi.toNat*2^32+lo.toNat = 8*n) :
    hi = UInt32.ofNat (8*n/2^32) ∧ lo = UInt32.ofNat (8*n) := by
  have hlow := lo.toNat_lt
  have hhigh := hi.toNat_lt
  have hd : 8*n/2^32 = hi.toNat := by
    rw [← h, Nat.mul_comm, Nat.mul_add_div (Nat.two_pow_pos 32), Nat.div_eq_of_lt hlow,
      Nat.add_zero]
  have hm : 8*n%2^32 = lo.toNat := by
    rw [← h, Nat.mul_comm, Nat.mul_add_mod, Nat.mod_eq_of_lt hlow]
  constructor
  · rw [hd, UInt32.ofNat_toNat]
  · apply UInt32.toNat.inj
    rw [UInt32.toNat_ofNat', hm]

/-- The padding is that of the standard. -/
theorem padding_eq {context : Sha1Context} {message : List UInt8} (h : Absorbing context message) :
    padding context = fipsPadding message.length := by
  obtain ⟨hh,hl⟩ := bits_words h.bits
  unfold padding fipsPadding
  rw [hh, hl, h.index, List.append_assoc]

/-- Asked for the digest of what it has taken, the context has it. -/
theorem sha1Result_absorbing {context : Sha1Context} {message : List UInt8}
    (h : Absorbing context message) :
    ∃ context', sha1Result context = some (1,context') ∧
      context'.messageDigest = fips180 message ∧ context'.computed = true ∧
      context'.corrupted = false := by
  have hidx : context.messageBlockIndex < 64 := by
    rw [h.index]
    exact Nat.mod_lt _ (by decide)
  obtain ⟨block,hp⟩ := sha1PadMessage_apply context hidx
  have hd : (absorb fipsBlock 64 (held context) (padding context)).1 = fips180 message := by
    unfold fips180
    rw [chain_append fipsBlock 64 (by decide), padding_eq h, h.holds]
  rw [hd] at hp
  have hr : sha1Result context = (sha1PadMessage context).bind fun c =>
      some (1, { c with computed := true }) := by
    unfold sha1Result
    rw [h.sound, h.open_, if_neg Bool.false_ne_true]
    exact if_pos rfl
  rw [hr, hp, Option.bind_some]
  exact ⟨_, rfl, rfl, rfl, h.sound⟩

theorem sha1Input_closed {context : Sha1Context} {octets : List UInt8} (h : octets ≠ [])
    (hc : context.computed = true ∨ context.corrupted = true) :
    sha1Input context octets = some { context with corrupted := true } := by
  unfold sha1Input
  rw [if_neg h, if_pos hc]

theorem sha1Input_open {context : Sha1Context} {octets : List UInt8}
    (hc : context.computed = false) (hx : context.corrupted = false) :
    sha1Input context octets = inputLoop context octets := by
  unfold sha1Input
  cases octets with
  | nil => rfl
  | cons octet octets =>
    rw [if_neg (List.cons_ne_nil _ _), hc, hx, if_neg (by decide)]

theorem sha1Input_absorbing {context : Sha1Context} {message : List UInt8}
    (h : Absorbing context message) (octets : List UInt8)
    (hs : message.length+octets.length < 2^61) :
    ∃ context', sha1Input context octets = some context' ∧
      Absorbing context' (message ++ octets) := by
  obtain ⟨c,hc,hgrow,-⟩ := inputLoop_absorbing h octets
  exact ⟨c, (sha1Input_open h.open_ h.sound).trans hc, hgrow hs⟩

/-! The calls a program makes -/

inductive Sha1Call where
  | reset
  | input (octets : List UInt8)
  | result
  deriving DecidableEq

/-- One call; `SHA1Result` gives the digest, or nothing where it returns 0. -/
def sha1Call (context : Sha1Context) :
    Sha1Call → Option (List (Option (Vector UInt32 5)) × Sha1Context)
  | .reset => some ([], sha1Reset context)
  | .input octets => (sha1Input context octets).map fun context => ([], context)
  | .result => (sha1Result context).map fun (ret, context) =>
    ([if ret = 0 then none else some context.messageDigest], context)

/-- What `SHA1Result` gave, call after call. -/
def sha1Calls (context : Sha1Context) :
    List Sha1Call → Option (List (Option (Vector UInt32 5)))
  | [] => some []
  | call :: calls => (sha1Call context call).bind fun (given, context) =>
    (sha1Calls context calls).map fun rest => given ++ rest

/-- What a context stands for. -/
inductive Hashing where
  | growing (message : List UInt8)
  | done (message : List UInt8)
  | corrupted

/-- A message grows until its digest is asked for. Growing after that, or beyond what the length of
the standard can say, corrupts it for good. -/
def Hashing.call : Hashing → Sha1Call → List (Option (Vector UInt32 5)) × Hashing
  | _, .reset => ([], growing [])
  | h, .input [] => ([], h)
  | growing message, .input octets =>
    ([], if message.length+octets.length < 2^61 then growing (message ++ octets) else corrupted)
  | _, .input _ => ([], corrupted)
  | growing message, .result => ([some (fips180 message)], done message)
  | done message, .result => ([some (fips180 message)], done message)
  | corrupted, .result => ([none], corrupted)

def Hashing.calls (h : Hashing) : List Sha1Call → List (Option (Vector UInt32 5))
  | [] => []
  | call :: calls => (h.call call).1 ++ (h.call call).2.calls calls

/-- The context stands for this. -/
def StandsFor (context : Sha1Context) : Hashing → Prop
  | .growing message => Absorbing context message
  | .done message => context.messageDigest = fips180 message ∧ context.computed = true ∧
      context.corrupted = false
  | .corrupted => context.corrupted = true

theorem sha1Input_nil (context : Sha1Context) : sha1Input context [] = some context := rfl

/-- One call, whatever the context stands for. -/
theorem sha1Call_standsFor {context : Sha1Context} {h : Hashing} (hs : StandsFor context h)
    (call : Sha1Call) :
    ∃ context', sha1Call context call = some ((h.call call).1, context') ∧
      StandsFor context' (h.call call).2 := by
  cases call with
  | reset =>
    refine ⟨sha1Reset context, ?_, ?_⟩
    · cases h <;> rfl
    · cases h <;> exact sha1Reset_absorbing context
  | input octets =>
    have hcall {c : Sha1Context} (hi : sha1Input context octets = some c) :
        sha1Call context (.input octets) = some ([], c) := by
      rw [sha1Call, hi]
      rfl
    cases octets with
    | nil =>
      refine ⟨context, ?_, ?_⟩
      · rw [hcall (sha1Input_nil context)]
        cases h <;> rfl
      · cases h <;> exact hs
    | cons octet octets =>
      cases h with
      | growing message =>
        obtain ⟨c,hc,hgrow,hlong⟩ := inputLoop_absorbing hs (octet :: octets)
        refine ⟨c, hcall ((sha1Input_open hs.open_ hs.sound).trans hc), ?_⟩
        change StandsFor c (if _ then _ else _)
        by_cases hl : message.length+(octet :: octets).length < 2^61
        · rw [if_pos hl]
          exact hgrow hl
        · rw [if_neg hl]
          exact hlong hl
      | done message =>
        refine ⟨_, hcall (sha1Input_closed (List.cons_ne_nil _ _) (.inl hs.2.1)), ?_⟩
        rfl
      | corrupted =>
        refine ⟨_, hcall (sha1Input_closed (List.cons_ne_nil _ _) (.inr hs)), ?_⟩
        rfl
  | result =>
    have hcall {r : ℤ} {c : Sha1Context} (hi : sha1Result context = some (r,c)) :
        sha1Call context .result =
          some ([if r = 0 then none else some c.messageDigest], c) := by
      rw [sha1Call, hi]
      rfl
    cases h with
    | growing message =>
      obtain ⟨c,hc,hd,hcomp,hcorr⟩ := sha1Result_absorbing hs
      refine ⟨c, ?_, hd, hcomp, hcorr⟩
      rw [hcall hc, if_neg (by decide), hd]
      rfl
    | done message =>
      obtain ⟨hd,hcomp,hcorr⟩ := hs
      have hr : sha1Result context = some (1,context) := by
        unfold sha1Result
        rw [hcorr, hcomp]
        rfl
      refine ⟨context, ?_, hd, hcomp, hcorr⟩
      rw [hcall hr, if_neg (by decide), hd]
      rfl
    | corrupted =>
      have hr : sha1Result context = some (0,context) := by
        unfold sha1Result
        exact if_pos hs
      refine ⟨context, ?_, hs⟩
      rw [hcall hr, if_pos rfl]
      rfl

theorem sha1Calls_standsFor {context : Sha1Context} {h : Hashing} (hs : StandsFor context h)
    (calls : List Sha1Call) : sha1Calls context calls = some (h.calls calls) := by
  induction calls generalizing context h with
  | nil => rfl
  | cons call calls ih =>
    obtain ⟨c,hc,hs'⟩ := sha1Call_standsFor hs call
    rw [sha1Calls, Hashing.calls, hc, Option.bind_some]
    dsimp only
    rw [ih hs', Option.map_some]

/-- Whatever calls a program makes after a reset, in whatever pieces it gives its messages: no
octet is written outside the block, and every digest is that of the message since the last reset,
or is refused where the message was too long or went on after its digest. -/
theorem sha1_meets_standard (context : Sha1Context) (calls : List Sha1Call) :
    sha1Calls context (.reset :: calls) = some ((Hashing.growing []).calls calls) := by
  have h0 : StandsFor (sha1Reset context) (.growing []) := sha1Reset_absorbing context
  have h := sha1Calls_standsFor h0 calls
  rw [sha1Calls, sha1Call, Option.bind_some]
  dsimp only
  rw [h, Option.map_some, List.nil_append]

-- "a" and "bc", and the digest of "abc"
example : sha1Calls ⟨#v[0, 0, 0, 0, 0], 0, 0, Vector.replicate 64 0xFF, 70, true, true⟩
    [.reset, .input [97], .input [98, 99], .result] =
    some [some #v[0xA9993E36, 0x4706816A, 0xBA3E2571, 0x7850C26C, 0x9CD0D89D]] := by
  decide +kernel

end InternetCourse.Router
