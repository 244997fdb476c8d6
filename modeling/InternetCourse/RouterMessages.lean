import InternetCourse.RouterBounds
import InternetCourse.RouterFraming

/-! Which messages of the server are handled without an access past their end. -/
namespace InternetCourse.Router

open ByteMem StateTriple TracedState PartialRead

/-- The access stays in the first `len` bytes, the length is the difference and no longer than
what was received, the frame is what is received from byte 24 on. -/
def Use.Within (len : ℕ) : Use → Prop
  | .access span => span.off+span.size ≤ len
  | .length off computed exact => (computed : ℤ) = exact ∧ off+computed ≤ len
  | .frame size => 24+size = len

/-- However it is delivered, the next message, of `len` bytes, is handled within its bounds; so is
what is copied of its frame. -/
def HandledWithin (host : ServerHost) (s : Session) (expectedCmd : UInt32) (len : ℕ) : Prop :=
  ∀ schedule fuel, Leaves (Use.Within len)
    (srReadFromServerExpect { host with schedule := schedule } fuel expectedCmd) s

/-- There is a NUL from `off` on. -/
def Terminated (buf : Mem) (off len : ℕ) : Prop := ∃ i, off ≤ i ∧ i < len ∧ buf i = 0

/-- The message holds its header, the name as far as it is compared with those of the interfaces,
and a frame that is as long as what is done with it needs. -/
structure PacketFits (env : Env) (s : SrInstance) (buf : Mem) (len : ℕ) : Prop where
  header : 24 ≤ len
  name : ∀ n ∈ srGetInterfaceReads s.ifList (mInterfaceName buf), 8+n ≤ len
  frame : LongEnough env s (shift buf 24) (len-24) (mInterfaceName buf)

/-- The message is as long as its command needs. -/
structure Fits (host : ServerHost) (s : SrInstance) (c : Command) : Prop where
  packet : c.command = VNSPACKET → PacketFits host.toEnv s c.buf c.len
  text : c.command = VNSCLOSE ∨ c.command = VNSBANNER → Terminated c.buf 8 c.len
  rtable : c.command = VNS_RTABLE →
    Terminated c.buf 8 c.len ∧ (host.rtableOpens c.number = true → 40 ≤ c.len)
  authStatus : c.command = VNS_AUTH_STATUS →
    9 ≤ c.len ∧ (c.buf 8 = 0 → Terminated c.buf 9 c.len)

/-- The message holds its command and, unless another one was expected, fits it. -/
def Handleable (host : ServerHost) (s : SrInstance) (expectedCmd : UInt32) (c : Command) : Prop :=
  sizeofBase ≤ c.len ∧ (¬Unexpected expectedCmd c.command → Fits host s c)

/-! Messages that fit are handled within their bounds. -/
section Within

variable {host : ServerHost} {fuel len : ℕ} {buf : Mem} {off : ℕ} {s : SrInstance}

theorem access_within {x : Span} (h : x.off+x.size ≤ len) :
    ∀ u ∈ [Use.access x], u.Within len := by
  intro u hu
  obtain rfl := List.mem_singleton.mp hu
  exact h

/-- The length field is read, and what is computed from it is right. -/
theorem mLen_within {computed : ℕ} {exact : ℤ} (h4 : 4 ≤ len) (he : (computed : ℤ) = exact)
    (hc : off+computed ≤ len) :
    ∀ u ∈ [Use.access (rd 0 4), Use.length off computed exact], u.Within len := by
  intro u hu
  rcases List.mem_pair.mp hu with rfl | rfl
  · simp only [Use.Within, rd]
    omega
  · exact ⟨he,hc⟩

theorem readString_within (h : Terminated buf off len) :
    Leaves (Use.Within len) (readString fuel buf off) s := by
  obtain ⟨j,hoff,hj,hnul⟩ := h
  refine Leaves.loop (fun i _ => i ≤ j) (fun i t hi => ?_) (fun i t i' t' hi hrun => ?_) fuel hoff
  · refine Leaves.note_bind (access_within ?_) (Leaves.pure _ _ t)
    change i+1 ≤ len
    omega
  · -- the loop goes on behind a byte that is not the NUL
    have hr : (if buf i = 0 then Sum.inr () else Sum.inl (i+1) : ℕ ⊕ Unit) = Sum.inl i' :=
      (EStateM.Result.ok.inj hrun).1
    by_cases hi0 : buf i = 0
    · rw [if_pos hi0] at hr
      contradiction
    · rw [if_neg hi0] at hr
      obtain rfl := Sum.inl.inj hr
      have hne : i ≠ j := by
        rintro rfl
        exact hi0 hnul
      omega

theorem strncpyReads_le (m : Mem) (off n : ℕ) : strncpyReads m off n ≤ n := by
  induction n generalizing off with
  | zero => exact le_rfl
  | succ n ih =>
    have h := ih (off+1)
    rw [strncpyReads]
    split <;> omega

theorem srHandleHwEntry_within (h : off+36 ≤ len) :
    Leaves (Use.Within len) (srHandleHwEntry host buf off) s := by
  have hname := strncpyReads_le buf (off+4) srIfaceNamelen
  have h32 : srIfaceNamelen = 32 := rfl
  have hspan {n k : ℕ} (hk : n+k ≤ len) : (rd n k).off+(rd n k).size ≤ len := hk
  apply Leaves.note_bind (access_within (hspan (by omega)))
  refine Leaves.ite (fun _ => ?_) fun _ => ?_
  · exact Leaves.note_bind (access_within (hspan (by omega))) (Leaves.lift _ _ s)
  refine Leaves.ite (fun _ => ?_) fun _ => ?_
  · exact Leaves.note_bind (access_within (hspan (by omega))) (Leaves.lift _ _ s)
  refine Leaves.ite (fun _ => ?_) fun _ => Leaves.pure _ _ s
  exact Leaves.note_bind (access_within (hspan (by omega))) (Leaves.lift _ _ s)

theorem hwEntries_within (n i : ℕ) (h : 8+36*(i+n) ≤ len) :
    Leaves (Use.Within len) (hwEntries host buf n i) s := by
  induction n generalizing i s with
  | zero => exact Leaves.pure _ _ s
  | succ n ih =>
    refine Leaves.bind (srHandleHwEntry_within ?_) fun _ t _ => ih (i+1) (by omega)
    simp only [sizeofBase, sizeofHwEntry]
    omega

/-- Entries that are not whole are not looked at. -/
theorem numEntries_eq (h8 : 8 ≤ len) (hlt : len < 2^32) : numEntries len = ((len-8)/36 : ℕ) := by
  have hmod : (len+2^64-sizeofBase)%2^64 = len-8 := by
    simp only [sizeofBase]
    omega
  have hcount : (UInt32.ofNat ((len-8)/36)).toNat = (len-8)/36 := by
    rw [toNat_ofNat32]
    omega
  rw [numEntries, hmod, sizeofHwEntry, asInt, hcount, if_pos (by omega)]

theorem srHandleHwinfo_within (hlen : mLen buf = len) (h8 : 8 ≤ len) (hle : len ≤ 10000) :
    Leaves (Use.Within len) (srHandleHwinfo host buf) s := by
  rw [srHandleHwinfo, hlen, numEntries_eq h8 (by omega)]
  have hcount : ((sizeofHwEntry*((len-8)/36) : ℕ) : ℤ) =
      sizeofHwEntry*(((len : ℤ)-sizeofBase)/sizeofHwEntry) := by
    simp only [sizeofHwEntry, sizeofBase]
    omega
  have hfit : 8+sizeofHwEntry*((len-8)/36) ≤ len := by
    simp only [sizeofHwEntry]
    omega
  apply Leaves.note_bind (mLen_within (by omega) hcount hfit)
  refine Leaves.bind (hwEntries_within _ 0 ?_) fun _ t _ => Leaves.pure _ _ t
  omega

theorem nameReads_within (h : ∀ n ∈ srGetInterfaceReads s.ifList (mInterfaceName buf), 8+n ≤ len) :
    ∀ u ∈ nameReads s.ifList buf, u.Within len := by
  intro u hu
  obtain ⟨n,hn,rfl⟩ := List.mem_map.mp hu
  exact h n hn

theorem frameLength_eq (h : 24 ≤ len) (hle : len ≤ 10000) : frameLength len = len-24 := by
  simp only [frameLength, sizeofPacketEthernetHeader, sizeofEthernetHdr]
  omega

theorem arpReqReads_within (packet : Mem) (h : 66 ≤ len) :
    ∀ u ∈ arpReqReads packet, u.Within len := by
  have hall : ∀ u ∈ arpReqReads packet, u = .access (rd 36 2) ∨ u = .access (rd 44 2) ∨
      u = .access (rd 62 4) := by
    intro u hu
    rw [arpReqReads] at hu
    split_ifs at hu <;> simp only [List.mem_cons, List.not_mem_nil, or_false] at hu <;> tauto
  intro u hu
  rcases hall u hu with rfl | rfl | rfl <;> simp only [Use.Within, rd] <;> omega

theorem srArpReqNotForUsT_within (h : PacketFits host.toEnv s buf len) :
    Leaves (Use.Within len) (srArpReqNotForUsT buf (len-24)) s := by
  refine Leaves.lift_bind fun u t hu => ?_
  obtain ⟨rfl,rfl⟩ := EStateM.Result.ok.inj hu
  apply Leaves.note_bind (nameReads_within h.name)
  refine Leaves.ite (fun _ => Leaves.pure _ _ _) fun hl => ?_
  refine Leaves.lift_bind fun iface t _ => ?_
  refine Leaves.note_bind (arpReqReads_within _ ?_) (Leaves.pure _ _ t)
  simp only [sizeofEthernetHdr, sizeofArpHdr] at hl
  omega

/-- The comparison changes nothing. -/
theorem srArpReqNotForUsT_keeps (n : ℕ) :
    Keeps (fun t => t = s) (erase (srArpReqNotForUsT buf n)) := by
  simp only [srArpReqNotForUsT, erase_bind, erase_lift, erase_note, erase_ite, erase_pure,
    pure_bind_unit]
  refine Triple.bind Keeps.get fun u => ?_
  split_ifs
  · exact Keeps.pure _
  · exact Triple.bind (deref_keeps _) fun _ => Keeps.pure _

@[simp] theorem erase_srLogPacketUse (n : ℤ) : erase (srLogPacketUse host n) = pure () := by
  unfold srLogPacketUse
  rw [erase_ite, erase_note, erase_pure, ite_self]

theorem srLogPacketUse_within (h : 24 ≤ len) (hle : len ≤ 10000) :
    Leaves (Use.Within len) (srLogPacketUse host (len-24)) s := by
  refine Leaves.ite (fun _ => Leaves.note (access_within ?_) s) fun _ => Leaves.pure _ _ s
  simp only [rd, PACKET_DUMP_SIZE]
  omega

/-- The bytes of a memory in a frame, with the memory behind it. -/
theorem load_wire_self (m : Mem) (len : ℕ) : load (wire m len) m = m := by
  funext i
  by_cases h : i < len
  · exact load_wire m h
  · exact load_of_le m (by simpa only [wire_length] using Nat.le_of_not_lt h)

/-- What is copied of the name comes with a frame that is longer than the copy. -/
theorem handlerNameReads_within (h : PacketFits host.toEnv s buf len) :
    ∀ u ∈ handlerNameReads s.ifList buf (len-24), u.Within len := by
  have h14 := h.frame.ethernet
  have h24 := h.header
  intro u hu
  rcases List.mem_append.mp hu with hu | hu
  · exact nameReads_within h.name u hu
  rcases List.mem_cons.mp hu with rfl | hu
  · change 8+16 ≤ len
    omega
  split_ifs at hu with hcopy
  · obtain rfl := List.mem_singleton.mp hu
    change 8+32 ≤ len
    rcases hcopy with hip | harp
    · simp only [sizeofEthernetHdr, sizeofIpHdr] at hip
      omega
    · have harp := h.frame.arp harp
      omega
  · exact absurd hu List.not_mem_nil

theorem handFrame_within (ht : Tagged (s, [])) (h : PacketFits host.toEnv s buf len) :
    Leaves (Use.Within len) (handFrame host fuel buf (len-24)) s := by
  have h24 := h.header
  refine Leaves.lift_bind fun u t hu => ?_
  obtain ⟨rfl,rfl⟩ := EStateM.Result.ok.inj hu
  refine Leaves.note_bind (fun u hu => ?_) (Leaves.relabel ?_)
  · rcases List.mem_cons.mp hu with rfl | hu
    · change 24+(len-24) = len
      omega
    · exact handlerNameReads_within h u hu
  · have hfit : LongEnough host.toEnv s (load (wire (shift buf 24) (len-24)) (shift buf 24))
        (wire (shift buf 24) (len-24)).length (mInterfaceName buf) := by
      rw [load_wire_self, wire_length]
      exact h.frame
    have hin := @LongEnough.staysInside (mInterfaceName buf) s host.toPlatform _ _ ht hfit fuel
    intro x hx v hv
    have hle := hin x hx
    rw [wire_length] at hle
    rw [inMessage] at hv
    split_ifs at hv with ho
    obtain rfl := Option.some.inj hv
    have hspan := hle ho
    change 24+x.span.off+x.span.size ≤ len
    omega

theorem handleVnspacket_within (ht : Tagged (s, [])) (hle : len ≤ 10000)
    (h : PacketFits host.toEnv s buf len) :
    Leaves (Use.Within len) (handleVnspacket host fuel buf len) s := by
  have h24 := h.header
  rw [handleVnspacket, frameLength_eq h24 hle]
  refine Leaves.note_bind (fun u hu => ?_) ?_
  · obtain rfl := List.mem_singleton.mp hu
    simp only [Use.Within]
    omega
  · -- neither the comparison nor the logging changes the state the frame is handled in
    refine Leaves.bind (srArpReqNotForUsT_within h) fun r t hr => ?_
    obtain rfl := (srArpReqNotForUsT_keeps (len-24)).ok rfl hr
    refine Leaves.ite (fun _ => Leaves.pure _ _ _) fun _ => ?_
    have hmLen : (rd 0 4).off+(rd 0 4).size ≤ len := by
      simp only [rd]
      omega
    apply Leaves.note_bind (access_within hmLen)
    apply Leaves.silent_bind (erase_srLogPacketUse _) (srLogPacketUse_within h24 hle)
    exact handFrame_within ht h

/-- What follows the header is the rest of the message. -/
theorem srHandleRtable_within (number : ℕ) (hlen : mLen buf = len) (h8 : 8 ≤ len)
    (hle : len ≤ 10000) (h : Terminated buf 8 len)
    (hopen : host.rtableOpens number = true → 40 ≤ len) :
    Leaves (Use.Within len) (srHandleRtable host fuel number buf) s := by
  have hname : Leaves (Use.Within len) (copyName fuel buf) s :=
    Leaves.bind (readString_within h) fun _ t _ =>
      Leaves.ite (fun _ => Leaves.pure _ _ t) fun _ => Leaves.lift _ _ t
  refine Leaves.bind hname fun _ t _ => ?_
  refine Leaves.ite (fun ho => ?_) fun _ => Leaves.pure _ _ t
  have h40 := hopen ho
  rw [hlen]
  refine Leaves.note_bind (mLen_within (by omega) ?_ ?_) (Leaves.pure _ _ t)
  · simp only [IDSIZE]
    omega
  · simp only [sizeofBase, IDSIZE]
    omega

theorem srHandleAuthRequest_within (number : ℕ) (hlen : mLen buf = len) (h8 : 8 ≤ len)
    (hle : len ≤ 10000) : Leaves (Use.Within len) (srHandleAuthRequest host number buf) s := by
  refine Leaves.ite (fun ho => ?_) fun _ => Leaves.pure _ _ s
  rw [hlen]
  refine Leaves.note_bind (mLen_within (by omega) ?_ ?_) (Leaves.pure _ _ s) <;>
  · simp only [sizeofBase]
    omega

theorem srHandleAuthStatus_within (h9 : 9 ≤ len) (h : buf 8 = 0 → Terminated buf 9 len) :
    Leaves (Use.Within len) (srHandleAuthStatus fuel buf) s := by
  have hone : ∀ u ∈ [Use.access (rd 8 1)], u.Within len := access_within h9
  apply Leaves.note_bind hone
  refine Leaves.ite (fun _ => Leaves.pure _ _ s) fun h0 => ?_
  refine Leaves.bind (readString_within (h (not_not.mp h0))) fun _ t _ => ?_
  exact Leaves.note_bind hone (Leaves.pure _ _ t)

theorem obey_within {c : Command} (hlen : mLen c.buf = c.len) (h8 : 8 ≤ c.len)
    (hle : c.len ≤ 10000) (ht : Tagged (s, [])) (h : Fits host s c) :
    Leaves (Use.Within c.len) (obey host fuel c) s := by
  refine Leaves.ite (fun hc => ?_) fun _ => ?_
  · exact Leaves.bind (handleVnspacket_within ht hle (h.packet hc)) fun _ t _ => Leaves.pure _ _ t
  refine Leaves.ite (fun hc => ?_) fun _ => ?_
  · exact Leaves.bind (readString_within (h.text (Or.inl hc))) fun _ t _ => Leaves.pure _ _ t
  refine Leaves.ite (fun hc => ?_) fun _ => ?_
  · exact Leaves.bind (readString_within (h.text (Or.inr hc))) fun _ t _ => Leaves.pure _ _ t
  refine Leaves.ite (fun _ => ?_) fun _ => ?_
  · refine Leaves.bind (srHandleHwinfo_within hlen h8 hle) fun _ t _ => ?_
    exact Leaves.lift_bind fun _ t' _ => Leaves.pure _ _ t'
  refine Leaves.ite (fun hc => ?_) fun _ => ?_
  · obtain ⟨hnul,hopen⟩ := h.rtable hc
    exact Leaves.bind (srHandleRtable_within _ hlen h8 hle hnul hopen) fun _ t _ =>
      Leaves.pure _ _ t
  refine Leaves.ite (fun _ => ?_) fun _ => ?_
  · exact Leaves.bind (srHandleAuthRequest_within _ hlen h8 hle) fun _ t _ => Leaves.pure _ _ t
  refine Leaves.ite (fun hc => ?_) fun _ => Leaves.pure _ _ s
  obtain ⟨h9,hnul⟩ := h.authStatus hc
  exact Leaves.bind (srHandleAuthStatus_within h9 hnul) fun _ t _ => Leaves.pure _ _ t

/-- What the handlers do with a message that fits stays in it. -/
theorem dispatch_within {expectedCmd : UInt32} {c : Command} (hlen : mLen c.buf = c.len)
    (hle : c.len ≤ 10000) (ht : Tagged (s, [])) (h : Handleable host s expectedCmd c) :
    Leaves (Use.Within c.len) (dispatch host fuel expectedCmd c) s :=
  Leaves.ite (fun _ => Leaves.pure _ _ s) fun hx => obey_within hlen h.1 hle ht (h.2 hx)

end Within

/-! The reading stays in the message as well. -/
section ReadWithin

variable {host : ServerHost} {fuel : ℕ} {m rest : List UInt8}

theorem mLen_commandOf (number : ℕ) (h : Announced m) :
    mLen (commandOf host number m).buf = (commandOf host number m).len := by
  have hword := h.word (host.buffer number)
  have hlen : mLen (load m (host.buffer number)) = (prefixLen m).toNat := by
    have hle := h.le
    rw [mLen, ← hword, htonl, ntohl, swap32_swap32, toNat_ofNat32]
    omega
  -- the command word lies behind the length
  have hout : 0+4 ≤ 4 ∨ 4+4 ≤ 0 := by omega
  calc
    _ = mLen (load m (host.buffer number)) := by
      simp only [commandOf, messageBuffer, mLen, get32_put32_outside _ _ hout]
    _ = _ := hlen

theorem readBody_within {len : ℕ} (h8 : 8 ≤ len) (s : Connection) :
    Leaves (Use.Within len) (readBody host fuel len) s := by
  refine Leaves.lift_bind fun r t _ => ?_
  have hprefix : (wr 0 4).off+(wr 0 4).size ≤ len := by
    simp only [wr]
    omega
  apply Leaves.note_bind (access_within hprefix)
  refine Leaves.bind (Leaves.zoom (fill_leaves (fun b hb => access_within ?_) _ _)) fun r t' _ => ?_
  · simp only [wr]
    omega
  · cases r with
    | none => exact Leaves.bind (Leaves.zoom (Leaves.lift _ _ _)) fun _ t _ => Leaves.pure _ _ t
    | some buf =>
      refine Leaves.note_bind (fun u hu => ?_) (Leaves.pure _ _ _)
      rcases List.mem_pair.mp hu with rfl | rfl <;> simp only [Use.Within, rd, wr] <;> omega

theorem readCommand_within (h : Announced m) (h8 : 8 ≤ (prefixLen m).toNat) {s : Connection}
    (hs : s.source.unread = m ++ rest) :
    Leaves (Use.Within (prefixLen m).toNat) (readCommand host fuel) s := by
  refine Leaves.bind (Leaves.zoom (fill_leaves (fun _ _ t ht => absurd ht List.not_mem_nil) _ _))
    fun r t hr => ?_
  cases r with
  | none => exact Leaves.pure _ _ t
  | some word =>
    obtain ⟨hword,-⟩ := (readBytes_triple _ 0 (m.drop 4 ++ rest) h.take_length s.handled).ok
      ⟨Announced.unread hs, rfl⟩ hr
    obtain ⟨rfl,-⟩ := hword word rfl
    simp only [h.lengthWord, if_neg h.accepted]
    exact readBody_within h8 t

end ReadWithin

/-! Messages handled within their bounds fit. -/
section Necessary

variable {host : ServerHost} {fuel len : ℕ} {buf : Mem} {off : ℕ} {s : SrInstance}

/-- A string is read up to the first byte that may be a NUL. -/
theorem readString_reads {k : ℕ} (h : ∀ i, off ≤ i → i < off+k → buf i ≠ 0) (hk : k < fuel) :
    Use.access (rd (off+k) 1) ∈ trace (readString fuel buf off) s := by
  induction fuel generalizing off k with
  | zero => omega
  | succ fuel ih =>
    rcases k with _ | k
    · apply mem_trace_bind
      apply mem_trace_bind
      exact List.mem_singleton.mpr rfl
    · have hnext : (if buf off = 0 then Sum.inr () else Sum.inl (off+1) : ℕ ⊕ Unit) =
          Sum.inl (off+1) := if_neg (h off le_rfl (by omega))
      apply mem_trace_bind_ok (a := Sum.inl (off+1)) (u := s)
      · rw [← hnext]
        rfl
      · rw [show off+(k+1) = off+1+k by omega]
        exact ih (fun i hi hlt => h i (by omega) (by omega)) (by omega)

theorem readString_returns {j : ℕ} (hoff : off ≤ j) (hj : j < off+fuel) (h0 : buf j = 0) :
    erase (readString fuel buf off) s = .ok () s := by
  induction fuel generalizing off with
  | zero => omega
  | succ fuel ih =>
    rw [readString, loop, erase_bind, bind_apply]
    by_cases hnul : buf off = 0
    · have hbody : (if buf off = 0 then Sum.inr () else Sum.inl (off+1) : ℕ ⊕ Unit) =
          Sum.inr () := if_pos hnul
      rw [hbody]
      rfl
    · have hbody : (if buf off = 0 then Sum.inr () else Sum.inl (off+1) : ℕ ⊕ Unit) =
          Sum.inl (off+1) := if_neg hnul
      have hne : off ≠ j := by
        rintro rfl
        exact hnul h0
      rw [hbody]
      exact ih (by omega) (by omega)

theorem nameFits_iff : NameFits buf ↔ ∃ i, 8 ≤ i ∧ i ≤ 8+IDSIZE ∧ buf i = 0 := by
  rw [NameFits, wire, List.mem_map]
  constructor
  · rintro ⟨i,hi,h0⟩
    rw [List.mem_range] at hi
    exact ⟨8+i, by omega, by omega, h0⟩
  · rintro ⟨i,h8,hi,h0⟩
    refine ⟨i-8, List.mem_range.mpr (by omega), ?_⟩
    rw [shift, Nat.add_sub_cancel' h8]
    exact h0

theorem copyName_returns (h : NameFits buf) (hfuel : IDSIZE < fuel) :
    erase (copyName fuel buf) s = .ok () s := by
  obtain ⟨i,h8,hi,h0⟩ := nameFits_iff.mp h
  rw [copyName, erase_bind, bind_apply, readString_returns h8 (by omega) h0, if_pos h]
  rfl

theorem terminated_of_reads (hoff : off ≤ len) (hfuel : len < fuel)
    (h : ∀ x ∈ trace (readString fuel buf off) s, x.Within len) : Terminated buf off len := by
  by_contra hnul
  have hread : Use.access (rd (off+(len-off)) 1) ∈ trace (readString fuel buf off) s := by
    apply readString_reads _ (by omega)
    intro i hi hlt h0
    exact hnul ⟨i, hi, by omega, h0⟩
  have hlast : off+(len-off)+1 ≤ len := h _ hread
  omega

theorem handFrame_reads {x : Touch}
    (hx : x ∈ trace (receiveT host.toPlatform fuel (wire (shift buf 24) len) (shift buf 24)
      (mInterfaceName buf)) s) (ho : x.origin = s.log.arrivals) :
    Use.access { x.span with off := 24+x.span.off } ∈ trace (handFrame host fuel buf len) s := by
  apply mem_trace_bind_ok (u := s) rfl
  apply mem_trace_silent_bind rfl
  exact mem_trace_relabel hx (if_pos ho)

/-- A frame too short for an ARP packet is passed on in any case. -/
theorem handleVnspacket_reads (h24 : 24 ≤ len) (hle : len ≤ 10000) (h42 : len-24 < 42) {u : Use}
    (h : u ∈ trace (handFrame host fuel buf (len-24)) s) :
    u ∈ trace (handleVnspacket host fuel buf len) s := by
  have hpass : erase (srArpReqNotForUsT buf (len-24)) s = .ok false s := by
    have hshort : len-24 < sizeofEthernetHdr+sizeofArpHdr := h42
    simp only [srArpReqNotForUsT, erase_bind, erase_lift, erase_note, erase_pure, pure_bind_unit,
      bind_apply, get_apply, if_pos hshort, pure_apply]
  rw [handleVnspacket, frameLength_eq h24 hle]
  apply mem_trace_silent_bind rfl
  apply mem_trace_bind_ok hpass
  apply mem_trace_silent_bind rfl
  exact mem_trace_silent_bind (erase_srLogPacketUse _) h

theorem packetFits_of_reads (hle : len ≤ 10000)
    (h : ∀ x ∈ trace (handleVnspacket host (fuel+1) buf len) s, x.Within len) :
    PacketFits host.toEnv s buf len := by
  have hlength : (frameLength len : ℤ) = len-24 := by
    have hmem : Use.length 24 (frameLength len) (len-24) ∈
        trace (handleVnspacket host (fuel+1) buf len) s :=
      mem_trace_bind (List.mem_singleton.mpr rfl) _
    exact (h _ hmem).1
  have h24 : 24 ≤ len := by omega
  refine ⟨h24, fun n hn => ?_, ?_⟩
  · have hmem : Use.access (rd 8 n) ∈ trace (handleVnspacket host (fuel+1) buf len) s := by
      apply mem_trace_silent_bind rfl
      apply mem_trace_bind
      apply mem_trace_bind_ok (u := s) rfl
      apply mem_trace_bind
      exact List.mem_map.mpr ⟨n, hn, rfl⟩
    exact h _ hmem
  -- 42 bytes are enough for every access, so only a shorter frame says something
  · by_cases h42 : len-24 < 42
    · have hfit := @longEnough_of_reads host.toPlatform fuel (mInterfaceName buf) s
        (wire (shift buf 24) (len-24)) (shift buf 24) ?_
      · rw [load_wire_self, wire_length] at hfit
        exact hfit
      · intro x hx ho
        have hin : 24+x.span.off+x.span.size ≤ len :=
          h _ (handleVnspacket_reads h24 hle h42 (handFrame_reads hx ho))
        rw [wire_length]
        omega
    · exact LongEnough.of_le (by omega)

theorem obey_vnspacket {c : Command} (hc : c.command = VNSPACKET) :
    obey host fuel c = (do handleVnspacket host fuel c.buf c.len; pure 1) := by
  rw [obey, hc]
  rfl

theorem obey_text {c : Command} (hc : c.command = VNSCLOSE ∨ c.command = VNSBANNER) :
    ∃ r : ℤ, ∀ fuel, obey host fuel c = (do readString fuel c.buf 8; pure r) := by
  rcases hc with hc | hc
  · refine ⟨0, fun fuel => ?_⟩
    rw [obey, hc]
    rfl
  · refine ⟨1, fun fuel => ?_⟩
    rw [obey, hc]
    rfl

theorem obey_rtable {c : Command} (hc : c.command = VNS_RTABLE) :
    obey host fuel c = (do
      let r ← srHandleRtable host fuel c.number c.buf
      pure (if r = 0 then -1 else 1)) := by
  rw [obey, hc]
  rfl

theorem obey_authStatus {c : Command} (hc : c.command = VNS_AUTH_STATUS) :
    obey host fuel c = (do
      let r ← srHandleAuthStatus fuel c.buf
      pure (if r = 0 then -1 else 1)) := by
  rw [obey, hc]
  rfl

theorem fits_of_reads {c : Command} (h8 : 8 ≤ c.len) (hle : c.len ≤ 10000)
    (hlen : mLen c.buf = c.len) (hfuel : c.len ≤ fuel)
    (h : ∀ x ∈ trace (obey host (fuel+1) c) s, x.Within c.len) : Fits host s c where
  -- each command reads its own part of the message
  packet hc := by
    rw [obey_vnspacket hc] at h
    exact packetFits_of_reads hle fun x hx => h x (mem_trace_bind hx _)
  text hc := by
    obtain ⟨r,hr⟩ := @obey_text host c hc
    rw [hr] at h
    exact terminated_of_reads h8 (by omega) fun x hx => h x (mem_trace_bind hx _)
  rtable hc := by
    rw [obey_rtable hc] at h
    have hnul : Terminated c.buf 8 c.len :=
      terminated_of_reads h8 (by omega) fun x hx =>
        h x (mem_trace_bind (mem_trace_bind (mem_trace_bind hx _) _) _)
    refine ⟨hnul, fun hopen => ?_⟩
    obtain ⟨j,h8j,hj,h0⟩ := hnul
    -- behind a name that does not fit there is room for the table
    by_cases hfit : NameFits c.buf
    swap
    · by_contra hshort
      exact hfit (nameFits_iff.mpr ⟨j, h8j, by rw [IDSIZE]; omega, h0⟩)
    have hname : erase (copyName (fuel+1) c.buf) s = .ok () s := by
      rw [copyName, erase_bind, bind_apply, readString_returns h8j (by omega) h0, if_pos hfit]
      rfl
    -- the length of the table is taken before its entries are read
    have hmem : Use.length (sizeofBase+IDSIZE) ((mLen c.buf+2^32-8-IDSIZE)%2^32)
        ((mLen c.buf : ℤ)-8-IDSIZE) ∈ trace (srHandleRtable host (fuel+1) c.number c.buf) s := by
      apply mem_trace_bind_ok hname
      rw [if_pos hopen]
      exact mem_trace_bind (List.mem_pair.mpr (Or.inr rfl)) _
    have hlength := (h _ (mem_trace_bind hmem _)).1
    simp only [IDSIZE] at hlength
    omega
  authStatus hc := by
    rw [obey_authStatus hc] at h
    have h9 : 8+1 ≤ c.len := by
      have hmem : Use.access (rd 8 1) ∈ trace (srHandleAuthStatus (fuel+1) c.buf) s :=
        mem_trace_bind (List.mem_singleton.mpr rfl) _
      exact h _ (mem_trace_bind hmem _)
    refine ⟨h9, fun h0 => ?_⟩
    have hread : ∀ x ∈ trace (readString (fuel+1) c.buf 9) s, x.Within c.len := by
      intro x hx
      apply h x
      apply mem_trace_bind
      apply mem_trace_silent_bind rfl
      rw [if_neg (not_not.mpr h0)]
      exact mem_trace_bind hx _
    exact terminated_of_reads h9 (by omega) hread

end Necessary

/-- How the stream is delivered has no say in it. -/
theorem fits_withSchedule {host : ServerHost} {s : SrInstance} {c : Command}
    (schedule : ℕ → Delivery) : Fits { host with schedule := schedule } s c ↔ Fits host s c :=
  ⟨fun h => ⟨h.packet, h.text, h.rtable, h.authStatus⟩,
    fun h => ⟨h.packet, h.text, h.rtable, h.authStatus⟩⟩

/-- A stream that is never interrupted. -/
theorem fair_piece (size : ℕ) : Fair fun _ => .piece size where
  again _ := ⟨0, size, rfl⟩
  sound _ := Delivery.noConfusion

theorem Handleable.handledWithin {host : ServerHost} {s : Session} (ht : Tagged (s.router, []))
    {m rest : List UInt8} (hm : Announced m) (hs : s.conn.source.unread = m ++ rest)
    {expectedCmd : UInt32}
    (h : Handleable host s.router expectedCmd (commandOf host s.conn.handled m)) :
    HandledWithin host s expectedCmd (prefixLen m).toNat := by
  intro schedule fuel
  refine Leaves.bind (Leaves.zoom (readCommand_within hm h.1 hs)) fun r s' hr => ?_
  obtain ⟨conn,hread,rfl⟩ := erase_zoom_ok hr
  cases r with
  | none => exact Leaves.pure _ _ _
  | some c =>
    obtain ⟨rfl,-⟩ := (readCommand_triple hm s.conn.handled).ok ⟨hs,rfl⟩ hread c rfl
    refine Leaves.zoom (dispatch_within (mLen_commandOf _ hm) ?_ ht ?_)
    · have hle := hm.le
      simp only [commandOf]
      omega
    · exact ⟨h.1, fun hx => (fits_withSchedule schedule).mpr (h.2 hx)⟩

theorem HandledWithin.handleable {host : ServerHost} {s : Session}
    (hc : s.conn.source.closed = false) {m rest : List UInt8} (hm : Announced m)
    (hs : s.conn.source.unread = m ++ rest) {expectedCmd : UInt32}
    (h : HandledWithin host s expectedCmd (prefixLen m).toNat) :
    Handleable host s.router expectedCmd (commandOf host s.conn.handled m) := by
  -- one way to deliver the stream is enough: each call gets all it asks for
  obtain ⟨host',hhost⟩ : ∃ host', host' = { host with schedule := fun _ => .piece 10000 } := ⟨_,rfl⟩
  have hf : Fair host'.schedule := by
    rw [hhost]
    exact fair_piece 10000
  obtain ⟨c,n,hn⟩ := readCommand_settles hf hm hc hs
  obtain ⟨n',hn'⟩ := readCommand_reads hf hm hc hs
  have hin {fuel : ℕ} {u : Use}
      (hu : u ∈ trace (srReadFromServerExpect host' fuel expectedCmd) s) :
      u.Within (prefixLen m).toNat := by
    rw [hhost] at hu
    exact h _ fuel u hu
  have h8 : 4+4 ≤ (prefixLen m).toNat :=
    hin (mem_trace_bind (mem_trace_zoom (hn' n' le_rfl)) _)
  refine ⟨h8, fun hx => ?_⟩
  have hle : (prefixLen m).toNat ≤ 10000 := by
    have hle := hm.le
    omega
  have hread : erase (readCommand host' (max n (prefixLen m).toNat+1)) s.conn =
      .ok (some (commandOf host' s.conn.handled m)) ⟨⟨rest, c, false⟩, s.conn.handled+1⟩ :=
    hn _ (by omega)
  have hfits : Fits host' s.router (commandOf host' s.conn.handled m) := by
    refine @fits_of_reads host' (max n (prefixLen m).toNat) s.router
      (commandOf host' s.conn.handled m) h8 hle (mLen_commandOf _ hm) (le_max_right _ _) ?_
    intro u hu
    apply hin
    have hzoom : erase (zoom Session.conn (fun c s => { s with conn := c })
        (readCommand host' (max n (prefixLen m).toNat+1))) s =
          .ok (some (commandOf host' s.conn.handled m))
            ⟨⟨⟨rest, c, false⟩, s.conn.handled+1⟩, s.router⟩ := by
      rw [erase_zoom, hread]
    apply mem_trace_bind_ok hzoom
    apply mem_trace_zoom
    rw [dispatch, if_neg]
    · exact hu
    · rw [hhost]
      exact hx
  rw [hhost] at hfits
  exact (fits_withSchedule _).mp hfits

/-- A message with an accepted length is handled within its bounds, whatever its command and in
whatever state the router is, if and only if it is as long as its command needs. -/
theorem handledWithin_iff_handleable {host : ServerHost} {s : Session}
    (hc : s.conn.source.closed = false) (ht : Tagged (s.router, [])) {m rest : List UInt8}
    (hm : Announced m) (hs : s.conn.source.unread = m ++ rest) (expectedCmd : UInt32) :
    HandledWithin host s expectedCmd (prefixLen m).toNat ↔
      Handleable host s.router expectedCmd (commandOf host s.conn.handled m) :=
  ⟨fun h => h.handleable hc hm hs, fun h => h.handledWithin ht hm hs⟩

theorem handledWithin_iff_handleable_smallRouter :
    HandledWithin choppyHost ⟨⟨⟨bannerMessage ++ closeMessage, 0, false⟩, 0⟩, smallRouter⟩ 0
        (prefixLen bannerMessage).toNat ↔
      Handleable choppyHost smallRouter 0 (commandOf choppyHost 0 bannerMessage) := by
  have hm : WellFramed bannerMessage := ⟨by decide, by decide, by decide⟩
  exact handledWithin_iff_handleable (s := ⟨⟨⟨bannerMessage ++ closeMessage, 0, false⟩, 0⟩,
    smallRouter⟩) rfl smallRouter_initial.tagged hm.announced rfl 0

/-- A routing table for `vrh`, whose message ends with the name. -/
def shortRtable : List UInt8 := [0, 0, 0, 12, 0, 0, 0, 32, 118, 114, 104, 0]

/-- The length of the table, 12 less 40, comes out as 4294967268 bytes. -/
theorem shortRtable_length_wraps : Announced shortRtable ∧
    ¬HandledWithin choppyHost ⟨⟨⟨shortRtable, 0, false⟩, 0⟩, smallRouter⟩ VNS_RTABLE 12 := by
  refine ⟨⟨by decide, by decide, by decide⟩, fun h => ?_⟩
  have hx : Use.length 40 4294967268 (-28) ∈
      trace (srReadFromServerExpect { choppyHost with schedule := fun _ => .piece 10000 } 20
        VNS_RTABLE) ⟨⟨⟨shortRtable, 0, false⟩, 0⟩, smallRouter⟩ := by
    decide +kernel
  have heq : (4294967268 : ℤ) = -28 := (h _ 20 _ hx).1
  omega

end InternetCourse.Router
