import InternetCourse.RouterEndless
import InternetCourse.RouterMessages

/-! When the reader of messages comes to an end. -/
namespace InternetCourse.Router

open ByteMem StateTriple TracedState PartialRead

/-- The message is not handled for ever: its frame starts no endless loop, if it is looked at, and
the strings that are read have an end, be it behind the message. -/
structure Finishes (host : ServerHost) (s : SrInstance) (c : Command) : Prop where
  packet : c.command = VNSPACKET → (frameLength c.len < sizeofEthernetHdr+sizeofArpHdr ∨
      (srGetInterface s.ifList (mInterfaceName c.buf)).isSome) →
    ¬SpinsOn host.toEnv s (shift c.buf 24) (frameLength c.len) (mInterfaceName c.buf)
  text : c.command = VNSCLOSE ∨ c.command = VNSBANNER ∨ c.command = VNS_RTABLE →
    ∃ i, 8 ≤ i ∧ c.buf i = 0
  authStatus : c.command = VNS_AUTH_STATUS → c.buf 8 = 0 → ∃ i, 9 ≤ i ∧ c.buf i = 0

/-- The stream starts with a length that is refused, or with a whole message that is not handled
for ever. -/
inductive Readable (host : ServerHost) (s : Session) (expectedCmd : UInt32) : Prop
  | refused : 4 ≤ s.conn.source.unread.length → (10000 < prefixLen s.conn.source.unread ∨
      prefixLen s.conn.source.unread < 0) → Readable host s expectedCmd
  | whole {m rest : List UInt8} : s.conn.source.unread = m ++ rest → Announced m →
      (¬Unexpected expectedCmd (commandOf host s.conn.handled m).command →
        Finishes host s.router (commandOf host s.conn.handled m)) → Readable host s expectedCmd

/-! Reading a message. -/
section Reading

variable {host : ServerHost} {mark : ℕ → List Use} {s : Connection}

/-- Nothing comes in any more, and nothing is what is added. -/
theorem readBytes_spins (hf : Fair host.schedule) (hc : s.source.closed = false) (dst : Mem)
    (base : ℕ) {limit : ℕ} (hlt : s.source.unread.length < limit) :
    Spins .outOfFuel (fun fuel => erase (readBytes host fuel mark dst base limit)) s :=
  ⟨0, fun _ _ => runsOut_zoom_iff.mpr (fill_runsOut hf dst hc hlt)⟩

theorem readCommand_spins_of_short (hf : Fair host.schedule) (hc : s.source.closed = false)
    (hlt : s.source.unread.length < 4) :
    Spins .outOfFuel (fun fuel => erase (readCommand host fuel)) s := by
  simp only [readCommand, erase_bind]
  exact (readBytes_spins hf hc _ 0 hlt).bind _

theorem lengthBytes_settle (hf : Fair host.schedule) (hc : s.source.closed = false)
    (h4 : 4 ≤ s.source.unread.length) : ∃ c,
      Settles (fun fuel => erase (readLength host fuel)) s
        (some (memcpy (fun _ => 0) 0 (load (s.source.unread.take 4) fun _ => 0) 4))
        ⟨⟨s.source.unread.drop 4, c, false⟩, s.handled⟩ :=
  readBytes_settles hf _ 0 (take_four_length h4) hc (List.take_append_drop 4 _).symm

/-- The body is cut off. -/
theorem readCommand_spins_of_cut (hf : Fair host.schedule) (hc : s.source.closed = false)
    (h4 : 4 ≤ s.source.unread.length)
    (ha : ¬(10000 < prefixLen s.source.unread ∨ prefixLen s.source.unread < 0))
    (hlt : s.source.unread.length < (prefixLen s.source.unread).toNat) :
    Spins .outOfFuel (fun fuel => erase (readCommand host fuel)) s := by
  obtain ⟨c,hlength⟩ := lengthBytes_settle hf hc h4
  apply erase_bind_spins hlength
  simp only [lengthWord h4, if_neg ha]
  -- the buffer and its first word are there, and then the reading starts
  apply erase_bind_spins (Settles.of_eq fun _ => rfl)
  apply erase_bind_spins (Settles.of_eq fun _ => rfl)
  simp only [erase_bind]
  refine (readBytes_spins hf rfl _ 4 ?_).bind _
  rw [List.length_drop]
  omega

/-- A refused length is answered with -1. -/
theorem readCommand_settles_of_refused (hf : Fair host.schedule) (hc : s.source.closed = false)
    (h4 : 4 ≤ s.source.unread.length)
    (ha : 10000 < prefixLen s.source.unread ∨ prefixLen s.source.unread < 0) : ∃ t,
      Settles (fun fuel => erase (readCommand host fuel)) s none t := by
  obtain ⟨c,hlength⟩ := lengthBytes_settle hf hc h4
  refine ⟨⟨⟨s.source.unread.drop 4, c, true⟩, s.handled⟩, ?_⟩
  apply erase_bind_settles hlength
  simp only [lengthWord h4, if_pos ha]
  exact Settles.of_eq fun _ => rfl

end Reading

/-! Handling it. -/
section Handling

variable {host : ServerHost} {fuel len : ℕ} {buf : Mem} {off : ℕ} {s : SrInstance} {c : Command}

theorem readString_ends_iff : Ends .outOfFuel (fun fuel => erase (readString fuel buf off)) s ↔
    ∃ i, off ≤ i ∧ buf i = 0 := by
  constructor
  · rintro ⟨n,hn⟩
    by_contra hno
    push Not at hno
    -- no byte from `off` on is the last one
    refine hn n le_rfl ?_
    change RunsOut _ (erase (readString n buf off) s)
    rw [readString, erase_loop]
    refine iterate_yields (fun i _ => off ≤ i) (fun i t hi => ?_) n le_rfl
    simp only [erase_bind, erase_note, erase_pure, pure_bind, if_neg (hno i hi)]
    exact Nat.le_succ_of_le hi
  · rintro ⟨j,hoff,h0⟩
    refine ⟨j+1, fun fuel hfuel => ?_⟩
    change ¬RunsOut _ (erase (readString fuel buf off) s)
    rw [readString_returns hoff (by omega) h0]
    exact not_runsOut_ok _ _

theorem frame_spinsOn : SpinsOn host.toEnv s (load (wire (shift buf 24) len) (shift buf 24))
      (wire (shift buf 24) len).length (mInterfaceName buf) ↔
    SpinsOn host.toEnv s (shift buf 24) len (mInterfaceName buf) := by
  rw [load_wire_self, wire_length]

theorem handFrame_runsOut_iff (hf : 0 < fuel) :
    RunsOut .outOfFuel (erase (handFrame host fuel buf len) s) ↔
      SpinsOn host.toEnv s (shift buf 24) len (mInterfaceName buf) := by
  rw [← frame_spinsOn, ← receive_runsOut_iff hf]
  simp only [handFrame, erase_bind, erase_lift, erase_note, erase_relabel, erase_receiveT,
    pure_bind]
  exact Iff.rfl

/-- An ARP request starts no loop. -/
theorem not_spinsOn_of_request {m : Mem} {interface : CName}
    (ha : etherType m = htons ethertypeArp) (hop : arOp m = htons 1) :
    ¬SpinsOn host.toEnv s m len interface := by
  rintro (⟨hacc,-,-⟩ | ⟨hr,-⟩)
  · have hip := ((accepted_iff _ _).mp hacc).2.1
    rw [ethertype, ha] at hip
    exact absurd hip (by decide)
  · have hreply := hr.reply
    rw [hop] at hreply
    exact absurd hreply (by decide)

/-- What becomes of a frame of `n` bytes. -/
theorem passFrame_runsOut_iff (hf : 0 < fuel) (n : ℕ) :
    RunsOut .outOfFuel (erase (do
      if ← srArpReqNotForUsT buf n then pure () else handFrame host fuel buf n) s) ↔
      (n < sizeofEthernetHdr+sizeofArpHdr ∨
        (srGetInterface s.ifList (mInterfaceName buf)).isSome) ∧
      SpinsOn host.toEnv s (shift buf 24) n (mInterfaceName buf) := by
  have hpass := @handFrame_runsOut_iff host fuel n buf s hf
  simp only [srArpReqNotForUsT, erase_bind, erase_note, erase_lift, erase_ite, erase_pure,
    pure_bind, bind_apply, get_apply]
  by_cases hshort : n < sizeofEthernetHdr+sizeofArpHdr
  · simp only [if_pos hshort, pure_apply, Bool.false_eq_true, if_false]
    exact hpass.trans ⟨fun h => ⟨Or.inl hshort, h⟩, fun h => h.2⟩
  simp only [if_neg hshort]
  cases hi : srGetInterface s.ifList (mInterfaceName buf) with
  | none =>
    -- the interface is used past the length test, so this is a crash
    refine ⟨fun h => absurd h (not_runsOut_nullDeref s), ?_⟩
    rintro ⟨h | h,-⟩
    · exact absurd h hshort
    · exact absurd h Bool.false_ne_true
  | some i =>
    simp only [deref, bind_apply, pure_apply]
    by_cases hno : srArpReqNotForUs i (shift buf 24) n = true
    · -- dropped unseen
      rw [hno, if_pos rfl]
      refine ⟨fun h => h.elim, fun h => absurd h.2 ?_⟩
      rw [srArpReqNotForUs, if_neg hshort] at hno
      obtain ⟨ha,hop,-⟩ := of_decide_eq_true hno
      exact not_spinsOn_of_request ha hop
    · rw [if_neg hno]
      exact hpass.trans ⟨fun h => ⟨Or.inr rfl, h⟩, fun h => h.2⟩

theorem handleVnspacket_erase : erase (handleVnspacket host fuel buf len) = erase (do
    if ← srArpReqNotForUsT buf (frameLength len) then pure ()
    else handFrame host fuel buf (frameLength len)) := by
  simp only [handleVnspacket, erase_bind, erase_note, erase_ite, erase_pure, pure_bind,
    erase_srLogPacketUse]

theorem passFrame_ends_iff (n : ℕ) :
    Ends .outOfFuel (fun fuel => erase (do
      if ← srArpReqNotForUsT buf n then pure () else handFrame host fuel buf n)) s ↔
      ((n < sizeofEthernetHdr+sizeofArpHdr ∨
          (srGetInterface s.ifList (mInterfaceName buf)).isSome) →
        ¬SpinsOn host.toEnv s (shift buf 24) n (mInterfaceName buf)) := by
  constructor
  · rintro ⟨k,hk⟩ hlook hspin
    exact hk (k+1) (Nat.le_succ k) ((passFrame_runsOut_iff (Nat.succ_pos k) n).mpr ⟨hlook,hspin⟩)
  · intro h
    refine ⟨1, fun fuel hfuel hrun => ?_⟩
    obtain ⟨hlook,hspin⟩ := (passFrame_runsOut_iff hfuel n).mp hrun
    exact h hlook hspin

theorem handleVnspacket_ends_iff :
    Ends .outOfFuel (fun fuel => erase (handleVnspacket host fuel buf len)) s ↔
      ((frameLength len < sizeofEthernetHdr+sizeofArpHdr ∨
          (srGetInterface s.ifList (mInterfaceName buf)).isSome) →
        ¬SpinsOn host.toEnv s (shift buf 24) (frameLength len) (mInterfaceName buf)) := by
  simp only [handleVnspacket_erase]
  exact passFrame_ends_iff (frameLength len)

theorem deref_neverRunsOut {α : Type} (o : Option α) : NeverRunsOut .outOfFuel (deref o) := by
  intro s
  cases o with
  | none => exact not_runsOut_nullDeref s
  | some a => exact not_runsOut_ok a s

theorem setLast_neverRunsOut (f : SrIf → SrIf) : NeverRunsOut .outOfFuel (setLast f) := by
  apply NeverRunsOut.bind (NeverRunsOut.get _)
  intro s
  apply NeverRunsOut.bind (deref_neverRunsOut _)
  exact fun _ => NeverRunsOut.modify _ _

theorem srAddInterface_neverRunsOut (env : Env) (name : CName) :
    NeverRunsOut .outOfFuel (srAddInterface env name) := by
  have hmalloc : NeverRunsOut .outOfFuel (malloc env) := fun s =>
    not_runsOut_ok (env.malloc s.log.mallocs) s.addMalloc
  exact NeverRunsOut.bind hmalloc fun _ => NeverRunsOut.modify _ _

theorem srHandleHwEntry_neverRunsOut (buf : Mem) (off : ℕ) :
    NeverRunsOut .outOfFuel (erase (srHandleHwEntry host buf off)) := by
  simp only [srHandleHwEntry, erase_bind, erase_note, erase_lift, erase_ite, erase_pure, pure_bind]
  split_ifs
  · exact srAddInterface_neverRunsOut _ _
  · exact setLast_neverRunsOut _
  · exact setLast_neverRunsOut _
  · exact NeverRunsOut.pure _ _

theorem hwEntries_neverRunsOut (buf : Mem) (n i : ℕ) :
    NeverRunsOut .outOfFuel (erase (hwEntries host buf n i)) := by
  induction n generalizing i with
  | zero => exact NeverRunsOut.pure _ _
  | succ n ih =>
    rw [hwEntries, erase_bind]
    exact NeverRunsOut.bind (srHandleHwEntry_neverRunsOut _ _) fun _ => ih (i+1)

theorem srHandleHwinfo_neverRunsOut (buf : Mem) :
    NeverRunsOut .outOfFuel (erase (srHandleHwinfo host buf)) := by
  simp only [srHandleHwinfo, erase_bind, erase_note, erase_pure, pure_bind]
  exact NeverRunsOut.bind (hwEntries_neverRunsOut _ _ _) fun _ => NeverRunsOut.pure _ _

theorem srHandleAuthRequest_neverRunsOut (number : ℕ) (buf : Mem) :
    NeverRunsOut .outOfFuel (erase (srHandleAuthRequest host number buf)) := by
  simp only [srHandleAuthRequest, erase_bind, erase_note, erase_ite, erase_pure, pure_bind]
  split_ifs <;> exact NeverRunsOut.pure _ _

theorem srHandleRtable_ends_iff (number : ℕ) :
    Ends .outOfFuel (fun fuel => erase (srHandleRtable host fuel number buf)) s ↔
      ∃ i, 8 ≤ i ∧ buf i = 0 := by
  have hname : Ends .outOfFuel (fun fuel => erase (copyName fuel buf)) s ↔
      Ends .outOfFuel (fun fuel => erase (readString fuel buf 8)) s := by
    simp only [copyName, erase_bind]
    refine ends_bind_iff fun _ _ => ?_
    -- a name that is too long is another matter
    simp only [erase_ite, erase_pure, erase_lift]
    split_ifs
    · exact NeverRunsOut.pure _ _
    · exact NeverRunsOut.throw Fault.noConfusion
  rw [← readString_ends_iff, ← hname]
  simp only [srHandleRtable, erase_bind]
  refine ends_bind_iff fun _ _ => ?_
  simp only [erase_bind, erase_note, erase_ite, erase_pure, pure_bind]
  split_ifs <;> exact NeverRunsOut.pure _ _

theorem srHandleAuthStatus_ends_iff :
    Ends .outOfFuel (fun fuel => erase (srHandleAuthStatus fuel buf)) s ↔
      (buf 8 = 0 → ∃ i, 9 ≤ i ∧ buf i = 0) := by
  simp only [srHandleAuthStatus, erase_bind, erase_note, erase_ite, erase_pure, pure_bind]
  -- the reason is only printed of a refusal
  by_cases h0 : buf 8 = 0
  · simp only [h0, ne_eq, not_true_eq_false, if_false, true_implies]
    rw [← @readString_ends_iff buf 9 s]
    exact ends_bind_pure_iff
  · simp only [if_pos h0]
    exact ⟨fun _ h => absurd h h0, fun _ => Ends.of_never (fun _ => NeverRunsOut.pure _ _) s⟩

theorem Finishes.of_ends (h : Ends .outOfFuel (fun fuel => erase (obey host fuel c)) s) :
    Finishes host s c where
  packet hc := by
    simp only [obey_vnspacket hc, erase_bind] at h
    exact handleVnspacket_ends_iff.mp (ends_bind_pure_iff.mp h)
  text hc := by
    rcases or_assoc.mpr hc with hc | hc
    · obtain ⟨r,hr⟩ := @obey_text host c hc
      simp only [hr, erase_bind] at h
      exact readString_ends_iff.mp (ends_bind_pure_iff.mp h)
    · simp only [obey_rtable hc, erase_bind] at h
      exact (srHandleRtable_ends_iff _).mp (ends_bind_pure_iff.mp h)
  authStatus hc := by
    simp only [obey_authStatus hc, erase_bind] at h
    exact srHandleAuthStatus_ends_iff.mp (ends_bind_pure_iff.mp h)

theorem Finishes.ends (h : Finishes host s c) :
    Ends .outOfFuel (fun fuel => erase (obey host fuel c)) s := by
  simp only [obey, erase_ite, erase_bind, erase_pure, erase_lift]
  -- one handler for each command
  refine Ends.ite (fun hc => ?_) fun _ => ?_
  · rw [ends_bind_pure_iff]
    exact handleVnspacket_ends_iff.mpr (h.packet hc)
  refine Ends.ite (fun hc => ?_) fun _ => ?_
  · rw [ends_bind_pure_iff]
    exact readString_ends_iff.mpr (h.text (Or.inl hc))
  refine Ends.ite (fun hc => ?_) fun _ => ?_
  · rw [ends_bind_pure_iff]
    exact readString_ends_iff.mpr (h.text (Or.inr (Or.inl hc)))
  refine Ends.ite (fun _ => ?_) fun _ => ?_
  · apply Ends.of_never
    intro fuel
    apply NeverRunsOut.bind (srHandleHwinfo_neverRunsOut _)
    exact fun _ => NeverRunsOut.bind (NeverRunsOut.get _) fun _ => NeverRunsOut.pure _ _
  refine Ends.ite (fun hc => ?_) fun _ => ?_
  · rw [ends_bind_pure_iff]
    exact (srHandleRtable_ends_iff _).mpr (h.text (Or.inr (Or.inr hc)))
  refine Ends.ite (fun _ => ?_) fun _ => ?_
  · apply Ends.of_never
    intro fuel
    exact NeverRunsOut.bind (srHandleAuthRequest_neverRunsOut _ _) fun _ => NeverRunsOut.pure _ _
  refine Ends.ite (fun hc => ?_) fun _ => ?_
  · rw [ends_bind_pure_iff]
    exact srHandleAuthStatus_ends_iff.mpr (h.authStatus hc)
  · exact Ends.of_never (fun _ => NeverRunsOut.pure _ _) s

theorem dispatch_ends_iff (expectedCmd : UInt32) :
    Ends .outOfFuel (fun fuel => erase (dispatch host fuel expectedCmd c)) s ↔
      (¬Unexpected expectedCmd c.command → Finishes host s c) := by
  by_cases hx : Unexpected expectedCmd c.command
  · simp only [dispatch, if_pos hx]
    exact ⟨fun _ h => absurd hx h, fun _ => Ends.of_never (fun _ => NeverRunsOut.pure _ _) s⟩
  · simp only [dispatch, if_neg hx]
    exact ⟨fun h _ => Finishes.of_ends h, fun h => (h hx).ends⟩

end Handling

/-! Reading a message and handling it. -/
section Reader

variable {host : ServerHost} {s : Session} {expectedCmd : UInt32}

theorem reader_spins (h : Spins .outOfFuel (fun fuel => erase (readCommand host fuel)) s.conn) :
    ¬Ends .outOfFuel (fun fuel => erase (srReadFromServerExpect host fuel expectedCmd)) s := by
  apply Spins.not_ends
  obtain ⟨n,hn⟩ := h
  simp only [srReadFromServerExpect, erase_bind]
  exact Spins.bind ⟨n, fun fuel hfuel => runsOut_zoom_iff.mpr (hn fuel hfuel)⟩ _

/-- A message that is in the stream is read, so that only what is done with it counts. -/
theorem reader_ends_iff_of_whole (hf : Fair host.schedule) {m rest : List UInt8}
    (h : Announced m) (hc : s.conn.source.closed = false) (hs : s.conn.source.unread = m ++ rest) :
    Ends .outOfFuel (fun fuel => erase (srReadFromServerExpect host fuel expectedCmd)) s ↔
      (¬Unexpected expectedCmd (commandOf host s.conn.handled m).command →
        Finishes host s.router (commandOf host s.conn.handled m)) := by
  rw [← dispatch_ends_iff]
  obtain ⟨c,n,hn⟩ := srReadFromServerExpect_reads hf h hc hs
  have hiff {fuel : ℕ} (hfuel : n ≤ fuel) :
      RunsOut .outOfFuel (erase (srReadFromServerExpect host fuel expectedCmd) s) ↔
        RunsOut .outOfFuel (erase (dispatch host fuel expectedCmd
          (commandOf host s.conn.handled m)) s.router) := by
    rw [hn fuel hfuel s.router expectedCmd]
    cases erase (dispatch host fuel expectedCmd (commandOf host s.conn.handled m)) s.router with
    | ok r router => exact Iff.rfl
    | error e router => exact Iff.rfl
  constructor <;> rintro ⟨k,hk⟩ <;> refine ⟨max n k, fun fuel hfuel => ?_⟩
  · exact mt (hiff (by omega)).mpr (hk fuel (by omega))
  · exact mt (hiff (by omega)).mp (hk fuel (by omega))

/-- A length that is refused is all that is read. -/
theorem reader_ends_of_refused (hf : Fair host.schedule) (hc : s.conn.source.closed = false)
    (h4 : 4 ≤ s.conn.source.unread.length)
    (ha : 10000 < prefixLen s.conn.source.unread ∨ prefixLen s.conn.source.unread < 0) :
    Ends .outOfFuel (fun fuel => erase (srReadFromServerExpect host fuel expectedCmd)) s := by
  obtain ⟨t,ht⟩ := readCommand_settles_of_refused hf hc h4 ha
  have hreturns : Settles (fun fuel => erase (srReadFromServerExpect host fuel expectedCmd)) s (-1)
      { s with conn := t } :=
    erase_bind_settles (erase_zoom_settles ht) (Settles.of_eq fun _ => rfl)
  exact hreturns.ends

end Reader

section Stream

variable {l m rest : List UInt8}

/-- The prefix is in the first four bytes. -/
theorem prefixLen_append (h4 : 4 ≤ m.length) : prefixLen (m ++ rest) = prefixLen m := by
  have hword : get32 (load (m ++ rest) fun _ => 0) 0 = get32 (load m fun _ => 0) 0 :=
    get32_congr fun i _ hi => by
      have hm : i < m.length := by omega
      rw [load_of_lt _ (by rw [List.length_append]; omega), load_of_lt _ hm,
        List.getElem_append_left hm]
  rw [prefixLen, hword, prefixLen]

/-- The message at the head of a stream that is long enough. -/
theorem announced_take (h4 : 4 ≤ l.length) (ha : ¬(10000 < prefixLen l ∨ prefixLen l < 0))
    (hw : (prefixLen l).toNat ≤ l.length) : Announced (l.take (max 4 (prefixLen l).toNat)) := by
  have hlen : (l.take (max 4 (prefixLen l).toNat)).length = max 4 (prefixLen l).toNat := by
    rw [List.length_take]
    exact min_eq_left (max_le h4 hw)
  have hp : prefixLen (l.take (max 4 (prefixLen l).toNat)) = prefixLen l := by
    rw [← @prefixLen_append _ (l.drop (max 4 (prefixLen l).toNat)) (by omega),
      List.take_append_drop]
  obtain ⟨hle,h0⟩ := not_or.mp ha
  refine ⟨?_, ?_, ?_⟩
  · rw [hp]
    exact not_lt.mp h0
  · rw [hp]
    exact not_lt.mp hle
  · rw [hp]
    exact hlen

end Stream

/-- Wherever a message is cut off, the reader waits for the rest of it for ever. -/
theorem reader_spins_of_cut {host : ServerHost} (hf : Fair host.schedule) {m : List UInt8}
    (hm : Announced m) {k : ℕ} (hk : k < m.length) {s : Session} {expectedCmd : UInt32}
    (hc : s.conn.source.closed = false) (hs : s.conn.source.unread = m.take k) :
    ¬Ends .outOfFuel (fun fuel => erase (srReadFromServerExpect host fuel expectedCmd)) s := by
  have hlen : s.conn.source.unread.length = k := by
    rw [hs, List.length_take]
    exact min_eq_left hk.le
  apply reader_spins
  by_cases h4 : k < 4
  · exact readCommand_spins_of_short hf hc (hlen.trans_lt h4)
  · have hp : prefixLen s.conn.source.unread = prefixLen m := by
      rw [← @prefixLen_append _ (m.drop k) (by omega), hs, List.take_append_drop]
    have hw := hm.whole
    refine readCommand_spins_of_cut hf hc (by omega) ?_ ?_
    · rw [hp]
      exact hm.accepted
    · rw [hp]
      omega

/-- After the last byte the peer closes the connection, and every further call receives nothing.
Then the reader comes to an end, be it by a crash, if and only if the stream starts with a length
that is refused, or with a whole message that is not handled for ever. -/
theorem srReadFromServerExpect_ends_iff {host : ServerHost} (hf : Fair host.schedule) {s : Session}
    (hc : s.conn.source.closed = false) (expectedCmd : UInt32) :
    Ends .outOfFuel (fun fuel => erase (srReadFromServerExpect host fuel expectedCmd)) s ↔
      Readable host s expectedCmd := by
  constructor
  · intro h
    by_cases h4 : 4 ≤ s.conn.source.unread.length
    swap
    · -- the stream ends in the length
      have hspin := readCommand_spins_of_short hf hc (Nat.not_le.mp h4)
      exact absurd h (reader_spins hspin)
    by_cases ha : 10000 < prefixLen s.conn.source.unread ∨ prefixLen s.conn.source.unread < 0
    · exact Readable.refused h4 ha
    by_cases hw : (prefixLen s.conn.source.unread).toNat ≤ s.conn.source.unread.length
    · have hm := announced_take h4 ha hw
      have hs := (List.take_append_drop (max 4 (prefixLen s.conn.source.unread).toNat)
        s.conn.source.unread).symm
      exact Readable.whole hs hm ((reader_ends_iff_of_whole hf hm hc hs).mp h)
    · -- the stream ends in the body
      have hspin := readCommand_spins_of_cut hf hc h4 ha (Nat.not_le.mp hw)
      exact absurd h (reader_spins hspin)
  · rintro (⟨h4,ha⟩ | ⟨hs,hm,hfin⟩)
    · exact reader_ends_of_refused hf hc h4 ha
    · exact (reader_ends_iff_of_whole hf hm hc hs).mpr hfin

theorem srReadFromServerExpect_ends_iff_banner :
    Ends .outOfFuel (fun fuel => erase (srReadFromServerExpect choppyHost fuel 0))
      ⟨⟨⟨bannerMessage, 0, false⟩, 0⟩, smallRouter⟩ := by
  have hm : Announced bannerMessage := ⟨by decide, by decide, by decide⟩
  have hfin : Finishes choppyHost smallRouter (commandOf choppyHost 0 bannerMessage) :=
    ⟨fun h => absurd h (by decide), fun _ => ⟨10, by decide, by decide⟩,
      fun h => absurd h (by decide)⟩
  apply (srReadFromServerExpect_ends_iff choppyHost_fair rfl 0).mpr
  exact Readable.whole (List.append_nil bannerMessage).symm hm fun _ => hfin

/-- A stream that ends before the length, inside of it, right behind it, and in the body. -/
theorem srReadFromServerExpect_spins_on_cut_banner :
    ¬Ends .outOfFuel (fun fuel => erase (srReadFromServerExpect choppyHost fuel 0))
        ⟨⟨⟨[], 0, false⟩, 0⟩, smallRouter⟩ ∧
      ¬Ends .outOfFuel (fun fuel => erase (srReadFromServerExpect choppyHost fuel 0))
        ⟨⟨⟨[0, 0], 0, false⟩, 0⟩, smallRouter⟩ ∧
      ¬Ends .outOfFuel (fun fuel => erase (srReadFromServerExpect choppyHost fuel 0))
        ⟨⟨⟨[0, 0, 0, 11], 0, false⟩, 0⟩, smallRouter⟩ ∧
      ¬Ends .outOfFuel (fun fuel => erase (srReadFromServerExpect choppyHost fuel 0))
        ⟨⟨⟨[0, 0, 0, 11, 0, 0, 0, 8, 104], 0, false⟩, 0⟩, smallRouter⟩ := by
  have hm : Announced bannerMessage := ⟨by decide, by decide, by decide⟩
  have hcut (k : ℕ) (hk : k < 11) {l : List UInt8} (hl : l = bannerMessage.take k) :
      ¬Ends .outOfFuel (fun fuel => erase (srReadFromServerExpect choppyHost fuel 0))
        ⟨⟨⟨l, 0, false⟩, 0⟩, smallRouter⟩ := reader_spins_of_cut choppyHost_fair hm hk rfl hl
  exact ⟨hcut 0 (by decide) rfl, hcut 2 (by decide) rfl, hcut 4 (by decide) rfl,
    hcut 9 (by decide) rfl⟩

end InternetCourse.Router
