import InternetCourse.RouterMessages

/-! The interface list that a hardware information message describes, and that
`sr_handle_hwinfo` makes of it. -/
namespace InternetCourse.Router

open ByteMem StateTriple TracedState

/-- What an entry says. Speed, subnet, mask, fixed address and the keys there are no names for
say nothing. -/
inductive HwEntry where
  | interface (name : CName)
  | ip (ip : UInt32)
  | ether (addr : Six)
  | other

/-- The entry at `off`. -/
def hwEntry (buf : Mem) (off : ℕ) : HwEntry :=
  let mKey := ntohl (get32 buf off)
  if mKey = HWINTERFACE then .interface (wire (shift buf (off+4)) srIfaceNamelen)
  else if mKey = HWETHIP then .ip (get32 buf (off+4))
  else if mKey = HWETHER then .ether (getSix buf (off+4))
  else .other

/-- The entries `mHWInfo[i]` to `mHWInfo[i+n-1]`. -/
def mHWInfo (buf : Mem) (i n : ℕ) : List HwEntry :=
  (List.range' i n).map fun j => hwEntry buf (sizeofBase+sizeofHwEntry*j)

namespace HwEntry

def isInterface : HwEntry → Bool
  | interface _ => true
  | _ => false

def ip? : HwEntry → Option UInt32
  | ip v => some v
  | _ => none

def ether? : HwEntry → Option Six
  | ether a => some a
  | _ => none

/-- The entries before the next interface. -/
def untilNext (l : List HwEntry) : List HwEntry := l.takeWhile fun e => !e.isInterface

end HwEntry

open HwEntry

/-- The interface with the last addresses among the entries, if there are any. -/
def SrIf.configured (i : SrIf) (l : List HwEntry) : SrIf :=
  { i with
    ip := (l.filterMap ip?).getLast?.getD i.ip
    addr := (l.filterMap ether?).getLast?.getD i.addr }

/-- The last interface of the list gets the addresses. -/
def lastConfigured (ifList : List SrIf) (l : List HwEntry) : List SrIf :=
  match ifList.getLast? with
  | none => []
  | some i => ifList.dropLast ++ [i.configured l]

/-- A new interface; its addresses are not set. -/
def freshIf (node : Mem) (name : CName) : SrIf :=
  ⟨strncpy name srIfaceNamelen, getSix node 32, get32 node 40⟩

/-- One interface for each interface entry, with the addresses that follow it before the next
one; `n` counts the nodes allocated. -/
def described (heap : ℕ → Mem) : ℕ → List HwEntry → List SrIf
  | _, [] => []
  | n, interface name :: rest =>
    (freshIf (heap n) name).configured (untilNext rest) :: described heap (n+1) rest
  | n, _ :: rest => described heap n rest

/-! The last address among entries in a row. -/
section Configured

variable {i : SrIf} {l : List HwEntry} {ifList : List SrIf}

theorem configured_ip (v : UInt32) :
    { i with ip := v }.configured l = i.configured (ip v :: l) := by
  simp only [SrIf.configured, List.filterMap_cons, ip?, ether?, List.getLast?_cons, Option.getD_some]

theorem configured_ether (a : Six) :
    { i with addr := a }.configured l = i.configured (ether a :: l) := by
  simp only [SrIf.configured, List.filterMap_cons, ip?, ether?, List.getLast?_cons, Option.getD_some]

theorem lastConfigured_append (i : SrIf) :
    lastConfigured (ifList ++ [i]) l = ifList ++ [i.configured l] := by
  rw [lastConfigured, List.getLast?_concat, List.dropLast_concat]

theorem lastConfigured_nil (ifList : List SrIf) : lastConfigured ifList [] = ifList := by
  rcases List.eq_nil_or_concat ifList with rfl | ⟨init,i,rfl⟩
  · rfl
  · rw [List.concat_eq_append, lastConfigured_append]
    rfl

end Configured

/-! One entry, and the entries of a message. -/
section Run

variable {host : ServerHost} {buf : Mem} {s : SrInstance}

/-- What the entry makes `sr_handle_hwinfo` do. -/
def HwEntry.call (env : Env) : HwEntry → RouterM Unit
  | interface name => srAddInterface env name
  | ip v => srSetEtherIp v
  | ether a => srSetEtherAddr a
  | other => pure ()

theorem srHandleHwEntry_call (off : ℕ) :
    erase (srHandleHwEntry host buf off) = (hwEntry buf off).call host.toEnv := by
  rw [srHandleHwEntry, erase_bind, erase_note, hwEntry]
  dsimp only
  split_ifs
  · rfl
  · rfl
  · rfl
  · rfl

theorem mHWInfo_succ (i n : ℕ) : mHWInfo buf i (n+1) =
    hwEntry buf (sizeofBase+sizeofHwEntry*i) :: mHWInfo buf (i+1) n := by
  rw [mHWInfo, List.range'_succ, List.map_cons]
  rfl

theorem setLast_concat {ifList : List SrIf} {i : SrIf} (h : s.ifList = ifList ++ [i])
    (f : SrIf → SrIf) : setLast f s = .ok () { s with ifList := ifList ++ [f i] } := by
  rw [setLast, bind_apply, get_apply]
  dsimp only
  rw [h, List.getLast?_concat, deref]
  change EStateM.Result.ok () { s with ifList := s.ifList.dropLast ++ [f i] } = _
  rw [h, List.dropLast_concat]

/-- The entries before the next interface are not about addresses, unless there is an interface
to give them to. -/
def Applicable (ifList : List SrIf) (l : List HwEntry) : Prop :=
  ifList = [] → ∀ e ∈ untilNext l, e = other

/-- The interfaces are those the entries describe, behind the ones there were; of these the last
may have got addresses. -/
structure Described (heap : ℕ → Mem) (l : List HwEntry) (s s' : SrInstance) : Prop where
  ifList : s'.ifList = lastConfigured s.ifList (untilNext l) ++ described heap s.log.mallocs l
  routingTable : s'.routingTable = s.routingTable
  cache : s'.cache = s.cache

/-- An entry with an address for the last interface, and one entry less to come. -/
theorem setLast_step {e : HwEntry} {l : List HwEntry} {f : SrIf → SrIf}
    (h : Applicable s.ifList (e :: l)) (he : e.isInterface = false) (hne : e ≠ other)
    (hf : ∀ i l, (f i).configured l = i.configured (e :: l)) (heap : ℕ → Mem) :
    ∃ s₁, setLast f s = .ok () s₁ ∧ Applicable s₁.ifList l ∧
      ∀ s', Described heap l s₁ s' → Described heap (e :: l) s s' := by
  have huntil : untilNext (e :: l) = e :: untilNext l := by
    rw [untilNext, List.takeWhile_cons, he]
    rfl
  have hdescribed : described heap s.log.mallocs (e :: l) = described heap s.log.mallocs l := by
    cases e with
    | interface name => cases he
    | ip | ether | other => rfl
  rcases List.eq_nil_or_concat s.ifList with hnil | ⟨init,i,hi⟩
  · -- there is no interface to give the address to
    have hother := h hnil e
    rw [huntil] at hother
    exact absurd (hother List.mem_cons_self) hne
  · rw [List.concat_eq_append] at hi
    refine ⟨_, setLast_concat hi f, ?_, ?_⟩
    · intro hnil
      exact absurd hnil (List.append_ne_nil_of_right_ne_nil _ (List.cons_ne_nil _ _))
    · rintro s' ⟨hif,hrt,hcache⟩
      refine ⟨?_, hrt, hcache⟩
      rw [hif, hi, huntil, hdescribed, lastConfigured_append, lastConfigured_append, hf]

/-- One entry less to come. -/
theorem HwEntry.call_step {e : HwEntry} {l : List HwEntry} (h : Applicable s.ifList (e :: l))
    (env : Env) : ∃ s₁, e.call env s = .ok () s₁ ∧ Applicable s₁.ifList l ∧
      ∀ s', Described env.malloc l s₁ s' → Described env.malloc (e :: l) s s' := by
  cases e with
  | interface name =>
    refine ⟨{ s.addMalloc with ifList := s.ifList ++ [freshIf (env.malloc s.log.mallocs) name] },
      rfl, ?_, ?_⟩
    · intro hnil
      exact absurd hnil (List.append_ne_nil_of_right_ne_nil _ (List.cons_ne_nil _ _))
    · rintro s' ⟨hif,hrt,hcache⟩
      refine ⟨?_, hrt, hcache⟩
      have huntil : untilNext (interface name :: l) = [] := rfl
      rw [hif, lastConfigured_append, List.append_assoc, huntil, lastConfigured_nil]
      rfl
  | ip v => exact setLast_step h rfl (fun hne => nomatch hne) (fun i l => configured_ip v) _
  | ether a => exact setLast_step h rfl (fun hne => nomatch hne) (fun i l => configured_ether a) _
  | other =>
    refine ⟨s, rfl, ?_, ?_⟩
    · intro hnil e he
      exact h hnil e (List.mem_cons_of_mem other he)
    · rintro s' ⟨hif,hrt,hcache⟩
      exact ⟨hif,hrt,hcache⟩

/-- The loop over the entries. The induction is on how many are left. -/
theorem hwEntries_described (n i : ℕ) (h : Applicable s.ifList (mHWInfo buf i n)) :
    ∃ s', erase (hwEntries host buf n i) s = .ok () s' ∧
      Described host.malloc (mHWInfo buf i n) s s' := by
  induction n generalizing i s with
  | zero =>
    refine ⟨s, rfl, ?_, rfl, rfl⟩
    have huntil : untilNext (mHWInfo buf i 0) = [] := rfl
    rw [huntil, lastConfigured_nil]
    exact (List.append_nil _).symm
  | succ n ih =>
    rw [mHWInfo_succ] at h ⊢
    obtain ⟨s₁,hcall,happ,hstep⟩ := HwEntry.call_step h host.toEnv
    obtain ⟨s',hrest,hd⟩ := ih (i+1) happ
    refine ⟨s', ?_, hstep s' hd⟩
    rw [hwEntries, erase_bind, srHandleHwEntry_call, bind_apply, hcall]
    exact hrest

/-- A message of whole entries is read to its end, and leaves the interface list it describes. -/
theorem srHandleHwinfo_described {k : ℕ} (hlen : mLen buf = sizeofBase+sizeofHwEntry*k)
    (h : Applicable s.ifList (mHWInfo buf 0 k)) (host : ServerHost) :
    ∃ s', erase (srHandleHwinfo host buf) s = .ok k s' ∧
      Described host.malloc (mHWInfo buf 0 k) s s' := by
  have hlt : mLen buf < 2^32 := (ntohl (get32 buf 0)).toNat_lt
  have hle : sizeofBase ≤ mLen buf := by
    rw [hlen]
    exact Nat.le_add_right sizeofBase _
  have hk : (mLen buf-8)/36 = k := by
    rw [hlen, sizeofBase, sizeofHwEntry]
    omega
  obtain ⟨s',hrun,hd⟩ := @hwEntries_described host buf s k 0 h
  refine ⟨s', ?_, hd⟩
  have hcount : numEntries (mLen buf) = k := by rw [numEntries_eq hle hlt, hk]
  have hloop : erase (srHandleHwinfo host buf) =
      erase (hwEntries host buf (numEntries (mLen buf)).toNat 0) >>= fun _ =>
        pure (numEntries (mLen buf)) := by
    simp only [srHandleHwinfo, erase_bind, erase_note, erase_pure, pure_bind]
  rw [hloop, hcount, Int.toNat_natCast, bind_apply, hrun]
  rfl

end Run

/-- Two interfaces, the first with both its addresses, and a subnet between them. -/
def twoInterfaces : Mem := load
  ([0, 0, 0, 188, 0, 0, 0, 16] ++
    [0, 0, 0, 1, 101, 116, 104, 48] ++ List.replicate 28 0 ++
    [0, 0, 0, 32, 1, 2, 3, 4, 5, 6] ++ List.replicate 26 0 ++
    [0, 0, 0, 4] ++ List.replicate 32 0 ++
    [0, 0, 0, 64, 10, 0, 0, 1] ++ List.replicate 28 0 ++
    [0, 0, 0, 1, 101, 116, 104, 49] ++ List.replicate 28 0) fun _ => 0

/-- A router that has been told nothing yet. -/
def bareRouter : SrInstance := ⟨[], [], srArpcacheInit, Log.empty⟩

theorem srHandleHwinfo_described_twoInterfaces : ∃ s',
    erase (srHandleHwinfo choppyHost twoInterfaces) bareRouter = .ok 5 s' ∧
      Described choppyHost.malloc (mHWInfo twoInterfaces 0 5) bareRouter s' := by
  refine @srHandleHwinfo_described twoInterfaces bareRouter 5 (by decide +kernel) ?_ choppyHost
  intro _ e he
  have hnone : untilNext (mHWInfo twoInterfaces 0 5) = [] := rfl
  rw [hnone] at he
  exact absurd he List.not_mem_nil

end InternetCourse.Router
