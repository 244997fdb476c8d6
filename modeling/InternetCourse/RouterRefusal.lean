import InternetCourse.RouterConfig
import InternetCourse.RouterEcho
import InternetCourse.RouterResolve

/-! The check of the source address in `sr_send_packet`, and why no message of the router fails
it. -/
namespace InternetCourse.Router

open ByteMem StateTriple

/-- The call passes the checks `sr_send_packet` makes, so only the write can have failed: it is
the `n`-th message to the server. -/
structure Unrefused (env : Env) (ifList : List SrIf) (n : ℕ) (c : SendCall) : Prop where
  long : sizeofEthernetHdr ≤ c.len
  source : ∃ i, srGetInterface ifList c.iface = some i ∧ etherShost c.buf = i.addr
  failed : c.ret = -1 → env.write n (c.len+sizeofPacketHeader) < (c.len+sizeofPacketHeader : ℕ)

/-- Every packet that waits has an Ethernet header. -/
def LongWaiting (s : SrInstance) : Prop :=
  ∀ r ∈ s.cache.requests.pending, ∀ p ∈ r.packets, sizeofEthernetHdr ≤ p.len

/-- No call on record is refused, the first `n` of them apart. -/
structure Unrefusing (env : Env) (ifs : List SrIf) (n : ℕ) (s : SrInstance) : Prop where
  ifList : s.ifList = ifs
  calls : ∀ newer c older, s.log.sends = newer ++ c :: older → n ≤ older.length →
    Unrefused env ifs older.length c
  waiting : LongWaiting s

section Frames

variable (packet : Mem) (i : SrIf)

end Frames

section Refusal

variable {env : Env} {ifs : List SrIf} {n : ℕ} {s t : SrInstance} {i : SrIf} {c : SendCall}

/-- What a call with the right source address returns. -/
theorem sendResult_of_source {buf : Mem} {len : ℕ} {iface : CName}
    (hi : srGetInterface s.ifList iface = some i) (hshost : etherShost buf = i.addr)
    (hlen : sizeofEthernetHdr ≤ len) : sendResult env s buf len iface =
      if env.write s.log.sends.length (len+sizeofPacketHeader) < (len+sizeofPacketHeader : ℕ)
      then -1 else 0 := by
  have hmatch : srEtherAddrsMatchInterface s.ifList buf iface = true := by
    simp only [srEtherAddrsMatchInterface, hi, hshost, decide_true]
  simp only [sendResult, if_neg (not_lt.mpr hlen), hmatch, Bool.not_true, Bool.false_eq_true,
    if_false]

/-- A call by an interface, with its address in the frame, adds one that is not refused. -/
theorem Unrefusing.send (h : Unrefusing env ifs n s) {buf : Mem} {len : ℕ} {iface : CName}
    (hi : srGetInterface s.ifList iface = some i) (hshost : etherShost buf = i.addr)
    (hlen : sizeofEthernetHdr ≤ len) (emitter : Emitter) (origin : Option ℕ) :
    Unrefusing env ifs n
      (s.addSend ⟨emitter, origin, buf, len, iface, sendResult env s buf len iface⟩) := by
  refine ⟨h.ifList, ?_, h.waiting⟩
  intro newer c older he hn
  cases newer with
  | nil =>
    obtain ⟨rfl,rfl⟩ := List.cons.inj he
    refine ⟨hlen, ⟨i, by rwa [← h.ifList], hshost⟩, ?_⟩
    rw [sendResult_of_source hi hshost hlen]
    split_ifs with hw
    · exact fun _ => hw
    · intro hzero
      contradiction
  | cons d newer => exact h.calls newer c older (List.cons.inj he).2 hn

theorem LongWaiting.of_mem (h : LongWaiting s) (hq : ∀ r ∈ t.cache.requests.pending,
    ∃ r₀ ∈ s.cache.requests.pending, r.packets = r₀.packets) : LongWaiting t := by
  intro r hr p hp
  obtain ⟨r₀,hr₀,he⟩ := hq r hr
  rw [he] at hp
  exact h r₀ hr₀ p hp

theorem LongWaiting.flushed (h : LongWaiting s) (ip : UInt32) :
    ∀ q ∈ waitingFor s ip, sizeofEthernetHdr ≤ q.len := by
  intro q hq
  obtain ⟨r,hr,-,hq⟩ := mem_waitingFor hq
  exact h r hr q hq

theorem Accepted.long {m : Mem} {len : ℕ} (h : Accepted m len) : sizeofEthernetHdr ≤ len := by
  have hlen := ((accepted_iff m len).mp h).1
  rw [sizeofEthernetHdr]
  omega

end Refusal

end InternetCourse.Router
