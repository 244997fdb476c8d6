import InternetCourse.RouterHistory
import InternetCourse.RouterFraming
import InternetCourse.RouterValidation

/-! A router whose routing table has been verified against its interfaces, and what the check is
worth from then on. -/
namespace InternetCourse.Router

open ByteMem StateTriple TracedState

/-- Some interface has that name, as far as names are compared. -/
def Listed (ifList : List SrIf) (name : CName) : Prop :=
  ∃ ifWalker ∈ ifList, strncmpEq ifWalker.name name srIfaceNamelen = true

theorem srGetInterface_isSome_iff {ifList : List SrIf} {name : CName} :
    (srGetInterface ifList name).isSome ↔ Listed ifList name := List.find?_isSome

/-- Both lists have entries, and every route goes out by an interface. -/
structure Verified (s : SrInstance) : Prop where
  interfaces : s.ifList ≠ []
  routes : s.routingTable ≠ []
  listed : ∀ rt ∈ s.routingTable, Listed s.ifList rt.interface

theorem srVerifyRoutingTable_eq_zero_iff (s : SrInstance) :
    srVerifyRoutingTable s = 0 ↔ Verified s := by
  rw [srVerifyRoutingTable]
  by_cases hempty : s.ifList = [] ∨ s.routingTable = []
  · rw [if_pos hempty]
    constructor
    · intro h
      contradiction
    · intro h
      rcases hempty with hnil | hnil
      · exact absurd hnil h.interfaces
      · exact absurd hnil h.routes
  · obtain ⟨hifs,hroutes⟩ := not_or.mp hempty
    rw [if_neg hempty, Int.natCast_eq_zero, List.countP_eq_zero]
    constructor
    · intro h
      refine ⟨hifs, hroutes, fun rt hrt => ?_⟩
      have hany := h rt hrt
      rw [Bool.not_eq_true, Bool.not_eq_false', List.any_eq_true] at hany
      exact hany
    · intro h rt hrt
      rw [Bool.not_eq_true, Bool.not_eq_false', List.any_eq_true]
      exact h.listed rt hrt

/-! What comes in once the table has been verified. -/

/-- A message about the hardware, or an event of the router. -/
inductive Incident where
  | hwinfo (buf : Mem)
  | event (ev : Event)

/-- The state an incident leaves, whether what it calls returns or not. -/
def meet (host : ServerHost) (fuel : ℕ) (s : SrInstance) : Incident → SrInstance
  | .hwinfo buf => finalState (erase (srHandleHwinfo host buf) s)
  | .event ev => finalState (handle host.toEnv fuel ev s)

/-- Any number of incidents, in any order. -/
abbrev Serves (host : ServerHost) : SrInstance → SrInstance → Prop :=
  Relation.ReflTransGen fun s s' => ∃ fuel x, s' = meet host fuel s x

/-- The routes are as before, and the interfaces have only got more: those there were have kept
their places and their names. -/
def Extends (s t : SrInstance) : Prop :=
  s.ifList.map SrIf.name <+: t.ifList.map SrIf.name ∧ t.routingTable = s.routingTable

section Extends

variable {host : ServerHost} {s t : SrInstance}

theorem Listed.mono {ifList ifList' : List SrIf} {name : CName} (h : Listed ifList name)
    (hn : ifList.map SrIf.name <+: ifList'.map SrIf.name) : Listed ifList' name := by
  obtain ⟨w,hw,hname⟩ := h
  obtain ⟨w',hw',he⟩ := List.mem_map.mp (hn.subset (List.mem_map_of_mem hw))
  refine ⟨w', hw', ?_⟩
  rw [he]
  exact hname

theorem Verified.extends (h : Verified s) (he : Extends s t) : Verified t := by
  obtain ⟨hnames,hroutes⟩ := he
  refine ⟨?_, ?_, ?_⟩
  · intro hnil
    rw [hnil, List.map_nil, List.prefix_nil, List.map_eq_nil_iff] at hnames
    exact h.interfaces hnames
  · rw [hroutes]
    exact h.routes
  · intro rt hrt
    rw [hroutes] at hrt
    exact (h.listed rt hrt).mono hnames

theorem srAddInterface_extends (env : Env) (name : CName) :
    Keeps (Extends s) (srAddInterface env name) := by
  rintro t ⟨hnames,hroutes⟩
  refine ⟨?_,hroutes⟩
  dsimp only [modify_apply]
  rw [List.map_append]
  exact hnames.trans (List.prefix_append _ _)

/-- An assignment to an address of the last interface. -/
theorem setLast_extends {f : SrIf → SrIf} (hf : ∀ i, (f i).name = i.name) :
    Keeps (Extends s) (setLast f) := by
  rintro t ⟨hnames,hroutes⟩
  rw [setLast, bind_apply, get_apply]
  dsimp only
  cases hlast : t.ifList.getLast? with
  | none => exact ⟨hnames,hroutes⟩
  | some ifWalker =>
    refine ⟨?_,hroutes⟩
    have hsame : (t.ifList.dropLast ++ [f ifWalker]).map SrIf.name = t.ifList.map SrIf.name := by
      conv_rhs => rw [← List.dropLast_append_getLast? ifWalker hlast]
      rw [List.map_append, List.map_append, List.map_singleton, List.map_singleton, hf]
    have hgoal : s.ifList.map SrIf.name <+: (t.ifList.dropLast ++ [f ifWalker]).map SrIf.name := by
      rw [hsame]
      exact hnames
    exact hgoal

/-- A message about the hardware keeps what the two ways to change the interfaces keep. -/
theorem srHandleHwEntry_keeps {J : SrInstance → Prop}
    (hadd : ∀ env name, Keeps J (srAddInterface env name))
    (hset : ∀ f, (∀ i, (f i).name = i.name) → Keeps J (setLast f)) (buf : Mem) (off : ℕ) :
    Keeps J (erase (srHandleHwEntry host buf off)) := by
  rw [srHandleHwEntry, erase_bind, erase_note]
  refine Triple.bind (Keeps.pure ()) fun _ => ?_
  simp only [erase_ite, erase_bind, erase_note, erase_lift, erase_pure]
  split_ifs
  · exact Triple.bind (Keeps.pure ()) fun _ => hadd _ _
  · exact Triple.bind (Keeps.pure ()) fun _ => hset _ fun _ => rfl
  · exact Triple.bind (Keeps.pure ()) fun _ => hset _ fun _ => rfl
  · exact Keeps.pure ()

theorem hwEntries_keeps {J : SrInstance → Prop}
    (hadd : ∀ env name, Keeps J (srAddInterface env name))
    (hset : ∀ f, (∀ i, (f i).name = i.name) → Keeps J (setLast f)) (buf : Mem) (n i : ℕ) :
    Keeps J (erase (hwEntries host buf n i)) := by
  induction n generalizing i with
  | zero => exact Keeps.pure ()
  | succ n ih =>
    rw [hwEntries, erase_bind]
    exact Triple.bind (srHandleHwEntry_keeps hadd hset buf _) fun _ => ih (i+1)

theorem srHandleHwinfo_keeps {J : SrInstance → Prop}
    (hadd : ∀ env name, Keeps J (srAddInterface env name))
    (hset : ∀ f, (∀ i, (f i).name = i.name) → Keeps J (setLast f)) (buf : Mem) :
    Keeps J (erase (srHandleHwinfo host buf)) := by
  rw [srHandleHwinfo, erase_bind, erase_note]
  refine Triple.bind (Keeps.pure ()) fun _ => ?_
  rw [erase_bind]
  exact Triple.bind (hwEntries_keeps hadd hset buf _ _) fun _ => Keeps.pure _

theorem srHandleHwinfo_extends (buf : Mem) :
    Keeps (Extends s) (erase (srHandleHwinfo host buf)) :=
  srHandleHwinfo_keeps srAddInterface_extends (fun _ hf => setLast_extends hf) buf

theorem meet_extends (fuel : ℕ) (x : Incident) (h : Extends s t) :
    Extends s (meet host fuel t x) := by
  cases x with
  | hwinfo buf => exact (srHandleHwinfo_extends buf).finalState h
  | event ev =>
    obtain ⟨hi,ht⟩ := handle_tables host.toEnv fuel ev t
    rw [Extends, meet, hi, ht]
    exact h

theorem Serves.extends (h : Serves host s t) : Extends s t := by
  refine invariant_of_run (I := Extends s) ?_ h ⟨List.prefix_rfl,rfl⟩
  rintro u v ⟨fuel,x,rfl⟩ hu
  exact meet_extends fuel x hu

end Extends

/-! What the lookups of a verified table lead to. -/

/-- The run does not end with a null pointer dereferenced. -/
def NullFree {α : Type} (r : EStateM.Result Fault SrInstance α) : Prop :=
  ∀ t, r ≠ .error .nullDeref t

section NullFree

variable {env : Env} {s t : SrInstance} {fuel : ℕ} {interface : CName} {i : SrIf}

theorem NullFree.ok {α : Type} {a : α} {r : EStateM.Result Fault SrInstance α}
    (h : r = .ok a t) : NullFree r := by
  rw [h]
  intro u hu
  contradiction

theorem NullFree.bind {α β : Type} {x : RouterM α} {f : α → RouterM β} (hx : NullFree (x s))
    (hf : ∀ a t, x s = .ok a t → NullFree (f a t)) : NullFree ((x >>= f) s) := by
  rw [bind_apply]
  cases hr : x s with
  | ok a t => exact hf a t hr
  | error e t =>
    intro u hu
    rw [hr] at hx
    exact hx t (by rw [(EStateM.Result.error.inj hu).1])

/-- With a route to the address and its interface there, the loop dereferences no null pointer. -/
theorem giveUpLoop_nullFree (hread : env.ReadsAddress) {r : SrArpreq}
    (hr : r ∈ s.cache.requests.pending) {rt : SrRt}
    (hrt : longestPrefixSum s.routingTable r.ip = some rt)
    (hi : srGetInterface s.ifList rt.interface = some i) (packets : List SrPacket) :
    NullFree (giveUpLoop env fuel r.addr packets s) := by
  induction fuel generalizing s with
  | zero =>
    intro u hu
    have hfault := (EStateM.Result.error.inj hu).1
    contradiction
  | succ fuel ih =>
    match packets with
    | [] | [p] => exact NullFree.ok (giveUpLoop_of_single env (Nat.succ_pos fuel) r.addr (by simp) s)
    | p :: p' :: rest =>
      cases hd : env.ipDstAt r.ip with
      | none =>
        -- the lookup itself crashes, and not on a null pointer it was given
        obtain ⟨t,ht⟩ := giveUpLoop_unread env hr hd p p' rest fuel
        intro u hu
        have hfault := (EStateM.Result.error.inj (ht.symm.trans hu)).1
        contradiction
      | some ipDst =>
        have hat : routeAt env s.routingTable r.ip = some rt := by
          rw [routeAt_of_read hd, hread _ _ hd, hrt]
        rw [giveUpLoop_round env hr hat hi]
        exact ih hr hrt hi

theorem handleArpreq_nullFree (hread : env.ReadsAddress) {r : SrArpreq}
    (hr : r ∈ s.cache.requests.pending) {rt : SrRt}
    (hrt : longestPrefixSum s.routingTable r.ip = some rt)
    (hi : srGetInterface s.ifList rt.interface = some i) :
    NullFree (handleArpreq env fuel r.addr (some rt) s) := by
  by_cases hd : Due env s r
  swap
  · exact NullFree.ok (handleArpreq_of_not_due env hr hd fuel (some rt))
  by_cases hx : 5 ≤ r.timesSent
  swap
  · exact NullFree.ok (handleArpreq_of_retry env hr hd hx hi fuel)
  have hr' : r ∈ (givingUpState env s r).cache.requests.pending := hr
  have hrt' : longestPrefixSum (givingUpState env s r).routingTable r.ip = some rt := hrt
  have hi' : srGetInterface (givingUpState env s r).ifList rt.interface = some i := hi
  have hfinish := NullFree.ok (finishGiveUp_apply hr' (s.now env))
  rw [handleArpreq_of_giveUp env hr hd hx]
  split
  · refine NullFree.bind (giveUpLoop_nullFree hread hr' hrt' hi' r.packets) fun _ t hl => ?_
    obtain ⟨-,rfl⟩ := giveUpLoop_returns env hl
    exact hfinish
  · exact hfinish

theorem Verified.congr (h : Verified s) (hi : t.ifList = s.ifList)
    (ht : t.routingTable = s.routingTable) : Verified t := by
  refine ⟨?_,?_,?_⟩
  · rw [hi]
    exact h.interfaces
  · rw [ht]
    exact h.routes
  · rw [hi, ht]
    exact h.listed

/-- The interface of a route that has been found is there. -/
theorem Verified.getInterface (h : Verified s) {ip : UInt32} {rt : SrRt}
    (hrt : longestPrefixSum s.routingTable ip = some rt) :
    ∃ i, srGetInterface s.ifList rt.interface = some i :=
  Option.isSome_iff_exists.mp
    (srGetInterface_isSome_iff.mpr (h.listed rt (List.mem_of_find?_eq_some hrt)))

theorem Enqueued.ip {ip : UInt32} {pkts : List SrPacket} {r : SrArpreq}
    (h : Enqueued s ip pkts r t) : r.ip = ip := by
  rcases h.queue with ⟨_,_,_,_,hip,hr,-⟩ | ⟨-,hr,-⟩
  · rw [hr]
    exact hip
  · rw [hr]

theorem packetToOtherDest_nullFree (hread : env.ReadsAddress) (h : Verified s)
    (hi : srGetInterface s.ifList interface = some i) (packet : Buf) (len : ℕ) :
    NullFree (packetToOtherDest env fuel packet interface len s) := by
  cases routeWay s packet.mem with
  | expired ht =>
    rw [packetToOtherDest_of_expired ht]
    exact NullFree.bind (NullFree.ok (icmpError_of_some env hi _ _ _ _ packet len))
      fun _ _ _ => NullFree.ok rfl
  | noRoute ht hrt =>
    rw [packetToOtherDest_of_noRoute ht hrt]
    exact NullFree.bind (NullFree.ok (icmpError_of_some env hi _ _ _ _ packet len))
      fun _ _ _ => NullFree.ok rfl
  | unlisted _ hrt _ hnone =>
    obtain ⟨j,hj⟩ := h.getInterface hrt
    rw [hj] at hnone
    contradiction
  | hit ht hrt he hj => exact NullFree.ok (packetToOtherDest_of_hit ht hrt he hj fuel interface len)
  | @miss rt ht hrt he =>
    obtain ⟨j,hj⟩ := h.getInterface hrt
    obtain ⟨r,s₁,hq,henq⟩ :=
      srArpcacheQueuereq_returns env (ipDst packet.mem) packet len interface s
    rw [packetToOtherDest_of_miss ht hrt he]
    refine NullFree.bind (NullFree.ok hq) fun req t hreq => ?_
    rw [hq] at hreq
    obtain ⟨rfl,rfl⟩ := EStateM.Result.ok.inj hreq
    -- the request the packet waits for is for the address that has just been looked up
    have hrt' : longestPrefixSum s₁.routingTable r.ip = some rt := by
      rw [henq.routingTable, henq.ip]
      exact hrt
    have hj' : srGetInterface s₁.ifList rt.interface = some j := by
      rw [henq.ifList]
      exact hj
    exact NullFree.bind (handleArpreq_nullFree hread henq.mem hrt' hj') fun _ _ _ => NullFree.ok rfl

theorem flushPackets_nullFree (hread : env.ReadsAddress) (h : Verified s)
    (hi : srGetInterface s.ifList interface = some i) (packets : List SrPacket) :
    NullFree (flushPackets env fuel interface packets s) := by
  induction packets generalizing s with
  | nil => exact NullFree.ok rfl
  | cons p rest ih =>
    refine NullFree.bind (packetToOtherDest_nullFree hread h hi p.buf p.len) fun _ t hp => ?_
    have hm : Moves env (s, [p]) (t, []) := (packetToOtherDest_returns hp).moves
    obtain ⟨hifs,hroutes⟩ := hm.tables
    exact ih (h.congr hifs hroutes) (by rw [hifs]; exact hi)

theorem arpPacket_nullFree (hread : env.ReadsAddress) (h : Verified s)
    (hi : srGetInterface s.ifList interface = some i) (buf : Buf) (len : ℕ) : NullFree (arpPacket env fuel buf interface len s) := by
  cases arpWay s buf.mem interface with
  | unlisted hn =>
    rw [hi] at hn
    contradiction
  | ignored hi' hno => exact NullFree.ok (arpPacket_of_ignored hi' hno)
  | request hi' htip h1 => exact NullFree.ok (arpPacket_of_request hi' htip h1)
  | reply hi' htip h2 =>
    cases hf : s.cache.requests.pending.find? (fun r => r.ip == arSip buf.mem) with
    | none => exact NullFree.ok (arpPacket_of_unasked hi' htip h2 hf)
    | some r =>
      obtain ⟨hifs,hroutes,-⟩ := insertedState_frame env (arSha buf.mem) (arSip buf.mem) s
      rw [arpPacket_of_answered hi' htip h2 hf]
      exact NullFree.bind (flushPackets_nullFree hread (h.congr hifs hroutes)
        (by rw [hifs]; exact hi) _) fun _ _ _ => NullFree.ok rfl

theorem ipPacket_nullFree (hread : env.ReadsAddress) (h : Verified s)
    (hi : srGetInterface s.ifList interface = some i) (packet : Buf) (len : ℕ) (ht : ethertype packet.mem = ethertypeIp) :
    NullFree (ipPacket env fuel packet interface len s) := by
  cases ipWay s packet.mem len with
  | rejected ha => exact NullFree.ok (ipPacket_of_rejected ht ha env fuel interface s)
  | echo ha hl h1 =>
    rw [ipPacket_of_echo ha hl h1]
    exact NullFree.ok (echoReply_of_some env hi packet len)
  | unreachable ha hl h2 =>
    rw [ipPacket_of_unreachable ha hl h2]
    exact NullFree.ok (icmpError_of_some env hi _ _ _ _ packet len)
  | ignored ha hl hp => exact NullFree.ok (ipPacket_of_ignored ha hl hp env fuel interface)
  | transit ha hl =>
    rw [ipPacket_of_transit ha hl]
    exact NullFree.bind (packetToOtherDest_nullFree hread h hi packet len)
      fun _ _ _ => NullFree.ok rfl

/-- A frame on a listed interface. -/
theorem receive_nullFree (hread : env.ReadsAddress) (h : Verified s)
    (hi : srGetInterface s.ifList interface = some i) (frame : List UInt8) (slack : Mem) :
    NullFree (handle env fuel (.receive frame slack interface) s) := by
  have h' : Verified s.addArrival := h.congr rfl rfl
  have hi' : srGetInterface s.addArrival.ifList interface = some i := hi
  rw [receive_apply, srHandlepacket]
  split_ifs with ha hip
  · exact arpPacket_nullFree hread h' hi' _ _
  · exact ipPacket_nullFree hread h' hi' _ _ hip
  · exact NullFree.ok rfl

end NullFree

/-- The check passes exactly if there are interfaces and routes and each route goes out by one of
the interfaces. Once it has passed, then whatever is added to the interfaces and whatever is
received, the interface of a route that is found is there, and no frame that comes in by an
interface makes the router dereference a null pointer, where `longest_prefix_sum(sr, req->ip)`
finds the route of that address if it returns. -/
theorem verified_routes_have_interfaces (host : ServerHost) (s : SrInstance) :
    (srVerifyRoutingTable s = 0 ↔ Verified s) ∧
    ∀ s', srVerifyRoutingTable s = 0 → Serves host s s' →
      (∀ ip rt, longestPrefixSum s'.routingTable ip = some rt →
        (srGetInterface s'.ifList rt.interface).isSome) ∧
      (host.toEnv.ReadsAddress → ∀ fuel frame slack interface, (srGetInterface s'.ifList interface).isSome →
        NullFree (handle host.toEnv fuel (.receive frame slack interface) s')) := by
  refine ⟨srVerifyRoutingTable_eq_zero_iff s, fun s' hs hrun => ?_⟩
  have hv := ((srVerifyRoutingTable_eq_zero_iff s).mp hs).extends hrun.extends
  refine ⟨fun ip rt hrt => ?_, fun hread fuel frame slack interface hi => ?_⟩
  · obtain ⟨i,hi⟩ := hv.getInterface hrt
    exact Option.isSome_iff_exists.mpr ⟨i,hi⟩
  · obtain ⟨i,hi⟩ := Option.isSome_iff_exists.mp hi
    exact receive_nullFree hread hv hi frame slack

/-- A third interface turns up. -/
def thirdInterface : List UInt8 :=
  [0, 0, 0, 44, 0, 0, 0, 16, 0, 0, 0, 1, 101, 116, 104, 50] ++ List.replicate 28 0

theorem verified_routes_have_interfaces_smallRouter :
    let s := meet choppyHost 1 smallRouter (.hwinfo (load thirdInterface fun _ => 0))
    (∀ ip rt, longestPrefixSum s.routingTable ip = some rt →
        (srGetInterface s.ifList rt.interface).isSome) ∧
      ∀ fuel frame slack interface, (srGetInterface s.ifList interface).isSome →
        NullFree (handle choppyHost.toEnv fuel (.receive frame slack interface) s) := by
  intro s
  obtain ⟨hfound,hfree⟩ := (verified_routes_have_interfaces choppyHost smallRouter).2 s (by decide)
    (Relation.ReflTransGen.single ⟨1,_,rfl⟩)
  exact ⟨hfound, hfree obligingHost_readsAddress⟩

end InternetCourse.Router
