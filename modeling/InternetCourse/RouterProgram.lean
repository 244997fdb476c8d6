import InternetCourse.RouterConnect

/-! The program as a whole: what it does with the messages, however they come in, and what becomes
of the router. -/
namespace InternetCourse.Router

open ByteMem StateTriple TracedState PartialRead PairedRuns

section Program

variable {host : ServerHost} {fuel : ℕ} {s₀ : SrInstance}

/-- However the stream is cut into pieces and interrupted, the program does with it what it does
with the messages in it, one by one: it is authenticated or not, opens the session or not, serves
every message up to the one that ends it and leaves those behind it, or waits for more. -/
theorem main_serves_messages (hf : Fair host.schedule) {msgs : List (List UInt8)}
    (hm : ∀ m ∈ msgs, WellFramed m) {s : Session} (hc : s.conn.source.closed = false)
    (hs : s.conn.source.unread = msgs.flatten) (env : Env) (mainHost : MainHost) (opts : Options) :
    ∃ n, ∀ fuel, n ≤ fuel → SameOutcome (Carries [])
      (main (byteLine host fuel) env mainHost opts fuel s)
      (main (messageLine host fuel) env mainHost opts fuel ⟨msgs, s.conn.handled, s.router⟩) := by
  obtain ⟨R,hstart,hcarry,n,hn⟩ := byteLine_simulates hf hm hc hs
  refine ⟨n, fun fuel hfuel => ?_⟩
  have hsame := main_same (hn fuel hfuel) env mainHost opts fuel hstart
  revert hsame
  cases main (byteLine host fuel) env mainHost opts fuel s <;>
    cases main (messageLine host fuel) env mainHost opts fuel ⟨msgs, s.conn.handled, s.router⟩
  · exact fun h => ⟨h.1, hcarry _ _ h.2⟩
  · exact id
  · exact id
  · exact fun h => ⟨h.1, hcarry _ _ h.2⟩

/-- A host with an empty table. -/
def idleHost : MainHost where
  connect := answeringServer
  pwName := none
  inetAton := fun _ => some 0
  rtable := fun _ => some []
  fields := fun _ => ⟨[], [], [], []⟩
  dumpOpens := true
  wakes := fun _ => 1

theorem main_serves_messages_handshake : ∃ n, ∀ fuel, n ≤ fuel →
    SameOutcome (Carries [])
      (main (byteLine choppyHost fuel) obligingHost idleHost ⟨none, [], none, 0, false⟩ fuel
        ⟨⟨⟨(handshake ++ [bannerMessage, closeMessage]).flatten, 0, false⟩, 0⟩, smallRouter⟩)
      (main (messageLine choppyHost fuel) obligingHost idleHost ⟨none, [], none, 0, false⟩ fuel
        ⟨handshake ++ [bannerMessage, closeMessage], 0, smallRouter⟩) := by
  have hm : ∀ m ∈ handshake ++ [bannerMessage, closeMessage], WellFramed m := by
    intro m hm
    rcases List.mem_append.mp hm with hm | hm
    · exact handshake_wellFramed m hm
    · rcases List.mem_pair.mp hm with rfl | rfl
      · exact ⟨by decide, by decide, by decide⟩
      · exact ⟨by decide, by decide, by decide⟩
  exact main_serves_messages choppyHost_fair hm rfl rfl obligingHost idleHost _

/-! The router in the program. -/

theorem event_serves (ev : Event) : Keeps (Serves host s₀) (handle host.toEnv fuel ev) := by
  apply Keeps.of_finalState
  intro s hs
  exact hs.tail ⟨fuel, .event ev, rfl⟩

theorem srHandleHwinfo_serves (buf : Mem) :
    Keeps (Serves host s₀) (erase (srHandleHwinfo host buf)) := by
  apply Keeps.of_finalState
  intro s hs
  exact hs.tail ⟨0, .hwinfo buf, rfl⟩

/-- A frame goes to the router as an event, or not at all. -/
theorem passFrame_serves (buf : Mem) (n : ℕ) :
    Keeps (Serves host s₀) (erase (do
      if ← srArpReqNotForUsT buf n then pure () else handFrame host fuel buf n)) := by
  refine @erase_bind_keeps _ _ _ _ _ _ _ _ ?_ fun drop => ?_
  · apply Keeps.of_finalState
    intro s hs
    have hsame := (@srArpReqNotForUsT_keeps buf s n).finalState rfl
    rw [hsame]
    exact hs
  · apply erase_ite_keeps (Keeps.pure ())
    simp only [handFrame, erase_bind, erase_lift, erase_note, erase_relabel, erase_receiveT]
    exact Triple.bind Keeps.get fun _ => Triple.bind (Keeps.pure ()) fun _ => event_serves _

theorem handleVnspacket_serves (buf : Mem) (len : ℕ) :
    Keeps (Serves host s₀) (erase (handleVnspacket host fuel buf len)) := by
  rw [handleVnspacket_erase]
  exact @passFrame_serves host fuel s₀ buf (frameLength len)

/-- Every message is an incident of the router, or has nothing to do with it. -/
theorem obey_serves (c : Command) : Keeps (Serves host s₀) (erase (obey host fuel c)) := by
  unfold obey
  apply erase_ite_keeps
  · have hpacket := @handleVnspacket_serves host fuel s₀ c.buf c.len
    -- what is done with the frame does not matter any more
    generalize handleVnspacket host fuel c.buf c.len = x at hpacket ⊢
    exact erase_bind_keeps hpacket fun _ => Keeps.pure _
  apply erase_ite_keeps
  · exact erase_bind_keeps (readString_keeps _ _) fun _ => Keeps.pure _
  apply erase_ite_keeps
  · exact erase_bind_keeps (readString_keeps _ _) fun _ => Keeps.pure _
  apply erase_ite_keeps
  · apply erase_bind_keeps (srHandleHwinfo_serves _)
    intro _
    exact erase_bind_keeps Keeps.get fun _ => Keeps.pure _
  apply erase_ite_keeps
  · exact erase_bind_keeps (srHandleRtable_keeps _ _) fun _ => Keeps.pure _
  apply erase_ite_keeps
  · exact erase_bind_keeps (srHandleAuthRequest_keeps _ _) fun _ => Keeps.pure _
  apply erase_ite_keeps
  · exact erase_bind_keeps (srHandleAuthStatus_keeps _) fun _ => Keeps.pure _
  · exact Keeps.pure _

theorem dispatch_serves (expectedCmd : UInt32) (c : Command) :
    Keeps (Serves host s₀) (erase (dispatch host fuel expectedCmd c)) := by
  apply erase_ite_keeps
  · exact Keeps.pure _
  · exact obey_serves c

theorem handleAll_serves (events : List Event) :
    Keeps (Serves host s₀) (handleAll host.toEnv fuel events) := by
  induction events with
  | nil => exact Keeps.pure ()
  | cons ev events ih => exact Triple.bind (event_serves ev) fun _ => ih

theorem onRouter_triple {α : Type} {P : SrInstance → Prop} {x : RouterM α}
    {Q : α → SrInstance → Prop} {E : SrInstance → Prop} (h : Triple P x Q E) :
    Triple (fun s : Session => P s.router) ((byteLine host fuel).onRouter x)
      (fun a s => Q a s.router) fun s => E s.router := by
  intro s hs
  have hx := h s.router hs
  revert hx
  dsimp only [byteLine]
  cases x s.router with
  | ok a router => exact id
  | error e router => exact id

theorem serveLoop_serves (wakes : ℕ → ℕ) : Keeps (fun s : Session => Serves host s₀ s.router)
    (serveLoop (byteLine host fuel) host.toEnv wakes fuel) := by
  unfold serveLoop
  apply Keeps.iterate
  intro n
  refine Triple.bind (onRouter_triple (handleAll_serves _)) fun _ => ?_
  exact Triple.bind (byteLine_read_keeps (dispatch_serves 0)) fun _ => Keeps.pure _

/-- The router with the table that the file gives when it is read for the `n`-th time. -/
def loaded (host : MainHost) (n : ℕ) (s : SrInstance) : SrInstance :=
  (srLoadRt host.inetAton (host.rtable n) (host.fields n) s).2

/-- The router when the program waits to be connected. -/
def waiting (host : MainHost) (opts : Options) (s : SrInstance) : SrInstance :=
  match opts.template with
  | none => loaded host 0 (srInitInstance s)
  | some _ => srInitInstance s

/-- The router when the program starts to serve. -/
def booted (host : MainHost) (opts : Options) (s : SrInstance) : SrInstance :=
  srInit (loaded host 1 (waiting host opts s))

/-- No interfaces, and neither the cache nor the log has been touched. -/
structure Unbooted (s t : SrInstance) : Prop where
  ifList : t.ifList = []
  cache : t.cache = s.cache
  log : t.log = s.log

section Boot

variable {mainHost : MainHost} {opts : Options} {s t : SrInstance}

theorem Unbooted.loaded (h : Unbooted s t) (n : ℕ) : Unbooted s (loaded mainHost n t) := by
  unfold Router.loaded srLoadRt
  cases mainHost.rtable n with
  | none => exact h
  | some stream => exact ⟨h.ifList, h.cache, h.log⟩

theorem waiting_unbooted (mainHost : MainHost) (opts : Options) (s : SrInstance) :
    Unbooted s (waiting mainHost opts s) := by
  have hinit : Unbooted s (srInitInstance s) := ⟨rfl,rfl,rfl⟩
  unfold waiting
  cases opts.template with
  | none => exact hinit.loaded 0
  | some _ => exact hinit

theorem booted_initial (hlog : s.log = Log.empty) : Initial (booted mainHost opts s) := by
  refine ⟨rfl, ?_⟩
  have hload : Unbooted s (loaded mainHost 1 (waiting mainHost opts s)) :=
    (waiting_unbooted mainHost opts s).loaded 1
  exact hload.log.trans hlog

theorem srLoadRtWrap_triple (n : ℕ) :
    Triple (fun t : Session => t.router = s) (srLoadRtWrap (byteLine host fuel) mainHost n)
      (fun _ t => t.router = loaded mainHost n s) fun t => t.router = s := by
  apply @onRouter_triple host fuel Bool (· = s) _ (fun _ t => t = loaded mainHost n s) (· = s)
  apply Triple.ite
  · exact fun _ h => h
  · rintro t rfl
    exact rfl

theorem srLoadFirst_triple : Triple (fun t : Session => t.router = srInitInstance s)
    (srLoadFirst (byteLine host fuel) mainHost opts)
    (fun _ t => t.router = waiting mainHost opts s) fun t => t.router = srInitInstance s := by
  unfold srLoadFirst waiting
  cases opts.template with
  | none => exact srLoadRtWrap_triple 0
  | some _ => exact Triple.pure fun _ h => h

theorem onRouter_modify (f : SrInstance → SrInstance) :
    Triple (fun t : Session => t.router = s) ((byteLine host fuel).onRouter (modify f))
      (fun _ t => t.router = f s) fun _ => False := by
  apply @onRouter_triple host fuel PUnit (· = s) _ (fun _ t => t = f s) fun _ => False
  rintro t rfl
  exact rfl

theorem main_triple (host : ServerHost) (mainHost : MainHost) (opts : Options) (fuel : ℕ)
    (s : SrInstance) : Triple (fun t : Session => t.router = s)
    (main (byteLine host fuel) host.toEnv mainHost opts fuel)
    (fun r t => r = 1 ∧ Unbooted s t.router ∨ r = 0 ∧ Serves host (booted mainHost opts s) t.router)
    (fun t => Unbooted s t.router ∨ Serves host (booted mainHost opts s) t.router) := by
  have hwait := waiting_unbooted mainHost opts s
  have hload : Unbooted s (loaded mainHost 1 (waiting mainHost opts s)) := hwait.loaded 1
  have hends {r : SrInstance} (hr : Unbooted s r) : Triple (fun t : Session => t.router = r)
      (pure 1 : EStateM Fault Session ℤ) (fun r t => r = 1 ∧ Unbooted s t.router ∨
        r = 0 ∧ Serves host (booted mainHost opts s) t.router)
      (fun t => Unbooted s t.router ∨ Serves host (booted mainHost opts s) t.router) :=
    Triple.pure fun t ht => Or.inl ⟨rfl, ht ▸ hr⟩
  unfold main
  refine Triple.bind ((onRouter_modify srInitInstance).conseq (fun _ h => h) (fun _ _ h => h)
    fun _ h => h.elim) fun _ => ?_
  refine Triple.bind (srLoadFirst_triple.conseq (fun _ h => h) (fun _ _ h => h)
    fun t ht => Or.inl (ht ▸ ⟨rfl,rfl,rfl⟩)) fun loads => ?_
  apply Triple.ite (hends hwait)
  apply Triple.ite (hends hwait)
  -- the server cannot reach the router before the session is open
  have hconn : Keeps (fun t : Session => t.router = waiting mainHost opts s)
      (srConnectToServer (byteLine host fuel) mainHost.connect (srNames opts mainHost)) :=
    srConnectToServer_keeps (fun _ h => @byteLine_read_keeps host fuel _ (· = _)
      fun _ => dispatch_keeps h) _ _
  refine Triple.bind (hconn.conseq (fun _ h => h) (fun _ _ h => h)
    fun t ht => Or.inl (ht ▸ hwait)) fun r => ?_
  apply Triple.ite (hends hwait)
  refine Triple.bind ((srLoadRtWrap_triple 1).conseq (fun _ h => h) (fun _ _ h => h)
    fun t ht => Or.inl (ht ▸ hwait)) fun loads => ?_
  apply Triple.ite (hends hload)
  refine Triple.bind ((onRouter_modify srInit).conseq (fun _ h => h) (fun _ _ h => h)
    fun _ h => h.elim) fun _ => ?_
  -- from here on the router serves
  refine Triple.bind ((serveLoop_serves mainHost.wakes).conseq ?_ (fun _ _ h => h)
    fun _ h => Or.inr h) fun _ => Triple.pure fun t ht => Or.inr ⟨rfl,ht⟩
  intro t ht
  rw [ht]
  exact Relation.ReflTransGen.refl

/-- Whatever the server sends, in whatever pieces, and however often the timer thread gets its
turn: if the program ends with 1, the router has not been set up, and if it ends with 0, or fails
in another way than by overrunning an array on the stack, the router is in a run of frames, timer
events and messages about the hardware that starts with the table in the file, an empty cache and
no interfaces. -/
theorem main_serves (host : ServerHost) (mainHost : MainHost) (opts : Options) (fuel : ℕ)
    (s : Session) :
    ((booted mainHost opts s.router).ifList = [] ∧
      (s.router.log = Log.empty → Initial (booted mainHost opts s.router))) ∧
    match main (byteLine host fuel) host.toEnv mainHost opts fuel s with
    | .ok r t => r = 1 ∧ Unbooted s.router t.router ∨
        r = 0 ∧ Serves host (booted mainHost opts s.router) t.router
    | .error e t => e = .overrun ∨ Unbooted s.router t.router ∨
        Serves host (booted mainHost opts s.router) t.router := by
  refine ⟨⟨?_,booted_initial⟩,?_⟩
  · exact ((waiting_unbooted mainHost opts s.router).loaded 1).ifList
  have h := main_triple host mainHost opts fuel s.router s rfl
  revert h
  cases main (byteLine host fuel) host.toEnv mainHost opts fuel s with
  | ok r t => exact id
  | error e t => exact Or.inr

end Boot

end Program

end InternetCourse.Router
