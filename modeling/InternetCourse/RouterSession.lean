import InternetCourse.RouterConfig
import InternetCourse.RouterOpen
import InternetCourse.RouterReader
import InternetCourse.RouterTable

/-! Connecting to the server (`sr_connect_to_server` in sr_vns_comm.c) and the program around it
(sr_main.c, `sr_init` in sr_router.c). Both only know the connection by the calls of
`sr_read_from_server_expect`. -/
namespace InternetCourse.Router

open ByteMem StateTriple TracedState PartialRead PairedRuns

/-- A connection: the call that reads and obeys the next message, and the router it obeys it
with. -/
structure Line (σ : Type) where
  read : UInt32 → EStateM Fault σ ℤ
  onRouter : {α : Type} → RouterM α → EStateM Fault σ α

/-- The host when the connection is made: whether the server's name is known, there is a socket and
the server answers; what the local variables hold, and how many bytes `send` takes. -/
structure ConnectHost where
  resolves : Bool
  socket : Bool
  connects : Bool
  stack : Mem
  sends : List UInt8 → ℤ

section Program

variable {σ : Type} (line : Line σ)

/-- Also yields what has been passed to `send`. -/
def srConnectToServer (host : ConnectHost) (sr : SrNames) :
    EStateM Fault σ (ℤ × Option (List UInt8)) := do
  if !host.resolves then pure (-1, none)
  else if !host.socket then pure (-1, none)
  else if !host.connects then pure (-1, none)
  else
    -- the server speaks first
    let r ← line.read VNS_AUTH_REQUEST
    if r ≠ 1 then pure (-1, none)
    else
      let r ← line.read VNS_AUTH_STATUS
      if r ≠ 1 then pure (-1, none)
      else
        let buf := openingMessage host.stack sr
        if host.sends buf ≠ buf.length then pure (-1, some buf)
        else if 0 < strlen sr.template then
          let r ← line.read VNS_RTABLE
          pure (if r ≠ 1 then -1 else 0, some buf)
        else pure (0, some buf)

/-- The options `main` is called with. -/
structure Options where
  user : Option CName
  host : CName
  template : Option CName
  topo : UInt32
  logfile : Bool

/-- The host `main` runs on. The file with the routing table is read when the program starts, if
no template is asked for, and again when it is connected. -/
structure MainHost where
  connect : ConnectHost
  pwName : Option CName
  inetAton : CName → Option UInt32
  rtable : ℕ → Option (List UInt8)
  fields : ℕ → Fields
  dumpOpens : Bool
  -- how often the timer thread gets its turn before the `n`-th message
  wakes : ℕ → ℕ

def somethingSilly : CName :=
  [115, 111, 109, 101, 116, 104, 105, 110, 103, 95, 115, 105, 108, 108, 121]

def srSetUser (pwName : Option CName) : CName := strncpy (pwName.getD somethingSilly) 32

/-- What is filled in before the connection is made. -/
def srNames (opts : Options) (host : MainHost) : SrNames where
  user := match opts.user with
    | none => srSetUser host.pwName
    | some user => strncpy user 32
  host := strncpy opts.host 32
  template := match opts.template with
    | none => []
    | some template => strncpy template 30
  topoId := opts.topo.toUInt16

/-- The cache is not touched: it holds what the stack did. -/
def srInitInstance (s : SrInstance) : SrInstance := { s with ifList := [], routingTable := [] }

def srInit (s : SrInstance) : SrInstance := { s with cache := srArpcacheInit }

/-- Whether the program goes on; else it ends with `exit(1)`. -/
def srLoadRtWrap (host : MainHost) (n : ℕ) : EStateM Fault σ Bool :=
  line.onRouter do
    if loadOverruns host.inetAton (host.rtable n) (host.fields n) then throw .overrun
    else
      let s ← get
      let r := srLoadRt host.inetAton (host.rtable n) (host.fields n) s
      set r.2
      pure (r.1 == 0)

/-- With a template there is no table before the server has sent one. -/
def srLoadFirst (host : MainHost) (opts : Options) : EStateM Fault σ Bool :=
  match opts.template with
  | none => srLoadRtWrap line host 0
  | some _ => pure true

/-- So many rounds of `sr_arpcache_timeout`. -/
def wakeUps (n : ℕ) : List Event := (List.replicate n [Event.expiry, Event.sweep]).flatten

/-- `while (sr_read_from_server(&sr) == 1);` with the timer thread at work in between. -/
def serveLoop (env : Env) (wakes : ℕ → ℕ) (fuel : ℕ) : EStateM Fault σ Unit :=
  iterate .outOfFuel (fun n => do
    line.onRouter (handleAll env fuel (wakeUps (wakes n)))
    let r ← line.read 0
    pure (if r = 1 then .inl (n+1) else .inr ())) fuel 0

/-- Yields the status the program ends with. -/
def main (env : Env) (host : MainHost) (opts : Options) (fuel : ℕ) : EStateM Fault σ ℤ := do
  line.onRouter (modify srInitInstance)
  let loaded ← srLoadFirst line host opts
  if !loaded then pure 1
  else if opts.logfile && !host.dumpOpens then pure 1
  else
    let r ← srConnectToServer line host.connect (srNames opts host)
    if r.1 = -1 then pure 1
    else
      -- from the same file, whether the server has written it or not
      let loaded ← srLoadRtWrap line host 1
      if !loaded then pure 1
      else
        line.onRouter (modify srInit)
        serveLoop line env host.wakes fuel
        pure 0

end Program

/-- The stream of bytes from the server. -/
def byteLine (host : ServerHost) (fuel : ℕ) : Line Session where
  read expectedCmd := erase (srReadFromServerExpect host fuel expectedCmd)
  onRouter x s := match x s.router with
    | .ok a router => .ok a { s with router := router }
    | .error e router => .error e { s with router := router }

/-- The messages in it. -/
def messageLine (host : ServerHost) (fuel : ℕ) : Line Inbox where
  read := readMessage host fuel
  onRouter x t := match x t.router with
    | .ok a router => .ok a { t with router := router }
    | .error e router => .error e { t with router := router }

/-! A program on a line goes as on any other that is simulated by it. -/

/-- In related states, calls on both lines have the same outcome, and leave related states. -/
structure Line.Simulates {σ τ : Type} (R : σ → τ → Prop) (line : Line σ) (line' : Line τ) :
    Prop where
  read : ∀ expectedCmd s t, R s t →
    SameOutcome R (line.read expectedCmd s) (line'.read expectedCmd t)
  onRouter : ∀ {α : Type} (x : RouterM α) s t, R s t →
    SameOutcome R (line.onRouter x s) (line'.onRouter x t)

section Simulates

variable {σ τ : Type} {R : σ → τ → Prop} {line : Line σ} {line' : Line τ} {s : σ} {t : τ}

theorem srConnectToServer_same (h : line.Simulates R line') (host : ConnectHost) (sr : SrNames)
    (hst : R s t) :
    SameOutcome R (srConnectToServer line host sr s) (srConnectToServer line' host sr t) := by
  unfold srConnectToServer
  apply SameOutcome.ite fun _ => SameOutcome.pure _ hst
  intro _
  apply SameOutcome.ite fun _ => SameOutcome.pure _ hst
  intro _
  apply SameOutcome.ite fun _ => SameOutcome.pure _ hst
  intro _
  refine (h.read VNS_AUTH_REQUEST s t hst).bind (fun _ _ h => h) fun r s₁ t₁ h₁ => ?_
  apply SameOutcome.ite fun _ => SameOutcome.pure _ h₁
  intro _
  refine (h.read VNS_AUTH_STATUS s₁ t₁ h₁).bind (fun _ _ h => h) fun r s₂ t₂ h₂ => ?_
  apply SameOutcome.ite fun _ => SameOutcome.pure _ h₂
  intro _
  apply SameOutcome.ite fun _ => SameOutcome.pure _ h₂
  intro _
  apply SameOutcome.ite
  · intro _
    exact (h.read VNS_RTABLE s₂ t₂ h₂).bind (fun _ _ h => h) fun r s₃ t₃ h₃ =>
      SameOutcome.pure _ h₃
  · exact fun _ => SameOutcome.pure _ h₂

theorem serveLoop_same (h : line.Simulates R line') (env : Env) (wakes : ℕ → ℕ) (fuel : ℕ)
    (hst : R s t) :
    SameOutcome R (serveLoop line env wakes fuel s) (serveLoop line' env wakes fuel t) := by
  apply SameOutcome.iterate (fun n s t hst => ?_) fuel 0 hst
  refine (h.onRouter _ s t hst).bind (fun _ _ h => h) fun _ s₁ t₁ h₁ => ?_
  refine (h.read 0 s₁ t₁ h₁).bind (fun _ _ h => h) fun r s₂ t₂ h₂ => ?_
  exact SameOutcome.pure _ h₂

theorem main_same (h : line.Simulates R line') (env : Env) (host : MainHost) (opts : Options)
    (fuel : ℕ) (hst : R s t) :
    SameOutcome R (main line env host opts fuel s) (main line' env host opts fuel t) := by
  have hload (n : ℕ) (s : σ) (t : τ) (hst : R s t) :
      SameOutcome R (srLoadRtWrap line host n s) (srLoadRtWrap line' host n t) :=
    h.onRouter _ s t hst
  refine (h.onRouter _ s t hst).bind (fun _ _ h => h) fun _ s₁ t₁ h₁ => ?_
  have hfirst : SameOutcome R (srLoadFirst line host opts s₁) (srLoadFirst line' host opts t₁) := by
    unfold srLoadFirst
    cases opts.template with
    | none => exact hload 0 s₁ t₁ h₁
    | some _ => exact SameOutcome.pure _ h₁
  refine hfirst.bind (fun _ _ h => h) fun loaded s₂ t₂ h₂ => ?_
  apply SameOutcome.ite fun _ => SameOutcome.pure _ h₂
  intro _
  apply SameOutcome.ite fun _ => SameOutcome.pure _ h₂
  intro _
  refine (srConnectToServer_same h host.connect _ h₂).bind (fun _ _ h => h) fun r s₃ t₃ h₃ => ?_
  apply SameOutcome.ite fun _ => SameOutcome.pure _ h₃
  intro _
  refine (hload 1 s₃ t₃ h₃).bind (fun _ _ h => h) fun loaded s₄ t₄ h₄ => ?_
  apply SameOutcome.ite fun _ => SameOutcome.pure _ h₄
  intro _
  refine (h.onRouter _ s₄ t₄ h₄).bind (fun _ _ h => h) fun _ s₅ t₅ h₅ => ?_
  exact (serveLoop_same h env host.wakes fuel h₅).bind (fun _ _ h => h) fun _ s₆ t₆ h₆ =>
    SameOutcome.pure _ h₆

end Simulates

end InternetCourse.Router
