import InternetCourse.RouterSession

/-! Connecting, by the stream of bytes and by the messages in it. -/
namespace InternetCourse.Router

open ByteMem StateTriple TracedState PartialRead PairedRuns

/-! The stream of bytes goes as the messages in it. -/
section Stream

variable {host : ServerHost} {fuel : ℕ}

/-- With nothing to come, a call waits for ever; what it waits with is as before. -/
theorem srReadFromServerExpect_waits (hf : Fair host.schedule) {s : Session}
    (h : RunDry s.conn.source) (expectedCmd : UInt32) : ∃ source, RunDry source ∧
      erase (srReadFromServerExpect host fuel expectedCmd) s =
        .error .outOfFuel ⟨⟨source, s.conn.handled⟩, s.router⟩ := by
  have hspin := @fill_runsOut Fault Use UInt8 Mem Fault.outOfFuel host.schedule (fun _ => [])
    (fun b l m => memcpy m (0+b) (load l fun _ => 0) l.length) fuel hf 4 (fun _ => 0)
    s.conn.source h.2 (by rw [h.1]; decide)
  have hkeep := @fill_waits Fault Use UInt8 Mem Fault.outOfFuel host.schedule (fun _ => [])
    (fun b l m => memcpy m (0+b) (load l fun _ => 0) l.length) fuel hf 4 (fun _ => 0)
  cases hx : erase (fill Fault.outOfFuel host.schedule (fun _ => ([] : List Use))
      (fun b l m => memcpy m (0+b) (load l fun _ => 0) l.length) fuel 4 (fun _ => 0))
      s.conn.source with
  | ok a source =>
    rw [hx] at hspin
    exact hspin.elim
  | error e source =>
    rw [hx] at hspin
    obtain rfl : e = .outOfFuel := hspin
    refine ⟨source, hkeep.error h hx, ?_⟩
    -- the length word is what it waits for
    have hlength : erase (readLength host fuel) s.conn =
        .error .outOfFuel ⟨source, s.conn.handled⟩ := by
      rw [readLength, readBytes, onSource, erase_zoom, hx]
    rw [srReadFromServerExpect, erase_bind, bind_apply, erase_zoom, readCommand, erase_bind,
      bind_apply, hlength]

/-- A relation that holds at the start, and that every call keeps: the stream is at the head of a
message, or has run dry. The fuel it takes does not depend on the router. -/
theorem reader_simulates (hf : Fair host.schedule) {msgs : List (List UInt8)}
    (hm : ∀ m ∈ msgs, WellFramed m) {conn : Connection} (hc : conn.source.closed = false)
    (hs : conn.source.unread = msgs.flatten) : ∃ R : Session → Inbox → Prop,
      (∀ router, R ⟨conn,router⟩ ⟨msgs, conn.handled, router⟩) ∧
      (∀ s t, R s t → Carries [] s t) ∧
      (∀ s t router, R s t → R { s with router := router } { t with router := router }) ∧
      ∃ n, ∀ fuel, n ≤ fuel → ∀ expectedCmd s t, R s t →
        SameOutcome R (erase (srReadFromServerExpect host fuel expectedCmd) s)
          (readMessage host fuel expectedCmd t) := by
  induction msgs generalizing conn with
  | nil =>
    refine ⟨fun s t => Carries [] s t ∧ t.messages = [], ?_, fun _ _ h => h.1, ?_, 0, ?_⟩
    · exact fun router => ⟨⟨by rw [hs]; rfl, rfl, rfl, hc⟩, rfl⟩
    · exact fun s t router h => ⟨⟨h.1.unread, h.1.handled, rfl, h.1.isOpen⟩, h.2⟩
    · rintro fuel - expectedCmd s t ⟨hst,ht⟩
      have hdry : RunDry s.conn.source := by
        refine ⟨?_, hst.isOpen⟩
        rw [hst.unread, ht]
        rfl
      obtain ⟨source,hdry',hx⟩ := @srReadFromServerExpect_waits host fuel hf s hdry expectedCmd
      rw [hx, readMessage, ht]
      refine ⟨rfl, ⟨?_, hst.handled, hst.router, hdry'.2⟩, ht⟩
      rw [ht]
      exact hdry'.1
  | cons m msgs ih =>
    rw [List.flatten_cons] at hs
    obtain ⟨c,n,hcall⟩ := srReadFromServerExpect_reads hf (hm m List.mem_cons_self).announced hc hs
    have hrest : ∀ m' ∈ msgs, WellFramed m' := fun m' hm' => hm m' (List.mem_cons_of_mem m hm')
    obtain ⟨R,hstart,hcarry,hrouter,n',hkeep⟩ :=
      @ih hrest ⟨⟨msgs.flatten, c, false⟩, conn.handled+1⟩ rfl rfl
    -- at the first message, or somewhere behind it
    refine ⟨fun s t => (s.conn = conn ∧ t = ⟨m :: msgs, conn.handled, s.router⟩) ∨ R s t,
      fun router => Or.inl ⟨rfl,rfl⟩, ?_, ?_, max n n', ?_⟩
    · rintro ⟨conn₁,router⟩ t (⟨rfl,rfl⟩ | h)
      · refine ⟨?_, rfl, rfl, hc⟩
        rw [hs, List.flatten_cons, List.append_nil]
      · exact hcarry _ t h
    · rintro ⟨conn₁,router₁⟩ t router (⟨rfl,rfl⟩ | h)
      · exact Or.inl ⟨rfl,rfl⟩
      · exact Or.inr (hrouter _ t router h)
    · rintro fuel hfuel expectedCmd ⟨conn₁,router⟩ t (⟨rfl,rfl⟩ | h)
      · rw [hcall fuel (by omega) router expectedCmd, readMessage]
        dsimp only
        cases erase (dispatch host fuel expectedCmd (commandOf host conn₁.handled m)) router with
        | ok r router' => exact ⟨rfl, Or.inr (hstart router')⟩
        | error e router' => exact ⟨rfl, Or.inr (hstart router')⟩
      · have hsame := hkeep fuel (by omega) expectedCmd _ t h
        revert hsame
        cases erase (srReadFromServerExpect host fuel expectedCmd) ⟨conn₁,router⟩ <;>
          cases readMessage host fuel expectedCmd t
        · exact fun h => ⟨h.1, Or.inr h.2⟩
        · exact id
        · exact id
        · exact fun h => ⟨h.1, Or.inr h.2⟩

/-- With that much fuel, the calls on the stream go as those on the messages in it. -/
theorem byteLine_simulates (hf : Fair host.schedule) {msgs : List (List UInt8)}
    (hm : ∀ m ∈ msgs, WellFramed m) {s : Session} (hc : s.conn.source.closed = false)
    (hs : s.conn.source.unread = msgs.flatten) : ∃ R : Session → Inbox → Prop,
      R s ⟨msgs, s.conn.handled, s.router⟩ ∧ (∀ s t, R s t → Carries [] s t) ∧
      ∃ n, ∀ fuel, n ≤ fuel → (byteLine host fuel).Simulates R (messageLine host fuel) := by
  obtain ⟨R,hstart,hcarry,hrouter,n,hn⟩ := reader_simulates hf hm hc hs
  refine ⟨R, hstart s.router, hcarry, n, fun fuel hfuel => ⟨hn fuel hfuel, ?_⟩⟩
  intro α x s t hst
  have hr := (hcarry s t hst).router
  simp only [byteLine, messageLine, hr]
  cases x t.router with
  | ok a router => exact ⟨rfl, hrouter s t router hst⟩
  | error e router => exact ⟨rfl, hrouter s t router hst⟩

end Stream

/-! Connecting. -/

/-- The commands that are waited for before the session is open. -/
def Preliminary (command : UInt32) : Prop :=
  command = VNS_AUTH_REQUEST ∨ command = VNS_AUTH_STATUS ∨ command = VNS_RTABLE

/-- The message is the one that is waited for, and it is obeyed. -/
structure Complies (host : ServerHost) (expectedCmd : UInt32) (c : Command) : Prop where
  expected : c.command = expectedCmd
  request : expectedCmd = VNS_AUTH_REQUEST → host.authKey c.number ∧ host.authReply c.number
  status : expectedCmd = VNS_AUTH_STATUS → c.buf 8 ≠ 0
  rtable : expectedCmd = VNS_RTABLE → NameFits c.buf ∧ host.rtableOpens c.number

section Connect

variable {host : ServerHost} {fuel : ℕ} {c : Command} {expectedCmd : UInt32}

theorem readString_keeps {J : SrInstance → Prop} (buf : Mem) (off : ℕ) :
    Keeps J (erase (readString fuel buf off)) := by
  rw [readString, erase_loop]
  apply Keeps.iterate
  intro i
  exact erase_bind_keeps (Keeps.pure ()) fun _ => Keeps.pure _

theorem srHandleRtable_keeps {J : SrInstance → Prop} (n : ℕ) (buf : Mem) :
    Keeps J (erase (srHandleRtable host fuel n buf)) := by
  have hname : Keeps J (erase (copyName fuel buf)) := by
    apply erase_bind_keeps (readString_keeps buf 8)
    exact fun _ => erase_ite_keeps (Keeps.pure _) (Keeps.throw _)
  apply erase_bind_keeps hname
  intro _
  apply erase_ite_keeps
  · exact erase_bind_keeps (Keeps.pure ()) fun _ => Keeps.pure _
  · exact Keeps.pure _

theorem srHandleAuthRequest_keeps {J : SrInstance → Prop} (n : ℕ) (buf : Mem) :
    Keeps J (erase (srHandleAuthRequest host n buf)) := by
  apply erase_ite_keeps
  · exact erase_bind_keeps (Keeps.pure ()) fun _ => Keeps.pure _
  · exact Keeps.pure _

theorem srHandleAuthStatus_keeps {J : SrInstance → Prop} (buf : Mem) :
    Keeps J (erase (srHandleAuthStatus fuel buf)) := by
  apply erase_bind_keeps (Keeps.pure ())
  intro _
  apply erase_ite_keeps
  · exact Keeps.pure _
  · apply erase_bind_keeps (readString_keeps buf 9)
    intro _
    exact erase_bind_keeps (Keeps.pure ()) fun _ => Keeps.pure _

theorem obey_authRequest (hc : c.command = VNS_AUTH_REQUEST) :
    obey host fuel c = (do
      let r ← srHandleAuthRequest host c.number c.buf
      pure (if r = 0 then -1 else 1)) := by
  rw [obey, hc]
  rfl

/-- The commands about the session itself have nothing to do with the router. -/
theorem obey_keeps {J : SrInstance → Prop} (hc : c.command = VNSCLOSE ∨ Preliminary c.command) :
    Keeps J (erase (obey host fuel c)) := by
  rcases hc with hc | hc | hc | hc
  · obtain ⟨r,hr⟩ := @obey_text host c (Or.inl hc)
    rw [hr]
    exact erase_bind_keeps (readString_keeps _ _) fun _ => Keeps.pure _
  · rw [obey_authRequest hc]
    exact erase_bind_keeps (srHandleAuthRequest_keeps _ _) fun _ => Keeps.pure _
  · rw [obey_authStatus hc]
    exact erase_bind_keeps (srHandleAuthStatus_keeps _) fun _ => Keeps.pure _
  · rw [obey_rtable hc]
    exact erase_bind_keeps (srHandleRtable_keeps _ _) fun _ => Keeps.pure _

theorem Preliminary.ne_zero (h : Preliminary expectedCmd) : expectedCmd ≠ 0 := by
  rcases h with rfl | rfl | rfl <;> decide

/-- Anything else is refused before it is looked at. -/
theorem dispatch_keeps {J : SrInstance → Prop} (h : Preliminary expectedCmd) :
    Keeps J (erase (dispatch host fuel expectedCmd c)) := by
  unfold dispatch
  by_cases hx : Unexpected expectedCmd c.command
  · rw [if_pos hx]
    exact Keeps.pure _
  · rw [if_neg hx]
    apply obey_keeps
    by_cases he : c.command = expectedCmd
    · exact Or.inr (he ▸ h)
    · refine Or.inl ?_
      by_contra hclose
      exact hx ⟨h.ne_zero, he, hclose⟩

/-- A call leaves the router alone, or does with it what becomes of one command. -/
theorem reader_router (host : ServerHost) (fuel : ℕ) (expectedCmd : UInt32) (s : Session) :
    (finalState (erase (srReadFromServerExpect host fuel expectedCmd) s)).router = s.router ∨
    ∃ c, (finalState (erase (srReadFromServerExpect host fuel expectedCmd) s)).router =
      finalState (erase (dispatch host fuel expectedCmd c) s.router) := by
  rw [srReadFromServerExpect, erase_bind, bind_apply, erase_zoom]
  cases erase (readCommand host fuel) s.conn with
  | error e conn => exact Or.inl rfl
  | ok o conn =>
    cases o with
    | none => exact Or.inl rfl
    | some c =>
      refine Or.inr ⟨c, ?_⟩
      dsimp only
      rw [erase_zoom]
      dsimp only
      cases erase (dispatch host fuel expectedCmd c) s.router with
      | ok r router => rfl
      | error e router => rfl

/-- A call keeps what is kept of the router, whatever the command is. -/
theorem byteLine_read_keeps {J : SrInstance → Prop}
    (h : ∀ c, Keeps J (erase (dispatch host fuel expectedCmd c))) :
    Keeps (fun s : Session => J s.router) ((byteLine host fuel).read expectedCmd) := by
  apply Keeps.of_finalState
  intro s hs
  rcases reader_router host fuel expectedCmd s with hr | ⟨c,hr⟩
  · rw [byteLine, hr]
    exact hs
  · rw [byteLine, hr]
    exact (h c).finalState hs

theorem srConnectToServer_keeps {σ : Type} {line : Line σ} {J : σ → Prop}
    (h : ∀ expectedCmd, Preliminary expectedCmd → Keeps J (line.read expectedCmd))
    (net : ConnectHost) (sr : SrNames) : Keeps J (srConnectToServer line net sr) := by
  unfold srConnectToServer
  apply Keeps.ite (Keeps.pure _)
  apply Keeps.ite (Keeps.pure _)
  apply Keeps.ite (Keeps.pure _)
  refine Triple.bind (h _ (Or.inl rfl)) fun r => ?_
  apply Keeps.ite (Keeps.pure _)
  refine Triple.bind (h _ (Or.inr (Or.inl rfl))) fun r => ?_
  apply Keeps.ite (Keeps.pure _)
  apply Keeps.ite (Keeps.pure _)
  apply Keeps.ite
  · exact Triple.bind (h _ (Or.inr (Or.inr rfl))) fun r => Keeps.pure _
  · exact Keeps.pure _

theorem copyName_triple (buf : Mem) :
    Triple (fun _ => True) (erase (copyName fuel buf)) (fun _ (_ : SrInstance) => NameFits buf)
      fun _ => True := by
  rw [copyName, erase_bind]
  refine Triple.bind Triple.trivial fun _ => ?_
  rw [erase_ite]
  by_cases hfit : NameFits buf
  · rw [if_pos hfit]
    exact Triple.pure fun _ _ => hfit
  · rw [if_neg hfit]
    exact fun _ _ => trivial

theorem srHandleAuthRequest_triple (n : ℕ) (buf : Mem) :
    Triple (fun _ => True) (erase (srHandleAuthRequest host n buf))
      (fun r (_ : SrInstance) => r ≠ 0 → host.authKey n ∧ host.authReply n) fun _ => True := by
  intro s _
  simp only [srHandleAuthRequest, erase_ite, erase_bind, erase_note, erase_pure, pure_bind]
  by_cases hk : host.authKey n = true
  · rw [if_pos hk]
    intro hr
    refine ⟨hk, ?_⟩
    by_contra hno
    exact hr (if_neg hno)
  · rw [if_neg hk]
    exact fun hr => absurd rfl hr

theorem srHandleAuthStatus_triple (buf : Mem) :
    Triple (fun _ => True) (erase (srHandleAuthStatus fuel buf))
      (fun r (_ : SrInstance) => r ≠ 0 → buf 8 ≠ 0) fun _ => True := by
  by_cases h8 : buf 8 = 0
  · rw [srHandleAuthStatus, erase_bind, erase_note, pure_bind, erase_ite, if_neg (not_not.mpr h8),
      erase_bind]
    refine Triple.bind Triple.trivial fun _ => ?_
    rw [erase_bind, erase_note, pure_bind, erase_pure, h8]
    exact Triple.pure fun _ _ hr => absurd rfl hr
  · exact (Triple.trivial (x := erase (srHandleAuthStatus fuel buf))).conseq (fun _ _ => trivial)
      (fun _ _ _ _ => h8) fun _ h => h

theorem srHandleRtable_triple (n : ℕ) (buf : Mem) :
    Triple (fun _ => True) (erase (srHandleRtable host fuel n buf))
      (fun r (_ : SrInstance) => r ≠ 0 → NameFits buf ∧ host.rtableOpens n) fun _ => True := by
  rw [srHandleRtable, erase_bind]
  refine Triple.bind (copyName_triple buf) fun _ => ?_
  rw [erase_ite, erase_bind, erase_note, pure_bind, erase_pure]
  by_cases ho : host.rtableOpens n = true
  · rw [if_pos ho]
    exact Triple.pure fun _ hfit _ => ⟨hfit,ho⟩
  · rw [if_neg ho]
    exact Triple.pure fun _ _ hr => absurd rfl hr

/-- What comes of a handler that has failed or not. -/
theorem answer_triple {x : UseM ℤ} {p : Prop}
    (h : Triple (fun _ => True) (erase x) (fun r (_ : SrInstance) => r ≠ 0 → p) fun _ => True) :
    Triple (fun _ => True) (erase (do
      let r ← x
      pure (if r = 0 then -1 else 1)))
      (fun (r : ℤ) (_ : SrInstance) => r = 1 → p) fun _ => True := by
  rw [erase_bind]
  refine Triple.bind h fun r => Triple.pure fun s hr h1 => ?_
  by_cases h0 : r = 0
  · rw [if_pos h0] at h1
    exact absurd h1 (by decide)
  · exact hr h0

/-- A call that waits for a command returns 1 only for a message that complies. -/
theorem dispatch_triple (h : Preliminary expectedCmd) :
    Triple (fun _ => True) (erase (dispatch host fuel expectedCmd c))
      (fun r (_ : SrInstance) => r = 1 → Complies host expectedCmd c) fun _ => True := by
  unfold dispatch
  by_cases hu : Unexpected expectedCmd c.command
  · rw [if_pos hu]
    exact Triple.pure fun _ _ h1 => absurd h1 (by decide)
  rw [if_neg hu]
  by_cases he : c.command = expectedCmd
  · rcases h with rfl | rfl | rfl
    · rw [obey_authRequest he]
      exact (answer_triple (srHandleAuthRequest_triple _ _)).conseq (fun _ h => h)
        (fun _ _ hr h1 => ⟨he, fun _ => hr h1, fun h => absurd h (by decide),
          fun h => absurd h (by decide)⟩) fun _ h => h
    · rw [obey_authStatus he]
      exact (answer_triple (srHandleAuthStatus_triple _)).conseq (fun _ h => h)
        (fun _ _ hr h1 => ⟨he, fun h => absurd h (by decide), fun _ => hr h1,
          fun h => absurd h (by decide)⟩) fun _ h => h
    · rw [obey_rtable he]
      exact (answer_triple (srHandleRtable_triple _ _)).conseq (fun _ h => h)
        (fun _ _ hr h1 => ⟨he, fun h => absurd h (by decide), fun h => absurd h (by decide),
          fun _ => hr h1⟩) fun _ h => h
  · -- the server hangs up, and the call returns 0
    have hclose : c.command = VNSCLOSE := by
      by_contra hclose
      exact hu ⟨h.ne_zero, he, hclose⟩
    have h0 : obey host fuel c = (do readString fuel c.buf 8; pure 0) := by
      rw [obey, hclose]
      rfl
    rw [h0, erase_bind]
    exact Triple.bind Triple.trivial fun _ => Triple.pure fun _ _ h1 => absurd h1 (by decide)

/-- For a message that complies it does return 1, if there is fuel for the name in it. -/
theorem Complies.settles (h : Preliminary expectedCmd) (hc : Complies host expectedCmd c)
    (s : SrInstance) : Settles (fun fuel => erase (dispatch host fuel expectedCmd c)) s 1 s := by
  have hu : ¬Unexpected expectedCmd c.command := fun hu => hu.2.1 hc.expected
  simp only [dispatch, if_neg hu]
  rcases h with rfl | rfl | rfl
  · refine Settles.of_eq fun fuel => ?_
    obtain ⟨hk,hr⟩ := hc.request rfl
    rw [obey_authRequest hc.expected]
    simp only [srHandleAuthRequest, erase_bind, erase_note, erase_pure, pure_bind, hk, hr, if_true]
    rfl
  · refine Settles.of_eq fun fuel => ?_
    have h8 := hc.status rfl
    have hne : ((c.buf 8).toNat : ℤ) ≠ 0 := by
      intro h0
      exact h8 (UInt8.toNat.inj (Int.ofNat.inj h0))
    rw [obey_authStatus hc.expected]
    simp only [srHandleAuthStatus, if_pos h8, erase_bind, erase_note, erase_pure, pure_bind,
      if_neg hne]
    rfl
  · obtain ⟨hfit,ho⟩ := hc.rtable rfl
    refine ⟨IDSIZE+1, fun fuel hfuel => ?_⟩
    have hname : erase (copyName fuel c.buf) s = .ok () s := copyName_returns hfit hfuel
    dsimp only
    rw [obey_rtable hc.expected, erase_bind, bind_apply, srHandleRtable, erase_bind, bind_apply,
      hname]
    simp only [erase_bind, erase_note, erase_pure, pure_bind, ho, if_true]
    rfl

variable {net : ConnectHost} {sr : SrNames} {msgs : List (List UInt8)} {k : ℕ} {router : SrInstance}

/-- There is a next message, and it is the one that is waited for. -/
def NextComplies (host : ServerHost) (expectedCmd : UInt32) (k : ℕ) (msgs : List (List UInt8)) :
    Prop :=
  ∃ m ∈ msgs.head?, Complies host expectedCmd (commandOf host k m)

theorem readMessage_preliminary (h : Preliminary expectedCmd) {r : ℤ} {t : Inbox}
    (hx : readMessage host fuel expectedCmd ⟨msgs,k,router⟩ = .ok r t) :
    t = ⟨msgs.tail, k+1, router⟩ ∧ (r = 1 → NextComplies host expectedCmd k msgs) := by
  cases msgs with
  | nil => simp [readMessage] at hx
  | cons m msgs =>
    rw [readMessage] at hx
    dsimp only at hx
    cases hd : erase (dispatch host fuel expectedCmd (commandOf host k m)) router with
    | error e u => simp [hd] at hx
    | ok r' u =>
      rw [hd] at hx
      obtain ⟨rfl,rfl⟩ := EStateM.Result.ok.inj hx
      obtain rfl : u = router := (@dispatch_keeps host fuel _ _ (· = router) h).ok rfl hd
      exact ⟨rfl, fun h1 => ⟨m, rfl, (dispatch_triple h).ok trivial hd h1⟩⟩

theorem NextComplies.readMessage (h : Preliminary expectedCmd)
    (hc : NextComplies host expectedCmd k msgs) (router : SrInstance) :
    Settles (fun fuel => Router.readMessage host fuel expectedCmd) ⟨msgs,k,router⟩ 1
      ⟨msgs.tail, k+1, router⟩ := by
  obtain ⟨m,hm,hc⟩ := hc
  obtain ⟨rest,rfl⟩ : ∃ rest, msgs = m :: rest := List.head?_eq_some_iff.mp hm
  obtain ⟨n,hn⟩ := hc.settles h router
  refine ⟨n, fun fuel hfuel => ?_⟩
  have hd : erase (dispatch host fuel expectedCmd (commandOf host k m)) router = .ok 1 router :=
    hn fuel hfuel
  dsimp only [Router.readMessage]
  rw [hd]
  rfl

/-- The server is there, asks for the key and is content with the answer, takes the opening
message whole, and sends a table if one has been asked for. -/
structure Admitted (host : ServerHost) (net : ConnectHost) (sr : SrNames) (k : ℕ)
    (msgs : List (List UInt8)) : Prop where
  reached : net.resolves = true ∧ net.socket = true ∧ net.connects = true
  request : NextComplies host VNS_AUTH_REQUEST k msgs
  status : NextComplies host VNS_AUTH_STATUS (k+1) msgs.tail
  sends : net.sends (openingMessage net.stack sr) = (openingMessage net.stack sr).length
  table : 0 < strlen sr.template → NextComplies host VNS_RTABLE (k+2) msgs.tail.tail

/-- What is left in the inbox of an open session. -/
def openInbox (sr : SrNames) (t : Inbox) : Inbox :=
  if 0 < strlen sr.template then ⟨t.messages.tail.tail.tail, t.handled+3, t.router⟩
  else ⟨t.messages.tail.tail, t.handled+2, t.router⟩

/-- Where it has not failed, it has passed the test. -/
theorem passes_of_ok {σ : Type} {p : Prop} [Decidable p]
    {x : EStateM Fault σ (ℤ × Option (List UInt8))} {o o' : Option (List UInt8)} {s t : σ}
    (h : (if p then pure (-1, o) else x) s = .ok (0, o') t) : ¬p ∧ x s = .ok (0, o') t := by
  by_cases hp : p
  · rw [if_pos hp] at h
    exact absurd (Prod.mk.inj (EStateM.Result.ok.inj h).1).1 (by decide)
  · rw [if_neg hp] at h
    exact ⟨hp,h⟩

theorem connect_admits {sent : Option (List UInt8)} {t : Inbox}
    (hx : srConnectToServer (messageLine host fuel) net sr ⟨msgs,k,router⟩ = .ok (0, sent) t) :
    Admitted host net sr k msgs ∧ sent = some (openingMessage net.stack sr) ∧
      t = openInbox sr ⟨msgs,k,router⟩ := by
  unfold srConnectToServer at hx
  obtain ⟨hres,hx⟩ := passes_of_ok hx
  obtain ⟨hsock,hx⟩ := passes_of_ok hx
  obtain ⟨hconn,hx⟩ := passes_of_ok hx
  obtain ⟨r₁,u,hr,hx⟩ := bind_eq_ok hx
  obtain ⟨rfl,hrequest⟩ := readMessage_preliminary (Or.inl rfl) hr
  obtain ⟨h1,hx⟩ := passes_of_ok hx
  obtain ⟨r₂,u,hr,hx⟩ := bind_eq_ok hx
  obtain ⟨rfl,hstatus⟩ := readMessage_preliminary (Or.inr (Or.inl rfl)) hr
  obtain ⟨h2,hx⟩ := passes_of_ok hx
  obtain ⟨hsends,hx⟩ := passes_of_ok hx
  have hadm (htable : 0 < strlen sr.template →
      NextComplies host VNS_RTABLE (k+2) msgs.tail.tail) : Admitted host net sr k msgs :=
    ⟨⟨by simpa using hres, by simpa using hsock, by simpa using hconn⟩,
      hrequest (not_not.mp h1), hstatus (not_not.mp h2), not_not.mp hsends, htable⟩
  unfold openInbox
  by_cases ht : 0 < strlen sr.template
  · rw [if_pos ht] at hx ⊢
    obtain ⟨r₃,u,hr,hx⟩ := bind_eq_ok hx
    obtain ⟨rfl,htable⟩ := readMessage_preliminary (Or.inr (Or.inr rfl)) hr
    obtain ⟨hret,rfl⟩ := EStateM.Result.ok.inj hx
    by_cases h3 : r₃ = 1
    · exact ⟨hadm fun _ => htable h3, (Prod.mk.inj hret).2.symm, rfl⟩
    · rw [if_pos h3] at hret
      exact absurd (Prod.mk.inj hret).1 (by decide)
  · rw [if_neg ht] at hx ⊢
    obtain ⟨hret,rfl⟩ := EStateM.Result.ok.inj hx
    exact ⟨hadm fun h => absurd h ht, (Prod.mk.inj hret).2.symm, rfl⟩

theorem Admitted.connects (h : Admitted host net sr k msgs) (router : SrInstance) :
    Settles (fun fuel => srConnectToServer (messageLine host fuel) net sr) ⟨msgs,k,router⟩
      (0, some (openingMessage net.stack sr)) (openInbox sr ⟨msgs,k,router⟩) := by
  obtain ⟨hres,hsock,hconn⟩ := h.reached
  simp only [srConnectToServer, hres, hsock, hconn, Bool.not_true, Bool.false_eq_true, if_false]
  apply (h.request.readMessage (Or.inl rfl) router).bind
  simp only [ne_eq, not_true_eq_false, if_false]
  apply (h.status.readMessage (Or.inr (Or.inl rfl)) router).bind
  simp only [not_true_eq_false, if_false, h.sends]
  unfold openInbox
  by_cases ht : 0 < strlen sr.template
  · simp only [if_pos ht]
    apply ((h.table ht).readMessage (Or.inr (Or.inr rfl)) router).bind
    exact Settles.of_eq fun _ => rfl
  · simp only [if_neg ht]
    exact Settles.of_eq fun _ => rfl

/-- A write past the end of an array on the stack has been the end of the run: what the program's
memory holds then is not known. -/
def Overruns {σ α : Type} (r : EStateM.Result Fault σ α) : Prop := RunsOut .overrun r

theorem readCommand_overruns : NeverRunsOut .overrun (erase (readCommand host fuel)) := by
  have hbytes (mark : ℕ → List Use) (dst : Mem) (base limit : ℕ) :
      NeverRunsOut .overrun (erase (readBytes host fuel mark dst base limit)) :=
    erase_zoom_neverRunsOut (fill_neverRunsOut Fault.noConfusion limit dst)
  have hclose : NeverRunsOut .overrun (erase closeSocket) :=
    erase_zoom_neverRunsOut (NeverRunsOut.modify _ _)
  rw [readCommand, erase_bind]
  refine NeverRunsOut.bind (hbytes _ _ _ _) fun word => ?_
  cases word with
  | none => exact NeverRunsOut.pure _ _
  | some word =>
    dsimp only
    rw [erase_ite, erase_bind]
    apply NeverRunsOut.ite
    · exact NeverRunsOut.bind hclose fun _ => NeverRunsOut.pure _ _
    · rw [readBody, erase_bind]
      refine NeverRunsOut.bind (fun _ h => h) fun x => ?_
      rw [erase_bind]
      refine NeverRunsOut.bind (NeverRunsOut.pure _ _) fun _ => ?_
      rw [erase_bind]
      refine NeverRunsOut.bind (hbytes _ _ _ _) fun r => ?_
      cases r with
      | none =>
        rw [takeCommand, erase_bind]
        exact NeverRunsOut.bind hclose fun _ => NeverRunsOut.pure _ _
      | some buf =>
        rw [takeCommand, erase_bind]
        exact NeverRunsOut.bind (NeverRunsOut.pure _ _) fun _ => NeverRunsOut.pure _ _

theorem readString_overruns (buf : Mem) (off : ℕ) :
    NeverRunsOut .overrun (erase (readString fuel buf off) : RouterM Unit) := by
  rw [readString, erase_loop]
  refine NeverRunsOut.iterate Fault.noConfusion (fun i => ?_) fuel off
  rw [erase_bind]
  exact NeverRunsOut.bind (NeverRunsOut.pure _ _) fun _ => NeverRunsOut.pure _ _

/-- Only a routing table can have a name that is too long. -/
theorem dispatch_overruns (h : expectedCmd = VNS_AUTH_REQUEST ∨ expectedCmd = VNS_AUTH_STATUS) :
    NeverRunsOut .overrun (erase (dispatch host fuel expectedCmd c)) := by
  have hne : expectedCmd ≠ 0 := by
    rcases h with rfl | rfl <;> decide
  unfold dispatch
  by_cases hu : Unexpected expectedCmd c.command
  · rw [if_pos hu]
    exact NeverRunsOut.pure _ _
  rw [if_neg hu]
  by_cases he : c.command = expectedCmd
  · rcases h with rfl | rfl
    · rw [obey_authRequest he, erase_bind, srHandleAuthRequest, erase_ite, erase_bind]
      refine NeverRunsOut.bind (NeverRunsOut.ite ?_ (NeverRunsOut.pure _ _)) fun _ =>
        NeverRunsOut.pure _ _
      exact NeverRunsOut.bind (NeverRunsOut.pure _ _) fun _ => NeverRunsOut.pure _ _
    · rw [obey_authStatus he, erase_bind, srHandleAuthStatus, erase_bind]
      refine NeverRunsOut.bind ?_ fun _ => NeverRunsOut.pure _ _
      refine NeverRunsOut.bind (NeverRunsOut.pure _ _) fun _ => ?_
      rw [erase_ite, erase_bind]
      apply NeverRunsOut.ite (NeverRunsOut.pure _ _)
      refine NeverRunsOut.bind (readString_overruns _ _) fun _ => ?_
      rw [erase_bind]
      exact NeverRunsOut.bind (NeverRunsOut.pure _ _) fun _ => NeverRunsOut.pure _ _
  · have hclose : c.command = VNSCLOSE := by
      by_contra hclose
      exact hu ⟨hne, he, hclose⟩
    obtain ⟨r,hr⟩ := @obey_text host c (Or.inl hclose)
    rw [hr, erase_bind]
    exact NeverRunsOut.bind (readString_overruns _ _) fun _ => NeverRunsOut.pure _ _

/-- Without a template no table is waited for, and nothing is overrun. -/
theorem connect_overruns (ht : ¬0 < strlen sr.template) :
    NeverRunsOut .overrun (srConnectToServer (byteLine host fuel) net sr) := by
  have hread {expectedCmd : UInt32}
      (h : expectedCmd = VNS_AUTH_REQUEST ∨ expectedCmd = VNS_AUTH_STATUS) :
      NeverRunsOut .overrun ((byteLine host fuel).read expectedCmd) := by
    dsimp only [byteLine]
    rw [srReadFromServerExpect, erase_bind]
    refine NeverRunsOut.bind (erase_zoom_neverRunsOut readCommand_overruns) fun o => ?_
    cases o with
    | none => exact NeverRunsOut.pure _ _
    | some c => exact erase_zoom_neverRunsOut (dispatch_overruns h)
  unfold srConnectToServer
  apply NeverRunsOut.ite (NeverRunsOut.pure _ _)
  apply NeverRunsOut.ite (NeverRunsOut.pure _ _)
  apply NeverRunsOut.ite (NeverRunsOut.pure _ _)
  refine NeverRunsOut.bind (hread (Or.inl rfl)) fun r => ?_
  apply NeverRunsOut.ite (NeverRunsOut.pure _ _)
  refine NeverRunsOut.bind (hread (Or.inr rfl)) fun r => ?_
  apply NeverRunsOut.ite (NeverRunsOut.pure _ _)
  apply NeverRunsOut.ite (NeverRunsOut.pure _ _)
  rw [if_neg ht]
  exact NeverRunsOut.pure _ _

/-- Whatever the server sends before the session is open, the router is left as it is: its cache
has not been set up yet. A name that is too long for the array it is copied into can undo that, but
only where a template has been asked for. -/
theorem connect_leaves_router (host : ServerHost) (fuel : ℕ) (net : ConnectHost) (sr : SrNames)
    (s : Session) :
    (Overruns (srConnectToServer (byteLine host fuel) net sr s) → 0 < strlen sr.template) ∧
    (¬Overruns (srConnectToServer (byteLine host fuel) net sr s) →
      (finalState (srConnectToServer (byteLine host fuel) net sr s)).router = s.router) := by
  have hkeeps : Keeps (fun t : Session => t.router = s.router)
      (srConnectToServer (byteLine host fuel) net sr) :=
    srConnectToServer_keeps (fun _ h => @byteLine_read_keeps host fuel _ (· = s.router)
      fun _ => dispatch_keeps h) net sr
  constructor
  · intro hover
    by_contra ht
    exact connect_overruns ht s hover
  · exact fun _ => hkeeps.finalState rfl

/-- However the stream is delivered, the session is opened if and only if the first messages are
those of the handshake, in order, and none is refused; then the opening message has been sent whole,
and the messages of the handshake have been read off the stream, and nothing else. -/
theorem connect_succeeds_iff (hf : Fair host.schedule) (hm : ∀ m ∈ msgs, WellFramed m) {s : Session}
    (hc : s.conn.source.closed = false) (hs : s.conn.source.unread = msgs.flatten)
    (net : ConnectHost) (sr : SrNames) : ∃ n, ∀ fuel, n ≤ fuel →
      ((∃ sent s', srConnectToServer (byteLine host fuel) net sr s = .ok (0, sent) s') ↔
        Admitted host net sr s.conn.handled msgs) ∧
      ∀ sent s', srConnectToServer (byteLine host fuel) net sr s = .ok (0, sent) s' →
        sent = some (openingMessage net.stack sr) ∧
          Carries [] s' (openInbox sr ⟨msgs, s.conn.handled, s.router⟩) := by
  obtain ⟨R,hstart,hcarry,n,hn⟩ := byteLine_simulates hf hm hc hs
  -- what a run over the stream yields, the run over the messages does as well
  have hsame {fuel : ℕ} (hfuel : n ≤ fuel) :=
    srConnectToServer_same (hn fuel hfuel) net sr hstart
  have hopen {fuel : ℕ} (hfuel : n ≤ fuel) {sent : Option (List UInt8)} {s' : Session}
      (hx : srConnectToServer (byteLine host fuel) net sr s = .ok (0, sent) s') :
      ∃ t, srConnectToServer (messageLine host fuel) net sr
        ⟨msgs, s.conn.handled, s.router⟩ = .ok (0, sent) t ∧ R s' t := by
    have h := hsame hfuel
    rw [hx] at h
    revert h
    cases srConnectToServer (messageLine host fuel) net sr ⟨msgs, s.conn.handled, s.router⟩ with
    | ok r t =>
      rintro ⟨rfl,h⟩
      exact ⟨t, rfl, h⟩
    | error e t => exact False.elim
  have hresult {fuel : ℕ} (hfuel : n ≤ fuel) (sent : Option (List UInt8)) (s' : Session)
      (hx : srConnectToServer (byteLine host fuel) net sr s = .ok (0, sent) s') :
      sent = some (openingMessage net.stack sr) ∧
        Carries [] s' (openInbox sr ⟨msgs, s.conn.handled, s.router⟩) := by
    obtain ⟨t,ht,hr⟩ := hopen hfuel hx
    obtain ⟨-,hsent,rfl⟩ := connect_admits ht
    exact ⟨hsent, hcarry _ _ hr⟩
  by_cases hadm : Admitted host net sr s.conn.handled msgs
  · obtain ⟨k,hk⟩ := hadm.connects s.router
    refine ⟨max n k, fun fuel hfuel => ⟨⟨fun _ => hadm, fun _ => ?_⟩, hresult (by omega)⟩⟩
    have h := @hsame fuel (by omega)
    rw [show srConnectToServer (messageLine host fuel) net sr _ = _ from hk fuel (by omega)] at h
    revert h
    cases srConnectToServer (byteLine host fuel) net sr s with
    | ok r s' =>
      rintro ⟨rfl,-⟩
      exact ⟨_, s', rfl⟩
    | error e s' => exact False.elim
  · refine ⟨n, fun fuel hfuel => ⟨⟨?_, fun h => absurd h hadm⟩, hresult hfuel⟩⟩
    rintro ⟨sent,s',hx⟩
    obtain ⟨t,ht,-⟩ := hopen hfuel hx
    exact (connect_admits ht).1

end Connect

/-- A server that is there, and takes what it is sent. -/
def answeringServer : ConnectHost := ⟨true, true, true, fun _ => 0, fun l => l.length⟩

/-- The messages of a handshake: four bytes of salt, and a yes. -/
def handshake : List (List UInt8) :=
  [[0, 0, 0, 12, 0, 0, 0, 128, 1, 2, 3, 4], [0, 0, 0, 9, 0, 0, 2, 0, 1]]

theorem handshake_wellFramed : ∀ m ∈ handshake, WellFramed m := by
  intro m hm
  rcases List.mem_pair.mp hm with rfl | rfl
  · exact ⟨by decide, by decide, by decide⟩
  · exact ⟨by decide, by decide, by decide⟩

/-- The routing table of the host `vrh`: four bytes. -/
def rtableMessage : List UInt8 :=
  [0, 0, 0, 44, 0, 0, 0, 32, 118, 114, 104] ++ List.replicate 29 0 ++ [49, 46, 48, 10]

/-- A session with the template `t`. -/
def templateNames : SrNames := ⟨[], [], [116], 0⟩

theorem connect_succeeds_iff_handshake : ∃ n, ∀ fuel, n ≤ fuel → ∃ sent s',
    srConnectToServer (byteLine choppyHost fuel) answeringServer templateNames
      ⟨⟨⟨(handshake ++ [rtableMessage]).flatten, 0, false⟩, 0⟩, smallRouter⟩ =
        .ok (0, sent) s' := by
  have hm : ∀ m ∈ handshake ++ [rtableMessage], WellFramed m := by
    intro m hm
    rcases List.mem_append.mp hm with hm | hm
    · exact handshake_wellFramed m hm
    · obtain rfl := List.mem_singleton.mp hm
      exact ⟨by decide, by decide, by decide⟩
  obtain ⟨n,hn⟩ := connect_succeeds_iff
    (s := ⟨⟨⟨(handshake ++ [rtableMessage]).flatten, 0, false⟩, 0⟩, smallRouter⟩)
    choppyHost_fair hm rfl rfl answeringServer templateNames
  refine ⟨n, fun fuel hfuel => (hn fuel hfuel).1.mpr ?_⟩
  refine ⟨⟨rfl,rfl,rfl⟩, ⟨_, rfl, ?_⟩, ⟨_, rfl, ?_⟩, rfl, fun _ => ⟨_, rfl, ?_⟩⟩
  · exact ⟨by decide, fun _ => ⟨rfl,rfl⟩, fun h => absurd h (by decide),
      fun h => absurd h (by decide)⟩
  · exact ⟨by decide, fun h => absurd h (by decide), fun _ => by decide,
      fun h => absurd h (by decide)⟩
  · exact ⟨by decide, fun h => absurd h (by decide), fun h => absurd h (by decide),
      fun _ => ⟨by decide, rfl⟩⟩

end InternetCourse.Router
