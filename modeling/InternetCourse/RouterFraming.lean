import InternetCourse.PairedRuns
import InternetCourse.RouterServer

/-! How the stream from the server is taken apart into messages. -/
namespace InternetCourse.Router

open ByteMem StateTriple TracedState PartialRead PairedRuns

/-- What the length prefix of a message says. -/
def prefixLen (m : List UInt8) : ℤ := asInt (ntohl (get32 (load m fun _ => 0) 0))

/-- A message with an accepted prefix: its four bytes, and what they say is to follow. -/
structure Announced (m : List UInt8) : Prop where
  nonneg : 0 ≤ prefixLen m
  le : prefixLen m ≤ 10000
  whole : m.length = max 4 (prefixLen m).toNat

/-- The prefix of the message is its size. -/
structure WellFramed (m : List UInt8) : Prop where
  header : sizeofBase ≤ m.length
  le : m.length ≤ 10000
  prefix_eq : prefixLen m = m.length

/-- The message in its buffer, with the command word in host order. -/
def messageBuffer (m : List UInt8) (slack : Mem) : Mem :=
  put32 (load m slack) 4 (ntohl (get32 (load m slack) 4))

/-- The message in hand. -/
def commandOf (host : ServerHost) (number : ℕ) (m : List UInt8) : Command where
  number := number
  command := get32 (messageBuffer m (host.buffer number)) 4
  buf := messageBuffer m (host.buffer number)
  len := (prefixLen m).toNat

theorem WellFramed.announced {m : List UInt8} (h : WellFramed m) : Announced m := by
  have h8 : 8 ≤ m.length := h.header
  have hp := h.prefix_eq
  refine ⟨?_, ?_, ?_⟩
  · omega
  · have hle := h.le
    omega
  · omega

section Prefix

variable {m : List UInt8}

theorem asInt_toNat {v : UInt32} (h : 0 ≤ asInt v) : (asInt v).toNat = v.toNat := by
  have hv : v.toNat < 4294967296 := v.toNat_lt
  rw [asInt] at h ⊢
  split at h <;> rename_i hlt
  · rw [if_pos hlt]
    rfl
  · omega

theorem Announced.four_le (h : Announced m) : 4 ≤ m.length := by
  rw [h.whole]
  exact le_max_left _ _

/-- The word at the head of the message, whatever follows the message. -/
theorem Announced.word (h : Announced m) (slack : Mem) :
    htonl (UInt32.ofNat (prefixLen m).toNat) = get32 (load m slack) 0 := by
  have h4 := h.four_le
  have hword : get32 (load m slack) 0 = get32 (load m fun _ => 0) 0 :=
    get32_congr fun i _ hi => by
      rw [load_of_lt slack (by omega), load_of_lt _ (by omega)]
  rw [hword, prefixLen, asInt_toNat h.nonneg, UInt32.ofNat_toNat]
  exact swap32_swap32 _

/-- The length written back and the body behind it make up the message. -/
theorem Announced.refilled (h : Announced m) (slack : Mem) :
    memcpy (put32 slack 0 (htonl (UInt32.ofNat (prefixLen m).toNat))) 4
      (load (m.drop 4) fun _ => 0) (m.drop 4).length = load m slack := by
  have h4 := h.four_le
  rw [h.word slack, List.length_drop]
  funext i
  by_cases hi : i < 4
  · -- the length that was read
    rw [memcpy_outside _ _ (by omega), put32_get32 _ _ (by omega)]
  · by_cases hm : i < m.length
    · have hi' : i-4 < (m.drop 4).length := by
        rw [List.length_drop]
        omega
      rw [memcpy_inside _ _ (by omega), load_of_drop (List.append_nil _).symm hi' _ slack,
        show 4+(i-4) = i by omega]
    · rw [memcpy_outside _ _ (by omega), put32_outside _ _ (by omega), load_of_le _ (by omega)]

end Prefix

/-! Reading a message off the stream. -/
section Reading

variable {host : ServerHost} {fuel : ℕ} {mark : ℕ → List Use}

/-- Pieces put one behind the other from `dst+base` on. -/
theorem stores_memcpy (dst : Mem) (base : ℕ) (data : List UInt8) :
    Stores (fun b l m => memcpy m (base+b) (load l fun _ => 0) l.length) data
      fun b => memcpy dst base (load data fun _ => 0) b := by
  intro b l u h
  exact memcpy_memcpy _ _ _ _ fun i hi => load_of_drop h hi _ _

theorem memcpy_zero (dst src : Mem) (off : ℕ) : memcpy dst off src 0 = dst := by
  funext i
  exact if_neg (by omega)

/-- Whatever is delivered, `readBytes` puts the next bytes of the stream in their place. -/
theorem readBytes_triple (dst : Mem) (base : ℕ) {limit : ℕ} {data : List UInt8}
    (rest : List UInt8) (hl : data.length = limit) (number : ℕ) :
    Triple (fun s : Connection => s.source.unread = data ++ rest ∧ s.handled = number)
      (erase (readBytes host fuel mark dst base limit))
      (fun r s => (∀ d, r = some d →
        d = memcpy dst base (load data fun _ => 0) limit ∧ s.source.unread = rest) ∧
        s.handled = number)
      fun _ => True := by
  subst hl
  have h := @fill_triple Fault Use UInt8 Mem Fault.outOfFuel host.schedule mark _ fuel data rest _
    (stores_memcpy dst base data)
  rw [memcpy_zero] at h
  have hz : Triple (fun s : Connection => s.source.unread = data ++ rest ∧ s.handled = number)
      (erase (readBytes host fuel mark dst base data.length))
      (fun r s => (∀ d, r = some d → d = memcpy dst base (load data fun _ => 0) data.length ∧
        s.source.unread = rest) ∧ s.handled = number)
      (fun s => True ∧ s.handled = number) :=
    erase_zoom_triple h (fun _ _ => rfl) fun _ _ h => h
  exact hz.conseq (fun _ h => h) (fun _ _ h => h) fun _ _ => trivial

theorem readBytes_settles (hf : Fair host.schedule) (dst : Mem) (base : ℕ) {limit : ℕ}
    {data rest : List UInt8} (hl : data.length = limit) {s : Connection}
    (hc : s.source.closed = false) (hs : s.source.unread = data ++ rest) : ∃ c,
      Settles (fun fuel => erase (readBytes host fuel mark dst base limit)) s
        (some (memcpy dst base (load data fun _ => 0) limit)) ⟨⟨rest, c, false⟩, s.handled⟩ := by
  subst hl
  obtain ⟨c,h⟩ := @fill_settles Fault Use UInt8 Mem Fault.outOfFuel host.schedule mark _ data rest _
    hf (stores_memcpy dst base data) s.source hc hs
  rw [memcpy_zero] at h
  exact ⟨c, erase_zoom_settles h⟩

variable {m rest : List UInt8}

theorem take_four_length (h4 : 4 ≤ m.length) : (m.take 4).length = 4 := by
  rw [List.length_take]
  exact min_eq_left h4

theorem Announced.take_length (h : Announced m) : (m.take 4).length = 4 :=
  take_four_length h.four_le

theorem Announced.drop_length (h : Announced m) : (m.drop 4).length = (prefixLen m).toNat-4 := by
  rw [List.length_drop, h.whole]
  omega

/-- The length word, once its four bytes have come in. -/
theorem lengthWord (h4 : 4 ≤ m.length) :
    asInt (ntohl (get32 (memcpy (fun _ => 0) 0 (load (m.take 4) fun _ => 0) 4) 0)) =
      prefixLen m := by
  have ht := take_four_length h4
  have hdrop : m.drop 0 = m.take 4 ++ m.drop 4 := (List.take_append_drop 4 m).symm
  have hword : get32 (memcpy (fun _ => 0) 0 (load (m.take 4) fun _ => 0) 4) 0 =
      get32 (load m fun _ => 0) 0 := get32_congr fun i _ hi => by
    rw [memcpy_inside _ _ (by omega), Nat.sub_zero,
      load_of_drop hdrop (by omega) _ fun _ => 0, Nat.zero_add]
  rw [hword, prefixLen]

theorem Announced.lengthWord (h : Announced m) :
    asInt (ntohl (get32 (memcpy (fun _ => 0) 0 (load (m.take 4) fun _ => 0) 4) 0)) =
      prefixLen m := Router.lengthWord h.four_le

/-- The buffer once the body has come in, too. -/
theorem Announced.filled (h : Announced m) (slack : Mem) :
    memcpy (put32 slack 0 (htonl (UInt32.ofNat (prefixLen m).toNat))) 4
      (load (m.drop 4) fun _ => 0) ((prefixLen m).toNat-4) = load m slack := by
  rw [← h.drop_length]
  exact h.refilled slack

theorem command_of_load (number : ℕ) :
    (⟨number, ntohl (get32 (load m (host.buffer number)) 4),
      put32 (load m (host.buffer number)) 4 (ntohl (get32 (load m (host.buffer number)) 4)),
      (prefixLen m).toNat⟩ : Command) = commandOf host number m := by
  rw [commandOf, messageBuffer, get32_put32]

theorem Announced.accepted (h : Announced m) : ¬(10000 < prefixLen m ∨ prefixLen m < 0) := by
  have h₁ := h.nonneg
  have h₂ := h.le
  omega

theorem Announced.unread {l : List UInt8} (hs : l = m ++ rest) :
    l = m.take 4 ++ (m.drop 4 ++ rest) := by
  rw [hs, ← List.append_assoc, List.take_append_drop]

theorem readLength_settles (hf : Fair host.schedule) (h : Announced m) {s : Connection}
    (hc : s.source.closed = false) (hs : s.source.unread = m ++ rest) : ∃ c,
      Settles (fun fuel => erase (readLength host fuel)) s
        (some (memcpy (fun _ => 0) 0 (load (m.take 4) fun _ => 0) 4))
        ⟨⟨m.drop 4 ++ rest, c, false⟩, s.handled⟩ :=
  readBytes_settles hf _ 0 h.take_length hc (Announced.unread hs)

theorem bodyBytes_settle (hf : Fair host.schedule) (h : Announced m) (number : ℕ) {s : Connection}
    (hc : s.source.closed = false) (hs : s.source.unread = m.drop 4 ++ rest) : ∃ c,
      Settles (fun fuel => erase (readBytes host fuel mark
        (put32 (host.buffer number) 0 (htonl (UInt32.ofNat (prefixLen m).toNat))) 4
        ((prefixLen m).toNat-4))) s (some (load m (host.buffer number)))
        ⟨⟨rest, c, false⟩, s.handled⟩ := by
  obtain ⟨c,hbody⟩ := @readBytes_settles host mark hf
    (put32 (host.buffer number) 0 (htonl (UInt32.ofNat (prefixLen m).toNat))) 4 _ _ rest
    h.drop_length s hc hs
  rw [h.filled] at hbody
  exact ⟨c,hbody⟩

/-- With interruptions only, the message at the head of the stream is read, and no byte more. -/
theorem readCommand_settles (hf : Fair host.schedule) (h : Announced m) {s : Connection}
    (hc : s.source.closed = false) (hs : s.source.unread = m ++ rest) : ∃ c,
      Settles (fun fuel => erase (readCommand host fuel)) s (some (commandOf host s.handled m))
        ⟨⟨rest, c, false⟩, s.handled+1⟩ := by
  obtain ⟨c,hlength⟩ := readLength_settles hf h hc hs
  obtain ⟨c',hbody⟩ := @bodyBytes_settle host
    (fun b => [.access (wr (4+b) ((prefixLen m).toNat-4-b))]) m rest hf h s.handled
    ⟨⟨m.drop 4 ++ rest, c, false⟩, s.handled+1⟩ rfl rfl
  refine ⟨c', erase_bind_settles hlength ?_⟩
  simp only [h.lengthWord, if_neg h.accepted]
  apply erase_bind_settles (Settles.of_eq fun _ => rfl)
  apply erase_bind_settles (Settles.of_eq fun _ => rfl)
  apply erase_bind_settles hbody
  refine erase_bind_settles (Settles.of_eq fun _ => rfl) (Settles.of_eq fun _ => ?_)
  simp only [command_of_load]
  rfl

/-- The command word is read and written in any case. -/
theorem readCommand_reads (hf : Fair host.schedule) (h : Announced m) {s : Connection}
    (hc : s.source.closed = false) (hs : s.source.unread = m ++ rest) : ∃ n, ∀ fuel, n ≤ fuel →
      Use.access (rd 4 4) ∈ trace (readCommand host fuel) s := by
  obtain ⟨c,n,hlength⟩ := readLength_settles hf h hc hs
  obtain ⟨c',n',hbody⟩ := @bodyBytes_settle host
    (fun b => [.access (wr (4+b) ((prefixLen m).toNat-4-b))]) m rest hf h s.handled
    ⟨⟨m.drop 4 ++ rest, c, false⟩, s.handled+1⟩ rfl rfl
  refine ⟨max n n', fun fuel hfuel => ?_⟩
  apply mem_trace_bind_ok (hlength fuel (by omega))
  simp only [h.lengthWord, if_neg h.accepted]
  apply mem_trace_bind_ok (u := ⟨⟨m.drop 4 ++ rest, c, false⟩, s.handled+1⟩) rfl
  apply mem_trace_silent_bind rfl
  apply mem_trace_bind_ok (hbody fuel (by omega))
  apply mem_trace_bind
  exact List.mem_pair.mpr (Or.inl rfl)

theorem readBody_triple (h : Announced m) (number : ℕ) :
    Triple (fun s : Connection => s.source.unread = m.drop 4 ++ rest ∧ s.handled = number)
      (erase (readBody host fuel (prefixLen m).toNat))
      (fun r s => ∀ c, r = some c → c = commandOf host number m ∧ s.source.unread = rest)
      fun _ => True := by
  rintro s ⟨hs,rfl⟩
  have hbytes := @readBytes_triple host fuel
    (fun b => [.access (wr (4+b) ((prefixLen m).toNat-4-b))])
    (put32 (host.buffer s.handled) 0 (htonl (UInt32.ofNat (prefixLen m).toNat))) 4 _ _ rest
    h.drop_length (s.handled+1)
  have hbody : Triple (fun t : Connection => t.source.unread = m.drop 4 ++ rest ∧
      t.handled = s.handled+1) (erase (readBytes host fuel
        (fun b => [.access (wr (4+b) ((prefixLen m).toNat-4-b))])
        (put32 (host.buffer s.handled) 0 (htonl (UInt32.ofNat (prefixLen m).toNat))) 4
        ((prefixLen m).toNat-4) >>= takeCommand s.handled (prefixLen m).toNat))
      (fun r t => ∀ c, r = some c → c = commandOf host s.handled m ∧ t.source.unread = rest)
      fun _ => True := by
    rw [erase_bind]
    refine hbytes.bind fun r => ?_
    cases r with
    | none =>
      intro t _ c hc
      contradiction
    | some buf =>
      rintro t ⟨hb,-⟩ c hc
      obtain ⟨rfl,ht⟩ := hb buf rfl
      refine ⟨?_, ht⟩
      rw [← Option.some.inj hc, h.filled, command_of_load]
  exact hbody ⟨s.source, s.handled+1⟩ ⟨hs,rfl⟩

/-- Whatever is delivered, no other command comes of it, and it has the stream read as far. -/
theorem readCommand_triple (h : Announced m) (number : ℕ) :
    Triple (fun s : Connection => s.source.unread = m ++ rest ∧ s.handled = number)
      (erase (readCommand host fuel))
      (fun r s => ∀ c, r = some c → c = commandOf host number m ∧ s.source.unread = rest)
      fun _ => True := by
  rw [readCommand, erase_bind]
  refine ((readBytes_triple _ 0 (m.drop 4 ++ rest) h.take_length number).bind fun r => ?_).conseq
    (fun s hs => ⟨Announced.unread hs.1, hs.2⟩) (fun _ _ h => h) fun _ h => h
  cases r with
  | none =>
    intro s _ c hc
    contradiction
  | some word =>
    rintro s ⟨hw,hn⟩
    obtain ⟨rfl,hs⟩ := hw word rfl
    simp only [h.lengthWord, if_neg h.accepted]
    exact readBody_triple h number s ⟨hs,hn⟩

end Reading

/-! The stream as a sequence of messages. -/

/-- The connection with whole messages in place of bytes. -/
structure Inbox where
  messages : List (List UInt8)
  handled : ℕ
  router : SrInstance

/-- Takes the next message and passes it on. With none there it waits. -/
def readMessage (host : ServerHost) (fuel : ℕ) (expectedCmd : UInt32) : EStateM Fault Inbox ℤ :=
  fun t => match t.messages with
    | [] => .error .outOfFuel t
    | m :: rest =>
      match erase (dispatch host fuel expectedCmd (commandOf host t.handled m)) t.router with
      | .ok r router => .ok r ⟨rest, t.handled+1, router⟩
      | .error e router => .error e ⟨rest, t.handled+1, router⟩

/-- Successive calls, each with the command it expects, and the values they return. -/
def inTurn {σ : Type} (call : UInt32 → EStateM Fault σ ℤ) : List UInt32 → EStateM Fault σ (List ℤ)
  | [] => pure []
  | expectedCmd :: rest => do
    let r ← call expectedCmd
    let rs ← inTurn call rest
    pure (r :: rs)

/-- The open stream holds the messages of the inbox, one behind the other, and then `rest`. -/
structure Carries (rest : List UInt8) (s : Session) (t : Inbox) : Prop where
  unread : s.conn.source.unread = t.messages.flatten ++ rest
  handled : s.conn.handled = t.handled
  router : s.router = t.router
  isOpen : s.conn.source.closed = false

section Messages

variable {host : ServerHost} {fuel : ℕ} {m rest : List UInt8}

/-- Once a message is in hand, the call is what is done with it. -/
theorem srReadFromServerExpect_of_command {expectedCmd : UInt32} {conn conn' : Connection}
    {c : Command} (h : erase (readCommand host fuel) conn = .ok (some c) conn')
    (router : SrInstance) :
    erase (srReadFromServerExpect host fuel expectedCmd) ⟨conn,router⟩ =
      match erase (dispatch host fuel expectedCmd c) router with
      | .ok r router' => .ok r ⟨conn',router'⟩
      | .error e router' => .error e ⟨conn',router'⟩ := by
  rw [srReadFromServerExpect, erase_bind, bind_apply, erase_zoom]
  simp only [h]
  rw [erase_zoom]
  dsimp only
  cases erase (dispatch host fuel expectedCmd c) router <;> rfl

/-- One call takes one message, whatever state the router is in. -/
theorem srReadFromServerExpect_reads (hf : Fair host.schedule) (h : Announced m)
    {conn : Connection} (hc : conn.source.closed = false) (hs : conn.source.unread = m ++ rest) :
    ∃ c n, ∀ fuel, n ≤ fuel → ∀ router expectedCmd,
      erase (srReadFromServerExpect host fuel expectedCmd) ⟨conn,router⟩ =
        match erase (dispatch host fuel expectedCmd (commandOf host conn.handled m)) router with
        | .ok r router' => .ok r ⟨⟨⟨rest, c, false⟩, conn.handled+1⟩, router'⟩
        | .error e router' => .error e ⟨⟨⟨rest, c, false⟩, conn.handled+1⟩, router'⟩ := by
  obtain ⟨c,n,hn⟩ := readCommand_settles hf h hc hs
  exact ⟨c, n, fun fuel hfuel router e => srReadFromServerExpect_of_command (hn fuel hfuel) router⟩

theorem inTurn_reads (hf : Fair host.schedule) (rest : List UInt8) (expected : List UInt32)
    {msgs : List (List UInt8)} (hm : ∀ m ∈ msgs, WellFramed m) (hl : expected.length ≤ msgs.length)
    {conn : Connection} (hc : conn.source.closed = false)
    (hs : conn.source.unread = msgs.flatten ++ rest) : ∃ n, ∀ fuel, n ≤ fuel → ∀ router,
      SameOutcome (Carries rest)
        (inTurn (fun e => erase (srReadFromServerExpect host fuel e)) expected ⟨conn,router⟩)
        (inTurn (readMessage host fuel) expected ⟨msgs, conn.handled, router⟩) := by
  induction expected generalizing msgs conn with
  | nil => exact ⟨0, fun fuel _ router => ⟨rfl, hs, rfl, rfl, hc⟩⟩
  | cons e expected ih =>
    cases msgs with
    | nil =>
      rw [List.length_cons, List.length_nil] at hl
      omega
    | cons m msgs =>
      rw [List.flatten_cons, List.append_assoc] at hs
      have hfirst := (hm m List.mem_cons_self).announced
      -- the first message, by the lemma on one call; the rest by induction
      obtain ⟨c,n,hcall⟩ := srReadFromServerExpect_reads hf hfirst hc hs
      rw [List.length_cons, List.length_cons] at hl
      obtain ⟨n',hrest⟩ := @ih msgs (fun m' hm' => hm m' (List.mem_cons_of_mem m hm')) (by omega)
        ⟨⟨msgs.flatten ++ rest, c, false⟩, conn.handled+1⟩ rfl rfl
      refine ⟨max n n', fun fuel hfuel router => ?_⟩
      have hcalls : SameOutcome (fun s t => s.conn = ⟨⟨msgs.flatten ++ rest, c, false⟩,
          conn.handled+1⟩ ∧ t = ⟨msgs, conn.handled+1, s.router⟩)
          (erase (srReadFromServerExpect host fuel e) ⟨conn,router⟩)
          (readMessage host fuel e ⟨m :: msgs, conn.handled, router⟩) := by
        rw [hcall fuel (by omega) router e, readMessage]
        dsimp only
        cases erase (dispatch host fuel e (commandOf host conn.handled m)) router with
        | ok r router' => exact ⟨rfl,rfl,rfl⟩
        | error x router' => exact ⟨rfl,rfl,rfl⟩
      refine hcalls.bind ?_ fun r s t hst => ?_
      · rintro ⟨_,router'⟩ _ ⟨rfl,rfl⟩
        exact ⟨rfl,rfl,rfl,rfl⟩
      · obtain ⟨_,router'⟩ := s
        obtain ⟨rfl,rfl⟩ := hst
        exact (hrest fuel (by omega) router').bind (fun _ _ h => h) fun rs _ _ h =>
          SameOutcome.pure _ h

end Messages

/-- However the stream is cut into pieces and interrupted, successive calls take the messages in
it one by one and in order, each as it was sent, and nothing behind them. -/
theorem messages_read_in_order {host : ServerHost} (hf : Fair host.schedule)
    {msgs : List (List UInt8)} (hm : ∀ m ∈ msgs, WellFramed m) (rest : List UInt8) {s : Session}
    (hc : s.conn.source.closed = false) (hs : s.conn.source.unread = msgs.flatten ++ rest)
    {expected : List UInt32} (hl : expected.length ≤ msgs.length) : ∃ n, ∀ fuel, n ≤ fuel →
      SameOutcome (Carries rest)
        (inTurn (fun e => erase (srReadFromServerExpect host fuel e)) expected s)
        (inTurn (readMessage host fuel) expected ⟨msgs, s.conn.handled, s.router⟩) := by
  obtain ⟨n,hn⟩ := inTurn_reads hf rest expected hm hl hc hs
  exact ⟨n, fun fuel hfuel => hn fuel hfuel s.router⟩

/-- A host that interrupts every other call and delivers a few bytes in between. -/
def choppyHost : ServerHost where
  toEnv := obligingHost
  logfile := false
  schedule n := if n%2 = 0 then .interrupted else .piece (n%3)
  buffer _ _ := 0
  rtableOpens _ := true
  authKey _ := true
  authReply _ := true

theorem choppyHost_fair : Fair choppyHost.schedule where
  again n := by
    by_cases h : n%2 = 0
    · exact ⟨1, (n+1)%3, if_neg (by omega)⟩
    · exact ⟨0, n%3, if_neg h⟩
  sound n := by
    by_cases h : n%2 = 0
    · have hn : choppyHost.schedule n = .interrupted := if_pos h
      rw [hn]
      exact Delivery.noConfusion
    · have hn : choppyHost.schedule n = .piece (n%3) := if_neg h
      rw [hn]
      exact Delivery.noConfusion

/-- A banner that says hi. -/
def bannerMessage : List UInt8 := [0, 0, 0, 11, 0, 0, 0, 8, 104, 105, 0]

/-- The server goes, without a word. -/
def closeMessage : List UInt8 := [0, 0, 0, 9, 0, 0, 0, 2, 0]

theorem messages_read_in_order_choppyHost : ∃ n, ∀ fuel, n ≤ fuel →
    SameOutcome (Carries [])
      (inTurn (fun e => erase (srReadFromServerExpect choppyHost fuel e)) [0, 0]
        ⟨⟨⟨[bannerMessage, closeMessage].flatten ++ [], 0, false⟩, 0⟩, smallRouter⟩)
      (inTurn (readMessage choppyHost fuel) [0, 0]
        ⟨[bannerMessage, closeMessage], 0, smallRouter⟩) := by
  have hm : ∀ m ∈ [bannerMessage, closeMessage], WellFramed m := by
    intro m hm
    rcases List.mem_pair.mp hm with rfl | rfl
    · exact ⟨by decide, by decide, by decide⟩
    · exact ⟨by decide, by decide, by decide⟩
  exact messages_read_in_order choppyHost_fair hm [] rfl rfl (by decide)

end InternetCourse.Router
