import InternetCourse.RouterRules
import InternetCourse.RouterMapping
import Mathlib.Data.Set.Function

/-! Histories: the events of a run with the states they found. The table of mappings is
the account of the ARP replies in the history that have not expired. -/
namespace InternetCourse.Router

open ByteMem SlotTable StateTriple

/-- An event of a history, with the state it found and the fuel it had. -/
structure Happening where
  before : SrInstance
  event : Event
  fuel : ℕ

/-- What happened from `s₀` on, oldest event first. An event need not be over: the one
thread may go round its loop for ever while the other goes on. -/
inductive History (env : Env) (s₀ : SrInstance) : List Happening → SrInstance → Prop where
  | start : History env s₀ [] s₀
  | next {h : List Happening} {s : SrInstance} (ev : Event) (fuel : ℕ) : History env s₀ h s →
      History env s₀ (h ++ [⟨s,ev,fuel⟩]) (finalState (handle env fuel ev s))

/-- The state an event leaves. -/
def Happening.after (env : Env) (x : Happening) : SrInstance :=
  finalState (handle env x.fuel x.event x.before)

/-- The calls of `sr_send_packet` an event makes, newest first. -/
def Happening.sends (env : Env) (x : Happening) : List SendCall :=
  (x.after env).log.sends.take ((x.after env).log.sends.length-x.before.log.sends.length)

/-- The mapping an event puts into the table: that of an ARP reply to the interface it came
in by, if a slot is free. -/
def announcedBy (env : Env) (x : Happening) : Option SrArpentry :=
  match x.event with
  | .receive frame slack interface =>
    let m := load frame slack
    if StoresReply x.before m interface ∧ (freeSlot x.before.cache.entries).isSome then
      some ⟨arSha m, arSip m, x.before.now env, true⟩
    else none
  | _ => none

/-- The time at which an event is an expiry pass. -/
def expiryAt (env : Env) (x : Happening) : Option ℤ :=
  match x.event with
  | .expiry => some (x.before.now env)
  | _ => none

/-- The `k`-th event announced `e`, and no expiry pass since then ran more than 15 s after. -/
structure Live (env : Env) (h : List Happening) (k : ℕ) (e : SrArpentry) : Prop where
  announced : ∃ x, h[k]? = some x ∧ announcedBy env x = some e
  unexpired : ∀ l y t, k < l → h[l]? = some y → expiryAt env y = some t →
    t-e.added ≤ SR_ARPCACHE_TO

/-- The valid entries are the live announcements, each once: that of slot `i` was made by
the `g i`-th event. -/
structure Accounts (env : Env) (h : List Happening) (entries : Entries)
    (g : Fin SR_ARPCACHE_SZ → ℕ) : Prop where
  live : ∀ i, (entries i).valid = true → Live env h (g i) (entries i)
  injOn : Set.InjOn g {i | (entries i).valid = true}
  surjOn : ∀ k e, Live env h k e → ∃ i, (entries i).valid = true ∧ g i = k

variable {env : Env} {s₀ s : SrInstance} {h : List Happening} {k : ℕ} {e : SrArpentry}
  {entries : Entries} {g : Fin SR_ARPCACHE_SZ → ℕ}

theorem Live.lt_length (hl : Live env h k e) : k < h.length := by
  obtain ⟨x,hx,-⟩ := hl.announced
  exact (List.getElem?_eq_some_iff.mp hx).1

theorem Live.mem (hl : Live env h k e) : ∃ x ∈ h, announcedBy env x = some e := by
  obtain ⟨x,hx,ha⟩ := hl.announced
  exact ⟨x, List.mem_of_getElem? hx, ha⟩

/-- Two announcements by one event are the same. -/
theorem Live.unique {e' : SrArpentry} (hl : Live env h k e) (hl' : Live env h k e') : e = e' := by
  obtain ⟨x,hx,ha⟩ := hl.announced
  obtain ⟨x',hx',ha'⟩ := hl'.announced
  obtain rfl := Option.some.inj (hx.symm.trans hx')
  exact Option.some.inj (ha.symm.trans ha')

/-- An older announcement stays alive unless the new event is an expiry pass that ends it. -/
theorem live_snoc_of_lt {x : Happening} (hk : k < h.length) :
    Live env (h ++ [x]) k e ↔
      Live env h k e ∧ ∀ t, expiryAt env x = some t → t-e.added ≤ SR_ARPCACHE_TO := by
  have hget {l : ℕ} (hl : l < h.length) : (h ++ [x])[l]? = h[l]? := List.getElem?_append_left hl
  have hlast : (h ++ [x])[h.length]? = some x := List.getElem?_concat_length
  constructor
  · rintro ⟨ha,hu⟩
    rw [hget hk] at ha
    refine ⟨⟨ha,?_⟩,?_⟩
    · intro l y t hkl hy
      exact hu l y t hkl (by rwa [hget (List.getElem?_eq_some_iff.mp hy).1])
    · intro t
      exact hu h.length x t hk hlast
  · rintro ⟨⟨ha,hu⟩,hx⟩
    refine ⟨by rwa [hget hk], ?_⟩
    intro l y t hkl hy
    by_cases hl : l < h.length
    · rw [hget hl] at hy
      exact hu l y t hkl hy
    · have hlen := (List.getElem?_eq_some_iff.mp hy).1
      rw [List.length_append, List.length_singleton] at hlen
      obtain rfl : l = h.length := by omega
      rw [hlast] at hy
      obtain rfl := Option.some.inj hy
      exact hx t

/-- The new event's own announcement is alive: nothing has happened since. -/
theorem live_snoc_self {x : Happening} :
    Live env (h ++ [x]) h.length e ↔ announcedBy env x = some e := by
  have hlast : (h ++ [x])[h.length]? = some x := List.getElem?_concat_length
  constructor
  · rintro ⟨⟨y,hy,ha⟩,-⟩
    rw [hlast] at hy
    obtain rfl := Option.some.inj hy
    exact ha
  · intro ha
    refine ⟨⟨x,hlast,ha⟩,?_⟩
    intro l y t hl hy
    have hlen := (List.getElem?_eq_some_iff.mp hy).1
    rw [List.length_append, List.length_singleton] at hlen
    omega

theorem Live.snoc_cases {x : Happening} (hl : Live env (h ++ [x]) k e) :
    k < h.length ∧ Live env h k e ∨ k = h.length ∧ announcedBy env x = some e := by
  have hlen := hl.lt_length
  rw [List.length_append, List.length_singleton] at hlen
  by_cases hk : k < h.length
  · exact Or.inl ⟨hk, ((live_snoc_of_lt hk).mp hl).1⟩
  · obtain rfl : k = h.length := by omega
    exact Or.inr ⟨rfl, live_snoc_self.mp hl⟩

/-- An event that announces nothing and lets nothing expire. -/
theorem Accounts.quiet {x : Happening} (ha : Accounts env h entries g)
    (hann : announcedBy env x = none) (hexp : expiryAt env x = none) :
    Accounts env (h ++ [x]) entries g where
  live i hi := by
    have hl := ha.live i hi
    refine (live_snoc_of_lt hl.lt_length).mpr ⟨hl,?_⟩
    intro t ht
    rw [hexp] at ht
    contradiction
  injOn := ha.injOn
  surjOn k e hl := by
    rcases hl.snoc_cases with ⟨-,hl⟩ | ⟨-,hn⟩
    · exact ha.surjOn k e hl
    · rw [hann] at hn
      contradiction

/-- A new mapping goes into a free slot. -/
theorem Accounts.announced {x : Happening} {i : Fin SR_ARPCACHE_SZ}
    (ha : Accounts env h entries g) (hfree : (entries i).valid = false) (he : e.valid = true)
    (hann : announcedBy env x = some e) (hexp : expiryAt env x = none) :
    Accounts env (h ++ [x]) (Function.update entries i e) (Function.update g i h.length) where
  live j hj := by
    by_cases hji : j = i
    · subst hji
      rw [Function.update_self, Function.update_self]
      exact live_snoc_self.mpr hann
    · rw [Function.update_of_ne hji] at hj ⊢
      rw [Function.update_of_ne hji]
      have hl := ha.live j hj
      refine (live_snoc_of_lt hl.lt_length).mpr ⟨hl,?_⟩
      intro t ht
      rw [hexp] at ht
      contradiction
  -- the new event comes after all those that account for the older entries
  injOn j hj l hl heq := by
    have hold {m : Fin SR_ARPCACHE_SZ} (hm : (Function.update entries i e m).valid = true)
        (hmi : m ≠ i) : (entries m).valid = true ∧ g m < h.length := by
      rw [Function.update_of_ne hmi] at hm
      exact ⟨hm, (ha.live m hm).lt_length⟩
    by_cases hji : j = i <;> by_cases hli : l = i
    · rw [hji, hli]
    · rw [hji, Function.update_self, Function.update_of_ne hli] at heq
      exact absurd heq (hold hl hli).2.ne'
    · rw [hli, Function.update_self, Function.update_of_ne hji] at heq
      exact absurd heq (hold hj hji).2.ne
    · rw [Function.update_of_ne hji, Function.update_of_ne hli] at heq
      exact ha.injOn (hold hj hji).1 (hold hl hli).1 heq
  -- the slot was free, so it accounted for nothing
  surjOn k e' hl := by
    rcases hl.snoc_cases with ⟨-,hl⟩ | ⟨rfl,-⟩
    · obtain ⟨j,hj,hjk⟩ := ha.surjOn k e' hl
      have hji : j ≠ i := by
        rintro rfl
        rw [hfree] at hj
        contradiction
      exact ⟨j, by rwa [Function.update_of_ne hji], by rwa [Function.update_of_ne hji]⟩
    · exact ⟨i, by rwa [Function.update_self], Function.update_self ..⟩

theorem expireEntries_valid_iff (entries : Entries) (t : ℤ) (i : Fin SR_ARPCACHE_SZ) :
    (expireEntries entries t i).valid = true ↔
      (entries i).valid = true ∧ t-(entries i).added ≤ SR_ARPCACHE_TO := by
  simp only [expireEntries]
  cases hv : (entries i).valid <;> by_cases hx : SR_ARPCACHE_TO < t-(entries i).added <;>
    simp [hv, hx] <;> omega

theorem expireEntries_of_valid {t : ℤ} {i : Fin SR_ARPCACHE_SZ}
    (hv : (expireEntries entries t i).valid = true) : expireEntries entries t i = entries i := by
  have hi := (expireEntries_valid_iff entries t i).mp hv
  simp only [expireEntries, hi.1, Bool.true_and, decide_eq_true_eq]
  exact if_neg (not_lt.mpr hi.2)

/-- An expiry pass ends the same announcements as it invalidates entries. -/
theorem Accounts.expired {x : Happening} {t : ℤ} (ha : Accounts env h entries g)
    (hann : announcedBy env x = none) (hexp : expiryAt env x = some t) :
    Accounts env (h ++ [x]) (expireEntries entries t) g where
  live i hi := by
    obtain ⟨hv,hle⟩ := (expireEntries_valid_iff entries t i).mp hi
    have hl := ha.live i hv
    rw [expireEntries_of_valid hi]
    refine (live_snoc_of_lt hl.lt_length).mpr ⟨hl,?_⟩
    intro t' ht'
    rw [hexp] at ht'
    obtain rfl := Option.some.inj ht'
    exact hle
  injOn i hi j hj :=
    ha.injOn ((expireEntries_valid_iff entries t i).mp hi).1
      ((expireEntries_valid_iff entries t j).mp hj).1
  surjOn k e hl := by
    rcases hl.snoc_cases with ⟨hk,hold⟩ | ⟨-,hn⟩
    · obtain ⟨i,hi,hik⟩ := ha.surjOn k e hold
      have hle := ((live_snoc_of_lt hk).mp hl).2 t hexp
      have he : entries i = e := by
        have hli := ha.live i hi
        rw [hik] at hli
        exact hli.unique hold
      rw [← he] at hle
      exact ⟨i, (expireEntries_valid_iff entries t i).mpr ⟨hi,hle⟩, hik⟩
    · rw [hann] at hn
      contradiction

/-- The table an event leaves. -/
def entriesAfter (env : Env) (s : SrInstance) : Event → Entries
  | .receive frame slack interface =>
    let m := load frame slack
    if StoresReply s m interface then insertEntry s.cache.entries (arSha m) (arSip m) (s.now env)
    else s.cache.entries
  | .expiry => expireEntries s.cache.entries (s.now env)
  | .sweep => s.cache.entries

section EntriesAfter

variable {env : Env} {s : SrInstance} {frame : List UInt8} {slack : Mem} {interface : CName}

theorem entriesAfter_of_stores (h : StoresReply s (load frame slack) interface) :
    entriesAfter env s (.receive frame slack interface) =
      insertEntry s.cache.entries (arSha (load frame slack)) (arSip (load frame slack))
        (s.now env) := if_pos h

theorem entriesAfter_of_not_stores (h : ¬StoresReply s (load frame slack) interface) :
    entriesAfter env s (.receive frame slack interface) = s.cache.entries := if_neg h

end EntriesAfter

/-- The queue apart, only the record has changed, and nothing has been taken off it. -/
structure Carried (s s' : SrInstance) : Prop where
  ifList : s'.ifList = s.ifList
  routingTable : s'.routingTable = s.routingTable
  entries : s'.cache.entries = s.cache.entries
  sends : s.log.sends <:+ s'.log.sends

/-- What does not depend on the queue, and on the record only as it grows, is preserved. -/
theorem Carried.preserved (env : Env) {J : SrInstance → Prop}
    (hJ : ∀ s s', J s → Carried s s' → J s') :
    Preserved env (fun _ => True) (fun _ => True) J where
  time _ hs := hJ _ _ hs ⟨rfl, rfl, rfl, List.suffix_rfl⟩
  malloc _ hs := hJ _ _ hs ⟨rfl, rfl, rfl, List.suffix_rfl⟩
  access _ _ hs := hJ _ _ hs ⟨rfl, rfl, rfl, List.suffix_rfl⟩
  arp _ _ hs := hJ _ _ hs ⟨rfl, rfl, rfl, List.suffix_rfl⟩
  waiting _ _ _ _ _ _ := trivial
  dst _ _ := trivial
  ip _ _ _ _ _ _ := trivial
  stamped _ _ _ _ hs := hJ _ _ hs ⟨rfl, rfl, rfl, List.suffix_rfl⟩
  destroyed _ _ hs := hJ _ _ hs ⟨rfl, rfl, rfl, List.suffix_rfl⟩
  enqueued _ _ _ _ _ _ hs _ _ _ he :=
    hJ _ _ hs ⟨he.ifList, he.routingTable, he.entries, by rw [he.sends]⟩
  broadcast _ _ _ _ _ hs _ _ _ _ := hJ _ _ hs ⟨rfl, rfl, rfl, List.suffix_cons _ _⟩
  forwarded _ _ _ _ _ hs _ _ _ _ _ := hJ _ _ hs ⟨rfl, rfl, rfl, List.suffix_cons _ _⟩
  expired _ _ _ _ hs _ _ _ := hJ _ _ hs ⟨rfl, rfl, rfl, List.suffix_cons _ _⟩
  unreachable _ _ _ _ hs _ _ := hJ _ _ hs ⟨rfl, rfl, rfl, List.suffix_cons _ _⟩

theorem entries_preserved (env : Env) (entries : Entries) :
    Preserved env (fun _ => True) (fun _ => True) (fun s => s.cache.entries = entries) :=
  Carried.preserved env fun _ _ hs h => h.entries.trans hs

/-- Insertions and expiry passes apart, no event touches the table. -/
theorem handle_entries (env : Env) (fuel : ℕ) (ev : Event) (s : SrInstance) :
    (finalState (handle env fuel ev s)).cache.entries = entriesAfter env s ev := by
  cases ev with
  | receive frame slack interface =>
    have hkeep : Receives env (fun _ => True)
        (fun t => t.cache.entries = entriesAfter env s (.receive frame slack interface)) s
        (received s frame slack interface) := by
      by_cases hst : StoresReply s (load frame slack) interface
      · have hno : ∀ len, ¬Accepted (load frame slack) len := hst.not_accepted
        refine ⟨fun h => absurd hst h, ?_, fun _ _ _ => trivial, ?_,
          fun _ _ => trivial, fun _ ha => absurd ha (hno _), fun _ ha => absurd ha (hno _)⟩
        · intro _
          rw [entriesAfter_of_stores hst]
          exact insertedState_entries env _ _ s.addArrival
        · intro i _ _ h1
          exact absurd h1 hst.not_request
      · rw [entriesAfter_of_not_stores hst]
        -- no other frame touches the entries
        exact ⟨fun _ => rfl, fun h => absurd h hst, fun _ _ _ => trivial,
          fun _ _ _ _ => rfl, fun _ _ => trivial, fun _ _ _ _ _ => rfl, fun _ _ _ _ _ => rfl⟩
    exact receive_keeps (entries_preserved env _) hkeep fuel
  | expiry => rfl
  | sweep => exact sweep_keeps (entries_preserved env _) rfl fuel

theorem tables_preserved (env : Env) (ifs : List SrIf) (routes : List SrRt) :
    Preserved env (fun _ => True) (fun _ => True)
      (fun s => s.ifList = ifs ∧ s.routingTable = routes) :=
  Carried.preserved env fun _ _ hs h => ⟨h.ifList.trans hs.1, h.routingTable.trans hs.2⟩

/-- No event changes the interfaces or the routing table, whether it returns or not. -/
theorem handle_tables (env : Env) (fuel : ℕ) (ev : Event) (s : SrInstance) :
    (finalState (handle env fuel ev s)).ifList = s.ifList ∧
      (finalState (handle env fuel ev s)).routingTable = s.routingTable := by
  cases ev with
  | expiry => exact ⟨rfl,rfl⟩
  | sweep => exact sweep_keeps (tables_preserved env _ _) ⟨rfl,rfl⟩ fuel
  | receive frame slack interface =>
    obtain ⟨hi,ht,-⟩ := insertedState_frame env (arSha (load frame slack))
      (arSip (load frame slack)) s.addArrival
    exact receive_keeps (tables_preserved env s.ifList s.routingTable)
      ⟨fun _ => ⟨rfl,rfl⟩, fun _ => ⟨hi,ht⟩, fun _ _ _ => trivial, fun _ _ _ _ => ⟨rfl,rfl⟩,
        fun _ _ => trivial, fun _ _ _ _ _ => ⟨rfl,rfl⟩, fun _ _ _ _ _ => ⟨rfl,rfl⟩⟩ fuel

theorem sends_preserved (env : Env) (sends : List SendCall) :
    Preserved env (fun _ => True) (fun _ => True) (fun s => sends <:+ s.log.sends) :=
  Carried.preserved env fun _ _ hs h => hs.trans h.sends

/-- Nothing is taken off the record. -/
theorem handle_sends (env : Env) (fuel : ℕ) (ev : Event) (s : SrInstance) :
    s.log.sends <:+ (finalState (handle env fuel ev s)).log.sends := by
  cases ev with
  | expiry => exact List.suffix_rfl
  | sweep => exact sweep_keeps (sends_preserved env _) List.suffix_rfl fuel
  | receive frame slack interface =>
    have hone {t : SrInstance} {c : SendCall} (ht : t.log.sends = s.log.sends) :
        s.log.sends <:+ (t.addSend c).log.sends := by
      rw [← ht]
      exact List.suffix_cons _ _
    apply receive_keeps (sends_preserved env _)
    refine ⟨fun _ => List.suffix_rfl, fun _ => ?_, fun _ _ _ => trivial, fun _ _ _ _ => hone rfl,
      fun _ _ => trivial, fun _ _ _ _ _ => hone rfl, fun _ _ _ _ _ => hone rfl⟩
    obtain ⟨-,-,hse,-⟩ := insertedState_frame env (arSha (load frame slack))
      (arSip (load frame slack)) s.addArrival
    exact hse ▸ List.suffix_rfl

/-- The record of an event is what it sent, in front of what was sent before. -/
theorem Happening.sends_append (env : Env) (x : Happening) :
    (x.after env).log.sends = x.sends env ++ x.before.log.sends := by
  obtain ⟨calls,hc⟩ := handle_sends env x.fuel x.event x.before
  have hafter : (x.after env).log.sends = calls ++ x.before.log.sends := hc.symm
  have hlen : (calls ++ x.before.log.sends).length-x.before.log.sends.length = calls.length := by
    rw [List.length_append]
    omega
  rw [Happening.sends, hafter, hlen, List.take_left]

theorem announcedBy_eq_some_iff {x : Happening} :
    announcedBy env x = some e ↔ ∃ frame slack interface, x.event = .receive frame slack interface ∧
      StoresReply x.before (load frame slack) interface ∧
      (freeSlot x.before.cache.entries).isSome = true ∧
      e = ⟨arSha (load frame slack), arSip (load frame slack), x.before.now env, true⟩ := by
  obtain ⟨before,event,fuel⟩ := x
  cases event with
  | receive frame slack interface =>
    simp only [announcedBy, Option.ite_none_right_eq_some, Option.some.injEq, Event.receive.injEq]
    constructor
    · rintro ⟨⟨hst,hf⟩,rfl⟩
      exact ⟨frame, slack, interface, ⟨rfl,rfl,rfl⟩, hst, hf, rfl⟩
    · rintro ⟨frame',slack',interface',⟨rfl,rfl,rfl⟩,hst,hf,rfl⟩
      exact ⟨⟨hst,hf⟩,rfl⟩
  | expiry | sweep => simp [announcedBy]

/-- What an event does to the table: nothing, or it fills a free slot, or it lets entries
expire. -/
inductive TableStep (env : Env) (x : Happening) : Entries → Prop where
  | quiet : announcedBy env x = none → expiryAt env x = none →
      TableStep env x x.before.cache.entries
  | announced {i : Fin SR_ARPCACHE_SZ} {e : SrArpentry} : announcedBy env x = some e →
      expiryAt env x = none → e.valid = true → (x.before.cache.entries i).valid = false →
      TableStep env x (Function.update x.before.cache.entries i e)
  | expired {t : ℤ} : announcedBy env x = none → expiryAt env x = some t →
      TableStep env x (expireEntries x.before.cache.entries t)

theorem tableStep (env : Env) (s : SrInstance) (ev : Event) (fuel : ℕ) :
    TableStep env ⟨s,ev,fuel⟩ (finalState (handle env fuel ev s)).cache.entries := by
  rw [handle_entries]
  cases ev with
  | receive frame slack interface =>
    by_cases hst : StoresReply s (load frame slack) interface
    · rw [entriesAfter_of_stores hst, insertEntry]
      cases hf : freeSlot s.cache.entries with
      | none => exact TableStep.quiet (if_neg fun hn => by simp [hf] at hn) rfl
      | some i =>
        have hfree := ((freeSlot_eq_some_iff _ i).mp hf).1
        exact TableStep.announced (if_pos ⟨hst, by rw [hf]; rfl⟩) rfl rfl hfree
    · rw [entriesAfter_of_not_stores hst]
      exact TableStep.quiet (if_neg fun hn => hst hn.1) rfl
  | expiry => exact TableStep.expired rfl rfl
  | sweep => exact TableStep.quiet rfl rfl

/-- One more event, whatever it is and however far it gets. -/
theorem Accounts.next {x : Happening} {entries' : Entries}
    (ha : Accounts env h x.before.cache.entries g) (hx : TableStep env x entries') :
    ∃ g', Accounts env (h ++ [x]) entries' g' := by
  cases hx with
  | quiet hann hexp => exact ⟨g, ha.quiet hann hexp⟩
  | announced hann hexp he hfree => exact ⟨_, ha.announced hfree he hann hexp⟩
  | expired hann hexp => exact ⟨g, ha.expired hann hexp⟩

theorem Initial.accounts (h₀ : Initial s₀) (g : Fin SR_ARPCACHE_SZ → ℕ) :
    Accounts env [] s₀.cache.entries g where
  live i hi := by
    rw [h₀.cache] at hi
    contradiction
  injOn i hi := by
    have hv : (s₀.cache.entries i).valid = true := hi
    rw [h₀.cache] at hv
    contradiction
  surjOn k e hl := absurd hl.lt_length (Nat.not_lt_zero k)

theorem History.accounts (h₀ : Initial s₀) (hh : History env s₀ h s) :
    ∃ g, Accounts env h s.cache.entries g := by
  induction hh with
  | start => exact ⟨fun _ => 0, h₀.accounts _⟩
  | next ev fuel _ ih =>
    obtain ⟨g,hg⟩ := ih
    exact hg.next (tableStep env _ ev fuel)

/-- What a history says about the table of mappings. -/
structure Explained (env : Env) (h : List Happening) (s : SrInstance) : Prop where
  corresponds : ∃ g : Fin SR_ARPCACHE_SZ → ℕ,
    Set.BijOn g {i | (s.cache.entries i).valid = true} {k | ∃ e, Live env h k e} ∧
      ∀ i, (s.cache.entries i).valid = true → Live env h (g i) (s.cache.entries i)
  overwrites : ∀ mac ip i, (s.cache.entries i).valid = true →
    (finalState (srArpcacheInsert env mac ip s)).cache.entries i = s.cache.entries i
  announced : ∀ ip e, srArpcacheLookup s.cache.entries ip = some e →
    ∃ x ∈ h, ∃ frame slack interface, x.event = .receive frame slack interface ∧
      StoresReply x.before (load frame slack) interface ∧
      arSip (load frame slack) = ip ∧ arSha (load frame slack) = e.mac

theorem insertEntry_of_valid {i : Fin SR_ARPCACHE_SZ} (hi : (entries i).valid = true) (mac : Six)
    (ip : UInt32) (now : ℤ) : insertEntry entries mac ip now i = entries i := by
  rw [insertEntry]
  cases hf : freeSlot entries with
  | none => rfl
  | some j =>
    have hfree := ((freeSlot_eq_some_iff entries j).mp hf).1
    have hij : i ≠ j := by
      rintro rfl
      rw [hfree] at hi
      contradiction
    exact Function.update_of_ne hij _ _

/-- Whatever happens, the valid entries of the ARP cache are the announcements that found a
free slot and have not expired. -/
theorem cache_is_live_announcements (h₀ : Initial s₀) (hh : History env s₀ h s) :
    Explained env h s := by
  obtain ⟨g,hg⟩ := hh.accounts h₀
  refine ⟨⟨g,⟨?_,hg.injOn,?_⟩,hg.live⟩, ?_, ?_⟩
  · intro i hi
    exact ⟨_, hg.live i hi⟩
  · rintro k ⟨e,he⟩
    exact hg.surjOn k e he
  · intro mac ip i hi
    rw [srArpcacheInsert_apply, finalState, insertedState_entries]
    exact insertEntry_of_valid hi mac ip _
  · intro ip e he
    -- the entry found is valid, so some event announced it
    obtain ⟨i,rfl,hp,-⟩ := (lastMatch_eq_some_iff _ _ _).mp he
    obtain ⟨hv,hip⟩ := (maps_iff _ _).mp hp
    obtain ⟨x,hx,hann⟩ := (hg.live i hv).mem
    obtain ⟨frame,slack,interface,hev,hst,-,heq⟩ := announcedBy_eq_some_iff.mp hann
    refine ⟨x, hx, frame, slack, interface, hev, hst, ?_, ?_⟩
    · rw [← hip, heq]
    · rw [heq]

theorem cache_is_live_announcements_smallRouter :
    let reply : Event := .receive arpReplyToEth1 (fun _ => 0) eth1
    let s₁ := after obligingHost 1 reply smallRouter
    let s₂ := after obligingHost 1 .expiry s₁
    Explained obligingHost [⟨smallRouter,reply,1⟩, ⟨s₁,.expiry,1⟩, ⟨s₂,reply,1⟩]
      (after obligingHost 1 reply s₂) :=
  cache_is_live_announcements smallRouter_initial
    (((History.start.next _ 1).next _ 1).next _ 1)

end InternetCourse.Router
