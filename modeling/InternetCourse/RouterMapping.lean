import InternetCourse.RouterArpcache

/-! When a new mapping takes effect. Insertion fills the first free slot and lookup
returns the last match, so an older entry in a later slot hides the new one. -/
namespace InternetCourse.Router

open ByteMem SlotTable StateTriple

/-- The MAC address `sr_arpcache_lookup` answers with. -/
def mappedMac (entries : Entries) (ip : UInt32) : Option Six :=
  (srArpcacheLookup entries ip).map SrArpentry.mac

/-- A valid entry for `ip`. -/
def Maps (e : SrArpentry) (ip : UInt32) : Prop := e.valid = true ∧ e.ip = ip

instance (e : SrArpentry) (ip : UInt32) : Decidable (Maps e ip) :=
  inferInstanceAs (Decidable (_ ∧ _))

/-- Slot `k` holds the last valid entry for `ip` in slot order, and its MAC is `mac`. -/
structure LastEntry (entries : Entries) (ip : UInt32) (mac : Six) (k : Fin SR_ARPCACHE_SZ) :
    Prop where
  maps : Maps (entries k) ip
  mac_eq : (entries k).mac = mac
  last : ∀ l, k < l → ¬Maps (entries l) ip

/-- No entry hides the mapping: from the first free slot on there is no entry for
`ip`, or the last of them says the same; with no slot free, the table says so already. -/
def NothingHides (entries : Entries) (mac : Six) (ip : UInt32) : Prop :=
  (∃ i, (entries i).valid = false ∧ (∀ j < i, (entries j).valid = true) ∧
    ((∀ k, i < k → ¬Maps (entries k) ip) ∨ ∃ k, i < k ∧ LastEntry entries ip mac k)) ∨
  ((∀ i, (entries i).valid = true) ∧ ∃ k, LastEntry entries ip mac k)

/-- The new mapping is looked up, and with a slot free no other mapping changes. -/
def TakesEffect (entries entries' : Entries) (mac : Six) (ip : UInt32) : Prop :=
  mappedMac entries' ip = some mac ∧
    ((∃ i, (entries i).valid = false) →
      ∀ ip', ip' ≠ ip → mappedMac entries' ip' = mappedMac entries ip')

theorem maps_iff (e : SrArpentry) (ip : UInt32) :
    (e.valid && e.ip == ip) = true ↔ Maps e ip := by
  simp only [Maps, Bool.and_eq_true, beq_iff_eq]

theorem not_maps_iff (e : SrArpentry) (ip : UInt32) :
    (e.valid && e.ip == ip) = false ↔ ¬Maps e ip := by
  rw [← maps_iff, Bool.not_eq_true]

theorem mappedMac_eq_some_iff (entries : Entries) (ip : UInt32) (mac : Six) :
    mappedMac entries ip = some mac ↔ ∃ k, LastEntry entries ip mac k := by
  simp only [mappedMac, srArpcacheLookup, Option.map_eq_some_iff, lastMatch_eq_some_iff,
    maps_iff, not_maps_iff]
  constructor
  · rintro ⟨e,⟨k,rfl,hp,hlast⟩,hm⟩
    exact ⟨k, hp, hm, hlast⟩
  · rintro ⟨k,hk⟩
    exact ⟨entries k, ⟨k, rfl, hk.maps, hk.last⟩, hk.mac_eq⟩

theorem freeSlot_eq_some_iff (entries : Entries) (i : Fin SR_ARPCACHE_SZ) :
    freeSlot entries = some i ↔
      (entries i).valid = false ∧ ∀ j < i, (entries j).valid = true := by
  simp only [freeSlot, firstSlot_eq_some_iff, Bool.not_eq_true', Bool.not_eq_false']

theorem freeSlot_eq_none_iff (entries : Entries) :
    freeSlot entries = none ↔ ∀ i, (entries i).valid = true := by
  simp only [freeSlot, firstSlot_eq_none_iff, Bool.not_eq_false']

/-- With a slot free, the new mapping is found unless a later slot has the last word. -/
theorem mappedMac_insert_free {entries : Entries} {i : Fin SR_ARPCACHE_SZ}
    (hi : freeSlot entries = some i) (mac : Six) (ip : UInt32) (now : ℤ) :
    mappedMac (insertEntry entries mac ip now) ip = some mac ↔
      (∀ k, i < k → ¬Maps (entries k) ip) ∨ ∃ k, i < k ∧ LastEntry entries ip mac k := by
  have hnew := lastMatch_update_accepted (p := fun e => e.valid && e.ip == ip) (t := entries)
    (i := i) (e := ⟨mac, ip, now, true⟩) (by simp)
  simp only [mappedMac, srArpcacheLookup, insertEntry, hi, Option.map_eq_some_iff, hnew,
    maps_iff, not_maps_iff]
  constructor
  · rintro ⟨e,⟨rfl,hlast⟩ | ⟨k,hik,rfl,hp,hlast⟩,hm⟩
    · exact Or.inl hlast
    · exact Or.inr ⟨k, hik, hp, hm, hlast⟩
  · rintro (hlast | ⟨k,hik,hk⟩)
    · exact ⟨_, Or.inl ⟨rfl,hlast⟩, rfl⟩
    · exact ⟨_, Or.inr ⟨k, hik, rfl, hk.maps, hk.last⟩, hk.mac_eq⟩

/-- The slot written to was free, so no other address loses or gains a mapping. -/
theorem mappedMac_insert_other (entries : Entries) (mac : Six) {ip ip' : UInt32} (now : ℤ)
    (hne : ip' ≠ ip) : mappedMac (insertEntry entries mac ip now) ip' = mappedMac entries ip' := by
  cases hi : freeSlot entries with
  | none => simp only [insertEntry, hi]
  | some i =>
    have hfree := ((freeSlot_eq_some_iff entries i).mp hi).1
    simp only [mappedMac, srArpcacheLookup, insertEntry, hi]
    rw [lastMatch_update_rejected]
    · simp [hne.symm]
    · simp [hfree]

/-- A new mapping takes effect exactly when no entry hides it. -/
theorem insert_takesEffect_iff (env : Env) (s : SrInstance) (mac : Six) (ip : UInt32) :
    TakesEffect s.cache.entries (finalState (srArpcacheInsert env mac ip s)).cache.entries mac ip ↔
      NothingHides s.cache.entries mac ip := by
  rw [srArpcacheInsert_apply, finalState, insertedState_entries]
  have hother : ∀ ip', ip' ≠ ip →
      mappedMac (insertEntry s.cache.entries mac ip (env.time s.log.times)) ip' =
        mappedMac s.cache.entries ip' := fun ip' hne => mappedMac_insert_other _ _ _ hne
  have heffect : TakesEffect s.cache.entries
      (insertEntry s.cache.entries mac ip (env.time s.log.times)) mac ip ↔
      mappedMac (insertEntry s.cache.entries mac ip (env.time s.log.times)) ip = some mac :=
    ⟨And.left, fun h => ⟨h, fun _ => hother⟩⟩
  rw [heffect]
  -- with a free slot the mapping is stored; else it may have been there before
  cases hi : freeSlot s.cache.entries with
  | some i =>
    obtain ⟨hfree,hbefore⟩ := (freeSlot_eq_some_iff _ _).mp hi
    rw [mappedMac_insert_free hi]
    constructor
    · exact fun h => Or.inl ⟨i, hfree, hbefore, h⟩
    · rintro (⟨j,hj,hjb,h⟩ | ⟨hall,-⟩)
      · have hij : i = j := by
          have := hi.symm.trans ((freeSlot_eq_some_iff _ _).mpr ⟨hj,hjb⟩)
          exact Option.some.inj this
        rwa [hij]
      · rw [hall i] at hfree
        contradiction
  | none =>
    have hall := (freeSlot_eq_none_iff _).mp hi
    simp only [insertEntry, hi]
    rw [mappedMac_eq_some_iff]
    constructor
    · exact fun h => Or.inr ⟨hall,h⟩
    · rintro (⟨j,hj,-,-⟩ | ⟨-,h⟩)
      · rw [hall j] at hj
        contradiction
      · exact h

/-- The states a cache passes through, by insertions and expiry passes from its initialisation. -/
inductive CacheReachable (env : Env) : SrInstance → Prop where
  | init {s : SrInstance} : s.cache = srArpcacheInit → CacheReachable env s
  | insert {s s' : SrInstance} {mac : Six} {ip : UInt32} {r : Option SrArpreq} :
      CacheReachable env s → srArpcacheInsert env mac ip s = .ok r s' → CacheReachable env s'
  | expire {s s' : SrInstance} :
      CacheReachable env s → srArpcacheExpire env s = .ok () s' → CacheReachable env s'

theorem CacheReachable.insert_finalState {env : Env} {s : SrInstance} (h : CacheReachable env s)
    (mac : Six) (ip : UInt32) : CacheReachable env (finalState (srArpcacheInsert env mac ip s)) := by
  rw [srArpcacheInsert_apply]
  exact CacheReachable.insert h (srArpcacheInsert_apply env mac ip s)

theorem CacheReachable.expire_finalState {env : Env} {s : SrInstance} (h : CacheReachable env s) :
    CacheReachable env (finalState (srArpcacheExpire env s)) := CacheReachable.expire h rfl

/-- Slot 0 is filled at time 0 and expires at time 16, when the mapping of address 9
made at time 10 sits in slot 1: announcing 9 at a new MAC then leaves the old one in force. -/
theorem insert_hidden_by_later_slot : ∃ (env : Env) (s : SrInstance) (mac : Six) (ip : UInt32),
    CacheReachable env s ∧ ¬TakesEffect s.cache.entries
      (finalState (srArpcacheInsert env mac ip s)).cache.entries mac ip := by
  let env : Env := ⟨fun n => [0, 10, 16, 17].getD n 17, fun _ _ => 0, fun _ n => n, some⟩
  let s₀ : SrInstance := ⟨[], [], srArpcacheInit, Log.empty⟩
  let s₁ := finalState (srArpcacheInsert env (fun _ => 1) 8 s₀)
  let s₂ := finalState (srArpcacheInsert env (fun _ => 2) 9 s₁)
  let s₃ := finalState (srArpcacheExpire env s₂)
  refine ⟨env, s₃, fun _ => 3, 9, ?_, ?_⟩
  · have h₀ : CacheReachable env s₀ := CacheReachable.init rfl
    have h₁ : CacheReachable env s₁ := h₀.insert_finalState _ _
    have h₂ : CacheReachable env s₂ := h₁.insert_finalState _ _
    exact h₂.expire_finalState
  · intro h
    -- slot 0 is free again, so the new mapping goes there; slot 1 comes after it
    have hmac : mappedMac (finalState (srArpcacheInsert env (fun _ => 3) 9 s₃)).cache.entries 9 =
        some (fun _ => 2) := by decide +kernel
    rw [h.1] at hmac
    have hne : (some (fun _ => 3) : Option Six) ≠ some (fun _ => 2) := by decide
    exact hne hmac

end InternetCourse.Router
