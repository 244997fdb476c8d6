import InternetCourse.RouterHistory
import Mathlib.Data.Finset.Card

/-! Two entries for one address. `sr_arpcache_insert` fills the first free slot without a
look at the others, so a reply that repeats a mapping gets a slot of its own. -/
namespace InternetCourse.Router

open ByteMem SlotTable StateTriple

/-- At most one valid entry per address. -/
def OnePerAddress (entries : Entries) : Prop :=
  ∀ i j, (entries i).valid = true → (entries j).valid = true →
    (entries i).ip = (entries j).ip → i = j

instance (entries : Entries) : Decidable (OnePerAddress entries) :=
  inferInstanceAs (Decidable (∀ _, ∀ _, _ → _ → _ → _))

def validSlots (entries : Entries) : Finset (Fin SR_ARPCACHE_SZ) :=
  Finset.univ.filter fun i => (entries i).valid = true

/-- The addresses announced in a history. -/
def announcedAddresses (env : Env) (h : List Happening) : Finset UInt32 :=
  ((h.filterMap (announcedBy env)).map SrArpentry.ip).toFinset

/-- No address has two slots, and the announced addresses take up one slot each at most. -/
structure Frugal (env : Env) (h : List Happening) (s : SrInstance) : Prop where
  onePerAddress : OnePerAddress s.cache.entries
  slots : (validSlots s.cache.entries).card ≤ (announcedAddresses env h).card

/-- What an event announces has no valid entry yet. -/
def AnnouncesNew (env : Env) (x : Happening) : Prop :=
  ∀ e, announcedBy env x = some e → ∀ i, ¬Maps (x.before.cache.entries i) e.ip

variable {env : Env} {s₀ s s' : SrInstance} {h h' : List Happening} {x : Happening}

theorem History.snoc_iff : History env s₀ (h ++ [x]) s ↔
    History env s₀ h x.before ∧ s = finalState (handle env x.fuel x.event x.before) := by
  constructor
  · generalize hl : h ++ [x] = l
    intro hh
    cases hh with
    | start => simp at hl
    | next ev fuel hh =>
      obtain ⟨rfl,hx⟩ := List.append_inj' hl rfl
      obtain rfl := List.singleton_inj.mp hx
      exact ⟨hh,rfl⟩
  · rintro ⟨hh,rfl⟩
    exact History.next x.event x.fuel hh

/-- A history leaves one state only. -/
theorem History.unique (hh : History env s₀ h s) (hh' : History env s₀ h s') : s = s' := by
  induction hh generalizing s' with
  | start =>
    generalize hl : ([] : List Happening) = l at hh'
    cases hh' with
    | start => rfl
    | next => simp at hl
  | next ev fuel _ ih => exact (History.snoc_iff.mp hh').2.symm

theorem onePerAddress_of_initial (h₀ : Initial s₀) : OnePerAddress s₀.cache.entries := by
  intro i j hi
  rw [h₀.cache] at hi
  contradiction

theorem OnePerAddress.expire {entries : Entries} (ho : OnePerAddress entries) (t : ℤ) :
    OnePerAddress (expireEntries entries t) := by
  intro i j hi hj hip
  rw [expireEntries_of_valid hi, expireEntries_of_valid hj] at hip
  exact ho i j ((expireEntries_valid_iff _ _ _).mp hi).1 ((expireEntries_valid_iff _ _ _).mp hj).1 hip

/-- Filling a free slot keeps the addresses apart exactly if the new one is not there yet. -/
theorem onePerAddress_update_iff {entries : Entries} {i : Fin SR_ARPCACHE_SZ} {e : SrArpentry}
    (ho : OnePerAddress entries) (hfree : (entries i).valid = false) (he : e.valid = true) :
    OnePerAddress (Function.update entries i e) ↔ ∀ j, ¬Maps (entries j) e.ip := by
  constructor
  · rintro hu j ⟨hv,hip⟩
    have hji : j ≠ i := by
      rintro rfl
      rw [hfree] at hv
      contradiction
    refine hji (hu j i ?_ ?_ ?_)
    · rwa [Function.update_of_ne hji]
    · rwa [Function.update_self]
    · rwa [Function.update_of_ne hji, Function.update_self]
  · intro hn j k hj hk hip
    by_cases hji : j = i <;> by_cases hki : k = i
    · rw [hji, hki]
    · rw [hji, Function.update_self, Function.update_of_ne hki] at hip
      rw [Function.update_of_ne hki] at hk
      exact absurd ⟨hk,hip.symm⟩ (hn k)
    · rw [hki, Function.update_self, Function.update_of_ne hji] at hip
      rw [Function.update_of_ne hji] at hj
      exact absurd ⟨hj,hip⟩ (hn j)
    · rw [Function.update_of_ne hji] at hj hip
      rw [Function.update_of_ne hki] at hk hip
      exact ho j k hj hk hip

/-- What one event does to the property. -/
theorem onePerAddress_next_iff {entries : Entries} (ho : OnePerAddress x.before.cache.entries)
    (hx : TableStep env x entries) : OnePerAddress entries ↔ AnnouncesNew env x := by
  have hquiet (hann : announcedBy env x = none) : AnnouncesNew env x := by
    intro e he
    rw [hann] at he
    contradiction
  cases hx with
  | quiet hann _ => exact iff_of_true ho (hquiet hann)
  | expired hann _ => exact iff_of_true (ho.expire _) (hquiet hann)
  | announced hann _ he hfree =>
    rw [onePerAddress_update_iff ho hfree he, AnnouncesNew, hann]
    constructor
    · intro hn e heq
      obtain rfl := Option.some.inj heq
      exact hn
    · intro hn
      exact hn _ rfl

theorem mem_announcedAddresses {ip : UInt32} : ip ∈ announcedAddresses env h ↔
    ∃ x ∈ h, ∃ e, announcedBy env x = some e ∧ e.ip = ip := by
  simp only [announcedAddresses, List.mem_toFinset, List.mem_map, List.mem_filterMap]
  constructor
  · rintro ⟨e,⟨x,hx,he⟩,hip⟩
    exact ⟨x, hx, e, he, hip⟩
  · rintro ⟨x,hx,e,he,hip⟩
    exact ⟨e, ⟨x,hx,he⟩, hip⟩

/-- With the addresses apart, each slot taken stands for an address announced. -/
theorem History.frugal_iff (h₀ : Initial s₀) (hh : History env s₀ h s) :
    Frugal env h s ↔ OnePerAddress s.cache.entries := by
  refine ⟨Frugal.onePerAddress, fun ho => ⟨ho,?_⟩⟩
  obtain ⟨g,hg⟩ := hh.accounts h₀
  apply Finset.card_le_card_of_injOn fun i => (s.cache.entries i).ip
  · intro i hi
    have hv : (s.cache.entries i).valid = true := (Finset.mem_filter.mp hi).2
    obtain ⟨x,hx,he⟩ := (hg.live i hv).mem
    exact mem_announcedAddresses.mpr ⟨x, hx, _, he, rfl⟩
  · intro i hi j hj hip
    exact ho i j (Finset.mem_filter.mp hi).2 (Finset.mem_filter.mp hj).2 hip

/-- All along a history no address has two slots, exactly if every reply that stores a
mapping does so for an address without a valid entry. -/
theorem frugal_iff_announcesNew (h₀ : Initial s₀) (hh : History env s₀ h s) :
    (∀ h' s', History env s₀ h' s' → h' <+: h → Frugal env h' s') ↔
      ∀ x ∈ h, AnnouncesNew env x := by
  -- by induction on the history: only its last event is new, and the table before it is frugal
  induction hh with
  | start =>
    refine iff_of_true ?_ (by simp)
    intro h' s' hh' hp
    obtain rfl := List.prefix_nil.mp hp
    obtain rfl := hh'.unique History.start
    exact (hh'.frugal_iff h₀).mpr (onePerAddress_of_initial h₀)
  | @next h s ev fuel hh ih =>
    have hlast := History.next ev fuel hh
    have hstep := tableStep env s ev fuel
    constructor
    · intro hall x hx
      have hbefore := ih.mp fun h' s' hh' hp => hall h' s' hh' (hp.trans (List.prefix_append h _))
      rcases List.mem_append.mp hx with hx | hx
      · exact hbefore x hx
      · obtain rfl := List.mem_singleton.mp hx
        have ho := (hall h s hh (List.prefix_append h _)).onePerAddress
        exact (onePerAddress_next_iff ho hstep).mp (hall _ _ hlast List.prefix_rfl).onePerAddress
    · intro hnew h' s' hh' hp
      have hbefore := ih.mpr fun x hx => hnew x (List.mem_append_left _ hx)
      rcases List.prefix_concat_iff.mp hp with rfl | hp
      · obtain rfl := hh'.unique hlast
        have ho := (hbefore h s hh List.prefix_rfl).onePerAddress
        have hx := hnew ⟨s,ev,fuel⟩ (List.mem_append_right h List.mem_cons_self)
        exact (hh'.frugal_iff h₀).mpr ((onePerAddress_next_iff ho hstep).mpr hx)
      · exact hbefore h' s' hh' hp

/-- The same reply twice: the mapping sits in two slots. -/
theorem repeated_reply_takes_two_slots :
    let ev : Event := .receive arpReplyToEth1 (fun _ => 0) eth1
    let s₁ := after obligingHost 1 ev smallRouter
    let h : List Happening := [⟨smallRouter,ev,1⟩, ⟨s₁,ev,1⟩]
    History obligingHost smallRouter h (after obligingHost 1 ev s₁) ∧
      ¬Frugal obligingHost h (after obligingHost 1 ev s₁) := by
  refine ⟨History.next _ 1 (History.next _ 1 History.start), ?_⟩
  intro hf
  have hsame : (⟨0, by decide⟩ : Fin SR_ARPCACHE_SZ) = ⟨1, by decide⟩ := by
    apply hf.onePerAddress
    all_goals decide +kernel
  exact absurd hsame (by decide)

theorem frugal_iff_announcesNew_smallRouter :
    let ev : Event := .receive arpReplyToEth1 (fun _ => 0) eth1
    let s₁ := after obligingHost 1 ev smallRouter
    let s₂ := after obligingHost 1 .expiry s₁
    let h : List Happening := [⟨smallRouter,ev,1⟩, ⟨s₁,.expiry,1⟩, ⟨s₂,ev,1⟩]
    (∀ h' s', History obligingHost smallRouter h' s' → h' <+: h → Frugal obligingHost h' s') ↔
      ∀ x ∈ h, AnnouncesNew obligingHost x :=
  frugal_iff_announcesNew smallRouter_initial (((History.start.next _ 1).next _ 1).next _ 1)

end InternetCourse.Router
