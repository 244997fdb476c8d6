import InternetCourse.RouterRun

/-! Longest-prefix match, against what `longest_prefix_sum` looks up. -/
namespace InternetCourse.Router

open ByteMem

/-- How many ones a mask begins with. It is kept in network order, as addresses are. -/
def maskLength (mask : UInt32) : ℕ :=
  ((List.range 32).takeWhile fun k => (swap32 mask).toNat.testBit (31-k)).length

/-- The address is in the network the route is for. -/
def SrRt.Covers (rt : SrRt) (ip : UInt32) : Prop := rt.dest &&& rt.mask = ip &&& rt.mask

instance (rt : SrRt) (ip : UInt32) : Decidable (rt.Covers ip) := inferInstanceAs (Decidable (_ = _))

/-- The result of a longest-prefix match: of the routes that cover the address, one with the
longest mask, and none if there is none. -/
def IsLongestPrefix (table : List SrRt) (ip : UInt32) : Option SrRt → Prop
  | none => ∀ e ∈ table, ¬e.Covers ip
  | some rt => rt ∈ table ∧ rt.Covers ip ∧
      ∀ e ∈ table, e.Covers ip → maskLength e.mask ≤ maskLength rt.mask

/-- The first route for the address itself. -/
def FirstHostRoute (table : List SrRt) (ip : UInt32) (rt : SrRt) : Prop :=
  ∃ pre post, table = pre ++ rt :: post ∧ rt.dest = ip ∧ ∀ g ∈ pre, g.dest ≠ ip

/-- Each route that covers the address has a mask no longer than that of the first route for
the address itself. -/
def HostRouteLongest (table : List SrRt) (ip : UInt32) : Prop :=
  ∀ e ∈ table, e.Covers ip → ∃ rt, FirstHostRoute table ip rt ∧
    maskLength e.mask ≤ maskLength rt.mask

section Prefix

variable {table : List SrRt} {ip : UInt32} {rt : SrRt}

theorem FirstHostRoute.mem (h : FirstHostRoute table ip rt) : rt ∈ table := by
  obtain ⟨pre,post,rfl,-,-⟩ := h
  exact List.mem_append_right pre List.mem_cons_self

theorem FirstHostRoute.covers (h : FirstHostRoute table ip rt) : rt.Covers ip := by
  obtain ⟨pre,post,-,hd,-⟩ := h
  rw [SrRt.Covers, hd]

/-- `longest_prefix_sum` finds the first route for the address itself. -/
theorem longestPrefixSum_eq_some_iff :
    longestPrefixSum table ip = some rt ↔ FirstHostRoute table ip rt := by
  rw [longestPrefixSum, List.find?_eq_some_iff_append, FirstHostRoute]
  constructor
  · rintro ⟨hd,pre,post,rfl,hpre⟩
    refine ⟨pre, post, rfl, (beq_iff_eq.mp hd).symm, ?_⟩
    intro g hg he
    have hne := hpre g hg
    simp [he] at hne
  · rintro ⟨pre,post,rfl,hd,hpre⟩
    refine ⟨beq_iff_eq.mpr hd.symm, pre, post, rfl, ?_⟩
    intro g hg
    simpa using (hpre g hg).symm

end Prefix

/-- The lookup is a longest-prefix match exactly where no mask is longer than that of the route
it finds, and it finds one if there is any. -/
theorem longestPrefixSum_isLongestPrefix_iff (table : List SrRt) (ip : UInt32) :
    IsLongestPrefix table ip (longestPrefixSum table ip) ↔ HostRouteLongest table ip := by
  cases hl : longestPrefixSum table ip with
  | none =>
    have hno (rt : SrRt) : ¬FirstHostRoute table ip rt := by
      intro hrt
      have hs := longestPrefixSum_eq_some_iff.mpr hrt
      rw [hl] at hs
      contradiction
    constructor
    · intro h e he hc
      exact absurd hc (h e he)
    · intro h e he hc
      obtain ⟨rt,hrt,-⟩ := h e he hc
      exact hno rt hrt
  | some rt =>
    have hrt := longestPrefixSum_eq_some_iff.mp hl
    constructor
    · rintro ⟨-,-,hlongest⟩ e he hc
      exact ⟨rt, hrt, hlongest e he hc⟩
    · intro h
      refine ⟨hrt.mem, hrt.covers, ?_⟩
      intro e he hc
      obtain ⟨rt',hrt',hle⟩ := h e he hc
      have hsame : some rt' = some rt := (longestPrefixSum_eq_some_iff.mpr hrt').symm.trans hl
      rwa [Option.some.inj hsame] at hle

def eth3 : CName := [101, 116, 104, 51]

def eth2 : CName := [101, 116, 104, 50]

/-- The table in INSTRUCTIONS. -/
def sampleTable : List SrRt :=
  [⟨0, address 10 0 1 1, 0, eth3⟩,
    ⟨address 107 21 41 195, address 107 21 41 195, address 255 255 255 255, eth1⟩,
    ⟨address 107 21 17 29, address 107 21 17 29, address 255 255 255 255, eth2⟩]

/-- The default route is not found. -/
theorem sampleTable_default_not_found :
    longestPrefixSum sampleTable (address 8 8 8 8) = none ∧
      ¬IsLongestPrefix sampleTable (address 8 8 8 8)
        (longestPrefixSum sampleTable (address 8 8 8 8)) := by
  have hl : longestPrefixSum sampleTable (address 8 8 8 8) = none := by decide +kernel
  refine ⟨hl, ?_⟩
  rw [hl]
  intro h
  exact h _ List.mem_cons_self (by decide +kernel)

end InternetCourse.Router
