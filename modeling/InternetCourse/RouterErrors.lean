import InternetCourse.RouterReach

/-! The length of the ICMP error messages. The handlers build 70 bytes, and hand
`sr_send_packet` the length of the packet the message is about. -/
namespace InternetCourse.Router

open ByteMem StateTriple

def IsIcmpError (c : SendCall) : Prop :=
  c.emitter = .timeExceeded ∨ c.emitter = .destHostUnreach ∨ c.emitter = .portUnreach

instance (c : SendCall) : Decidable (IsIcmpError c) := inferInstanceAs (Decidable (_ ∨ _ ∨ _))

/-- The length sent is the one the IP header declares, and that of the buffer. -/
def SentAsDeclared (c : SendCall) : Prop :=
  c.len = sizeofEthernetHdr+(ntohs (ipLen c.buf)).toNat ∧ c.len = sizeofIcmpError

instance (c : SendCall) : Decidable (SentAsDeclared c) := inferInstanceAs (Decidable (_ ∧ _))

variable {env : Env}

/-- An error message about a packet of `n` bytes is sent with `n` bytes. -/
theorem error_length_hereditary (n : ℕ) : Hereditary env (fun p => p.len = n)
    (fun c => IsIcmpError c → c.len = n ∧ ntohs (ipLen c.buf) = 56) where
  copy _ _ _ hp := hp
  forward _ _ _ _ _ _ he := by simp [IsIcmpError, forwardCall] at he
  error _ _ hp hx _ := ⟨hx.len.trans hp, hx.declared⟩
  reply x hx he := by
    rcases hx with hx | hx <;> simp [IsIcmpError, hx] at he

theorem sentAsDeclared_iff {c : SendCall} (h : ntohs (ipLen c.buf) = 56) :
    SentAsDeclared c ↔ c.len = 70 := by
  rw [SentAsDeclared, h]
  exact and_self_iff

/-- A received frame makes the router send an error message of the declared length, at once
or at any later time, if and only if the frame is 70 bytes long. -/
theorem icmpError_sentAsDeclared_iff {s₀ s s' : SrInstance} {frame : List UInt8} {slack : Mem}
    {interface : CName} (h₀ : Initial s₀) (hbefore : Run env s₀ s)
    (hafter : ObservableAfter env frame slack interface s s') {c : SendCall}
    (hc : c ∈ s'.log.sends) (hfrom : c.origin = some s.log.arrivals) (herr : IsIcmpError c) :
    SentAsDeclared c ↔ frame.length = 70 := by
  -- by way of faithful copies, however long the packet waited
  have hsent := hafter.sends (error_length_hereditary frame.length) (hbefore.tagged h₀.tagged)
    (fun _ => rfl) c hc hfrom herr
  rw [sentAsDeclared_iff hsent.2, hsent.1]

/-- The transit packet at the end of its life: its time to live is one. -/
def expiringFrame : List UInt8 := (transitFrame.set 22 1).set 24 0xa4

/-- The small router when it has sent its Time Exceeded. -/
def expiredRouter : SrInstance :=
  after obligingHost 1 (.receive expiringFrame (fun _ => 0) eth0) smallRouter

/-- A packet of 34 bytes is answered with the first 34 of the 70 bytes of the message. -/
theorem timeExceeded_cut_off :
    ∃ c ∈ expiredRouter.log.sends, IsIcmpError c ∧ c.len = 34 ∧ ¬SentAsDeclared c := by
  decide +kernel

theorem icmpError_sentAsDeclared_iff_expiring :
    ∃ c ∈ expiredRouter.log.sends, SentAsDeclared c ↔ expiringFrame.length = 70 := by
  have hsent : ∃ c ∈ expiredRouter.log.sends, c.origin = some 0 ∧ IsIcmpError c := by
    decide +kernel
  obtain ⟨c,hc,hfrom,herr⟩ := hsent
  have hafter : ObservableAfter obligingHost expiringFrame (fun _ => 0) eth0 smallRouter
      expiredRouter := Or.inl ⟨1,rfl⟩
  exact ⟨c, hc, icmpError_sentAsDeclared_iff smallRouter_initial Relation.ReflTransGen.refl
    hafter hc hfrom herr⟩

end InternetCourse.Router
