import InternetCourse.RouterFraming
import Mathlib.Data.List.TakeWhile

/-! The message `sr_send_packet` puts a frame into (c_packet_header), and what the other side finds
in it by the layout of c_packet_ethernet_header. -/
namespace InternetCourse.Router

open ByteMem StateTriple TracedState PartialRead

/-- What `strncpy` writes into a field: the string, and zeros up to the end. -/
def strncpyField (src : CName) : Mem := fun i => (src.takeWhile (· ≠ 0)).getD i 0

/-- The message in the buffer `srPkt` that was allocated for it. -/
def packetMessage (srPkt buf : Mem) (len : ℕ) (iface : CName) : Mem :=
  let m := put32 srPkt 0 (htonl (UInt32.ofNat (len+sizeofPacketHeader)))
  let m := put32 m 4 (htonl VNSPACKET)
  let m := memcpy m 8 (strncpyField iface) 16
  memcpy m sizeofPacketHeader buf len

/-- The bytes `sr_send_packet` passes to `write`, if it comes to that. -/
def srSendPacketWrites (s : SrInstance) (srPkt buf : Mem) (len : ℕ) (iface : CName) :
    Option (List UInt8) :=
  if len < sizeofEthernetHdr then none
  else if !srEtherAddrsMatchInterface s.ifList buf iface then none
  else some (wire (packetMessage srPkt buf len iface) (len+sizeofPacketHeader))

/-- The value `sr_send_packet` returns tells whether all of them were written. -/
theorem sendResult_of_writes (env : Env) (s : SrInstance) (srPkt buf : Mem) (len : ℕ)
    (iface : CName) : sendResult env s buf len iface =
      match srSendPacketWrites s srPkt buf len iface with
      | none => -1
      | some message =>
        if env.write s.log.sends.length message.length < message.length then -1 else 0 := by
  rw [sendResult, srSendPacketWrites]
  by_cases hlen : len < sizeofEthernetHdr
  · rw [if_pos hlen, if_pos hlen]
  · rw [if_neg hlen, if_neg hlen]
    by_cases hmatch : srEtherAddrsMatchInterface s.ifList buf iface = true
    · simp only [hmatch, Bool.not_true, Bool.false_eq_true, if_false, wire_length]
    · simp only [hmatch, Bool.not_false, if_true]

/-- The fields of a message about a packet, as they are handed on. -/
structure Envelope where
  command : UInt32
  name : CName
  len : ℕ
  frame : List UInt8

/-- What `sr_read_from_server_expect` finds where it expects them. -/
def Command.envelope (c : Command) : Envelope where
  command := c.command
  name := (mInterfaceName c.buf).takeWhile (· ≠ 0)
  len := frameLength c.len
  frame := wire (shift c.buf sizeofPacketHeader) (frameLength c.len)

theorem wire_succ (m : Mem) (n : ℕ) : wire m (n+1) = m 0 :: wire (shift m 1) n := by
  rw [wire, List.range_succ_eq_map, List.map_cons, List.map_map, wire]
  congr 1
  apply List.map_congr_left
  intro k _
  exact congrArg m (Nat.add_comm k 1)

/-- A string in a field that has room for its NUL. -/
theorem takeWhile_wire {name : CName} (h0 : ∀ b ∈ name, b ≠ 0) {m : Mem} {n : ℕ}
    (hm : ∀ k ≤ name.length, m k = name.getD k 0) :
    (wire m (name.length+(n+1))).takeWhile (· ≠ 0) = name := by
  induction name generalizing m with
  | nil =>
    have hnul : m 0 = 0 := hm 0 le_rfl
    rw [List.length_nil, Nat.zero_add, wire_succ, List.takeWhile_cons_of_neg (by simp [hnul])]
  | cons b name ih =>
    have hb : m 0 = b := hm 0 (Nat.zero_le _)
    have hne : b ≠ 0 := h0 b List.mem_cons_self
    have hrest : ∀ k ≤ name.length, shift m 1 k = name.getD k 0 := by
      intro k hk
      have hnext := hm (k+1) (Nat.succ_le_succ hk)
      rw [shift, Nat.add_comm 1 k, hnext]
      rfl
    rw [List.length_cons, show name.length+1+(n+1) = name.length+(n+1)+1 by omega, wire_succ,
      List.takeWhile_cons_of_pos (by simpa [hb] using hne), hb,
      ih (fun c hc => h0 c (List.mem_cons_of_mem b hc)) hrest]

theorem strncpyField_eq {name : CName} (h0 : ∀ b ∈ name, b ≠ 0) (k : ℕ) :
    strncpyField name k = name.getD k 0 := by
  have hall : name.takeWhile (· ≠ 0) = name :=
    List.takeWhile_eq_self_iff.mpr fun b hb => decide_eq_true (h0 b hb)
  rw [strncpyField, hall]

/-! The message as it comes in at the other side. -/
section Message

variable (srPkt buf : Mem) (len : ℕ) (iface : CName)

/-- The message of a frame of `len` bytes. -/
def packetBytes : List UInt8 := wire (packetMessage srPkt buf len iface) (len+sizeofPacketHeader)

theorem packetBytes_length : (packetBytes srPkt buf len iface).length = len+24 :=
  wire_length _ _

theorem packetMessage_len :
    get32 (packetMessage srPkt buf len iface) 0 = htonl (UInt32.ofNat (len+24)) := by
  rw [packetMessage, get32_memcpy_outside _ _ (by rw [sizeofPacketHeader]; omega),
    get32_memcpy_outside _ _ (by omega), get32_put32_outside _ _ (by omega), get32_put32]
  rfl

theorem packetMessage_type :
    get32 (packetMessage srPkt buf len iface) 4 = htonl VNSPACKET := by
  rw [packetMessage, get32_memcpy_outside _ _ (by rw [sizeofPacketHeader]; omega),
    get32_memcpy_outside _ _ (by omega), get32_put32]

theorem packetMessage_name {k : ℕ} (h : k < 16) :
    packetMessage srPkt buf len iface (8+k) = strncpyField iface k := by
  rw [packetMessage, memcpy_outside _ _ (by rw [sizeofPacketHeader]; omega),
    memcpy_inside _ _ (by omega), Nat.add_sub_cancel_left]

theorem packetMessage_frame {k : ℕ} (h : k < len) :
    packetMessage srPkt buf len iface (24+k) = buf k := by
  rw [packetMessage, memcpy_inside _ _ (by rw [sizeofPacketHeader]; omega), sizeofPacketHeader,
    Nat.add_sub_cancel_left]

variable {srPkt buf len iface}

theorem prefixLen_packetBytes (hlen : len ≤ 9976) :
    prefixLen (packetBytes srPkt buf len iface) = (len+24 : ℕ) := by
  have hword : get32 (load (packetBytes srPkt buf len iface) fun _ => 0) 0 =
      get32 (packetMessage srPkt buf len iface) 0 :=
    get32_congr fun k _ hk => load_wire _ (by rw [sizeofPacketHeader]; omega)
  have hnat : (UInt32.ofNat (len+24)).toNat = len+24 := by
    rw [toNat_ofNat32, Nat.mod_eq_of_lt (by omega)]
  rw [prefixLen, hword, packetMessage_len, htonl, ntohl, swap32_swap32, asInt, hnat,
    if_pos (by omega)]

theorem packetBytes_wellFramed (hlen : len ≤ 9976) :
    WellFramed (packetBytes srPkt buf len iface) where
  header := by
    rw [packetBytes_length, sizeofBase]
    omega
  le := by
    rw [packetBytes_length]
    omega
  prefix_eq := by rw [prefixLen_packetBytes hlen, packetBytes_length]

/-- The buffer the message ends up in. -/
theorem packetBytes_buffer {slack : Mem} {k : ℕ} (h8 : 8 ≤ k) (hk : k < len+24) :
    messageBuffer (packetBytes srPkt buf len iface) slack k =
      packetMessage srPkt buf len iface k := by
  rw [messageBuffer, put32_outside _ _ (by omega)]
  exact load_wire slack hk

theorem packetBytes_command {slack : Mem} :
    get32 (messageBuffer (packetBytes srPkt buf len iface) slack) 4 = VNSPACKET := by
  have hword : get32 (load (packetBytes srPkt buf len iface) slack) 4 =
      get32 (packetMessage srPkt buf len iface) 4 :=
    get32_congr fun k _ hk => load_wire _ (by rw [sizeofPacketHeader]; omega)
  rw [messageBuffer, get32_put32, hword, packetMessage_type]
  exact swap32_swap32 _

theorem packetBytes_name {slack : Mem} (h0 : ∀ b ∈ iface, b ≠ 0) (hlen : iface.length ≤ 15) :
    (mInterfaceName (messageBuffer (packetBytes srPkt buf len iface) slack)).takeWhile (· ≠ 0) =
      iface := by
  obtain ⟨n,hn⟩ : ∃ n, srIfaceNamelen = iface.length+(n+1) := ⟨31-iface.length, by
    rw [srIfaceNamelen]
    omega⟩
  rw [mInterfaceName, hn]
  apply takeWhile_wire h0
  intro k hk
  rw [shift, packetBytes_buffer (by omega) (by omega), packetMessage_name _ _ _ _ (by omega),
    strncpyField_eq h0]

theorem packetBytes_frame {slack slack' : Mem} {frame : List UInt8} :
    wire (shift (messageBuffer (packetBytes srPkt (load frame slack') frame.length iface) slack) 24)
      frame.length = frame := by
  apply List.ext_getElem (wire_length _ _)
  intro k hk hk'
  simp only [wire, List.getElem_map, List.getElem_range]
  rw [shift, packetBytes_buffer (by omega) (by omega), packetMessage_frame _ _ _ _ hk',
    load_of_lt slack' hk']

end Message

/-- What `sr_send_packet` writes for a frame is read as a message with the same command, the same
interface name and the same frame, however the stream is delivered and whatever follows. -/
theorem envelope_roundTrip {host : ServerHost} (hf : Fair host.schedule) {s : SrInstance}
    {name : CName} {i : SrIf} (hi : srGetInterface s.ifList name = some i)
    (h0 : ∀ b ∈ name, b ≠ 0) (hname : 1 ≤ name.length ∧ name.length ≤ 15) {frame : List UInt8}
    (hframe : 14 ≤ frame.length ∧ frame.length ≤ 9976) (slack srPkt : Mem)
    (hsrc : etherShost (load frame slack) = i.addr) :
    ∃ message, srSendPacketWrites s srPkt (load frame slack) frame.length name = some message ∧
      ∀ (rest : List UInt8) (conn : Connection), conn.source.closed = false →
        conn.source.unread = message ++ rest → ∃ c conn',
          Settles (fun fuel => erase (readCommand host fuel)) conn (some c) conn' ∧
          conn'.source.unread = rest ∧
          c.envelope = ⟨VNSPACKET, name, frame.length, frame⟩ := by
  have hlen : ¬frame.length < sizeofEthernetHdr := by
    rw [sizeofEthernetHdr]
    omega
  have hmatch : srEtherAddrsMatchInterface s.ifList (load frame slack) name = true := by
    simp only [srEtherAddrsMatchInterface, hi, hsrc, decide_true]
  refine ⟨packetBytes srPkt (load frame slack) frame.length name, ?_, ?_⟩
  · rw [srSendPacketWrites, if_neg hlen, hmatch]
    rfl
  · intro rest conn hc hs
    have hwell := @packetBytes_wellFramed srPkt (load frame slack) frame.length name hframe.2
    obtain ⟨c',hread⟩ := readCommand_settles hf hwell.announced hc hs
    refine ⟨_, _, hread, rfl, ?_⟩
    -- the length comes back from the prefix, the name up to its NUL, the frame behind the 24 bytes
    have hsize : (commandOf host conn.handled
        (packetBytes srPkt (load frame slack) frame.length name)).len = frame.length+24 := by
      rw [commandOf, prefixLen_packetBytes hframe.2]
      rfl
    have hcount : frameLength (frame.length+24) = frame.length := by
      rw [frameLength, sizeofPacketEthernetHeader, sizeofEthernetHdr]
      omega
    rw [Command.envelope, hsize, hcount]
    exact congr (congr (congr (congrArg Envelope.mk packetBytes_command)
      (packetBytes_name h0 hname.2)) rfl) packetBytes_frame

/-- An empty frame from the first interface to the host behind it. -/
def bareFrame : List UInt8 := [2, 0, 0, 0, 0, 2, 10, 10, 10, 10, 10, 10, 8, 0]

theorem envelope_roundTrip_bareFrame : ∃ message,
    srSendPacketWrites smallRouter (fun _ => 7) (load bareFrame fun _ => 0) bareFrame.length eth0 =
        some message ∧
      ∀ (rest : List UInt8) (conn : Connection), conn.source.closed = false →
        conn.source.unread = message ++ rest → ∃ c conn',
          Settles (fun fuel => erase (readCommand choppyHost fuel)) conn (some c) conn' ∧
          conn'.source.unread = rest ∧
          c.envelope = ⟨VNSPACKET, eth0, bareFrame.length, bareFrame⟩ :=
  @envelope_roundTrip choppyHost choppyHost_fair smallRouter eth0
    ⟨eth0, fun _ => 10, address 10 0 0 1⟩ rfl (by simp [eth0]) (by decide) bareFrame (by decide)
    (fun _ => 0) (fun _ => 7) (by decide)

end InternetCourse.Router
