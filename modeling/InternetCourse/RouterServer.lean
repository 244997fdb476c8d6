import InternetCourse.PartialRead
import InternetCourse.RouterTouches

/-! The messages of the server (vnscommand.h), the handlers they are passed to (sr_vns_comm.c,
sr_if.c, sr_main.c), and `sr_read_from_server_expect`. Every offset is counted from the first byte
of the message. -/
namespace InternetCourse.Router

open ByteMem StateTriple TracedState PartialRead

def ntohl (v : UInt32) : UInt32 := swap32 v
def htonl (v : UInt32) : UInt32 := swap32 v

/-- A word as an `int`. -/
def asInt (v : UInt32) : ℤ := if v.toNat < 2^31 then v.toNat else v.toNat-2^32

def VNSCLOSE : UInt32 := 2
def VNSPACKET : UInt32 := 4
def VNSBANNER : UInt32 := 8
def VNSHWINFO : UInt32 := 16
def VNS_RTABLE : UInt32 := 32
def VNS_AUTH_REQUEST : UInt32 := 128
def VNS_AUTH_STATUS : UInt32 := 512

def HWINTERFACE : UInt32 := 1
def HWETHER : UInt32 := 32
def HWETHIP : UInt32 := 64

def IDSIZE : ℕ := 32
def sizeofBase : ℕ := 8
def sizeofPacketEthernetHeader : ℕ := 38
def sizeofHwEntry : ℕ := 36

/-- What is done with the message: bytes of it are accessed, a number of bytes from an offset on is
computed by a subtraction (`exact` is the difference itself), or so many bytes from the frame on
are passed to `sr_handlepacket`. -/
inductive Use where
  | access (span : Span)
  | length (off computed : ℕ) (exact : ℤ)
  | frame (size : ℕ)
  deriving DecidableEq

/-- The host as the connection to the server sees it: how the stream is delivered, and for the
`n`-th message the bytes found behind the `malloc` of its buffer, which does not run out of memory,
whether the routing table can be opened for writing, whether the key can be read, and whether the
reply to an authentication request is computed and sent. -/
structure ServerHost extends Platform where
  schedule : ℕ → Delivery
  buffer : ℕ → Mem
  rtableOpens : ℕ → Bool
  authKey : ℕ → Bool
  authReply : ℕ → Bool

/-- The connection to the server: the stream, and how many messages got a buffer. -/
structure Connection where
  source : Source UInt8
  handled : ℕ

structure Session where
  conn : Connection
  router : SrInstance

abbrev UseM := TracedState.Traced Fault SrInstance Use

abbrev ReadM := TracedState.Traced Fault Connection Use

abbrev ServerM := TracedState.Traced Fault Session Use

/-! sr_if.c -/

/-- A new node is not cleared: its addresses are what lies behind `malloc`. -/
def srAddInterface (env : Env) (name : CName) : RouterM Unit := do
  let node ← malloc env
  modify fun s => { s with
    ifList := s.ifList ++ [⟨strncpy name srIfaceNamelen, getSix node 32, get32 node 40⟩] }

/-- An assignment to the last interface, which has to be there. -/
def setLast (f : SrIf → SrIf) : RouterM Unit := do
  let s ← get
  let ifWalker ← deref s.ifList.getLast?
  modify fun s => { s with ifList := s.ifList.dropLast ++ [f ifWalker] }

def srSetEtherAddr (addr : Six) : RouterM Unit := setLast fun i => { i with addr := addr }

def srSetEtherIp (ipNbo : UInt32) : RouterM Unit := setLast fun i => { i with ip := ipNbo }

/-! sr_main.c -/

def srVerifyRoutingTable (s : SrInstance) : ℤ :=
  if s.ifList = [] ∨ s.routingTable = [] then 999
  else (s.routingTable.countP fun rtWalker =>
    !s.ifList.any fun ifWalker => strncmpEq ifWalker.name rtWalker.interface srIfaceNamelen : ℕ)

/-! Strings in the message -/

/-- A string read up to its NUL. -/
def readString (fuel : ℕ) (buf : Mem) (off : ℕ) : UseM Unit :=
  loop .outOfFuel (fun i => do
    note [.access (rd i 1)]
    pure (if buf i = 0 then .inr () else .inl (i+1))) fuel off

/-- How many bytes `strncpy` reads of its source. -/
def strncpyReads (m : Mem) (off : ℕ) : ℕ → ℕ
  | 0 => 0
  | n+1 => if m off = 0 then 1 else 1+strncpyReads m (off+1) n

/-- How many bytes `strncmp` reads of its second argument. -/
def strncmpReads : CName → CName → ℕ → ℕ
  | _, _, 0 => 0
  | a :: as, b :: bs, n+1 => if a = b ∧ a ≠ 0 then 1+strncmpReads as bs n else 1
  | _, _, _+1 => 1

/-- The comparisons of `sr_get_interface`, up to the first interface of that name. -/
def srGetInterfaceReads : List SrIf → CName → List ℕ
  | [], _ => []
  | ifWalker :: rest, name =>
    strncmpReads ifWalker.name name srIfaceNamelen ::
      if strncmpEq ifWalker.name name srIfaceNamelen then [] else srGetInterfaceReads rest name

/-! c_packet_ethernet_header -/

/-- `mInterfaceName`, as far as it is looked at. -/
def mInterfaceName (buf : Mem) : CName := wire (shift buf 8) srIfaceNamelen

/-- `len - sizeof(c_packet_ethernet_header) + sizeof(struct sr_ethernet_hdr)` -/
def frameLength (len : ℕ) : ℕ :=
  (len+2^32-sizeofPacketEthernetHeader+sizeofEthernetHdr)%2^32

/-- The reads `sr_get_interface` makes of the name in the message. -/
def nameReads (ifList : List SrIf) (buf : Mem) : List Use :=
  (srGetInterfaceReads ifList (mInterfaceName buf)).map fun n => .access (rd 8 n)

/-- The fields of the frame that `sr_arp_req_not_for_us` compares, one after the other. -/
def arpReqReads (packet : Mem) : List Use :=
  .access (rd (24+12) 2) :: if etherType packet = htons ethertypeArp then
    .access (rd (24+20) 2) :: if arOp packet = htons 1 then [.access (rd (24+38) 4)] else []
    else []

/-- `sr_arp_req_not_for_us` -/
def srArpReqNotForUsT (buf : Mem) (len : ℕ) : UseM Bool := do
  let s ← lift get
  note (nameReads s.ifList buf)
  -- the interface is looked up first, and used only past this test
  if len < sizeofEthernetHdr+sizeofArpHdr then pure false
  else
    let iface ← lift (deref (srGetInterface s.ifList (mInterfaceName buf)))
    note (arpReqReads (shift buf 24))
    pure (srArpReqNotForUs iface (shift buf 24) len)

/-- `sr_log_packet`, whose length is an `int`; what is written to the file is as long as an
unsigned number. -/
def srLogPacketUse (host : ServerHost) (len : ℤ) : UseM Unit :=
  if host.logfile then note [.access (rd 24 (min (PACKET_DUMP_SIZE : ℤ) len%2^32).toNat)]
  else pure ()

/-- What an access to the received frame is in the message. -/
def inMessage (arrival : ℕ) (x : Touch) : Option Use :=
  if x.origin = arrival then some (.access { x.span with off := 24+x.span.off }) else none

/-- What is read of the name while the frame is handled, at most: the interface is looked up, 16
bytes go into a message, and 32 into a packet that is queued, about an IP or an ARP frame. -/
def handlerNameReads (ifList : List SrIf) (buf : Mem) (len : ℕ) : List Use :=
  nameReads ifList buf ++ .access (rd 8 16) ::
    if sizeofEthernetHdr+sizeofIpHdr ≤ len ∨ ethertype (shift buf 24) = ethertypeArp then
      [.access (rd 8 srIfaceNamelen)] else []

/-- The call of `sr_handlepacket`. -/
def handFrame (host : ServerHost) (fuel : ℕ) (buf : Mem) (len : ℕ) : UseM Unit := do
  let s ← lift get
  note (.frame len :: handlerNameReads s.ifList buf len)
  relabel (inMessage s.log.arrivals)
    (receiveT host.toPlatform fuel (wire (shift buf 24) len) (shift buf 24) (mInterfaceName buf))

def handleVnspacket (host : ServerHost) (fuel : ℕ) (buf : Mem) (len : ℕ) : UseM Unit := do
  note [.length 24 (frameLength len) (len-24)]
  -- an ARP request for another router is dropped unseen
  if ← srArpReqNotForUsT buf (frameLength len) then pure ()
  else
    note [.access (rd 0 4)]
    srLogPacketUse host (len-24)
    handFrame host fuel buf (frameLength len)

/-! c_hwinfo -/

def mLen (buf : Mem) : ℕ := (ntohl (get32 buf 0)).toNat

/-- `(ntohl(hwinfo->mLen) - (2*sizeof(uint32_t)))/sizeof(c_hw_entry)`, computed on 64 bits and
kept in an `int`. -/
def numEntries (mLen : ℕ) : ℤ :=
  asInt (UInt32.ofNat ((mLen+2^64-sizeofBase)%2^64/sizeofHwEntry))

/-- The entry at `off`. -/
def srHandleHwEntry (host : ServerHost) (buf : Mem) (off : ℕ) : UseM Unit := do
  note [.access (rd off 4)]
  let value := off+4
  if ntohl (get32 buf off) = HWINTERFACE then
    note [.access (rd value (strncpyReads buf value srIfaceNamelen))]
    lift (srAddInterface host.toEnv (wire (shift buf value) srIfaceNamelen))
  else if ntohl (get32 buf off) = HWETHIP then
    note [.access (rd value 4)]
    lift (srSetEtherIp (get32 buf value))
  else if ntohl (get32 buf off) = HWETHER then
    note [.access (rd value 6)]
    lift (srSetEtherAddr (getSix buf value))
  -- an unknown key is printed, the others do nothing at all
  else pure ()

/-- The loop over so many entries from the `i`-th on. -/
def hwEntries (host : ServerHost) (buf : Mem) : ℕ → ℕ → UseM Unit
  | 0, _ => pure ()
  | n+1, i => do
    srHandleHwEntry host buf (sizeofBase+sizeofHwEntry*i)
    hwEntries host buf n (i+1)

def srHandleHwinfo (host : ServerHost) (buf : Mem) : UseM ℤ := do
  let n := numEntries (mLen buf)
  note [.access (rd 0 4), .length 8 (sizeofHwEntry*n.toNat)
    (sizeofHwEntry*(((mLen buf : ℤ)-sizeofBase)/sizeofHwEntry))]
  hwEntries host buf n.toNat 0
  pure n

/-! c_rtable, c_auth_request, c_auth_status -/

/-- The name of the host fits into what `fn[7+IDSIZE+1]` has left behind "rtable.". -/
def NameFits (buf : Mem) : Prop := 0 ∈ wire (shift buf 8) (IDSIZE+1)

instance (buf : Mem) : Decidable (NameFits buf) := inferInstanceAs (Decidable (_ ∈ _))

/-- `strcat(fn, rtable->mVirtualHostID)`, which looks for the NUL only. -/
def copyName (fuel : ℕ) (buf : Mem) : UseM Unit := do
  readString fuel buf 8
  if NameFits buf then pure () else lift (throw .overrun)

/-- The handler of the `n`-th message. The routing table that follows the name of the host is
written to a file. -/
def srHandleRtable (host : ServerHost) (fuel n : ℕ) (buf : Mem) : UseM ℤ := do
  -- the name of the host goes into the name of the file
  copyName fuel buf
  if host.rtableOpens n then
    note [.access (rd 0 4), .length (sizeofBase+IDSIZE) ((mLen buf+2^32-8-IDSIZE)%2^32)
      ((mLen buf : ℤ)-8-IDSIZE)]
    pure 1
  else pure 0

/-- The salt is the rest of the message. -/
def srHandleAuthRequest (host : ServerHost) (n : ℕ) (buf : Mem) : UseM ℤ := do
  if host.authKey n then
    note [.access (rd 0 4), .length sizeofBase ((mLen buf+2^32-sizeofBase)%2^32)
      ((mLen buf : ℤ)-sizeofBase)]
    pure (if host.authReply n then 1 else 0)
  else pure 0

def srHandleAuthStatus (fuel : ℕ) (buf : Mem) : UseM ℤ := do
  note [.access (rd 8 1)]
  if buf 8 ≠ 0 then pure (buf 8).toNat
  else
    -- the reason is printed
    readString fuel buf 9
    note [.access (rd 8 1)]
    pure (buf 8).toNat

/-! sr_read_from_server_expect -/

/-- What is in hand once a message has been read. -/
structure Command where
  number : ℕ
  command : UInt32
  buf : Mem
  len : ℕ

/-- The switch over the command. -/
def obey (host : ServerHost) (fuel : ℕ) (c : Command) : UseM ℤ := do
  if c.command = VNSPACKET then
    handleVnspacket host fuel c.buf c.len
    pure 1
  else if c.command = VNSCLOSE then
    readString fuel c.buf 8
    -- the main loop goes on as long as it gets a 1
    pure 0
  else if c.command = VNSBANNER then
    readString fuel c.buf 8
    pure 1
  else if c.command = VNSHWINFO then
    let _ ← srHandleHwinfo host c.buf
    -- every route has to go out by one of the interfaces
    let s ← lift get
    pure (if srVerifyRoutingTable s ≠ 0 then -1 else 1)
  else if c.command = VNS_RTABLE then
    let r ← srHandleRtable host fuel c.number c.buf
    pure (if r = 0 then -1 else 1)
  else if c.command = VNS_AUTH_REQUEST then
    let r ← srHandleAuthRequest host c.number c.buf
    pure (if r = 0 then -1 else 1)
  else if c.command = VNS_AUTH_STATUS then
    let r ← srHandleAuthStatus fuel c.buf
    pure (if r = 0 then -1 else 1)
  else pure 1

/-- Whether a message is refused because another one was expected. -/
def Unexpected (expectedCmd command : UInt32) : Prop :=
  expectedCmd ≠ 0 ∧ command ≠ expectedCmd ∧ command ≠ VNSCLOSE

instance (expectedCmd command : UInt32) : Decidable (Unexpected expectedCmd command) :=
  inferInstanceAs (Decidable (_ ∧ _))

def dispatch (host : ServerHost) (fuel : ℕ) (expectedCmd : UInt32) (c : Command) : UseM ℤ :=
  if Unexpected expectedCmd c.command then pure (-1) else obey host fuel c

def onSource {α : Type} (x : TracedState.Traced Fault (Source UInt8) Use α) : ReadM α :=
  zoom Connection.source (fun r s => { s with source := r }) x

/-- `close(sr->sockfd)` -/
def closeSocket : ReadM Unit :=
  onSource (lift (modify fun r => { r with closed := true }))

/-- Reads `limit` bytes to where `dst+base` points. -/
def readBytes (host : ServerHost) (fuel : ℕ) (mark : ℕ → List Use) (dst : Mem) (base limit : ℕ) :
    ReadM (Option Mem) :=
  onSource (fill .outOfFuel host.schedule mark
    (fun b l m => memcpy m (base+b) (load l fun _ => 0) l.length) fuel limit dst)

/-- A buffer for the next message, and its number. -/
def newBuffer (host : ServerHost) : ReadM (ℕ × Mem) :=
  lift fun s => .ok (s.handled, host.buffer s.handled) { s with handled := s.handled+1 }

/-- The length word, read into a variable of its own. -/
def readLength (host : ServerHost) (fuel : ℕ) : ReadM (Option Mem) :=
  readBytes host fuel (fun _ => []) (fun _ => 0) 0 4

/-- The message is complete, or its body could not be read. -/
def takeCommand (number len : ℕ) : Option Mem → ReadM (Option Command)
  | none => do
    closeSocket
    pure none
  | some buf => do
    note [.access (rd 4 4), .access (wr 4 4)]
    let command := ntohl (get32 buf 4)
    pure (some ⟨number, command, put32 buf 4 command, len⟩)

/-- The rest of a message of that length. -/
def readBody (host : ServerHost) (fuel len : ℕ) : ReadM (Option Command) := do
  let (number, buf) ← newBuffer host
  note [.access (wr 0 4)]
  let buf := put32 buf 0 (htonl (UInt32.ofNat len))
  -- the 4 bytes of the length have been read before
  let r ← readBytes host fuel (fun b => [.access (wr (4+b) (len-4-b))]) buf 4 (len-4)
  takeCommand number len r

/-- Reads a message; `none` where the function returns -1 before it has one. -/
def readCommand (host : ServerHost) (fuel : ℕ) : ReadM (Option Command) := do
  match ← readLength host fuel with
  | none => pure none
  | some word =>
    let len := asInt (ntohl (get32 word 0))
    -- the bounds on the announced length
    if 10000 < len ∨ len < 0 then
      closeSocket
      pure none
    else readBody host fuel len.toNat

def srReadFromServerExpect (host : ServerHost) (fuel : ℕ) (expectedCmd : UInt32) : ServerM ℤ := do
  match ← zoom Session.conn (fun c s => { s with conn := c }) (readCommand host fuel) with
  | none => pure (-1)
  | some c =>
    zoom Session.router (fun r s => { s with router := r }) (dispatch host fuel expectedCmd c)

end InternetCourse.Router
