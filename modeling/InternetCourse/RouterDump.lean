import InternetCourse.RouterServer
import InternetCourse.ByteLayout

/-! The file the packets are logged to (sr_dumper.c, and `sr_log_packet` in sr_vns_comm.c), and what
a program that reads dump files finds in it. -/
namespace InternetCourse.Router

open ByteMem ByteLayout

def TCPDUMP_MAGIC : UInt32 := 0xa1b2c3d4
def PCAP_VERSION_MAJOR : UInt16 := 2
def PCAP_VERSION_MINOR : UInt16 := 4
def LINKTYPE_ETHERNET : UInt32 := 1

structure PcapFileHeader where
  magic : UInt32
  versionMajor : UInt16
  versionMinor : UInt16
  thiszone : UInt32
  sigfigs : UInt32
  snaplen : UInt32
  linktype : UInt32
  deriving DecidableEq

/-- `struct pcap_pkthdr`, with the time as far as `struct pcap_timeval` has room for it. -/
structure PcapPkthdr where
  tvSec : UInt32
  tvUsec : UInt32
  caplen : UInt32
  len : UInt32
  deriving DecidableEq

/-- `sf_write_header`: the header as it lies in memory. -/
def sfWriteHeader (linktype thiszone snaplen : UInt32) : List UInt8 :=
  littleEndian32 TCPDUMP_MAGIC ++ (littleEndian16 PCAP_VERSION_MAJOR ++
    (littleEndian16 PCAP_VERSION_MINOR ++ (littleEndian32 thiszone ++ (littleEndian32 0 ++
      (littleEndian32 snaplen ++ littleEndian32 linktype)))))

/-- The file as `sr_dump_open` leaves it. -/
def srDumpOpen (thiszone snaplen : UInt32) : List UInt8 :=
  sfWriteHeader LINKTYPE_ETHERNET thiszone snaplen

def srDump (fp : List UInt8) (h : PcapPkthdr) (sp : Mem) : List UInt8 :=
  fp ++ (littleEndian32 h.tvSec ++ (littleEndian32 h.tvUsec ++ (littleEndian32 h.caplen ++
    littleEndian32 h.len))) ++ wire sp h.caplen.toNat

/-- A call of `sr_log_packet`, and what `gettimeofday` says then. -/
structure Logged where
  tvSec : UInt32
  tvUsec : UInt32
  buf : Mem
  len : ℤ

/-- An `int` as an unsigned word. -/
def asWord (n : ℤ) : UInt32 := UInt32.ofNat (n%2^32).toNat

/-- `size` -/
def dumpSize (len : ℤ) : ℤ := min (PACKET_DUMP_SIZE : ℤ) len

def srLogPacket (fp : List UInt8) (l : Logged) : List UInt8 :=
  let size := dumpSize l.len
  srDump fp ⟨l.tvSec, l.tvUsec, asWord size,
    asWord (if size < PACKET_DUMP_SIZE then size else PACKET_DUMP_SIZE)⟩ l.buf

/-- The file of a router that has logged these packets. -/
def dumpFile (logged : List Logged) : List UInt8 :=
  logged.foldl srLogPacket (srDumpOpen 0 (UInt32.ofNat PACKET_DUMP_SIZE))

/-! Reading a dump file -/

/-- A packet of the file: its header, and the bytes that were kept. -/
structure Captured where
  header : PcapPkthdr
  bytes : List UInt8
  deriving DecidableEq

def readFileHeader (l : List UInt8) : Option (PcapFileHeader × List UInt8) :=
  (readLittle32 l).bind fun (magic, l) =>
    (readLittle16 l).bind fun (versionMajor, l) =>
      (readLittle16 l).bind fun (versionMinor, l) =>
        (readLittle32 l).bind fun (thiszone, l) =>
          (readLittle32 l).bind fun (sigfigs, l) =>
            (readLittle32 l).bind fun (snaplen, l) =>
              (readLittle32 l).bind fun (linktype, l) =>
                some (⟨magic, versionMajor, versionMinor, thiszone, sigfigs, snaplen, linktype⟩, l)

def readCaptured (l : List UInt8) : Option (Captured × List UInt8) :=
  (readLittle32 l).bind fun (tvSec, l) =>
    (readLittle32 l).bind fun (tvUsec, l) =>
      (readLittle32 l).bind fun (caplen, l) =>
        (readLittle32 l).bind fun (len, l) =>
          (takeBytes caplen.toNat l).bind fun (bytes, l) =>
            some (⟨⟨tvSec, tvUsec, caplen, len⟩, bytes⟩, l)

/-- The packets up to the end of the file; a packet takes at least its header, so that there are no
more of them than bytes. -/
def readPackets : ℕ → List UInt8 → Option (List Captured)
  | _, [] => some []
  | 0, _ => none
  | n+1, l => (readCaptured l).bind fun (c, l) => (readPackets n l).map (c :: ·)

def readDump (file : List UInt8) : Option (PcapFileHeader × List Captured) :=
  (readFileHeader file).bind fun (header, l) => (readPackets l.length l).map fun cs => (header, cs)

/-- What is kept of a packet: no more than the file's header says, and not how long it was. -/
def captured (l : Logged) : Captured :=
  let size := min PACKET_DUMP_SIZE l.len.toNat
  ⟨⟨l.tvSec, l.tvUsec, UInt32.ofNat size, UInt32.ofNat size⟩, wire l.buf size⟩

theorem readFileHeader_append (h : PcapFileHeader) (l : List UInt8) :
    readFileHeader (littleEndian32 h.magic ++ (littleEndian16 h.versionMajor ++
      (littleEndian16 h.versionMinor ++ (littleEndian32 h.thiszone ++ (littleEndian32 h.sigfigs ++
        (littleEndian32 h.snaplen ++ littleEndian32 h.linktype))))) ++ l) = some (h,l) := by
  unfold readFileHeader
  simp only [List.append_assoc, readLittle32_append, readLittle16_append, Option.bind_some]

/-- The header `sr_dump_open` writes. -/
def openedHeader (thiszone snaplen : UInt32) : PcapFileHeader :=
  ⟨TCPDUMP_MAGIC, PCAP_VERSION_MAJOR, PCAP_VERSION_MINOR, thiszone, 0, snaplen, LINKTYPE_ETHERNET⟩

theorem readFileHeader_open (thiszone snaplen : UInt32) (l : List UInt8) :
    readFileHeader (srDumpOpen thiszone snaplen ++ l) =
      some (openedHeader thiszone snaplen, l) := by
  unfold srDumpOpen sfWriteHeader openedHeader
  generalize TCPDUMP_MAGIC = magic
  generalize PCAP_VERSION_MAJOR = major
  generalize PCAP_VERSION_MINOR = minor
  generalize LINKTYPE_ETHERNET = linktype
  exact readFileHeader_append ⟨magic, major, minor, thiszone, 0, snaplen, linktype⟩ l

/-- A packet as it is written, with what follows it. -/
def capturedOctets (c : Captured) : List UInt8 :=
  littleEndian32 c.header.tvSec ++ (littleEndian32 c.header.tvUsec ++
    (littleEndian32 c.header.caplen ++ (littleEndian32 c.header.len ++ c.bytes)))

theorem readCaptured_append (c : Captured) (hc : c.bytes.length = c.header.caplen.toNat)
    (l : List UInt8) : readCaptured (capturedOctets c ++ l) = some (c,l) := by
  unfold readCaptured capturedOctets
  rw [List.append_assoc, readLittle32_append, Option.bind_some]
  dsimp only
  rw [List.append_assoc, readLittle32_append, Option.bind_some]
  dsimp only
  rw [List.append_assoc, readLittle32_append, Option.bind_some]
  dsimp only
  rw [List.append_assoc, readLittle32_append, Option.bind_some]
  dsimp only
  rw [takeBytes_append _ _ _ hc, Option.bind_some]

theorem readPackets_append (cs : List Captured)
    (hc : ∀ c ∈ cs, c.bytes.length = c.header.caplen.toNat) (n : ℕ)
    (hn : (cs.flatMap capturedOctets).length ≤ n) :
    readPackets n (cs.flatMap capturedOctets) = some cs := by
  induction cs generalizing n with
  | nil => cases n <;> rfl
  | cons c cs ih =>
    have h4 : 4 ≤ (capturedOctets c).length := by
      unfold capturedOctets
      rw [List.length_append, littleEndian32_length]
      omega
    rw [List.flatMap_cons, List.length_append] at hn
    rw [List.flatMap_cons]
    cases n with
    | zero => omega
    | succ n =>
      have hcons : ∃ b l, capturedOctets c ++ cs.flatMap capturedOctets = b :: l := ⟨_, _, rfl⟩
      obtain ⟨b,l,hl⟩ := hcons
      rw [hl, readPackets, ← hl, readCaptured_append c (hc c List.mem_cons_self), Option.bind_some]
      dsimp only
      rw [ih (fun c' h => hc c' (List.mem_cons_of_mem c h)) n (by omega)]
      · rfl
      · rw [← hl]
        intro h
        have := congrArg List.length h
        rw [List.length_append, List.length_nil] at this
        omega

theorem asWord_eq {n : ℤ} (h0 : 0 ≤ n) (h : n ≤ 1024) : asWord n = UInt32.ofNat n.toNat := by
  unfold asWord
  congr 1
  omega

/-- A packet is logged behind the ones before it. -/
theorem srLogPacket_eq (fp : List UInt8) (l : Logged) (h : 0 ≤ l.len) :
    srLogPacket fp l = fp ++ capturedOctets (captured l) := by
  have hsize : dumpSize l.len = (min PACKET_DUMP_SIZE l.len.toNat : ℕ) := by
    unfold dumpSize PACKET_DUMP_SIZE
    omega
  have hlen : (if dumpSize l.len < PACKET_DUMP_SIZE then dumpSize l.len
      else (PACKET_DUMP_SIZE : ℤ)) = dumpSize l.len := by
    unfold dumpSize
    split
    · rfl
    · omega
  have hword : asWord (dumpSize l.len) = UInt32.ofNat (min PACKET_DUMP_SIZE l.len.toNat) := by
    rw [asWord_eq (by unfold dumpSize PACKET_DUMP_SIZE; omega)
      (by unfold dumpSize PACKET_DUMP_SIZE; omega), hsize, Int.toNat_natCast]
  have hnat : (UInt32.ofNat (min PACKET_DUMP_SIZE l.len.toNat)).toNat =
      min PACKET_DUMP_SIZE l.len.toNat := by
    apply (UInt32.toNat_ofNat').trans
    apply Nat.mod_eq_of_lt
    unfold PACKET_DUMP_SIZE
    omega
  unfold srLogPacket srDump capturedOctets captured
  dsimp only
  rw [hlen, hword, hnat]
  simp only [List.append_assoc]

theorem captured_length (l : Logged) :
    (captured l).bytes.length = (captured l).header.caplen.toNat := by
  unfold captured
  dsimp only
  rw [wire_length]
  symm
  apply (UInt32.toNat_ofNat').trans
  apply Nat.mod_eq_of_lt
  unfold PACKET_DUMP_SIZE
  omega

theorem dumpFile_eq (logged : List Logged) (h : ∀ l ∈ logged, 0 ≤ l.len) (fp : List UInt8) :
    logged.foldl srLogPacket fp = fp ++ (logged.map captured).flatMap capturedOctets := by
  induction logged generalizing fp with
  | nil => exact (List.append_nil fp).symm
  | cons l logged ih =>
    rw [List.foldl_cons, srLogPacket_eq fp l (h l List.mem_cons_self),
      ih (fun l' h' => h l' (List.mem_cons_of_mem l h')), List.map_cons, List.flatMap_cons,
      List.append_assoc]

/-- Whatever packets are logged, the file is a dump file of them: a reader finds each of them once,
in their order, cut to what the header of the file says, with the length of what was kept. -/
theorem dumpFile_reads_back (logged : List Logged) (h : ∀ l ∈ logged, 0 ≤ l.len) :
    readDump (dumpFile logged) =
      some (openedHeader 0 (UInt32.ofNat PACKET_DUMP_SIZE), logged.map captured) := by
  unfold readDump dumpFile
  rw [dumpFile_eq logged h, readFileHeader_open, Option.bind_some]
  dsimp only
  rw [readPackets_append _ ?_ _ (Nat.le_refl _), Option.map_some]
  intro c hc
  obtain ⟨l,-,rfl⟩ := List.mem_map.mp hc
  exact captured_length l

/-- Two packets, one of them longer than what is kept. -/
theorem dumpFile_reads_back_two :
    readDump (dumpFile [⟨1, 2, fun _ => 3, 60⟩, ⟨4, 5, fun _ => 6, 1500⟩]) =
      some (openedHeader 0 (UInt32.ofNat PACKET_DUMP_SIZE),
        [captured ⟨1, 2, fun _ => 3, 60⟩, captured ⟨4, 5, fun _ => 6, 1500⟩]) :=
  dumpFile_reads_back _ (by
    intro l hl
    rcases List.mem_cons.mp hl with rfl | hl
    · decide
    · rcases List.mem_singleton.mp hl with rfl
      decide)

end InternetCourse.Router
