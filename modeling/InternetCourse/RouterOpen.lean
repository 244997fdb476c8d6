import InternetCourse.ByteLayout
import InternetCourse.RouterEnvelope

/-! The message that opens a session (`c_open` and `c_open_template` in vnscommand.h, filled in by
`sr_connect_to_server`), and what the server can read of it. -/
namespace InternetCourse.Router

open ByteMem ByteLayout

def VNSOPEN : UInt32 := 1
def VNS_OPEN_TEMPLATE : UInt32 := 64

def sizeofOpen : ℕ := 108
def sizeofOpenTemplate : ℕ := 70
def sizeofTemplateName : ℕ := 30

/-- The names in `struct sr_instance`, and the topology. -/
structure SrNames where
  user : CName
  host : CName
  template : CName
  topoId : UInt16

def strlen (name : CName) : ℕ := (name.takeWhile (· ≠ 0)).length

/-- `command`, which is zeroed before it is filled in. -/
def buildOpen (sr : SrNames) : Mem :=
  let m : Mem := fun _ => 0
  let m := put32 m 0 (htonl (UInt32.ofNat sizeofOpen))
  let m := put32 m 4 (htonl VNSOPEN)
  let m := put16 m 8 (htons sr.topoId)
  let m := memcpy m 12 (strncpyField sr.host) IDSIZE
  memcpy m 44 (strncpyField sr.user) IDSIZE

/-- `ot`, which is not. -/
def buildOpenTemplate (stack : Mem) (sr : SrNames) : Mem :=
  let m := put32 stack 0 (htonl (UInt32.ofNat sizeofOpenTemplate))
  let m := put32 m 4 (htonl VNS_OPEN_TEMPLATE)
  let m := memcpy m 8 (strncpyField sr.template) sizeofTemplateName
  memcpy m 38 (strncpyField sr.host) IDSIZE

/-- The bytes at `buf`, `buf_len` of them. -/
def openingMessage (stack : Mem) (sr : SrNames) : List UInt8 :=
  if 0 < strlen sr.template then wire (buildOpenTemplate stack sr) sizeofOpenTemplate
  else wire (buildOpen sr) sizeofOpen

/-- What a session is opened for: a topology by its number, or a new one by its template. -/
inductive Opening where
  | topology (topoId : UInt16) (host user : CName)
  | template (name host : CName)

/-- A string in a field of so many bytes. -/
def readName (n : ℕ) (l : List UInt8) : Option (CName × List UInt8) :=
  (takeBytes n l).map fun (field, rest) => (field.takeWhile (· ≠ 0), rest)

/-- `c_open` behind its header, or `c_open_template` without filters. -/
def readOpening (m : List UInt8) : Option Opening :=
  (readBig32 m).bind fun (mLen, rest) =>
    (readBig32 rest).bind fun (mType, rest) =>
      if mLen.toNat ≠ m.length then none
      else if mType = VNSOPEN then
        (readBig16 rest).bind fun (topoId, rest) =>
          (readBig16 rest).bind fun (_pad, rest) =>
            (readName IDSIZE rest).bind fun (host, rest) =>
              (readName IDSIZE rest).bind fun (user, pass) =>
                if pass.length = IDSIZE then some (.topology topoId host user) else none
      else if mType = VNS_OPEN_TEMPLATE then
        (readName sizeofTemplateName rest).bind fun (name, rest) =>
          (readName IDSIZE rest).bind fun (host, filters) =>
            if filters = [] then some (.template name host) else none
      else none

section Opening

/-- What fits into a field of a name. -/
def CName.cut (name : CName) (n : ℕ) : CName := (name.takeWhile (· ≠ 0)).take n

/-- A name in its field. -/
def CName.field (name : CName) (n : ℕ) : List UInt8 := padded n (name.takeWhile (· ≠ 0))

@[simp] theorem CName.field_length (name : CName) (n : ℕ) : (name.field n).length = n :=
  padded_length n _

theorem liesAt_strncpy (m : Mem) (off : ℕ) (name : CName) (n : ℕ) :
    LiesAt (memcpy m off (strncpyField name) n) off (name.field n) := by
  apply liesAt_memcpy off (liesAt_padded n _)
  rw [padded_length]

theorem readName_field (name : CName) (n : ℕ) (l : List UInt8) :
    readName n (name.field n ++ l) = some (name.cut n, l) := by
  have h0 : ∀ b ∈ name.takeWhile (· ≠ 0), b ≠ 0 := by
    intro b hb
    have hp := List.mem_takeWhile_imp hb
    exact of_decide_eq_true hp
  rw [readName, takeBytes_append n _ _ (name.field_length n), Option.map_some]
  dsimp only
  rw [CName.field, takeWhile_padded n h0, CName.cut]

/-- `c_open` as it goes out. -/
def openOctets (sr : SrNames) : List UInt8 :=
  bigEndian32 (UInt32.ofNat sizeofOpen) ++ (bigEndian32 VNSOPEN ++ (bigEndian16 sr.topoId ++
    (List.replicate 2 0 ++ (sr.host.field IDSIZE ++ (sr.user.field IDSIZE ++
      List.replicate IDSIZE 0)))))

/-- `c_open_template` as it goes out: every byte of it has been written. -/
def openTemplateOctets (sr : SrNames) : List UInt8 :=
  bigEndian32 (UInt32.ofNat sizeofOpenTemplate) ++ (bigEndian32 VNS_OPEN_TEMPLATE ++
    (sr.template.field sizeofTemplateName ++ sr.host.field IDSIZE))

theorem buildOpen_liesAt (sr : SrNames) : LiesAt (buildOpen sr) 0 (openOctets sr) := by
  unfold buildOpen openOctets
  dsimp only
  apply LiesAt.append
  · exact ((((liesAt_htonl _ 0 _).put32 _ (by simp)).put16 _ (by simp)).memcpy _ (by simp)).memcpy
      _ (by simp)
  apply LiesAt.append
  · exact (((liesAt_htonl _ 4 _).put16 _ (by simp)).memcpy _ (by simp)).memcpy _ (by simp)
  apply LiesAt.append
  · exact ((liesAt_htons _ 8 _).memcpy _ (by simp)).memcpy _ (by simp)
  apply LiesAt.append
  · -- the padding has been zero from the start
    exact (((((liesAt_zero 10 2).put32 _ (by simp)).put32 _ (by simp)).put16 _ (by simp)).memcpy
      _ (by simp)).memcpy _ (by simp)
  apply LiesAt.append
  · exact (liesAt_strncpy _ 12 _ IDSIZE).memcpy _ (by simp [IDSIZE])
  rw [CName.field_length]
  apply LiesAt.append
  · exact liesAt_strncpy _ 44 _ IDSIZE
  · rw [CName.field_length]
    exact (((((liesAt_zero 76 IDSIZE).put32 _ (by simp)).put32 _ (by simp)).put16 _ (by simp)).memcpy
      _ (by simp [IDSIZE])).memcpy _ (by simp [IDSIZE])

theorem buildOpenTemplate_liesAt (stack : Mem) (sr : SrNames) :
    LiesAt (buildOpenTemplate stack sr) 0 (openTemplateOctets sr) := by
  unfold buildOpenTemplate openTemplateOctets
  dsimp only
  apply LiesAt.append
  · exact (((liesAt_htonl _ 0 _).put32 _ (by simp)).memcpy _ (by simp)).memcpy _ (by simp)
  apply LiesAt.append
  · exact ((liesAt_htonl _ 4 _).memcpy _ (by simp)).memcpy _ (by simp)
  apply LiesAt.append
  · exact (liesAt_strncpy _ 8 _ sizeofTemplateName).memcpy _ (by simp [sizeofTemplateName])
  · rw [CName.field_length]
    exact liesAt_strncpy _ 38 _ IDSIZE

theorem openOctets_length (sr : SrNames) : (openOctets sr).length = sizeofOpen := by
  simp [openOctets, IDSIZE, sizeofOpen]

theorem openTemplateOctets_length (sr : SrNames) :
    (openTemplateOctets sr).length = sizeofOpenTemplate := by
  simp [openTemplateOctets, IDSIZE, sizeofTemplateName, sizeofOpenTemplate]

/-- What goes out does not depend on what the local variables held before. -/
theorem openingMessage_eq (stack : Mem) (sr : SrNames) : openingMessage stack sr =
    if 0 < strlen sr.template then openTemplateOctets sr else openOctets sr := by
  rw [openingMessage, ← openTemplateOctets_length sr, ← openOctets_length sr,
    (buildOpen_liesAt sr).wire_eq, (buildOpenTemplate_liesAt stack sr).wire_eq]

theorem readOpening_open (sr : SrNames) : readOpening (openOctets sr) =
    some (.topology sr.topoId (sr.host.cut IDSIZE) (sr.user.cut IDSIZE)) := by
  have hlen : (UInt32.ofNat sizeofOpen).toNat = (openOctets sr).length := by
    rw [openOctets_length]
    rfl
  have hpad : List.replicate 2 (0 : UInt8) = bigEndian16 0 := rfl
  unfold readOpening
  rw [← hlen, openOctets, readBig32_append, Option.bind_some]
  dsimp only
  rw [readBig32_append, Option.bind_some]
  dsimp only
  rw [if_neg (not_not.mpr rfl), if_pos rfl, readBig16_append, Option.bind_some]
  dsimp only
  rw [hpad, readBig16_append, Option.bind_some]
  dsimp only
  rw [readName_field, Option.bind_some]
  dsimp only
  rw [readName_field, Option.bind_some]
  dsimp only
  rw [if_pos (List.length_replicate ..)]

theorem readOpening_template (sr : SrNames) : readOpening (openTemplateOctets sr) =
    some (.template (sr.template.cut sizeofTemplateName) (sr.host.cut IDSIZE)) := by
  have hlen : (UInt32.ofNat sizeofOpenTemplate).toNat = (openTemplateOctets sr).length := by
    rw [openTemplateOctets_length]
    rfl
  unfold readOpening
  rw [← hlen, openTemplateOctets, readBig32_append, Option.bind_some]
  dsimp only
  rw [readBig32_append, Option.bind_some]
  dsimp only
  rw [if_neg (not_not.mpr rfl), if_neg (by decide), if_pos rfl, readName_field, Option.bind_some]
  dsimp only
  rw [← List.append_nil (sr.host.field IDSIZE), readName_field, Option.bind_some]
  dsimp only
  rw [if_pos rfl]

/-- A length in network order at the head of a message. -/
theorem prefixLen_bigEndian (v : UInt32) (l : List UInt8) :
    prefixLen (bigEndian32 v ++ l) = asInt v := by
  have hload : LiesAt (load (bigEndian32 v ++ l) fun _ => 0) 0 (bigEndian32 v) := liesAt_load _ _ _
  have hput : LiesAt (put32 (fun _ => 0) 0 (swap32 v)) 0 (bigEndian32 v) := liesAt_htonl _ 0 v
  have hget : get32 (load (bigEndian32 v ++ l) fun _ => 0) 0 = swap32 v := by
    calc
      _ = get32 (put32 (fun _ => 0) 0 (swap32 v)) 0 := by
        apply get32_congr
        intro i _ hi
        have hi4 : i < (bigEndian32 v).length := by
          rw [bigEndian32_length]
          omega
        have hsame := (hload i hi4).trans (hput i hi4).symm
        rwa [Nat.zero_add] at hsame
      _ = swap32 v := get32_put32 _ _ _
  rw [prefixLen, hget, ntohl, swap32_swap32]

theorem openOctets_wellFramed (sr : SrNames) : WellFramed (openOctets sr) := by
  have hlen := openOctets_length sr
  refine ⟨?_, ?_, ?_⟩
  · rw [hlen]
    decide
  · rw [hlen]
    decide
  · rw [hlen, openOctets, prefixLen_bigEndian]
    decide

theorem openTemplateOctets_wellFramed (sr : SrNames) : WellFramed (openTemplateOctets sr) := by
  have hlen := openTemplateOctets_length sr
  refine ⟨?_, ?_, ?_⟩
  · rw [hlen]
    decide
  · rw [hlen]
    decide
  · rw [hlen, openTemplateOctets, prefixLen_bigEndian]
    decide

end Opening

/-- Whatever the names are and whatever the stack held, the opening message is framed as the
server's own messages are, the server reads from it what is asked for, each name as far as it fits
its field, and nothing of the stack goes out. -/
theorem opening_reads_back (stack : Mem) (sr : SrNames) :
    readOpening (openingMessage stack sr) = some (if 0 < strlen sr.template
      then .template (sr.template.cut sizeofTemplateName) (sr.host.cut IDSIZE)
      else .topology sr.topoId (sr.host.cut IDSIZE) (sr.user.cut IDSIZE)) ∧
    WellFramed (openingMessage stack sr) ∧
    ∀ stack', openingMessage stack' sr = openingMessage stack sr := by
  rw [openingMessage_eq stack]
  refine ⟨?_, ?_, fun stack' => openingMessage_eq stack' sr⟩
  · split_ifs with ht
    · exact readOpening_template sr
    · exact readOpening_open sr
  · split_ifs with ht
    · exact openTemplateOctets_wellFramed sr
    · exact openOctets_wellFramed sr

end InternetCourse.Router
