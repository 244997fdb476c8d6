import InternetCourse.RouterDigest
import InternetCourse.RouterFraming
import InternetCourse.RouterTable

/-! The reply to an authentication request (`sr_handle_auth_request` in sr_vns_comm.c), byte by
byte. -/
namespace InternetCourse.Router

open ByteMem StateTriple TracedState ByteLayout

def VNS_AUTH_REPLY : UInt32 := 256

def AUTH_KEY_LEN : ℕ := 64
def SHA1_LEN : ℕ := 20
def sizeofAuthReply : ℕ := 12

/-- What the handler finds on the host: the file with the key where it can be opened, what its
local variables hold before they are written to, whether there is memory for the reply and what
it holds, and how many bytes of it `send` takes. -/
structure AuthHost where
  keyFile : Option (List UInt8)
  stack : Mem
  sha1 : Sha1Context
  heap : Option Mem
  sends : List UInt8 → ℤ

/-- `fgets(auth_key, AUTH_KEY_LEN+1, fp)` -/
def fgetsKey (stream : List UInt8) : Option (List UInt8) := (fgetsLines AUTH_KEY_LEN stream).head?

/-- `for (i = 0; i < 5; i++) sha1.Message_Digest[i] = htonl(sha1.Message_Digest[i])`, as it lies in
memory. -/
def digestMemory (digest : Vector UInt32 5) : Mem :=
  put32 (put32 (put32 (put32 (put32 (fun _ => 0) 0 (htonl (digest.get 0))) 4 (htonl (digest.get 1)))
    8 (htonl (digest.get 2))) 12 (htonl (digest.get 3))) 16 (htonl (digest.get 4))

/-- The reply of so many bytes for the user of that name, built in a buffer. -/
def buildAuthReply (buf : Mem) (len : ℕ) (user : List UInt8) (digest : Vector UInt32 5) : Mem :=
  let buf := put32 buf 0 (htonl (UInt32.ofNat len))
  let buf := put32 buf 4 (htonl VNS_AUTH_REPLY)
  let buf := put32 buf 8 (htonl (UInt32.ofNat user.length))
  -- the NUL is overwritten by the digest
  let buf := memcpy buf 12 (load (user ++ [0]) fun _ => 0) (user.length+1)
  memcpy buf (12+user.length) (digestMemory digest) SHA1_LEN

/-- The salted digest of the key that is in memory; nothing where `SHA1Result` has none. -/
def saltedDigest (sha1 : Sha1Context) (salt key : List UInt8) :
    Option (Option (Vector UInt32 5)) := do
  let sha1 ← sha1Input (sha1Reset sha1) salt
  let sha1 ← sha1Input sha1 key
  let (ret, sha1) ← sha1Result sha1
  pure (if ret = 0 then none else some sha1.messageDigest)

/-- What is returned for the request in memory, and what has been passed to `send`. The user is
the name up to its NUL. -/
def authReply (host : AuthHost) (user : List UInt8) (req : Mem) :
    Option (ℤ × Option (List UInt8)) :=
  match host.keyFile.bind fgetsKey with
  | none => some (0, none)
  | some line => do
    let salt := wire (shift req sizeofBase) ((mLen req+2^32-sizeofBase)%2^32)
    let key := wire (load (line ++ [0]) host.stack) AUTH_KEY_LEN
    let digest ← saltedDigest host.sha1 salt key
    match digest, host.heap with
    | some digest, some heap =>
      let len := sizeofAuthReply+user.length+SHA1_LEN
      let reply := wire (buildAuthReply heap len user digest) len
      pure (if host.sends reply ≠ len then 0 else 1, some reply)
    | _, _ => pure (0, none)

/-- `c_auth_reply` as its comments have it: what it says of its own length and of the name, and
what follows the name is the digest. -/
def readAuthReply (m : List UInt8) : Option (List UInt8 × List UInt8) :=
  (readBig32 m).bind fun (mLen, rest) =>
    (readBig32 rest).bind fun (mType, rest) =>
      (readBig32 rest).bind fun (usernameLen, rest) =>
        (takeBytes usernameLen.toNat rest).bind fun (username, digest) =>
          if mLen.toNat = m.length ∧ mType = VNS_AUTH_REPLY ∧ digest.length = SHA1_LEN
          then some (username, digest) else none

/-- The digest as it is written out. -/
def digestOctets (digest : Vector UInt32 5) : List UInt8 := digest.toList.flatMap bigEndian32

theorem digestMemory_liesAt (digest : Vector UInt32 5) :
    LiesAt (digestMemory digest) 0 (bigEndian32 (digest.get 0) ++ (bigEndian32 (digest.get 1) ++
      (bigEndian32 (digest.get 2) ++ (bigEndian32 (digest.get 3) ++ bigEndian32 (digest.get 4))))) := by
  unfold digestMemory
  apply LiesAt.append
  · exact ((((liesAt_htonl _ 0 _).put32 _ (by simp)).put32 _ (by simp)).put32 _ (by simp)).put32
      _ (by simp)
  apply LiesAt.append
  · exact (((liesAt_htonl _ 4 _).put32 _ (by simp)).put32 _ (by simp)).put32 _ (by simp)
  apply LiesAt.append
  · exact ((liesAt_htonl _ 8 _).put32 _ (by simp)).put32 _ (by simp)
  apply LiesAt.append
  · exact (liesAt_htonl _ 12 _).put32 _ (by simp)
  · exact liesAt_htonl _ 16 _

theorem digestOctets_eq (digest : Vector UInt32 5) :
    digestOctets digest = bigEndian32 (digest.get 0) ++ (bigEndian32 (digest.get 1) ++
      (bigEndian32 (digest.get 2) ++ (bigEndian32 (digest.get 3) ++ bigEndian32 (digest.get 4)))) := by
  obtain ⟨⟨l⟩,hl⟩ := digest
  match l, hl with
  | [a, b, c, d, e], _ => rfl

theorem digestOctets_length (digest : Vector UInt32 5) : (digestOctets digest).length = 20 := by
  rw [digestOctets_eq]
  rfl

/-- The reply as its header says it is: nothing of the buffer it was built in is left. -/
def authReplyOctets (user : List UInt8) (digest : Vector UInt32 5) : List UInt8 :=
  bigEndian32 (UInt32.ofNat (sizeofAuthReply+user.length+SHA1_LEN)) ++
    (bigEndian32 VNS_AUTH_REPLY ++ (bigEndian32 (UInt32.ofNat user.length) ++
      (user ++ digestOctets digest)))

theorem authReplyOctets_length (user : List UInt8) (digest : Vector UInt32 5) :
    (authReplyOctets user digest).length = sizeofAuthReply+user.length+SHA1_LEN := by
  unfold authReplyOctets
  simp only [List.length_append, bigEndian32_length, digestOctets_length, sizeofAuthReply, SHA1_LEN]
  omega

/-- Each of the five parts is written once, and what is written after it lies behind it. -/
theorem buildAuthReply_liesAt (buf : Mem) (len : ℕ) (user : List UInt8) (digest : Vector UInt32 5) :
    LiesAt (buildAuthReply buf len user digest) 0 (bigEndian32 (UInt32.ofNat len) ++
      (bigEndian32 VNS_AUTH_REPLY ++ (bigEndian32 (UInt32.ofNat user.length) ++
        (user ++ digestOctets digest)))) := by
  unfold buildAuthReply
  dsimp only
  apply LiesAt.append
  · exact ((((liesAt_htonl _ 0 _).put32 _ (by simp)).put32 _ (by simp)).memcpy _ (by simp)).memcpy
      _ (.inl (by simp; omega))
  apply LiesAt.append
  · exact (((liesAt_htonl _ 4 _).put32 _ (by simp)).memcpy _ (by simp)).memcpy
      _ (.inl (by simp; omega))
  apply LiesAt.append
  · exact ((liesAt_htonl _ 8 _).memcpy _ (by simp)).memcpy _ (.inl (by simp))
  apply LiesAt.append
  · exact (liesAt_memcpy 12 (liesAt_load user [0] _) (Nat.le_succ _)).memcpy _ (.inl (Nat.le_refl _))
  · have hd := digestMemory_liesAt digest
    rw [← digestOctets_eq] at hd
    exact liesAt_memcpy (12+user.length) hd (digestOctets_length digest).le

theorem buildAuthReply_wire (buf : Mem) (user : List UInt8) (digest : Vector UInt32 5) :
    wire (buildAuthReply buf (sizeofAuthReply+user.length+SHA1_LEN) user digest)
      (sizeofAuthReply+user.length+SHA1_LEN) = authReplyOctets user digest := by
  have h := (buildAuthReply_liesAt buf (sizeofAuthReply+user.length+SHA1_LEN) user digest).wire_eq
  have hl := authReplyOctets_length user digest
  unfold authReplyOctets at hl ⊢
  rw [hl] at h
  exact h

theorem toNat_ofNat_of_lt {n : ℕ} (h : n < 2^32) : (UInt32.ofNat n).toNat = n :=
  (UInt32.toNat_ofNat').trans (Nat.mod_eq_of_lt h)

/-- The server reads back the name, and behind it the digest. -/
theorem readAuthReply_octets (user : List UInt8) (digest : Vector UInt32 5)
    (hu : sizeofAuthReply+user.length+SHA1_LEN < 2^31) :
    readAuthReply (authReplyOctets user digest) = some (user, digestOctets digest) := by
  have hlen : (UInt32.ofNat (sizeofAuthReply+user.length+SHA1_LEN)).toNat =
      (authReplyOctets user digest).length := by
    rw [authReplyOctets_length]
    exact toNat_ofNat_of_lt (by omega)
  have hn : (UInt32.ofNat user.length).toNat = user.length := toNat_ofNat_of_lt (by omega)
  unfold readAuthReply
  rw [← hlen]
  unfold authReplyOctets
  rw [readBig32_append, Option.bind_some]
  dsimp only
  rw [readBig32_append, Option.bind_some]
  dsimp only
  rw [readBig32_append, Option.bind_some]
  dsimp only
  rw [takeBytes_append _ _ _ hn.symm, Option.bind_some]
  exact if_pos ⟨rfl, rfl, digestOctets_length digest⟩

/-! What goes into the digest -/

/-- The octets of the key that are hashed: the line, its NUL, and what the array held before. -/
def keyOctets (stack : Mem) (line : List UInt8) : List UInt8 :=
  wire (load (line ++ [0]) stack) AUTH_KEY_LEN

theorem keyOctets_length (stack : Mem) (line : List UInt8) : (keyOctets stack line).length = 64 :=
  wire_length _ _

/-- What was on the stack is hashed as well, but for a line that fills the array or all but the last
place of it. -/
theorem keyOctets_fixed_iff (line : List UInt8) :
    (∀ stack stack', keyOctets stack line = keyOctets stack' line) ↔ 63 ≤ line.length := by
  have hl : (line ++ [0]).length = line.length+1 := List.length_append
  constructor
  · intro h
    by_contra hlt
    -- the last octet is not written
    have hw := h (fun _ => 0) (fun _ => 1)
    have h63 (stack : Mem) : (keyOctets stack line)[63]? = some (stack 63) := by
      have hr : (List.range 64)[63]? = some 63 := rfl
      unfold keyOctets wire AUTH_KEY_LEN
      rw [List.getElem?_map, hr, Option.map_some, load_of_le stack (by omega)]
    have hne : (keyOctets (fun _ => 0) line)[63]? = (keyOctets (fun _ => 1) line)[63]? := by
      rw [hw]
    rw [h63, h63] at hne
    exact absurd (Option.some.inj hne) (by decide)
  · intro h stack stack'
    unfold keyOctets wire
    apply List.map_congr_left
    intro i hi
    have hi : i < 64 := List.mem_range.mp hi
    rw [load_of_lt stack (by omega), load_of_lt stack' (by omega)]

theorem saltedDigest_eq (sha1 : Sha1Context) (salt key : List UInt8)
    (h : salt.length+key.length < 2^61) :
    saltedDigest sha1 salt key = some (some (fips180 (salt ++ key))) := by
  obtain ⟨c1,h1,ha1⟩ := sha1Input_absorbing (sha1Reset_absorbing sha1) salt
    (by rw [List.length_nil]; omega)
  rw [List.nil_append] at ha1
  obtain ⟨c2,h2,ha2⟩ := sha1Input_absorbing ha1 key h
  obtain ⟨c3,h3,hd,-⟩ := sha1Result_absorbing ha2
  unfold saltedDigest
  rw [Option.bind_eq_bind, h1, Option.bind_some, Option.bind_eq_bind, h2, Option.bind_some, h3,
    Option.bind_some]
  dsimp only
  rw [hd, if_neg (by decide), Option.pure_def]

/-- The salt in the buffer is what follows the header of the message. -/
theorem salt_of_message {m : List UInt8} (h : WellFramed m) (slack : Mem) :
    wire (shift (messageBuffer m slack) sizeofBase)
      ((mLen (messageBuffer m slack)+2^32-sizeofBase)%2^32) = m.drop 8 := by
  have h8 : 8 ≤ m.length := h.header
  have hle := h.le
  have hlen : mLen (messageBuffer m slack) = m.length := by
    have hout : 0+4 ≤ 4 ∨ 4+4 ≤ 0 := by omega
    have hword := h.announced.word slack
    rw [h.prefix_eq, Int.toNat_natCast] at hword
    unfold mLen messageBuffer
    rw [get32_put32_outside _ _ hout, ← hword]
    unfold ntohl htonl
    rw [swap32_swap32]
    exact toNat_ofNat_of_lt (by omega)
  have hn : (m.length+2^32-sizeofBase)%2^32 = m.length-8 := by
    unfold sizeofBase
    omega
  rw [hlen, hn]
  apply List.ext_getElem
  · rw [wire_length, List.length_drop]
  · intro i h1 h2
    rw [wire_length] at h1
    have hi : (wire (shift (messageBuffer m slack) sizeofBase) (m.length-8))[i] =
        messageBuffer m slack (8+i) :=
      (List.getElem_map _).trans (congrArg (shift (messageBuffer m slack) 8) (List.getElem_range _))
    unfold messageBuffer at hi
    rw [put32_outside _ _ (by omega), load_of_lt slack (by omega)] at hi
    rw [List.getElem_drop]
    exact hi

theorem authReply_none {host : AuthHost} (user : List UInt8) (req : Mem)
    (hk : host.keyFile.bind fgetsKey = none) : authReply host user req = some (0,none) := by
  unfold authReply
  rw [hk]

theorem authReply_message {host : AuthHost} (user : List UInt8) {m : List UInt8} (h : WellFramed m)
    (slack : Mem) {line : List UInt8} (hk : host.keyFile.bind fgetsKey = some line) :
    authReply host user (messageBuffer m slack) = match host.heap with
      | none => some (0,none)
      | some _ =>
        let reply := authReplyOctets user (fips180 (m.drop 8 ++ keyOctets host.stack line))
        some (if host.sends reply ≠ reply.length then 0 else 1, some reply) := by
  have hs : (m.drop 8).length+(keyOctets host.stack line).length < 2^61 := by
    have hle := h.le
    rw [List.length_drop, keyOctets_length]
    omega
  have hd := saltedDigest_eq host.sha1 (m.drop 8) (keyOctets host.stack line) hs
  unfold authReply
  rw [hk]
  dsimp only
  rw [salt_of_message h slack, Option.bind_eq_bind]
  change (saltedDigest host.sha1 (m.drop 8) (keyOctets host.stack line)).bind _ = _
  rw [hd, Option.bind_some]
  cases host.heap with
  | none => rfl
  | some heap =>
    dsimp only
    rw [buildAuthReply_wire, authReplyOctets_length]
    rfl

/-- Every authentication request is answered in the format of `c_auth_reply`, with the digest of the
salt and the key as the standard computes it, where the key can be read and there is memory for the
reply. The handler returns 1 for a reply that was sent whole. -/
theorem authReply_reads_back (host : AuthHost) (user : List UInt8)
    (hu : sizeofAuthReply+user.length+SHA1_LEN < 2^31) {m : List UInt8} (h : WellFramed m)
    (slack : Mem) :
    ∃ ret sent, authReply host user (messageBuffer m slack) = some (ret,sent) ∧
      (sent.isSome ↔ (host.keyFile.bind fgetsKey).isSome ∧ host.heap.isSome) ∧
      (ret = 1 ↔ ∃ reply, sent = some reply ∧ host.sends reply = reply.length) ∧
      ∀ reply, sent = some reply → ∃ line, host.keyFile.bind fgetsKey = some line ∧
        readAuthReply reply =
          some (user, digestOctets (fips180 (m.drop 8 ++ keyOctets host.stack line))) ∧
        ((∀ stack, keyOctets stack line = keyOctets host.stack line) ↔ 63 ≤ line.length) := by
  cases hk : host.keyFile.bind fgetsKey with
  | none =>
    refine ⟨0, none, authReply_none user _ hk, ?_, ?_, ?_⟩
    · simp only [Option.isSome_none, Bool.false_eq_true, false_and]
    · constructor
      · intro h01
        exact absurd h01 (by decide)
      · rintro ⟨reply,hr,-⟩
        contradiction
    · intro reply hr
      contradiction
  | some line =>
    have hreply := authReply_message user h slack hk
    cases hheap : host.heap with
    | none =>
      rw [hheap] at hreply
      refine ⟨0, none, hreply, ?_, ?_, ?_⟩
      · simp only [Option.isSome_none, Bool.false_eq_true, and_false]
      · constructor
        · intro h01
          exact absurd h01 (by decide)
        · rintro ⟨reply,hr,-⟩
          contradiction
      · intro reply hr
        contradiction
    | some heap =>
      rw [hheap] at hreply
      refine ⟨_, _, hreply, ?_, ?_, ?_⟩
      · simp only [Option.isSome_some, and_self]
      · constructor
        · intro h01
          by_cases hs : host.sends (authReplyOctets user (fips180 (m.drop 8 ++
              keyOctets host.stack line))) = (authReplyOctets user (fips180 (m.drop 8 ++
              keyOctets host.stack line))).length
          · exact ⟨_, rfl, hs⟩
          · rw [if_pos hs] at h01
            exact absurd h01 (by decide)
        · rintro ⟨reply,hr,hs⟩
          obtain rfl := Option.some.inj hr
          exact if_neg (not_not.mpr hs)
      · intro reply hr
        obtain rfl := Option.some.inj hr
        refine ⟨line, rfl, readAuthReply_octets user _ hu, ?_⟩
        constructor
        · intro hfix
          exact (keyOctets_fixed_iff line).mp fun stack stack' => (hfix stack).trans (hfix stack').symm
        · intro h63 stack
          exact (keyOctets_fixed_iff line).mpr h63 stack host.stack

/-- A request with a salt of four octets. -/
def saltRequest : List UInt8 := [0, 0, 0, 12, 0, 0, 0, 128, 1, 2, 3, 4]

/-- A key of 64 characters, and a socket that takes everything. -/
def keyHost : AuthHost where
  keyFile := some (List.replicate 64 97 ++ [10])
  stack := fun _ => 0
  sha1 := ⟨Vector.replicate 5 0, 0, 0, Vector.replicate 64 0, 0, false, false⟩
  heap := some fun _ => 7
  sends := fun reply => reply.length

theorem authReply_reads_back_keyHost : ∃ ret sent,
    authReply keyHost [117, 115, 101, 114] (messageBuffer saltRequest fun _ => 0) =
      some (ret,sent) ∧
    (sent.isSome ↔ (keyHost.keyFile.bind fgetsKey).isSome ∧ keyHost.heap.isSome) := by
  obtain ⟨ret,sent,h1,h2,-⟩ := authReply_reads_back keyHost [117, 115, 101, 114] (by decide)
    (m := saltRequest) ⟨by decide, by decide, by decide +kernel⟩ fun _ => 0
  exact ⟨ret, sent, h1, h2⟩

/-- What the reader of the messages asks about the handler, for the `n`-th message. -/
structure AuthHost.Answers (host : AuthHost) (server : ServerHost) (n : ℕ) (user : List UInt8)
    (req : Mem) : Prop where
  key : server.authKey n = (host.keyFile.bind fgetsKey).isSome
  reply : server.authReply n = true ↔ ∃ sent, authReply host user req = some (1,sent)

/-- The handler as the reader of the messages sees it returns the same. -/
theorem srHandleAuthRequest_eq {host : AuthHost} {server : ServerHost} {n : ℕ} {user : List UInt8}
    {req : Mem} (h : host.Answers server n user req) {ret : ℤ} {sent : Option (List UInt8)}
    (hr : authReply host user req = some (ret,sent)) (h01 : ret = 0 ∨ ret = 1) (s : SrInstance) :
    erase (srHandleAuthRequest server n req) s = .ok ret s := by
  have hreply := h.reply
  rw [hr] at hreply
  unfold srHandleAuthRequest
  rw [erase_ite, h.key]
  cases hk : host.keyFile.bind fgetsKey with
  | none =>
    rw [authReply_none user req hk] at hr
    obtain ⟨rfl,-⟩ := Prod.mk.inj (Option.some.inj hr)
    rfl
  | some line =>
    simp only [Option.isSome_some, if_true, erase_bind, erase_note, erase_pure, pure_bind]
    rcases h01 with rfl | rfl
    · have hno : server.authReply n = false := by
        apply Bool.eq_false_iff.mpr
        intro ht
        obtain ⟨_,he⟩ := hreply.mp ht
        have := (Prod.mk.inj (Option.some.inj he)).1
        contradiction
      rw [hno, if_neg Bool.false_ne_true]
      rfl
    · rw [hreply.mpr ⟨sent,rfl⟩, if_pos rfl]
      rfl

end InternetCourse.Router
