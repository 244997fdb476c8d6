import InternetCourse.RouterRun
import Mathlib.Data.List.Forall2

/-! Loading the routing table (sr_rt.c). -/
namespace InternetCourse.Router

open ByteMem

def BUFSIZ : ℕ := 8192

def newline : UInt8 := 10

/-- `isspace` -/
def isSpace (b : UInt8) : Bool := b == 32 || (9 ≤ b && b ≤ 13)

/-- What successive calls of `fgets` return, when the buffer has `room` bytes left besides its
NUL. -/
def fgetsLines : ℕ → List UInt8 → List CName
  | _, [] => []
  | room, b :: stream =>
    if b = newline ∨ room ≤ 1 then [b] :: fgetsLines (BUFSIZ-1) stream
    else match fgetsLines (room-1) stream with
      | [] => [[b]]
      | line :: lines => (b :: line) :: lines

/-- The fields of a line that `%s` finds. -/
def fieldsOf (line : CName) : List CName :=
  ((line.takeWhile (· ≠ 0)).splitOnP isSpace).filter (· ≠ [])

/-- The fields of the line fit the buffers they are copied to. -/
def FieldsFit (line : CName) : Prop := ∀ word ∈ (fieldsOf line).take 4, word.length < srIfaceNamelen

instance (line : CName) : Decidable (FieldsFit line) :=
  inferInstanceAs (Decidable (∀ word ∈ (fieldsOf line).take 4, word.length < srIfaceNamelen))

/-- The local buffers of `sr_load_rt`. -/
structure Fields where
  dest : CName
  gw : CName
  mask : CName
  iface : CName

/-- `sscanf(line, "%s %s %s %s", dest, gw, mask, iface)`: the buffers there are no words for keep
what they hold. -/
def sscanf (line : CName) (fields : Fields) : Fields :=
  match fieldsOf line with
  | [] => fields
  | [dest] => { fields with dest := dest }
  | [dest, gw] => { fields with dest := dest, gw := gw }
  | [dest, gw, mask] => { fields with dest := dest, gw := gw, mask := mask }
  | dest :: gw :: mask :: iface :: _ => ⟨dest, gw, mask, iface⟩

def srAddRtEntry (table : List SrRt) (dest gw mask : UInt32) (ifName : CName) : List SrRt :=
  table ++ [⟨dest, gw, mask, strncpy ifName srIfaceNamelen⟩]

/-- The loop over the lines. The table is dropped once a line has been converted. -/
def loadLines (inetAton : CName → Option UInt32) :
    List CName → Fields → Bool → List SrRt → ℤ × List SrRt
  | [], _, _, table => (0, table)
  | line :: lines, fields, cleared, table =>
    -- how many buffers `sscanf` has filled is not looked at
    let fields := sscanf line fields
    match inetAton fields.dest, inetAton fields.gw, inetAton fields.mask with
    | some dest, some gw, some mask =>
      let table := if cleared then table else []
      loadLines inetAton lines fields true (srAddRtEntry table dest gw mask fields.iface)
    | _, _, _ => (-1, table)

/-- The file is `none` where it cannot be read; `stack` is what the buffers hold before they are
written to. -/
def srLoadRt (inetAton : CName → Option UInt32) (file : Option (List UInt8)) (stack : Fields)
    (sr : SrInstance) : ℤ × SrInstance :=
  match file with
  | none => (-1, sr)
  | some stream =>
    let r := loadLines inetAton (fgetsLines (BUFSIZ-1) stream) stack false sr.routingTable
    (r.1, { sr with routingTable := r.2 })

/-- Whether the loop comes to a line with a word that does not fit its buffer. -/
def linesOverrun (inetAton : CName → Option UInt32) : List CName → Fields → Bool
  | [], _ => false
  | line :: lines, fields =>
    if ¬FieldsFit line then true
    else
      let fields := sscanf line fields
      match inetAton fields.dest, inetAton fields.gw, inetAton fields.mask with
      | some _, some _, some _ => linesOverrun inetAton lines fields
      | _, _, _ => false

/-- Whether a call of `sr_load_rt` writes past the end of one of its buffers; `srLoadRt` does not
know. -/
def loadOverruns (inetAton : CName → Option UInt32) (file : Option (List UInt8))
    (stack : Fields) : Bool :=
  match file with
  | none => false
  | some stream => linesOverrun inetAton (fgetsLines (BUFSIZ-1) stream) stack

/-- The lines of a file, each with its newline. -/
def fileLines : List UInt8 → List CName
  | [] => []
  | b :: stream =>
    if b = newline then [b] :: fileLines stream
    else match fileLines stream with
      | [] => [[b]]
      | line :: lines => (b :: line) :: lines

/-- What a line with four fields says, whatever comes behind them; others say nothing. -/
def entryOf (inetAton : CName → Option UInt32) (line : CName) : Option SrRt :=
  match fieldsOf line with
  | dest :: gw :: mask :: iface :: _ =>
    match inetAton dest, inetAton gw, inetAton mask with
    | some dest, some gw, some mask => some ⟨dest, gw, mask, iface⟩
    | _, _, _ => none
  | _ => none

/-- The table in the file. -/
def tableOf (inetAton : CName → Option UInt32) (stream : List UInt8) : List SrRt :=
  (fileLines stream).filterMap (entryOf inetAton)

/-! Short lines are returned whole. -/

theorem fileLines_ne_nil {stream : List UInt8} : ∀ line ∈ fileLines stream, line ≠ [] := by
  induction stream with
  | nil =>
    intro line h
    contradiction
  | cons b stream ih =>
    intro line h
    rw [fileLines] at h
    split_ifs at h with hb
    · rcases List.mem_cons.mp h with rfl | h
      · exact List.cons_ne_nil _ _
      · exact ih line h
    · cases hl : fileLines stream with
      | nil =>
        rw [hl] at h
        rw [List.mem_singleton.mp h]
        exact List.cons_ne_nil _ _
      | cons first lines =>
        rw [hl] at h ih
        rcases List.mem_cons.mp h with rfl | h
        · exact List.cons_ne_nil _ _
        · exact ih line (List.mem_cons_of_mem first h)

theorem fileLines_eq_nil {stream : List UInt8} (h : fileLines stream = []) : stream = [] := by
  cases stream with
  | nil => rfl
  | cons b stream =>
    rw [fileLines] at h
    split_ifs at h
    split at h
    · contradiction
    · contradiction

theorem fgetsLines_eq {stream : List UInt8} {room : ℕ}
    (h : ∀ line ∈ fileLines stream, line.length < BUFSIZ)
    (hroom : ∀ line ∈ (fileLines stream).head?, line.length ≤ room) :
    fgetsLines room stream = fileLines stream := by
  have hsize : BUFSIZ = 8192 := rfl
  induction stream generalizing room with
  | nil => rfl
  | cons b stream ih =>
    rw [fgetsLines, fileLines]
    rw [fileLines] at h hroom
    by_cases hb : b = newline
    · rw [if_pos hb] at h hroom ⊢
      rw [if_pos (Or.inl hb)]
      have hrest : ∀ line ∈ fileLines stream, line.length < BUFSIZ :=
        fun line hl => h line (List.mem_cons_of_mem _ hl)
      rw [ih hrest fun line hl => Nat.le_sub_one_of_lt (hrest line (List.mem_of_mem_head? hl))]
    · rw [if_neg hb] at h hroom ⊢
      cases hl : fileLines stream with
      | nil =>
        rw [fileLines_eq_nil hl]
        split_ifs
        · rfl
        · rfl
      | cons first lines =>
        rw [hl] at h hroom ih
        -- the line goes on behind `b`, so there is room for more of it
        have hfirst : 0 < first.length := by
          apply List.length_pos_of_ne_nil
          apply fileLines_ne_nil first
          rw [hl]
          exact List.mem_cons_self
        have hlen : first.length+1 ≤ room := hroom (b :: first) rfl
        rw [if_neg (by simp only [hb, false_or]; omega), ih ?_ ?_]
        · intro line hline
          rcases List.mem_cons.mp hline with rfl | hline
          · exact (Nat.lt_succ_self _).trans (h (b :: line) List.mem_cons_self)
          · exact h line (List.mem_cons_of_mem _ hline)
        · rintro line ⟨⟩
          exact Nat.le_sub_one_of_lt hlen

/-- A file of short lines is read line by line. -/
theorem fgetsLines_of_short {stream : List UInt8}
    (h : ∀ line ∈ fileLines stream, line.length < BUFSIZ) :
    fgetsLines (BUFSIZ-1) stream = fileLines stream :=
  fgetsLines_eq h fun line hl => Nat.le_sub_one_of_lt (h line (List.mem_of_mem_head? hl))

/-! What the lines leave in the table. -/
section Load

variable {inetAton : CName → Option UInt32} {lines : List CName} {fields : Fields}
  {cleared : Bool} {table table' : List SrRt}

/-- The entry is that of the line, if the line has four fields. -/
def Gives (inetAton : CName → Option UInt32) (line : CName) (rt : SrRt) : Prop :=
  4 ≤ (fieldsOf line).length → entryOf inetAton line = some rt

/-- A line with four fields leaves nothing of what was in the buffers. -/
theorem sscanf_of_four {line dest gw mask iface : CName} {rest : List CName}
    (h : fieldsOf line = dest :: gw :: mask :: iface :: rest) (fields : Fields) :
    sscanf line fields = ⟨dest, gw, mask, iface⟩ := by
  rw [sscanf, h]

theorem four_fields {line : CName} (h : 4 ≤ (fieldsOf line).length) :
    ∃ dest gw mask iface rest, fieldsOf line = dest :: gw :: mask :: iface :: rest := by
  match ht : fieldsOf line, h with
  | dest :: gw :: mask :: iface :: rest, _ => exact ⟨_, _, _, _, _, rfl⟩
  | [], h | [_], h | [_, _], h | [_, _, _], h => exact absurd h (by simp)

/-- A line is converted, or the loop fails. -/
theorem loadLines_succeeds {line : CName} (h : loadLines inetAton (line :: lines) fields cleared table =
    (0, table')) : ∃ dest gw mask, inetAton (sscanf line fields).dest = some dest ∧
      inetAton (sscanf line fields).gw = some gw ∧ inetAton (sscanf line fields).mask = some mask ∧
      loadLines inetAton lines (sscanf line fields) true (srAddRtEntry (if cleared then table else [])
        dest gw mask (sscanf line fields).iface) = (0, table') := by
  rw [loadLines] at h
  dsimp only at h
  split at h
  · rename_i dest gw mask hd hg hm
    exact ⟨dest, gw, mask, hd, hg, hm, h⟩
  · have hne : (-1 : ℤ) ≠ 0 := by decide
    exact absurd (congrArg Prod.fst h) hne

theorem strncpy_of_fit {line dest gw mask iface : CName} {rest : List CName} (h : FieldsFit line)
    (ht : fieldsOf line = dest :: gw :: mask :: iface :: rest) :
    strncpy iface srIfaceNamelen = iface := by
  have hmem : iface ∈ (fieldsOf line).take 4 := by simp [ht]
  exact List.take_of_length_le (h iface hmem).le

/-- Every line of a file that is loaded leaves an entry, behind those of the lines before it. -/
theorem loadLines_gives (hfit : ∀ line ∈ lines, FieldsFit line)
    (h : loadLines inetAton lines fields cleared table = (0, table')) :
    ∃ entries, List.Forall₂ (Gives inetAton) lines entries ∧
      table' = (if cleared = true ∨ lines = [] then table else []) ++ entries := by
  induction lines generalizing fields cleared table with
  | nil =>
    rw [loadLines] at h
    refine ⟨[], List.Forall₂.nil, ?_⟩
    rw [if_pos (Or.inr rfl), List.append_nil]
    exact (congrArg Prod.snd h).symm
  | cons line lines ih =>
    obtain ⟨dest,gw,mask,hdest,hgw,hmask,hrest⟩ := loadLines_succeeds h
    obtain ⟨entries,hgives,htable⟩ :=
      ih (fun l hl => hfit l (List.mem_cons_of_mem line hl)) hrest
    refine ⟨⟨dest, gw, mask, strncpy (sscanf line fields).iface srIfaceNamelen⟩ :: entries,
      List.Forall₂.cons ?_ hgives, ?_⟩
    · intro hfour
      obtain ⟨d,g,m,i,rest,ht⟩ := four_fields hfour
      rw [sscanf_of_four ht] at hdest hgw hmask ⊢
      rw [entryOf, ht]
      dsimp only at hdest hgw hmask ⊢
      rw [hdest, hgw, hmask, strncpy_of_fit (hfit line List.mem_cons_self) ht]
    · rw [htable, if_pos (Or.inl rfl), srAddRtEntry, List.append_assoc, List.singleton_append]
      congr 1
      simp only [reduceCtorEq, or_false]

/-- What has to be in a line for it to have an entry. -/
theorem entryOf_eq_some {line : CName} {rt : SrRt} (h : entryOf inetAton line = some rt) :
    ∃ dest gw mask iface rest, fieldsOf line = dest :: gw :: mask :: iface :: rest ∧
      inetAton dest = some rt.dest ∧ inetAton gw = some rt.gw ∧ inetAton mask = some rt.mask ∧
      iface = rt.interface := by
  rw [entryOf] at h
  split at h
  · rename_i dest gw mask iface rest ht
    split at h
    · rename_i d g m hd hg hm
      obtain rfl := Option.some.inj h
      exact ⟨dest, gw, mask, iface, rest, ht, hd, hg, hm, rfl⟩
    · contradiction
  · contradiction

/-- Lines with four fields are loaded, whatever the buffers held. -/
theorem loadLines_entries (hfit : ∀ line ∈ lines, FieldsFit line)
    (h : ∀ line ∈ lines, (entryOf inetAton line).isSome) (fields : Fields) (cleared : Bool)
    (table : List SrRt) : loadLines inetAton lines fields cleared table =
      (0, (if cleared = true ∨ lines = [] then table else []) ++
        lines.filterMap (entryOf inetAton)) := by
  induction lines generalizing fields cleared table with
  | nil =>
    rw [loadLines, if_pos (Or.inr rfl), List.filterMap_nil, List.append_nil]
  | cons line lines ih =>
    obtain ⟨rt,hrt⟩ := Option.isSome_iff_exists.mp (h line List.mem_cons_self)
    obtain ⟨dest,gw,mask,iface,rest,ht,hdest,hgw,hmask,hif⟩ := entryOf_eq_some hrt
    rw [loadLines, sscanf_of_four ht]
    dsimp only
    rw [hdest, hgw, hmask]
    dsimp only
    rw [ih (fun l hl => hfit l (List.mem_cons_of_mem line hl))
      (fun l hl => h l (List.mem_cons_of_mem line hl)), if_pos (Or.inl rfl), srAddRtEntry,
      strncpy_of_fit (hfit line List.mem_cons_self) ht, hif, List.filterMap_cons_some hrt,
      List.append_assoc, List.singleton_append]
    simp only [reduceCtorEq, or_false]

theorem entryOf_four {line : CName} (h : (entryOf inetAton line).isSome) :
    4 ≤ (fieldsOf line).length := by
  obtain ⟨rt,hrt⟩ := Option.isSome_iff_exists.mp h
  obtain ⟨_,_,_,_,_,ht,-⟩ := entryOf_eq_some hrt
  rw [ht]
  exact Nat.le_add_left 4 _

theorem Gives.filterMap {entries : List SrRt} (h : List.Forall₂ (Gives inetAton) lines entries)
    (hfour : ∀ line ∈ lines, 4 ≤ (fieldsOf line).length) :
    lines.filterMap (entryOf inetAton) = entries := by
  induction h with
  | nil => rfl
  | cons hgive _ ih =>
    rw [List.filterMap_cons_some (hgive (hfour _ List.mem_cons_self)),
      ih fun line hl => hfour line (List.mem_cons_of_mem _ hl)]

end Load

theorem srLoadRt_lines {inetAton : CName → Option UInt32} {stream : List UInt8}
    (hlines : ∀ line ∈ fileLines stream, line.length < BUFSIZ) (stack : Fields) (s : SrInstance) :
    srLoadRt inetAton (some stream) stack s =
      ((loadLines inetAton (fileLines stream) stack false s.routingTable).1,
        { s with routingTable :=
          (loadLines inetAton (fileLines stream) stack false s.routingTable).2 }) := by
  rw [srLoadRt, fgetsLines_of_short hlines]

/-- The table is that of the file, and stays so when the file is loaded again. -/
structure LoadsExactly (inetAton : CName → Option UInt32) (stream : List UInt8)
    (s' : SrInstance) : Prop where
  table : s'.routingTable = tableOf inetAton stream
  again : ∀ stack, srLoadRt inetAton (some stream) stack s' = (0, s')

section File

variable {inetAton : CName → Option UInt32} {stream : List UInt8} {entries : List SrRt}
  {stack : Fields} {s s' : SrInstance}

/-- Every line of a file that is loaded leaves an entry, behind the old table where there is no
line. -/
theorem srLoadRt_gives (hlines : ∀ line ∈ fileLines stream, line.length < BUFSIZ)
    (hfields : ∀ line ∈ fileLines stream, FieldsFit line)
    (hload : srLoadRt inetAton (some stream) stack s = (0, s')) : ∃ entries,
      List.Forall₂ (Gives inetAton) (fileLines stream) entries ∧
        s'.routingTable = (if fileLines stream = [] then s.routingTable else []) ++ entries := by
  rw [srLoadRt_lines hlines] at hload
  obtain ⟨hret,hs⟩ := Prod.mk.inj hload
  have hloop : loadLines inetAton (fileLines stream) stack false s.routingTable =
      (0, s'.routingTable) := by
    rw [← hs]
    exact Prod.ext hret rfl
  obtain ⟨entries,hgives,htable⟩ := loadLines_gives hfields hloop
  simp only [Bool.false_eq_true, false_or] at htable
  exact ⟨entries,hgives,htable⟩

/-- Where the table is that of the file, every line has an entry of its own. -/
theorem four_of_table (hgives : List.Forall₂ (Gives inetAton) (fileLines stream) entries)
    (htable : entries = tableOf inetAton stream) :
    ∀ line ∈ fileLines stream, 4 ≤ (fieldsOf line).length := by
  have hlen : ((fileLines stream).filterMap (entryOf inetAton)).length =
      (fileLines stream).length := by
    calc
      _ = entries.length := by rw [htable, tableOf]
      _ = (fileLines stream).length := hgives.length_eq.symm
  intro line hl
  exact entryOf_four (List.filterMap_length_eq_length.mp hlen line hl)

/-- Loaded once more, a file in which every line has an entry gives the same table. -/
theorem srLoadRt_again (hlines : ∀ line ∈ fileLines stream, line.length < BUFSIZ)
    (hfields : ∀ line ∈ fileLines stream, FieldsFit line)
    (hentries : ∀ line ∈ fileLines stream, (entryOf inetAton line).isSome)
    (htable : s'.routingTable = tableOf inetAton stream) (stack : Fields) :
    srLoadRt inetAton (some stream) stack s' = (0, s') := by
  have hagain : (if false = true ∨ fileLines stream = [] then s'.routingTable else []) ++
      (fileLines stream).filterMap (entryOf inetAton) = s'.routingTable := by
    by_cases hnil : fileLines stream = []
    · rw [if_pos (Or.inr hnil), hnil, List.filterMap_nil, List.append_nil]
    · rw [if_neg (not_or.mpr ⟨Bool.false_ne_true,hnil⟩), List.nil_append]
      exact htable.symm
  rw [srLoadRt_lines hlines, loadLines_entries hfields hentries, hagain]

theorem linesOverrun_of_fit (hfit : ∀ line ∈ lines, FieldsFit line) (fields : Fields) :
    linesOverrun inetAton lines fields = false := by
  induction lines generalizing fields with
  | nil => rfl
  | cons line lines ih =>
    obtain ⟨hline,hlines⟩ := List.forall_mem_cons.mp hfit
    rw [linesOverrun, if_neg (not_not.mpr hline)]
    dsimp only
    split
    · exact ih hlines _
    · rfl

/-- Where the lines and their fields fit, nothing is overrun. -/
theorem loadOverruns_of_fit (hlines : ∀ line ∈ fileLines stream, line.length < BUFSIZ)
    (hfields : ∀ line ∈ fileLines stream, FieldsFit line) :
    loadOverruns inetAton (some stream) stack = false := by
  have hread : fgetsLines (BUFSIZ-1) stream = fileLines stream := by
    apply fgetsLines_eq hlines
    intro line hline
    have hlen := hlines line (List.mem_of_mem_head? hline)
    omega
  rw [loadOverruns, hread]
  exact linesOverrun_of_fit hfields stack

/-- A file that is loaded gives its table if and only if every line of it has four fields and,
where it has no lines, there was no table before. -/
theorem srLoadRt_exact_iff (hlines : ∀ line ∈ fileLines stream, line.length < BUFSIZ)
    (hfields : ∀ line ∈ fileLines stream, FieldsFit line)
    (hload : srLoadRt inetAton (some stream) stack s = (0, s')) :
    LoadsExactly inetAton stream s' ↔
      (∀ line ∈ fileLines stream, 4 ≤ (fieldsOf line).length) ∧
        (fileLines stream = [] → s.routingTable = []) := by
  obtain ⟨entries,hgives,htable⟩ := srLoadRt_gives hlines hfields hload
  constructor
  · intro h
    have hexact := htable.symm.trans h.table
    by_cases hnil : fileLines stream = []
    · -- without a line the old table is still there
      rw [hnil] at hgives
      obtain rfl := List.forall₂_nil_left_iff.mp hgives
      rw [if_pos hnil, List.append_nil, tableOf, hnil, List.filterMap_nil] at hexact
      refine ⟨?_, fun _ => hexact⟩
      intro line hl
      rw [hnil] at hl
      contradiction
    · rw [if_neg hnil, List.nil_append] at hexact
      exact ⟨four_of_table hgives hexact, fun h => absurd h hnil⟩
  · rintro ⟨hfour,hold⟩
    have hfilter := Gives.filterMap hgives hfour
    have hkept : (if fileLines stream = [] then s.routingTable else []) = [] := by
      split_ifs with hnil
      · exact hold hnil
      · rfl
    have hexact : s'.routingTable = tableOf inetAton stream := by
      rw [htable, hkept, List.nil_append, tableOf, hfilter]
    have hentries : ∀ line ∈ fileLines stream, (entryOf inetAton line).isSome := by
      rw [← List.filterMap_length_eq_length, hfilter]
      exact hgives.length_eq.symm
    exact ⟨hexact, srLoadRt_again hlines hfields hentries hexact⟩

end File

/-- `inet_aton` for four decimal numbers between dots. -/
def dottedQuad (name : CName) : Option UInt32 :=
  let byte (digits : CName) : Option UInt8 :=
    if digits.all (fun b => 48 ≤ b && b ≤ 57) && digits ≠ [] && digits.length ≤ 3 &&
        (digits.length = 1 || digits.head? ≠ some 48) then
      let n := digits.foldl (fun n b => 10*n+(b.toNat-48)) 0
      if n < 256 then some (UInt8.ofNat n) else none
    else none
  match (name.splitOnP (· == 46)).map byte with
  | [some a, some b, some c, some d] => some (get32 (load [a, b, c, d] fun _ => 0) 0)
  | _ => none

/-- "10.0.0.2 10.0.0.2 255.0.0.0 eth0" -/
def hostLine : CName :=
  [49, 48, 46, 48, 46, 48, 46, 50, 32, 49, 48, 46, 48, 46, 48, 46, 50, 32,
    50, 53, 53, 46, 48, 46, 48, 46, 48, 32, 101, 116, 104, 48, 10]

def noFields : Fields := ⟨[], [], [], []⟩

/-- Two lines, the second "10.0.1.2 10.0.1.2 255.0.0.0 eth1". -/
def hostLines : List UInt8 :=
  hostLine ++ [49, 48, 46, 48, 46, 49, 46, 50, 32, 49, 48, 46, 48, 46, 49, 46, 50, 32,
    50, 53, 53, 46, 48, 46, 48, 46, 48, 32, 101, 116, 104, 49, 10]

theorem srLoadRt_exact_iff_hostLine :
    LoadsExactly dottedQuad hostLines
        (srLoadRt dottedQuad (some hostLines) noFields smallRouter).2 ↔
      (∀ line ∈ fileLines hostLines, 4 ≤ (fieldsOf line).length) ∧
        (fileLines hostLines = [] → smallRouter.routingTable = []) :=
  srLoadRt_exact_iff (by decide +kernel) (by decide +kernel)
    (Prod.ext (by decide +kernel) rfl)

/-- The line, and a blank one behind it. -/
def blankEnding : List UInt8 := hostLine ++ [newline]

/-- The blank line repeats the entry of the line before it, and a file without lines leaves the
old table. -/
theorem srLoadRt_blankEnding : ∃ s',
    (∀ line ∈ fileLines blankEnding, line.length < BUFSIZ ∧ FieldsFit line) ∧
      srLoadRt dottedQuad (some blankEnding) noFields smallRouter = (0, s') ∧
      s'.routingTable.length = 2 ∧ (tableOf dottedQuad blankEnding).length = 1 ∧
      ¬LoadsExactly dottedQuad blankEnding s' ∧
      srLoadRt dottedQuad (some []) noFields smallRouter = (0, smallRouter) ∧
      ¬LoadsExactly dottedQuad [] smallRouter := by
  have htwo : (srLoadRt dottedQuad (some blankEnding) noFields smallRouter).2.routingTable.length =
      2 := by decide +kernel
  have hone : (tableOf dottedQuad blankEnding).length = 1 := by decide +kernel
  refine ⟨(srLoadRt dottedQuad (some blankEnding) noFields smallRouter).2, by decide +kernel,
    Prod.ext (by decide +kernel) rfl, htwo, hone, ?_, rfl, ?_⟩
  · intro h
    rw [h.table, hone] at htwo
    contradiction
  · intro h
    exact absurd h.table (List.cons_ne_nil _ _)

end InternetCourse.Router
