import FourVrs.Installer.Journal

/-!
# A journal is read as it was written

Each piece of the decoder is followed in both directions: what it reads is the encoding of what it
returns (`decodeImage_sound`, `decodeMember_sound`), and it reads back what was encoded
(`decodeImage_encode`, `decodeMember_encode`). So a journal is the encoding of one plan, and
nothing else is a journal.
-/

set_option autoImplicit false

namespace FourVrs.Installer

open Config Lib

/-! ## Words -/

theorem get32_lt (word : List UInt8) : get32 word < 2 ^ 32 := by
  unfold get32
  split
  next a b c d _ =>
    have ha := a.toNat_lt
    have hb := b.toNat_lt
    have hc := c.toNat_lt
    have hd := d.toNat_lt
    omega
  · decide

theorem sizeLeft_eq {end' at' : Nat} (hle : at' ≤ end') (hend : end' < 2 ^ 32) :
    sizeLeft end' at' = end' - at' := by
  unfold sizeLeft
  omega

section
variable {data : List UInt8} {end' at' : Nat}

/-- Bytes that are there are the front of what is left. -/
theorem bytes_sound {n : Nat} {part : List UInt8} (h : Reading.bytes data at' n = .done part) :
    part.length = n ∧ data.drop at' = part ++ data.drop (at' + n) := by
  unfold Reading.bytes readWithin at h
  split at h
  next => cases h
  next hread =>
    split at hread
    next hfits =>
      cases hread
      cases h
      refine ⟨by rw [List.length_take, List.length_drop]; omega, ?_⟩
      rw [← List.drop_drop, List.take_append_drop]
    next => cases hread

theorem bytes_ne_beyond {n : Nat} (h : at' + n ≤ data.length) :
    Reading.bytes data at' n ≠ .beyond := by
  rw [Reading.bytes_eq h]
  simp

theorem bytes_front {part rest : List UInt8} (h : data.drop at' = part ++ rest) (hat : at' ≤ data.length) :
    Reading.bytes data at' part.length = .done part ∧ data.drop (at' + part.length) = rest := by
  have hlength := congrArg List.length h
  rw [List.length_drop, List.length_append] at hlength
  refine ⟨?_, ?_⟩
  · rw [Reading.bytes_eq (by omega), h, List.take_left]
  · rw [← List.drop_drop, h, List.drop_left]

theorem getWord_sound {word : Nat} (h : getWord data at' = .done word) :
    word < 2 ^ 32 ∧ data.drop at' = put32 word ++ data.drop (at' + 4) := by
  obtain ⟨part, hpart, hword⟩ := Reading.bind_eq_done h
  obtain ⟨hlength, hdrop⟩ := bytes_sound hpart
  cases hword
  exact ⟨get32_lt part, by rw [put32_get32 (by omega), List.take_of_length_le (by omega)]; exact hdrop⟩

theorem getWord_ne_beyond (h : at' + 4 ≤ data.length) : getWord data at' ≠ .beyond :=
  Reading.bind_ne_beyond (bytes_ne_beyond h) fun _ _ => by simp

variable {rest : List UInt8}

theorem getWord_front {word : Nat} (hword : word < 2 ^ 32) (h : data.drop at' = put32 word ++ rest)
    (hat : at' ≤ data.length) :
    getWord data at' = .done word ∧ data.drop (at' + 4) = rest := by
  obtain ⟨hbytes, hrest⟩ := bytes_front h hat
  rw [length_put32] at hbytes hrest
  refine ⟨?_, hrest⟩
  rw [getWord, hbytes, Reading.done_bind, get32_put32 hword, Reading.pure_eq]

/-! ## Images -/

theorem length_encodeImage (f : InstallFile) : (encodeImage f).length = 12 + f.data.length := by
  simp only [encodeImage, List.length_append, length_put32]

variable {memory : Nat → Bool}

theorem decodeImage_ne_beyond (hat : at' ≤ end') (hend : end' ≤ data.length)
    (hsize : data.length < 2 ^ 32) : decodeImage memory data end' at' ≠ .beyond := by
  apply Reading.check_bind_ne_beyond
  intro hroom
  rw [decide_eq_true_iff, sizeLeft_eq hat (by omega)] at hroom
  apply Reading.bind_ne_beyond (getWord_ne_beyond (by omega))
  intro kind _
  apply Reading.bind_ne_beyond (getWord_ne_beyond (by omega))
  intro mode _
  apply Reading.bind_ne_beyond (getWord_ne_beyond (by omega))
  intro size _
  apply Reading.check_bind_ne_beyond
  intro hfits
  have hleft := (Bool.and_eq_true_iff.mp hfits).1
  rw [decide_eq_true_iff, sizeLeft_eq (by omega) (by omega)] at hleft
  apply Reading.check_bind_ne_beyond
  intro _
  apply Reading.bind_ne_beyond (bytes_ne_beyond (by omega))
  intro bytes _
  apply Reading.check_bind_ne_beyond
  intro _
  simp

variable {m : InstallMember} {f : InstallFile}

/-- What an image is read from is its encoding. -/
theorem decodeImage_sound {next : Nat} (hat : at' ≤ end') (hend : end' < 2 ^ 32)
    (h : decodeImage memory data end' at' = .done (f, next)) :
    validFile f = true ∧ next ≤ end' ∧ next = at' + (encodeImage f).length ∧
      data.drop at' = encodeImage f ++ data.drop next := by
  obtain ⟨hroom, h⟩ := Reading.check_bind_eq_done h
  obtain ⟨kind, hkind, h⟩ := Reading.bind_eq_done h
  obtain ⟨mode, hmode, h⟩ := Reading.bind_eq_done h
  obtain ⟨size, hsize, h⟩ := Reading.bind_eq_done h
  obtain ⟨hfits, h⟩ := Reading.check_bind_eq_done h
  obtain ⟨-, h⟩ := Reading.check_bind_eq_done h
  obtain ⟨bytes, hbytes, h⟩ := Reading.bind_eq_done h
  obtain ⟨hvalid, h⟩ := Reading.check_bind_eq_done h
  cases h
  rw [decide_eq_true_iff, sizeLeft_eq hat hend] at hroom
  have hleft := (Bool.and_eq_true_iff.mp hfits).1
  rw [decide_eq_true_iff, sizeLeft_eq (by omega) hend] at hleft
  obtain ⟨hlength, hdata⟩ := bytes_sound hbytes
  refine ⟨hvalid, by omega, ?_, ?_⟩
  · rw [length_encodeImage, hlength, Nat.add_assoc]
  · rw [(getWord_sound hkind).2, (getWord_sound hmode).2, (getWord_sound hsize).2]
    simp only [encodeImage, List.append_assoc, hlength]
    rw [← hdata]

/-- The bounds of a valid file. -/
theorem bounds_of_validFile (h : validFile f = true) :
    f.kind ≤ 2 ∧ f.mode ≤ 0o777 ∧ f.data.length ≤ installFileLimit := by
  simp only [validFile, Bool.and_eq_true, decide_eq_true_iff] at h
  exact ⟨h.1.1.1.1.1, h.1.1.1.2, h.1.1.1.1.2⟩

/-- An encoded image is read back. -/
theorem decodeImage_encode (hvalid : validFile f = true) (hmemory : ∀ n, memory n = true)
    (hend : end' ≤ data.length) (hsize : data.length < 2 ^ 32) (hfits : at' + (encodeImage f).length ≤ end')
    (h : data.drop at' = encodeImage f ++ rest) :
    decodeImage memory data end' at' = .done (f, at' + (encodeImage f).length) ∧
      data.drop (at' + (encodeImage f).length) = rest := by
  obtain ⟨hkind, hmode, hlimit⟩ := bounds_of_validFile hvalid
  have hlimit' : f.data.length ≤ 8 * 1024 * 1024 := hlimit
  rw [length_encodeImage] at hfits ⊢
  simp only [encodeImage, List.append_assoc] at h
  obtain ⟨hkindRead, h⟩ := getWord_front (by omega) h (by omega)
  obtain ⟨hmodeRead, h⟩ := getWord_front (by omega) h (by omega)
  obtain ⟨hsizeRead, h⟩ := getWord_front (by omega) h (by omega)
  obtain ⟨hbytesRead, h⟩ := bytes_front h (by omega)
  rw [Nat.add_assoc at' 12] at h
  refine ⟨?_, h⟩
  unfold decodeImage
  rw [Reading.check_bind (by rw [decide_eq_true_iff, sizeLeft_eq (by omega) (by omega)]; omega),
    hkindRead, Reading.done_bind, hmodeRead, Reading.done_bind, hsizeRead, Reading.done_bind,
    Reading.check_bind, Reading.check_bind (by rw [hmemory, Bool.or_true]), hbytesRead,
    Reading.done_bind, Reading.check_bind hvalid, Reading.pure_eq, Nat.add_assoc]
  rw [Bool.and_eq_true_iff, decide_eq_true_iff, decide_eq_true_iff,
    sizeLeft_eq (by omega) (by omega)]
  exact ⟨by omega, hlimit⟩

/-! ## Members -/

/-- A member the journal may hold. -/
structure MemberOk (allow : CString → Nat → Bool) (m : InstallMember) : Prop where
  path : m.path.length ≠ 0 ∧ m.path.length ≤ installPathLimit
  flags : m.compactFlash ≤ 3
  allowed : allow m.path m.compactFlash = true
  before : validFile m.before = true
  after : validFile m.after = true

/-- No two members have one path. -/
def DistinctPaths (members : List InstallMember) : Prop := (members.map (·.path)).Nodup

variable {allow : CString → Nat → Bool} {seen : List InstallMember}

theorem length_encodeMember (m : InstallMember) : (encodeMember m).length =
    8 + m.path.length + (encodeImage m.before).length + (encodeImage m.after).length := by
  simp only [encodeMember, List.length_append, length_put32, CString.length]

theorem decodePath_sound {z : Nat} {path : CString} (h : decodePath data at' z = .done path) :
    path.length = z ∧ data.drop at' = path.bytes ++ data.drop (at' + z) := by
  obtain ⟨bytes, hbytes, h⟩ := Reading.bind_eq_done h
  obtain ⟨hlength, hdrop⟩ := bytes_sound hbytes
  split at h
  next =>
    cases h
    exact ⟨hlength, hdrop⟩
  next => cases h

theorem decodePath_ne_beyond {z : Nat} (h : at' + z ≤ data.length) :
    decodePath data at' z ≠ .beyond := by
  apply Reading.bind_ne_beyond (bytes_ne_beyond h)
  intro bytes _
  split <;> simp

theorem decodePath_encode {path : CString} (h : data.drop at' = path.bytes ++ rest) (hat : at' ≤ data.length) :
    decodePath data at' path.length = .done path ∧ data.drop (at' + path.length) = rest := by
  obtain ⟨hbytes, hrest⟩ := bytes_front h hat
  refine ⟨?_, hrest⟩
  rw [decodePath, CString.length, hbytes, Reading.done_bind, dif_pos path.nonzero, Reading.pure_eq]

theorem decodeMember_ne_beyond (hat : at' ≤ end') (hend : end' ≤ data.length)
    (hsize : data.length < 2 ^ 32) : decodeMember allow memory data end' seen at' ≠ .beyond := by
  apply Reading.check_bind_ne_beyond
  intro hroom
  rw [decide_eq_true_iff, sizeLeft_eq hat (by omega)] at hroom
  apply Reading.bind_ne_beyond (getWord_ne_beyond (by omega))
  intro z _
  apply Reading.bind_ne_beyond (getWord_ne_beyond (by omega))
  intro compactFlash _
  apply Reading.check_bind_ne_beyond
  intro hlimits
  simp only [Bool.and_eq_true, decide_eq_true_iff] at hlimits
  have hleft := hlimits.1.2
  rw [sizeLeft_eq (by omega) (by omega)] at hleft
  apply Reading.bind_ne_beyond (decodePath_ne_beyond (by omega))
  intro path _
  apply Reading.check_bind_ne_beyond
  intro _
  apply Reading.check_bind_ne_beyond
  intro _
  apply Reading.bind_ne_beyond (decodeImage_ne_beyond (by omega) hend hsize)
  rintro ⟨before, next⟩ hbefore
  have hnext := (decodeImage_sound (by omega) (by omega) hbefore).2.1
  apply Reading.bind_ne_beyond (decodeImage_ne_beyond hnext hend hsize)
  intro _ _
  simp

/-- What a member is read from is its encoding. -/
theorem decodeMember_sound {next : Nat} (hat : at' ≤ end') (hend : end' < 2 ^ 32)
    (h : decodeMember allow memory data end' seen at' = .done (m, next)) :
    MemberOk allow m ∧ (∀ s ∈ seen, m.path ≠ s.path) ∧ next ≤ end' ∧
      next = at' + (encodeMember m).length ∧
      data.drop at' = encodeMember m ++ data.drop next := by
  obtain ⟨hroom, h⟩ := Reading.check_bind_eq_done h
  obtain ⟨z, hz, h⟩ := Reading.bind_eq_done h
  obtain ⟨compactFlash, hflash, h⟩ := Reading.bind_eq_done h
  obtain ⟨hlimits, h⟩ := Reading.check_bind_eq_done h
  obtain ⟨path, hpath, h⟩ := Reading.bind_eq_done h
  obtain ⟨hallow, h⟩ := Reading.check_bind_eq_done h
  obtain ⟨hseen, h⟩ := Reading.check_bind_eq_done h
  obtain ⟨⟨before, middle⟩, hbefore, h⟩ := Reading.bind_eq_done h
  obtain ⟨⟨after, last⟩, hafter, h⟩ := Reading.bind_eq_done h
  cases h
  rw [decide_eq_true_iff, sizeLeft_eq hat hend] at hroom
  simp only [Bool.and_eq_true, decide_eq_true_iff] at hlimits
  obtain ⟨⟨⟨hnonzero, hpathLimit⟩, hleft⟩, hflags⟩ := hlimits
  rw [sizeLeft_eq (by omega) hend] at hleft
  obtain ⟨hlength, hpathData⟩ := decodePath_sound hpath
  obtain ⟨hbeforeOk, hmiddle, hmiddleEq, hbeforeData⟩ := decodeImage_sound (by omega) hend hbefore
  obtain ⟨hafterOk, hlast, hlastEq, hafterData⟩ := decodeImage_sound hmiddle hend hafter
  refine ⟨⟨by rw [hlength]; exact ⟨hnonzero, hpathLimit⟩, hflags, hallow, hbeforeOk, hafterOk⟩,
    ?_, hlast, ?_, ?_⟩
  · intro s hs
    exact of_decide_eq_true (List.all_eq_true.mp hseen s hs)
  · rw [length_encodeMember]
    dsimp only
    omega
  · rw [(getWord_sound hz).2, (getWord_sound hflash).2, hpathData, hbeforeData, hafterData]
    simp only [encodeMember, hlength, List.append_assoc]

/-- An encoded member is read back. -/
theorem decodeMember_encode (hok : MemberOk allow m) (hseen : ∀ s ∈ seen, m.path ≠ s.path)
    (hmemory : ∀ n, memory n = true) (hend : end' ≤ data.length) (hsize : data.length < 2 ^ 32)
    (hfits : at' + (encodeMember m).length ≤ end') (h : data.drop at' = encodeMember m ++ rest) :
    decodeMember allow memory data end' seen at' = .done (m, at' + (encodeMember m).length) ∧
      data.drop (at' + (encodeMember m).length) = rest := by
  have hpathLimit : m.path.length ≤ 240 := hok.path.2
  have hflags := hok.flags
  rw [length_encodeMember] at hfits ⊢
  simp only [encodeMember, List.append_assoc] at h
  obtain ⟨hzRead, h⟩ := getWord_front (by omega) h (by omega)
  obtain ⟨hflashRead, h⟩ := getWord_front (by omega) h (by omega)
  obtain ⟨hpathRead, h⟩ := decodePath_encode h (by omega)
  obtain ⟨hbeforeRead, h⟩ := decodeImage_encode hok.before hmemory hend hsize (by omega) h
  obtain ⟨hafterRead, h⟩ := decodeImage_encode hok.after hmemory hend hsize (by omega) h
  have hlimits : (decide (m.path.length ≠ 0) && decide (m.path.length ≤ installPathLimit) &&
      decide (m.path.length ≤ sizeLeft end' (at' + 8)) && decide (m.compactFlash ≤ 3)) = true := by
    simp only [Bool.and_eq_true, decide_eq_true_iff]
    refine ⟨⟨hok.path, ?_⟩, hflags⟩
    rw [sizeLeft_eq (by omega) (by omega)]
    omega
  have hall : (seen.all fun s => decide (m.path ≠ s.path)) = true :=
    List.all_eq_true.mpr fun s hs => decide_eq_true (hseen s hs)
  have hlast : at' + 8 + m.path.length + (encodeImage m.before).length +
      (encodeImage m.after).length =
      at' + (8 + m.path.length + (encodeImage m.before).length + (encodeImage m.after).length) := by
    omega
  rw [← hlast]
  refine ⟨?_, h⟩
  unfold decodeMember
  rw [Reading.check_bind (by rw [decide_eq_true_iff, sizeLeft_eq (by omega) (by omega)]; omega),
    hzRead, Reading.done_bind, hflashRead, Reading.done_bind, Reading.check_bind hlimits,
    hpathRead, Reading.done_bind, Reading.check_bind hok.allowed, Reading.check_bind hall,
    hbeforeRead, Reading.done_bind]
  dsimp only
  rw [hafterRead, Reading.done_bind, Reading.pure_eq]

theorem length_flatMap_encodeMember (m : InstallMember) (members : List InstallMember) :
    ((m :: members).flatMap encodeMember).length =
      (encodeMember m).length + (members.flatMap encodeMember).length := by
  rw [List.flatMap_cons, List.length_append]

theorem distinctPaths_append (h : DistinctPaths seen) (hnew : ∀ s ∈ seen, m.path ≠ s.path) :
    DistinctPaths (seen ++ [m]) := by
  rw [DistinctPaths, List.map_append, List.nodup_append]
  refine ⟨h, by simp, ?_⟩
  intro path hpath next hnext
  obtain ⟨s, hs, rfl⟩ := List.mem_map.mp hpath
  rw [List.map_singleton, List.mem_singleton] at hnext
  rw [hnext]
  exact (hnew s hs).symm

theorem decodeMembers_ne_beyond {n : Nat} (hat : at' ≤ end') (hend : end' ≤ data.length)
    (hsize : data.length < 2 ^ 32) :
    decodeMembers allow memory data end' n seen at' ≠ .beyond := by
  induction n generalizing seen at' with
  | zero => simp [decodeMembers]
  | succ n ih =>
    apply Reading.bind_ne_beyond (decodeMember_ne_beyond hat hend hsize)
    rintro ⟨m, next⟩ hm
    exact ih (decodeMember_sound hat (by omega) hm).2.2.1

/-- What members are read from is their encoding. -/
theorem decodeMembers_sound {n next : Nat} {members : List InstallMember} (hat : at' ≤ end')
    (hend : end' < 2 ^ 32) (hdistinct : DistinctPaths seen)
    (h : decodeMembers allow memory data end' n seen at' = .done (members, next)) :
    ∃ read, members = seen ++ read ∧ read.length = n ∧ (∀ m ∈ read, MemberOk allow m) ∧
      DistinctPaths members ∧ next = at' + (read.flatMap encodeMember).length ∧
      data.drop at' = read.flatMap encodeMember ++ data.drop next := by
  induction n generalizing seen at' with
  | zero =>
    cases h
    exact ⟨[], by simp, rfl, by simp, hdistinct, by simp, by simp⟩
  | succ n ih =>
    obtain ⟨⟨m, middle⟩, hm, h⟩ := Reading.bind_eq_done h
    obtain ⟨hok, hnew, hmiddle, hmiddleEq, hdata⟩ := decodeMember_sound hat hend hm
    obtain ⟨read, rfl, hlength, hreads, hall, hnext, hrest⟩ :=
      ih hmiddle (distinctPaths_append hdistinct hnew) h
    refine ⟨m :: read, by simp, by simp [hlength], ?_, hall, ?_, ?_⟩
    · intro k hk
      rcases List.mem_cons.mp hk with rfl | hk
      · exact hok
      · exact hreads k hk
    · rw [hnext, hmiddleEq, length_flatMap_encodeMember, Nat.add_assoc]
    · rw [hdata, hrest, List.flatMap_cons, List.append_assoc]

/-- Encoded members are read back. -/
theorem decodeMembers_encode {read : List InstallMember} (hok : ∀ m ∈ read, MemberOk allow m)
    (hdistinct : DistinctPaths (seen ++ read)) (hmemory : ∀ n, memory n = true) (hend : end' ≤ data.length)
    (hsize : data.length < 2 ^ 32) (hfits : at' + (read.flatMap encodeMember).length ≤ end')
    (h : data.drop at' = read.flatMap encodeMember ++ rest) :
    decodeMembers allow memory data end' read.length seen at' =
      .done (seen ++ read, at' + (read.flatMap encodeMember).length) := by
  induction read generalizing seen at' with
  | nil => simp [decodeMembers]
  | cons m read ih =>
    have hnew : ∀ s ∈ seen, m.path ≠ s.path := by
      intro s hs heq
      rw [DistinctPaths, List.map_append, List.nodup_append] at hdistinct
      exact hdistinct.2.2 s.path (List.mem_map_of_mem hs) m.path (by simp) heq.symm
    rw [length_flatMap_encodeMember] at hfits ⊢
    rw [List.flatMap_cons, List.append_assoc] at h
    obtain ⟨hm, h⟩ := decodeMember_encode (hok m (by simp)) hnew hmemory hend hsize (by omega) h
    have hdistinct' : DistinctPaths ((seen ++ [m]) ++ read) := by rwa [List.append_assoc]
    have hrest := ih (fun k hk => hok k (by simp [hk])) hdistinct' (by omega) h
    rw [List.length_cons, decodeMembers, hm, Reading.done_bind]
    dsimp only
    rw [hrest, List.append_assoc, Nat.add_assoc]
    rfl

end

/-! ## The digest -/

theorem length_digestText {data : List UInt8} (h : data.length < 2 ^ 61) :
    (digestText data).length = 64 := by
  have hlength : (hexText (Sha256.sha256 data)).length = 2 * (Sha256.sha256 data).length := by
    generalize Sha256.sha256 data = digest
    induction digest with
    | nil => rfl
    | cons byte digest ih =>
      rw [hexText] at ih
      rw [hexText, List.flatMap_cons, List.length_append, ih, List.length_cons]
      simp only [List.length_cons, List.length_nil]
      omega
  rw [digestText, installDigestHex_eq h, Option.getD_some, List.length_map, hlength,
    Sha256.length_sha256]

/-! ## What is encoded -/

theorem length_encodeMember_data (m : InstallMember) : (encodeMember m).length =
    8 + m.path.length + 24 + m.before.data.length + m.after.data.length := by
  rw [length_encodeMember, length_encodeImage, length_encodeImage]
  omega

theorem length_encodeBody (p : InstallPlan) :
    (encodeBody p).length = 16 + (p.members.flatMap encodeMember).length := by
  have hmagic : journalMagic.length = 8 := by decide
  simp only [encodeBody, List.length_append, length_put32, hmagic]

/-- A member whose record may be written. -/
def Encodable (m : InstallMember) : Prop :=
  m.path.length ≠ 0 ∧ m.path.length ≤ installPathLimit ∧ validFile m.before = true ∧
    validFile m.after = true

/-- The first loop adds up the records of members that may be written, as long as they fit. -/
theorem foldlM_encodeSize {members : List InstallMember} {n total : Nat}
    (hn : n ≤ journalLimit - 64) :
    members.foldlM encodeSize n = some total ↔
      (∀ m ∈ members, Encodable m) ∧ total = n + (members.flatMap encodeMember).length ∧
        total ≤ journalLimit - 64 := by
  induction members generalizing n with
  | nil =>
    simp only [List.foldlM_nil, Option.pure_def, Option.some.injEq, List.flatMap_nil,
      List.length_nil, Nat.add_zero, List.not_mem_nil, false_implies, implies_true, true_and]
    constructor
    · rintro rfl
      exact ⟨rfl, hn⟩
    · rintro ⟨rfl, -⟩
      rfl
  | cons m members ih =>
    rw [List.foldlM_cons, length_flatMap_encodeMember, length_encodeMember_data]
    by_cases hok : Encodable m
    · have hfirst : ¬ (m.path.length = 0 ∨ m.path.length > installPathLimit ∨
          validFile m.before = false ∨ validFile m.after = false) := by
        obtain ⟨hne, hle, hbefore, hafter⟩ := hok
        simp [hne, hle, hbefore, hafter]
      by_cases hfits : n + (8 + m.path.length + 24 + m.before.data.length + m.after.data.length) >
          journalLimit - 64
      · have hnone : encodeSize n m = none := by
          simp only [encodeSize, if_neg hfirst, if_pos hfits]
        rw [hnone]
        simp only [Option.bind_eq_bind, Option.bind_none, reduceCtorEq, false_iff, not_and]
        intro _ htotal
        omega
      · have hsome : encodeSize n m = some (n +
            (8 + m.path.length + 24 + m.before.data.length + m.after.data.length)) := by
          simp only [encodeSize, if_neg hfirst, if_neg hfits]
        rw [hsome, Option.bind_eq_bind, Option.bind_some, ih (by omega), List.forall_mem_cons]
        constructor
        · rintro ⟨hall, htotal, hle⟩
          exact ⟨⟨hok, hall⟩, by omega, hle⟩
        · rintro ⟨⟨-, hall⟩, htotal, hle⟩
          exact ⟨hall, by omega, hle⟩
    · have hnone : encodeSize n m = none := by
        have hfirst : m.path.length = 0 ∨ m.path.length > installPathLimit ∨
            validFile m.before = false ∨ validFile m.after = false := by
          by_contra hno
          simp only [not_or, Bool.not_eq_false, not_lt] at hno
          exact hok ⟨hno.1, hno.2.1, hno.2.2.1, hno.2.2.2⟩
        simp only [encodeSize, if_pos hfirst]
      rw [hnone]
      simp only [Option.bind_eq_bind, Option.bind_none, reduceCtorEq, false_iff, not_and]
      intro hall
      exact absurd (hall m (by simp)) hok

/-- The plans that are encoded, and what they become. -/
theorem encode_eq_some {memory : Nat → Bool} {p : InstallPlan} {journal : InstallFile} :
    encode memory p = some journal ↔
      (p.members ≠ [] ∧ p.members.length ≤ installMembers ∧ p.wasRunning ≤ 3) ∧
        (∀ m ∈ p.members, Encodable m) ∧ (encodeBody p).length ≤ journalLimit - 64 ∧
        memory ((encodeBody p).length + 65) = true ∧
        journal = { kind := 1, mode := 0o600, data := encodeBody p ++ digestText (encodeBody p) } := by
  have hsize := @foldlM_encodeSize p.members 16
  rw [length_encodeBody]
  unfold encode
  by_cases hhead : p.members = [] ∨ p.members.length > installMembers ∨ p.wasRunning > 3
  · rw [if_pos hhead]
    simp only [reduceCtorEq, false_iff, not_and]
    rintro ⟨hne, hle, hrunning⟩
    rcases hhead with h | h | h
    · exact absurd h hne
    · omega
    · omega
  · rw [if_neg hhead]
    simp only [not_or, not_lt] at hhead
    cases hfold : p.members.foldlM encodeSize 16 with
    | none =>
      simp only [reduceCtorEq, false_iff, not_and]
      intro _ hall hle
      have hsome := (hsize (by decide)).mpr ⟨hall, rfl, hle⟩
      rw [hfold] at hsome
      cases hsome
    | some total =>
      obtain ⟨hall, rfl, hle⟩ := (hsize (by decide)).mp hfold
      cases hmem : memory (16 + (p.members.flatMap encodeMember).length + 65)
      · simp only [hmem, Bool.not_false, if_true, reduceCtorEq, Bool.false_eq_true, false_and,
          and_false]
      · simp only [hmem, Bool.not_true, Bool.false_eq_true, if_false, Option.some.injEq]
        constructor
        · rintro rfl
          exact ⟨hhead, hall, hle, trivial, rfl⟩
        · rintro ⟨-, -, -, -, rfl⟩
          rfl

/-! ## The whole journal -/

/-- A plan that holds to every limit. -/
structure WithinLimits (allow : CString → Nat → Bool) (p : InstallPlan) : Prop where
  count : p.members ≠ [] ∧ p.members.length ≤ installMembers
  wasRunning : p.wasRunning ≤ 3
  members : ∀ m ∈ p.members, MemberOk allow m
  distinct : DistinctPaths p.members

variable {allow : CString → Nat → Bool}

theorem WithinLimits.encodable {p : InstallPlan} (h : WithinLimits allow p) :
    ∀ m ∈ p.members, Encodable m := fun m hm =>
  have hok := h.members m hm
  ⟨hok.path.1, hok.path.2, hok.before, hok.after⟩

/-- The head and the members are read back from what was encoded. -/
theorem decodeBody_encode {p : InstallPlan} {rest : List UInt8} (h : WithinLimits allow p)
    (hsize : (encodeBody p ++ rest).length < 2 ^ 32) :
    decodeBody allow (fun _ => true) (encodeBody p ++ rest) (encodeBody p).length =
      .done (0, p) := by
  have hcount : p.members.length ≤ 32 := h.count.2
  have hrunning := h.wasRunning
  have hlength := length_encodeBody p
  have hdrop : (encodeBody p ++ rest).drop 8 = put32 p.members.length ++
      (put32 p.wasRunning ++ (p.members.flatMap encodeMember ++ rest)) := by
    have height : 8 = journalMagic.length := by decide
    simp only [encodeBody, List.append_assoc]
    rw [height, List.drop_left]
  rw [List.length_append] at hsize
  obtain ⟨hcountRead, hdrop⟩ := getWord_front (by omega) hdrop
    (by rw [List.length_append]; omega)
  obtain ⟨hrunningRead, hdrop⟩ := getWord_front (by omega) hdrop
    (by rw [List.length_append]; omega)
  have hdistinct : DistinctPaths ([] ++ p.members) := h.distinct
  have hbodyEnd : (encodeBody p).length ≤ (encodeBody p ++ rest).length := by
    rw [List.length_append]
    omega
  have hmemory : ∀ n, (fun _ : Nat => true) n = true := fun _ => rfl
  have hmembers := decodeMembers_encode h.members hdistinct hmemory hbodyEnd
    (by rw [List.length_append]; omega) (by omega) hdrop
  have hhead : ¬ (p.members.length = 0 ∨ p.members.length > installMembers ∨
      p.wasRunning > 3) := by
    rintro (h0 | hmany | hrun)
    · exact h.count.1 (List.length_eq_zero_iff.mp h0)
    · exact absurd h.count.2 (by omega)
    · omega
  unfold decodeBody
  rw [hcountRead, Reading.done_bind, hrunningRead, Reading.done_bind, if_neg hhead, hmembers,
    Reading.done_bind]
  dsimp only
  rw [List.nil_append, Reading.check_bind (by rw [decide_eq_true_iff]; omega), Reading.pure_eq]

theorem decode_encode {memory : Nat → Bool} {p : InstallPlan} {journal : InstallFile}
    (h : WithinLimits allow p) (hencode : encode memory p = some journal) :
    decode allow (fun _ => true) journal = some (0, p) := by
  obtain ⟨-, -, hle, -, rfl⟩ := encode_eq_some.mp hencode
  have hlimit : journalLimit = 8388608 := rfl
  have hbody := length_encodeBody p
  have hdigest : (digestText (encodeBody p)).length = 64 := length_digestText (by omega)
  have hlength : (encodeBody p ++ digestText (encodeBody p)).length =
      (encodeBody p).length + 64 := by
    rw [List.length_append, hdigest]
  have hmagic : (encodeBody p ++ digestText (encodeBody p)).take 8 = journalMagic := by
    have height : 8 = journalMagic.length := by decide
    simp only [encodeBody, List.append_assoc]
    rw [height, List.take_left]
  have hend : (encodeBody p).length + 64 - 64 = (encodeBody p).length := by omega
  unfold decode
  dsimp only
  rw [hlength, if_neg, hend, List.take_left, List.drop_left, if_neg (by simp),
    decodeBody_encode h (by omega)]
  simp only [hmagic, ne_eq, not_true_eq_false, or_false, false_or, not_or]
  omega

/-- A plan that is decoded is one whose encoding the journal is. -/
theorem decodeBody_sound {memory : Nat → Bool} {data : List UInt8} {end' : Nat} {r : Int}
    {p : InstallPlan} (hstart : 16 ≤ end') (hend : end' ≤ data.length) (hsize : data.length < 2 ^ 32)
    (hmagic : data.take 8 = journalMagic)
    (h : decodeBody allow memory data end' = .done (r, p)) :
    r ≠ 0 ∧ p.members = [] ∨
      r = 0 ∧ WithinLimits allow p ∧ data.take end' = encodeBody p := by
  obtain ⟨count, hcount, h⟩ := Reading.bind_eq_done h
  obtain ⟨wasRunning, hrunning, h⟩ := Reading.bind_eq_done h
  split at h
  next =>
    cases h
    exact .inl ⟨by decide, rfl⟩
  next hhead =>
    obtain ⟨⟨members, next⟩, hmembers, h⟩ := Reading.bind_eq_done h
    obtain ⟨hall, h⟩ := Reading.check_bind_eq_done h
    cases h
    rw [decide_eq_true_iff] at hall
    obtain ⟨_, rfl, hlength, hok, hdistinct, hnext, hdata⟩ :=
      decodeMembers_sound hstart (by omega) (by simp [DistinctPaths]) hmembers
    simp only [not_or, not_lt] at hhead
    refine .inr ⟨rfl, ⟨⟨?_, by rw [hlength]; exact hhead.2.1⟩, hhead.2.2, hok, hdistinct⟩, ?_⟩
    · rintro rfl
      exact hhead.1 hlength.symm
    · have hwhole : data = encodeBody { wasRunning, members } ++ data.drop end' := by
        conv => lhs; rw [← List.take_append_drop 8 data, hmagic, (getWord_sound hcount).2,
          (getWord_sound hrunning).2, hdata, hall]
        simp only [encodeBody, hlength, List.append_assoc]
      have hbody := length_encodeBody { wasRunning, members }
      conv => lhs; rw [hwhole]
      rw [List.take_append_of_le_length (by dsimp only at hbody; omega), List.take_of_length_le]
      dsimp only at hbody
      omega

theorem decodeBody_ne_beyond {memory : Nat → Bool} {data : List UInt8} {end' : Nat}
    (hstart : 16 ≤ end') (hend : end' ≤ data.length) (hsize : data.length < 2 ^ 32) :
    decodeBody allow memory data end' ≠ .beyond := by
  apply Reading.bind_ne_beyond (getWord_ne_beyond (by omega))
  intro count _
  apply Reading.bind_ne_beyond (getWord_ne_beyond (by omega))
  intro wasRunning _
  split
  · simp
  · apply Reading.bind_ne_beyond (decodeMembers_ne_beyond hstart hend hsize)
    rintro ⟨members, next⟩ _
    apply Reading.check_bind_ne_beyond
    intro _
    simp

theorem decode_sound (memory : Nat → Bool) (f : InstallFile) :
    ∃ r p, decode allow memory f = some (r, p) ∧
      (r ≠ 0 ∧ p.members = [] ∨ r = 0 ∧ WithinLimits allow p ∧
        ∃ journal, encode (fun _ => true) p = some journal ∧ journal.data = f.data) := by
  have hlimit : journalLimit = 8388608 := rfl
  unfold decode
  dsimp only
  split
  next => exact ⟨-1, _, rfl, .inl ⟨by decide, rfl⟩⟩
  next hhead =>
    simp only [not_or, not_lt, not_not] at hhead
    obtain ⟨-, hmin, hmax, hmagic⟩ := hhead
    split
    next => exact ⟨-1, _, rfl, .inl ⟨by decide, rfl⟩⟩
    next hdigest =>
      rw [not_not] at hdigest
      cases hbody : decodeBody allow memory f.data (f.data.length - 64) with
      | beyond => exact absurd hbody (decodeBody_ne_beyond (by omega) (by omega) (by omega))
      | fail => exact ⟨-1, _, rfl, .inl ⟨by decide, rfl⟩⟩
      | done result =>
        obtain ⟨r, p⟩ := result
        refine ⟨r, p, rfl, ?_⟩
        obtain hfail | ⟨hr, hwithin, htake⟩ :=
          decodeBody_sound (by omega) (by omega) (by omega) hmagic hbody
        · exact .inl hfail
        · have hlength : (encodeBody p).length ≤ journalLimit - 64 := by
            rw [← htake, List.length_take]
            omega
          refine .inr ⟨hr, hwithin, _, encode_eq_some.mpr ⟨⟨hwithin.count.1, hwithin.count.2,
            hwithin.wasRunning⟩, hwithin.encodable, hlength, rfl, rfl⟩, ?_⟩
          rw [← htake, hdigest, List.take_append_drop]

/-- **The journal**: a plan is read back as it was written, and whatever stands in the file, the
    decoder reads none but the file and returns no plan but the one the file is the encoding of. -/
theorem journal_roundTrip (hflags : ∀ path flags, allow path flags = true → flags ≤ 3) :
    (∀ memory p journal, encode memory p = some journal → DistinctPaths p.members →
        (∀ m ∈ p.members, allow m.path m.compactFlash = true) →
        decode allow (fun _ => true) journal = some (0, p)) ∧
      ∀ memory f, ∃ r p, decode allow memory f = some (r, p) ∧
        (r ≠ 0 ∧ p.members = [] ∨ r = 0 ∧ WithinLimits allow p ∧
          ∃ journal, encode (fun _ => true) p = some journal ∧ journal.data = f.data) := by
  refine ⟨fun memory p journal hencode hdistinct hallow => ?_, decode_sound⟩
  obtain ⟨⟨hne, hmany, hrunning⟩, hall, -⟩ := encode_eq_some.mp hencode
  refine decode_encode ⟨⟨hne, hmany⟩, hrunning, fun m hm => ?_, hdistinct⟩ hencode
  obtain ⟨hpath, hlimit, hbefore, hafter⟩ := hall m hm
  exact ⟨⟨hpath, hlimit⟩, hflags _ _ (hallow m hm), hallow m hm, hbefore, hafter⟩

/-- A name server where there was none, and the link that starts the gateway. -/
def resolverPlan : InstallPlan where
  wasRunning := 1
  members := [
    { path := { bytes := Config.text "etc/resolv.conf", nonzero := by decide }
      compactFlash := 0
      before := { kind := 0, mode := 0, data := [] }
      after := { kind := 1, mode := 0o644, data := Config.text "nameserver 10.0.0.1\n" } },
    { path := { bytes := Config.text "etc/rc.d/rc3.d/S90fourvrs-gateway", nonzero := by decide }
      compactFlash := 2
      before := { kind := 0, mode := 0, data := [] }
      after := { kind := 2, mode := 0o777, data := Config.text "../../init.d/4vrs-gateway" } }]

theorem journal_roundTrip_resolver :
    decode (installAllowPath (Config.text "etc/rc.d/rc3.d/S21apache") (Config.text "etc/init.d"))
      (fun _ => true)
      { kind := 1, mode := 0o600
        data := encodeBody resolverPlan ++ digestText (encodeBody resolverPlan) } =
      some (0, resolverPlan) := by
  refine (journal_roundTrip (fun _ _ h => installAllowPath_flags h)).1 (fun _ => true) _ _
    (encode_eq_some.mpr ⟨by decide, ?_, by decide +kernel, rfl, rfl⟩) ?_ (by decide +kernel)
  · intro m hm
    rcases List.mem_pair.mp hm with rfl | rfl <;> exact ⟨by decide, by decide, by decide, by decide⟩
  · simp only [DistinctPaths, resolverPlan]
    decide

end FourVrs.Installer
