import FourVrs.Lib.Runs
import FourVrs.Modbus.MbapRing

/-!
# What the parser makes of a stream of bytes

`parseWhole` reads a string of bytes of any length in one go: the frames in front of it,
one after the other, and what is left, which is either a frame that is not complete yet
or a header no frame can have. That is the specification of the parser.

The parser gets the string in pieces, and its callback may refuse a frame as often as it
likes. `Fed` relates the two after any number of feeds: the frames accepted so far,
followed by those still in the buffer, are the frames of the whole string. Which chunks it
came in, where they lie in the ring and how often a frame was refused do not matter.
-/

set_option autoImplicit false

namespace FourVrs.Modbus

open Lib (Along)

variable {γ : Type}

/-! ## The reference parser -/

/-- What the front of some bytes is. -/
inductive FrameHead where
  | unfinished
  | malformed
  | complete (length : Nat)
  deriving DecidableEq, Repr

def frameHead (bytes : List UInt8) : FrameHead :=
  if bytes.length < mbapHeaderSize then .unfinished
  else if be16 bytes 2 ≠ 0 ∨ be16 bytes 4 < mbapLengthMin ∨ be16 bytes 4 > mbapLengthMax then
    .malformed
  else if bytes.length < 6 + be16 bytes 4 then .unfinished
  else .complete (6 + be16 bytes 4)

/-- The frames in front of `bytes`, at most so many, and what is left: `none` is a
    malformed header. -/
def parseFrames : Nat → List UInt8 → List MbapAdu × Option (List UInt8)
  | 0, bytes => ([], some bytes)
  | passes + 1, bytes =>
      match frameHead bytes with
      | .unfinished => ([], some bytes)
      | .malformed => ([], none)
      | .complete length =>
          (aduAt bytes :: (parseFrames passes (bytes.drop length)).1,
            (parseFrames passes (bytes.drop length)).2)

def parseWhole (bytes : List UInt8) : List MbapAdu × Option (List UInt8) :=
  parseFrames bytes.length bytes

/-! ## Fronts -/

variable {callback : MbapAduFn γ} {bytes : List UInt8} {stream : MbapStream} (more : List UInt8)

theorem byteAt_append {index : Nat} (h : index < bytes.length) :
    byteAt (bytes ++ more) index = byteAt bytes index := by
  unfold byteAt
  rw [List.getD_eq_getElem?_getD, List.getD_eq_getElem?_getD, List.getElem?_append_left h]

theorem be16_append {index : Nat} (h : index + 1 < bytes.length) :
    be16 (bytes ++ more) index = be16 bytes index := by
  unfold be16
  rw [byteAt_append more (by omega), byteAt_append more h]

variable {length : Nat}

/-- A complete frame is at least eight bytes long, and there. -/
theorem frameHead_complete (h : frameHead bytes = .complete length) :
    length = 6 + be16 bytes 4 ∧ 8 ≤ length ∧ length ≤ mbapAduMax ∧ length ≤ bytes.length ∧
      be16 bytes 2 = 0 := by
  unfold frameHead at h
  split at h
  · cases h
  split at h
  · cases h
  rename_i hheader
  split at h
  · cases h
  · rename_i hlength
    cases h
    simp only [mbapLengthMin, mbapLengthMax, not_or, ne_eq, not_not] at hheader
    refine ⟨rfl, by omega, ?_, by omega, hheader.1⟩
    unfold mbapAduMax mbapHeaderSize mbapPduMax
    omega

/-- More bytes change nothing about a front that is decided. -/
theorem frameHead_append (h : frameHead bytes ≠ .unfinished) : frameHead (bytes ++ more) = frameHead bytes := by
  have hlength : (bytes ++ more).length = bytes.length + more.length := List.length_append
  unfold frameHead at *
  by_cases hshort : bytes.length < mbapHeaderSize
  · rw [if_pos hshort] at h
    exact absurd rfl h
  · rw [if_neg hshort] at h
    unfold mbapHeaderSize at *
    rw [if_neg (by omega), if_neg hshort, be16_append more (by omega), be16_append more (by omega)]
    split
    · rfl
    · rename_i hheader
      rw [if_neg hheader] at h
      by_cases hpart : bytes.length < 6 + be16 bytes 4
      · rw [if_pos hpart] at h
        exact absurd rfl h
      · rw [if_neg hpart, if_neg (by omega)]

theorem aduAt_append (h : frameHead bytes = .complete length) : aduAt (bytes ++ more) = aduAt bytes := by
  obtain ⟨rfl, hmin, -, hlength, -⟩ := frameHead_complete h
  unfold aduAt
  rw [be16_append more (by omega), be16_append more (by omega), byteAt_append more (by omega),
    List.drop_append_of_le_length (by omega), List.take_append_of_le_length]
  rw [List.length_drop]
  omega

/-! ## The whole -/

/-- As many passes as bytes are enough. -/
theorem parseFrames_passes (passes passes' : Nat) (h : bytes.length ≤ passes) (h' : bytes.length ≤ passes') :
    parseFrames passes bytes = parseFrames passes' bytes := by
  have hnone : ∀ passes, bytes = [] → parseFrames passes bytes = ([], some []) := by
    intro passes hnil
    subst hnil
    cases passes <;> rfl
  induction passes generalizing passes' bytes with
  | zero =>
    have hnil : bytes = [] := List.length_eq_zero_iff.mp (Nat.le_zero.mp h)
    rw [hnone 0 hnil, hnone passes' hnil]
  | succ passes ih =>
    cases passes' with
    | zero =>
      have hnil : bytes = [] := List.length_eq_zero_iff.mp (Nat.le_zero.mp h')
      rw [hnone _ hnil, hnone 0 hnil]
    | succ passes' =>
      unfold parseFrames
      cases hhead : frameHead bytes with
      | unfinished | malformed => rfl
      | complete length =>
        obtain ⟨-, hmin, -, -, -⟩ := frameHead_complete hhead
        have hshorter : (bytes.drop length).length = bytes.length - length := List.length_drop
        have hrest := @ih (bytes.drop length) passes' (by omega) (by omega)
          (fun passes hnil => by rw [hnil]; cases passes <;> rfl)
        simp only [hrest]

theorem parseWhole_eq (bytes : List UInt8) :
    parseWhole bytes =
      match frameHead bytes with
      | .unfinished => ([], some bytes)
      | .malformed => ([], none)
      | .complete length =>
          (aduAt bytes :: (parseWhole (bytes.drop length)).1, (parseWhole (bytes.drop length)).2) := by
  have hmore : parseWhole bytes = parseFrames (bytes.length + 1) bytes :=
    parseFrames_passes _ _ (Nat.le_refl _) (Nat.le_succ _)
  rw [hmore]
  unfold parseFrames
  cases frameHead bytes with
  | unfinished | malformed => rfl
  | complete length =>
    have hrest : parseFrames bytes.length (bytes.drop length) = parseWhole (bytes.drop length) :=
      parseFrames_passes _ _ (by rw [List.length_drop]; omega) (Nat.le_refl _)
    simp only [hrest]

theorem parseWhole_malformed (h : frameHead bytes = .malformed) :
    parseWhole bytes = ([], none) := by
  rw [parseWhole_eq bytes, h]

theorem parseWhole_unfinished (h : frameHead bytes = .unfinished) :
    parseWhole bytes = ([], some bytes) := by
  rw [parseWhole_eq bytes, h]

/-- What is left is the end of the bytes, and not complete. -/
theorem parseWhole_rest {bytes rest : List UInt8} (h : (parseWhole bytes).2 = some rest) :
    frameHead rest = .unfinished ∧ rest <:+ bytes := by
  have hpasses : ∀ (passes : Nat) (bytes : List UInt8), bytes.length ≤ passes →
      (parseFrames passes bytes).2 = some rest → frameHead rest = .unfinished ∧ rest <:+ bytes := by
    intro passes
    induction passes with
    | zero =>
      intro bytes hlength h
      have hnil : bytes = [] := List.length_eq_zero_iff.mp (Nat.le_zero.mp hlength)
      subst hnil
      cases h
      exact ⟨rfl, List.suffix_refl _⟩
    | succ passes ih =>
      intro bytes hlength h
      unfold parseFrames at h
      cases hhead : frameHead bytes with
      | unfinished =>
        rw [hhead] at h
        cases h
        exact ⟨hhead, List.suffix_refl _⟩
      | malformed =>
        rw [hhead] at h
        cases h
      | complete length =>
        rw [hhead] at h
        obtain ⟨-, hmin, -, -, -⟩ := frameHead_complete hhead
        obtain ⟨hunfinished, hsuffix⟩ := ih (bytes.drop length)
          (by rw [List.length_drop]; omega) h
        exact ⟨hunfinished, hsuffix.trans (List.drop_suffix _ _)⟩
  exact hpasses bytes.length bytes (Nat.le_refl _) h

/-- A frame completed by more bytes ends within them. -/
theorem frameHead_completed {bytes more : List UInt8} (h : frameHead bytes = .unfinished)
    (hmore : frameHead (bytes ++ more) = .complete length) :
    bytes.length < length := by
  obtain ⟨hlength, hmin, -, -, -⟩ := frameHead_complete hmore
  by_contra hlong
  have hheader : ¬ bytes.length < mbapHeaderSize := by
    unfold mbapHeaderSize
    omega
  unfold frameHead at h hmore
  rw [if_neg hheader] at h
  rw [if_neg (by rw [List.length_append]; omega), be16_append more (by omega),
    be16_append more (by omega)] at hmore
  rw [be16_append more (by omega)] at hlength
  split at h
  · cases h
  · rename_i hgood
    rw [if_neg (by omega)] at h
    cases h

/-- So what is left after it came with it. -/
theorem parseWhole_completed {bytes more rest : List UInt8} (h : frameHead bytes = .unfinished)
    (hframes : (parseWhole (bytes ++ more)).1 ≠ [])
    (hrest : (parseWhole (bytes ++ more)).2 = some rest) : rest.length ≤ more.length := by
  rw [parseWhole_eq] at hframes hrest
  cases hhead : frameHead (bytes ++ more) with
  | unfinished =>
    rw [hhead] at hframes
    exact absurd rfl hframes
  | malformed =>
    rw [hhead] at hframes
    exact absurd rfl hframes
  | complete length =>
    rw [hhead] at hrest
    have hlong := frameHead_completed h hhead
    have hshort := (parseWhole_rest hrest).2.length_le
    rw [List.length_drop, List.length_append] at hshort
    omega

/-- Bytes in which no frame is complete are left as they are. -/
theorem parseWhole_none {bytes rest : List UInt8} (hframes : (parseWhole bytes).1 = [])
    (hrest : (parseWhole bytes).2 = some rest) : rest = bytes := by
  rw [parseWhole_eq] at hframes hrest
  cases hhead : frameHead bytes with
  | unfinished =>
    rw [hhead] at hrest
    cases hrest
    rfl
  | malformed =>
    rw [hhead] at hrest
    cases hrest
  | complete length =>
    rw [hhead] at hframes
    cases hframes

/-- The frames `adus` are in front of `bytes` and `rest` follows them. -/
inductive Reads : List UInt8 → List MbapAdu → List UInt8 → Prop where
  | done (bytes : List UInt8) : Reads bytes [] bytes
  | frame (bytes : List UInt8) (length : Nat) (adus : List MbapAdu) (rest : List UInt8)
      (head : frameHead bytes = .complete length) (more : Reads (bytes.drop length) adus rest) :
      Reads bytes (aduAt bytes :: adus) rest

theorem Reads.trans {bytes rest rest' : List UInt8} {adus adus' : List MbapAdu}
    (h : Reads bytes adus rest) (h' : Reads rest adus' rest') : Reads bytes (adus ++ adus') rest' := by
  induction h with
  | done => exact h'
  | frame bytes length adus rest head _ ih => exact .frame bytes length _ _ head (ih h')

theorem Reads.append {bytes rest : List UInt8} {adus : List MbapAdu} (h : Reads bytes adus rest)
    (more : List UInt8) : Reads (bytes ++ more) adus (rest ++ more) := by
  induction h with
  | done => exact .done _
  | frame bytes length adus rest head _ ih =>
    obtain ⟨-, -, -, hlength, -⟩ := frameHead_complete head
    have hhead : frameHead (bytes ++ more) = .complete length := by
      rw [frameHead_append more (by rw [head]; exact FrameHead.noConfusion), head]
    rw [← aduAt_append more head]
    refine .frame _ length _ _ hhead ?_
    rw [List.drop_append_of_le_length hlength]
    exact ih

/-- What has been read is what the reference parser reads first. -/
theorem Reads.parseWhole {bytes rest : List UInt8} {adus : List MbapAdu}
    (h : Reads bytes adus rest) :
    parseWhole bytes = (adus ++ (parseWhole rest).1, (parseWhole rest).2) := by
  induction h with
  | done => rfl
  | frame bytes length adus rest head _ ih =>
    rw [parseWhole_eq bytes, head]
    simp only [ih, List.cons_append]

/-! ## The parser reads -/

/-- The callback, keeping a list of the frames it accepts. -/
def recordingFrames (callback : MbapAduFn γ) : MbapAduFn (List MbapAdu × γ) := fun context adu =>
  match callback context.2 adu with
  | (0, own) => (0, context.1 ++ [adu], own)
  | (result, own) => (result, context.1, own)

/-- Why `parse_available` comes to an end: its result and the front it is at. -/
def stopsAt (result : Int) (head : FrameHead) : Prop :=
  result = 0 ∧ head = .unfinished ∨ result = -1 ∧ head = .malformed ∨
    result = 1 ∧ ∃ length, head = .complete length

/-- The parser's own test of a header is the reference's. -/
theorem parseAvailable_head (callback : MbapAduFn γ) (passes : Nat) (stream : MbapStream)
    (context : γ) :
    parseAvailable callback (passes + 1) stream context =
      match frameHead stream.bytes with
      | .unfinished => (0, stream, context)
      | .malformed => (-1, { stream with poisoned := true }, context)
      | .complete length =>
          match callback context (aduAt stream.bytes) with
          | (0, context) =>
              parseAvailable callback passes
                { stream with bytes := stream.bytes.drop length } context
          | (_, context) => (1, stream, context) := by
  have hbound : (be16 stream.bytes 2 ≠ 0 ∨ be16 stream.bytes 4 < mbapLengthMin ∨
        be16 stream.bytes 4 > mbapLengthMax ∨ 6 + be16 stream.bytes 4 > mbapAduMax) ↔
      (be16 stream.bytes 2 ≠ 0 ∨ be16 stream.bytes 4 < mbapLengthMin ∨
        be16 stream.bytes 4 > mbapLengthMax) := by
    unfold mbapLengthMin mbapLengthMax mbapAduMax mbapHeaderSize mbapPduMax
    omega
  conv => lhs; unfold parseAvailable
  unfold frameHead
  simp only [hbound]
  split
  · rfl
  · split
    · rfl
    · split <;> rfl

theorem parseAvailable_taken (passes : Nat) {context context' : γ}
    (hhead : frameHead stream.bytes = .complete length)
    (hcall : callback context (aduAt stream.bytes) = (0, context')) :
    parseAvailable callback (passes + 1) stream context =
      parseAvailable callback passes { stream with bytes := stream.bytes.drop length } context' := by
  rw [parseAvailable_head, hhead]
  simp only [hcall]

theorem parseAvailable_refused (passes : Nat) {context context' : γ} {result : Int}
    (hhead : frameHead stream.bytes = .complete length)
    (hcall : callback context (aduAt stream.bytes) = (result, context')) (hresult : result ≠ 0) :
    parseAvailable callback (passes + 1) stream context = (1, stream, context') := by
  rw [parseAvailable_head, hhead]
  simp only [hcall]

/-- **One parse.** The frames accepted are read off the front, and the parser stops where
    the result says. -/
theorem parseAvailable_reads (callback : MbapAduFn γ) (passes : Nat) (h : stream.bytes.length ≤ passes)
    (log : List MbapAdu) (own : γ) :
    ∃ taken, (parseAvailable (recordingFrames callback) passes stream (log, own)).2.2.1 =
        log ++ taken ∧
      Reads stream.bytes taken
        (parseAvailable (recordingFrames callback) passes stream (log, own)).2.1.bytes ∧
      stopsAt (parseAvailable (recordingFrames callback) passes stream (log, own)).1
        (frameHead (parseAvailable (recordingFrames callback) passes stream
          (log, own)).2.1.bytes) ∧
      ((parseAvailable (recordingFrames callback) passes stream (log, own)).2.1.poisoned = true ↔
        stream.poisoned = true ∨
          (parseAvailable (recordingFrames callback) passes stream (log, own)).1 = -1) := by
  induction passes generalizing stream log own with
  | zero =>
    have hnil : stream.bytes = [] := List.length_eq_zero_iff.mp (Nat.le_zero.mp h)
    refine ⟨[], (List.append_nil log).symm, .done _, .inl ⟨rfl, ?_⟩, by simp [parseAvailable]⟩
    show frameHead stream.bytes = _
    rw [hnil]
    rfl
  | succ passes ih =>
    cases hhead : frameHead stream.bytes with
    | unfinished =>
      rw [parseAvailable_head, hhead]
      exact ⟨[], (List.append_nil log).symm, .done _, .inl ⟨rfl, hhead⟩, by simp⟩
    | malformed =>
      rw [parseAvailable_head, hhead]
      exact ⟨[], (List.append_nil log).symm, .done _, .inr (.inl ⟨rfl, hhead⟩), by simp⟩
    | complete length =>
      obtain ⟨-, hmin, -, hlength, -⟩ := frameHead_complete hhead
      cases hcall : callback own (aduAt stream.bytes) with
      | mk result own' =>
        by_cases hzero : result = 0
        · subst hzero
          have hrecord : recordingFrames callback (log, own) (aduAt stream.bytes) =
              (0, log ++ [aduAt stream.bytes], own') := by
            simp [recordingFrames, hcall]
          rw [parseAvailable_taken passes hhead hrecord]
          obtain ⟨taken, hlog, hreads, hstops, hpoisoned⟩ :=
            @ih { stream with bytes := stream.bytes.drop length }
              (by simp only [List.length_drop]; omega) (log ++ [aduAt stream.bytes]) own'
          refine ⟨aduAt stream.bytes :: taken, ?_, .frame _ length _ _ hhead hreads, hstops,
            hpoisoned⟩
          rw [hlog, List.append_assoc]
          rfl
        · have hrecord : recordingFrames callback (log, own) (aduAt stream.bytes) =
              (result, log, own') := by
            unfold recordingFrames
            rw [hcall]
            split
            · rename_i heq
              exact absurd (congrArg Prod.fst heq) hzero
            · rename_i heq
              cases heq
              rfl
          rw [parseAvailable_refused passes hhead hrecord hzero]
          exact ⟨[], (List.append_nil log).symm, .done _, .inr (.inr ⟨rfl, length, hhead⟩), by simp⟩

/-! ## Feeds -/

/-- What a feed leaves: its verdict, the stream and the callback's context. -/
abbrev Feeding (γ : Type) := MbapResult × MbapRing × γ

def feed (callback : MbapAduFn γ) (s : Feeding γ) (data : List UInt8) : Feeding γ :=
  mbapRingFeed s.2.1 data callback s.2.2

/-- A stream fed piece by piece from `mbap_stream_init` on. -/
def feedAll (callback : MbapAduFn γ) (context : γ) (chunks : List (List UInt8)) : Feeding γ :=
  chunks.foldl (feed callback) (.ok, mbapRingInit, context)

/-- The piece does not exceed the free room. -/
def FitsRoom (s : Feeding γ) (data : List UInt8) : Prop :=
  s.2.1.poisoned = true ∨ data.length ≤ mbapRxCapacity - s.2.1.ring.count

instance (s : Feeding γ) (data : List UInt8) : Decidable (FitsRoom s data) :=
  inferInstanceAs (Decidable (_ ∨ _))

/-- No piece exceeds the free room there is when it comes. -/
def Fits (callback : MbapAduFn γ) (context : γ) (chunks : List (List UInt8)) : Prop :=
  Along (feed callback) FitsRoom chunks (.ok, mbapRingInit, context)

/-- The verdict of a feed and the front the stream is at. -/
def verdictAt : MbapResult → FrameHead → Bool → Prop
  | .ok, head, poisoned => head = .unfinished ∧ poisoned = false
  | .malformed, head, poisoned => head = .malformed ∧ poisoned = true
  | .stopped, head, poisoned => (∃ length, head = .complete length) ∧ poisoned = false
  | .overflow, _, _ => False

def verdictOf (result : Int) : MbapResult :=
  if result < 0 then .malformed else if result > 0 then .stopped else .ok

theorem mbapStreamFeed_fits (hclean : stream.poisoned = false) {data : List UInt8}
    (hroom : data.length ≤ mbapRxCapacity - stream.bytes.length) (callback : MbapAduFn γ) (context : γ) :
    mbapStreamFeed stream data callback context =
      (verdictOf (parseAvailable callback (stream.bytes ++ data).length
          { stream with bytes := stream.bytes ++ data } context).1,
        (parseAvailable callback (stream.bytes ++ data).length
          { stream with bytes := stream.bytes ++ data } context).2) := by
  unfold mbapStreamFeed verdictOf
  rw [if_neg (by rw [hclean]; decide), if_neg (Nat.not_lt.mpr hroom)]
  dsimp only
  split
  · rfl
  · split <;> rfl

theorem verdictAt_stops {result : Int} {head : FrameHead} {poisoned : Bool}
    (h : stopsAt result head) (hpoisoned : poisoned = true ↔ result = -1) :
    verdictAt (verdictOf result) head poisoned := by
  rcases h with ⟨rfl, hhead⟩ | ⟨rfl, hhead⟩ | ⟨rfl, hhead⟩
  · exact ⟨hhead, Bool.eq_false_iff.mpr fun hp => absurd (hpoisoned.mp hp) (by decide)⟩
  · exact ⟨hhead, hpoisoned.mpr rfl⟩
  · exact ⟨hhead, Bool.eq_false_iff.mpr fun hp => absurd (hpoisoned.mp hp) (by decide)⟩

/-- **After any feeds**: the frames accepted are read off the front of all that came, and
    the rest is in the buffer, or begins with a malformed header. -/
structure Fed (fed : List UInt8) (s : Feeding (List MbapAdu × γ)) (rest : List UInt8) : Prop where
  reads : Reads fed s.2.2.1 rest
  buffered : s.2.1.poisoned = false → s.2.1.ring.toList = rest
  verdict : verdictAt s.1 (frameHead rest) s.2.1.poisoned

variable {s : Feeding (List MbapAdu × γ)}

theorem Fed.feed {fed : List UInt8} {rest : List UInt8} (h : Fed fed s rest) {data : List UInt8}
    (hfits : FitsRoom s data) :
    ∃ rest', Fed (fed ++ data) (FourVrs.Modbus.feed (recordingFrames callback) s data) rest' := by
  obtain ⟨verdict, ring, log, own⟩ := s
  -- a poisoned ring takes nothing more, and the reference parse is stuck there too
  by_cases hpoisoned : ring.poisoned = true
  · have hfeed : FourVrs.Modbus.feed (recordingFrames callback) (verdict, ring, log, own) data =
        (.malformed, ring, log, own) := by
      unfold FourVrs.Modbus.feed mbapRingFeed
      rw [if_pos hpoisoned]
    have hverdict := h.verdict
    have hmalformed : frameHead rest = .malformed := by
      cases verdict with
      | ok | stopped => exact absurd (hpoisoned.symm.trans hverdict.2) (by decide)
      | malformed => exact hverdict.1
      | overflow => exact hverdict.elim
    rw [hfeed]
    refine ⟨rest ++ data, h.reads.append data, ?_, ?_, hpoisoned⟩
    · intro hclean
      exact absurd (hpoisoned.symm.trans hclean) (by decide)
    · rw [frameHead_append data (by rw [hmalformed]; exact FrameHead.noConfusion), hmalformed]
  · have hclean : ring.poisoned = false := Bool.eq_false_iff.mpr hpoisoned
    have hroom : data.length ≤ mbapRxCapacity - ring.ring.count := hfits.resolve_left hpoisoned
    have hrest : ring.ring.toList = rest := h.buffered hclean
    have hlength : ring.stream.bytes.length = ring.ring.count := RingBuffer.length_toList _
    obtain ⟨taken, hlog, hreads, hstops, hpoison⟩ :=
      @parseAvailable_reads _ { ring.stream with bytes := ring.stream.bytes ++ data } callback
        (ring.stream.bytes ++ data).length (Nat.le_refl _) log own
    have hring := mbapRingFeed_stream ring data (recordingFrames callback) (log, own)
    rw [mbapStreamFeed_fits (show ring.stream.poisoned = false from hclean)
      (by rw [hlength]; exact hroom)] at hring
    generalize parseAvailable (recordingFrames callback) (ring.stream.bytes ++ data).length
      { ring.stream with bytes := ring.stream.bytes ++ data } (log, own) = out at *
    have hfeed : FourVrs.Modbus.feed (recordingFrames callback) (verdict, ring, log, own) data =
        mbapRingFeed ring data (recordingFrames callback) (log, own) := rfl
    rw [hfeed]
    generalize mbapRingFeed ring data (recordingFrames callback) (log, own) = fedRing at *
    obtain ⟨verdict', ring', log', own'⟩ := fedRing
    simp only [Prod.mk.injEq] at hring
    obtain ⟨hverdict, hout⟩ := hring
    have hstream : out.2.1 = ring'.stream := congrArg Prod.fst hout
    have hcontext : out.2.2 = (log', own') := congrArg Prod.snd hout
    have hbytes : ring.stream.bytes = rest := hrest
    rw [hstream, hbytes] at hreads
    rw [hstream] at hstops hpoison
    rw [hcontext] at hlog
    simp only at hlog hpoison hreads
    refine ⟨ring'.stream.bytes, ?_, fun _ => rfl, ?_⟩
    · simp only [hlog]
      exact (h.reads.append data).trans hreads
    · simp only [← hverdict]
      refine verdictAt_stops hstops (hpoison.trans ?_)
      rw [show ring.stream.poisoned = false from hclean]
      simp

theorem fed_feedAll (callback : MbapAduFn γ) (own : γ) {chunks : List (List UInt8)}
    (hfits : Fits (recordingFrames callback) ([], own) chunks) :
    ∃ rest, Fed chunks.flatten (feedAll (recordingFrames callback) ([], own) chunks) rest := by
  have hrun : ∀ (chunks : List (List UInt8)) {fed rest : List UInt8}
      {s : Feeding (List MbapAdu × γ)}, Fed fed s rest →
      Along (feed (recordingFrames callback)) FitsRoom chunks s →
      ∃ rest', Fed (fed ++ chunks.flatten) (chunks.foldl (feed (recordingFrames callback)) s)
        rest' := by
    intro chunks
    induction chunks with
    | nil =>
      intro fed rest s h _
      exact ⟨rest, by simpa using h⟩
    | cons data chunks ih =>
      intro fed rest s h halong
      obtain ⟨rest', h'⟩ := h.feed halong.1
      obtain ⟨rest'', h''⟩ := ih h' halong.2
      refine ⟨rest'', ?_⟩
      rw [List.flatten_cons, ← List.append_assoc]
      exact h''
  refine @hrun chunks [] [] _ ⟨.done [], ?_, rfl, rfl⟩ hfits
  intro _
  exact RingBuffer.toList_empty _ _

/-- The frames accepted, by verdict, beside those of the reference parser. -/
structure InOrder (fed : List UInt8) (s : Feeding (List MbapAdu × γ)) : Prop where
  fits : s.1 ≠ .overflow
  ok : s.1 = .ok → parseWhole fed = (s.2.2.1, some s.2.1.ring.toList)
  malformed : s.1 = .malformed → parseWhole fed = (s.2.2.1, none)
  /-- A refused frame and those behind it are in the buffer. -/
  stopped : s.1 = .stopped → ∃ adu later, (parseWhole s.2.1.ring.toList).1 = adu :: later ∧
    parseWhole fed = (s.2.2.1 ++ adu :: later, (parseWhole s.2.1.ring.toList).2)

theorem Fed.inOrder {fed rest : List UInt8} (h : Fed fed s rest) : InOrder fed s := by
  have hverdict := h.verdict
  have hwhole := h.reads.parseWhole
  refine ⟨?_, ?_, ?_, ?_⟩
  · intro hover
    rw [hover] at hverdict
    exact hverdict
  · intro hok
    rw [hok] at hverdict
    rw [hwhole, parseWhole_unfinished hverdict.1, List.append_nil, h.buffered hverdict.2]
  · intro hmalformed
    rw [hmalformed] at hverdict
    rw [hwhole, parseWhole_malformed hverdict.1, List.append_nil]
  · intro hstopped
    rw [hstopped] at hverdict
    obtain ⟨⟨length, hhead⟩, hclean⟩ := hverdict
    rw [h.buffered hclean, hwhole, parseWhole_eq rest, hhead]
    exact ⟨aduAt rest, _, rfl, rfl⟩

/-! ## Callbacks that accept, and poisoned streams -/

/-- The callback takes every frame. -/
def Accepts (callback : MbapAduFn γ) : Prop := ∀ context adu, (callback context adu).1 = 0

/-- The result of a parse: negative only with a poisoned stream, positive only after a
    refusal. -/
theorem parseAvailable_result (callback : MbapAduFn γ) (passes : Nat) (stream : MbapStream)
    (context : γ) :
    ((parseAvailable callback passes stream context).1 < 0 →
        (parseAvailable callback passes stream context).2.1.poisoned = true) ∧
      (Accepts callback → (parseAvailable callback passes stream context).1 ≤ 0) := by
  induction passes generalizing stream context with
  | zero => exact ⟨fun h => absurd h (by simp [parseAvailable]), fun _ => Int.le_refl _⟩
  | succ passes ih =>
    cases hhead : frameHead stream.bytes with
    | unfinished =>
      rw [parseAvailable_head, hhead]
      exact ⟨fun h => absurd h (Int.lt_irrefl 0), fun _ => Int.le_refl _⟩
    | malformed =>
      rw [parseAvailable_head, hhead]
      exact ⟨fun _ => rfl, fun _ => show (-1 : Int) ≤ 0 by decide⟩
    | complete length =>
      cases hcall : callback context (aduAt stream.bytes) with
      | mk result context' =>
        by_cases hzero : result = 0
        · subst hzero
          rw [parseAvailable_taken passes hhead hcall]
          exact ih _ _
        · rw [parseAvailable_refused passes hhead hcall hzero]
          refine ⟨fun h => absurd h (show ¬ (1 : Int) < 0 by decide), fun haccepts => ?_⟩
          exact absurd ((congrArg Prod.fst hcall).symm.trans (haccepts _ _)) hzero

theorem feed_verdict (callback : MbapAduFn γ) (s : Feeding γ) (data : List UInt8) :
    ((feed callback s data).1 = .malformed ∨ (feed callback s data).1 = .overflow →
        (feed callback s data).2.1.poisoned = true) ∧
      (Accepts callback → (feed callback s data).1 ≠ .stopped) := by
  obtain ⟨verdict, ring, context⟩ := s
  have hring := mbapRingFeed_stream ring data callback context
  show ((mbapRingFeed ring data callback context).1 = .malformed ∨
    (mbapRingFeed ring data callback context).1 = .overflow →
      (mbapRingFeed ring data callback context).2.1.poisoned = true) ∧
    (Accepts callback → (mbapRingFeed ring data callback context).1 ≠ .stopped)
  generalize mbapRingFeed ring data callback context = out at *
  obtain ⟨verdict', ring', context'⟩ := out
  unfold mbapStreamFeed at hring
  split at hring
  · rename_i hpoisoned
    simp only [Prod.mk.injEq] at hring
    obtain ⟨rfl, hstream, -⟩ := hring
    exact ⟨fun _ => (congrArg MbapStream.poisoned hstream).symm.trans hpoisoned,
      fun _ => MbapResult.noConfusion⟩
  split at hring
  · simp only [Prod.mk.injEq] at hring
    obtain ⟨rfl, hstream, -⟩ := hring
    exact ⟨fun _ => (congrArg MbapStream.poisoned hstream).symm,
      fun _ => MbapResult.noConfusion⟩
  · obtain ⟨hneg, hpos⟩ := parseAvailable_result callback (ring.stream.bytes ++ data).length
      { ring.stream with bytes := ring.stream.bytes ++ data } context
    generalize parseAvailable callback (ring.stream.bytes ++ data).length
      { ring.stream with bytes := ring.stream.bytes ++ data } context = parsed at *
    obtain ⟨result, stream', context''⟩ := parsed
    dsimp only at hring hneg hpos
    split at hring
    · rename_i hlt
      simp only [Prod.mk.injEq] at hring
      obtain ⟨rfl, rfl, -⟩ := hring
      exact ⟨fun _ => hneg hlt, fun _ => MbapResult.noConfusion⟩
    · have hnone : ∀ verdict : MbapResult, verdict ≠ .malformed → verdict ≠ .overflow →
          (verdict = .malformed ∨ verdict = .overflow → ring'.poisoned = true) := by
        intro verdict hm ho h
        rcases h with h | h
        · exact absurd h hm
        · exact absurd h ho
      split at hring
      · rename_i hgt
        simp only [Prod.mk.injEq] at hring
        obtain ⟨rfl, -, -⟩ := hring
        exact ⟨hnone _ MbapResult.noConfusion MbapResult.noConfusion,
          fun haccepts => absurd (hpos haccepts) (Int.not_le.mpr hgt)⟩
      · simp only [Prod.mk.injEq] at hring
        obtain ⟨rfl, -, -⟩ := hring
        exact ⟨hnone _ MbapResult.noConfusion MbapResult.noConfusion,
          fun _ => MbapResult.noConfusion⟩

/-- What every feed establishes holds after all of them. -/
theorem feedAll_of_feed {P : Feeding γ → Prop} (hfeed : ∀ s data, P (feed callback s data)) {context : γ}
    (hinit : P (.ok, mbapRingInit, context)) (chunks : List (List UInt8)) :
    P (feedAll callback context chunks) := by
  have hrun : ∀ (chunks : List (List UInt8)) (s : Feeding γ), P s →
      P (chunks.foldl (feed callback) s) := by
    intro chunks
    induction chunks with
    | nil => intro s h; exact h
    | cons data chunks ih => intro s _; exact ih _ (hfeed s data)
  exact hrun chunks _ hinit

theorem Accepts.recordingFrames (h : Accepts callback) :
    Accepts (FourVrs.Modbus.recordingFrames callback) := by
  intro context adu
  have hzero := h context.2 adu
  unfold FourVrs.Modbus.recordingFrames
  split
  · rfl
  · rename_i heq
    exact (congrArg Prod.fst heq).symm.trans hzero

/-- A callback that takes every frame never stops the stream. -/
theorem feedAll_accepts (h : Accepts callback) (own : γ) (chunks : List (List UInt8)) :
    (feedAll (recordingFrames callback) ([], own) chunks).1 ≠ .stopped :=
  feedAll_of_feed (P := fun s => s.1 ≠ .stopped)
    (fun s data => (feed_verdict _ s data).2 h.recordingFrames) MbapResult.noConfusion chunks

/-- A poisoned stream ignores what it is fed. -/
theorem feed_poisoned {s : Feeding γ} (h : s.2.1.poisoned = true) (more : List (List UInt8)) :
    (more.foldl (feed callback) s).2 = s.2 := by
  induction more generalizing s with
  | nil => rfl
  | cons data more ih =>
    have hfeed : feed callback s data = (.malformed, s.2) := by
      unfold feed mbapRingFeed
      rw [if_pos h]
    rw [List.foldl_cons, hfeed, ih (by exact h)]

/-! ## The stream parser -/

/-- The same frames, the same verdict and, if it is good, the same rest. -/
structure SameParse (s s' : Feeding (List MbapAdu × γ)) : Prop where
  frames : s.2.2.1 = s'.2.2.1
  verdict : s.1 = s'.1
  rest : s.1 = .ok → s.2.1.ring.toList = s'.2.1.ring.toList

theorem sameParse {fed : List UInt8} {s s' : Feeding (List MbapAdu × γ)} (h : InOrder fed s)
    (h' : InOrder fed s') (hs : s.1 ≠ .stopped) (hs' : s'.1 ≠ .stopped) : SameParse s s' := by
  cases hverdict : s.1 with
  | overflow => exact absurd hverdict h.fits
  | stopped => exact absurd hverdict hs
  | ok =>
    have hwhole := h.ok hverdict
    cases hverdict' : s'.1 with
    | overflow => exact absurd hverdict' h'.fits
    | stopped => exact absurd hverdict' hs'
    | ok =>
      have hboth := hwhole.symm.trans (h'.ok hverdict')
      simp only [Prod.mk.injEq, Option.some.injEq] at hboth
      exact ⟨hboth.1, hverdict.trans hverdict'.symm, fun _ => hboth.2⟩
    | malformed =>
      have hboth := hwhole.symm.trans (h'.malformed hverdict')
      cases congrArg Prod.snd hboth
  | malformed =>
    have hwhole := h.malformed hverdict
    cases hverdict' : s'.1 with
    | overflow => exact absurd hverdict' h'.fits
    | stopped => exact absurd hverdict' hs'
    | ok =>
      have hboth := hwhole.symm.trans (h'.ok hverdict')
      cases congrArg Prod.snd hboth
    | malformed =>
      have hboth := hwhole.symm.trans (h'.malformed hverdict')
      refine ⟨(Prod.mk.inj hboth).1, hverdict.trans hverdict'.symm, ?_⟩
      intro hok
      exact absurd (hverdict.symm.trans hok) MbapResult.noConfusion

/-- **The stream parser.** Fed piece by piece, with a callback that refuses what it likes,
    it accepts the frames of the reference parser, each once and in order, and keeps the
    others; with a callback that takes everything how the string is cut does not matter;
    after a malformed header or an overflow the callback is not called again; and the
    indices stay within the ring. -/
theorem mbapRing_parses (callback : MbapAduFn γ) (own : γ) (chunks : List (List UInt8)) :
    (Fits (recordingFrames callback) ([], own) chunks →
        InOrder chunks.flatten (feedAll (recordingFrames callback) ([], own) chunks)) ∧
      (∀ chunks', Accepts callback → chunks'.flatten = chunks.flatten →
        Fits (recordingFrames callback) ([], own) chunks →
        Fits (recordingFrames callback) ([], own) chunks' →
        (feedAll (recordingFrames callback) ([], own) chunks).1 ≠ .stopped ∧
          SameParse (feedAll (recordingFrames callback) ([], own) chunks)
            (feedAll (recordingFrames callback) ([], own) chunks')) ∧
      ((feedAll callback own chunks).1 = .malformed ∨ (feedAll callback own chunks).1 = .overflow →
        ∀ more, (feedAll callback own (chunks ++ more)).2 = (feedAll callback own chunks).2) ∧
      (feedAll callback own chunks).2.1.ring.count ≤ mbapRxCapacity ∧
      (feedAll callback own chunks).2.1.ring.head < mbapRxCapacity := by
  have horder : ∀ {chunks : List (List UInt8)}, Fits (recordingFrames callback) ([], own) chunks →
      InOrder chunks.flatten (feedAll (recordingFrames callback) ([], own) chunks) := by
    -- in order means one reference parse of the whole, so the cutting is forgotten
    intro chunks hfits
    obtain ⟨rest, hfed⟩ := fed_feedAll callback own hfits
    exact hfed.inOrder
  refine ⟨horder, ?_, ?_, (feedAll callback own chunks).2.1.ring.count_le,
    (feedAll callback own chunks).2.1.ring.head_lt⟩
  · intro chunks' haccepts hsame hfits hfits'
    have hnever : ∀ chunks, (feedAll (recordingFrames callback) ([], own) chunks).1 ≠ .stopped :=
      fun chunks => feedAll_accepts haccepts own chunks
    refine ⟨hnever chunks, sameParse (horder hfits) ?_ (hnever chunks) (hnever chunks')⟩
    rw [← hsame]
    exact horder hfits'
  · intro hbad more
    have hpoisoned := feedAll_of_feed
      (P := fun s : Feeding γ => s.1 = .malformed ∨ s.1 = .overflow → s.2.1.poisoned = true)
      (fun s data => (feed_verdict callback s data).1)
      (fun h => by rcases h with h | h <;> cases h) chunks hbad
    show ((chunks ++ more).foldl (feed callback) (.ok, mbapRingInit, own)).2 = _
    rw [List.foldl_append]
    exact feed_poisoned hpoisoned more

/-- A callback that takes every frame. -/
def takeAll : MbapAduFn Unit := fun own _ => (0, own)

/-- Two frames, cut inside their headers. -/
def cutFrames : List (List UInt8) :=
  [[0, 1, 0, 0, 0], [6, 1, 3, 0, 0, 0, 1, 0, 2], [], [0, 0, 0, 3, 1, 7, 5]]

theorem mbapRing_parses_cutFrames :
    (feedAll (recordingFrames takeAll) ([], ()) [cutFrames.flatten]).2.2.1 =
        [⟨1, 1, [3, 0, 0, 0, 1]⟩, ⟨2, 1, [7, 5]⟩] ∧
      InOrder cutFrames.flatten (feedAll (recordingFrames takeAll) ([], ()) cutFrames) ∧
      (feedAll takeAll () ([[0, 1, 1, 0, 0, 6, 1]] ++ cutFrames)).2 =
        (feedAll takeAll () [[0, 1, 1, 0, 0, 6, 1]]).2 ∧
      SameParse (feedAll (recordingFrames takeAll) ([], ()) cutFrames)
        (feedAll (recordingFrames takeAll) ([], ()) [cutFrames.flatten]) := by
  have hfits : Fits (recordingFrames takeAll) ([], ()) cutFrames := by
    unfold Fits
    decide +kernel
  have hwhole : Fits (recordingFrames takeAll) ([], ()) [cutFrames.flatten] := by
    unfold Fits
    decide +kernel
  obtain ⟨horder, hsame, -⟩ := mbapRing_parses takeAll () cutFrames
  have hbad := (mbapRing_parses takeAll () [[0, 1, 1, 0, 0, 6, 1]]).2.2.1 (by decide +kernel)
  exact ⟨by decide +kernel, horder hfits, hbad cutFrames,
    (hsame [cutFrames.flatten] (fun _ _ => rfl) rfl hfits hwhole).2⟩

end FourVrs.Modbus
