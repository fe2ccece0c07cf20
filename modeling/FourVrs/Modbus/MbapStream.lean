import FourVrs.Modbus.Adapter

/-!
# The MBAP parser (`modbus/mbap_stream.c`)

A TCP connection delivers bytes in pieces of any length. The stream keeps those no
frame has used up and hands complete frames to a callback, which may refuse one: then
it stays in front and is offered again with the next piece. A header no frame can have
poisons the stream.

`parseAvailable_rule` is the parser's invariant rule: what the callback keeps, frame by
frame, holds of the bytes left over. The counters of the stream are left out; nothing
reads them back.
-/

set_option autoImplicit false

namespace FourVrs.Modbus

def mbapLengthMin : Nat := 2
def mbapLengthMax : Nat := 254
def mbapRxCapacity : Nat := mbapAduMax * 4

inductive MbapResult where
  | ok | overflow | malformed | stopped
  deriving DecidableEq, Repr

structure MbapAdu where
  transactionId : BitVec 16
  unitId : UInt8
  pdu : List UInt8
  deriving DecidableEq, Repr

/-- `bytes` is what the source's ring holds, the oldest first. -/
structure MbapStream where
  bytes : List UInt8
  poisoned : Bool
  deriving DecidableEq, Repr

def mbapStreamInit : MbapStream := { bytes := [], poisoned := false }

/-- `mbap_adu_fn`: 0 takes the frame. -/
abbrev MbapAduFn (γ : Type) := γ → MbapAdu → Int × γ

variable {γ : Type}

/-- The frame a header announces. -/
def aduAt (bytes : List UInt8) : MbapAdu where
  transactionId := BitVec.ofNat 16 (be16 bytes 0)
  unitId := byteAt bytes 6
  pdu := (bytes.drop 7).take (be16 bytes 4 - 1)

/-- The loop of `parse_available`. Every pass takes a frame of eight bytes or more, so
    as many passes as there are bytes are enough. -/
def parseAvailable (callback : MbapAduFn γ) :
    Nat → MbapStream → γ → Int × MbapStream × γ
  | 0, stream, context => (0, stream, context)
  | passes + 1, stream, context =>
      if stream.bytes.length < mbapHeaderSize then (0, stream, context)
      else if be16 stream.bytes 2 ≠ 0 ∨ be16 stream.bytes 4 < mbapLengthMin ∨
          be16 stream.bytes 4 > mbapLengthMax ∨ 6 + be16 stream.bytes 4 > mbapAduMax then
        (-1, { stream with poisoned := true }, context)
      else if stream.bytes.length < 6 + be16 stream.bytes 4 then (0, stream, context)
      else
        match callback context (aduAt stream.bytes) with
        | (0, context) =>
            parseAvailable callback passes
              { stream with bytes := stream.bytes.drop (6 + be16 stream.bytes 4) } context
        | (_, context) => (1, stream, context)

def mbapStreamFeed (stream : MbapStream) (data : List UInt8) (callback : MbapAduFn γ)
    (context : γ) : MbapResult × MbapStream × γ :=
  if stream.poisoned then (.malformed, stream, context)
  else if data.length > mbapRxCapacity - stream.bytes.length then
    (.overflow, { stream with poisoned := true }, context)
  else
    match parseAvailable callback (stream.bytes ++ data).length
        { stream with bytes := stream.bytes ++ data } context with
    | (result, stream, context) =>
        if result < 0 then (.malformed, stream, context)
        else if result > 0 then (.stopped, stream, context)
        else (.ok, stream, context)

/-! ## Frames on the wire -/

/-- The bytes of a frame. -/
def encodeAdu (adu : MbapAdu) : List UInt8 :=
  [highByte adu.transactionId.toNat, UInt8.ofNat adu.transactionId.toNat, 0, 0,
    highByte (1 + adu.pdu.length), UInt8.ofNat (1 + adu.pdu.length), adu.unitId] ++ adu.pdu

theorem highByte_be16 (high low : UInt8) : highByte (high.toNat * 256 + low.toNat) = high := by
  have hlow : low.toNat < 256 := low.toNat_lt
  have hdiv : (high.toNat * 256 + low.toNat) / 256 = high.toNat := by omega
  rw [highByte, hdiv, UInt8.ofNat_toNat]

theorem lowByte_be16 (high low : UInt8) : UInt8.ofNat (high.toNat * 256 + low.toNat) = low := by
  apply UInt8.toNat_inj.mp
  rw [UInt8.toNat_ofNat']
  have hlow : low.toNat < 256 := low.toNat_lt
  omega

theorem exists_header {bytes : List UInt8} (h : mbapHeaderSize ≤ bytes.length) :
    ∃ a b c d e f g rest, bytes = a :: b :: c :: d :: e :: f :: g :: rest := by
  unfold mbapHeaderSize at h
  match bytes with
  | a :: b :: c :: d :: e :: f :: g :: rest => exact ⟨a, b, c, d, e, f, g, rest, rfl⟩
  | [] | [_] | [_, _] | [_, _, _] | [_, _, _, _] | [_, _, _, _, _] | [_, _, _, _, _, _] =>
    simp at h

/-- A complete frame in front is the encoding of what the parser makes of it. -/
theorem encodeAdu_aduAt {bytes : List UInt8} (hprotocol : be16 bytes 2 = 0)
    (hmin : mbapLengthMin ≤ be16 bytes 4) (hlength : 6 + be16 bytes 4 ≤ bytes.length) :
    encodeAdu (aduAt bytes) ++ bytes.drop (6 + be16 bytes 4) = bytes ∧ (aduAt bytes).pdu ≠ [] := by
  unfold mbapLengthMin at hmin
  have hheader : mbapHeaderSize ≤ bytes.length := by
    unfold mbapHeaderSize
    omega
  obtain ⟨a, b, c, d, e, f, g, rest, rfl⟩ := exists_header hheader
  have hprotocol' : c.toNat * 256 + d.toNat = 0 := hprotocol
  have hc : c = 0 := UInt8.toNat_inj.mp (by rw [UInt8.toNat_zero]; omega)
  have hd : d = 0 := UInt8.toNat_inj.mp (by rw [UInt8.toNat_zero]; omega)
  generalize hlen : be16 (a :: b :: c :: d :: e :: f :: g :: rest) 4 = len at hmin hlength ⊢
  have hef : e.toNat * 256 + f.toNat = len := hlen
  simp only [List.length_cons] at hlength
  have hword : be16 (a :: b :: c :: d :: e :: f :: g :: rest) 0 = a.toNat * 256 + b.toNat := rfl
  have hsmall : a.toNat * 256 + b.toNat < 2 ^ 16 := by
    have ha : a.toNat < 256 := a.toNat_lt
    have hb : b.toNat < 256 := b.toNat_lt
    omega
  have hpdu : (aduAt (a :: b :: c :: d :: e :: f :: g :: rest)).pdu = rest.take (len - 1) := by
    show ((a :: b :: c :: d :: e :: f :: g :: rest).drop 7).take _ = _
    rw [hlen]
    rfl
  have hpdulen : (rest.take (len - 1)).length = len - 1 := by
    rw [List.length_take]
    omega
  have hfield : 1 + (len - 1) = len := by omega
  have hdrop : (a :: b :: c :: d :: e :: f :: g :: rest).drop (6 + len) = rest.drop (len - 1) := by
    obtain ⟨k, rfl⟩ : ∃ k, len = k + 1 := ⟨len - 1, by omega⟩
    rw [show 6 + (k + 1) = k + 7 by omega]
    rfl
  constructor
  · have hid : (aduAt (a :: b :: c :: d :: e :: f :: g :: rest)).transactionId.toNat =
        a.toNat * 256 + b.toNat := by
      show (BitVec.ofNat 16 (be16 _ 0)).toNat = _
      rw [hword, BitVec.toNat_ofNat, Nat.mod_eq_of_lt hsmall]
    unfold encodeAdu
    rw [hid, hpdu, hpdulen, hfield, ← hef, highByte_be16, lowByte_be16, highByte_be16,
      lowByte_be16, hef, hdrop, hc, hd]
    show a :: b :: 0 :: 0 :: e :: f :: g :: (rest.take (len - 1) ++ rest.drop (len - 1)) = _
    rw [List.take_append_drop]
  · rw [hpdu]
    intro hnil
    rw [hnil] at hpdulen
    simp only [List.length_nil] at hpdulen
    omega

/-! ## The invariant rule -/

/-- The callback keeps `I`, which speaks of the bytes not yet used up. -/
structure KeepsFrames (callback : MbapAduFn γ) (I : List UInt8 → γ → Prop) : Prop where
  taken : ∀ adu rest context, adu.pdu ≠ [] → (callback context adu).1 = 0 →
    I (encodeAdu adu ++ rest) context → I rest (callback context adu).2
  refused : ∀ adu bytes context, (callback context adu).1 ≠ 0 → I bytes context →
    I bytes (callback context adu).2

theorem parseAvailable_rule {callback : MbapAduFn γ} {I : List UInt8 → γ → Prop}
    (hkeeps : KeepsFrames callback I) (passes : Nat) (stream : MbapStream) {context : γ}
    (h : I stream.bytes context) :
    I (parseAvailable callback passes stream context).2.1.bytes
      (parseAvailable callback passes stream context).2.2 := by
  induction passes generalizing stream context with
  | zero => exact h
  | succ passes ih =>
    unfold parseAvailable
    split
    · exact h
    split
    · exact h
    rename_i hheader
    split
    · exact h
    · rename_i hlength
      simp only [not_or, Nat.not_lt, ne_eq, Decidable.not_not] at hheader
      obtain ⟨hencode, hpdu⟩ := encodeAdu_aduAt hheader.1 hheader.2.1 (Nat.not_lt.mp hlength)
      split
      · rename_i context' hcall
        apply ih
        have htaken := hkeeps.taken (aduAt stream.bytes)
          (stream.bytes.drop (6 + be16 stream.bytes 4)) context hpdu (by rw [hcall])
          (hencode.symm ▸ h)
        rw [hcall] at htaken
        exact htaken
      · rename_i result context' hresult hcall
        have hrefused := hkeeps.refused (aduAt stream.bytes) stream.bytes context (by
          rw [hcall]
          exact hresult) h
        rw [hcall] at hrefused
        exact hrefused

/-- Bytes that fit are appended and parsed; on an overflow the callback is not called. -/
theorem mbapStreamFeed_rule {callback : MbapAduFn γ} {I : List UInt8 → γ → Prop}
    (hkeeps : KeepsFrames callback I) (stream : MbapStream) (data : List UInt8) {context : γ}
    (h : I (stream.bytes ++ data) context) :
    (mbapStreamFeed stream data callback context).1 ≠ .overflow ∧
        stream.poisoned = false ∧
        I (mbapStreamFeed stream data callback context).2.1.bytes
          (mbapStreamFeed stream data callback context).2.2 ∨
      ((mbapStreamFeed stream data callback context).1 = .overflow ∨
          (mbapStreamFeed stream data callback context).1 = .malformed) ∧
        (mbapStreamFeed stream data callback context).2.2 = context := by
  unfold mbapStreamFeed
  split
  · exact .inr ⟨.inr rfl, rfl⟩
  rename_i hpoisoned
  split
  · exact .inr ⟨.inl rfl, rfl⟩
  · refine .inl ?_
    have hrule := parseAvailable_rule hkeeps (stream.bytes ++ data).length
      { stream with bytes := stream.bytes ++ data } h
    split
    rename_i result stream' context' hparse
    rw [hparse] at hrule
    split
    · exact ⟨by simp, by simpa using hpoisoned, hrule⟩
    · split
      · exact ⟨by simp, by simpa using hpoisoned, hrule⟩
      · exact ⟨by simp, by simpa using hpoisoned, hrule⟩

end FourVrs.Modbus
