import FourVrs.Lib.RingBlock
import FourVrs.Modbus.MbapStream

/-!
# The MBAP parser on its ring (`modbus/mbap_stream.c`)

`MbapStream` reads the parser's buffer as a list. Here it is the array it is in the
source, with an index of the oldest byte and a count, read through `peek` and filled with
one copy or two. `mbapRingFeed_stream` says that the list is all there is to it:
whatever the position of the bytes in the array, a feed does to the list they spell what
`mbapStreamFeed` does.
-/

set_option autoImplicit false

namespace FourVrs.Modbus

variable {γ : Type}

/-- `struct mbap_stream` without its counters. -/
structure MbapRing where
  ring : RingBuffer UInt8 mbapRxCapacity
  poisoned : Bool

def mbapRingInit : MbapRing := { ring := RingBuffer.empty 0 (by decide), poisoned := false }

def peek (stream : MbapRing) (offset : Nat) : UInt8 := stream.ring.nth offset

/-- `((unsigned int)peek(stream, offset) << 8) | peek(stream, offset + 1)`. -/
def peekWord (stream : MbapRing) (offset : Nat) : Nat :=
  (peek stream offset).toNat * 256 + (peek stream (offset + 1)).toNat

/-- The frame `parse_available` hands to the callback. -/
def peekAdu (stream : MbapRing) : MbapAdu where
  transactionId := BitVec.ofNat 16 (peekWord stream 0)
  unitId := peek stream 6
  pdu := (List.range (peekWord stream 4 - 1)).map fun i => peek stream (7 + i)

/-- `parse_available`; a pass takes at least eight bytes, so `count` passes are enough. -/
def parseRing (callback : MbapAduFn γ) : Nat → MbapRing → γ → Int × MbapRing × γ
  | 0, stream, context => (0, stream, context)
  | passes + 1, stream, context =>
      if stream.ring.count < mbapHeaderSize then (0, stream, context)
      else if peekWord stream 2 ≠ 0 ∨ peekWord stream 4 < mbapLengthMin ∨
          peekWord stream 4 > mbapLengthMax ∨ 6 + peekWord stream 4 > mbapAduMax then
        (-1, { stream with poisoned := true }, context)
      else if stream.ring.count < 6 + peekWord stream 4 then (0, stream, context)
      else
        match callback context (peekAdu stream) with
        | (0, context) =>
            parseRing callback passes
              { stream with ring := stream.ring.skip (6 + peekWord stream 4) } context
        | (_, context) => (1, stream, context)

/-- `mbap_stream_feed`. What fits is copied in one pass of the source's loop. -/
def mbapRingFeed (stream : MbapRing) (data : List UInt8) (callback : MbapAduFn γ) (context : γ) :
    MbapResult × MbapRing × γ :=
  if stream.poisoned then (.malformed, stream, context)
  else if h : data.length ≤ mbapRxCapacity - stream.ring.count then
    match parseRing callback (stream.ring.append data h).count
        { stream with ring := stream.ring.append data h } context with
    | (result, stream, context) =>
        if result < 0 then (.malformed, stream, context)
        else if result > 0 then (.stopped, stream, context)
        else (.ok, stream, context)
  else (.overflow, { stream with poisoned := true }, context)

/-! ## The list of its bytes -/

def MbapRing.stream (s : MbapRing) : MbapStream :=
  { bytes := s.ring.toList, poisoned := s.poisoned }

theorem byteAt_stream (s : MbapRing) {offset : Nat} (h : offset < s.ring.count) :
    byteAt s.stream.bytes offset = peek s offset := by
  have hlength : offset < s.ring.toList.length := by rw [RingBuffer.length_toList]; exact h
  show s.ring.toList.getD offset 0 = s.ring.nth offset
  exact (List.getElem_eq_getD 0).symm.trans (RingBuffer.getElem_toList _ hlength)

theorem be16_stream (s : MbapRing) {offset : Nat} (h : offset + 1 < s.ring.count) :
    be16 s.stream.bytes offset = peekWord s offset := by
  unfold be16 peekWord
  rw [byteAt_stream s (by omega), byteAt_stream s h]

/-- The frame in front, read either way. -/
theorem aduAt_stream (s : MbapRing) (hheader : mbapHeaderSize ≤ s.ring.count)
    (hlength : 6 + peekWord s 4 ≤ s.ring.count) : aduAt s.stream.bytes = peekAdu s := by
  unfold mbapHeaderSize at hheader
  have hpdu : (s.stream.bytes.drop 7).take (peekWord s 4 - 1) =
      (List.range (peekWord s 4 - 1)).map fun i => peek s (7 + i) := by
    have hbytes : s.stream.bytes.length = s.ring.count := RingBuffer.length_toList _
    apply List.ext_getElem
    · simp [hbytes]
      omega
    · intro i hi hi'
      simp only [List.length_map, List.length_range] at hi'
      rw [List.getElem_take, List.getElem_drop, List.getElem_map, List.getElem_range]
      exact RingBuffer.getElem_toList _ _
  unfold aduAt peekAdu
  rw [be16_stream s (by omega), be16_stream s (by omega), byteAt_stream s (by omega), hpdu]

/-- **The parser sees the list.** -/
theorem parseRing_stream (callback : MbapAduFn γ) (passes : Nat) (s : MbapRing) (context : γ) :
    parseAvailable callback passes s.stream context =
      ((parseRing callback passes s context).1, (parseRing callback passes s context).2.1.stream,
        (parseRing callback passes s context).2.2) := by
  induction passes generalizing s context with
  | zero => rfl
  | succ passes ih =>
    have hbytes : s.stream.bytes.length = s.ring.count := RingBuffer.length_toList _
    unfold parseAvailable parseRing
    rw [hbytes]
    by_cases hheader : s.ring.count < mbapHeaderSize
    · rw [if_pos hheader, if_pos hheader]
    · rw [if_neg hheader, if_neg hheader]
      unfold mbapHeaderSize at hheader
      rw [be16_stream s (by omega), be16_stream s (by omega)]
      split
      · rfl
      by_cases hlength : s.ring.count < 6 + peekWord s 4
      · rw [if_pos hlength, if_pos hlength]
      · rw [if_neg hlength, if_neg hlength,
          aduAt_stream s (by unfold mbapHeaderSize; omega) (Nat.not_lt.mp hlength)]
        cases hcall : callback context (peekAdu s) with
        | mk result context' =>
          by_cases hzero : result = 0
          · subst hzero
            have hskip : ({ s.stream with
                bytes := s.stream.bytes.drop (6 + peekWord s 4) } : MbapStream) =
                ({ s with ring := s.ring.skip (6 + peekWord s 4) } : MbapRing).stream := by
              show ({ bytes := _, poisoned := _ } : MbapStream) = _
              rw [show s.stream.bytes.drop (6 + peekWord s 4) = _ from
                (RingBuffer.toList_skip s.ring _).symm]
              rfl
            simp only [hskip]
            exact ih _ _
          · -- a frame that is refused stays where it is
            simp

/-- **The ring is its list**: wherever the bytes lie, a feed is a feed of the list. -/
theorem mbapRingFeed_stream (s : MbapRing) (data : List UInt8) (callback : MbapAduFn γ)
    (context : γ) :
    mbapStreamFeed s.stream data callback context =
      ((mbapRingFeed s data callback context).1, (mbapRingFeed s data callback context).2.1.stream,
        (mbapRingFeed s data callback context).2.2) := by
  have hbytes : s.stream.bytes.length = s.ring.count := RingBuffer.length_toList _
  unfold mbapStreamFeed mbapRingFeed
  by_cases hpoisoned : s.poisoned = true
  · rw [if_pos hpoisoned, if_pos (show s.stream.poisoned = true from hpoisoned)]
  · rw [if_neg hpoisoned, if_neg (show ¬ s.stream.poisoned = true from hpoisoned), hbytes]
    by_cases hfits : data.length ≤ mbapRxCapacity - s.ring.count
    · rw [dif_pos hfits, if_neg (Nat.not_lt.mpr hfits)]
      have happend : ({ s.stream with bytes := s.stream.bytes ++ data } : MbapStream) =
          ({ s with ring := s.ring.append data hfits } : MbapRing).stream := by
        show ({ bytes := s.ring.toList ++ data, poisoned := _ } : MbapStream) = _
        rw [← RingBuffer.toList_append s.ring data hfits]
        rfl
      have hcount : (s.stream.bytes ++ data).length = (s.ring.append data hfits).count := by
        rw [List.length_append, hbytes]
        rfl
      rw [happend, hcount, parseRing_stream]
      dsimp only
      split
      · rfl
      · split <;> rfl
    · rw [dif_neg hfits, if_pos (Nat.not_le.mp hfits)]
      rfl

end FourVrs.Modbus
