import FourVrs.Modbus.MbapChunks

/-!
# One response, from the line to the client

`modbus_rtu_frame_probe` decides where the response of a device ends. A byte string it
calls complete is `CompleteResponse`: the unit of the request, its function code or that
with the exception bit, the length that goes with it, and a CRC that matches. Nothing
shorter and nothing longer is complete for the same request (`probe_front`,
`probe_longer`), so there is one length a response can have.

`modbus_tcp_build_response` turns such a string into a frame the MBAP parser reads as
one frame, with no byte left (`oneFrame_response`).
-/

set_option autoImplicit false

namespace FourVrs.Modbus

open FourVrs.Core Uart

/-! ## The CRC -/

theorem length_crcAppend (data : List UInt8) : (crcAppend data).length = data.length + 2 := by
  simp [crcAppend]

/-- The low and the high byte spell the word. -/
theorem toNat_bytes {word : Nat} (h : word < 2 ^ 16) :
    (UInt8.ofNat word).toNat + (highByte word).toNat * 256 = word := by
  simp only [highByte, UInt8.toNat_ofNat']
  omega

theorem crcMatches_crcAppend (data : List UInt8) : crcMatches (crcAppend data) = true := by
  have hlength : (crcAppend data).length = data.length + 2 := length_crcAppend data
  have hfront : (crcAppend data).take data.length = data := by simp [crcAppend]
  have hlow : byteAt (crcAppend data) data.length = UInt8.ofNat (modbusCrc16 data).toNat := by
    simp [byteAt, crcAppend]
  have hhigh : byteAt (crcAppend data) (data.length + 1) = highByte (modbusCrc16 data).toNat := by
    simp [byteAt, crcAppend]
  unfold crcMatches
  rw [hlength, Nat.add_sub_cancel, hfront, show data.length + 2 - 1 = data.length + 1 from rfl,
    hlow, hhigh, toNat_bytes (modbusCrc16 data).isLt]
  exact decide_eq_true rfl

/-- A frame is its front and two bytes. -/
theorem front_append_last {data : List UInt8} (hlength : 2 ≤ data.length) :
    data.take (data.length - 2) ++
      [byteAt data (data.length - 2), byteAt data (data.length - 1)] = data := by
  have hlast : data.drop (data.length - 2) =
      [byteAt data (data.length - 2), byteAt data (data.length - 1)] := by
    rw [List.drop_eq_getElem_cons (by omega), List.drop_eq_getElem_cons (by omega),
      List.drop_eq_nil_of_le (by omega)]
    have hnext : data.length - 2 + 1 = data.length - 1 := by omega
    simp only [hnext]
    unfold byteAt
    rw [List.getD_eq_getElem?_getD, List.getD_eq_getElem?_getD, List.getElem?_eq_getElem (by omega),
      List.getElem?_eq_getElem (by omega)]
    rfl
  rw [← hlast, List.take_append_drop]

/-- A frame whose CRC matches is its front, closed by the CRC. -/
theorem crcAppend_of_crcMatches {data : List UInt8} (hlength : 2 ≤ data.length)
    (h : crcMatches data = true) : crcAppend (data.take (data.length - 2)) = data := by
  have hcrc := of_decide_eq_true h
  generalize hword : (modbusCrc16 (data.take (data.length - 2))).toNat = word at hcrc
  have hlow : UInt8.ofNat word = byteAt data (data.length - 2) := by
    have hbyte := (byteAt data (data.length - 2)).toNat_lt
    apply UInt8.toNat_inj.mp
    rw [UInt8.toNat_ofNat']
    omega
  have hhigh : highByte word = byteAt data (data.length - 1) := by
    have hbyte := (byteAt data (data.length - 2)).toNat_lt
    have hbyte' := (byteAt data (data.length - 1)).toNat_lt
    apply UInt8.toNat_inj.mp
    rw [highByte, UInt8.toNat_ofNat']
    omega
  unfold crcAppend
  rw [hword, hlow, hhigh, front_append_last hlength]

/-! ## Complete responses -/

/-- The frames the probe takes for the response to `request`. -/
structure CompleteResponse (request response : List UInt8) : Prop where
  sizes : 4 ≤ request.length ∧ request.length ≤ modbusRtuAduMax
  unit : byteAt response 0 = byteAt request 0
  length : modbusRtuExpectedLength request response = .ok response.length
  crc : crcMatches response = true

variable {request response : List UInt8}

theorem expectedLength_ok {expected : Nat} (h : modbusRtuExpectedLength request response = .ok expected) :
    5 ≤ expected ∧ expected ≤ modbusRtuAduMax ∧
      (byteAt response 1 = byteAt request 1 ∨ byteAt response 1 = byteAt request 1 ||| 0x80) := by
  unfold modbusRtuExpectedLength at h
  simp only at h
  unfold modbusRtuAduMax at *
  split at h
  · rename_i hexception
    cases h
    exact ⟨by omega, by omega, .inr hexception⟩
  split at h
  · cases h
  · rename_i hfunction
    have hsame : byteAt response 1 = byteAt request 1 := not_not.mp hfunction
    split at h
    · split at h
      · cases h
      split at h
      · cases h
      · cases h
        exact ⟨by omega, by omega, .inl hsame⟩
    split at h
    · cases h
      exact ⟨by omega, by omega, .inl hsame⟩
    · cases h

/-- Past the checks of the probe. -/
theorem probe_checked (hrequest : 4 ≤ request.length ∧ request.length ≤ modbusRtuAduMax)
    (hlength : 2 ≤ response.length ∧ response.length ≤ modbusRtuAduMax)
    (hunit : byteAt response 0 = byteAt request 0) :
    (modbusRtuFrameProbe request response).1 =
      match modbusRtuExpectedLength request response with
      | .error result => result
      | .ok expected =>
          if response.length < expected then .incomplete
          else if response.length ≠ expected then .malformed
          else if !crcMatches response then .malformed
          else .complete := by
  unfold modbusRtuFrameProbe
  rw [if_neg (by omega), if_neg (by omega), if_neg (not_not.mpr hunit)]
  cases modbusRtuExpectedLength request response with
  | error result => rfl
  | ok expected =>
    simp only
    split
    · rfl
    · split
      · rfl
      · split <;> rfl

theorem expectedLength_error {result : UartFrameResult}
    (h : modbusRtuExpectedLength request response = .error result) : result ≠ .complete := by
  unfold modbusRtuExpectedLength at h
  simp only at h
  split_ifs at h <;> cases h <;> exact UartFrameResult.noConfusion

/-- The length the probe gives for a complete response is that of the response. -/
theorem probe_complete (h : CompleteResponse request response) :
    modbusRtuFrameProbe request response = (.complete, response.length) := by
  obtain ⟨hmin, hmax, -⟩ := expectedLength_ok h.length
  obtain ⟨hrequest, hunit, hexpected, hcrc⟩ := h
  unfold modbusRtuFrameProbe
  rw [if_neg (by omega), if_neg (by omega), if_neg (not_not.mpr hunit), hexpected]
  simp [hcrc]

theorem probe_complete_iff (request response : List UInt8) :
    (modbusRtuFrameProbe request response).1 = .complete ↔ CompleteResponse request response := by
  constructor
  · intro h
    have hchecks : (4 ≤ request.length ∧ request.length ≤ modbusRtuAduMax) ∧
        (2 ≤ response.length ∧ response.length ≤ modbusRtuAduMax) ∧
        byteAt response 0 = byteAt request 0 := by
      unfold modbusRtuFrameProbe at h
      split at h
      · cases h
      split at h
      · cases h
      split at h
      · cases h
      · rename_i hlengths hshort hunit
        exact ⟨by omega, by omega, not_not.mp hunit⟩
    obtain ⟨hrequest, hlength, hunit⟩ := hchecks
    rw [probe_checked hrequest hlength hunit] at h
    cases hexpected : modbusRtuExpectedLength request response with
    | error result =>
      rw [hexpected] at h
      exact absurd h (expectedLength_error hexpected)
    | ok expected =>
      rw [hexpected] at h
      simp only at h
      split at h
      · cases h
      split at h
      · cases h
      rename_i hsame
      split at h
      · cases h
      · rename_i hcrc
        have heq : expected = response.length := (not_not.mp hsame).symm
        exact ⟨hrequest, hunit, by rw [hexpected, heq], by simpa using hcrc⟩
  · intro h
    rw [probe_complete h]

/-- The length of a response is settled by its first three bytes. -/
theorem expectedLength_append {request front : List UInt8} (more : List UInt8)
    (h : 3 ≤ front.length) :
    modbusRtuExpectedLength request (front ++ more) = modbusRtuExpectedLength request front := by
  have hlong : ¬ (front ++ more).length < 3 := by
    rw [List.length_append]
    omega
  unfold modbusRtuExpectedLength
  simp only [byteAt_append more (show 1 < front.length by omega),
    byteAt_append more (show 2 < front.length by omega), if_neg hlong,
    if_neg (show ¬ front.length < 3 by omega)]

/-- With two bytes the length is not settled yet, or it is the one of the whole. -/
theorem expectedLength_two {request front more : List UInt8} {expected : Nat}
    (h : front.length = 2)
    (hwhole : modbusRtuExpectedLength request (front ++ more) = .ok expected) :
    modbusRtuExpectedLength request front = .error .incomplete ∨
      modbusRtuExpectedLength request front = .ok expected := by
  have hone : byteAt (front ++ more) 1 = byteAt front 1 := byteAt_append more (by omega)
  unfold modbusRtuExpectedLength at *
  simp only [hone] at *
  split
  · rename_i hexception
    rw [if_pos hexception] at hwhole
    exact .inr hwhole
  · rename_i hexception
    rw [if_neg hexception] at hwhole
    split
    · rename_i hother
      rw [if_pos hother] at hwhole
      cases hwhole
    · rename_i hsame
      rw [if_neg hsame] at hwhole
      split
      · rw [if_pos (by omega)]
        exact .inl rfl
      · rename_i hread
        rw [if_neg hread] at hwhole
        exact .inr hwhole

/-- **Nothing shorter** than a complete response is taken for anything. -/
theorem probe_front {request front more : List UInt8}
    (h : CompleteResponse request (front ++ more)) (hmore : more ≠ []) :
    (modbusRtuFrameProbe request front).1 = .incomplete := by
  have hpos : 0 < more.length := List.length_pos_iff.mpr hmore
  have hlength : (front ++ more).length = front.length + more.length := List.length_append
  obtain ⟨-, hmax, -⟩ := expectedLength_ok h.length
  rw [hlength] at hmax
  obtain ⟨hrequest, hunit, hexpected, -⟩ := h
  by_cases hshort : front.length < 2
  · unfold modbusRtuFrameProbe
    rw [if_neg (by omega), if_pos hshort]
  · have hfront : byteAt front 0 = byteAt request 0 := by
      rw [← byteAt_append more (show 0 < front.length by omega)]
      exact hunit
    rw [probe_checked hrequest ⟨by omega, by omega⟩ hfront]
    have hknown : modbusRtuExpectedLength request front = .error .incomplete ∨
        modbusRtuExpectedLength request front = .ok (front ++ more).length := by
      by_cases htwo : front.length = 2
      · exact expectedLength_two htwo hexpected
      · rw [← expectedLength_append more (by omega)]
        exact .inr hexpected
    rcases hknown with hknown | hknown
    · rw [hknown]
    · rw [hknown]
      simp only
      rw [if_pos (by omega)]

/-- **Nothing longer** is taken for a response. -/
theorem probe_longer {request response more : List UInt8} (h : CompleteResponse request response)
    (hmore : more ≠ []) : (modbusRtuFrameProbe request (response ++ more)).1 = .malformed := by
  have hpos : 0 < more.length := List.length_pos_iff.mpr hmore
  have hlength : (response ++ more).length = response.length + more.length := List.length_append
  obtain ⟨hmin, hmax, -⟩ := expectedLength_ok h.length
  obtain ⟨hrequest, hunit, hexpected, -⟩ := h
  by_cases hlong : (response ++ more).length > modbusRtuAduMax
  · unfold modbusRtuFrameProbe
    rw [if_pos (.inr (.inr hlong))]
  · have hfront : byteAt (response ++ more) 0 = byteAt request 0 := by
      rw [byteAt_append more (by omega)]
      exact hunit
    rw [probe_checked hrequest ⟨by omega, by omega⟩ hfront, expectedLength_append more (by omega),
      hexpected]
    simp only
    rw [if_neg (by omega), if_pos (by omega)]

/-! ## One frame for the parser -/

variable {adu : MbapAdu}

/-- A frame whose PDU is not empty and not too long is read back. -/
theorem frameHead_encodeAdu (hpdu : adu.pdu ≠ []) (hmax : adu.pdu.length ≤ mbapPduMax) :
    frameHead (encodeAdu adu) = .complete (encodeAdu adu).length ∧ aduAt (encodeAdu adu) = adu := by
  have hpos : 0 < adu.pdu.length := List.length_pos_iff.mpr hpdu
  have hlength : (encodeAdu adu).length = 7 + adu.pdu.length := by
    simp [encodeAdu]
    omega
  unfold mbapPduMax at hmax
  have hfield : be16 (encodeAdu adu) 4 = 1 + adu.pdu.length := by
    have hbytes := @toNat_bytes (1 + adu.pdu.length) (by omega)
    show (highByte (1 + adu.pdu.length)).toNat * 256 + (UInt8.ofNat (1 + adu.pdu.length)).toNat = _
    omega
  have htransaction : be16 (encodeAdu adu) 0 = adu.transactionId.toNat := by
    have hbytes := toNat_bytes adu.transactionId.isLt
    show (highByte adu.transactionId.toNat).toNat * 256 +
      (UInt8.ofNat adu.transactionId.toNat).toNat = _
    omega
  have hprotocol : be16 (encodeAdu adu) 2 = 0 := by simp [be16, byteAt, encodeAdu]
  constructor
  · unfold frameHead
    rw [hlength, hfield, hprotocol]
    unfold mbapHeaderSize mbapLengthMin mbapLengthMax
    rw [if_neg (by omega), if_neg (by omega), if_neg (by omega),
      show 6 + (1 + adu.pdu.length) = 7 + adu.pdu.length by omega]
  · unfold aduAt
    rw [htransaction, hfield, BitVec.ofNat_toNat, BitVec.setWidth_eq]
    have hdrop : (encodeAdu adu).drop 7 = adu.pdu := rfl
    rw [hdrop, Nat.add_sub_cancel_left, List.take_length]
    rfl

theorem parseWhole_encodeAdu (hpdu : adu.pdu ≠ []) (hmax : adu.pdu.length ≤ mbapPduMax) :
    parseWhole (encodeAdu adu) = ([adu], some []) := by
  obtain ⟨hhead, hadu⟩ := frameHead_encodeAdu hpdu hmax
  rw [parseWhole_eq, hhead, hadu]
  simp only [List.drop_length]
  rfl

/-- The parser takes `data` for the one frame `adu`, and keeps nothing. -/
structure OneFrame (data : List UInt8) (adu : MbapAdu) : Prop where
  ok : ∀ {γ : Type} (callback : MbapAduFn γ) (own : γ), Accepts callback →
    (feedAll (recordingFrames callback) ([], own) [data]).1 = .ok
  frames : ∀ {γ : Type} (callback : MbapAduFn γ) (own : γ), Accepts callback →
    (feedAll (recordingFrames callback) ([], own) [data]).2.2.1 = [adu]
  rest : ∀ {γ : Type} (callback : MbapAduFn γ) (own : γ), Accepts callback →
    (feedAll (recordingFrames callback) ([], own) [data]).2.1.ring.toList = []

theorem oneFrame_encodeAdu (hpdu : adu.pdu ≠ []) (hmax : adu.pdu.length ≤ mbapPduMax) :
    OneFrame (encodeAdu adu) adu := by
  have hlength : (encodeAdu adu).length = 7 + adu.pdu.length := by
    simp [encodeAdu]
    omega
  unfold mbapPduMax at hmax
  have hfed : ∀ {γ : Type} (callback : MbapAduFn γ) (own : γ), Accepts callback →
      (feedAll (recordingFrames callback) ([], own) [encodeAdu adu]).1 = .ok ∧
        (feedAll (recordingFrames callback) ([], own) [encodeAdu adu]).2.2.1 = [adu] ∧
        (feedAll (recordingFrames callback) ([], own) [encodeAdu adu]).2.1.ring.toList = [] := by
    intro γ callback own haccepts
    have hfits : Fits (recordingFrames callback) ([], own) [encodeAdu adu] := by
      refine ⟨.inr ?_, trivial⟩
      have hempty : (mbapRingInit).ring.count = 0 := rfl
      show (encodeAdu adu).length ≤ mbapRxCapacity - mbapRingInit.ring.count
      rw [hempty, hlength]
      unfold mbapRxCapacity mbapAduMax mbapHeaderSize mbapPduMax
      omega
    obtain ⟨rest, hrest⟩ := fed_feedAll callback own hfits
    have horder := hrest.inOrder
    have hwhole : parseWhole [encodeAdu adu].flatten = ([adu], some []) := by
      rw [List.flatten_singleton]
      exact parseWhole_encodeAdu hpdu hmax
    have hnever := feedAll_accepts haccepts own [encodeAdu adu]
    cases hverdict : (feedAll (recordingFrames callback) ([], own) [encodeAdu adu]).1 with
    | overflow => exact absurd hverdict horder.fits
    | stopped => exact absurd hverdict hnever
    | malformed =>
      have hboth := hwhole.symm.trans (horder.malformed hverdict)
      cases congrArg Prod.snd hboth
    | ok =>
      have hboth := hwhole.symm.trans (horder.ok hverdict)
      simp only [Prod.mk.injEq, Option.some.injEq] at hboth
      exact ⟨rfl, hboth.1.symm, hboth.2.symm⟩
  exact ⟨fun callback own h => (hfed callback own h).1,
    fun callback own h => (hfed callback own h).2.1,
    fun callback own h => (hfed callback own h).2.2⟩

/-! ## Answers -/

/-- The transaction of the request `rtu` that came with transaction id `tid`. -/
structure Carries (t : CoreTransaction) (tid : BitVec 16) (rtu : List UInt8) : Prop where
  payload : t.payload = rtu
  metadata : ∃ epoch, t.transportMetadata = requestMetadata tid (byteAt rtu 0) (byteAt rtu 1) epoch

theorem Carries.transactionId {t : CoreTransaction} {tid : BitVec 16} {rtu : List UInt8}
    (h : Carries t tid rtu) : metaTransactionId t = tid.toNat := by
  obtain ⟨epoch, hmetadata⟩ := h.metadata
  have hsmall : tid.toNat < 2 ^ 16 := tid.isLt
  simp only [metaTransactionId, hmetadata, requestMetadata, List.getD_cons_zero,
    BitVec.toNat_setWidth]
  omega

theorem Carries.unitFunction {t : CoreTransaction} {tid : BitVec 16} {rtu : List UInt8}
    (h : Carries t tid rtu) :
    metaUnitFunction t = (byteAt rtu 0).toNat * 256 + (byteAt rtu 1).toNat := by
  obtain ⟨epoch, hmetadata⟩ := h.metadata
  have hunit : (byteAt rtu 0).toNat < 256 := (byteAt rtu 0).toNat_lt
  have hfunction : (byteAt rtu 1).toNat < 256 := (byteAt rtu 1).toNat_lt
  simp only [metaUnitFunction, hmetadata, requestMetadata, List.getD_cons_succ,
    List.getD_cons_zero, BitVec.toNat_ofNat]
  omega

/-- The PDU of an RTU frame: what is between the unit and the CRC. -/
def rtuPdu (rtu : List UInt8) : List UInt8 := (rtu.drop 1).take (rtu.length - 3)

/-- `modbus_tcp_build_gateway_exception` with its checks. -/
def modbusTcpBuildGatewayExceptionChecked (t : CoreTransaction) (exceptionCode : UInt8)
    (capacity : Nat) : Except Int (List UInt8) :=
  if capacity < 9 ∨ (exceptionCode ≠ modbusExceptionGatewayPathUnavailable ∧
      exceptionCode ≠ modbusExceptionGatewayTargetNoResponse) then .error (-1)
  else .ok (modbusTcpBuildGatewayException t exceptionCode)

section Answers

variable {t : CoreTransaction} {tid : BitVec 16} {rtu : List UInt8}

theorem length_rtuPdu {request response : List UInt8} (h : CompleteResponse request response) :
    (rtuPdu response).length = response.length - 3 := by
  obtain ⟨hmin, -, -⟩ := expectedLength_ok h.length
  rw [rtuPdu, List.length_take, List.length_drop]
  omega

/-- The builder takes what the probe calls complete. -/
theorem buildResponse_complete (h : Carries t tid rtu) {response : List UInt8}
    (hcomplete : CompleteResponse t.payload response) :
    modbusTcpBuildResponse t response mbapAduMax =
      .ok (encodeAdu { transactionId := tid, unitId := byteAt rtu 0, pdu := rtuPdu response }) := by
  obtain ⟨hmin, hmax, hfunction⟩ := expectedLength_ok hcomplete.length
  have hpdu := length_rtuPdu hcomplete
  have hunit : byteAt response 0 = byteAt rtu 0 := by
    rw [hcomplete.unit, h.payload]
  rw [h.payload] at hfunction
  have hanswer : ¬ (byteAt response 1 ≠ byteAt rtu 1 ∧
      byteAt response 1 ≠ byteAt rtu 1 ||| 0x80) := by
    rintro ⟨hplain, hexception⟩
    rcases hfunction with hsame | hbit
    · exact hplain hsame
    · exact hexception hbit
  have hroom : ¬ mbapHeaderSize + (response.length - 3) > mbapAduMax := by
    unfold mbapAduMax mbapHeaderSize mbapPduMax
    unfold modbusRtuAduMax at hmax
    omega
  unfold modbusTcpBuildResponse
  rw [h.unitFunction, highByte_be16, lowByte_be16, h.transactionId]
  simp only
  rw [if_neg (by omega), hcomplete.crc, if_neg (by decide), if_neg (not_not.mpr hunit),
    if_neg hanswer, if_neg hroom, hunit]
  unfold encodeAdu
  simp only
  rw [hpdu]
  rfl

/-- The exception frame is one for the parser, too. -/
theorem buildException_frame (h : Carries t tid rtu) (code : UInt8) :
    modbusTcpBuildGatewayException t code =
      encodeAdu { transactionId := tid, unitId := byteAt rtu 0, pdu := [byteAt rtu 1 ||| 0x80, code] } := by
  have hhigh : highByte (1 + [byteAt rtu 1 ||| 0x80, code].length) = 0 := by
    simp [highByte]
  unfold modbusTcpBuildGatewayException encodeAdu
  rw [h.unitFunction, highByte_be16, lowByte_be16, h.transactionId]
  simp only
  rw [hhigh]
  rfl

/-- What comes back for a transaction is one frame with the request's ids. -/
structure Translates (t : CoreTransaction) (tid : BitVec 16) (unit function : UInt8) : Prop where
  response : ∀ response, (modbusRtuFrameProbe t.payload response).1 = .complete →
    ∃ data, modbusTcpBuildResponse t response mbapAduMax = .ok data ∧
      OneFrame data { transactionId := tid, unitId := unit, pdu := rtuPdu response }
  /-- A complete response is its unit, its PDU and its CRC, and nothing else. -/
  whole : ∀ response, (modbusRtuFrameProbe t.payload response).1 = .complete →
    response = crcAppend (unit :: rtuPdu response)
  exception : ∀ code, code = modbusExceptionGatewayPathUnavailable ∨
      code = modbusExceptionGatewayTargetNoResponse →
    ∃ data, modbusTcpBuildGatewayExceptionChecked t code mbapAduMax = .ok data ∧
      OneFrame data { transactionId := tid, unitId := unit, pdu := [function ||| 0x80, code] }

/-- Unit, PDU and CRC are the whole of a complete response. -/
theorem crcAppend_rtuPdu (h : Carries t tid rtu) {response : List UInt8}
    (hcomplete : CompleteResponse t.payload response) :
    crcAppend (byteAt rtu 0 :: rtuPdu response) = response := by
  obtain ⟨hmin, -, -⟩ := expectedLength_ok hcomplete.length
  have hunit : byteAt response 0 = byteAt rtu 0 := by
    rw [hcomplete.unit, h.payload]
  have hfront : byteAt rtu 0 :: rtuPdu response = response.take (response.length - 2) := by
    cases response with
    | nil => simp at hmin
    | cons unit rest =>
      have hlength : (unit :: rest).length - 2 = (unit :: rest).length - 3 + 1 := by omega
      rw [hlength, List.take_succ_cons, ← hunit]
      rfl
  rw [hfront]
  exact crcAppend_of_crcMatches (by omega) hcomplete.crc

theorem translates (h : Carries t tid rtu) :
    Translates t tid (byteAt rtu 0) (byteAt rtu 1) := by
  refine ⟨?_, ?_, ?_⟩
  · intro response hprobe
    have hcomplete := (probe_complete_iff t.payload response).mp hprobe
    obtain ⟨hmin, hmax, -⟩ := expectedLength_ok hcomplete.length
    have hpdu := length_rtuPdu hcomplete
    unfold modbusRtuAduMax at hmax
    refine ⟨_, buildResponse_complete h hcomplete, oneFrame_encodeAdu ?_ ?_⟩
    · apply List.ne_nil_of_length_pos
      show 0 < (rtuPdu response).length
      omega
    · show (rtuPdu response).length ≤ mbapPduMax
      unfold mbapPduMax
      omega
  · intro response hprobe
    exact (crcAppend_rtuPdu h ((probe_complete_iff t.payload response).mp hprobe)).symm
  · intro code hcode
    refine ⟨modbusTcpBuildGatewayException t code, ?_, ?_⟩
    · have hroom : ¬ mbapAduMax < 9 := by decide
      unfold modbusTcpBuildGatewayExceptionChecked
      rw [if_neg]
      rintro (hsmall | ⟨hpath, htarget⟩)
      · exact hroom hsmall
      · rcases hcode with hcode | hcode
        · exact hpath hcode
        · exact htarget hcode
    · rw [buildException_frame h code]
      exact oneFrame_encodeAdu (List.cons_ne_nil _ _) (show 2 ≤ mbapPduMax by decide)

end Answers

/-! ## The frames the parser delivers -/

variable {γ : Type}

/-- The callback, keeping a list of the frames it is offered. -/
def offeringFrames (callback : MbapAduFn γ) : MbapAduFn (List MbapAdu × γ) := fun context adu =>
  ((callback context.2 adu).1, context.1 ++ [adu], (callback context.2 adu).2)

/-- The frames the parser delivers for a stream fed piece by piece. -/
def delivered (callback : MbapAduFn γ) (own : γ) (chunks : List (List UInt8)) : List MbapAdu :=
  (feedAll (offeringFrames callback) ([], own) chunks).2.2.1

/-- The PDU is not empty and fits a frame. -/
def MbapAdu.Sized (adu : MbapAdu) : Prop := adu.pdu ≠ [] ∧ adu.pdu.length ≤ mbapPduMax

theorem sized_aduAt {bytes : List UInt8} {length : Nat} (h : frameHead bytes = .complete length) :
    (aduAt bytes).Sized := by
  obtain ⟨hlength, hmin, hmax, hthere, -⟩ := frameHead_complete h
  have hpdu : (aduAt bytes).pdu.length = length - 7 := by
    unfold aduAt
    rw [List.length_take, List.length_drop]
    omega
  unfold mbapAduMax mbapHeaderSize mbapPduMax at hmax
  constructor
  · apply List.ne_nil_of_length_pos
    omega
  · unfold mbapPduMax
    omega

theorem parseAvailable_offers (callback : MbapAduFn γ) (passes : Nat) (stream : MbapStream)
    {context : List MbapAdu × γ} (h : ∀ adu ∈ context.1, adu.Sized) :
    ∀ adu ∈ (parseAvailable (offeringFrames callback) passes stream context).2.2.1, adu.Sized := by
  induction passes generalizing stream context with
  | zero => exact h
  | succ passes ih =>
    cases hhead : frameHead stream.bytes with
    | unfinished =>
      rw [parseAvailable_head, hhead]
      exact h
    | malformed =>
      rw [parseAvailable_head, hhead]
      exact h
    | complete length =>
      have hoffered : ∀ adu ∈ context.1 ++ [aduAt stream.bytes], adu.Sized := by
        intro adu hadu
        rcases List.mem_append.mp hadu with hadu | hadu
        · exact h adu hadu
        · rw [List.mem_singleton.mp hadu]
          exact sized_aduAt hhead
      cases hcall : callback context.2 (aduAt stream.bytes) with
      | mk result own =>
        have hcall' : offeringFrames callback context (aduAt stream.bytes) =
            (result, context.1 ++ [aduAt stream.bytes], own) := by
          unfold offeringFrames
          rw [hcall]
        by_cases hzero : result = 0
        · subst hzero
          rw [parseAvailable_taken passes hhead hcall']
          exact ih _ hoffered
        · rw [parseAvailable_refused passes hhead hcall' hzero]
          exact hoffered

theorem delivered_sized (callback : MbapAduFn γ) (own : γ) (chunks : List (List UInt8)) :
    ∀ adu ∈ delivered callback own chunks, adu.Sized := by
  have hrun : ∀ (chunks : List (List UInt8)) (s : Feeding (List MbapAdu × γ)),
      (∀ adu ∈ s.2.2.1, adu.Sized) →
      ∀ adu ∈ (chunks.foldl (feed (offeringFrames callback)) s).2.2.1, adu.Sized := by
    intro chunks
    induction chunks with
    | nil => intro s h; exact h
    | cons data chunks ih =>
      intro s h
      apply ih
      obtain ⟨verdict, ring, context⟩ := s
      have hring := mbapRingFeed_stream ring data (offeringFrames callback) context
      have hcontext := congrArg (fun out => out.2.2.1) hring
      show ∀ adu ∈ (mbapRingFeed ring data (offeringFrames callback) context).2.2.1, adu.Sized
      rw [← hcontext]
      simp only [mbapStreamFeed]
      split
      · exact h
      split
      · exact h
      · have hoffers := parseAvailable_offers callback (ring.stream.bytes ++ data).length
          { ring.stream with bytes := ring.stream.bytes ++ data } h
        split <;> try split
        all_goals exact hoffers
  exact hrun chunks _ (fun adu hadu => absurd hadu List.not_mem_nil)

end FourVrs.Modbus
