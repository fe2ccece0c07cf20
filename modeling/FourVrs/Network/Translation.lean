import FourVrs.Modbus.Dispatcher
import FourVrs.Modbus.RtuFrames
import FourVrs.Network.UdpListener

/-!
# Requests to the line and responses back

A frame the MBAP parser delivers, or a datagram the UDP listener takes, becomes an RTU
frame and the transaction that carries it. Three pieces of code share the limits and the
layout: the probe on the line, the builders of the answers and the parser. Here they are
put together: whatever the probe takes for the response of such a transaction comes back
as one MBAP frame with the ids of the request.
-/

set_option autoImplicit false

namespace FourVrs.Network

open FourVrs.Core Modbus

variable {γ σ κ : Type}

/-! ## Requests -/

/-- The frame is the unit, the PDU and the CRC that goes with them. -/
structure RtuOf (unit : UInt8) (pdu rtu : List UInt8) : Prop where
  front : rtu.take (rtu.length - 2) = unit :: pdu
  crc : crcMatches rtu = true
  fits : rtu.length ≤ modbusRtuAduMax

theorem rtuOf_requestRtu {adu : MbapAdu} (h : adu.Sized) :
    RtuOf adu.unitId adu.pdu (requestRtu adu) := by
  obtain ⟨-, hmax⟩ := h
  have hlength : (requestRtu adu).length = (adu.unitId :: adu.pdu).length + 2 := length_crcAppend _
  refine ⟨?_, crcMatches_crcAppend _, ?_⟩
  · rw [hlength, Nat.add_sub_cancel]
    simp [requestRtu, crcAppend]
  · rw [hlength, List.length_cons]
    unfold mbapPduMax at hmax
    unfold modbusRtuAduMax
    omega

theorem byteAt_requestRtu {adu : MbapAdu} (h : adu.pdu ≠ []) :
    byteAt (requestRtu adu) 0 = adu.unitId ∧ byteAt (requestRtu adu) 1 = byteAt adu.pdu 0 := by
  refine ⟨rfl, ?_⟩
  cases hpdu : adu.pdu with
  | nil => exact absurd hpdu h
  | cons function rest =>
    unfold requestRtu
    rw [hpdu]
    rfl

/-- If the port runtime accepts `r`, what it accepts is a transaction for `rtu`. -/
theorem submit_carries (port : PortRuntime σ κ) {r : SubmitRequest} {tid : BitVec 16}
    {rtu : List UInt8} {epoch : BitVec 32} (hpayload : r.payload = rtu)
    (hmetadata : r.metadata = some (requestMetadata tid (byteAt rtu 0) (byteAt rtu 1) epoch)) :
    ∃ t, Carries t tid rtu ∧ ((portRuntimeSubmitOperation port r).1 = .accepted →
      (portRuntimeSubmitOperation port r).2.2.accepted = port.accepted ++ [t]) := by
  refine ⟨newTransaction port r, ⟨hpayload, epoch, ?_⟩, ?_⟩
  · show r.metadata.getD zeroTransaction.transportMetadata = _
    rw [hmetadata]
    rfl
  · intro haccepted
    rcases view_submit port r with ⟨-, -, hview⟩ | ⟨hrefused, -⟩
    · exact congrArg PortView.accepted hview
    · exact absurd haccepted hrefused

theorem tcpSubmit_passes {request : ModbusTcpRequest} (h : request.adu.Sized)
    (port : PortRuntime σ κ) (now queueTimeout responseTimeout : CoreTick) :
    modbusTcpSubmit port request now queueTimeout responseTimeout =
      ((portRuntimeSubmitOperation port
          (tcpSubmitRequest request now queueTimeout responseTimeout)).1,
        (portRuntimeSubmitOperation port
          (tcpSubmitRequest request now queueTimeout responseTimeout)).2.2) := by
  obtain ⟨hpdu, hmax⟩ := h
  have hpos : 0 < request.adu.pdu.length := List.length_pos_iff.mpr hpdu
  unfold modbusTcpSubmit
  unfold mbapPduMax at hmax
  unfold mbapPduMax modbusRtuAduMax
  rw [if_neg (by omega), if_neg (by omega)]

/-! ## Both ways -/

/-- What `modbus_tcp_submit` does with a frame, whichever client it is from. -/
structure TcpTranslates (σ κ : Type) (adu : MbapAdu) : Prop where
  payload : RtuOf adu.unitId adu.pdu (requestRtu adu)
  /-- The checks of the adapter let it through to the port runtime. -/
  passes : ∀ (request : ModbusTcpRequest), request.adu = adu → ∀ (port : PortRuntime σ κ)
    (now queueTimeout responseTimeout : CoreTick),
    ∃ r, r.payload = requestRtu adu ∧
      modbusTcpSubmit port request now queueTimeout responseTimeout =
        ((portRuntimeSubmitOperation port r).1, (portRuntimeSubmitOperation port r).2.2)
  accepted : ∀ (request : ModbusTcpRequest), request.adu = adu → ∀ (port : PortRuntime σ κ)
    (now queueTimeout responseTimeout : CoreTick),
    ∃ t, Carries t adu.transactionId (requestRtu adu) ∧
      ((modbusTcpSubmit port request now queueTimeout responseTimeout).1 = .accepted →
        (modbusTcpSubmit port request now queueTimeout responseTimeout).2.accepted =
          port.accepted ++ [t])
  answers : ∀ t, Carries t adu.transactionId (requestRtu adu) →
    Translates t adu.transactionId adu.unitId (byteAt adu.pdu 0)

theorem tcpTranslates {adu : MbapAdu} (h : adu.Sized) : TcpTranslates σ κ adu := by
  obtain ⟨hunit, hfunction⟩ := byteAt_requestRtu h.1
  refine ⟨rtuOf_requestRtu h, ?_, ?_, ?_⟩
  · intro request hadu port now queueTimeout responseTimeout
    subst hadu
    exact ⟨_, rfl, tcpSubmit_passes h port now queueTimeout responseTimeout⟩
  · intro request hadu port now queueTimeout responseTimeout
    subst hadu
    have hmetadata : (tcpSubmitRequest request now queueTimeout responseTimeout).metadata =
        some (requestMetadata request.adu.transactionId (byteAt (requestRtu request.adu) 0)
          (byteAt (requestRtu request.adu) 1) request.clientEpoch) := by
      rw [hunit, hfunction]
      rfl
    obtain ⟨t, hcarries, haccepted⟩ := submit_carries port
      (r := tcpSubmitRequest request now queueTimeout responseTimeout) rfl hmetadata
    refine ⟨t, hcarries, ?_⟩
    rw [tcpSubmit_passes h port now queueTimeout responseTimeout]
    exact haccepted
  · intro t hcarries
    have hboth := translates hcarries
    rw [hunit, hfunction] at hboth
    exact hboth

/-- What the UDP listener does with the request of a datagram. -/
structure UdpTranslates (σ : Type) (tid : BitVec 16) (rtu : List UInt8) : Prop where
  valid : requestValid rtu = true
  payload : RtuOf (byteAt rtu 0) (rtuPdu rtu) rtu
  accepted : ∀ (port : PortRuntime σ UdpListener) (i : PeerIndex) (now : CoreTick),
    (port.completionContext.peers i).tid = tid → (port.completionContext.peers i).rtu = rtu →
    ∃ t, Carries t tid rtu ∧
      ((portRuntimeSubmitOperation port (peerRequest port.completionContext i now)).1 =
          .accepted →
        (submitPeer port i now).accepted = port.accepted ++ [t])
  answers : ∀ t, Carries t tid rtu → Translates t tid (byteAt rtu 0) (byteAt rtu 1)

/-- A datagram that is decoded is a valid request with its CRC, and fits. -/
theorem decodeDatagram_some {rtuMode : Bool} {data rtu : List UInt8} {tid : BitVec 16}
    (h : decodeDatagram rtuMode data = some (tid, rtu)) :
    requestValid rtu = true ∧ crcMatches rtu = true ∧ rtu.length ≤ modbusRtuAduMax := by
  unfold decodeDatagram at h
  split at h
  · split at h
    · cases h
    rename_i hlength
    split at h
    · cases h
    rename_i hcrc
    split at h
    · cases h
    · rename_i hvalid
      cases h
      exact ⟨by simpa using hvalid, by simpa using hcrc, by omega⟩
  split at h
  · cases h
  rename_i hlength
  split at h
  · cases h
  · rename_i hvalid
    cases h
    refine ⟨by simpa using hvalid, crcMatches_crcAppend _, ?_⟩
    rw [length_crcAppend, List.length_drop]
    unfold mbapAduMax mbapHeaderSize mbapPduMax at hlength
    unfold modbusRtuAduMax
    omega

theorem requestValid_length {rtu : List UInt8} (h : requestValid rtu = true) : 8 ≤ rtu.length := by
  by_contra hshort
  unfold requestValid at h
  simp only at h
  rw [if_pos (.inl (by omega))] at h
  cases h

theorem udpTranslates {rtuMode : Bool} {data rtu : List UInt8} {tid : BitVec 16}
    (h : decodeDatagram rtuMode data = some (tid, rtu)) : UdpTranslates σ tid rtu := by
  obtain ⟨hvalid, hcrc, hmax⟩ := decodeDatagram_some h
  have hmin := requestValid_length hvalid
  refine ⟨hvalid, ⟨?_, hcrc, hmax⟩, ?_, fun t => translates⟩
  · cases rtu with
    | nil => simp at hmin
    | cons unit rest =>
      have hlength : (unit :: rest).length - 2 = (unit :: rest).length - 3 + 1 := by omega
      rw [hlength]
      rfl
  · intro port i now htid hrtu
    have hmetadata : (peerRequest port.completionContext i now).metadata =
        some (requestMetadata tid (byteAt rtu 0) (byteAt rtu 1)
          (port.completionContext.peers i).epoch) := by
      rw [← htid, ← hrtu]
      rfl
    obtain ⟨t, hcarries, haccepted⟩ := submit_carries port
      (r := peerRequest port.completionContext i now) hrtu hmetadata
    exact ⟨t, hcarries, haccepted⟩

/-- **Translation is faithful**: for every frame the parser delivers, from whatever pieces and
    whatever its callback answers, and for every datagram the UDP listener takes. -/
theorem translation_faithful :
    (∀ (callback : MbapAduFn γ) (own : γ) (chunks : List (List UInt8)),
        ∀ adu ∈ delivered callback own chunks, TcpTranslates σ κ adu) ∧
      (∀ (rtuMode : Bool) (data : List UInt8) (tid : BitVec 16) (rtu : List UInt8),
        decodeDatagram rtuMode data = some (tid, rtu) → UdpTranslates σ tid rtu) :=
  ⟨fun callback own chunks adu hadu => tcpTranslates (delivered_sized callback own chunks adu hadu),
    fun _ _ _ _ => udpTranslates⟩

/-- A read of two registers, as a TCP client and as a UDP client in RTU mode send it. -/
def readTwo : MbapAdu := { transactionId := 0x0102, unitId := 17, pdu := [3, 0, 0, 0, 2] }

theorem translation_faithful_readTwo :
    TcpTranslates Unit Unit readTwo ∧ UdpTranslates Unit 0 (requestRtu readTwo) :=
  ⟨(translation_faithful (σ := Unit) (κ := Unit)).1 takeAll () [encodeAdu readTwo] readTwo
      (by decide +kernel),
    (translation_faithful (γ := Unit) (κ := Unit)).2 true (requestRtu readTwo) 0 _
      (by decide +kernel)⟩

end FourVrs.Network
