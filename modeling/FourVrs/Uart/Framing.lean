import FourVrs.Modbus.RtuFrames

/-!
# A response, read in pieces (`backend_poll`)

The device delivers a response as it pleases: a read brings up to 64 bytes, or none, or
fails with a temporary error. After every read that brought something the backend asks
the probe whether the bytes so far are a frame.

`reports_pieces` says what a run of polls reports. As long as the bytes are a proper part
of a response nothing is reported, whatever the cuts; the read that completes it reports
it, and one that brings more than it reports a malformed frame.
-/

set_option autoImplicit false

namespace FourVrs.Uart

open FourVrs.Core Modbus

variable {η : Type}

/-! ## Polls -/

/-- The read a poll makes: its result, the bytes stored and the world after it. -/
def readCall (uart : UartBackend η) : Int × List UInt8 × η :=
  uart.sys.readFn uart.sysContext uart.fd (min (uartRxCapacity - uart.rx.length) uartIoBudget)

/-- The bytes it brings. -/
def readBytes (uart : UartBackend η) : List UInt8 :=
  if 0 < (readCall uart).1 then (readCall uart).2.1 else []

/-- It succeeds, with bytes or without, or fails with a temporary error. -/
def ReadsQuietly (uart : UartBackend η) : Prop :=
  0 ≤ (readCall uart).1 ∨ temporaryError (uart.sys.lastErrorFn (readCall uart).2.2) = true

/-- The backend after one poll. -/
def polled (uart : UartBackend η) (now : CoreTick) : UartBackend η := (backendPoll uart now).2.2

/-- What the polls report: the result and the event of each. -/
def reports (uart : UartBackend η) : List CoreTick → List (Int × BackendEvent)
  | [] => []
  | now :: nows =>
      ((backendPoll uart now).1, (backendPoll uart now).2.1) :: reports (polled uart now) nows

/-- The bytes their reads bring, all together. -/
def deliveredBytes (uart : UartBackend η) : List CoreTick → List UInt8
  | [] => []
  | now :: nows => readBytes uart ++ deliveredBytes (polled uart now) nows

/-- None of their reads fails for good. -/
def Quiet (uart : UartBackend η) : List CoreTick → Prop
  | [] => True
  | now :: nows => ReadsQuietly uart ∧ Quiet (polled uart now) nows

/-! ## A transaction on the line -/

/-- The backend waits for the response to `request`, which has been transmitted. -/
structure Waiting (uart : UartBackend η) (request : List UInt8) : Prop where
  isOpen : 0 ≤ uart.fd
  working : uart.activeGeneration ≠ 0
  written : uart.txLength ≤ uart.txOffset
  transmitted : uart.transmitReported = true
  direction : uart.operation.direction = .txThenRx
  policy : uart.operation.responsePolicy = .backendFramed
  probe : uart.frameProbe = some modbusRtuFrameProbe
  request : uart.tx.take uart.txLength = request

/-- The backend is still writing `request`. -/
structure Sending (uart : UartBackend η) (request : List UInt8) : Prop where
  isOpen : 0 ≤ uart.fd
  working : uart.activeGeneration ≠ 0
  silent : uart.transmitReported = false
  direction : uart.operation.direction = .txThenRx
  policy : uart.operation.responsePolicy = .backendFramed
  probe : uart.frameProbe = some modbusRtuFrameProbe
  request : uart.tx.take uart.txLength = request
  empty : uart.rx = []

theorem sending_start {uart : UartBackend η} {t : CoreTransaction} (now : CoreTick)
    (hgeneration : t.generation ≠ 0) (hdirection : t.operation.direction = .txThenRx)
    (hpolicy : t.operation.responsePolicy = .backendFramed)
    (hprobe : uart.frameProbe = some modbusRtuFrameProbe)
    (hstart : (backendStart uart t now).1 = 0) :
    Sending (backendStart uart t now).2 t.payload := by
  unfold backendStart at *
  split at hstart
  · cases hstart
  · rename_i hchecks
    rw [if_neg hchecks]
    split at hstart
    · cases hstart
    · rename_i hframed
      rw [if_neg hframed]
      refine ⟨?_, hgeneration, rfl, hdirection, hpolicy, hprobe, ?_, rfl⟩
      · show 0 ≤ uart.fd
        omega
      · show t.payload.take (if t.operation.direction = .rxOnly then 0 else t.payload.length) = _
        rw [hdirection, if_neg (by decide), List.take_length]

/-- A poll writes on, or reports that everything is written. -/
theorem sending_poll {uart : UartBackend η} {request : List UInt8} (h : Sending uart request)
    (now : CoreTick) :
    (backendPoll uart now).2.1.type ≠ .transmitted ∧ Sending (polled uart now) request ∨
      (backendPoll uart now).2.1.type = .transmitted ∧
        Waiting (polled uart now) request ∧ (polled uart now).rx = [] := by
  obtain ⟨hopen, hworking, hsilent, hdirection, hpolicy, hprobe, hrequest, hempty⟩ := h
  have hopen' : ¬ uart.fd < 0 := Int.not_lt.mpr hopen
  unfold polled backendPoll
  rw [if_neg hopen', if_neg hworking]
  split
  · refine .inl ?_
    unfold pollWrite
    dsimp only
    split
    · exact ⟨BackendEventType.noConfusion,
        ⟨hopen, hworking, hsilent, hdirection, hpolicy, hprobe, hrequest, hempty⟩⟩
    split
    · unfold callFailed
      split <;> exact ⟨BackendEventType.noConfusion,
        ⟨hopen, hworking, hsilent, hdirection, hpolicy, hprobe, hrequest, hempty⟩⟩
    · exact ⟨BackendEventType.noConfusion,
        ⟨hopen, hworking, hsilent, hdirection, hpolicy, hprobe, hrequest, hempty⟩⟩
  · rename_i hwritten
    rw [if_pos ⟨hdirection, hsilent⟩]
    exact .inr ⟨rfl, ⟨hopen, hworking, Nat.not_lt.mp hwritten, rfl, hdirection, hpolicy, hprobe,
      hrequest⟩, hempty⟩

/-- A transaction was started and written, poll by poll, and the last poll reported that
    its request is transmitted: nothing of a response has been read. -/
inductive Transmitted (request : List UInt8) : UartBackend η → Prop where
  | report (uart : UartBackend η) (t : CoreTransaction) (now now' : CoreTick)
      (writes : List CoreTick) (hpayload : t.payload = request) (hgeneration : t.generation ≠ 0)
      (hdirection : t.operation.direction = .txThenRx)
      (hpolicy : t.operation.responsePolicy = .backendFramed)
      (hprobe : uart.frameProbe = some modbusRtuFrameProbe)
      (hstart : (backendStart uart t now).1 = 0)
      (hsilent : ∀ report ∈ reports (backendStart uart t now).2 writes,
        report.2.type ≠ .transmitted)
      (htransmitted :
        (backendPoll (writes.foldl polled (backendStart uart t now).2) now').2.1.type =
          .transmitted) :
      Transmitted request (polled (writes.foldl polled (backendStart uart t now).2) now')

theorem sending_polls {uart : UartBackend η} {request : List UInt8} (h : Sending uart request)
    (writes : List CoreTick)
    (hsilent : ∀ report ∈ reports uart writes, report.2.type ≠ .transmitted) :
    Sending (writes.foldl polled uart) request := by
  induction writes generalizing uart with
  | nil => exact h
  | cons now writes ih =>
    rcases sending_poll h now with ⟨-, hsending⟩ | ⟨hevent, -⟩
    · apply ih hsending
      intro report hreport
      exact hsilent report (List.mem_cons_of_mem _ hreport)
    · exact absurd hevent (hsilent _ List.mem_cons_self)

theorem Transmitted.waiting {uart : UartBackend η} {request : List UInt8}
    (h : Transmitted request uart) : Waiting uart request ∧ uart.rx = [] := by
  obtain ⟨uart, t, now, now', writes, hpayload, hgeneration, hdirection, hpolicy, hprobe, hstart,
    hsilent, htransmitted⟩ := h
  have hsending := sending_start now hgeneration hdirection hpolicy hprobe hstart
  rw [hpayload] at hsending
  rcases sending_poll (sending_polls hsending writes hsilent) now' with ⟨hother, -⟩ | ⟨-, hwaiting⟩
  · exact absurd htransmitted hother
  · exact hwaiting

/-! ## One read -/

section Reading

variable {uart : UartBackend η} {request : List UInt8}

theorem poll_reads (h : Waiting uart request) (now : CoreTick) :
    backendPoll uart now = pollRead uart := by
  unfold backendPoll
  rw [if_neg (Int.not_lt.mpr h.isOpen), if_neg h.working, if_neg (Nat.not_lt.mpr h.written),
    if_neg (by rw [h.transmitted]; simp), if_neg (by rw [h.direction]; decide)]

/-- The backend with the bytes of a read. -/
def received (uart : UartBackend η) : UartBackend η :=
  { uart with sysContext := (readCall uart).2.2, rx := uart.rx ++ (readCall uart).2.1 }.log
    (.received (readCall uart).2.1)

theorem Waiting.received (h : Waiting uart request) : Waiting (received uart) request :=
  ⟨h.isOpen, h.working, h.written, h.transmitted, h.direction, h.policy, h.probe, h.request⟩

theorem Waiting.world (h : Waiting uart request) (world : η) :
    Waiting { uart with sysContext := world } request :=
  ⟨h.isOpen, h.working, h.written, h.transmitted, h.direction, h.policy, h.probe, h.request⟩

/-- A read that brings nothing is not reported. -/
theorem poll_nothing (h : Waiting uart request) (hroom : uart.rx.length < uartRxCapacity)
    (hquiet : ReadsQuietly uart) (hnone : ¬ 0 < (readCall uart).1) (now : CoreTick) :
    backendPoll uart now = (0, noEvent, { uart with sysContext := (readCall uart).2.2 }) := by
  rw [poll_reads h]
  unfold pollRead
  rw [if_neg (by omega)]
  dsimp only
  split
  · rename_i hpos
    exact absurd hpos hnone
  split
  · rename_i hneg
    have htemporary := hquiet.resolve_left (Int.not_le.mpr hneg)
    unfold callFailed
    split
    · rfl
    · rename_i hhard
      exact absurd htemporary hhard
  · rfl

/-- One that brings something is judged by the probe. -/
theorem poll_something (h : Waiting uart request) (hroom : uart.rx.length < uartRxCapacity)
    (hsome : 0 < (readCall uart).1) (now : CoreTick) :
    backendPoll uart now = judgeResponse (received uart) := by
  rw [poll_reads h]
  unfold pollRead received
  rw [if_neg (by omega)]
  dsimp only
  split
  · rfl
  · rename_i hpos
    exact absurd hsome hpos

theorem judge_waiting (h : Waiting uart request) :
    judgeResponse uart =
      if (modbusRtuFrameProbe request uart.rx).1 ≠ .incomplete then
        (1, uart.event
          (if (modbusRtuFrameProbe request uart.rx).1 = .complete ∧
              (modbusRtuFrameProbe request uart.rx).2 = uart.rx.length then .response
            else .malformed) uart.rx, uart)
      else (0, noEvent, uart) := by
  unfold judgeResponse
  rw [h.policy, h.probe, h.request]

end Reading

/-! ## A run of reads -/

variable {uart : UartBackend η} {request : List UInt8}

/-- While the bytes so far are a proper part of a response, a poll reports nothing and
    the backend goes on waiting. -/
theorem poll_part (h : Waiting uart request) {more : List UInt8}
    (hcomplete : CompleteResponse request (uart.rx ++ readBytes uart ++ more)) (hmore : more ≠ [])
    (hquiet : ReadsQuietly uart) (now : CoreTick) :
    ((backendPoll uart now).1, (backendPoll uart now).2.1) = (0, noEvent) ∧
      Waiting (polled uart now) request ∧ (polled uart now).rx = uart.rx ++ readBytes uart ∧
      (polled uart now).activeGeneration = uart.activeGeneration := by
  obtain ⟨-, hmax, -⟩ := expectedLength_ok hcomplete.length
  have hpos : 0 < more.length := List.length_pos_iff.mpr hmore
  have hroom : uart.rx.length < uartRxCapacity := by
    simp only [List.length_append] at hmax
    have hsame : uartRxCapacity = modbusRtuAduMax := rfl
    omega
  unfold polled
  by_cases hsome : 0 < (readCall uart).1
  · have hbytes : readBytes uart = (readCall uart).2.1 := if_pos hsome
    have hrx : (received uart).rx = uart.rx ++ readBytes uart := by
      rw [hbytes]
      rfl
    have hincomplete : (modbusRtuFrameProbe request (received uart).rx).1 = .incomplete := by
      rw [hrx]
      exact probe_front hcomplete hmore
    rw [poll_something h hroom hsome now, judge_waiting h.received,
      if_neg (not_not.mpr hincomplete)]
    exact ⟨rfl, h.received, hrx, rfl⟩
  · have hbytes : readBytes uart = [] := if_neg hsome
    rw [poll_nothing h hroom hquiet hsome now, hbytes, List.append_nil]
    exact ⟨rfl, h.world _, rfl, rfl⟩

/-- The report on the bytes of a response, or of more than one. -/
def verdictOn (generation : BitVec 32) (response extra : List UInt8) : Int × BackendEvent :=
  (1,
    { type := if extra = [] then .response else .malformed
      generation := generation
      data := response ++ extra })

/-- The read that brings the rest of a response reports it, and what it brings beyond. -/
theorem poll_rest (h : Waiting uart request) {response extra : List UInt8}
    (hcomplete : CompleteResponse request response) (hpart : uart.rx <+: response)
    (hshort : uart.rx ≠ response) (hrest : uart.rx ++ readBytes uart = response ++ extra)
    (now : CoreTick) :
    ((backendPoll uart now).1, (backendPoll uart now).2.1) =
      verdictOn uart.activeGeneration response extra := by
  obtain ⟨-, hmax, -⟩ := expectedLength_ok hcomplete.length
  have hlength : uart.rx.length < response.length := by
    have hle := hpart.length_le
    have hne : uart.rx.length ≠ response.length := fun heq => hshort (hpart.eq_of_length heq)
    omega
  have hroom : uart.rx.length < uartRxCapacity := by
    have hsame : uartRxCapacity = modbusRtuAduMax := rfl
    omega
  have hsome : 0 < (readCall uart).1 := by
    by_contra hnone
    have hbytes : readBytes uart = [] := if_neg hnone
    have hboth := congrArg List.length hrest
    rw [hbytes, List.append_nil, List.length_append] at hboth
    omega
  have hbytes : readBytes uart = (readCall uart).2.1 := if_pos hsome
  have hrx : (received uart).rx = response ++ extra := by
    rw [← hrest, hbytes]
    rfl
  rw [poll_something h hroom hsome now, judge_waiting h.received, hrx]
  by_cases hextra : extra = []
  · subst hextra
    rw [List.append_nil, probe_complete hcomplete]
    simp [verdictOn, UartBackend.event, received, UartBackend.log]
  · rw [probe_longer hcomplete hextra]
    simp [verdictOn, UartBackend.event, received, UartBackend.log, hextra]

theorem reports_append (uart : UartBackend η) (nows nows' : List CoreTick) :
    reports uart (nows ++ nows') =
      reports uart nows ++ reports (nows.foldl polled uart) nows' := by
  induction nows generalizing uart with
  | nil => rfl
  | cons now nows ih => simp [reports, ih]

theorem deliveredBytes_append (uart : UartBackend η) (nows nows' : List CoreTick) :
    deliveredBytes uart (nows ++ nows') =
      deliveredBytes uart nows ++ deliveredBytes (nows.foldl polled uart) nows' := by
  induction nows generalizing uart with
  | nil => rfl
  | cons now nows ih => simp [deliveredBytes, ih]

/-- A run that has brought a proper part of a response has reported nothing. -/
theorem reports_part {response : List UInt8} (hcomplete : CompleteResponse request response)
    (nows : List CoreTick) (h : Waiting uart request) (hquiet : Quiet uart nows)
    (hpart : uart.rx ++ deliveredBytes uart nows <+: response)
    (hshort : uart.rx ++ deliveredBytes uart nows ≠ response) :
    reports uart nows = List.replicate nows.length (0, noEvent) ∧
      Waiting (nows.foldl polled uart) request ∧
      (nows.foldl polled uart).rx = uart.rx ++ deliveredBytes uart nows ∧
      (nows.foldl polled uart).activeGeneration = uart.activeGeneration := by
  induction nows generalizing uart with
  | nil => exact ⟨rfl, h, (List.append_nil _).symm, rfl⟩
  | cons now nows ih =>
    obtain ⟨hread, hlater⟩ := hquiet
    simp only [deliveredBytes, ← List.append_assoc] at hpart hshort
    -- what is still to come of the response after this read
    obtain ⟨rest, hrest⟩ := hpart
    have hmore : deliveredBytes (polled uart now) nows ++ rest ≠ [] := by
      intro hnil
      obtain ⟨hnone, hnone'⟩ := List.append_eq_nil_iff.mp hnil
      rw [hnone', List.append_nil] at hrest
      exact hshort hrest
    rw [List.append_assoc] at hrest
    have hwhole : CompleteResponse request
        (uart.rx ++ readBytes uart ++ (deliveredBytes (polled uart now) nows ++ rest)) := by
      rw [hrest]
      exact hcomplete
    obtain ⟨hreport, hwaiting, hrx, hgeneration⟩ := poll_part h hwhole hmore hread now
    obtain ⟨hreports, hwaiting', hrx', hgeneration'⟩ := ih hwaiting hlater
      (by rw [hrx]; exact ⟨rest, by rw [List.append_assoc]; exact hrest⟩)
      (by rw [hrx]; exact hshort)
    refine ⟨?_, hwaiting', ?_, hgeneration'.trans hgeneration⟩
    · simp only [reports, hreports, hreport, List.length_cons, List.replicate_succ]
    · rw [List.foldl_cons, hrx', hrx, deliveredBytes, List.append_assoc]

/-- **A response read in pieces** is reported once, as it is: by the read that brings the
    rest of it, and if that read brings more, as malformed. -/
theorem reports_pieces {response extra : List UInt8} (hcomplete : CompleteResponse request response)
    (h : Waiting uart request) (hempty : uart.rx = []) (nows : List CoreTick) (now : CoreTick)
    (hquiet : Quiet uart nows) (hpart : deliveredBytes uart nows <+: response)
    (hshort : deliveredBytes uart nows ≠ response)
    (hbytes : deliveredBytes uart (nows ++ [now]) = response ++ extra) :
    reports uart (nows ++ [now]) =
      List.replicate nows.length (0, noEvent) ++
        [verdictOn uart.activeGeneration response extra] := by
  have hfront : uart.rx ++ deliveredBytes uart nows = deliveredBytes uart nows := by
    rw [hempty, List.nil_append]
  obtain ⟨hreports, hwaiting, hrx, hgeneration⟩ := reports_part hcomplete nows h hquiet
    (by rw [hfront]; exact hpart) (by rw [hfront]; exact hshort)
  rw [hfront] at hrx
  have hrest : (nows.foldl polled uart).rx ++ readBytes (nows.foldl polled uart) =
      response ++ extra := by
    rw [hrx, ← hbytes, deliveredBytes_append]
    simp [deliveredBytes]
  have hlast := poll_rest hwaiting hcomplete (by rw [hrx]; exact hpart) (by rw [hrx]; exact hshort)
    hrest now
  rw [hgeneration] at hlast
  rw [reports_append, hreports]
  simp only [reports, hlast]

/-- **RTU framing.** The complete responses to a request have no proper part and no proper
    extension among them; so a response, read in whatever pieces, is reported by the poll
    that reads its last byte and by no poll before. -/
theorem rtuFraming {request response : List UInt8}
    (hprobe : (modbusRtuFrameProbe request response).1 = .complete) :
    (∀ front more, response = front ++ more → more ≠ [] →
        (modbusRtuFrameProbe request front).1 = .incomplete) ∧
      (∀ more, more ≠ [] → (modbusRtuFrameProbe request (response ++ more)).1 ≠ .complete) ∧
      (∀ (uart : UartBackend η), Transmitted request uart →
        ∀ (nows : List CoreTick) (now : CoreTick) (extra : List UInt8), Quiet uart nows →
          deliveredBytes uart nows <+: response → deliveredBytes uart nows ≠ response →
          deliveredBytes uart (nows ++ [now]) = response ++ extra →
          reports uart (nows ++ [now]) =
            List.replicate nows.length (0, noEvent) ++
              [verdictOn uart.activeGeneration response extra]) := by
  have hcomplete := (probe_complete_iff request response).mp hprobe
  refine ⟨?_, ?_, ?_⟩
  · intro front more hsplit hmore
    rw [hsplit] at hcomplete
    exact probe_front hcomplete hmore
  · intro more hmore hlonger
    rw [probe_longer hcomplete hmore] at hlonger
    cases hlonger
  · intro uart htransmitted nows now extra hquiet hpart hshort hbytes
    obtain ⟨hwaiting, hempty⟩ := htransmitted.waiting
    exact reports_pieces hcomplete hwaiting hempty nows now hquiet hpart hshort hbytes

/-! ## A device that answers in three pieces -/

/-- The reads to come; an empty one is a temporary error. -/
def piecewise : UartSyscalls (List (List UInt8)) where
  openFn := fun world _ => (3, world)
  closeFn := fun world _ => (0, world)
  readFn := fun world _ length =>
    match world with
    | [] => (0, [], [])
    | [] :: reads => (-1, [], reads)
    | bytes :: reads => ((bytes.take length).length, bytes.take length, reads)
  writeFn := fun world _ buffer => (buffer.length, world)
  ioctlFn := fun world _ _ value => (0, value, world)
  tcgetattrFn := fun world _ => (0, default, world)
  tcsetattrFn := fun world _ _ => (0, world)
  tcflushFn := fun world _ => (0, world)
  lastErrorFn := fun _ => eAGAIN
  read_le := by
    intro world fd length
    rcases world with - | ⟨- | ⟨byte, bytes⟩, reads⟩
    · exact Int.natCast_nonneg length
    · exact Int.le_trans (show (-1 : Int) ≤ 0 by decide) (Int.natCast_nonneg length)
    · exact Int.ofNat_le.mpr (List.length_take_le _ _)
  read_stored := by
    intro world fd length
    rcases world with - | ⟨- | ⟨byte, bytes⟩, reads⟩
    · intro h
      exact absurd h (show ¬ (0 : Int) < 0 by decide)
    · intro h
      exact absurd h (show ¬ (0 : Int) < -1 by decide)
    · intro _
      rfl
  write_le := fun _ _ _ => Int.le_refl _

/-- A read of one register of unit 17, and the answer to it. -/
def registerRequest : List UInt8 := crcAppend [17, 3, 0, 0, 0, 1]

def registerResponse : List UInt8 := crcAppend [17, 3, 2, 0xab, 0xcd]

def registerTransaction : CoreTransaction :=
  { zeroTransaction with
    generation := 5, payload := registerRequest
    operation :=
      { direction := .txThenRx, responsePolicy := .backendFramed, expectedResponseLength := 0 } }

/-- The backend once the request is written; the response comes in pieces of one, four
    and two bytes, the second after a temporary error. -/
def piecewiseBackend : UartBackend (List (List UInt8)) :=
  { uartBackendInit 0 default piecewise [[17], [], [3, 2, 0xab, 0xcd], registerResponse.drop 5]
      (some modbusRtuFrameProbe) with fd := 3 }

/-- `piecewiseBackend` once the request is started, written and reported as transmitted. -/
def listeningBackend : UartBackend (List (List UInt8)) :=
  polled ([0].foldl polled (backendStart piecewiseBackend registerTransaction 0).2) 0

theorem rtuFraming_piecewise :
    reports listeningBackend ([0, 0, 0] ++ [0]) =
      List.replicate 3 (0, noEvent) ++
        [(1, { type := .response, generation := 5, data := registerResponse })] := by
  have hprobe : (modbusRtuFrameProbe registerRequest registerResponse).1 = .complete := by
    decide +kernel
  have htransmitted : Transmitted registerRequest listeningBackend := by
    refine .report piecewiseBackend registerTransaction 0 0 [0] rfl ?_ rfl rfl rfl ?_ ?_ ?_
    all_goals decide +kernel
  have hquiet : Quiet listeningBackend [0, 0, 0] := by
    refine ⟨.inl ?_, .inr ?_, .inl ?_, trivial⟩
    all_goals decide +kernel
  exact (rtuFraming hprobe).2.2 listeningBackend htransmitted [0, 0, 0] 0 [] hquiet
    (by decide +kernel) (by decide +kernel) (by decide +kernel)

end FourVrs.Uart
