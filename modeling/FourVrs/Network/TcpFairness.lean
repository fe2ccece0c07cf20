import FourVrs.Core.PortInvariant
import FourVrs.Lib.Turns
import FourVrs.Network.TcpSlots

/-!
# Turns between the clients of the dispatcher

`modbus_dispatcher_step` asks the slots round robin, from `next_client` on, and moves the
pointer behind the slot it asked. It does so whether the port takes the request or not:
a client whose request is refused has had its turn. So between two submissions of one
client every other waiting client is asked (`asked_between`), but it is served only if
the port has room when it is asked, and a port that is full at just those steps starves
it (`overtaken_starvingRun`).
-/

set_option autoImplicit false

namespace FourVrs.Network.Tcp

open FourVrs.Core Modbus
open Lib (ahead ahead_first ahead_inj ahead_lt ahead_served ahead_step ahead_succ_lt)

variable {σ κ : Type}

/-! ## The dispatcher and its port -/

/-- A dispatcher and the port runtime it submits to. -/
structure Desk (σ κ : Type) where
  dispatcher : ModbusDispatcher
  port : PortRuntime σ κ

/-- `modbus_dispatcher_step`, whoever holds the two objects. -/
def dispatcherStep (s : Desk σ κ) (now queueTimeout responseTimeout : CoreTick) :
    CoreSubmitResult × Desk σ κ :=
  match dispatcherPick s.dispatcher with
  | none => (.invalidRequest, s)
  | some (j, request) =>
      match modbusTcpSubmit s.port request now queueTimeout responseTimeout with
      | (result, port) => (result, ⟨dispatcherAdvance s.dispatcher j result, port⟩)

/-- The calls of a run; `act` is whatever else happens to the port. -/
inductive DispatcherOp where
  | connect (clientId epoch : BitVec 32)
  | disconnect (clientId epoch : BitVec 32)
  | enqueue (request : ModbusTcpRequest)
  | step (now queueTimeout responseTimeout : CoreTick)
  | act (op : PortOp)
  deriving DecidableEq, Repr

def DispatcherOp.exec (s : Desk σ κ) : DispatcherOp → Desk σ κ
  | .connect clientId epoch =>
      { s with dispatcher := (modbusDispatcherConnect s.dispatcher clientId epoch).2 }
  | .disconnect clientId epoch =>
      { s with dispatcher := modbusDispatcherDisconnect s.dispatcher clientId epoch }
  | .enqueue request => { s with dispatcher := (modbusDispatcherEnqueue s.dispatcher request).2 }
  | .step now queueTimeout responseTimeout => (dispatcherStep s now queueTimeout responseTimeout).2
  | .act op => { s with port := op.exec s.port }

def runDesk (ops : List DispatcherOp) (s : Desk σ κ) : Desk σ κ := ops.foldl DispatcherOp.exec s

/-! ## Turns -/

def slotWaits (slot : ModbusClientSlot) : Bool := slot.connected && !slot.requests.isEmpty

/-- The client of slot `j` is connected and has a request waiting. -/
abbrev Waits (s : Desk σ κ) (j : ClientIndex) : Prop := slotWaits (s.dispatcher.clients j) = true

/-- The step asks slot `j`. -/
def Asks (s : Desk σ κ) (j : ClientIndex) : DispatcherOp → Prop
  | .step _ _ _ => ∃ request, dispatcherPick s.dispatcher = some (j, request)
  | _ => False

/-- The step submits a request of slot `j` and the port accepts it. -/
def Submits (s : Desk σ κ) (j : ClientIndex) : DispatcherOp → Prop
  | .step now queueTimeout responseTimeout => ∃ request,
      dispatcherPick s.dispatcher = some (j, request) ∧
        (modbusTcpSubmit s.port request now queueTimeout responseTimeout).1 = .accepted
  | _ => False

/-- What a port needs to take a request. -/
structure Takes (port : PortRuntime σ κ) (request : ModbusTcpRequest)
    (queueTimeout responseTimeout : CoreTick) : Prop where
  pdu : 0 < request.adu.pdu.length ∧ request.adu.pdu.length ≤ mbapPduMax
  queueTimeout : coreTicksValidInterval queueTimeout = true ∧ queueTimeout ≠ 0
  responseTimeout : coreTicksValidInterval responseTimeout = true ∧ responseTimeout ≠ 0
  serving : port.state = .ready ∨ port.state = .active ∨ port.state = .waiting
  slot : port.queue.count < coreQueueCapacity
  bytes : port.queue.bytes + (requestRtu request.adu).length ≤ coreQueueBytesMax

/-- The step asks slot `j` and the port has room for its request. -/
def FindsRoom (s : Desk σ κ) (j : ClientIndex) : DispatcherOp → Prop
  | .step _ queueTimeout responseTimeout => ∃ request,
      dispatcherPick s.dispatcher = some (j, request) ∧
        Takes s.port request queueTimeout responseTimeout
  | _ => False

theorem length_requestRtu (adu : MbapAdu) : (requestRtu adu).length = 1 + adu.pdu.length + 2 := by
  simp [requestRtu, crcAppend]
  omega

theorem enqueue_accepted (port : PortRuntime σ κ) (r : SubmitRequest) :
    (enqueue port r).1 = .accepted ↔ port.queue.count < coreQueueCapacity ∧
      port.queue.bytes + r.payload.length ≤ coreQueueBytesMax := by
  have hpush : (queuePush port.queue (newTransaction port r)).isSome ↔
      port.queue.count < coreQueueCapacity ∧
        port.queue.bytes + r.payload.length ≤ coreQueueBytesMax := by
    unfold queuePush
    show _ ↔ port.queue.ring.count < _ ∧ _
    split
    · rename_i hslot
      split
      · rename_i hbytes
        refine ⟨fun h => (by cases h), fun h => absurd hbytes ?_⟩
        exact Nat.not_lt.mpr h.2
      · rename_i hbytes
        exact ⟨fun _ => ⟨hslot, Nat.not_lt.mp hbytes⟩, fun _ => rfl⟩
    · rename_i hslot
      exact ⟨fun h => (by cases h), fun h => absurd h.1 hslot⟩
  rw [← hpush]
  unfold enqueue
  split
  · rename_i hnone
    rw [hnone]
    simp
  · rename_i hsome
    rw [hsome]
    simp

/-- **The port accepts what it has room for**, and nothing else. -/
theorem accepted_iff_takes (port : PortRuntime σ κ) (request : ModbusTcpRequest)
    (now queueTimeout responseTimeout : CoreTick) :
    (modbusTcpSubmit port request now queueTimeout responseTimeout).1 = .accepted ↔
      Takes port request queueTimeout responseTimeout := by
  have hrtu := length_requestRtu request.adu
  unfold modbusTcpSubmit
  split
  · rename_i hpdu
    refine ⟨fun h => (by cases h), fun h => ?_⟩
    have hbounds := h.pdu
    omega
  rename_i hpdu
  split
  · rename_i hadu
    unfold mbapPduMax at hpdu
    unfold modbusRtuAduMax at hadu
    omega
  · have hvalid : (tcpSubmitRequest request now queueTimeout responseTimeout).valid = true ↔
        (coreTicksValidInterval queueTimeout = true ∧ queueTimeout ≠ 0) ∧
          coreTicksValidInterval responseTimeout = true ∧ responseTimeout ≠ 0 := by
      have hfits : (requestRtu request.adu).length ≤ coreTransactionPayloadMax := by
        unfold coreTransactionPayloadMax
        unfold mbapPduMax at hpdu
        omega
      have hsome : (requestRtu request.adu).length ≠ 0 := by omega
      simp only [SubmitRequest.valid, Bool.and_eq_true, decide_eq_true_eq]
      constructor
      · intro h
        obtain ⟨⟨⟨⟨⟨_, hq⟩, hqne⟩, hr⟩, hrne⟩, _⟩ := h
        exact ⟨⟨hq, hqne⟩, hr, hrne⟩
      · intro h
        obtain ⟨⟨hq, hqne⟩, hr, hrne⟩ := h
        exact ⟨⟨⟨⟨⟨⟨hsome, hfits⟩, hq⟩, hqne⟩, hr⟩, hrne⟩, rfl⟩
    have hpayload : (tcpSubmitRequest request now queueTimeout responseTimeout).payload =
        requestRtu request.adu := rfl
    have hqueue := enqueue_accepted port
      (tcpSubmitRequest request now queueTimeout responseTimeout)
    rw [hpayload] at hqueue
    show (portRuntimeSubmitOperation port _).1 = _ ↔ _
    unfold portRuntimeSubmitOperation
    split
    · rename_i hinvalid
      refine ⟨fun h => (by cases h), fun h => ?_⟩
      rw [hvalid.mpr ⟨h.queueTimeout, h.responseTimeout⟩] at hinvalid
      cases hinvalid
    · rename_i hok
      have htimeouts := hvalid.mp (by simpa using hok)
      have hbounds : 0 < request.adu.pdu.length ∧ request.adu.pdu.length ≤ mbapPduMax := by
        omega
      have hserves : port.state = .ready ∨ port.state = .active ∨ port.state = .waiting →
          ((enqueue port (tcpSubmitRequest request now queueTimeout responseTimeout)).1 =
              .accepted ↔
            Takes port request queueTimeout responseTimeout) := by
        intro hs
        rw [hqueue]
        exact ⟨fun h => ⟨hbounds, htimeouts.1, htimeouts.2, hs, h.1, h.2⟩,
          fun h => ⟨h.slot, h.bytes⟩⟩
      have hrefuses : ∀ result : CoreSubmitResult, result ≠ .accepted →
          ¬ (port.state = .ready ∨ port.state = .active ∨ port.state = .waiting) →
          (result = .accepted ↔ Takes port request queueTimeout responseTimeout) :=
        fun _ hne hs => ⟨fun h => absurd h hne, fun h => absurd h.serving hs⟩
      -- seven states refuse, then come the three that queue
      split <;> rename_i hs <;> rw [hs] at hserves hrefuses
      · exact hrefuses _ (by simp) (by simp)
      · exact hrefuses _ (by simp) (by simp)
      · exact hrefuses _ (by simp) (by simp)
      · exact hrefuses _ (by simp) (by simp)
      · exact hrefuses _ (by simp) (by simp)
      · exact hrefuses _ (by simp) (by simp)
      · exact hrefuses _ (by simp) (by simp)
      · exact hserves (by simp)
      · exact hserves (by simp)
      · exact hserves (by simp)

theorem submits_iff (s : Desk σ κ) (j : ClientIndex) (op : DispatcherOp) :
    Submits s j op ↔ FindsRoom s j op := by
  cases op with
  | step now queueTimeout responseTimeout =>
    constructor
    · intro h
      obtain ⟨request, hpick, haccepted⟩ := h
      exact ⟨request, hpick, (accepted_iff_takes _ _ _ _ _).mp haccepted⟩
    · intro h
      obtain ⟨request, hpick, htakes⟩ := h
      exact ⟨request, hpick, (accepted_iff_takes _ _ _ _ _).mpr htakes⟩
  | connect | disconnect | enqueue | act => exact Iff.rfl

/-! ## One call -/

/-- The first answer of a search that answers with the element itself. -/
theorem find?_of_findSome? {α β : Type} {f : α → Option (α × β)} {ready : α → Bool}
    (hsome : ∀ x y, f x = some y → y.1 = x ∧ ready x = true)
    (hnone : ∀ x, f x = none → ready x = false) {l : List α} {a : α} {b : β}
    (h : l.findSome? f = some (a, b)) : l.find? ready = some a := by
  induction l with
  | nil => cases h
  | cons x l ih =>
    cases hx : f x with
    | none =>
      rw [List.findSome?_cons, hx] at h
      rw [List.find?_cons, hnone x hx]
      exact ih h
    | some y =>
      obtain ⟨hy, hready⟩ := hsome x y hx
      rw [List.findSome?_cons, hx] at h
      rw [List.find?_cons, hready]
      cases h
      exact congrArg some hy.symm

/-- The slot that is asked is the first waiting one from the pointer on. -/
theorem dispatcherPick_first {d : ModbusDispatcher} {p j : ClientIndex}
    {request : ModbusTcpRequest} (h : dispatcherPick d = some (p, request))
    (hj : slotWaits (d.clients j) = true) : ahead d.nextClient p ≤ ahead d.nextClient j := by
  refine ahead_first (n := 7)
    (@find?_of_findSome? _ _ _ (fun k => slotWaits (d.clients k)) ?_ ?_ _ _ _ h) hj
  · intro k y hk
    split at hk
    · rename_i hconnected
      obtain ⟨r, hhead, hr⟩ := Option.map_eq_some_iff.mp hk
      cases hr
      cases hrequests : (d.clients k).requests with
      | nil => rw [hrequests] at hhead; cases hhead
      | cons => exact ⟨rfl, by simp [slotWaits, hconnected, hrequests]⟩
    · cases hk
  · intro k hk
    split at hk
    · cases hrequests : (d.clients k).requests with
      | nil => simp [slotWaits, hrequests]
      | cons => rw [hrequests] at hk; cases hk
    · rename_i hconnected
      simp [slotWaits, hconnected]

/-- Whoever is asked, the pointer moves behind its slot. -/
theorem nextClient_step {s : Desk σ κ} {p : ClientIndex} {request : ModbusTcpRequest}
    (h : dispatcherPick s.dispatcher = some (p, request))
    (now queueTimeout responseTimeout : CoreTick) :
    (dispatcherStep s now queueTimeout responseTimeout).2.dispatcher.nextClient = p + 1 := by
  unfold dispatcherStep
  rw [h]
  show (dispatcherAdvance s.dispatcher p _).nextClient = p + 1
  unfold dispatcherAdvance
  split <;> rfl

/-- Only a step that asks somebody moves the pointer. -/
theorem nextClient_exec (s : Desk σ κ) (op : DispatcherOp) :
    (op.exec s).dispatcher.nextClient = s.dispatcher.nextClient ∨
      ∃ p request, dispatcherPick s.dispatcher = some (p, request) ∧ Asks s p op ∧
        (op.exec s).dispatcher.nextClient = p + 1 := by
  cases op with
  | connect clientId epoch =>
    refine .inl ?_
    show (modbusDispatcherConnect s.dispatcher clientId epoch).2.nextClient = _
    unfold modbusDispatcherConnect
    split
    · rfl
    · split <;> rfl
  | disconnect clientId epoch =>
    refine .inl ?_
    show (modbusDispatcherDisconnect s.dispatcher clientId epoch).nextClient = _
    unfold modbusDispatcherDisconnect
    split
    · split <;> rfl
    · rfl
  | enqueue request =>
    refine .inl ?_
    show (modbusDispatcherEnqueue s.dispatcher request).2.nextClient = _
    unfold modbusDispatcherEnqueue
    split
    · split
      · rfl
      · split <;> rfl
    · rfl
  | act op => exact .inl rfl
  | step now queueTimeout responseTimeout =>
    cases hpick : dispatcherPick s.dispatcher with
    | none =>
      refine .inl ?_
      show (dispatcherStep s now queueTimeout responseTimeout).2.dispatcher.nextClient = _
      unfold dispatcherStep
      rw [hpick]
    | some picked =>
      obtain ⟨p, request⟩ := picked
      exact .inr ⟨p, request, rfl, ⟨request, hpick⟩, nextClient_step hpick _ _ _⟩

/-- The pointer does not pass a waiting client without asking it. -/
theorem nextClient_behind {s : Desk σ κ} {start j : ClientIndex} {op : DispatcherOp}
    (hnext : ahead start s.dispatcher.nextClient ≤ ahead start j) (hwaits : Waits s j)
    (hnot : ¬ Asks s j op) : ahead start (op.exec s).dispatcher.nextClient ≤ ahead start j := by
  rcases nextClient_exec s op with hkept | ⟨p, request, hpick, hasks, hmoved⟩
  · rw [hkept]
    exact hnext
  · rw [hmoved]
    refine ahead_step (n := 7) hnext (dispatcherPick_first hpick hwaits) ?_
    intro heq
    exact hnot (heq ▸ hasks)

/-! ## Runs -/

/-- Slot `i` submits with the first call and again with the last, and in between slot `j`,
    another one, is connected and has a request waiting all the time. -/
structure Overtakes (s : Desk σ κ) (i j : ClientIndex) (first : DispatcherOp)
    (mid : List DispatcherOp) (last : DispatcherOp) : Prop where
  other : j ≠ i
  served : Submits s i first
  waits : ∀ m, m <+: mid → Waits (runDesk (first :: m) s) j
  again : Submits (runDesk (first :: mid) s) i last

/-- One of the calls in between is such a call for slot `j`. -/
def Between (P : Desk σ κ → ClientIndex → DispatcherOp → Prop) (s : Desk σ κ)
    (first : DispatcherOp) (mid : List DispatcherOp) (j : ClientIndex) : Prop :=
  ∃ m op m', mid = m ++ op :: m' ∧ P (runDesk (first :: m) s) j op

/-- Along calls that do not ask slot `j`. -/
theorem nextClient_run {start j : ClientIndex} (mid : List DispatcherOp) {s : Desk σ κ}
    (hnext : ahead start s.dispatcher.nextClient ≤ ahead start j)
    (hwaits : ∀ m, m <+: mid → Waits (runDesk m s) j)
    (hnot : ∀ m op m', mid = m ++ op :: m' → ¬ Asks (runDesk m s) j op) :
    ahead start (runDesk mid s).dispatcher.nextClient ≤ ahead start j := by
  induction mid generalizing s with
  | nil => exact hnext
  | cons op mid ih =>
    have hfirst := nextClient_behind hnext (hwaits [] (List.nil_prefix)) (hnot [] op mid rfl)
    refine ih hfirst ?_ ?_
    · intro m hm
      exact hwaits (op :: m) ((List.prefix_cons_inj op).mpr hm)
    · intro m op' m' heq
      exact hnot (op :: m) op' m' (by rw [heq, List.cons_append])

/-- **Every waiting client is asked** between two submissions of another. -/
theorem asked_between {s : Desk σ κ} {i j : ClientIndex} {first last : DispatcherOp}
    {mid : List DispatcherOp} (h : Overtakes s i j first mid last) :
    Between Asks s first mid j := by
  by_contra hnot
  have hbehind : ahead (i + 1) (runDesk mid (first.exec s)).dispatcher.nextClient ≤
      ahead (i + 1) j := by
    refine nextClient_run mid ?_ h.waits ?_
    · cases first with
      | step now queueTimeout responseTimeout =>
        obtain ⟨request, hpick, _⟩ := h.served
        show ahead (i + 1) (dispatcherStep s now queueTimeout
          responseTimeout).2.dispatcher.nextClient ≤ _
        rw [nextClient_step hpick]
        simp [ahead]
      | connect | disconnect | enqueue | act => exact h.served.elim
    · intro m op m' heq hasks
      exact hnot ⟨m, op, m', heq, hasks⟩
  cases last with
  | step now queueTimeout responseTimeout =>
    obtain ⟨request, hpick, _⟩ := h.again
    have hserved := dispatcherPick_first hpick (h.waits mid (List.prefix_refl mid))
    exact absurd (ahead_served hbehind hserved) (Nat.not_le.mpr (ahead_succ_lt h.other))
  | connect | disconnect | enqueue | act => exact h.again.elim

/-- **Fairness.** In every run, between two submissions of one client another one that
    waits all the time is asked; and it is served in between exactly if the port has room
    at one of the steps that ask it. -/
theorem served_between_iff (port : PortRuntime σ κ) (before : List DispatcherOp)
    (i j : ClientIndex) (first : DispatcherOp) (mid : List DispatcherOp) (last : DispatcherOp)
    (h : Overtakes (runDesk before ⟨modbusDispatcherInit, port⟩) i j first mid last) :
    Between Asks (runDesk before ⟨modbusDispatcherInit, port⟩) first mid j ∧
      (Between Submits (runDesk before ⟨modbusDispatcherInit, port⟩) first mid j ↔
        Between FindsRoom (runDesk before ⟨modbusDispatcherInit, port⟩) first mid j) := by
  refine ⟨asked_between h, ?_⟩
  constructor
  · intro hserved
    obtain ⟨m, op, m', heq, hop⟩ := hserved
    exact ⟨m, op, m', heq, (submits_iff _ j op).mp hop⟩
  · intro hroom
    obtain ⟨m, op, m', heq, hop⟩ := hroom
    exact ⟨m, op, m', heq, (submits_iff _ j op).mpr hop⟩

/-! ## A starved client -/

/-- A request of one register. -/
def registerRequest (clientId : BitVec 32) : ModbusTcpRequest where
  clientId := clientId
  clientEpoch := 1
  adu := { transactionId := 1, unitId := 1, pdu := [3, 0, 0, 0, 1] }
  conn := 0

/-- Two clients with requests waiting on an open port whose queue holds `queued` others. -/
def crowdedRun (queued : Nat) : List DispatcherOp :=
  [.act (.start 0 100), .act (.step 1), .connect 1 1, .connect 2 1,
    .enqueue (registerRequest 1), .enqueue (registerRequest 1), .enqueue (registerRequest 2),
    .enqueue (registerRequest 2)] ++
    List.replicate queued (.act (.submit ⟨[1, 3], 0, 0, none, none, 2, 50, 50⟩))

def idlePort : PortRuntime Unit Unit := portRuntimeInit 0 default (some idleBackend) () () []

def crowdedDesk (queued : Nat) : Desk Unit Unit :=
  runDesk (crowdedRun queued) ⟨modbusDispatcherInit, idlePort⟩

/-- The dispatcher asks, then the port takes a transaction out of its queue. -/
def askThenStep : List DispatcherOp := [.step 3 1000 1000, .act (.step 3)]

theorem prefix_askThenStep {m : List DispatcherOp} (h : m <+: askThenStep) :
    m = [] ∨ m = [.step 3 1000 1000] ∨ m = askThenStep := by
  rcases List.prefix_cons_iff.mp h with heq | ⟨t, rfl, ht⟩
  · exact .inl heq
  · rcases List.prefix_cons_iff.mp ht with heq | ⟨t', rfl, ht'⟩
    · exact .inr (.inl (by rw [heq]))
    · exact .inr (.inr (by rw [List.prefix_nil.mp ht']; rfl))

theorem overtakes_crowdedDesk (queued : Nat) (h : queued = 6 ∨ queued = 7) :
    Overtakes (crowdedDesk queued) 0 1 (.step 2 1000 1000) askThenStep (.step 4 1000 1000) := by
  refine ⟨by decide, ?_, ?_, ?_⟩
  · refine ⟨registerRequest 1, ?_⟩
    rcases h with rfl | rfl <;> decide +kernel
  · intro m hm
    rcases prefix_askThenStep hm with rfl | rfl | rfl <;> rcases h with rfl | rfl <;>
      decide +kernel
  · refine ⟨registerRequest 1, ?_⟩
    rcases h with rfl | rfl <;> decide +kernel

/-- With room for two the second client is served in its turn. -/
theorem served_crowdedDesk :
    Between Submits (crowdedDesk 6) (.step 2 1000 1000) askThenStep 1 :=
  (served_between_iff idlePort (crowdedRun 6) 0 1 _ _ _ (overtakes_crowdedDesk 6 (.inl rfl))).2.mpr
    ⟨[], _, _, rfl, registerRequest 2, by decide +kernel,
      ⟨by decide, by decide, by decide, by decide +kernel, by decide +kernel, by decide +kernel⟩⟩

/-- **A starved client**: it is asked when the queue is full, the other when a place is
    free. -/
theorem overtaken_starvingRun :
    ¬ ∀ (port : PortRuntime Unit Unit) (before : List DispatcherOp) (i j : ClientIndex)
      (first : DispatcherOp) (mid : List DispatcherOp) (last : DispatcherOp),
      Overtakes (runDesk before ⟨modbusDispatcherInit, port⟩) i j first mid last →
        Between Submits (runDesk before ⟨modbusDispatcherInit, port⟩) first mid j := by
  intro hall
  obtain ⟨m, op, m', heq, hop⟩ :=
    hall idlePort (crowdedRun 7) 0 1 _ _ _ (overtakes_crowdedDesk 7 (.inr rfl))
  match m with
  | [] =>
    cases heq
    obtain ⟨request, hpick, haccepted⟩ := hop
    have hrequest : dispatcherPick
        (runDesk [.step 2 1000 1000] (crowdedDesk 7)).dispatcher =
          some (1, registerRequest 2) := by decide +kernel
    cases hpick.symm.trans hrequest
    exact absurd haccepted (by decide +kernel)
  | [a] =>
    cases heq
    exact hop
  | a :: b :: m => simp [askThenStep] at heq

end FourVrs.Network.Tcp
