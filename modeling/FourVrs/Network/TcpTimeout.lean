import FourVrs.Core.PortListener
import FourVrs.Modbus.MbapChunks
import FourVrs.Network.TcpOrder

/-!
# When the input timeout closes a connection

A connection whose buffer is not empty is closed once `frame_started_at` is five seconds
old. The time is taken when bytes come into an empty buffer, so it is that of the first
byte in the buffer only as long as a frame that is completed leaves nothing behind: with
a second frame begun in the same segment the buffer is not empty at the next read, and
the time stays. The same goes for complete frames that wait in the buffer until the
dispatcher has room for them.

`arrivals` records when every byte of a connection came. `onlyStalled_of_keepsStarts`
gives the condition on the reads under which the timeout is right.
-/

set_option autoImplicit false

namespace FourVrs.Network.Tcp

open FourVrs.Core Modbus
open Lib (Along)

variable {σ : Type}

/-! ## Runs -/

/-- The calls of a run: the port's operations and those of its listener. -/
inductive TcpCall where
  | stepIo (io : SocketIo) (now : CoreTick)
  | call (op : PortOp)
  | «open» (bound : Bool)
  | close

def TcpCall.exec (port : PortRuntime σ TcpListener) : TcpCall → PortRuntime σ TcpListener
  | .stepIo io now => modbusTcpListenerStepIo port io now
  | .call op => op.exec port
  | .open bound => withListener port (modbusTcpListenerOpen port.completionContext bound).2
  | .close => withListener port (modbusTcpListenerClose port.completionContext)

def TcpCall.time : TcpCall → CoreTick
  | .stepIo _ now => now
  | _ => 0

/-- When the bytes of each connection came, up to a point of a call at which the
    listener is `l`; before the call it was `l₀`. -/
def arrivalsAt (arrivals : Nat → List CoreTick) (l₀ l : TcpListener) (now : CoreTick) (c : Nat) :
    List CoreTick :=
  arrivals c ++
    List.replicate ((l.history c).received.length - (l₀.history c).received.length) now

/-- A port, watched: it is noted when the bytes come. -/
structure Watched (σ : Type) where
  port : PortRuntime σ TcpListener
  arrivals : Nat → List CoreTick

def watch (w : Watched σ) (call : TcpCall) : Watched σ where
  port := call.exec w.port
  arrivals := arrivalsAt w.arrivals w.port.completionContext (call.exec w.port).completionContext
    call.time

/-- A listener just initialised on the port. -/
def watched (port : PortRuntime σ TcpListener) : Watched σ where
  port := modbusTcpListenerInit port
  arrivals := fun _ => []

/-! ## A client's turn -/

/-- The listener when the loop begins. -/
def loopStart (port : PortRuntime σ TcpListener) (io : SocketIo) (now : CoreTick) : TcpListener :=
  if port.completionContext.listening then
    acceptOne { port.completionContext with now := now } now io.accepted
  else { port.completionContext with now := now }

/-- The listener when the loop of a step comes to client `i`. -/
def turnOf (port : PortRuntime σ TcpListener) (io : SocketIo) (now : CoreTick) (i : ClientIndex) :
    TcpListener :=
  ((List.finRange modbusClientMax).take i).foldl (stepClient port.view.outstanding io now)
    (loopStart port io now)

/-- The listener once client `i` has been read. -/
def afterRead (io : SocketIo) (now : CoreTick) (l : TcpListener) (i : ClientIndex) : TcpListener :=
  readClient (drainParser l i) i now (io.recv i)

/-- The input timeout closes client `i` in its turn. -/
def TimedOut (io : SocketIo) (now : CoreTick) (l : TcpListener) (i : ClientIndex) : Prop :=
  ((l.clients i).opened = true ∧ ((drainParser l i).clients i).opened = true ∧
      ((afterRead io now l i).clients i).opened = true) ∧
    ((afterRead io now l i).clients i).rx.bytes ≠ [] ∧
    modbusInputTimeout ≤ coreElapsed ((afterRead io now l i).clients i).frameStartedAt now

instance (io : SocketIo) (now : CoreTick) (l : TcpListener) (i : ClientIndex) :
    Decidable (TimedOut io now l i) :=
  inferInstanceAs (Decidable (_ ∧ _ ∧ _))

/-- The buffer begins with an incomplete frame whose first byte came at least
    `MODBUS_INPUT_TIMEOUT` ago. -/
def Stalled (arrivals : List CoreTick) (client : TcpClient) (now : CoreTick) : Prop :=
  client.rx.bytes ≠ [] ∧ frameHead client.rx.bytes = .unfinished ∧
    ∃ tick, arrivals[arrivals.length - client.rx.bytes.length]? = some tick ∧
      modbusInputTimeout ≤ coreElapsed tick now

/-- The input timeout closes stalled connections only. -/
def OnlyStalled (w : Watched σ) : TcpCall → Prop
  | .stepIo io now => ∀ i, TimedOut io now (turnOf w.port io now i) i →
      Stalled
        (arrivalsAt w.arrivals w.port.completionContext (afterRead io now (turnOf w.port io now i) i)
          now (((turnOf w.port io now i).clients i).conn))
        ((afterRead io now (turnOf w.port io now i) i).clients i) now
  | _ => True

/-! ## The condition -/

/-- The requests the dispatcher would still take for client `i`. -/
def room (l : TcpListener) (i : ClientIndex) : Nat :=
  match findSlot l.dispatcher (l.clients i).id with
  | some j =>
      if (l.dispatcher.clients j).epoch = (l.clients i).epoch then
        modbusClientQueueMax - (l.dispatcher.clients j).requests.length
      else 0
  | none => 0

/-- What `recv` brings for a client. -/
def heard (client : TcpClient) : RecvResult → List UInt8
  | .got data => if client.peerEof then [] else data.take modbusSocketIoStepMax
  | _ => []

/-- Client `i` reads nothing, or the dispatcher has room for every frame completed and, if
    one was begun before, nothing is left after them (or it was begun at this very tick). -/
def KeepsStart (io : SocketIo) (now : CoreTick) (l : TcpListener) (i : ClientIndex) : Prop :=
  (l.clients i).opened = true → heard (l.clients i) (io.recv i) ≠ [] →
    (parseWhole ((l.clients i).rx.bytes ++ heard (l.clients i) (io.recv i))).1.length ≤ room l i ∧
      ((parseWhole ((l.clients i).rx.bytes ++ heard (l.clients i) (io.recv i))).2 = none ∨
        (parseWhole ((l.clients i).rx.bytes ++ heard (l.clients i) (io.recv i))).2 = some [] ∨
        (parseWhole ((l.clients i).rx.bytes ++ heard (l.clients i) (io.recv i))).1 = [] ∨
        (l.clients i).rx.bytes = [] ∨ (l.clients i).frameStartedAt = now)

instance (io : SocketIo) (now : CoreTick) (l : TcpListener) (i : ClientIndex) :
    Decidable (KeepsStart io now l i) :=
  inferInstanceAs (Decidable (_ → _ → _ ∧ _))

def KeepsStarts (w : Watched σ) : TcpCall → Prop
  | .stepIo io now => ∀ i, KeepsStart io now (turnOf w.port io now i) i
  | _ => True

instance (w : Watched σ) (call : TcpCall) : Decidable (KeepsStarts w call) := by
  cases call with
  | stepIo io now =>
    exact inferInstanceAs (Decidable (∀ i, KeepsStart io now (turnOf w.port io now i) i))
  | call op => exact inferInstanceAs (Decidable True)
  | «open» bound => exact inferInstanceAs (Decidable True)
  | close => exact inferInstanceAs (Decidable True)

/-! ## What leaves the fronts alone -/

/-- The front of `client'` is that of `client`, an open client. -/
structure SameFront (client' client : TcpClient) : Prop where
  opened : client.opened = true
  conn : client'.conn = client.conn
  bytes : client'.rx.bytes = client.rx.bytes
  started : client'.frameStartedAt = client.frameStartedAt

theorem SameFront.refl {client : TcpClient} (h : client.opened = true) : SameFront client client :=
  ⟨h, rfl, rfl, rfl⟩

theorem SameFront.trans {a b c : TcpClient} (h : SameFront b a) (h' : SameFront c b) : SameFront c a :=
  ⟨h.opened, h'.conn.trans h.conn, h'.bytes.trans h.bytes, h'.started.trans h.started⟩

/-- Nothing is received or parsed; clients may be closed. -/
structure Rests (l l' : TcpListener) : Prop where
  received : ∀ c, (l'.history c).received = (l.history c).received
  accepts : l'.accepts = l.accepts
  clients : ∀ i, (l'.clients i).opened = true → SameFront (l'.clients i) (l.clients i)

theorem Rests.refl (l : TcpListener) : Rests l l := ⟨fun _ => rfl, rfl, fun _ h => .refl h⟩

theorem Rests.trans {l l' l'' : TcpListener} (h : Rests l l') (h' : Rests l' l'') : Rests l l'' where
  received := fun c => (h'.received c).trans (h.received c)
  accepts := h'.accepts.trans h.accepts
  clients := fun i hi => (h.clients i (h'.clients i hi).opened).trans (h'.clients i hi)

theorem rests_setClient (l : TcpListener) (i : ClientIndex) {client : TcpClient}
    (h : client.opened = true → SameFront client (l.clients i)) : Rests l (l.setClient i client) := by
  refine ⟨fun _ => rfl, rfl, ?_⟩
  intro j hj
  by_cases hij : j = i
  · subst hij
    rw [setClient_self] at hj ⊢
    exact h hj
  · rw [setClient_ne hij] at hj ⊢
    exact .refl hj

theorem rests_record (l : TcpListener) (c : Nat) {f : ConnectionHistory → ConnectionHistory}
    (h : (f (l.history c)).received = (l.history c).received) : Rests l (l.record c f) := by
  refine ⟨?_, rfl, fun _ h => .refl h⟩
  intro c'
  by_cases hc : c' = c
  · subst hc
    rw [record_history_self]
    exact h
  · rw [record_history_ne hc]

theorem rests_closeClient (l : TcpListener) (i : ClientIndex) : Rests l (closeClient l i) := by
  have hset : Rests l (l.setClient i resetClient) := rests_setClient l i fun h => by cases h
  exact ⟨hset.received, hset.accepts, hset.clients⟩

theorem rests_writeClient (l : TcpListener) (i : ClientIndex) (now : CoreTick) (send : SendResult) :
    Rests l (writeClient l i now send) := by
  have hadvance : ∀ (slot : List UInt8) (amount : Nat),
      (advanceTx (l.clients i) slot amount now).opened = true →
      SameFront (advanceTx (l.clients i) slot amount now) (l.clients i) := by
    intro slot amount
    unfold advanceTx
    split <;> exact fun h => ⟨h, rfl, rfl, rfl⟩
  unfold writeClient
  split
  · exact .refl l
  split
  · split
    · exact .refl l
    · exact (rests_setClient l i (hadvance _ _)).trans (rests_record _ _ rfl)
  · exact .refl l
  · exact rests_closeClient l i

theorem rests_retireClient (held : List CoreTransaction) (l : TcpListener) (i : ClientIndex)
    (now : CoreTick) : Rests l (retireClient held l i now) := by
  unfold retireClient
  split
  · exact rests_closeClient l i
  split
  · exact rests_closeClient l i
  · split
    · exact rests_closeClient l i
    · exact .refl l

theorem rests_appendResponse (l : TcpListener) (i : ClientIndex) (serial : Nat)
    (data : List UInt8) : Rests l (appendResponse l i serial data) := by
  unfold appendResponse
  refine Rests.trans ?_ (rests_record _ _ (by rfl))
  exact rests_setClient l i fun h => ⟨h, rfl, rfl, rfl⟩

theorem rests_queueResponse (l : TcpListener) (clientId epoch : BitVec 32) (serial : Nat)
    (data : List UInt8) :
    Rests l (modbusTcpListenerQueueResponse l clientId epoch serial data).2 := by
  unfold modbusTcpListenerQueueResponse
  split
  · exact .refl l
  split
  · exact .refl l
  · split
    · exact rests_closeClient l _
    · exact rests_appendResponse l _ serial data

theorem rests_completion (l : TcpListener) (t : CoreTransaction) (status : CoreTransactionStatus)
    (response : List UInt8) : Rests l (completion l t status response) := by
  unfold completion
  split
  · split
    · exact .refl l
    · exact rests_queueResponse l _ _ _ _
  split
  · exact .refl l
  split
  · exact .refl l
  · split
    · exact .refl l
    · exact rests_queueResponse l _ _ _ _

theorem rests_notifies {l l' : TcpListener} (h : Notifies (some completion) l l') : Rests l l' := by
  induction h with
  | refl => exact .refl l
  | tail _ hone ih =>
    obtain ⟨notify, hnotify, t, status, response, rfl⟩ := hone
    cases hnotify
    exact ih.trans (rests_completion _ t status response)

theorem rests_noteSubmission (l : TcpListener) (j : ClientIndex) (request : ModbusTcpRequest)
    (result : CoreSubmitResult) (serial : Nat) :
    Rests l (noteSubmission l j request result serial) := by
  unfold noteSubmission
  have hdispatcher : Rests l { l with dispatcher := dispatcherAdvance l.dispatcher j result } :=
    ⟨fun _ => rfl, rfl, fun _ h => .refl h⟩
  split
  · exact hdispatcher.trans (rests_record _ _ (by rfl))
  · exact hdispatcher

theorem rests_modbusTcpListenerClose (l : TcpListener) : Rests l (modbusTcpListenerClose l) := by
  have hclose : ∀ (order : List ClientIndex) (l : TcpListener), Rests l (order.foldl closeClient l) := by
    intro order
    induction order with
    | nil => exact .refl
    | cons i rest ih => exact fun l => (rests_closeClient l i).trans (ih _)
  have hall := hclose (List.finRange modbusClientMax) l
  exact ⟨hall.received, hall.accepts, hall.clients⟩

/-! ## The parser, as long as the dispatcher has room -/

theorem findSlot_requests (d : ModbusDispatcher) (j : ClientIndex) (id : BitVec 32)
    (requests : List ModbusTcpRequest) :
    findSlot (d.setSlot j { d.clients j with requests := requests }) id = findSlot d id := by
  have hsame : ∀ k, ((d.setSlot j { d.clients j with requests := requests }).clients k).connected =
        (d.clients k).connected ∧
      ((d.setSlot j { d.clients j with requests := requests }).clients k).id = (d.clients k).id := by
    intro k
    by_cases hkj : k = j
    · subst hkj
      simp [ModbusDispatcher.setSlot]
    · rw [setSlot_ne hkj]
      exact ⟨rfl, rfl⟩
  unfold findSlot
  congr 1
  funext k
  rw [(hsame k).1, (hsame k).2]

theorem room_of_slot {l : TcpListener} {i j : ClientIndex}
    (hfind : findSlot l.dispatcher (l.clients i).id = some j)
    (hepoch : (l.dispatcher.clients j).epoch = (l.clients i).epoch) :
    room l i = modbusClientQueueMax - (l.dispatcher.clients j).requests.length := by
  unfold room
  rw [hfind]
  exact if_pos hepoch

/-- The slot that has room. -/
theorem room_pos {l : TcpListener} {i : ClientIndex} (h : 0 < room l i) :
    ∃ j, findSlot l.dispatcher (l.clients i).id = some j ∧
      (l.dispatcher.clients j).epoch = (l.clients i).epoch ∧
      (l.dispatcher.clients j).requests.length < modbusClientQueueMax := by
  cases hfind : findSlot l.dispatcher (l.clients i).id with
  | none =>
    unfold room at h
    rw [hfind] at h
    cases h
  | some j =>
    by_cases hepoch : (l.dispatcher.clients j).epoch = (l.clients i).epoch
    · rw [room_of_slot hfind hepoch] at h
      exact ⟨j, rfl, hepoch, by omega⟩
    · unfold room at h
      rw [hfind] at h
      simp only [if_neg hepoch] at h
      cases h

/-- With room the frame is taken, and there is room for one less. -/
theorem admitAdu_room {l : TcpListener} {i : ClientIndex} (h : 0 < room l i) (adu : MbapAdu) :
    (admitAdu i l adu).1 = 0 ∧ room (admitAdu i l adu).2 i = room l i - 1 := by
  obtain ⟨j, hfind, hepoch, hroom⟩ := room_pos h
  generalize hslot : ({ l.dispatcher.clients j with
    requests := (l.dispatcher.clients j).requests ++ [clientRequest (l.clients i) adu] } :
      ModbusClientSlot) = slot
  have henqueue : modbusDispatcherEnqueue l.dispatcher (clientRequest (l.clients i) adu) =
      (0, l.dispatcher.setSlot j slot) := by
    unfold modbusDispatcherEnqueue
    rw [show (clientRequest (l.clients i) adu).clientId = (l.clients i).id from rfl, hfind]
    simp only
    rw [if_neg (show ¬ (l.dispatcher.clients j).epoch ≠ (clientRequest (l.clients i)
      adu).clientEpoch from not_not.mpr hepoch), if_neg (Nat.ne_of_lt hroom), hslot]
  have hadmitted : admitAdu i l adu =
      (0, ({ l with dispatcher := l.dispatcher.setSlot j slot }).record (l.clients i).conn fun h =>
        { h with requests := h.requests ++ [adu] }) := by
    unfold admitAdu
    rw [henqueue]
    rfl
  have hself : (l.dispatcher.setSlot j slot).clients j = slot := Function.update_self ..
  have hfind' : findSlot (l.dispatcher.setSlot j slot) (l.clients i).id = some j := by
    rw [← hslot, findSlot_requests]
    exact hfind
  have hroom' : room (admitAdu i l adu).2 i =
      modbusClientQueueMax - ((l.dispatcher.setSlot j slot).clients j).requests.length := by
    rw [hadmitted]
    refine room_of_slot hfind' ?_
    show ((l.dispatcher.setSlot j slot).clients j).epoch = (l.clients i).epoch
    rw [hself, ← hslot]
    exact hepoch
  refine ⟨by rw [hadmitted], ?_⟩
  rw [hroom', room_of_slot hfind hepoch, hself, ← hslot]
  simp only [List.length_append, List.length_singleton]
  omega

/-- As long as there is room for its frames the parser does what the reference does. -/
theorem parseAvailable_room {i : ClientIndex} (passes : Nat) {stream : MbapStream} {l : TcpListener}
    (hlength : stream.bytes.length ≤ passes)
    (hroom : (parseFrames passes stream.bytes).1.length ≤ room l i) :
    (∀ rest, (parseFrames passes stream.bytes).2 = some rest →
        (parseAvailable (admitAdu i) passes stream l).2.1.bytes = rest) ∧
      ((parseFrames passes stream.bytes).2 = none →
        (parseAvailable (admitAdu i) passes stream l).1 = -1) := by
  induction passes generalizing stream l with
  | zero =>
    refine ⟨?_, ?_⟩
    · intro rest hrest
      cases hrest
      rfl
    · intro hnone
      cases hnone
  | succ passes ih =>
    rw [parseAvailable_head]
    unfold parseFrames at hroom ⊢
    cases hhead : frameHead stream.bytes with
    | unfinished =>
      refine ⟨?_, ?_⟩
      · intro rest hrest
        cases hrest
        rfl
      · intro hnone
        cases hnone
    | malformed =>
      refine ⟨?_, ?_⟩
      · intro rest hrest
        cases hrest
      · intro _
        rfl
    | complete length =>
      rw [hhead] at hroom
      simp only [List.length_cons] at hroom
      obtain ⟨htaken, hless⟩ := admitAdu_room (show 0 < room l i by omega) (aduAt stream.bytes)
      obtain ⟨-, hmin, -, -, -⟩ := frameHead_complete hhead
      have hshorter : (stream.bytes.drop length).length ≤ passes := by
        rw [List.length_drop]
        omega
      have hfewer : (parseFrames passes (stream.bytes.drop length)).1.length ≤
          room (admitAdu i l (aduAt stream.bytes)).2 i := by
        rw [hless]
        omega
      have hrest := @ih { stream with bytes := stream.bytes.drop length } _ hshorter hfewer
      cases hcall : admitAdu i l (aduAt stream.bytes) with
      | mk result l' =>
        rw [hcall] at htaken hrest
        cases htaken
        exact hrest

/-! ## Feeding -/

/-- What the parser's callback leaves: the clients and what was received. -/
theorem feed_rests (l : TcpListener) (i : ClientIndex) (data : List UInt8) :
    (mbapStreamFeed (l.clients i).rx data (admitAdu i) l).2.2.clients = l.clients ∧
      (∀ c, ((mbapStreamFeed (l.clients i).rx data (admitAdu i) l).2.2.history c).received =
        (l.history c).received) ∧
      (mbapStreamFeed (l.clients i).rx data (admitAdu i) l).2.2.accepts = l.accepts := by
  have hadmit : ∀ (l' : TcpListener) (adu : MbapAdu),
      (∀ c, ((admitAdu i l' adu).2.history c).received = (l'.history c).received) ∧
        (admitAdu i l' adu).2.accepts = l'.accepts := by
    intro l' adu
    rcases admitAdu_cases l' i adu with ⟨-, hadmitted⟩ | ⟨-, hadmitted⟩
    · rw [hadmitted]
      have hrecord := rests_record { l' with dispatcher := (enqueued l' i adu).2 }
        (l'.clients i).conn (f := fun h => { h with requests := h.requests ++ [adu] }) rfl
      exact ⟨hrecord.received, rfl⟩
    · rw [hadmitted]
      exact ⟨fun _ => rfl, rfl⟩
  have hkeeps : KeepsFrames (admitAdu i) fun _ l' => l'.clients = l.clients ∧
      (∀ c, (l'.history c).received = (l.history c).received) ∧ l'.accepts = l.accepts := by
    have hkeep : ∀ (adu : MbapAdu) (l' : TcpListener), (l'.clients = l.clients ∧
        (∀ c, (l'.history c).received = (l.history c).received) ∧ l'.accepts = l.accepts) →
        ((admitAdu i l' adu).2.clients = l.clients ∧
          (∀ c, ((admitAdu i l' adu).2.history c).received = (l.history c).received) ∧
          (admitAdu i l' adu).2.accepts = l.accepts) := by
      rintro adu l' ⟨hclients, hreceived, haccepts⟩
      obtain ⟨hreceived', haccepts'⟩ := hadmit l' adu
      exact ⟨(admitAdu_clients l' i adu).trans hclients,
        fun c => (hreceived' c).trans (hreceived c), haccepts'.trans haccepts⟩
    exact ⟨fun adu _ l' _ _ h => hkeep adu l' h, fun adu _ l' _ h => hkeep adu l' h⟩
  have hstart : l.clients = l.clients ∧
      (∀ c, (l.history c).received = (l.history c).received) ∧ l.accepts = l.accepts :=
    ⟨rfl, fun _ => rfl, rfl⟩
  rcases mbapStreamFeed_rule hkeeps (l.clients i).rx data hstart with ⟨-, -, h⟩ | ⟨-, h⟩
  · exact h
  · rw [h]
    exact ⟨rfl, fun _ => rfl, rfl⟩

/-- The client after a feed that does not close it. -/
theorem feedClient_self (l : TcpListener) (i : ClientIndex) (data : List UInt8) :
    (feedClient l i data).2.clients i =
      { l.clients i with rx := (mbapStreamFeed (l.clients i).rx data (admitAdu i) l).2.1 } := by
  obtain ⟨hclients, -, -⟩ := feed_rests l i data
  unfold feedClient
  dsimp only
  rw [setClient_self, hclients]

/-- A parser with nothing complete in front of it has nothing to drain. -/
theorem drainParser_unfinished {l : TcpListener} {i : ClientIndex}
    (hhead : frameHead (l.clients i).rx.bytes = .unfinished) :
    drainParser l i = l ∨ drainParser l i = closeClient l i := by
  have hsame : ∃ verdict, mbapStreamFeed (l.clients i).rx [] (admitAdu i) l =
      (verdict, (l.clients i).rx, l) := by
    unfold mbapStreamFeed
    split
    · exact ⟨_, rfl⟩
    · rw [if_neg (show ¬ ([] : List UInt8).length > mbapRxCapacity - (l.clients i).rx.bytes.length
        from Nat.not_lt_zero _), List.append_nil]
      cases hlength : (l.clients i).rx.bytes.length with
      | zero => exact ⟨_, rfl⟩
      | succ passes =>
        rw [parseAvailable_head, hhead]
        exact ⟨_, rfl⟩
  have hset : l.setClient i { l.clients i with rx := (l.clients i).rx } = l := by
    simp [TcpListener.setClient]
  obtain ⟨verdict, hverdict⟩ := hsame
  unfold drainParser feedClient
  rw [hverdict]
  dsimp only
  rw [hset]
  cases verdict with
  | malformed => exact .inr rfl
  | ok | overflow | stopped => exact .inl rfl

/-- `data` has come for client `i`, which may be closed for it; the rest is left alone. -/
structure Hears (l l' : TcpListener) (i : ClientIndex) (data : List UInt8) (now : CoreTick) :
    Prop where
  received : ∀ c, (l'.history c).received =
    (l.history c).received ++ if c = (l.clients i).conn then data else []
  accepts : l'.accepts = l.accepts
  others : ∀ j, j ≠ i → (l'.clients j).opened = true → SameFront (l'.clients j) (l.clients j)
  own : (l'.clients i).opened = true →
    (l'.clients i).conn = (l.clients i).conn ∧
      (parseWhole ((l.clients i).rx.bytes ++ data)).2 = some (l'.clients i).rx.bytes ∧
      (l'.clients i).frameStartedAt =
        if (l.clients i).rx.bytes = [] then now else (l.clients i).frameStartedAt

/-- With room for its frames, what a feed leaves in the stream is what the reference
    parser leaves. -/
theorem feed_room {l : TcpListener} {i : ClientIndex} {data : List UInt8}
    (hroom : (parseWhole ((l.clients i).rx.bytes ++ data)).1.length ≤ room l i)
    (hmalformed : (feedClient l i data).1 ≠ .malformed)
    (hoverflow : (feedClient l i data).1 ≠ .overflow) :
    (parseWhole ((l.clients i).rx.bytes ++ data)).2 =
      some (mbapStreamFeed (l.clients i).rx data (admitAdu i) l).2.1.bytes := by
  have hverdict : (feedClient l i data).1 =
      (mbapStreamFeed (l.clients i).rx data (admitAdu i) l).1 := rfl
  rw [hverdict] at hmalformed hoverflow
  obtain ⟨hsome, hnone⟩ := @parseAvailable_room i ((l.clients i).rx.bytes ++ data).length
    { (l.clients i).rx with bytes := (l.clients i).rx.bytes ++ data } l (Nat.le_refl _) hroom
  unfold mbapStreamFeed at *
  split at hmalformed
  · exact absurd rfl hmalformed
  · rename_i hclean
    rw [if_neg hclean] at hoverflow
    rw [if_neg hclean]
    split at hoverflow
    · exact absurd rfl hoverflow
    · rename_i hfits
      rw [if_neg hfits] at hmalformed ⊢
      generalize parseAvailable (admitAdu i) ((l.clients i).rx.bytes ++ data).length
        { (l.clients i).rx with bytes := (l.clients i).rx.bytes ++ data } l = out at *
      obtain ⟨result, stream, l'⟩ := out
      cases hrest : (parseWhole ((l.clients i).rx.bytes ++ data)).2 with
      | none =>
        have hresult : result = -1 := hnone hrest
        subst hresult
        exact absurd rfl hmalformed
      | some rest =>
        have hbytes : stream.bytes = rest := hsome rest hrest
        dsimp only
        split
        · rw [hbytes]
        · split <;> rw [hbytes]

theorem hears_receiveBytes {l : TcpListener} {i : ClientIndex} (now : CoreTick) {data : List UInt8}
    (hroom : (parseWhole ((l.clients i).rx.bytes ++ data)).1.length ≤ room l i) :
    Hears l (receiveBytes l i now data) i data now := by
  generalize hnoted : (l.setClient i
    { l.clients i with
      frameStartedAt := if (l.clients i).rx.bytes = [] then now else (l.clients i).frameStartedAt
      lastProgress := now }).record (l.clients i).conn (fun h =>
    { h with received := h.received ++ data }) = noted
  have hself : noted.clients i =
      { l.clients i with
        frameStartedAt := if (l.clients i).rx.bytes = [] then now else (l.clients i).frameStartedAt
        lastProgress := now } := by
    rw [← hnoted, record_clients, setClient_self]
  have hother : ∀ j, j ≠ i → noted.clients j = l.clients j := by
    intro j hj
    rw [← hnoted, record_clients, setClient_ne hj]
  have hreceived : ∀ c, (noted.history c).received =
      (l.history c).received ++ if c = (l.clients i).conn then data else [] := by
    intro c
    by_cases hc : c = (l.clients i).conn
    · rw [if_pos hc, hc, ← hnoted, record_history_self]
      rfl
    · rw [if_neg hc, List.append_nil, ← hnoted, record_history_ne hc]
      rfl
  have haccepts : noted.accepts = l.accepts := by rw [← hnoted]; rfl
  have hroom' : (parseWhole ((noted.clients i).rx.bytes ++ data)).1.length ≤ room noted i := by
    have hsame : room noted i = room l i := by
      unfold room
      rw [hself, ← hnoted]
      rfl
    rw [hsame, hself]
    exact hroom
  -- the fed parser writes the stream of client `i` and touches nothing else of what counts here
  obtain ⟨hclients, hkept, hkept'⟩ := feed_rests noted i data
  have hfed : (feedClient noted i data).2.clients i =
      { noted.clients i with
        rx := (mbapStreamFeed (noted.clients i).rx data (admitAdu i) noted).2.1 } :=
    feedClient_self noted i data
  have hclosed : Hears l (closeClient (feedClient noted i data).2 i) i data now := by
    refine ⟨fun c => (hkept c).trans (hreceived c), hkept'.trans haccepts, ?_, ?_⟩
    · intro j hj hopened
      have hj' : (closeClient (feedClient noted i data).2 i).clients j = l.clients j := by
        show ((feedClient noted i data).2.setClient i resetClient).clients j = _
        rw [setClient_ne hj]
        unfold feedClient
        dsimp only
        rw [setClient_ne hj, hclients, hother j hj]
      rw [hj'] at hopened ⊢
      exact .refl hopened
    · intro hopened
      have hi' : (closeClient (feedClient noted i data).2 i).clients i = resetClient :=
        setClient_self ..
      rw [hi'] at hopened
      cases hopened
  have hopen : (feedClient noted i data).1 ≠ .malformed → (feedClient noted i data).1 ≠ .overflow →
      Hears l (feedClient noted i data).2 i data now := by
    intro hmalformed hoverflow
    refine ⟨fun c => (hkept c).trans (hreceived c), hkept'.trans haccepts, ?_, ?_⟩
    · intro j hj hopened
      have hj' : (feedClient noted i data).2.clients j = l.clients j := by
        unfold feedClient
        dsimp only
        rw [setClient_ne hj, hclients, hother j hj]
      rw [hj'] at hopened ⊢
      exact .refl hopened
    · intro _
      have hparse := feed_room hroom' hmalformed hoverflow
      rw [hfed]
      rw [hself] at hparse ⊢
      exact ⟨rfl, hparse, rfl⟩
  unfold receiveBytes
  rw [hnoted]
  cases hcase : feedClient noted i data with
  | mk verdict l' =>
    rw [hcase] at hclosed hopen
    cases verdict with
    | malformed | overflow => exact hclosed
    | ok | stopped => exact hopen MbapResult.noConfusion MbapResult.noConfusion

/-! ## The start times -/

/-- Nothing complete is in front, and the start time is that of the first byte. -/
structure FrontStamped (arrivals : List CoreTick) (client : TcpClient) : Prop where
  unfinished : frameHead client.rx.bytes = .unfinished
  fits : client.rx.bytes.length ≤ arrivals.length
  started : client.rx.bytes ≠ [] →
    arrivals[arrivals.length - client.rx.bytes.length]? = some client.frameStartedAt

structure Stamped (arrivals : Nat → List CoreTick) (l : TcpListener) : Prop where
  length : ∀ c, (arrivals c).length = (l.history c).received.length
  conn : ∀ i, (l.clients i).opened = true → (l.clients i).conn < l.accepts
  distinct : ∀ i j, (l.clients i).opened = true → (l.clients j).opened = true →
    (l.clients i).conn = (l.clients j).conn → i = j
  front : ∀ i, (l.clients i).opened = true →
    FrontStamped (arrivals (l.clients i).conn) (l.clients i)

theorem FrontStamped.same {arrivals : List CoreTick} {client client' : TcpClient}
    (h : FrontStamped arrivals client) (hsame : SameFront client' client) :
    FrontStamped arrivals client' := by
  obtain ⟨hunfinished, hfits, hstarted⟩ := h
  exact ⟨by rw [hsame.bytes]; exact hunfinished, by rw [hsame.bytes]; exact hfits,
    by rw [hsame.bytes, hsame.started]; exact hstarted⟩

theorem Stamped.rests {arrivals : Nat → List CoreTick} {l l' : TcpListener} (h : Stamped arrivals l)
    (hrests : Rests l l') : Stamped arrivals l' where
  length := fun c => by rw [hrests.received c]; exact h.length c
  conn := by
    intro i hi
    have hsame := hrests.clients i hi
    rw [hsame.conn, hrests.accepts]
    exact h.conn i hsame.opened
  distinct := by
    intro i j hi hj hij
    have hsi := hrests.clients i hi
    have hsj := hrests.clients j hj
    rw [hsi.conn, hsj.conn] at hij
    exact h.distinct i j hsi.opened hsj.opened hij
  front := by
    intro i hi
    have hsame := hrests.clients i hi
    rw [hsame.conn]
    exact (h.front i hsame.opened).same hsame

/-- A new connection starts with an empty buffer. -/
theorem Stamped.enter {arrivals : Nat → List CoreTick} {l : TcpListener} (h : Stamped arrivals l)
    (i : ClientIndex) (now : CoreTick) (dispatcher : ModbusDispatcher) :
    Stamped arrivals { enterClient l i now with dispatcher := dispatcher } := by
  have hself : (enterClient l i now).clients i =
      { resetClient with
        opened := true, id := clientId i, epoch := l.nextEpoch, lastProgress := now
        rx := mbapStreamInit, conn := l.accepts } := setClient_self ..
  have hother : ∀ j, j ≠ i → (enterClient l i now).clients j = l.clients j :=
    fun j hj => setClient_ne hj _
  refine ⟨h.length, ?_, ?_, ?_⟩
  · intro j hj
    show ((enterClient l i now).clients j).conn < l.accepts + 1
    by_cases hij : j = i
    · subst hij
      rw [hself]
      exact Nat.lt_succ_self _
    · replace hj : ((enterClient l i now).clients j).opened = true := hj
      rw [hother j hij] at hj ⊢
      exact Nat.lt_succ_of_lt (h.conn j hj)
  · intro j k hj hk hjk
    replace hj : ((enterClient l i now).clients j).opened = true := hj
    replace hk : ((enterClient l i now).clients k).opened = true := hk
    replace hjk : ((enterClient l i now).clients j).conn =
      ((enterClient l i now).clients k).conn := hjk
    by_cases hij : j = i
    · by_cases hik : k = i
      · exact hij.trans hik.symm
      · rw [hother k hik] at hk hjk
        rw [hij, hself] at hjk
        have hlt := h.conn k hk
        rw [← hjk] at hlt
        exact absurd hlt (Nat.lt_irrefl _)
    · rw [hother j hij] at hj hjk
      by_cases hik : k = i
      · rw [hik, hself] at hjk
        have hlt := h.conn j hj
        rw [hjk] at hlt
        exact absurd hlt (Nat.lt_irrefl _)
      · rw [hother k hik] at hk hjk
        exact h.distinct j k hj hk hjk
  · intro j hj
    replace hj : ((enterClient l i now).clients j).opened = true := hj
    show FrontStamped (arrivals ((enterClient l i now).clients j).conn)
      ((enterClient l i now).clients j)
    by_cases hij : j = i
    · subst hij
      rw [hself]
      exact ⟨rfl, Nat.zero_le _, fun hne => absurd rfl hne⟩
    · rw [hother j hij] at hj ⊢
      exact h.front j hj

theorem Stamped.accept {arrivals : Nat → List CoreTick} {l : TcpListener} (h : Stamped arrivals l)
    (now : CoreTick) (accepted : Bool) :
    Stamped arrivals (acceptOne l now accepted) ∧
      ∀ c, ((acceptOne l now accepted).history c).received = (l.history c).received := by
  unfold acceptOne
  split
  · exact ⟨h, fun _ => rfl⟩
  split
  · exact ⟨h, fun _ => rfl⟩
  · split
    · exact ⟨h.enter _ now _, fun _ => rfl⟩
    · exact ⟨(h.enter _ now _).rests (rests_closeClient _ _), fun _ => rfl⟩

/-! ## Hearing -/

/-- One of the bytes that came now. -/
theorem arrival_now (arrivals : List CoreTick) {more rest : Nat} (hpos : 0 < rest)
    (hrest : rest ≤ more) (now : CoreTick) :
    (arrivals ++ List.replicate more now)[(arrivals ++ List.replicate more now).length - rest]? =
      some now := by
  have hlength : (arrivals ++ List.replicate more now).length = arrivals.length + more := by simp
  rw [hlength, List.getElem?_append_right (by omega), List.getElem?_replicate, if_pos (by omega)]

/-- Under the condition the start time stays that of the first byte. -/
theorem FrontStamped.hear {arrivals : List CoreTick} {client client' : TcpClient}
    {data : List UInt8} {now : CoreTick} (h : FrontStamped arrivals client)
    (hparse : (parseWhole (client.rx.bytes ++ data)).2 = some client'.rx.bytes)
    (hstarted : client'.frameStartedAt =
      if client.rx.bytes = [] then now else client.frameStartedAt)
    (hkeeps : (parseWhole (client.rx.bytes ++ data)).2 = none ∨
      (parseWhole (client.rx.bytes ++ data)).2 = some [] ∨
      (parseWhole (client.rx.bytes ++ data)).1 = [] ∨ client.rx.bytes = [] ∨
      client.frameStartedAt = now) :
    FrontStamped (arrivals ++ List.replicate data.length now) client' := by
  obtain ⟨hunfinished, hsuffix⟩ := parseWhole_rest hparse
  have hfits := h.fits
  have hlength := hsuffix.length_le
  rw [List.length_append] at hlength
  refine ⟨hunfinished, ?_, ?_⟩
  · rw [List.length_append, List.length_replicate]
    omega
  · intro hne
    have hpos : 0 < client'.rx.bytes.length := List.length_pos_iff.mpr hne
    rw [hstarted]
    by_cases hempty : client.rx.bytes = []
    · -- the first byte is one of those that came now
      rw [if_pos hempty]
      rw [hempty, List.length_nil, Nat.zero_add] at hlength
      exact arrival_now arrivals hpos hlength now
    · rw [if_neg hempty]
      by_cases hframes : (parseWhole (client.rx.bytes ++ data)).1 = []
      · -- nothing was completed: the first byte is the one it was
        have hbytes := parseWhole_none hframes hparse
        have hsome : 0 < client.rx.bytes.length := List.length_pos_iff.mpr hempty
        have hindex : (arrivals ++ List.replicate data.length now).length -
            client'.rx.bytes.length = arrivals.length - client.rx.bytes.length := by
          rw [hbytes]
          simp only [List.length_append, List.length_replicate]
          omega
        rw [hindex, List.getElem?_append_left (by omega)]
        exact h.started hempty
      · have hlate := parseWhole_completed h.unfinished hframes hparse
        rcases hkeeps with hnone | hnil | hframes' | hempty' | hnow
        · rw [hnone] at hparse
          cases hparse
        · rw [hnil, Option.some.injEq] at hparse
          exact absurd hparse.symm hne
        · exact absurd hframes' hframes
        · exact absurd hempty' hempty
        · rw [hnow]
          exact arrival_now arrivals hpos hlate now

section Turn

variable {arrivals : Nat → List CoreTick} {l₀ l l' : TcpListener} {now : CoreTick} {i : ClientIndex}

theorem Rests.arrivalsAt (h : Rests l l') :
    arrivalsAt arrivals l₀ l' now = Tcp.arrivalsAt arrivals l₀ l now := by
  funext c
  unfold Tcp.arrivalsAt
  rw [h.received c]

/-- What is noted for the bytes just heard. -/
theorem Hears.arrivalsAt {data : List UInt8}
    (hstart : ∀ c, (arrivals c).length = (l₀.history c).received.length)
    (h : Stamped (Tcp.arrivalsAt arrivals l₀ l now) l) (hhears : Hears l l' i data now) (c : Nat) :
    arrivalsAt arrivals l₀ l' now c = Tcp.arrivalsAt arrivals l₀ l now c ++
      if c = (l.clients i).conn then List.replicate data.length now else [] := by
  have hlength := h.length c
  unfold Tcp.arrivalsAt at hlength ⊢
  rw [List.length_append, List.length_replicate, hstart c] at hlength
  rw [hhears.received c, List.append_assoc]
  congr 1
  by_cases hc : c = (l.clients i).conn
  · rw [if_pos hc, if_pos hc, List.length_append, ← List.replicate_add]
    congr 1
    omega
  · rw [if_neg hc, if_neg hc, List.append_nil, List.append_nil]

theorem Stamped.hears {data : List UInt8}
    (hstart : ∀ c, (arrivals c).length = (l₀.history c).received.length)
    (h : Stamped (Tcp.arrivalsAt arrivals l₀ l now) l) (hopened : (l.clients i).opened = true)
    (hhears : Hears l l' i data now)
    (hkeeps : (parseWhole ((l.clients i).rx.bytes ++ data)).2 = none ∨
      (parseWhole ((l.clients i).rx.bytes ++ data)).2 = some [] ∨
      (parseWhole ((l.clients i).rx.bytes ++ data)).1 = [] ∨ (l.clients i).rx.bytes = [] ∨
      (l.clients i).frameStartedAt = now) :
    Stamped (Tcp.arrivalsAt arrivals l₀ l' now) l' := by
  have hnoted := hhears.arrivalsAt hstart h
  -- an open client was open, on the same connection
  have hsame : ∀ j, (l'.clients j).opened = true →
      (l.clients j).opened = true ∧ (l'.clients j).conn = (l.clients j).conn := by
    intro j hj
    by_cases hij : j = i
    · subst hij
      exact ⟨hopened, (hhears.own hj).1⟩
    · have hsame := hhears.others j hij hj
      exact ⟨hsame.opened, hsame.conn⟩
  refine ⟨?_, ?_, ?_, ?_⟩
  · intro c
    rw [hnoted c, hhears.received c, List.length_append, List.length_append, h.length c]
    by_cases hc : c = (l.clients i).conn
    · rw [if_pos hc, if_pos hc, List.length_replicate]
    · rw [if_neg hc, if_neg hc]
      rfl
  · intro j hj
    rw [(hsame j hj).2, hhears.accepts]
    exact h.conn j (hsame j hj).1
  · intro j k hj hk hjk
    rw [(hsame j hj).2, (hsame k hk).2] at hjk
    exact h.distinct j k (hsame j hj).1 (hsame k hk).1 hjk
  · intro j hj
    rw [hnoted, (hsame j hj).2]
    by_cases hij : j = i
    · subst hij
      obtain ⟨-, hparse, hstarted⟩ := hhears.own hj
      rw [if_pos rfl]
      exact (h.front j hopened).hear hparse hstarted hkeeps
    · have hne : (l.clients j).conn ≠ (l.clients i).conn :=
        fun heq => hij (h.distinct j i (hsame j hj).1 hopened heq)
      rw [if_neg hne, List.append_nil]
      exact (h.front j (hsame j hj).1).same (hhears.others j hij hj)

/-- A read is nothing, a flag, a loss of the connection, or some bytes. -/
theorem stamped_readClient (recv : RecvResult)
    (hstart : ∀ c, (arrivals c).length = (l₀.history c).received.length)
    (h : Stamped (Tcp.arrivalsAt arrivals l₀ l now) l) (hopened : (l.clients i).opened = true)
    (hkeeps : heard (l.clients i) recv ≠ [] →
      (parseWhole ((l.clients i).rx.bytes ++ heard (l.clients i) recv)).1.length ≤ room l i ∧
        ((parseWhole ((l.clients i).rx.bytes ++ heard (l.clients i) recv)).2 = none ∨
          (parseWhole ((l.clients i).rx.bytes ++ heard (l.clients i) recv)).2 = some [] ∨
          (parseWhole ((l.clients i).rx.bytes ++ heard (l.clients i) recv)).1 = [] ∨
          (l.clients i).rx.bytes = [] ∨ (l.clients i).frameStartedAt = now)) :
    Stamped (Tcp.arrivalsAt arrivals l₀ (readClient l i now recv) now) (readClient l i now recv) ∧
      (((readClient l i now recv).clients i).opened = true →
        ((readClient l i now recv).clients i).conn = (l.clients i).conn) := by
  have hrests : ∀ l', Rests l l' → Stamped (Tcp.arrivalsAt arrivals l₀ l' now) l' ∧
      ((l'.clients i).opened = true → (l'.clients i).conn = (l.clients i).conn) := by
    intro l' hrests
    rw [hrests.arrivalsAt]
    exact ⟨h.rests hrests, fun hopened' => (hrests.clients i hopened').conn⟩
  unfold readClient
  split
  · exact hrests l (.refl l)
  · rename_i heof
    cases recv with
    | again => exact hrests l (.refl l)
    | error => exact hrests _ (rests_closeClient l i)
    | got data =>
      dsimp only
      split
      · exact hrests _ (rests_setClient l i fun h => ⟨h, rfl, rfl, rfl⟩)
      · rename_i hdata
        have hheard : heard (l.clients i) (.got data) = data.take modbusSocketIoStepMax :=
          if_neg heof
        have hsome : data.take modbusSocketIoStepMax ≠ [] := by
          intro hnil
          rcases List.take_eq_nil_iff.mp hnil with hzero | hnil
          · cases hzero
          · exact hdata hnil
        rw [hheard] at hkeeps
        obtain ⟨hroom, hkeeps⟩ := hkeeps hsome
        have hhears := hears_receiveBytes now hroom
        exact ⟨h.hears hstart hopened hhears hkeeps, fun hopened' => (hhears.own hopened').1⟩

/-- **A turn** keeps the start times, and the timeout closes the client only if it is
    stalled. -/
theorem stamped_stepClient (held : List CoreTransaction) {io : SocketIo}
    (hstart : ∀ c, (arrivals c).length = (l₀.history c).received.length)
    (h : Stamped (Tcp.arrivalsAt arrivals l₀ l now) l) (hkeeps : KeepsStart io now l i) :
    Stamped (Tcp.arrivalsAt arrivals l₀ (stepClient held io now l i) now)
        (stepClient held io now l i) ∧
      (TimedOut io now l i →
        Stalled (Tcp.arrivalsAt arrivals l₀ (afterRead io now l i) now (l.clients i).conn)
          ((afterRead io now l i).clients i) now) := by
  have hrests : ∀ {l l'}, Stamped (Tcp.arrivalsAt arrivals l₀ l now) l → Rests l l' →
      Stamped (Tcp.arrivalsAt arrivals l₀ l' now) l' := by
    intro l l' h hrests
    rw [hrests.arrivalsAt]
    exact h.rests hrests
  by_cases hopened : (l.clients i).opened = true
  · have hfront := h.front i hopened
    rcases drainParser_unfinished hfront.unfinished with hdrained | hdrained
    · obtain ⟨hread, hconn⟩ := stamped_readClient (io.recv i) hstart h hopened (hkeeps hopened)
      constructor
      · unfold stepClient whenOpen
        rw [if_pos hopened]
        dsimp only
        rw [hdrained, if_pos hopened]
        split
        · split
          · exact hrests hread (rests_closeClient _ i)
          · have hwritten := rests_writeClient (readClient l i now (io.recv i)) i now (io.send i)
            split
            · exact hrests hread (hwritten.trans (rests_retireClient held _ i now))
            · exact hrests hread hwritten
        · exact hread
      · rintro ⟨⟨-, -, hopened'⟩, hbytes, hold⟩
        unfold afterRead at *
        rw [hdrained] at *
        have hfront' := hread.front i hopened'
        rw [hconn hopened'] at hfront'
        exact ⟨hbytes, hfront'.unfinished, _, hfront'.started hbytes, hold⟩
    · have hclosed : ((closeClient l i).clients i).opened = false := by
        show ((l.setClient i resetClient).clients i).opened = false
        rw [setClient_self]
        rfl
      constructor
      · unfold stepClient whenOpen
        rw [if_pos hopened]
        dsimp only
        rw [hdrained, if_neg (by rw [hclosed]; decide)]
        exact hrests h (rests_closeClient l i)
      · rintro ⟨⟨-, hopened', -⟩, -⟩
        rw [hdrained, hclosed] at hopened'
        cases hopened'
  · constructor
    · unfold stepClient whenOpen
      rw [if_neg hopened]
      exact h
    · rintro ⟨⟨hopened', -⟩, -⟩
      exact absurd hopened' hopened

end Turn

/-! ## Steps and runs -/

/-- The callback is the listener's, and the start times are right. -/
structure Timed (w : Watched σ) : Prop where
  completion : w.port.completion = some completion
  stamped : Stamped w.arrivals w.port.completionContext

theorem rests_of_tells {port port' : PortRuntime σ TcpListener} (h : Tells port port')
    (hcompletion : port.completion = some completion) :
    Rests port.completionContext port'.completionContext := by
  have hcontext := h.context
  rw [hcompletion] at hcontext
  exact rests_notifies hcontext

theorem rests_dispatcherStep (port : PortRuntime σ TcpListener)
    (hcompletion : port.completion = some completion) (now queueTimeout responseTimeout : CoreTick) :
    Rests port.completionContext
        (modbusDispatcherStep port now queueTimeout responseTimeout).2.completionContext ∧
      (modbusDispatcherStep port now queueTimeout responseTimeout).2.completion = some completion := by
  unfold modbusDispatcherStep
  split
  · exact ⟨.refl _, hcompletion⟩
  · rename_i j request hpick
    have htells : Tells port (modbusTcpSubmit port request now queueTimeout responseTimeout).2 := by
      unfold modbusTcpSubmit
      split
      · exact .refl port
      · split
        · exact .refl port
        · exact tells_portRuntimeSubmitOperation port _
    have hrests := rests_of_tells htells hcompletion
    exact ⟨hrests.trans (rests_noteSubmission _ j request _ _), htells.completion.trans hcompletion⟩

/-- Nothing is noted where nothing comes. -/
theorem arrivalsAt_rests {arrivals : Nat → List CoreTick} {l l' : TcpListener} (h : Rests l l')
    (now : CoreTick) : arrivalsAt arrivals l l' now = arrivals := by
  funext c
  unfold arrivalsAt
  rw [h.received c, Nat.sub_self]
  exact List.append_nil _

/-- The part of the loop before a turn. -/
theorem take_finRange {i : ClientIndex} {before after : List ClientIndex}
    (h : List.finRange modbusClientMax = before ++ i :: after) :
    (List.finRange modbusClientMax).take i = before := by
  have hlength : before.length < (List.finRange modbusClientMax).length := by
    rw [h, List.length_append, List.length_cons]
    omega
  have hget : (List.finRange modbusClientMax)[before.length] = i := by
    simp [h]
  rw [List.getElem_finRange] at hget
  have hval : before.length = i.val := congrArg Fin.val hget
  rw [← hval, h, List.take_left]

section Step

variable {w : Watched σ} {io : SocketIo} {now : CoreTick}

theorem stamped_loopStart (h : Timed w) :
    Stamped
      (arrivalsAt w.arrivals w.port.completionContext (loopStart w.port io now) now)
      (loopStart w.port io now) := by
  have hnow : Rests w.port.completionContext { w.port.completionContext with now := now } :=
    ⟨fun _ => rfl, rfl, fun _ h => .refl h⟩
  have hsame : Stamped w.arrivals (loopStart w.port io now) ∧
      ∀ c, ((loopStart w.port io now).history c).received =
        (w.port.completionContext.history c).received := by
    unfold loopStart
    split
    · exact (h.stamped.rests hnow).accept now io.accepted
    · exact ⟨h.stamped.rests hnow, fun _ => rfl⟩
  have harrivals : arrivalsAt w.arrivals w.port.completionContext (loopStart w.port io now) now =
      w.arrivals := by
    funext c
    unfold arrivalsAt
    rw [hsame.2 c, Nat.sub_self]
    exact List.append_nil _
  rw [harrivals]
  exact hsame.1

theorem along_turns (hkeeps : KeepsStarts w (.stepIo io now)) :
    Along (stepClient w.port.view.outstanding io now) (fun l i => KeepsStart io now l i)
      (List.finRange modbusClientMax) (loopStart w.port io now) := by
  apply FourVrs.Lib.along_of_forall
  intro before i after horder
  have hturn := hkeeps i
  unfold turnOf at hturn
  rw [take_finRange horder] at hturn
  exact hturn

/-- The start times are right at every turn, and after the loop. -/
theorem stamped_loop (h : Timed w) {order : List ClientIndex}
    (halong : Along (stepClient w.port.view.outstanding io now) (fun l i => KeepsStart io now l i)
      order (loopStart w.port io now)) :
    Stamped
      (arrivalsAt w.arrivals w.port.completionContext
        (order.foldl (stepClient w.port.view.outstanding io now) (loopStart w.port io now)) now)
      (order.foldl (stepClient w.port.view.outstanding io now) (loopStart w.port io now)) := by
  have hstep : ∀ l i, Stamped (arrivalsAt w.arrivals w.port.completionContext l now) l →
      KeepsStart io now l i →
      Stamped
        (arrivalsAt w.arrivals w.port.completionContext
          (stepClient w.port.view.outstanding io now l i) now)
        (stepClient w.port.view.outstanding io now l i) := by
    intro l i hstamped hkeeps
    exact (stamped_stepClient _ h.stamped.length hstamped hkeeps).1
  exact halong.invariant hstep (stamped_loopStart h)

theorem stamped_turnOf (h : Timed w) (hkeeps : KeepsStarts w (.stepIo io now)) (i : ClientIndex) :
    Stamped (arrivalsAt w.arrivals w.port.completionContext (turnOf w.port io now i) now)
      (turnOf w.port io now i) := by
  have halong := along_turns hkeeps
  rw [← List.take_append_drop i.val (List.finRange modbusClientMax),
    FourVrs.Lib.along_append] at halong
  exact stamped_loop h halong.1

theorem onlyStalled_stepIo (h : Timed w) (hkeeps : KeepsStarts w (.stepIo io now)) :
    OnlyStalled w (.stepIo io now) := by
  intro i htimed
  exact (stamped_stepClient w.port.view.outstanding h.stamped.length (stamped_turnOf h hkeeps i)
    (hkeeps i)).2 htimed

theorem timed_stepIo (h : Timed w) (hkeeps : KeepsStarts w (.stepIo io now)) :
    Timed (watch w (.stepIo io now)) := by
  have hloop := stamped_loop h (along_turns hkeeps)
  obtain ⟨hrests, hcompletion⟩ := rests_dispatcherStep
    (withListener w.port (stepClients w.port.view.outstanding io now w.port.completionContext))
    h.completion now 1000 1000
  refine ⟨hcompletion, ?_⟩
  have harrivals : arrivalsAt w.arrivals w.port.completionContext _ now = _ := hrests.arrivalsAt
  show Stamped (arrivalsAt w.arrivals w.port.completionContext _ now) _
  unfold TcpCall.exec modbusTcpListenerStepIo
  rw [harrivals]
  exact Stamped.rests hloop hrests

end Step

/-- The other calls bring nothing. -/
theorem timed_rests {w : Watched σ} (h : Timed w) {call : TcpCall}
    (hcompletion : (call.exec w.port).completion = w.port.completion)
    (hrests : Rests w.port.completionContext (call.exec w.port).completionContext) :
    Timed (watch w call) := by
  refine ⟨hcompletion.trans h.completion, ?_⟩
  show Stamped (arrivalsAt w.arrivals w.port.completionContext _ call.time) _
  rw [arrivalsAt_rests hrests]
  exact h.stamped.rests hrests

theorem timed_watch {w : Watched σ} {call : TcpCall} (h : Timed w) (hkeeps : KeepsStarts w call) :
    Timed (watch w call) := by
  cases call with
  | stepIo io now => exact timed_stepIo h hkeeps
  | call op =>
    have htells := tells_exec w.port op
    exact timed_rests h htells.completion (rests_of_tells htells h.completion)
  | «open» bound =>
    refine timed_rests h rfl ?_
    show Rests w.port.completionContext (modbusTcpListenerOpen w.port.completionContext bound).2
    unfold modbusTcpListenerOpen
    split
    · exact .refl _
    · split
      · exact ⟨fun _ => rfl, rfl, fun _ h => .refl h⟩
      · exact .refl _
  | close => exact timed_rests h rfl (rests_modbusTcpListenerClose _)

theorem timed_watched (port : PortRuntime σ TcpListener) : Timed (watched port) := by
  refine ⟨rfl, fun _ => rfl, ?_, ?_, ?_⟩
  · intro i hi
    cases hi
  · intro i j hi
    cases hi
  · intro i hi
    cases hi

/-- **The input timeout**: in a run in which every read keeps the start time, it closes
    stalled connections only. -/
theorem onlyStalled_of_keepsStarts (port : PortRuntime σ TcpListener) (calls : List TcpCall)
    (h : Along watch KeepsStarts calls (watched port)) :
    Along watch OnlyStalled calls (watched port) := by
  have hrun : ∀ (calls : List TcpCall) (w : Watched σ), Timed w → Along watch KeepsStarts calls w →
      Along watch OnlyStalled calls w := by
    intro calls
    induction calls with
    | nil => intro w _ _; trivial
    | cons call calls ih =>
      intro w htimed halong
      refine ⟨?_, ih (watch w call) (timed_watch htimed halong.1) halong.2⟩
      cases call with
      | stepIo io now => exact onlyStalled_stepIo htimed halong.1
      | call op | «open» bound | close => trivial
  exact hrun calls (watched port) (timed_watched port) h

/-! ## Two runs -/

/-- Client 0 sends nothing. -/
def idleIo : SocketIo where
  accepted := false
  recv := fun _ => .again
  send := fun _ => .again

/-- The start of a request at tick 0, and nothing more. -/
def stalledRun : List TcpCall :=
  [.open true, .stepIo (playIo true (playFrame.take 3)) 0, .stepIo idleIo 5000]

theorem onlyStalled_stalledRun : Along watch OnlyStalled stalledRun (watched echoPort) :=
  onlyStalled_of_keepsStarts echoPort stalledRun (by decide +kernel)

/-- The rest of it at tick 4000, together with the start of the next request, which is
    therefore one second old at tick 5000. -/
def pipelinedRun : List TcpCall :=
  [.open true, .stepIo (playIo true (playFrame.take 3)) 0,
    .stepIo (playIo false (playFrame.drop 3 ++ playFrame.take 3)) 4000, .stepIo idleIo 5000]

theorem closed_pipelinedRun : ¬ Along watch OnlyStalled pipelinedRun (watched echoPort) := by
  rintro ⟨-, -, -, honly, -⟩
  obtain ⟨-, -, tick, htick, hold⟩ := honly 0 (by decide +kernel)
  have hsame : some tick = some (4000 : CoreTick) := htick.symm.trans (by decide +kernel)
  cases hsame
  exact absurd hold (by decide)

end FourVrs.Network.Tcp
