import FourVrs.Network.RawSerial
import FourVrs.Network.TcpMoves
import FourVrs.Network.UdpListener

/-!
# Who opens and closes a listener's socket

Only `open` and `close` do. Clients come and go, requests are answered and the raw line
changes its owner, but the steps of a listener and its completion callback leave the
listening socket as it is.
-/

set_option autoImplicit false

namespace FourVrs.Network.Tcp

open FourVrs.Core Modbus

theorem listening_queueResponse (l : TcpListener) (clientId epoch : BitVec 32) (serial : Nat)
    (data : List UInt8) :
    (modbusTcpListenerQueueResponse l clientId epoch serial data).2.listening = l.listening := by
  unfold modbusTcpListenerQueueResponse
  split
  · rfl
  · split
    · rfl
    · split <;> rfl

theorem listening_completion (l : TcpListener) (t : CoreTransaction) (status : CoreTransactionStatus)
    (response : List UInt8) : (completion l t status response).listening = l.listening := by
  unfold completion
  split
  · split
    · rfl
    · exact listening_queueResponse l _ _ _ _
  split
  · rfl
  split
  · rfl
  · split
    · rfl
    · exact listening_queueResponse l _ _ _ _

/-- What the parser's callback does to the listener leaves the socket alone. -/
theorem listening_feedClient (l : TcpListener) (i : ClientIndex) (data : List UInt8) :
    (feedClient l i data).2.listening = l.listening := by
  have hqueued : ∀ (l' : TcpListener) (adu : MbapAdu), (admitAdu i l' adu).2.listening = l'.listening := by
    intro l' adu
    unfold admitAdu
    split <;> rfl
  have hkeeps : KeepsFrames (admitAdu i) fun _ l' => l'.listening = l.listening :=
    ⟨fun adu _ l' _ _ h => (hqueued l' adu).trans h, fun adu _ l' _ h => (hqueued l' adu).trans h⟩
  have hfeed : (mbapStreamFeed (l.clients i).rx data (admitAdu i) l).2.2.listening = l.listening := by
    rcases mbapStreamFeed_rule (γ := TcpListener) hkeeps (l.clients i).rx data
      (show l.listening = l.listening from rfl) with ⟨_, _, h⟩ | ⟨_, h⟩
    · exact h
    · rw [h]
  exact hfeed

theorem listening_readClient (l : TcpListener) (i : ClientIndex) (now : CoreTick) (recv : RecvResult) :
    (readClient l i now recv).listening = l.listening := by
  unfold readClient
  split
  · rfl
  split
  · split
    · rfl
    · unfold receiveBytes
      have hfeed := listening_feedClient
        ((l.setClient i
          { l.clients i with
            frameStartedAt :=
              if (l.clients i).rx.bytes = [] then now else (l.clients i).frameStartedAt
            lastProgress := now }).record (l.clients i).conn fun h =>
          { h with received := h.received ++ List.take modbusSocketIoStepMax ‹_› }) i
        (List.take modbusSocketIoStepMax ‹_›)
      split <;> rename_i heq <;> rw [heq] at hfeed <;> exact hfeed
  · rfl
  · rfl

theorem listening_drainParser (l : TcpListener) (i : ClientIndex) :
    (drainParser l i).listening = l.listening := by
  have hfeed := listening_feedClient l i []
  unfold drainParser
  split <;> rename_i heq <;> rw [heq] at hfeed <;> exact hfeed

theorem listening_writeClient (l : TcpListener) (i : ClientIndex) (now : CoreTick) (send : SendResult) :
    (writeClient l i now send).listening = l.listening := by
  unfold writeClient
  split
  · rfl
  split
  · split <;> rfl
  · rfl
  · rfl

theorem listening_retireClient (held : List CoreTransaction) (l : TcpListener) (i : ClientIndex)
    (now : CoreTick) : (retireClient held l i now).listening = l.listening := by
  unfold retireClient
  split
  · rfl
  · split
    · rfl
    · split <;> rfl

theorem listening_whenOpen {l l' : TcpListener} {i : ClientIndex} {f : TcpListener → TcpListener}
    (h : l'.listening = l.listening) (hf : (f l').listening = l.listening) :
    (whenOpen l' i f).listening = l.listening := by
  unfold whenOpen
  split
  · exact hf
  · exact h

theorem listening_stepClient (held : List CoreTransaction) (io : SocketIo) (now : CoreTick)
    (l : TcpListener) (i : ClientIndex) : (stepClient held io now l i).listening = l.listening := by
  have hdrained := listening_drainParser l i
  have hread := (listening_readClient (drainParser l i) i now (io.recv i)).trans hdrained
  have hwritten := (listening_writeClient _ i now (io.send i)).trans hread
  unfold stepClient
  refine listening_whenOpen rfl (listening_whenOpen hdrained (listening_whenOpen hread ?_))
  split
  · exact hread
  · exact listening_whenOpen hwritten ((listening_retireClient held _ i now).trans hwritten)

theorem listening_stepClients (held : List CoreTransaction) (io : SocketIo) (now : CoreTick)
    (l : TcpListener) : (stepClients held io now l).listening = l.listening := by
  have hloop : ∀ (order : List ClientIndex) (l' : TcpListener),
      (order.foldl (stepClient held io now) l').listening = l'.listening := by
    intro order
    induction order with
    | nil => exact fun l' => rfl
    | cons i rest ih => exact fun l' => (ih _).trans (listening_stepClient held io now l' i)
  unfold stepClients
  rw [hloop]
  split
  · unfold acceptOne
    split
    · rfl
    · split
      · rfl
      · split <;> rfl
  · rfl

theorem listening_noteSubmission (l : TcpListener) (j : ClientIndex) (request : ModbusTcpRequest)
    (result : CoreSubmitResult) (serial : Nat) :
    (noteSubmission l j request result serial).listening = l.listening := by
  unfold noteSubmission
  split <;> rfl

end FourVrs.Network.Tcp

namespace FourVrs.Network

open FourVrs.Core Lib

variable {σ κ : Type}

/-! ## Modbus/UDP -/

theorem opened_sendResponse (l : UdpListener) (i : PeerIndex) : (sendResponse l i).opened = l.opened := by
  unfold sendResponse
  split <;> rfl

theorem opened_finish (l : UdpListener) (i : PeerIndex) : (finish l i).opened = l.opened :=
  opened_sendResponse _ i

theorem opened_completion (l : UdpListener) (t : CoreTransaction) (status : CoreTransactionStatus)
    (response : List UInt8) : (completion l t status response).opened = l.opened := by
  unfold completion
  split
  · rfl
  split
  · split
    · exact opened_finish _ _
    · rfl
  · rfl

theorem opened_modbusUdpListenerReceive (l : UdpListener) (source : UdpAddress) (data : List UInt8)
    (now : CoreTick) : (modbusUdpListenerReceive l source data now).2.opened = l.opened := by
  have hadmit : ∀ (l' : UdpListener) (i : PeerIndex) (request : UdpRequest),
      (admitRequest l' i request now).2.opened = l'.opened := by
    intro l' i request
    unfold admitRequest
    split
    · split
      · show (if (l'.peers i).pending then l' else sendResponse l' i).opened = l'.opened
        split
        · rfl
        · exact opened_sendResponse l' i
      · rfl
    · rfl
  unfold modbusUdpListenerReceive
  split
  · rfl
  split
  · rfl
  · unfold admitFrom
    split
    · exact hadmit _ _ _
    · split
      · exact hadmit _ _ _
      · rfl

theorem opened_receiveAll (l : UdpListener) (arrivals : List (UdpAddress × List UInt8))
    (now : CoreTick) : (receiveAll l arrivals now).opened = l.opened := by
  unfold receiveAll
  induction arrivals.take modbusUdpStepMax generalizing l with
  | nil => rfl
  | cons d rest ih => exact (ih _).trans (opened_modbusUdpListenerReceive l _ _ now)

theorem opened_noteSubmission (l : UdpListener) (i : PeerIndex) (result : CoreSubmitResult)
    (transactionId : BitVec 32) : (noteSubmission l i result transactionId).opened = l.opened := by
  unfold noteSubmission
  split <;> rfl

/-! ## The raw line -/

/-- What became of the raw listener: its socket is as it was, and its port has been told of
    I/O failures only. -/
structure RawWorked (l l' : RawListener σ κ) : Prop where
  opened : l'.opened = l.opened
  port : Relation.ReflTransGen
    (fun port port' => ∃ now message, port' = (portRuntimeReportIoFailure port now message).2) l.port l'.port

theorem RawWorked.refl (l : RawListener σ κ) : RawWorked l l := ⟨rfl, .refl⟩

/-- Its buffers, times and flags do not matter. -/
theorem RawWorked.of_same {l l' l'' : RawListener σ κ} (h : RawWorked l l')
    (hopened : l''.opened = l'.opened) (hport : l''.port = l'.port) :
    RawWorked l l'' :=
  ⟨hopened.trans h.opened, hport ▸ h.port⟩

theorem rawWorked_serialFault {l l' : RawListener σ κ} (h : RawWorked l l') :
    RawWorked l (serialFault l') :=
  ⟨h.opened, h.port.tail ⟨l'.now, _, rfl⟩⟩

open Prog (Always)

variable {l l' : RawListener σ κ}

theorem always_rawCall {α : Type} {post : α → Prop} {call : RawCall} {next : call.Result → RawProg α}
    (h : ∀ result, Always post (next result)) : Always post (rawCall call >>= next) := h

theorem always_closeClient (h : RawWorked l l') : Always (RawWorked l) (closeClient l') := by
  unfold closeClient
  split
  · exact fun _ => h
  · exact h

theorem always_flushBoundary (h : RawWorked l l') :
    Always (fun r => RawWorked l r.2) (flushBoundary l') := by
  unfold flushBoundary
  split
  · exact h
  split
  · exact h
  · intro flushed
    cases flushed with
    | true => exact h.of_same rfl rfl
    | false => exact rawWorked_serialFault h

theorem always_endOwnership (h : RawWorked l l') : Always (RawWorked l) (endOwnership l') := by
  unfold endOwnership
  split
  · exact fun _ => h.of_same rfl rfl
  · exact h.of_same rfl rfl

theorem always_release (h : RawWorked l l') :
    Always (fun r => RawWorked l r.2) (release l') := by
  refine (Always.bind ((always_closeClient h).mono fun l₁ h₁ => ?_))
  refine (Always.bind ((always_endOwnership h₁).mono fun l₂ h₂ => ?_))
  refine (Always.bind ((always_flushBoundary h₂).mono fun r h₃ => ?_))
  exact h₃.of_same rfl rfl

theorem always_releaseOnly (h : RawWorked l l') : Always (RawWorked l) (releaseOnly l') :=
  Always.bind ((always_release h).mono fun _ h => h)

theorem always_acquire (h : RawWorked l l') : Always (RawWorked l) (acquire l') :=
  fun _ => h.of_same rfl rfl

theorem always_takeDatagram (h : RawWorked l l') (data : List UInt8) (sender : Option Peer) :
    Always (RawWorked l) (takeDatagram l' data sender) := by
  unfold takeDatagram
  split
  · exact h
  split
  · exact h
  split
  · exact h
  split
  · exact h
  split
  · exact h.of_same rfl rfl
  · refine Always.bind ((always_acquire (l := l) ?_).mono fun l₁ h₁ => ?_)
    · exact h.of_same rfl rfl
    · exact h₁.of_same rfl rfl

theorem always_receiveDatagrams (budget : Nat) (h : RawWorked l l') :
    Always (RawWorked l) (receiveDatagrams budget l') := by
  induction budget generalizing l' with
  | zero => exact h
  | succ budget ih =>
    refine always_rawCall fun arrival => ?_
    cases arrival with
    | none => exact h
    | some datagram => exact Always.bind ((always_takeDatagram h _ _).mono fun l₁ h₁ => ih h₁)

theorem always_takeClient (h : RawWorked l l') (fd : Nat) : Always (RawWorked l) (takeClient l' fd) := by
  unfold takeClient
  split
  · exact fun _ => h
  · intro ready
    cases ready with
    | true => exact always_acquire (h.of_same rfl rfl)
    | false => exact fun _ => h

theorem always_acceptClients (budget : Nat) (h : RawWorked l l') :
    Always (RawWorked l) (acceptClients budget l') := by
  induction budget generalizing l' with
  | zero => exact h
  | succ budget ih =>
    refine always_rawCall fun client => ?_
    cases client with
    | none => exact h
    | some fd => exact Always.bind ((always_takeClient h fd).mono fun l₁ h₁ => ih h₁)

theorem always_receiveStream (h : RawWorked l l') : Always (RawWorked l) (receiveStream l') := by
  unfold receiveStream
  split
  · exact h
  split
  · exact h
  · refine always_rawCall fun received => ?_
    cases received with
    | bytes data | eof => exact h.of_same rfl rfl
    | transient => exact h
    | failed => exact always_releaseOnly h

theorem always_networkReceive (h : RawWorked l l') : Always (RawWorked l) (networkReceive l') := by
  unfold networkReceive
  split
  · exact always_receiveDatagrams _ h
  · exact Always.bind ((always_acceptClients _ h).mono fun l₁ h₁ => always_receiveStream h₁)

theorem always_afterSend (h : RawWorked l l') (sent : RawWrite) :
    Always (RawWorked l) (afterSend l' sent) := by
  cases sent with
  | count n =>
    show Always (RawWorked l) (if _ then _ else _)
    split
    · exact h.of_same rfl rfl
    · exact h
  | transient => exact h
  | failed => exact always_releaseOnly h

theorem always_networkSend (h : RawWorked l l') : Always (RawWorked l) (networkSend l') := by
  unfold networkSend
  split
  · exact h
  split
  · split
    · exact h
    · refine always_rawCall fun sent => ?_
      cases sent with
      | count n =>
        show Always (RawWorked l) (if n ≠ l'.rx.length then releaseOnly l' else afterSend l' (.count n))
        split
        · exact always_releaseOnly h
        · exact always_afterSend h _
      | transient | failed => exact always_afterSend h _
  · split
    · exact h
    · exact fun sent => always_afterSend h sent

theorem always_serialRead (h : RawWorked l l') : Always (RawWorked l) (serialRead l') := by
  unfold serialRead
  split
  · exact h
  · refine always_rawCall fun result => ?_
    cases result with
    | bytes data =>
      show RawWorked l (takeSerial l' data)
      unfold takeSerial
      split
      · exact h.of_same rfl rfl
      · exact h.of_same rfl rfl
    | empty =>
      show RawWorked l (if _ then _ else _)
      split
      · exact h.of_same rfl rfl
      · exact h
    | interrupted =>
      show RawWorked l (if _ then _ else _)
      split
      · exact h.of_same rfl rfl
      · exact h
    | failed => exact Always.bind ((always_releaseOnly h).mono fun l₁ h₁ => rawWorked_serialFault h₁)

theorem always_serialWrite (h : RawWorked l l') : Always (RawWorked l) (serialWrite l') := by
  unfold serialWrite
  split
  · exact h
  · refine always_rawCall fun result => ?_
    cases result with
    | count n =>
      show Always (RawWorked l) (if _ then _ else _)
      split
      · exact h.of_same rfl rfl
      · exact h
    | transient => exact h
    | failed => exact Always.bind ((always_releaseOnly h).mono fun l₁ h₁ => rawWorked_serialFault h₁)

theorem always_whenReady {next : RawListener σ κ → RawProg (RawListener σ κ)} (h : RawWorked l l')
    (hnext : ∀ {l'}, RawWorked l l' → Always (RawWorked l) (next l')) :
    Always (RawWorked l) (whenReady next l') := by
  unfold whenReady
  split
  · exact hnext h
  · exact h

theorem always_transfer (h : RawWorked l l') : Always (RawWorked l) (transfer l') := by
  refine Always.bind ((always_serialRead h).mono fun l₁ h₁ => always_whenReady h₁ fun h₁ => ?_)
  refine Always.bind ((always_networkReceive h₁).mono fun l₂ h₂ => always_whenReady h₂ fun h₂ => ?_)
  exact Always.bind ((always_serialWrite h₂).mono fun l₃ h₃ =>
    always_whenReady h₃ fun h₃ => always_networkSend h₃)

/-- A step leaves the socket as it is. -/
theorem always_rawStep (l : RawListener σ κ) (now : CoreTick) : Always (RawWorked l) (rawStep l now) := by
  have hbegin : RawWorked l { l with now } := (RawWorked.refl l).of_same rfl rfl
  unfold rawStep
  split
  · exact .refl l
  · refine Always.bind ((always_flushBoundary hbegin).mono fun r h => ?_)
    show Always (RawWorked l) (if r.1 then serve r.2 now else Pure.pure r.2)
    split
    · have hidle : Always (RawWorked l) (releaseIdle r.2 now) := by
        unfold releaseIdle
        split
        · exact always_releaseOnly h
        · exact h
      have hstalled : ∀ l₁, RawWorked l l₁ → Always (RawWorked l) (releaseStalled l₁ now) := by
        intro l₁ h₁
        unfold releaseStalled
        split
        · exact always_releaseOnly h₁
        · exact h₁
      exact Always.bind (hidle.mono fun l₁ h₁ =>
        Always.bind ((hstalled l₁ h₁).mono fun l₂ h₂ => always_whenReady h₂ always_transfer))
    · exact h

/-- `close` closes it, whatever it returns. -/
theorem always_rawClose (l : RawListener σ κ) :
    Always (fun r => r.2.opened = false ∧ RawWorked { l with opened := false } r.2) (rawClose l) :=
  Always.bind ((always_release (.refl l)).mono fun _ h => ⟨rfl, ⟨rfl, h.port⟩⟩)

end FourVrs.Network
