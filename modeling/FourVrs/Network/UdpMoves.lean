import FourVrs.Network.UdpListener

/-!
# The listener and the runtime as one table

Whatever arrives and whatever the backend does, the listener and its port runtime
together do one of a few things: let time pass, clear an idle peer, enter a new one,
admit a request, send a response again, give up a request that waited too long, submit
one, or complete the one whose transaction the runtime is done with. `UdpMove` lists
them on a table that keeps of the runtime only the transactions it holds, each as it
was submitted.

`Tracks` is what ties the two together: every transaction held belongs to the peer
whose index it carries and the other way round. Under it every step of the source is a
sequence of moves (`moves_udpStep`), and each move keeps it (`Tracks.move`), so the rest
of the reasoning is about moves.
-/

set_option autoImplicit false

namespace FourVrs.Network

open FourVrs.Core Modbus Uart

variable {σ : Type}

/-! ## Runs -/

def UdpListener.atTime (l : UdpListener) (time : Nat) : UdpListener := { l with clock := time }

/-- A call of the runtime: the callback finds the generation the port has. -/
def callPort (port : PortRuntime σ UdpListener) (op : PortOp) : PortRuntime σ UdpListener :=
  op.exec (withListener port { port.completionContext with portGeneration := port.generation })

inductive UdpStep : PortRuntime σ UdpListener → PortRuntime σ UdpListener → Prop where
  | receive (port : PortRuntime σ UdpListener) (time : Nat) (source : UdpAddress)
      (data : List UInt8) (later : port.completionContext.clock ≤ time) :
      UdpStep port
        (withListener port
          (modbusUdpListenerReceive (port.completionContext.atTime time) source data
            (tick time)).2)
  | stepIo (port : PortRuntime σ UdpListener) (time : Nat)
      (arrivals : List (UdpAddress × List UInt8)) (later : port.completionContext.clock ≤ time) :
      UdpStep port
        (modbusUdpListenerStepIo (withListener port (port.completionContext.atTime time)) arrivals
          (tick time))
  | call (port : PortRuntime σ UdpListener) (op : PortOp) (served : op.request = none) :
      UdpStep port (callPort port op)
  | close (port : PortRuntime σ UdpListener) :
      UdpStep port (withListener port (modbusUdpListenerClose port.completionContext))

/-- `modbus_udp_listener_init` and a successful `modbus_udp_listener_open`. -/
def openedPort (port : PortRuntime σ UdpListener) (rtuMode : Bool) : PortRuntime σ UdpListener :=
  withListener (modbusUdpListenerInit port rtuMode)
    (modbusUdpListenerOpen (modbusUdpListenerInit port rtuMode).completionContext true).2

/-- A listener is opened on a port without outstanding transactions; from then on
    datagrams arrive, the listener is stepped and the runtime is called in any order. -/
inductive UdpRun : PortRuntime σ UdpListener → Prop where
  | opened (port : PortRuntime σ UdpListener) (rtuMode : Bool) (coherent : port.Coherent)
      (idle : port.view.outstanding = []) : UdpRun (openedPort port rtuMode)
  | step {port port' : PortRuntime σ UdpListener} (run : UdpRun port) (next : UdpStep port port') :
      UdpRun port'

/-! ## The table and its moves -/

structure UdpTable where
  listener : UdpListener
  carried : List CoreTransaction

def tableOf (v : PortView UdpListener) : UdpTable where
  listener := v.context
  carried := v.outstanding.map CoreTransaction.submitted

def udpTable (port : PortRuntime σ UdpListener) : UdpTable := tableOf port.view

/-- Transaction `t` was submitted for the request peer `i` holds. -/
structure Owns (l : UdpListener) (i : PeerIndex) (t : CoreTransaction) : Prop where
  ownerKind : t.ownerKind = modbusOwnerUdp
  ownerId : t.ownerId = BitVec.ofNat 32 i
  submitted : (l.peers i).submitted = true
  id : (l.peers i).transactionId = t.id
  epoch : (l.peers i).epoch = metaClientEpoch t

/-- Peer `i` is done with the response in its table. -/
def completePeer (l : UdpListener) (i : PeerIndex) (response : List UInt8) : UdpListener :=
  finish (l.setPeer i { l.peers i with response := response }) i

/-- Peer `i` holds `request` now. -/
def admitPeer (l : UdpListener) (i : PeerIndex) (request : UdpRequest) : UdpListener :=
  { l.setPeer i
      { l.peers i with
        tid := request.tid, rtu := request.rtu, pending := true, submitted := false
        cached := false, response := [], admittedAt := l.now, lastSeen := l.now
        number := l.requests.length } with
    requests := l.requests ++ [request] }

inductive UdpMove : UdpTable → UdpTable → Prop where
  | tick (w : UdpTable) (time : Nat) (later : w.listener.clock ≤ time) :
      UdpMove w { w with listener := { w.listener with clock := time, now := tick time } }
  | sync (w : UdpTable) (generation : BitVec 32) :
      UdpMove w { w with listener := { w.listener with portGeneration := generation } }
  | skip (w : UdpTable) (i : PeerIndex) :
      UdpMove w { w with listener := { w.listener with nextPeer := i } }
  | evict (w : UdpTable) : UdpMove w { w with listener := evictIdle w.listener w.listener.now }
  | enter (w : UdpTable) (i : PeerIndex) (source : UdpAddress)
      (free : (w.listener.peers i).used = false)
      (new : ∀ j, (w.listener.peers j).used = true → (w.listener.peers j).address ≠ source) :
      UdpMove w { w with listener := newPeer w.listener i source }
  | admitted (w : UdpTable) (i : PeerIndex) (request : UdpRequest)
      (used : (w.listener.peers i).used = true)
      (address : (w.listener.peers i).address = request.source)
      (free : (w.listener.peers i).pending = false) :
      UdpMove w { w with listener := admitPeer w.listener i request }
  | resend (w : UdpTable) (i : PeerIndex) (free : (w.listener.peers i).pending = false) :
      UdpMove w { w with listener := sendResponse w.listener i }
  | expire (w : UdpTable) (i : PeerIndex) (response : List UInt8)
      (pending : (w.listener.peers i).pending = true)
      (waiting : (w.listener.peers i).submitted = false) :
      UdpMove w { w with listener := completePeer w.listener i response }
  | submit (w : UdpTable) (i : PeerIndex) (t : CoreTransaction)
      (pending : (w.listener.peers i).pending = true)
      (waiting : (w.listener.peers i).submitted = false)
      (kind : t.ownerKind = modbusOwnerUdp) (owner : t.ownerId = BitVec.ofNat 32 i)
      (epoch : (w.listener.peers i).epoch = metaClientEpoch t) :
      UdpMove w
        { listener := noteSubmission w.listener i .accepted t.id
          carried := w.carried ++ [t] }
  | complete (w : UdpTable) (i : PeerIndex) (t : CoreTransaction) (rest : List CoreTransaction)
      (response : List UInt8) (owned : Owns w.listener i t)
      (held : w.carried.Perm (t :: rest)) :
      UdpMove w { listener := completePeer w.listener i response, carried := rest }

abbrev UdpMoves : UdpTable → UdpTable → Prop := Relation.ReflTransGen UdpMove

/-! ## What the operations write -/

@[simp] theorem setPeer_self (l : UdpListener) (i : PeerIndex) (peer : UdpPeer) :
    (l.setPeer i peer).peers i = peer := Function.update_self ..

variable {w : UdpTable} {l : UdpListener}

theorem setPeer_ne {i j : PeerIndex} (h : j ≠ i) (peer : UdpPeer) :
    (l.setPeer i peer).peers j = l.peers j := Function.update_of_ne h ..

@[simp] theorem setPeer_rtuMode (l : UdpListener) (i : PeerIndex) (peer : UdpPeer) :
    (l.setPeer i peer).rtuMode = l.rtuMode := rfl

@[simp] theorem setPeer_now (l : UdpListener) (i : PeerIndex) (peer : UdpPeer) :
    (l.setPeer i peer).now = l.now := rfl

@[simp] theorem setPeer_clock (l : UdpListener) (i : PeerIndex) (peer : UdpPeer) :
    (l.setPeer i peer).clock = l.clock := rfl

@[simp] theorem setPeer_log (l : UdpListener) (i : PeerIndex) (peer : UdpPeer) :
    (l.setPeer i peer).log = l.log := rfl

@[simp] theorem setPeer_opened (l : UdpListener) (i : PeerIndex) (peer : UdpPeer) :
    (l.setPeer i peer).opened = l.opened := rfl

@[simp] theorem sendResponse_peers (l : UdpListener) (i : PeerIndex) :
    (sendResponse l i).peers = l.peers := by
  unfold sendResponse
  split <;> rfl

@[simp] theorem completePeer_self (l : UdpListener) (i : PeerIndex) (response : List UInt8) :
    (completePeer l i response).peers i =
      { l.peers i with
        response := response, pending := false, submitted := false, cached := !l.rtuMode
        completedAt := l.now, lastSeen := l.now } := by
  simp [completePeer, finish, UdpListener.record]

theorem completePeer_ne {i j : PeerIndex} (h : j ≠ i) (response : List UInt8) :
    (completePeer l i response).peers j = l.peers j := by
  simp [completePeer, finish, UdpListener.record, setPeer_ne h]

/-- Sending leaves all but the log alone. -/
structure SameButLog (l l' : UdpListener) : Prop where
  opened : l'.opened = l.opened
  rtuMode : l'.rtuMode = l.rtuMode
  portGeneration : l'.portGeneration = l.portGeneration
  now : l'.now = l.now
  clock : l'.clock = l.clock
  requests : l'.requests = l.requests

theorem sameButLog_sendResponse (l : UdpListener) (i : PeerIndex) :
    SameButLog l (sendResponse l i) := by
  unfold sendResponse
  split <;> exact ⟨rfl, rfl, rfl, rfl, rfl, rfl⟩

theorem sameButLog_completePeer (l : UdpListener) (i : PeerIndex) (response : List UInt8) :
    SameButLog l (completePeer l i response) := by
  have h := sameButLog_sendResponse
    (((l.setPeer i { l.peers i with response := response }).setPeer i
      { (l.setPeer i { l.peers i with response := response }).peers i with
        pending := false, submitted := false, cached := !l.rtuMode
        completedAt := l.now, lastSeen := l.now }).record
      (.finished ((l.setPeer i { l.peers i with response := response }).peers i).number l.clock
        ((l.setPeer i { l.peers i with response := response }).peers i).response)) i
  exact ⟨h.opened, h.rtuMode, h.portGeneration, h.now, h.clock, h.requests⟩

/-- What sending adds to the log: the response in the table, if there is one. -/
theorem sendResponse_log (h : l.opened = true) (i : PeerIndex) :
    (sendResponse l i).log =
      l.log ++
        (if (l.peers i).response = [] then []
        else [.sent (l.peers i).address (l.peers i).response]) := by
  unfold sendResponse
  by_cases hr : (l.peers i).response = []
  · simp [hr]
  · simp [hr, h, UdpListener.record]

theorem completePeer_log (h : l.opened = true) (i : PeerIndex) (response : List UInt8) :
    (completePeer l i response).log =
      l.log ++ [.finished (l.peers i).number l.clock response] ++
        (if response = [] then [] else [.sent (l.peers i).address response]) := by
  unfold completePeer finish
  rw [sendResponse_log (by simpa [UdpListener.record] using h)]
  simp [UdpListener.record]

theorem evictIdle_cases (l : UdpListener) (now : CoreTick) (i : PeerIndex) :
    (evictIdle l now).peers i = l.peers i ∨
      (evictIdle l now).peers i = zeroPeer ∧ (l.peers i).used = true ∧
        (l.peers i).pending = false ∧
        modbusUdpIdleTimeout ≤ coreElapsed (l.peers i).lastSeen now := by
  unfold evictIdle
  by_cases h : ((l.peers i).used && !(l.peers i).pending &&
      decide (modbusUdpIdleTimeout ≤ coreElapsed (l.peers i).lastSeen now)) = true
  · refine .inr ⟨if_pos h, ?_⟩
    simpa [Bool.and_eq_true, and_assoc] using h
  · exact .inl (if_neg h)

/-! ## The correspondence -/

/-- Every transaction held belongs to the peer it names, and every submitted peer has
    one. -/
structure Tracks (w : UdpTable) : Prop where
  owned : ∀ t ∈ w.carried, ∃ i, Owns w.listener i t
  nodup : (w.carried.map CoreTransaction.ownerId).Nodup
  held : ∀ i, (w.listener.peers i).submitted = true → ∃ t ∈ w.carried, Owns w.listener i t
  pending_of_submitted : ∀ i, (w.listener.peers i).submitted = true →
    (w.listener.peers i).pending = true
  used_of_pending : ∀ i, (w.listener.peers i).pending = true → (w.listener.peers i).used = true
  distinct : ∀ i j, (w.listener.peers i).used = true → (w.listener.peers j).used = true →
    (w.listener.peers i).address = (w.listener.peers j).address → i = j

theorem ownerId_inj {i j : PeerIndex} (h : BitVec.ofNat 32 i.val = BitVec.ofNat 32 j.val) :
    i = j := by
  have hval := congrArg BitVec.toNat h
  simp only [BitVec.toNat_ofNat] at hval
  have hi : i.val < 8 := i.isLt
  have hj : j.val < 8 := j.isLt
  exact Fin.ext (by omega)

variable {port : PortRuntime σ UdpListener} {i : PeerIndex} {v v' : PortView UdpListener} {rtuMode : Bool}
  {t : CoreTransaction}

theorem Owns.index_eq {i j : PeerIndex} (h : Owns l i t)
    (h' : Owns l j t) : i = j := ownerId_inj (h.ownerId.symm.trans h'.ownerId)

/-- Ownership reads one peer. -/
theorem Owns.of_peer {l l' : UdpListener} (h : Owns l i t) (hpeer : l'.peers i = l.peers i) : Owns l' i t :=
  ⟨h.ownerKind, h.ownerId, hpeer ▸ h.submitted, hpeer ▸ h.id, hpeer ▸ h.epoch⟩

theorem Tracks.frame {w w' : UdpTable} (h : Tracks w)
    (hpeers : w'.listener.peers = w.listener.peers) (hcarried : w'.carried = w.carried) :
    Tracks w' := by
  have howns : ∀ {i t}, Owns w.listener i t → Owns w'.listener i t :=
    fun ho => ho.of_peer (congrFun hpeers _)
  refine ⟨?_, hcarried ▸ h.nodup, ?_, ?_, ?_, ?_⟩
  · intro t ht
    obtain ⟨i, ho⟩ := h.owned t (hcarried ▸ ht)
    exact ⟨i, howns ho⟩
  · intro i hi
    obtain ⟨t, ht, ho⟩ := h.held i (hpeers ▸ hi)
    exact ⟨t, hcarried ▸ ht, howns ho⟩
  · intro i hi
    rw [hpeers] at hi ⊢
    exact h.pending_of_submitted i hi
  · intro i hi
    rw [hpeers] at hi ⊢
    exact h.used_of_pending i hi
  · intro i j hi hj
    rw [hpeers] at hi hj ⊢
    exact h.distinct i j hi hj

/-- A peer without a transaction is written. -/
theorem Tracks.update {w w' : UdpTable} (h : Tracks w) (i : PeerIndex)
    (hne : ∀ j, j ≠ i → w'.listener.peers j = w.listener.peers j)
    (hcarried : w'.carried = w.carried) (hfree : (w.listener.peers i).submitted = false)
    (hfree' : (w'.listener.peers i).submitted = false)
    (hused : (w'.listener.peers i).pending = true → (w'.listener.peers i).used = true)
    (hnew : (w'.listener.peers i).used = true → ∀ j, j ≠ i → (w.listener.peers j).used = true →
      (w.listener.peers j).address ≠ (w'.listener.peers i).address) : Tracks w' := by
  have hsub : ∀ j, (w'.listener.peers j).submitted = true → j ≠ i := by
    intro j hj he
    rw [he, hfree'] at hj
    exact absurd hj (by simp)
  have howns : ∀ {j t}, Owns w.listener j t → Owns w'.listener j t := by
    intro j t ho
    refine ho.of_peer (hne j ?_)
    intro he
    exact absurd ho.submitted (by simp [he, hfree])
  refine ⟨?_, hcarried ▸ h.nodup, ?_, ?_, ?_, ?_⟩
  · intro t ht
    obtain ⟨j, ho⟩ := h.owned t (hcarried ▸ ht)
    exact ⟨j, howns ho⟩
  · intro j hj
    rw [hne j (hsub j hj)] at hj
    obtain ⟨t, ht, ho⟩ := h.held j hj
    exact ⟨t, hcarried ▸ ht, howns ho⟩
  · intro j hj
    have hji := hsub j hj
    rw [hne j hji] at hj ⊢
    exact h.pending_of_submitted j hj
  · intro j hj
    by_cases hji : j = i
    · rw [hji] at hj ⊢
      exact hused hj
    · rw [hne j hji] at hj ⊢
      exact h.used_of_pending j hj
  · intro j k hj hk hjk
    by_cases hji : j = i
    · by_cases hki : k = i
      · exact hji.trans hki.symm
      · rw [hji] at hj hjk
        rw [hne k hki] at hk hjk
        exact absurd hjk.symm (hnew hj k hki hk)
    · rw [hne j hji] at hj hjk
      by_cases hki : k = i
      · rw [hki] at hk hjk
        exact absurd hjk (hnew hk j hji hj)
      · rw [hne k hki] at hk hjk
        exact h.distinct j k hj hk hjk

theorem Tracks.evict (h : Tracks w) (now : CoreTick) :
    Tracks { w with listener := evictIdle w.listener now } := by
  have hkeep : ∀ i, (w.listener.peers i).pending = true →
      (evictIdle w.listener now).peers i = w.listener.peers i := by
    intro i hi
    rcases evictIdle_cases w.listener now i with hpeer | ⟨-, -, hpending, -⟩
    · exact hpeer
    · exact absurd hi (by simp [hpending])
  have hback : ∀ i, ((evictIdle w.listener now).peers i).used = true →
      (evictIdle w.listener now).peers i = w.listener.peers i := by
    intro i hi
    rcases evictIdle_cases w.listener now i with hpeer | ⟨hpeer, -⟩
    · exact hpeer
    · rw [hpeer] at hi
      exact absurd hi (by simp [zeroPeer])
  have hzero : ∀ i, (evictIdle w.listener now).peers i = w.listener.peers i ∨
      (evictIdle w.listener now).peers i = zeroPeer := by
    intro i
    rcases evictIdle_cases w.listener now i with hpeer | ⟨hpeer, -⟩
    · exact .inl hpeer
    · exact .inr hpeer
  have howns : ∀ {i t}, Owns w.listener i t → Owns (evictIdle w.listener now) i t :=
    fun {i _} ho => ho.of_peer (hkeep i (h.pending_of_submitted i ho.submitted))
  refine ⟨?_, h.nodup, ?_, ?_, ?_, ?_⟩
  · intro t ht
    obtain ⟨i, ho⟩ := h.owned t ht
    exact ⟨i, howns ho⟩
  · intro i hi
    rcases hzero i with hpeer | hpeer
    · obtain ⟨t, ht, ho⟩ := h.held i (by rw [← hpeer]; exact hi)
      exact ⟨t, ht, howns ho⟩
    · exact absurd hi (by simp [hpeer, zeroPeer])
  · intro i hi
    rcases hzero i with hpeer | hpeer
    · show ((evictIdle w.listener now).peers i).pending = true
      rw [hpeer]
      exact h.pending_of_submitted i (by rw [← hpeer]; exact hi)
    · exact absurd hi (by simp [hpeer, zeroPeer])
  · intro i hi
    rcases hzero i with hpeer | hpeer
    · show ((evictIdle w.listener now).peers i).used = true
      rw [hpeer]
      exact h.used_of_pending i (by rw [← hpeer]; exact hi)
    · exact absurd hi (by simp [hpeer, zeroPeer])
  · intro i j hi hj hij
    have hi' := hback i hi
    have hj' := hback j hj
    simp only [hi', hj'] at hi hj hij
    exact h.distinct i j hi hj hij

theorem Tracks.submit (h : Tracks w) (pending : (w.listener.peers i).pending = true)
    (waiting : (w.listener.peers i).submitted = false) (kind : t.ownerKind = modbusOwnerUdp)
    (owner : t.ownerId = BitVec.ofNat 32 i) (epoch : (w.listener.peers i).epoch = metaClientEpoch t) :
    Tracks
      { listener := noteSubmission w.listener i .accepted t.id, carried := w.carried ++ [t] } := by
  have hself : (noteSubmission w.listener i .accepted t.id).peers i =
      { w.listener.peers i with transactionId := t.id, submitted := true } := by
    simp [noteSubmission, UdpListener.record]
  have hne : ∀ j, j ≠ i →
      (noteSubmission w.listener i .accepted t.id).peers j = w.listener.peers j := by
    intro j hj
    simp [noteSubmission, UdpListener.record, setPeer_ne hj]
  have hkey : ∀ j, ((noteSubmission w.listener i .accepted t.id).peers j).pending =
        (w.listener.peers j).pending ∧
      ((noteSubmission w.listener i .accepted t.id).peers j).used = (w.listener.peers j).used ∧
      ((noteSubmission w.listener i .accepted t.id).peers j).address =
        (w.listener.peers j).address := by
    intro j
    by_cases hj : j = i
    · rw [hj, hself]
      exact ⟨rfl, rfl, rfl⟩
    · rw [hne j hj]
      exact ⟨rfl, rfl, rfl⟩
  have howns : ∀ {j t'}, Owns w.listener j t' →
      Owns (noteSubmission w.listener i .accepted t.id) j t' := by
    intro j t' ho
    refine ho.of_peer (hne j ?_)
    intro he
    exact absurd ho.submitted (by simp [he, waiting])
  have hown : Owns (noteSubmission w.listener i .accepted t.id) i t :=
    ⟨kind, owner, by rw [hself], by rw [hself], by rw [hself]; exact epoch⟩
  refine ⟨?_, ?_, ?_, ?_, ?_, ?_⟩
  · intro t' ht'
    rcases List.mem_append.mp ht' with ht' | ht'
    · obtain ⟨j, ho⟩ := h.owned t' ht'
      exact ⟨j, howns ho⟩
    · rw [List.mem_singleton.mp ht']
      exact ⟨i, hown⟩
  · -- a transaction already held names a submitted peer, and this one was not
    rw [List.map_append, List.nodup_append]
    refine ⟨h.nodup, by simp, ?_⟩
    intro a ha b hb hab
    obtain ⟨t', ht', rfl⟩ := List.mem_map.mp ha
    obtain ⟨j, ho⟩ := h.owned t' ht'
    have hb' : b = t.ownerId := by simpa using hb
    have hji : j = i := ownerId_inj (ho.ownerId.symm.trans (hab.trans (hb'.trans owner)))
    exact absurd ho.submitted (by simp [hji, waiting])
  · intro j hj
    by_cases hji : j = i
    · rw [hji]
      exact ⟨t, List.mem_append_right _ (List.mem_singleton.mpr rfl), hown⟩
    · have hj' : (w.listener.peers j).submitted = true := by rw [← hne j hji]; exact hj
      obtain ⟨t', ht', ho⟩ := h.held j hj'
      exact ⟨t', List.mem_append_left _ ht', howns ho⟩
  · intro j hj
    by_cases hji : j = i
    · rw [(hkey j).1, hji]
      exact pending
    · rw [(hkey j).1]
      exact h.pending_of_submitted j (by rw [← hne j hji]; exact hj)
  · intro j hj
    rw [(hkey j).1] at hj
    rw [(hkey j).2.1]
    exact h.used_of_pending j hj
  · intro j k hj hk hjk
    rw [(hkey j).2.1] at hj
    rw [(hkey k).2.1] at hk
    rw [(hkey j).2.2, (hkey k).2.2] at hjk
    exact h.distinct j k hj hk hjk

theorem Tracks.complete (h : Tracks w) {rest : List CoreTransaction} (response : List UInt8)
    (owned : Owns w.listener i t) (held : w.carried.Perm (t :: rest)) :
    Tracks { listener := completePeer w.listener i response, carried := rest } := by
  have hkey : ∀ j, ((completePeer w.listener i response).peers j).used =
        (w.listener.peers j).used ∧
      ((completePeer w.listener i response).peers j).address = (w.listener.peers j).address := by
    intro j
    by_cases hj : j = i
    · rw [hj, completePeer_self]
      exact ⟨rfl, rfl⟩
    · rw [completePeer_ne hj]
      exact ⟨rfl, rfl⟩
  have hne : ∀ j, ((completePeer w.listener i response).peers j).pending = true ∨
      ((completePeer w.listener i response).peers j).submitted = true → j ≠ i := by
    intro j hj he
    rw [he, completePeer_self] at hj
    simp at hj
  have hnodup : ((t :: rest).map CoreTransaction.ownerId).Nodup :=
    (held.map CoreTransaction.ownerId).nodup_iff.mp h.nodup
  have hrest : ∀ t' ∈ rest, ∀ j, Owns w.listener j t' →
      j ≠ i ∧ Owns (completePeer w.listener i response) j t' := by
    intro t' ht' j ho
    have hji : j ≠ i := by
      intro he
      rw [he] at ho
      have hmem : t.ownerId ∈ rest.map CoreTransaction.ownerId :=
        List.mem_map.mpr ⟨t', ht', ho.ownerId.trans owned.ownerId.symm⟩
      exact (List.nodup_cons.mp hnodup).1 hmem
    exact ⟨hji, ho.of_peer (completePeer_ne hji _)⟩
  refine ⟨?_, (List.nodup_cons.mp hnodup).2, ?_, ?_, ?_, ?_⟩
  · intro t' ht'
    obtain ⟨j, ho⟩ := h.owned t' (held.mem_iff.mpr (List.mem_cons_of_mem _ ht'))
    exact ⟨j, (hrest t' ht' j ho).2⟩
  · intro j hj
    have hji := hne j (.inr hj)
    have hj' : (w.listener.peers j).submitted = true := by
      rw [← completePeer_ne hji response]
      exact hj
    obtain ⟨t', ht', ho⟩ := h.held j hj'
    rcases List.mem_cons.mp (held.mem_iff.mp ht') with he | ht'
    · exact absurd (ho.index_eq (he ▸ owned)) hji
    · exact ⟨t', ht', (hrest t' ht' j ho).2⟩
  · intro j hj
    have hji := hne j (.inr hj)
    simp only [completePeer_ne hji] at hj ⊢
    exact h.pending_of_submitted j hj
  · intro j hj
    have hji := hne j (.inl hj)
    simp only [completePeer_ne hji] at hj ⊢
    exact h.used_of_pending j hj
  · intro j k hj hk hjk
    rw [(hkey j).1] at hj
    rw [(hkey k).1] at hk
    rw [(hkey j).2, (hkey k).2] at hjk
    exact h.distinct j k hj hk hjk

/-- **Every move keeps the correspondence.** -/
theorem Tracks.move {w w' : UdpTable} (h : Tracks w) (hmove : UdpMove w w') : Tracks w' := by
  cases hmove with
  | tick time later | sync generation | skip i => exact h.frame rfl rfl
  | evict => exact h.evict _
  | resend i free => exact h.frame (sendResponse_peers _ _) rfl
  | enter i source free new =>
    have hfree : (w.listener.peers i).submitted = false := by
      by_cases hs : (w.listener.peers i).submitted = true
      · exact absurd (h.used_of_pending i (h.pending_of_submitted i hs)) (by simp [free])
      · simpa using hs
    refine h.update i ?_ rfl hfree (by simp [newPeer, zeroPeer]) ?_ ?_
    · intro j hj
      simp [newPeer, setPeer_ne hj]
    · intro _
      simp [newPeer]
    · intro _ j _ hj
      simpa [newPeer] using new j hj
  | admitted i request used address free =>
    have hfree : (w.listener.peers i).submitted = false := by
      by_cases hs : (w.listener.peers i).submitted = true
      · exact absurd (h.pending_of_submitted i hs) (by simp [free])
      · simpa using hs
    refine h.update i ?_ rfl hfree (by simp [admitPeer]) ?_ ?_
    · intro j hj
      simp [admitPeer, setPeer_ne hj]
    · intro _
      simpa [admitPeer] using used
    · intro _ j hji hj hjk
      exact hji (h.distinct j i hj used (by simpa [admitPeer] using hjk))
  | expire i response pending waiting =>
    have hused := h.used_of_pending i pending
    refine h.update i (fun j hj => completePeer_ne hj _) rfl waiting (by simp) ?_ ?_
    · intro hp
      simp at hp
    · intro _ j hji hj hjk
      exact hji (h.distinct j i hj hused (by simpa using hjk))
  | submit i t pending waiting kind owner epoch => exact h.submit pending waiting kind owner epoch
  | complete i t rest response owned held => exact h.complete response owned held

theorem Tracks.moves {w w' : UdpTable} (h : Tracks w) (hmoves : UdpMoves w w') : Tracks w' := by
  induction hmoves with
  | refl => exact h
  | tail _ hmove ih => exact ih.move hmove

/-! ## The listener's steps are moves -/

/-- A sequence of moves in which no time passes. -/
structure Reaches (w w' : UdpTable) : Prop where
  moves : UdpMoves w w'
  opened : w'.listener.opened = w.listener.opened
  now : w'.listener.now = w.listener.now
  clock : w'.listener.clock = w.listener.clock

theorem Reaches.refl (w : UdpTable) : Reaches w w := ⟨.refl, rfl, rfl, rfl⟩

theorem Reaches.trans {w w' w'' : UdpTable} (h : Reaches w w') (h' : Reaches w' w'') :
    Reaches w w'' :=
  ⟨h.moves.trans h'.moves, h'.opened.trans h.opened, h'.now.trans h.now, h'.clock.trans h.clock⟩

theorem findPeer_some {source : UdpAddress} (h : findPeer l source = some i) :
    (l.peers i).used = true ∧ (l.peers i).address = source := by
  simpa using List.find?_some h

theorem findPeer_none {source : UdpAddress} (h : findPeer l source = none) (j : PeerIndex)
    (hj : (l.peers j).used = true) : (l.peers j).address ≠ source := by
  have hall := List.find?_eq_none.mp h j (by simp)
  simpa [hj] using hall

theorem freeSlot_some (h : freeSlot l = some i) :
    (l.peers i).used = false := by
  simpa using List.find?_some h

theorem reaches_evict (w : UdpTable) :
    Reaches w { w with listener := evictIdle w.listener w.listener.now } :=
  ⟨.single (.evict w), rfl, rfl, rfl⟩

theorem reaches_admit {request : UdpRequest} (used : (w.listener.peers i).used = true)
    (address : (w.listener.peers i).address = request.source) :
    Reaches w { w with listener := (admitRequest w.listener i request w.listener.now).2 } := by
  unfold admitRequest
  split
  · split
    · split
      · exact .refl w
      · rename_i hpending
        have hsame := sameButLog_sendResponse w.listener i
        exact ⟨.single (.resend w i (by simpa using hpending)), hsame.opened, hsame.now, hsame.clock⟩
    · exact .refl w
  · rename_i hholds
    have hfree : (w.listener.peers i).pending = false := by
      by_cases hp : (w.listener.peers i).pending = true
      · exact absurd (by simp [holdsRequest, hp]) hholds
      · simpa using hp
    exact ⟨.single (.admitted w i request used address hfree), rfl, rfl, rfl⟩

theorem reaches_admitFrom (w : UdpTable) (request : UdpRequest) :
    Reaches w { w with listener := (admitFrom w.listener request w.listener.now).2 } := by
  unfold admitFrom
  split
  · rename_i i hfind
    obtain ⟨used, address⟩ := findPeer_some hfind
    exact reaches_admit used address
  rename_i hfind
  split
  · rename_i i hfree
    have henter : Reaches w { w with listener := newPeer w.listener i request.source } :=
      ⟨.single (.enter w i request.source (freeSlot_some hfree) (findPeer_none hfind)),
        rfl, rfl, rfl⟩
    refine henter.trans ?_
    exact reaches_admit (w := { w with listener := newPeer w.listener i request.source })
      (by simp [newPeer]) (by simp [newPeer])
  · exact .refl w

theorem reaches_receive (hopened : w.listener.opened = true) (source : UdpAddress) (data : List UInt8) :
    Reaches w
      { w with
        listener := (modbusUdpListenerReceive w.listener source data w.listener.now).2 } := by
  unfold modbusUdpListenerReceive
  rw [if_neg (by simp [hopened])]
  split
  · exact .refl w
  · exact (reaches_evict w).trans
      (reaches_admitFrom { w with listener := evictIdle w.listener w.listener.now } _)

theorem reaches_receiveAll (hopened : w.listener.opened = true) (arrivals : List (UdpAddress × List UInt8)) :
    Reaches w { w with listener := receiveAll w.listener arrivals w.listener.now } := by
  unfold receiveAll
  generalize arrivals.take modbusUdpStepMax = taken
  induction taken generalizing w with
  | nil => exact .refl w
  | cons d taken ih =>
    have hfirst := reaches_receive hopened d.1 (d.2.take (mbapAduMax + 1))
    have hrest := ih (hfirst.opened.trans hopened)
    rw [hfirst.now] at hrest
    exact hfirst.trans hrest

theorem udpTable_withListener (port : PortRuntime σ UdpListener) (l : UdpListener) :
    udpTable (withListener port l) =
      { listener := l, carried := (udpTable port).carried } := rfl

theorem udpTable_of_view {port port' : PortRuntime σ UdpListener} (h : port'.view = port.view) :
    udpTable port' = udpTable port := by
  unfold udpTable
  rw [h]

theorem reaches_submitPeer (pending : (port.completionContext.peers i).pending = true)
    (waiting : (port.completionContext.peers i).submitted = false) (now : CoreTick) :
    Reaches (udpTable port) (udpTable (submitPeer port i now)) := by
  have hview := view_submit port (peerRequest port.completionContext i now)
  unfold submitPeer
  revert hview
  generalize portRuntimeSubmitOperation port (peerRequest port.completionContext i now) = answer
  obtain ⟨result, id, port'⟩ := answer
  intro hview
  rcases hview with ⟨hresult, hid, hview⟩ | ⟨hresult, hview⟩
  · simp only at hresult hid hview
    have hcontext : port'.completionContext = port.completionContext :=
      congrArg PortView.context hview
    have hcarried : (udpTable port').carried =
        (udpTable port).carried ++
          [newTransaction port (peerRequest port.completionContext i now)] := by
      simp [udpTable, tableOf, hview, PortView.outstanding, newTransaction,
        CoreTransaction.submitted, zeroTransaction]
    show Reaches _ (udpTable (withListener port' _))
    rw [udpTable_withListener, hcarried, hcontext, hresult, hid]
    refine ⟨.single (.submit (udpTable port) i _ pending waiting rfl rfl ?_),
      rfl, rfl, rfl⟩
    rfl
  · simp only at hresult hview
    have hcontext : port'.completionContext = port.completionContext :=
      congrArg PortView.context hview
    show Reaches _ (udpTable (withListener port' _))
    rw [udpTable_withListener, udpTable_of_view hview, hcontext]
    unfold noteSubmission
    rw [if_neg hresult]
    exact ⟨.single (.skip (udpTable port) (i + 1)), rfl, rfl, rfl⟩

theorem reaches_dispatchFrom (now : CoreTick) (order : List PeerIndex)
    (port : PortRuntime σ UdpListener) :
    Reaches (udpTable port) (udpTable (dispatchFrom now order port)) := by
  induction order generalizing port with
  | nil => exact .refl _
  | cons i rest ih =>
    unfold dispatchFrom
    split
    · exact ih port
    · rename_i hguard
      have hpending : (port.completionContext.peers i).pending = true := by
        by_cases hp : (port.completionContext.peers i).pending = true
        · exact hp
        · exact absurd (.inl (by simpa using hp)) hguard
      have hwaiting : (port.completionContext.peers i).submitted = false := by
        by_cases hs : (port.completionContext.peers i).submitted = true
        · exact absurd (.inr hs) hguard
        · simpa using hs
      split
      · refine Reaches.trans ?_ (ih _)
        have hsame := sameButLog_completePeer port.completionContext i
          (queueTimeoutResponse port.completionContext.rtuMode (port.completionContext.peers i))
        exact ⟨.single (.expire (udpTable port) i _ hpending hwaiting),
          hsame.opened, hsame.now, hsame.clock⟩
      · exact reaches_submitPeer hpending hwaiting now

/-- `modbus_udp_listener_step_io` on an open listener, the clock already set. -/
theorem reaches_stepIo (hopened : port.completionContext.opened = true)
    (arrivals : List (UdpAddress × List UInt8)) :
    Reaches (udpTable port)
      (udpTable (modbusUdpListenerStepIo port arrivals port.completionContext.now)) := by
  have hreceived := reaches_receiveAll (w := udpTable port) hopened arrivals
  have hdispatched := reaches_dispatchFrom port.completionContext.now
    (dispatchOrder (receiveAll port.completionContext arrivals
      port.completionContext.now).nextPeer)
    (withListener port (receiveAll port.completionContext arrivals port.completionContext.now))
  have hboth := hreceived.trans hdispatched
  have hevicted := reaches_evict (udpTable
    (dispatchOne (withListener port
      (receiveAll port.completionContext arrivals port.completionContext.now))
      port.completionContext.now))
  unfold modbusUdpListenerStepIo
  rw [if_neg (by simp [hopened])]
  refine hboth.trans ?_
  have hnow : (udpTable (dispatchOne (withListener port
      (receiveAll port.completionContext arrivals port.completionContext.now))
      port.completionContext.now)).listener.now = port.completionContext.now := hboth.now
  rw [hnow] at hevicted
  exact hevicted

/-! ## The runtime's callbacks are moves -/

theorem completion_closed (h : l.opened = false) (t : CoreTransaction) (status : CoreTransactionStatus)
    (response : List UInt8) :
    completion l t status response = l := if_pos (.inl h)

/-- The peer a transaction belongs to is the one the callback finds. -/
theorem peerMatches_of_owns {t t' : CoreTransaction} (howns : Owns l i t.submitted)
    (hused : (l.peers i).used = true) (same : t'.submitted = t.submitted)
    (hgeneration : t'.generation = 0 ∨ t'.generation = l.portGeneration) :
    peerMatches l i t' = true := by
  have hid : t'.id = t.id := by
    show t'.submitted.id = t.submitted.id
    rw [same]
  have hmeta : t'.transportMetadata = t.transportMetadata := by
    show t'.submitted.transportMetadata = t.submitted.transportMetadata
    rw [same]
  have hepoch : (l.peers i).epoch = metaClientEpoch t' := by
    rw [metaClientEpoch, hmeta]
    exact howns.epoch
  have hidentity : (l.peers i).transactionId = t'.id := hid ▸ howns.id
  simp only [peerMatches, hused, howns.submitted, hepoch, hidentity, decide_true, Bool.and_true,
    Bool.true_and, Bool.or_eq_true, decide_eq_true_eq]
  exact hgeneration

theorem completion_of_owns {t t' : CoreTransaction} (hopened : l.opened = true) (howns : Owns l i t.submitted)
    (hused : (l.peers i).used = true) (same : t'.submitted = t.submitted)
    (hgeneration : t'.generation = 0 ∨ t'.generation = l.portGeneration) (status : CoreTransactionStatus)
    (response : List UInt8) :
    completion l t' status response =
      completePeer l i (completionResponse l.rtuMode t' status response) := by
  have hkind : t'.ownerKind = modbusOwnerUdp :=
    (congrArg CoreTransaction.ownerKind same).trans howns.ownerKind
  have howner : t'.ownerId = BitVec.ofNat 32 i.val :=
    (congrArg CoreTransaction.ownerId same).trans howns.ownerId
  have hi : i.val < 8 := i.isLt
  have hval : t'.ownerId.toNat = i.val := by
    rw [howner, BitVec.toNat_ofNat]
    omega
  have hlt : t'.ownerId.toNat < modbusUdpPeers := hval ▸ i.isLt
  have hindex : (⟨t'.ownerId.toNat, hlt⟩ : PeerIndex) = i := Fin.ext hval
  unfold completion
  rw [if_neg (by simp [hopened, hkind]), dif_pos hlt]
  simp only [hindex, peerMatches_of_owns howns hused same hgeneration, if_true]
  rfl

/-- The table is tied to the runtime, and the next callback finds the generation. -/
structure Synced (w : UdpTable) (v : PortView UdpListener) : Prop where
  reaches : Reaches w (tableOf v)
  tracks : Tracks (tableOf v)
  opened : v.context.opened = true
  fresh : v.Fresh
  generation : v.context.portGeneration = v.generation

/-- A callback for a transaction the runtime lets go of. -/
theorem Synced.callback (h : Synced w v) {t t' : CoreTransaction} (ht : t ∈ v.outstanding)
    (same : t'.Reports t) (status : CoreTransactionStatus) (response : List UInt8)
    (hcontext : v'.context = completion v.context t' status response)
    (hheld : (tableOf v).carried.Perm (t.submitted :: (tableOf v').carried)) (hfresh : v'.Fresh)
    (hgeneration : v'.generation = v.generation) : Synced w v' := by
  obtain ⟨i, howns⟩ := h.tracks.owned t.submitted (List.mem_map_of_mem ht)
  have hused := h.tracks.used_of_pending i (h.tracks.pending_of_submitted i howns.submitted)
  have hcurrent : t'.generation = 0 ∨ t'.generation = v.context.portGeneration := by
    rw [same.generation, h.generation]
    rcases List.mem_append.mp ht with ht | ht
    · exact .inr (h.fresh.active t (by simpa using ht))
    · exact .inl (h.fresh.queue t ht)
  have hcomplete := completion_of_owns h.opened howns hused same.submitted hcurrent status response
  have hlistener : v'.context =
      completePeer v.context i (completionResponse v.context.rtuMode t' status response) :=
    hcontext.trans hcomplete
  have hsame := sameButLog_completePeer v.context i
    (completionResponse v.context.rtuMode t' status response)
  have htable : tableOf v' =
      { listener :=
          completePeer v.context i (completionResponse v.context.rtuMode t' status response)
        carried := (tableOf v').carried } := by
    rw [← hlistener]
    rfl
  have hmove : UdpMove (tableOf v) (tableOf v') := by
    rw [htable]
    exact .complete (tableOf v) i t.submitted _ _ howns hheld
  have hreach : Reaches (tableOf v) (tableOf v') := by
    refine ⟨.single hmove, ?_, ?_, ?_⟩
    · show v'.context.opened = _
      rw [hlistener]
      exact hsame.opened
    · show v'.context.now = _
      rw [hlistener]
      exact hsame.now
    · show v'.context.clock = _
      rw [hlistener]
      exact hsame.clock
  refine ⟨h.reaches.trans hreach, h.tracks.move hmove, hreach.opened.trans h.opened, hfresh, ?_⟩
  rw [hlistener, hgeneration, ← h.generation]
  exact hsame.portGeneration

theorem Synced.settle (h : Synced w v) (hmove : Settle completion v v') : Synced w v' := by
  have hfresh := h.fresh.settle hmove
  cases hmove with
  | mark t held =>
    have htable : tableOf
        { v with active := some { t with requestTransmitted := true } } = tableOf v := by
      simp [tableOf, PortView.outstanding, held, CoreTransaction.submitted]
    exact ⟨htable ▸ h.reaches, htable ▸ h.tracks, h.opened, hfresh, h.generation⟩
  | finish t t' status response held same =>
    refine h.callback (by simp [PortView.outstanding, held]) same status response rfl ?_ hfresh rfl
    simp [tableOf, PortView.outstanding, PortView.release, held]

theorem Synced.drop (h : Synced w v) (hmove : Drop completion v v') : Synced w v' := by
  have hfresh := h.fresh.drop hmove
  obtain ⟨t, t', rest, status, line, -, same⟩ := hmove
  refine h.callback (by simp [PortView.outstanding, line]) same status [] rfl ?_ hfresh rfl
  simp only [tableOf, PortView.outstanding, line, List.map_append, List.map_cons]
  exact List.perm_middle

/-- What is left of `Synced` when a call has taken a transaction. -/
structure Reached (w : UdpTable) (v : PortView UdpListener) : Prop where
  reaches : Reaches w (tableOf v)
  fresh : v.Fresh

theorem Synced.take (h : Synced w v) (hmove : Take v v') : Reached w v' := by
  have hfresh := h.fresh.take hmove
  obtain ⟨t, t', rest, line, free, same, -, -⟩ := hmove
  have htable : tableOf
      { v with generation := nextGeneration v.generation, active := some t', queue := rest } =
        (tableOf v) := by
    simp [tableOf, PortView.outstanding, line, free, same]
  exact ⟨htable ▸ h.reaches, hfresh⟩

theorem reached_served (h : Synced w v) (hs : Served completion v v') : Reached w v' :=
  hs.keeps (Synced w) (Reached w) (fun _ _ hw hmove => hw.settle hmove)
    (fun _ _ hw hmove => hw.drop hmove) (fun _ hw => ⟨hw.reaches, hw.fresh⟩)
    (fun _ _ hw hmove => hw.take hmove) h

/-! ## What a step leaves of the port -/

/-- A step of the listener touches neither the state machine of the port nor the
    generations. -/
structure PortKept (port port' : PortRuntime σ UdpListener) : Prop where
  control : port'.control = port.control
  fresh : port.view.Fresh → port'.view.Fresh

theorem PortKept.withListener (port : PortRuntime σ UdpListener) (l : UdpListener) :
    PortKept port (withListener port l) := ⟨rfl, fun h => ⟨h.active, h.queue⟩⟩

theorem PortKept.trans {port port' port'' : PortRuntime σ UdpListener} (h : PortKept port port')
    (h' : PortKept port' port'') : PortKept port port'' :=
  ⟨h'.control.trans h.control, fun hf => h'.fresh (h.fresh hf)⟩

theorem portKept_submit (port : PortRuntime σ UdpListener) (r : SubmitRequest) :
    PortKept port (portRuntimeSubmitOperation port r).2.2 := by
  refine ⟨control_portRuntimeSubmitOperation port r, ?_⟩
  intro h
  rcases view_submit port r with ⟨-, -, hview⟩ | ⟨-, hview⟩
  · rw [hview]
    refine ⟨h.active, ?_⟩
    intro t ht
    rcases List.mem_append.mp ht with ht | ht
    · exact h.queue t ht
    · rw [List.mem_singleton.mp ht]
      rfl
  · rw [hview]
    exact h

theorem portKept_dispatchFrom (now : CoreTick) (order : List PeerIndex)
    (port : PortRuntime σ UdpListener) : PortKept port (dispatchFrom now order port) := by
  induction order generalizing port with
  | nil => exact ⟨rfl, fun h => h⟩
  | cons i rest ih =>
    unfold dispatchFrom
    split
    · exact ih port
    · split
      · exact (PortKept.withListener port _).trans (ih _)
      · exact (portKept_submit port _).trans (.withListener _ _)

theorem portKept_stepIo (port : PortRuntime σ UdpListener)
    (arrivals : List (UdpAddress × List UInt8)) (now : CoreTick) :
    PortKept port (modbusUdpListenerStepIo port arrivals now) := by
  unfold modbusUdpListenerStepIo
  split
  · exact ⟨rfl, fun h => h⟩
  · exact ((PortKept.withListener port _).trans (portKept_dispatchFrom now _ _)).trans
      (.withListener _ _)

/-! ## Runs are moves -/

/-- A listener just opened. -/
def startTable (rtuMode : Bool) : UdpTable where
  listener :=
    { opened := true, rtuMode := rtuMode, nextEpoch := 1, nextPeer := 0, portGeneration := 0
      now := 0, peers := fun _ => zeroPeer, requests := [], clock := 0, log := [] }
  carried := []

theorem tracks_startTable (rtuMode : Bool) : Tracks (startTable rtuMode) := by
  refine ⟨?_, List.nodup_nil, ?_, ?_, ?_, ?_⟩
  · intro t ht
    cases ht
  · intro i hi
    cases hi
  · intro i hi
    cases hi
  · intro i hi
    cases hi
  · intro i j hi
    cases hi

/-- Where a run stands: the table `w` is what the moves have made of it, and as long as
    the listener is open it is the port's. -/
structure RunsTo (rtuMode : Bool) (port : PortRuntime σ UdpListener) (w : UdpTable) : Prop where
  coherent : port.Coherent
  completion : port.completion = some completion
  fresh : port.view.Fresh
  moves : UdpMoves (startTable rtuMode) w
  table : port.completionContext.opened = true → udpTable port = w
  log : port.completionContext.log = w.listener.log
  requests : port.completionContext.requests = w.listener.requests

theorem RunsTo.tracks (h : RunsTo rtuMode port w) : Tracks w := (tracks_startTable rtuMode).moves h.moves

/-- A later state of the run, reached by moves; a closed listener stays closed. -/
def LeadsTo (rtuMode : Bool) (port : PortRuntime σ UdpListener) (w : UdpTable)
    (port' : PortRuntime σ UdpListener) : Prop :=
  ∃ w', RunsTo rtuMode port' w' ∧ UdpMoves w w' ∧
    (port'.completionContext.opened = true → port.completionContext.opened = true)

/-- An open listener's step, as moves on its table. -/
theorem RunsTo.advance {port port' : PortRuntime σ UdpListener} (h : RunsTo rtuMode port w)
    (hopened : port.completionContext.opened = true) (hcoherent : port'.Coherent)
    (hcompletion : port'.completion = port.completion) (hfresh : port'.view.Fresh)
    (hmoves : UdpMoves (udpTable port) (udpTable port')) :
    LeadsTo rtuMode port w port' := by
  rw [h.table hopened] at hmoves
  exact ⟨udpTable port', ⟨hcoherent, hcompletion.trans h.completion, hfresh, h.moves.trans hmoves,
    fun _ => rfl, rfl, rfl⟩, hmoves, fun _ => hopened⟩

/-- A closed listener stays as it is, whatever becomes of the port. -/
theorem RunsTo.closed {port port' : PortRuntime σ UdpListener} (h : RunsTo rtuMode port w)
    (hcoherent : port'.Coherent) (hcompletion : port'.completion = port.completion)
    (hfresh : port'.view.Fresh) (hopened : port'.completionContext.opened = false)
    (hlog : port'.completionContext.log = port.completionContext.log)
    (hrequests : port'.completionContext.requests = port.completionContext.requests) :
    LeadsTo rtuMode port w port' :=
  ⟨w, ⟨hcoherent, hcompletion.trans h.completion, hfresh, h.moves,
    fun ho => absurd ho (by simp [hopened]), hlog.trans h.log, hrequests.trans h.requests⟩, .refl,
    fun ho => absurd ho (by simp [hopened])⟩

theorem receive_now (h : l.opened = true) (source : UdpAddress) (data : List UInt8) (now : CoreTick) :
    modbusUdpListenerReceive { l with now := now } source data now =
      modbusUdpListenerReceive l source data now := by
  unfold modbusUdpListenerReceive
  rw [if_neg (by simp [h]), if_neg (by simp [h])]

theorem stepIo_now (h : l.opened = true) (arrivals : List (UdpAddress × List UInt8)) (now : CoreTick) :
    modbusUdpListenerStepIo (withListener port { l with now := now }) arrivals now =
      modbusUdpListenerStepIo (withListener port l) arrivals now := by
  unfold modbusUdpListenerStepIo
  rw [if_neg (by simp [withListener, h]), if_neg (by simp [withListener, h])]
  rfl

theorem coherent_of_control {port port' : PortRuntime σ UdpListener} (h : port.Coherent)
    (hcontrol : port'.control = port.control) : port'.Coherent := by
  show port'.control.Coherent
  rw [hcontrol]
  exact h

/-- The callbacks of a closed listener do nothing. -/
theorem context_exec_closed (hcoherent : port.Coherent) (hcompletion : port.completion = some completion)
    (hclosed : port.completionContext.opened = false) {op : PortOp} (served : op.request = none) :
    (op.exec port).completionContext = port.completionContext := by
  refine (served_exec hcoherent hcompletion served).keeps
    (fun v => v.context = port.completionContext) (fun v => v.context = port.completionContext)
    ?_ ?_ (fun _ h => h) ?_ rfl
  · intro v v' hv hmove
    cases hmove with
    | mark t held => exact hv
    | finish t t' status response held same =>
      show FourVrs.Network.completion v.context t' status response = _
      rw [hv]
      exact completion_closed hclosed _ _ _
  · intro v v' hv hmove
    obtain ⟨t, t', rest, status, line, -, same⟩ := hmove
    show FourVrs.Network.completion v.context t' status [] = _
    rw [hv]
    exact completion_closed hclosed _ _ _
  · intro v v' hv hmove
    cases hmove
    exact hv

/-- A call of the runtime by an open listener. -/
theorem runsTo_call (h : RunsTo rtuMode port w) (hopened : port.completionContext.opened = true) {op : PortOp}
    (served : op.request = none) :
    LeadsTo rtuMode port w (callPort port op) := by
  have hsync : UdpMove (udpTable port) (udpTable (withListener port
      { port.completionContext with portGeneration := port.generation })) := .sync _ _
  have htracks : Tracks (udpTable port) := h.table hopened ▸ h.tracks
  have hcoherent : (withListener port
    { port.completionContext with portGeneration := port.generation }).Coherent := h.coherent
  have hsynced : Synced (udpTable (withListener port
      { port.completionContext with portGeneration := port.generation }))
      (withListener port
        { port.completionContext with portGeneration := port.generation }).view :=
    ⟨.refl _, htracks.move hsync, hopened, ⟨h.fresh.active, h.fresh.queue⟩, rfl⟩
  have hreached := reached_served hsynced (served_exec hcoherent h.completion served)
  obtain ⟨hcoherent', hcompletion'⟩ := hcoherent.exec op
  exact h.advance hopened hcoherent' hcompletion' hreached.fresh
    (.head hsync hreached.reaches.moves)

theorem runsTo_step {port port' : PortRuntime σ UdpListener} (h : RunsTo rtuMode port w)
    (hstep : UdpStep port port') : LeadsTo rtuMode port w port' := by
  by_cases hopened : port.completionContext.opened = true
  -- an open listener ticks first, and then moves as its operation does
  · cases hstep with
    | receive time source data later =>
      have htick := UdpMove.tick (udpTable port) time later
      have hreach := reaches_receive (w := { udpTable port with
        listener := { port.completionContext with clock := time, now := tick time } })
        hopened source data
      have hnow := receive_now (l := port.completionContext.atTime time) hopened source data
        (tick time)
      refine h.advance hopened h.coherent rfl ⟨h.fresh.active, h.fresh.queue⟩ ?_
      refine .head htick ?_
      rw [udpTable_withListener, ← hnow]
      exact hreach.moves
    | stepIo time arrivals later =>
      have htick := UdpMove.tick (udpTable port) time later
      have hreach := @reaches_stepIo σ (withListener port
        { port.completionContext with clock := time, now := tick time }) hopened arrivals
      have hnow := @stepIo_now σ (port.completionContext.atTime time) port hopened arrivals
        (tick time)
      have hkept := (PortKept.withListener port (port.completionContext.atTime time)).trans
        (portKept_stepIo _ arrivals (tick time))
      refine h.advance hopened (coherent_of_control h.coherent hkept.control)
        (congrArg PortControl.completion hkept.control) (hkept.fresh h.fresh) ?_
      refine .head htick ?_
      rw [← hnow]
      exact hreach.moves
    | call op served => exact runsTo_call h hopened served
    | close => exact h.closed h.coherent rfl ⟨h.fresh.active, h.fresh.queue⟩ rfl rfl rfl
  -- a closed one does nothing; the runtime may still finish what it has
  · have hclosed : port.completionContext.opened = false := by simpa using hopened
    cases hstep with
    | receive time source data later =>
      have hreceive : (modbusUdpListenerReceive (port.completionContext.atTime time) source data
          (tick time)).2 = port.completionContext.atTime time := by
        unfold modbusUdpListenerReceive
        rw [if_pos (by exact hclosed)]
      rw [hreceive]
      exact h.closed h.coherent rfl ⟨h.fresh.active, h.fresh.queue⟩ hclosed rfl rfl
    | stepIo time arrivals later =>
      have hstep : modbusUdpListenerStepIo
          (withListener port (port.completionContext.atTime time)) arrivals (tick time) =
          withListener port (port.completionContext.atTime time) := by
        unfold modbusUdpListenerStepIo
        rw [if_pos (by exact hclosed)]
      rw [hstep]
      exact h.closed h.coherent rfl ⟨h.fresh.active, h.fresh.queue⟩ hclosed rfl rfl
    | call op served =>
      have hcoherent : (withListener port
        { port.completionContext with portGeneration := port.generation }).Coherent := h.coherent
      have hcontext : (callPort port op).completionContext =
          { port.completionContext with portGeneration := port.generation } :=
        context_exec_closed hcoherent h.completion hclosed served
      obtain ⟨hcoherent', hcompletion'⟩ := hcoherent.exec op
      have hfresh := (served_exec hcoherent h.completion served).keeps PortView.Fresh
        PortView.Fresh (fun _ _ hv hmove => hv.settle hmove) (fun _ _ hv hmove => hv.drop hmove)
        (fun _ hv => hv) (fun _ _ hv hmove => hv.take hmove) ⟨h.fresh.active, h.fresh.queue⟩
      refine h.closed hcoherent' hcompletion' hfresh ?_ ?_ ?_
      · rw [hcontext]
        exact hclosed
      · rw [hcontext]
      · rw [hcontext]
    | close => exact h.closed h.coherent rfl ⟨h.fresh.active, h.fresh.queue⟩ rfl rfl rfl

theorem runsTo_steps {port port' : PortRuntime σ UdpListener} (h : RunsTo rtuMode port w)
    (hsteps : Relation.ReflTransGen UdpStep port port') :
    LeadsTo rtuMode port w port' := by
  induction hsteps with
  | refl => exact ⟨w, h, .refl, fun ho => ho⟩
  | tail _ hstep ih =>
    obtain ⟨w', h', hmoves, hopen⟩ := ih
    obtain ⟨w'', h'', hmoves', hopen'⟩ := runsTo_step h' hstep
    exact ⟨w'', h'', hmoves.trans hmoves', fun ho => hopen (hopen' ho)⟩

/-- **Every run is a sequence of moves.** -/
theorem runsTo_udpRun (h : UdpRun port) :
    ∃ rtuMode w, RunsTo rtuMode port w := by
  induction h with
  | opened port rtuMode coherent idle =>
    have hnil := List.append_eq_nil_iff.mp idle
    refine ⟨rtuMode, startTable rtuMode, ⟨coherent.1, coherent.2⟩, rfl, ⟨?_, ?_⟩, .refl, ?_,
      rfl, rfl⟩
    · intro t ht
      have hnone : port.view.active = some t := ht
      simp [hnone] at hnil
    · intro t ht
      have hmem : t ∈ port.view.queue := ht
      simp [hnil.2] at hmem
    · intro _
      show UdpTable.mk _ (port.view.outstanding.map CoreTransaction.submitted) = _
      rw [idle]
      rfl
  | step run next ih =>
    obtain ⟨rtuMode, w, h⟩ := ih
    obtain ⟨w', h', -, -⟩ := runsTo_step h next
    exact ⟨rtuMode, w', h'⟩

end FourVrs.Network
