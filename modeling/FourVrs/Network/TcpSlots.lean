import FourVrs.Network.TcpMoves

/-!
# Clients, epochs and the dispatcher's slots

A client that is open has the epoch of its connection, and while fewer than 2³²
connections have been accepted no two connections share one. A connected slot of the
dispatcher belongs to an open client, and its queue is what the connection has asked for
and the runtime has not yet been given. Every move keeps both.
-/

set_option autoImplicit false

namespace FourVrs.Network.Tcp

open FourVrs.Core Modbus

/-! ## Epochs -/

/-- The epoch of a connection: the counter skips zero. -/
def epochOf (conn : Nat) : BitVec 32 := BitVec.ofNat 32 (conn % (2 ^ 32 - 1) + 1)

theorem toNat_epochOf (conn : Nat) : (epochOf conn).toNat = conn % (2 ^ 32 - 1) + 1 := by
  unfold epochOf
  rw [BitVec.toNat_ofNat]
  omega

theorem epochOf_ne_zero (conn : Nat) : epochOf conn ≠ 0 := by
  intro h
  have hzero := congrArg BitVec.toNat h
  rw [toNat_epochOf] at hzero
  simp at hzero

theorem epochOf_succ (conn : Nat) :
    (if epochOf conn + 1 = 0 then 1 else epochOf conn + 1) = epochOf (conn + 1) := by
  have hnext : (epochOf conn + 1).toNat = (conn % (2 ^ 32 - 1) + 2) % 2 ^ 32 := by
    rw [BitVec.toNat_add, toNat_epochOf]
    rfl
  split
  · rename_i hwrap
    rw [hwrap] at hnext
    apply BitVec.eq_of_toNat_eq
    rw [toNat_epochOf]
    have hzero : (0 : BitVec 32).toNat = 0 := rfl
    rw [hzero] at hnext
    show 1 = _
    omega
  · rename_i hwrap
    have hne : (epochOf conn + 1).toNat ≠ 0 := fun h => hwrap (BitVec.eq_of_toNat_eq h)
    apply BitVec.eq_of_toNat_eq
    rw [toNat_epochOf, hnext]
    rw [hnext] at hne
    omega

theorem epochOf_inj {conn conn' : Nat} (h : epochOf conn = epochOf conn')
    (hconn : conn < 2 ^ 32 - 1) (hconn' : conn' < 2 ^ 32 - 1) : conn = conn' := by
  have hnat := congrArg BitVec.toNat h
  rw [toNat_epochOf, toNat_epochOf] at hnat
  omega

theorem clientId_inj {i j : ClientIndex} (h : clientId i = clientId j) : i = j := by
  have hval := congrArg BitVec.toNat h
  simp only [clientId, BitVec.toNat_ofNat] at hval
  have hi : i.val < 8 := i.isLt
  have hj : j.val < 8 := j.isLt
  exact Fin.ext (by omega)

/-! ## Clients -/

structure Known (l : TcpListener) : Prop where
  nextEpoch : l.nextEpoch = epochOf l.accepts
  id : ∀ i, (l.clients i).opened = true → (l.clients i).id = clientId i
  epoch : ∀ i, (l.clients i).opened = true → (l.clients i).epoch = epochOf (l.clients i).conn
  conn : ∀ i, (l.clients i).opened = true → (l.clients i).conn < l.accepts
  distinct : ∀ i j, (l.clients i).opened = true → (l.clients j).opened = true →
    (l.clients i).conn = (l.clients j).conn → i = j
  fresh : ∀ c, l.accepts ≤ c → l.history c = emptyHistory

/-- `client'` is still on the connection of `client`. -/
structure SameIdentity (client' client : TcpClient) : Prop where
  opened : client.opened = true
  id : client'.id = client.id
  epoch : client'.epoch = client.epoch
  conn : client'.conn = client.conn

theorem SameIdentity.refl {client : TcpClient} (h : client.opened = true) :
    SameIdentity client client := ⟨h, rfl, rfl, rfl⟩

/-- No connection is accepted, and only known ones have a history. -/
structure KeepsClients (l l' : TcpListener) : Prop where
  nextEpoch : l'.nextEpoch = l.nextEpoch
  accepts : l'.accepts = l.accepts
  clients : ∀ i, (l'.clients i).opened = true → SameIdentity (l'.clients i) (l.clients i)
  history : ∀ c, l.accepts ≤ c → l'.history c = l.history c

theorem Known.keep {l l' : TcpListener} (h : Known l) (hkeep : KeepsClients l l') : Known l' where
  nextEpoch := by rw [hkeep.nextEpoch, hkeep.accepts, h.nextEpoch]
  id := by
    intro i hi
    have hsame := hkeep.clients i hi
    rw [hsame.id]
    exact h.id i hsame.opened
  epoch := by
    intro i hi
    have hsame := hkeep.clients i hi
    rw [hsame.epoch, hsame.conn]
    exact h.epoch i hsame.opened
  conn := by
    intro i hi
    have hsame := hkeep.clients i hi
    rw [hsame.conn, hkeep.accepts]
    exact h.conn i hsame.opened
  distinct := by
    intro i j hi hj hij
    have hsi := hkeep.clients i hi
    have hsj := hkeep.clients j hj
    rw [hsi.conn, hsj.conn] at hij
    exact h.distinct i j hsi.opened hsj.opened hij
  fresh := by
    intro c hc
    rw [hkeep.accepts] at hc
    rw [hkeep.history c hc]
    exact h.fresh c hc

theorem record_history_self (l : TcpListener) (c : Nat)
    (f : ConnectionHistory → ConnectionHistory) : (l.record c f).history c = f (l.history c) :=
  Function.update_self ..

variable {l : TcpListener}

theorem record_history_ne {c c' : Nat} (h : c' ≠ c) (f : ConnectionHistory → ConnectionHistory) :
    (l.record c f).history c' = l.history c' :=
  Function.update_of_ne h ..

variable {d : ModbusDispatcher} {i : ClientIndex}

/-- A client is written and its connection's history with it. -/
theorem keepsClients_update (h : Known l) (hopened : (l.clients i).opened = true) {client : TcpClient}
    (hsame : SameIdentity client (l.clients i)) (f : ConnectionHistory → ConnectionHistory) :
    KeepsClients l ((l.setClient i client).record (l.clients i).conn f) where
  nextEpoch := rfl
  accepts := rfl
  clients := by
    intro j hj
    by_cases hij : j = i
    · subst hij
      rw [record_clients, setClient_self]
      exact hsame
    · rw [record_clients, setClient_ne hij] at hj ⊢
      exact .refl hj
  history := by
    intro c hc
    have hconn := h.conn i hopened
    exact record_history_ne (by omega) f

theorem keepsClients_setClient (l : TcpListener) (i : ClientIndex) (client : TcpClient)
    (hsame : client.opened = true → SameIdentity client (l.clients i)) :
    KeepsClients l (l.setClient i client) where
  nextEpoch := rfl
  accepts := rfl
  clients := by
    intro j hj
    by_cases hij : j = i
    · subst hij
      rw [setClient_self] at hj ⊢
      exact hsame hj
    · rw [setClient_ne hij] at hj ⊢
      exact .refl hj
  history := fun _ _ => rfl

theorem keepsClients_close (l : TcpListener) (i : ClientIndex) :
    KeepsClients l (closeClient l i) := by
  have hset := keepsClients_setClient l i resetClient (fun h => by cases h)
  exact ⟨rfl, rfl, hset.clients, fun _ _ => rfl⟩

/-! ## Accepting -/

theorem freeClient_some (h : freeClient l = some i) :
    (l.clients i).opened = false := by
  have hfound := List.find?_some h
  simpa using hfound

theorem Known.enter (h : Known l) (hfree : (l.clients i).opened = false) (now : CoreTick) :
    Known (enterClient l i now) where
  nextEpoch := by
    show (if l.nextEpoch + 1 = 0 then 1 else l.nextEpoch + 1) = epochOf (l.accepts + 1)
    rw [h.nextEpoch]
    exact epochOf_succ l.accepts
  id := by
    intro j hj
    by_cases hij : j = i
    · subst hij
      simp [enterClient]
    · simp only [enterClient, setClient_ne hij] at hj ⊢
      exact h.id j hj
  epoch := by
    intro j hj
    by_cases hij : j = i
    · subst hij
      simp [enterClient, h.nextEpoch]
    · simp only [enterClient, setClient_ne hij] at hj ⊢
      exact h.epoch j hj
  conn := by
    intro j hj
    by_cases hij : j = i
    · subst hij
      simp [enterClient]
    · simp only [enterClient, setClient_ne hij] at hj ⊢
      have hconn := h.conn j hj
      omega
  distinct := by
    intro j k hj hk hjk
    by_cases hij : j = i
    · by_cases hik : k = i
      · exact hij.trans hik.symm
      · subst hij
        simp only [enterClient, setClient_self, setClient_ne hik] at hk hjk
        have hconn := h.conn k hk
        omega
    by_cases hik : k = i
    · subst hik
      simp only [enterClient, setClient_self, setClient_ne hij] at hj hjk
      have hconn := h.conn j hj
      omega
    · simp only [enterClient, setClient_ne hij, setClient_ne hik] at hj hk hjk
      exact h.distinct j k hj hk hjk
  fresh := by
    intro c hc
    exact h.fresh c (by simp only [enterClient] at hc; omega)

/-! ## Slots -/

/-- What the connection has asked for and the runtime has not been given. -/
def pending (h : ConnectionHistory) : List MbapAdu := h.requests.drop h.submitted.length

/-- The slot is that of client `i`. -/
structure Serves (l : TcpListener) (i : ClientIndex) (slot : ModbusClientSlot) : Prop where
  opened : (l.clients i).opened = true
  id : slot.id = (l.clients i).id
  epoch : slot.epoch = (l.clients i).epoch
  requests : slot.requests =
    (pending (l.history (l.clients i).conn)).map (clientRequest (l.clients i))

structure Queued (l : TcpListener) : Prop where
  serves : ∀ j, (l.dispatcher.clients j).connected = true →
    ∃ i, Serves l i (l.dispatcher.clients j)
  distinct : ∀ j k, (l.dispatcher.clients j).connected = true →
    (l.dispatcher.clients k).connected = true →
    (l.dispatcher.clients j).id = (l.dispatcher.clients k).id → j = k

/-- The client that keeps its connection and what is pending keeps its slot. -/
theorem Serves.keep {l l' : TcpListener} {slot : ModbusClientSlot} (h : Serves l i slot)
    (hopened : (l'.clients i).opened = true) (hsame : SameIdentity (l'.clients i) (l.clients i))
    (hpending : pending (l'.history (l.clients i).conn) = pending (l.history (l.clients i).conn)) :
    Serves l' i slot where
  opened := hopened
  id := h.id.trans hsame.id.symm
  epoch := h.epoch.trans hsame.epoch.symm
  requests := by
    have hrequest : clientRequest (l'.clients i) = clientRequest (l.clients i) := by
      funext adu
      simp [clientRequest, hsame.id, hsame.epoch, hsame.conn]
    rw [hsame.conn, hpending, hrequest]
    exact h.requests

/-- Clients and slots are in one-to-one correspondence as far as there are slots. -/
theorem Queued.serves_unique (h : Queued l) (hknown : Known l) {j k : ClientIndex}
    (hj : (l.dispatcher.clients j).connected = true) (hk : (l.dispatcher.clients k).connected = true)
    (hij : Serves l i (l.dispatcher.clients j)) (hik : (l.dispatcher.clients k).id = clientId i) : k = j := by
  refine h.distinct k j hk hj ?_
  rw [hik, hij.id, hknown.id i hij.opened]

theorem Queued.keep {l l' : TcpListener} (h : Queued l)
    (hslots : l'.dispatcher.clients = l.dispatcher.clients)
    (hclients : ∀ i, (l.clients i).opened = true → (l'.clients i).opened = true ∧
      SameIdentity (l'.clients i) (l.clients i))
    (hpending : ∀ c, pending (l'.history c) = pending (l.history c)) : Queued l' := by
  refine ⟨?_, ?_⟩
  · intro j hj
    rw [hslots] at hj ⊢
    obtain ⟨i, hi⟩ := h.serves j hj
    obtain ⟨hopened, hsame⟩ := hclients i hi.opened
    exact ⟨i, hi.keep hopened hsame (hpending _)⟩
  · intro j k hj hk hjk
    rw [hslots] at hj hk hjk
    exact h.distinct j k hj hk hjk

theorem findSlot_some {id : BitVec 32} {j : ClientIndex} (h : findSlot d id = some j) :
    (d.clients j).connected = true ∧ (d.clients j).id = id := by
  have hfound := List.find?_some h
  simpa using hfound

theorem findSlot_none {id : BitVec 32} (h : findSlot d id = none) (j : ClientIndex)
    (hj : (d.clients j).connected = true) : (d.clients j).id ≠ id := by
  have hnone := List.find?_eq_none.mp h j (List.mem_finRange j)
  simpa [hj] using hnone

theorem freeClientSlot_some {j : ClientIndex} (h : freeClientSlot d = some j) :
    (d.clients j).connected = false := by
  have hfound := List.find?_some h
  simpa using hfound

@[simp] theorem setSlot_self (d : ModbusDispatcher) (j : ClientIndex) (slot : ModbusClientSlot) :
    (d.setSlot j slot).clients j = slot := Function.update_self ..

theorem setSlot_ne {j k : ClientIndex} (h : k ≠ j) (slot : ModbusClientSlot) :
    (d.setSlot j slot).clients k = d.clients k :=
  Function.update_of_ne h ..

/-- The slots a disconnect leaves connected are as before, and none has the id. -/
theorem disconnect_slot {id epoch : BitVec 32}
    (hepoch : ∀ j, (d.clients j).connected = true → (d.clients j).id = id → (d.clients j).epoch = epoch)
    (hdistinct : ∀ j k, (d.clients j).connected = true → (d.clients k).connected = true →
      (d.clients j).id = (d.clients k).id → j = k) (j : ClientIndex)
    (hj : ((modbusDispatcherDisconnect d id epoch).clients j).connected = true) :
    (modbusDispatcherDisconnect d id epoch).clients j = d.clients j ∧ (d.clients j).id ≠ id := by
  revert hj
  unfold modbusDispatcherDisconnect
  split
  · rename_i k hfind
    obtain ⟨hk, hid⟩ := findSlot_some hfind
    rw [if_pos (hepoch k hk hid)]
    intro hj
    by_cases hjk : j = k
    · subst hjk
      rw [setSlot_self] at hj
      cases hj
    · rw [setSlot_ne hjk] at hj ⊢
      refine ⟨rfl, ?_⟩
      intro he
      exact hjk (hdistinct j k hj hk (he.trans hid.symm))
  · rename_i hfind
    intro hj
    exact ⟨rfl, findSlot_none hfind j hj⟩

theorem Queued.close (h : Queued l) (hknown : Known l) (i : ClientIndex) :
    Queued (closeClient l i) := by
  have hslot : ∀ j, ((closeClient l i).dispatcher.clients j).connected = true →
      (closeClient l i).dispatcher.clients j = l.dispatcher.clients j ∧
        ∃ i', i' ≠ i ∧ Serves l i' (l.dispatcher.clients j) := by
    intro j hj
    by_cases hopened : (l.clients i).opened = true
    · simp only [closeClient, hopened, if_true] at hj ⊢
      have hepoch : ∀ k, (l.dispatcher.clients k).connected = true →
          (l.dispatcher.clients k).id = (l.clients i).id →
          (l.dispatcher.clients k).epoch = (l.clients i).epoch := by
        intro k hk hid
        obtain ⟨i', hi'⟩ := h.serves k hk
        have hii' : i' = i := by
          apply clientId_inj
          rw [← hknown.id i' hi'.opened, ← hknown.id i hopened, ← hi'.id, hid]
        rw [hi'.epoch, hii']
      obtain ⟨hsame, hid⟩ := disconnect_slot hepoch h.distinct j hj
      rw [hsame] at hj
      obtain ⟨i', hi'⟩ := h.serves j hj
      refine ⟨hsame, i', ?_, hi'⟩
      intro he
      exact hid (he ▸ hi'.id)
    · simp only [closeClient, hopened] at hj ⊢
      obtain ⟨i', hi'⟩ := h.serves j hj
      refine ⟨rfl, i', ?_, hi'⟩
      intro he
      exact hopened (he ▸ hi'.opened)
  refine ⟨?_, ?_⟩
  · intro j hj
    obtain ⟨hsame, i', hne, hi'⟩ := hslot j hj
    rw [hsame]
    have hclient : (closeClient l i).clients i' = l.clients i' := setClient_ne hne resetClient
    refine ⟨i', hi'.keep ?_ ?_ rfl⟩
    · rw [hclient]
      exact hi'.opened
    · rw [hclient]
      exact .refl hi'.opened
  · intro j k hj hk hjk
    have hsj := (hslot j hj).1
    have hsk := (hslot k hk).1
    rw [hsj] at hj hjk
    rw [hsk] at hk hjk
    exact h.distinct j k hj hk hjk

/-- A free client's id is in no slot. -/
theorem Queued.findSlot_free (h : Queued l) (hknown : Known l) (hfree : (l.clients i).opened = false) :
    findSlot l.dispatcher (clientId i) = none := by
  cases hfind : findSlot l.dispatcher (clientId i) with
  | none => rfl
  | some j =>
    obtain ⟨hj, hid⟩ := findSlot_some hfind
    obtain ⟨i', hi'⟩ := h.serves j hj
    have hii' : i' = i := by
      apply clientId_inj
      rw [← hknown.id i' hi'.opened, ← hi'.id, hid]
    have hopened := hi'.opened
    rw [hii', hfree] at hopened
    cases hopened

/-- What `accept_one` leaves: nothing new, a client with its slot, or an epoch used up. -/
inductive Accepted (l : TcpListener) (now : CoreTick) : TcpListener → Prop where
  | refused : Accepted l now l
  | entered (i j : ClientIndex) (client : (l.clients i).opened = false)
      (slot : (l.dispatcher.clients j).connected = false) :
      Accepted l now
        { enterClient l i now with
          dispatcher := l.dispatcher.setSlot j
            { zeroSlot with connected := true, id := clientId i, epoch := l.nextEpoch } }
  | closed (i : ClientIndex) (client : (l.clients i).opened = false) :
      Accepted l now (closeClient (enterClient l i now) i)

theorem accepted_acceptOne (h : Queued l) (hknown : Known l) (now : CoreTick) :
    Accepted l now (acceptOne l now true) := by
  unfold acceptOne
  simp only [Bool.true_eq_false, if_false]
  split
  · exact .refused
  · rename_i i hfree
    have hclient := freeClient_some hfree
    have hepoch : l.nextEpoch ≠ 0 := by
      rw [hknown.nextEpoch]
      exact epochOf_ne_zero l.accepts
    have hslot := h.findSlot_free hknown hclient
    have hguard : ¬(l.nextEpoch = 0 ∨ (findSlot l.dispatcher (clientId i)).isSome = true) := by
      rw [hslot]
      simpa using hepoch
    unfold modbusDispatcherConnect
    rw [if_neg hguard]
    split
    · rename_i dispatcher hconnect
      split at hconnect
      · rename_i j hj
        cases hconnect
        exact .entered i j hclient (freeClientSlot_some hj)
      · cases hconnect
    rename_i result dispatcher hresult hconnect
    split at hconnect
    · cases hconnect
      exact (hresult rfl).elim
    · cases hconnect
      exact .closed i hclient

theorem Known.accept {l l' : TcpListener} (h : Known l) {now : CoreTick}
    (ha : Accepted l now l') : Known l' := by
  cases ha with
  | refused => exact h
  | entered i j client slot =>
    have henter := h.enter client now
    exact ⟨henter.nextEpoch, henter.id, henter.epoch, henter.conn, henter.distinct, henter.fresh⟩
  | closed i client => exact (h.enter client now).keep (keepsClients_close _ i)

/-- The clients that were open are as they were. -/
theorem enterClient_ne {i j : ClientIndex} (h : j ≠ i) (now : CoreTick) :
    (enterClient l i now).clients j = l.clients j := setClient_ne h _

theorem Queued.enter (h : Queued l) (hfree : (l.clients i).opened = false) (now : CoreTick) :
    Queued (enterClient l i now) := by
  refine h.keep rfl ?_ (fun _ => rfl)
  intro k hk
  have hki : k ≠ i := by
    intro he
    rw [he, hfree] at hk
    cases hk
  rw [enterClient_ne hki]
  exact ⟨hk, .refl hk⟩

theorem Queued.accept {l l' : TcpListener} (h : Queued l) (hknown : Known l) {now : CoreTick}
    (ha : Accepted l now l') : Queued l' := by
  cases ha with
  | refused => exact h
  | closed i client => exact (h.enter client now).close (hknown.enter client now) i
  | entered i j client slot =>
    have henter := h.enter client now
    have hnew : Serves { enterClient l i now with
        dispatcher := l.dispatcher.setSlot j
          { zeroSlot with connected := true, id := clientId i, epoch := l.nextEpoch } } i
        { zeroSlot with connected := true, id := clientId i, epoch := l.nextEpoch } := by
      refine ⟨?_, ?_, ?_, ?_⟩
      · simp [enterClient]
      · simp [enterClient]
      · simp [enterClient]
      · simp [enterClient, zeroSlot, pending, TcpListener.setClient,
          hknown.fresh l.accepts le_rfl, emptyHistory]
    have hother : ∀ k, (l.dispatcher.clients k).connected = true →
        (l.dispatcher.clients k).id ≠ clientId i :=
      findSlot_none (h.findSlot_free hknown client)
    refine ⟨?_, ?_⟩
    · intro k hk
      by_cases hkj : k = j
      · subst hkj
        refine ⟨i, ?_⟩
        rw [setSlot_self]
        exact hnew
      · rw [setSlot_ne hkj] at hk ⊢
        obtain ⟨i', hi'⟩ := henter.serves k hk
        exact ⟨i', hi'.opened, hi'.id, hi'.epoch, hi'.requests⟩
    · intro k m hk hm hkm
      by_cases hkj : k = j
      · by_cases hmj : m = j
        · exact hkj.trans hmj.symm
        · subst hkj
          rw [setSlot_self, setSlot_ne hmj] at hkm
          rw [setSlot_ne hmj] at hm
          exact absurd hkm.symm (hother m hm)
      by_cases hmj : m = j
      · subst hmj
        rw [setSlot_self, setSlot_ne hkj] at hkm
        rw [setSlot_ne hkj] at hk
        exact absurd hkm (hother k hk)
      · rw [setSlot_ne hkj] at hk hkm
        rw [setSlot_ne hmj] at hm hkm
        exact h.distinct k m hk hm hkm

/-! ## Requests -/

variable {request : ModbusTcpRequest}

/-- The slot a frame is queued in. -/
theorem modbusDispatcherEnqueue_taken (h : (modbusDispatcherEnqueue d request).1 = 0) :
    ∃ j, (d.clients j).connected = true ∧ (d.clients j).id = request.clientId ∧
      (modbusDispatcherEnqueue d request).2 =
        d.setSlot j { d.clients j with requests := (d.clients j).requests ++ [request] } := by
  revert h
  unfold modbusDispatcherEnqueue
  split
  · rename_i j hfind
    obtain ⟨hj, hid⟩ := findSlot_some hfind
    split
    · simp
    split
    · simp
    · intro _
      exact ⟨j, hj, hid, rfl⟩
  · simp

/-- One slot is rewritten for its client, and the history of its connection with it. -/
theorem Queued.rewrite {l l' : TcpListener} (h : Queued l) (hknown : Known l) {i j : ClientIndex}
    (hj : (l.dispatcher.clients j).connected = true) (hi : Serves l i (l.dispatcher.clients j))
    (slot : ModbusClientSlot) (hid : slot.id = (l.dispatcher.clients j).id)
    (hslot : l'.dispatcher.clients j = slot)
    (hslots : ∀ k, k ≠ j → l'.dispatcher.clients k = l.dispatcher.clients k)
    (hclients : ∀ k, (l.clients k).opened = true → (l'.clients k).opened = true ∧
      SameIdentity (l'.clients k) (l.clients k))
    (hhistory : ∀ c, c ≠ (l.clients i).conn → pending (l'.history c) = pending (l.history c))
    (hserves : Serves l' i slot) : Queued l' := by
  refine ⟨?_, ?_⟩
  · intro k hk
    by_cases hkj : k = j
    · subst hkj
      rw [hslot]
      exact ⟨i, hserves⟩
    · rw [hslots k hkj] at hk ⊢
      obtain ⟨i', hi'⟩ := h.serves k hk
      have hii' : i' ≠ i := by
        intro he
        subst he
        refine hkj (h.serves_unique hknown hj hk hi ?_)
        rw [hi'.id, hknown.id i' hi'.opened]
      obtain ⟨hopened, hsame⟩ := hclients i' hi'.opened
      refine ⟨i', hi'.keep hopened hsame (hhistory _ ?_)⟩
      intro hc
      exact hii' (hknown.distinct i' i hi'.opened hi.opened hc)
  · have hids : ∀ k, (l'.dispatcher.clients k).connected = true →
        (l.dispatcher.clients k).connected = true ∧
          (l'.dispatcher.clients k).id = (l.dispatcher.clients k).id := by
      intro k hk
      by_cases hkj : k = j
      · subst hkj
        rw [hslot]
        exact ⟨hj, hid⟩
      · rw [hslots k hkj] at hk ⊢
        exact ⟨hk, rfl⟩
    intro k m hk hm hkm
    obtain ⟨hk', hidk⟩ := hids k hk
    obtain ⟨hm', hidm⟩ := hids m hm
    rw [hidk, hidm] at hkm
    exact h.distinct k m hk' hm' hkm

theorem pending_admitted {h : ConnectionHistory} (hshort : h.submitted.length ≤ h.requests.length)
    (adu : MbapAdu) :
    pending { h with requests := h.requests ++ [adu] } = pending h ++ [adu] := by
  show (h.requests ++ [adu]).drop h.submitted.length = h.requests.drop h.submitted.length ++ [adu]
  exact List.drop_append_of_le_length hshort

theorem Queued.admitted (h : Queued l) (hknown : Known l) {adu : MbapAdu}
    (hopened : (l.clients i).opened = true) (hshort : (l.history (l.clients i).conn).submitted.length ≤
      (l.history (l.clients i).conn).requests.length) (htaken : (admitAdu i l adu).1 = 0) :
    Queued (admitAdu i l adu).2 := by
  rcases admitAdu_cases l i adu with ⟨henqueued, hadmitted⟩ | ⟨-, hadmitted⟩
  · obtain ⟨j, hj, hid, hdispatcher⟩ := modbusDispatcherEnqueue_taken henqueued
    obtain ⟨i', hi'⟩ := h.serves j hj
    have hii' : i' = i := by
      apply clientId_inj
      rw [← hknown.id i' hi'.opened, ← hknown.id i hopened, ← hi'.id, hid]
      rfl
    subst hii'
    have henqueued' : (enqueued l i' adu).2 = l.dispatcher.setSlot j
        { l.dispatcher.clients j with
          requests := (l.dispatcher.clients j).requests ++ [clientRequest (l.clients i') adu] } :=
      hdispatcher
    rw [hadmitted]
    refine h.rewrite hknown hj hi' { l.dispatcher.clients j with
      requests := (l.dispatcher.clients j).requests ++ [clientRequest (l.clients i') adu] }
      rfl ?_ ?_ ?_ ?_ ?_
    · simp [henqueued']
    · intro k hk
      simp [henqueued', setSlot_ne hk]
    · intro k hk
      exact ⟨hk, .refl hk⟩
    · intro c hc
      show pending (Function.update l.history _ _ c) = _
      rw [Function.update_of_ne hc]
    · refine ⟨hi'.opened, hi'.id, hi'.epoch, ?_⟩
      show (l.dispatcher.clients j).requests ++ [clientRequest (l.clients i') adu] = _
      rw [record_clients, record_history_self, pending_admitted hshort, hi'.requests, List.map_append]
      rfl
  · rw [hadmitted] at htaken
    cases htaken

/-- The request whose turn it is, seen from its client. -/
theorem dispatcherPick_some {j : ClientIndex} (h : dispatcherPick d = some (j, request)) :
    (d.clients j).connected = true ∧ (d.clients j).requests.head? = some request := by
  obtain ⟨k, -, hk⟩ := List.exists_of_findSome?_eq_some h
  split at hk
  · rename_i hconnected
    obtain ⟨r, hhead, hr⟩ := Option.map_eq_some_iff.mp hk
    cases hr
    exact ⟨hconnected, hhead⟩
  · cases hk

/-- The picked request is the first the client's connection has pending. -/
structure Picked (l : TcpListener) (i j : ClientIndex) (request : ModbusTcpRequest)
    (adu : MbapAdu) (rest : List MbapAdu) : Prop where
  connected : (l.dispatcher.clients j).connected = true
  serves : Serves l i (l.dispatcher.clients j)
  request : request = clientRequest (l.clients i) adu
  pending : pending (l.history (l.clients i).conn) = adu :: rest

theorem Queued.picked (h : Queued l) {j : ClientIndex}
    (hpick : dispatcherPick l.dispatcher = some (j, request)) :
    ∃ i adu rest, Picked l i j request adu rest := by
  obtain ⟨hj, hhead⟩ := dispatcherPick_some hpick
  obtain ⟨i, hi⟩ := h.serves j hj
  rw [hi.requests] at hhead
  cases hpending : pending (l.history (l.clients i).conn) with
  | nil =>
    rw [hpending] at hhead
    cases hhead
  | cons adu rest =>
    rw [hpending] at hhead
    refine ⟨i, adu, rest, hj, hi, ?_, hpending⟩
    simpa using hhead.symm

theorem pending_submitted {h : ConnectionHistory} {adu : MbapAdu} {rest : List MbapAdu}
    (hpending : pending h = adu :: rest) (serial : Nat) :
    pending { h with submitted := h.submitted ++ [serial] } = rest := by
  show h.requests.drop (h.submitted ++ [serial]).length = rest
  rw [List.length_append, List.length_singleton, ← List.drop_drop]
  have hdrop : h.requests.drop h.submitted.length = adu :: rest := hpending
  rw [hdrop]
  rfl

theorem noteSubmission_accepted (l : TcpListener) (j : ClientIndex) (request : ModbusTcpRequest)
    (serial : Nat) :
    noteSubmission l j request .accepted serial =
      ({ l with dispatcher := dispatcherAdvance l.dispatcher j .accepted }).record request.conn
        fun h => { h with submitted := h.submitted ++ [serial] } := if_pos rfl

theorem Queued.submit (h : Queued l) (hknown : Known l) {i j : ClientIndex} {adu : MbapAdu}
    {rest : List MbapAdu} (hpicked : Picked l i j request adu rest) (serial : Nat) :
    Queued (noteSubmission l j request .accepted serial) := by
  have hconn : request.conn = (l.clients i).conn := by rw [hpicked.request]; rfl
  refine h.rewrite hknown hpicked.connected hpicked.serves { l.dispatcher.clients j with
    requests := (l.dispatcher.clients j).requests.tail } rfl ?_ ?_ ?_ ?_ ?_
  · simp [noteSubmission, dispatcherAdvance]
  · intro k hk
    simp [noteSubmission, dispatcherAdvance, setSlot_ne hk]
  · intro k hk
    exact ⟨hk, .refl hk⟩
  · intro c hc
    rw [noteSubmission_accepted, hconn]
    show pending (Function.update l.history _ _ c) = _
    rw [Function.update_of_ne hc]
  · refine ⟨hpicked.serves.opened, hpicked.serves.id, hpicked.serves.epoch, ?_⟩
    have hhistory : pending
        ((noteSubmission l j request .accepted serial).history (l.clients i).conn) = rest := by
      rw [noteSubmission_accepted, hconn, record_history_self]
      exact pending_submitted hpicked.pending serial
    show (l.dispatcher.clients j).requests.tail = (Tcp.pending
      ((noteSubmission l j request .accepted serial).history (l.clients i).conn)).map
      (clientRequest (l.clients i))
    rw [hhistory, hpicked.serves.requests, hpicked.pending]
    rfl

end FourVrs.Network.Tcp
