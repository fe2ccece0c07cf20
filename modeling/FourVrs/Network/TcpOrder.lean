import FourVrs.Network.TcpSlots

/-!
# Answers go to their own connection, once and in order

What a connection has received is the frames it asked for and the bytes not yet parsed;
what was queued on it is what was sent and what is waiting in its client. The
transactions made of its requests carry its epoch, the runtime holds them in the order
of their serials, and only the one in front is answered. So an answer is queued on the
connection its request was parsed from, and a later one answers a later request.
-/

set_option autoImplicit false

namespace FourVrs.Network.Tcp

open FourVrs.Core Modbus

variable {σ : Type}

/-! ## Bytes -/

def wire (requests : List MbapAdu) : List UInt8 := (requests.map encodeAdu).flatten

/-- The frames queued as answers, end to end. -/
def queuedBytes (h : ConnectionHistory) : List UInt8 := (h.answers.map Prod.snd).flatten

def unsent (client : TcpClient) : List UInt8 := client.tx.flatten.drop client.txOffset

/-- An open client's buffers hold what is left of the streams. -/
structure Flowing (client : TcpClient) (h : ConnectionHistory) : Prop where
  inbound : wire h.requests ++ client.rx.bytes = h.received
  outbound : h.sent ++ unsent client = queuedBytes h
  offset : client.txOffset ≤ (client.tx.headD []).length

/-- What is left of that when the client is gone. -/
structure Flowed (h : ConnectionHistory) : Prop where
  parsed : wire h.requests <+: h.received
  sent : h.sent <+: queuedBytes h

variable {t : CoreTransaction} {w : TcpTable} {request : MbapAdu} {h : ConnectionHistory} {i : ClientIndex}
  {client : TcpClient}

theorem Flowing.flowed (hf : Flowing client h) :
    Flowed h := ⟨⟨_, hf.inbound⟩, ⟨_, hf.outbound⟩⟩

structure Flows (l : TcpListener) : Prop where
  flowing : ∀ i, (l.clients i).opened = true → Flowing (l.clients i) (l.history (l.clients i).conn)
  flowed : ∀ c, Flowed (l.history c)

/-- The buffers and the connection of `client` are those of `client'`. -/
structure SameBuffers (client' client : TcpClient) : Prop where
  opened : client.opened = true
  conn : client'.conn = client.conn
  bytes : client'.rx.bytes = client.rx.bytes
  tx : client'.tx = client.tx
  txOffset : client'.txOffset = client.txOffset

/-- The streams of `h'` are those of `h`. -/
structure SameStreams (h' h : ConnectionHistory) : Prop where
  received : h'.received = h.received
  requests : h'.requests = h.requests
  answers : h'.answers = h.answers
  sent : h'.sent = h.sent

theorem SameStreams.refl (h : ConnectionHistory) : SameStreams h h := ⟨rfl, rfl, rfl, rfl⟩

theorem Flows.keep {l l' : TcpListener} (h : Flows l)
    (hclients : ∀ i, (l'.clients i).opened = true → SameBuffers (l'.clients i) (l.clients i))
    (hhistory : ∀ c, SameStreams (l'.history c) (l.history c)) : Flows l' := by
  refine ⟨?_, ?_⟩
  · intro i hi
    have hsame := hclients i hi
    obtain ⟨hin, hout, hoffset⟩ := h.flowing i hsame.opened
    rw [hsame.conn]
    have hstreams := hhistory (l.clients i).conn
    refine ⟨?_, ?_, ?_⟩
    · rw [hstreams.requests, hstreams.received, hsame.bytes]
      exact hin
    · unfold unsent queuedBytes
      rw [hstreams.sent, hstreams.answers, hsame.tx, hsame.txOffset]
      exact hout
    · rw [hsame.tx, hsame.txOffset]
      exact hoffset
  · intro c
    have hstreams := hhistory c
    obtain ⟨hparsed, hsent⟩ := h.flowed c
    refine ⟨?_, ?_⟩
    · rw [hstreams.requests, hstreams.received]
      exact hparsed
    · unfold queuedBytes
      rw [hstreams.sent, hstreams.answers]
      exact hsent

variable {adu : MbapAdu} {data : List UInt8} {l' : TcpListener} {l : TcpListener}

/-- One client is written, and the history of its connection. -/
theorem Flows.update (h : Flows l) (hknown : Known l) (hopened : (l.clients i).opened = true)
    (client : TcpClient) (f : ConnectionHistory → ConnectionHistory)
    (hconn : client.conn = (l.clients i).conn) (hflowing : Flowing client (f (l.history (l.clients i).conn))) :
    Flows ((l.setClient i client).record (l.clients i).conn f) := by
  refine ⟨?_, ?_⟩
  · intro j hj
    by_cases hji : j = i
    · subst hji
      rw [record_clients, setClient_self, hconn, record_history_self]
      exact hflowing
    · rw [record_clients, setClient_ne hji] at hj ⊢
      rw [record_history_ne]
      · exact h.flowing j hj
      · intro hc
        exact hji (hknown.distinct j i hj hopened hc)
  · intro c
    by_cases hc : c = (l.clients i).conn
    · rw [hc, record_history_self]
      exact hflowing.flowed
    · rw [record_history_ne hc]
      exact h.flowed c

theorem Flows.close (h : Flows l) (i : ClientIndex) : Flows (closeClient l i) := by
  refine h.keep ?_ (fun c => .refl _)
  intro j hj
  by_cases hji : j = i
  · subst hji
    simp [closeClient, resetClient] at hj
  · have hclient : (closeClient l i).clients j = l.clients j := setClient_ne hji resetClient
    rw [hclient] at hj ⊢
    exact ⟨hj, rfl, rfl, rfl, rfl⟩

theorem Flows.enter (h : Flows l) (hknown : Known l) (i : ClientIndex) (now : CoreTick) :
    Flows (enterClient l i now) := by
  refine ⟨?_, h.flowed⟩
  intro j hj
  by_cases hji : j = i
  · subst hji
    have hfresh : (enterClient l j now).history l.accepts = emptyHistory :=
      hknown.fresh l.accepts le_rfl
    have hself : (enterClient l j now).clients j =
        { resetClient with
          opened := true, id := clientId j, epoch := l.nextEpoch, lastProgress := now
          rx := mbapStreamInit, conn := l.accepts } := setClient_self ..
    rw [hself]
    show Flowing _ ((enterClient l j now).history l.accepts)
    rw [hfresh]
    exact ⟨rfl, rfl, le_rfl⟩
  · rw [enterClient_ne hji] at hj ⊢
    exact h.flowing j hj

theorem Flows.accept {l l' : TcpListener} (h : Flows l) (hknown : Known l) {now : CoreTick}
    (ha : Accepted l now l') : Flows l' := by
  cases ha with
  | refused => exact h
  | entered i j client slot =>
    have henter := h.enter hknown i now
    exact ⟨henter.flowing, henter.flowed⟩
  | closed i client => exact (h.enter hknown i now).close i

theorem wire_append (requests : List MbapAdu) (adu : MbapAdu) :
    wire (requests ++ [adu]) = wire requests ++ encodeAdu adu := by
  simp [wire]

theorem Flowing.receive (hf : Flowing client h) (data : List UInt8) :
    Flowing { client with rx := { client.rx with bytes := client.rx.bytes ++ data } }
      { h with received := h.received ++ data } := by
  refine ⟨?_, hf.outbound, hf.offset⟩
  show wire h.requests ++ (client.rx.bytes ++ data) = h.received ++ data
  rw [← List.append_assoc, hf.inbound]

theorem Flowing.admitted (hf : Flowing client h) {rest : List UInt8}
    (hfront : client.rx.bytes = encodeAdu adu ++ rest) :
    Flowing { client with rx := { client.rx with bytes := rest } }
      { h with requests := h.requests ++ [adu] } := by
  refine ⟨?_, hf.outbound, hf.offset⟩
  show wire (h.requests ++ [adu]) ++ rest = h.received
  rw [wire_append, List.append_assoc, ← hfront, hf.inbound]

theorem Flowing.send (hf : Flowing client h) {slot : List UInt8} {rest : List (List UInt8)}
    (hline : client.tx = slot :: rest) {amount : Nat} (hfits : amount ≤ slot.length - client.txOffset)
    (now : CoreTick) :
    Flowing (advanceTx client slot amount now)
      { h with sent := h.sent ++ (slot.drop client.txOffset).take amount } := by
  have hoffset : client.txOffset ≤ slot.length := by
    have ho := hf.offset
    rwa [hline] at ho
  have hunsent : unsent client =
      (slot.drop client.txOffset).take amount ++
        ((slot.drop client.txOffset).drop amount ++ rest.flatten) := by
    unfold unsent
    rw [hline, List.flatten_cons, List.drop_append_of_le_length hoffset, ← List.append_assoc,
      List.take_append_drop]
  have hout := hf.outbound
  rw [hunsent, ← List.append_assoc] at hout
  by_cases hwhole : client.txOffset + amount = slot.length
  · have hadvance : (advanceTx client slot amount now).tx = rest ∧
        (advanceTx client slot amount now).txOffset = 0 ∧
        (advanceTx client slot amount now).rx = client.rx := by
      simp [advanceTx, hwhole, hline]
    obtain ⟨htx, hzero, hrx⟩ := hadvance
    refine ⟨?_, ?_, ?_⟩
    · rw [hrx]
      exact hf.inbound
    · unfold unsent
      rw [htx, hzero, List.drop_zero]
      have hempty : (slot.drop client.txOffset).drop amount = [] := by
        rw [List.drop_drop, hwhole, List.drop_length]
      rw [hempty, List.nil_append] at hout
      exact hout
    · rw [hzero]
      exact Nat.zero_le _
  · have hadvance : (advanceTx client slot amount now).tx = slot :: rest ∧
        (advanceTx client slot amount now).txOffset = client.txOffset + amount ∧
        (advanceTx client slot amount now).rx = client.rx := by
      simp [advanceTx, hwhole, hline]
    obtain ⟨htx, hmore, hrx⟩ := hadvance
    refine ⟨?_, ?_, ?_⟩
    · rw [hrx]
      exact hf.inbound
    · unfold unsent
      rw [htx, hmore, List.flatten_cons,
        List.drop_append_of_le_length (show client.txOffset + amount ≤ slot.length by omega),
        ← List.drop_drop]
      exact hout
    · rw [htx, hmore]
      show _ ≤ slot.length
      omega

theorem Flowing.answer (hf : Flowing client h) (serial : Nat) (data : List UInt8) (started : CoreTick) :
    Flowing { client with tx := client.tx ++ [data], writeStartedAt := started }
      { h with answers := h.answers ++ [(serial, data)] } := by
  have hoffset := hf.offset
  refine ⟨hf.inbound, ?_, ?_⟩
  · have hlength : client.txOffset ≤ client.tx.flatten.length := by
      cases hline : client.tx with
      | nil =>
        rw [hline] at hoffset
        exact hoffset
      | cons slot rest =>
        rw [hline] at hoffset
        simp only [List.headD_cons] at hoffset
        rw [List.flatten_cons, List.length_append]
        omega
    show h.sent ++ (client.tx ++ [data]).flatten.drop client.txOffset =
      ((h.answers ++ [(serial, data)]).map Prod.snd).flatten
    have hout : h.sent ++ client.tx.flatten.drop client.txOffset =
      (h.answers.map Prod.snd).flatten := hf.outbound
    rw [List.flatten_append, List.drop_append_of_le_length hlength, ← List.append_assoc, hout]
    simp
  · show client.txOffset ≤ ((client.tx ++ [data]).headD []).length
    cases hline : client.tx with
    | nil =>
      rw [hline] at hoffset
      have hzero : client.txOffset = 0 := Nat.le_zero.mp hoffset
      omega
    | cons slot rest =>
      rw [hline] at hoffset
      exact hoffset

/-! ## Frames -/

/-- `data` is a frame with the ids of `request` and its function code, or that with the
    exception bit. -/
def Answers (request : MbapAdu) (data : List UInt8) : Prop :=
  ∃ answer : MbapAdu, data = encodeAdu answer ∧ answer.transactionId = request.transactionId ∧
    answer.unitId = request.unitId ∧ ∃ f g, request.pdu.head? = some f ∧
      answer.pdu.head? = some g ∧ (g = f ∨ g = f ||| 0x80)

/-- `t` is the transaction of `request` on connection `conn`. -/
structure MadeFor (conn : Nat) (request : MbapAdu) (t : CoreTransaction) : Prop where
  payload : t.payload = requestRtu request
  metadata : t.transportMetadata =
    requestMetadata request.transactionId request.unitId (byteAt request.pdu 0) (epochOf conn)

variable {conn : Nat}

theorem MadeFor.epoch (h : MadeFor conn request t) : metaClientEpoch t = epochOf conn := by
  simp [metaClientEpoch, h.metadata, requestMetadata]

theorem MadeFor.transactionId (h : MadeFor conn request t) :
    metaTransactionId t = request.transactionId.toNat := by
  have hsmall : request.transactionId.toNat < 2 ^ 16 := request.transactionId.isLt
  simp only [metaTransactionId, h.metadata, requestMetadata, List.getD_cons_zero,
    BitVec.toNat_setWidth]
  omega

theorem MadeFor.unitFunction (h : MadeFor conn request t) :
    metaUnitFunction t = request.unitId.toNat * 256 + (byteAt request.pdu 0).toNat := by
  have hunit : request.unitId.toNat < 256 := request.unitId.toNat_lt
  have hfunction : (byteAt request.pdu 0).toNat < 256 := (byteAt request.pdu 0).toNat_lt
  simp only [metaUnitFunction, h.metadata, requestMetadata, List.getD_cons_succ,
    List.getD_cons_zero, BitVec.toNat_ofNat]
  omega

theorem head?_eq_byteAt {pdu : List UInt8} (h : pdu ≠ []) : pdu.head? = some (byteAt pdu 0) := by
  cases pdu with
  | nil => exact absurd rfl h
  | cons f rest => rfl

/-- A frame spelled out as the adapter does. -/
theorem answers_frame (h : MadeFor conn request t) (hpdu : request.pdu ≠ []) {g : UInt8} (rest : List UInt8)
    (hfunction : g = byteAt request.pdu 0 ∨ g = byteAt request.pdu 0 ||| 0x80) :
    Answers request
      ([highByte (metaTransactionId t), UInt8.ofNat (metaTransactionId t), 0, 0,
        highByte (1 + (g :: rest).length), UInt8.ofNat (1 + (g :: rest).length),
        request.unitId] ++ g :: rest) := by
  refine ⟨{ transactionId := request.transactionId, unitId := request.unitId, pdu := g :: rest },
    ?_, rfl, rfl, byteAt request.pdu 0, g, head?_eq_byteAt hpdu, rfl, hfunction⟩
  rw [h.transactionId]
  rfl

theorem answers_exception (h : MadeFor conn request t) (hpdu : request.pdu ≠ []) (code : UInt8) :
    Answers request (modbusTcpBuildGatewayException t code) := by
  have hframe := answers_frame h hpdu (g := byteAt request.pdu 0 ||| 0x80) [code] (.inr rfl)
  have hhigh : highByte (1 + [byteAt request.pdu 0 ||| 0x80, code].length) = 0 := by
    simp [highByte]
  rw [hhigh] at hframe
  unfold modbusTcpBuildGatewayException
  rw [h.unitFunction, highByte_be16, lowByte_be16]
  exact hframe

theorem answers_response (h : MadeFor conn request t) (hpdu : request.pdu ≠ []) {rtu data : List UInt8}
    {capacity : Nat} (hbuild : modbusTcpBuildResponse t rtu capacity = .ok data) :
    Answers request data := by
  unfold modbusTcpBuildResponse at hbuild
  rw [h.unitFunction, highByte_be16, lowByte_be16] at hbuild
  simp only at hbuild
  split at hbuild
  · cases hbuild
  rename_i hlength
  split at hbuild
  · cases hbuild
  split at hbuild
  · cases hbuild
  rename_i hunit
  split at hbuild
  · cases hbuild
  rename_i hfunction
  split at hbuild
  · cases hbuild
  · -- past the checks: the unit is that of the request, and so is the function
    simp only [Except.ok.injEq] at hbuild
    rw [← hbuild]
    have hunit' : byteAt rtu 0 = request.unitId := by simpa using hunit
    have hfunction' : byteAt rtu 1 = byteAt request.pdu 0 ∨
        byteAt rtu 1 = byteAt request.pdu 0 ||| 0x80 := by
      by_cases hf : byteAt rtu 1 = byteAt request.pdu 0
      · exact .inl hf
      · refine .inr ?_
        by_contra hg
        exact hfunction ⟨hf, hg⟩
    have hlong : 4 ≤ rtu.length := by omega
    match rtu, hlong with
    | a :: b :: rest, hlong =>
      have htake : ((a :: b :: rest).drop 1).take ((a :: b :: rest).length - 3) =
          b :: rest.take (rest.length - 2) := by
        have hlen : (a :: b :: rest).length - 3 = (rest.length - 2) + 1 := by
          simp only [List.length_cons] at hlong ⊢
          omega
        rw [hlen]
        rfl
      have hcount : (a :: b :: rest).length - 3 =
          (b :: rest.take (rest.length - 2)).length := by
        simp only [List.length_cons, List.length_take] at hlong ⊢
        omega
      rw [htake, hcount, hunit']
      exact answers_frame h hpdu _ hfunction'

theorem answers_of_answerOf (h : MadeFor conn request t) (hpdu : request.pdu ≠ []) (ha : AnswerOf t data) :
    Answers request data := by
  rcases ha with ⟨response, hbuild⟩ | hexception
  · exact answers_response h hpdu hbuild
  · rw [hexception]
    exact answers_exception h hpdu _

/-! ## Who is answered -/

/-- Request `k` of the connection became transaction `serial`. -/
structure SubmittedAs (h : ConnectionHistory) (k : Nat) (request : MbapAdu) (serial : Nat) :
    Prop where
  request : h.requests[k]? = some request
  serial : h.submitted[k]? = some serial

structure Ledger (w : TcpTable) : Prop where
  made : ∀ c k serial, (w.listener.history c).submitted[k]? = some serial →
    ∃ request t, SubmittedAs (w.listener.history c) k request serial ∧
      w.accepted[serial]? = some t ∧ MadeFor c request t
  ordered : ∀ c, (w.listener.history c).submitted.Pairwise (· < ·)
  answered : ∀ c, ((w.listener.history c).answers.map Prod.fst).Pairwise (· < ·)
  answers : ∀ c, ∀ a ∈ (w.listener.history c).answers,
    ∃ k request, SubmittedAs (w.listener.history c) k request a.1 ∧ Answers request a.2
  earlier : ∀ c, ∀ a ∈ (w.listener.history c).answers, ∀ t ∈ w.carried, a.1 < t.serial
  line : (w.carried.map CoreTransaction.serial).Pairwise (· < ·)
  held : ∀ t ∈ w.carried, w.accepted[t.serial]? = some t ∧
    ∃ c, t.serial ∈ (w.listener.history c).submitted
  pdus : ∀ c, ∀ request ∈ (w.listener.history c).requests, request.pdu ≠ []

theorem Ledger.short (h : Ledger w) (c : Nat) :
    (w.listener.history c).submitted.length ≤ (w.listener.history c).requests.length := by
  by_contra hlong
  have hlt : (w.listener.history c).requests.length < (w.listener.history c).submitted.length := by
    omega
  obtain ⟨request, t, hsubmitted, -, -⟩ := h.made c _ _ (List.getElem?_eq_getElem hlt)
  have hrequest := hsubmitted.request
  simp at hrequest

/-- Moves that leave the requests, the submissions and the answers alone. -/
theorem Ledger.keep {w w' : TcpTable} (h : Ledger w)
    (hhistory : ∀ c, (w'.listener.history c).requests = (w.listener.history c).requests ∧
      (w'.listener.history c).submitted = (w.listener.history c).submitted ∧
      (w'.listener.history c).answers = (w.listener.history c).answers)
    (haccepted : w'.accepted = w.accepted) (hcarried : w'.carried.Sublist w.carried) :
    Ledger w' := by
  have hsubmitted : ∀ {c k request serial}, SubmittedAs (w.listener.history c) k request serial →
      SubmittedAs (w'.listener.history c) k request serial := by
    intro c k request serial hs
    obtain ⟨hrequests, hsub, -⟩ := hhistory c
    exact ⟨by rw [hrequests]; exact hs.request, by rw [hsub]; exact hs.serial⟩
  refine ⟨?_, ?_, ?_, ?_, ?_, ?_, ?_, ?_⟩
  · intro c k serial hserial
    rw [(hhistory c).2.1] at hserial
    obtain ⟨request, t, hs, ht, hmade⟩ := h.made c k serial hserial
    exact ⟨request, t, hsubmitted hs, by rw [haccepted]; exact ht, hmade⟩
  · intro c
    rw [(hhistory c).2.1]
    exact h.ordered c
  · intro c
    rw [(hhistory c).2.2]
    exact h.answered c
  · intro c a ha
    rw [(hhistory c).2.2] at ha
    obtain ⟨k, request, hs, hanswers⟩ := h.answers c a ha
    exact ⟨k, request, hsubmitted hs, hanswers⟩
  · intro c a ha t ht
    rw [(hhistory c).2.2] at ha
    exact h.earlier c a ha t (hcarried.subset ht)
  · exact h.line.sublist (hcarried.map _)
  · intro t ht
    obtain ⟨haccept, c, hc⟩ := h.held t (hcarried.subset ht)
    refine ⟨by rw [haccepted]; exact haccept, c, ?_⟩
    rw [(hhistory c).2.1]
    exact hc
  · intro c request hrequest
    rw [(hhistory c).1] at hrequest
    exact h.pdus c request hrequest

/-- A history that only grows keeps what was submitted as what. -/
theorem SubmittedAs.grow {h h' : ConnectionHistory} {k serial : Nat} (hs : SubmittedAs h k request serial)
    (hrequests : h.requests <+: h'.requests) (hsubmitted : h.submitted <+: h'.submitted) :
    SubmittedAs h' k request serial := by
  obtain ⟨more, hmore⟩ := hrequests
  obtain ⟨later, hlater⟩ := hsubmitted
  refine ⟨?_, ?_⟩
  · rw [← hmore, List.getElem?_append_left]
    · exact hs.request
    · exact (List.getElem?_eq_some_iff.mp hs.request).1
  · rw [← hlater, List.getElem?_append_left]
    · exact hs.serial
    · exact (List.getElem?_eq_some_iff.mp hs.serial).1

theorem Ledger.admitted (h : Ledger w) (conn : Nat) (hpdu : adu.pdu ≠ [])
    (hself : l'.history conn = { w.listener.history conn with
      requests := (w.listener.history conn).requests ++ [adu] })
    (hother : ∀ c, c ≠ conn → l'.history c = w.listener.history c) :
    Ledger (w.withListener l') := by
  have hsame : ∀ c, (l'.history c).submitted = (w.listener.history c).submitted ∧
      (l'.history c).answers = (w.listener.history c).answers := by
    intro c
    by_cases hc : c = conn
    · rw [hc, hself]
      exact ⟨rfl, rfl⟩
    · rw [hother c hc]
      exact ⟨rfl, rfl⟩
  have hgrow : ∀ {c k request serial}, SubmittedAs (w.listener.history c) k request serial →
      SubmittedAs (l'.history c) k request serial := by
    intro c k request serial hs
    refine hs.grow ?_ ?_
    · by_cases hc : c = conn
      · rw [hc, hself]
        exact List.prefix_append _ _
      · simp [hother c hc]
    · simp [(hsame c).1]
  refine ⟨?_, ?_, ?_, ?_, ?_, h.line, ?_, ?_⟩
  · intro c k serial hserial
    rw [withListener_listener, (hsame c).1] at hserial
    obtain ⟨request, t, hs, ht, hmade⟩ := h.made c k serial hserial
    exact ⟨request, t, hgrow hs, ht, hmade⟩
  · intro c
    rw [withListener_listener, (hsame c).1]
    exact h.ordered c
  · intro c
    rw [withListener_listener, (hsame c).2]
    exact h.answered c
  · intro c a ha
    rw [withListener_listener, (hsame c).2] at ha
    obtain ⟨k, request, hs, hanswers⟩ := h.answers c a ha
    exact ⟨k, request, hgrow hs, hanswers⟩
  · intro c a ha t ht
    rw [withListener_listener, (hsame c).2] at ha
    exact h.earlier c a ha t ht
  · intro t ht
    obtain ⟨haccepted, c, hc⟩ := h.held t ht
    refine ⟨haccepted, c, ?_⟩
    rw [withListener_listener, (hsame c).1]
    exact hc
  · intro c request hrequest
    by_cases hc : c = conn
    · rw [withListener_listener, hc, hself] at hrequest
      rcases List.mem_append.mp hrequest with hrequest | hrequest
      · exact h.pdus conn request hrequest
      · rw [List.mem_singleton.mp hrequest]
        exact hpdu
    · rw [withListener_listener, hother c hc] at hrequest
      exact h.pdus c request hrequest

theorem Ledger.submit (h : Ledger w) {rest : List MbapAdu}
    (hpending : pending (w.listener.history conn) = adu :: rest)
    (hself : l'.history conn = { w.listener.history conn with
      submitted := (w.listener.history conn).submitted ++ [w.accepted.length] })
    (hother : ∀ c, c ≠ conn → l'.history c = w.listener.history c) (hmade : MadeFor conn adu t)
    (hserial : t.serial = w.accepted.length) :
    Ledger { listener := l', carried := w.carried ++ [t], accepted := w.accepted ++ [t] } := by
  -- only the one list of submitted serials grows, so what is known of the others stays
  have hsame : ∀ c, (l'.history c).requests = (w.listener.history c).requests ∧
      (l'.history c).answers = (w.listener.history c).answers := by
    intro c
    by_cases hc : c = conn
    · rw [hc, hself]
      exact ⟨rfl, rfl⟩
    · rw [hother c hc]
      exact ⟨rfl, rfl⟩
  have hmore : ∀ c, (w.listener.history c).submitted <+: (l'.history c).submitted := by
    intro c
    by_cases hc : c = conn
    · rw [hc, hself]
      exact List.prefix_append _ _
    · simp [hother c hc]
  have hgrow : ∀ {c k request serial}, SubmittedAs (w.listener.history c) k request serial →
      SubmittedAs (l'.history c) k request serial := by
    intro c k request serial hs
    refine hs.grow ?_ (hmore c)
    simp [(hsame c).1]
  have hlt : ∀ {c serial}, serial ∈ (w.listener.history c).submitted →
      serial < w.accepted.length := by
    intro c serial hmem
    obtain ⟨k, hk⟩ := List.mem_iff_getElem?.mp hmem
    obtain ⟨request, t', -, ht', -⟩ := h.made c k serial hk
    exact (List.getElem?_eq_some_iff.mp ht').1
  have hkeep : ∀ {serial : Nat} {t' : CoreTransaction}, w.accepted[serial]? = some t' →
      (w.accepted ++ [t])[serial]? = some t' := by
    intro serial t' ht'
    rw [List.getElem?_append_left (List.getElem?_eq_some_iff.mp ht').1]
    exact ht'
  have hlast : (w.accepted ++ [t])[w.accepted.length]? = some t := by simp
  refine ⟨?_, ?_, ?_, ?_, ?_, ?_, ?_, ?_⟩
  · intro c k serial hk
    -- an older request keeps its transaction; the new one is the first of those pending
    by_cases hold : k < (w.listener.history c).submitted.length
    · obtain ⟨later, hlater⟩ := hmore c
      rw [← hlater, List.getElem?_append_left hold] at hk
      obtain ⟨request, t', hs, ht', hmade'⟩ := h.made c k serial hk
      exact ⟨request, t', hgrow hs, hkeep ht', hmade'⟩
    by_cases hc : c = conn
    · subst hc
      have hnext : k = (w.listener.history c).submitted.length ∧ serial = w.accepted.length := by
        have hk' : ((w.listener.history c).submitted ++ [w.accepted.length])[k]? = some serial := by
          rw [← hk]
          show _ = (l'.history c).submitted[k]?
          rw [hself]
        rw [List.getElem?_append_right (Nat.not_lt.mp hold)] at hk'
        cases hgap : k - (w.listener.history c).submitted.length with
        | zero =>
          rw [hgap] at hk'
          simp only [List.getElem?_cons_zero, Option.some.injEq] at hk'
          exact ⟨by omega, hk'.symm⟩
        | succ gap =>
          rw [hgap] at hk'
          simp at hk'
      obtain ⟨rfl, rfl⟩ := hnext
      refine ⟨adu, t, ⟨?_, hk⟩, hlast, hmade⟩
      show (l'.history c).requests[(w.listener.history c).submitted.length]? = some adu
      have hfirst : ((w.listener.history c).requests.drop
          (w.listener.history c).submitted.length)[0]? = some adu := by
        show (pending (w.listener.history c))[0]? = some adu
        rw [hpending]
        rfl
      rw [List.getElem?_drop, Nat.add_zero] at hfirst
      rw [(hsame c).1]
      exact hfirst
    · have hk' : (w.listener.history c).submitted[k]? = some serial := by
        rw [← hk]
        show _ = (l'.history c).submitted[k]?
        rw [hother c hc]
      exact absurd (List.getElem?_eq_some_iff.mp hk').1 hold
  · intro c
    by_cases hc : c = conn
    · show (l'.history c).submitted.Pairwise (· < ·)
      rw [hc, hself]
      -- the new serial is the number accepted so far, above all there are
      refine List.pairwise_append.mpr ⟨h.ordered conn, List.pairwise_singleton _ _, ?_⟩
      intro a ha b hb
      rw [List.mem_singleton.mp hb]
      exact hlt ha
    · show (l'.history c).submitted.Pairwise (· < ·)
      rw [hother c hc]
      exact h.ordered c
  · intro c
    show ((l'.history c).answers.map Prod.fst).Pairwise (· < ·)
    rw [(hsame c).2]
    exact h.answered c
  · intro c a ha
    have ha' : a ∈ (w.listener.history c).answers := (hsame c).2 ▸ ha
    obtain ⟨k, request, hs, hanswers⟩ := h.answers c a ha'
    exact ⟨k, request, hgrow hs, hanswers⟩
  · intro c a ha t' ht'
    have ha' : a ∈ (w.listener.history c).answers := (hsame c).2 ▸ ha
    rcases List.mem_append.mp ht' with ht' | ht'
    · exact h.earlier c a ha' t' ht'
    · obtain ⟨k, request, hs, -⟩ := h.answers c a ha'
      rw [List.mem_singleton.mp ht', hserial]
      exact hlt (List.mem_of_getElem? hs.serial)
  · rw [List.map_append]
    refine List.pairwise_append.mpr ⟨h.line, List.pairwise_singleton _ _, ?_⟩
    intro a ha b hb
    obtain ⟨t', ht', rfl⟩ := List.mem_map.mp ha
    obtain ⟨-, c, hc⟩ := h.held t' ht'
    rw [List.mem_singleton.mp hb, hserial]
    exact hlt hc
  · intro t' ht'
    rcases List.mem_append.mp ht' with ht' | ht'
    · obtain ⟨haccepted, c, hc⟩ := h.held t' ht'
      exact ⟨hkeep haccepted, c, (hmore c).subset hc⟩
    · rw [List.mem_singleton.mp ht', hserial]
      refine ⟨hlast, conn, ?_⟩
      show w.accepted.length ∈ (l'.history conn).submitted
      rw [hself]
      exact List.mem_append_right _ (List.mem_singleton.mpr rfl)
  · intro c request hrequest
    have hrequest' : request ∈ (w.listener.history c).requests := (hsame c).1 ▸ hrequest
    exact h.pdus c request hrequest'

variable {rest : List CoreTransaction}

/-- The transaction in front is answered, on the connection it was submitted for. -/
theorem Ledger.answer (h : Ledger w) (l' : TcpListener) {conn k : Nat} (hheld : w.carried = t :: rest)
    (hsubmitted : SubmittedAs (w.listener.history conn) k request t.serial) (hanswers : Answers request data)
    (hself : l'.history conn = { w.listener.history conn with
      answers := (w.listener.history conn).answers ++ [(t.serial, data)] })
    (hother : ∀ c, c ≠ conn → l'.history c = w.listener.history c) :
    Ledger { w.withListener l' with carried := rest } := by
  have hsame : ∀ c, (l'.history c).requests = (w.listener.history c).requests ∧
      (l'.history c).submitted = (w.listener.history c).submitted := by
    intro c
    by_cases hc : c = conn
    · rw [hc, hself]
      exact ⟨rfl, rfl⟩
    · rw [hother c hc]
      exact ⟨rfl, rfl⟩
  have hgrow : ∀ {c k request serial}, SubmittedAs (w.listener.history c) k request serial →
      SubmittedAs (l'.history c) k request serial := by
    intro c k request serial hs
    exact ⟨by rw [(hsame c).1]; exact hs.request, by rw [(hsame c).2]; exact hs.serial⟩
  have hfront : t ∈ w.carried := by simp [hheld]
  have hrest : ∀ t' ∈ rest, t.serial < t'.serial := by
    intro t' ht'
    have hline := h.line
    rw [hheld, List.map_cons, List.pairwise_cons] at hline
    exact hline.1 t'.serial (List.mem_map_of_mem ht')
  have hanswer : ∀ c a, a ∈ (l'.history c).answers →
      a ∈ (w.listener.history c).answers ∨ c = conn ∧ a = (t.serial, data) := by
    intro c a ha
    by_cases hc : c = conn
    · subst hc
      rw [hself] at ha
      rcases List.mem_append.mp ha with ha | ha
      · exact .inl ha
      · exact .inr ⟨rfl, List.mem_singleton.mp ha⟩
    · rw [hother c hc] at ha
      exact .inl ha
  refine ⟨?_, ?_, ?_, ?_, ?_, ?_, ?_, ?_⟩
  · intro c k' serial hk'
    have hk'' : (w.listener.history c).submitted[k']? = some serial := (hsame c).2 ▸ hk'
    obtain ⟨request', t', hs, ht', hmade⟩ := h.made c k' serial hk''
    exact ⟨request', t', hgrow hs, ht', hmade⟩
  · intro c
    show (l'.history c).submitted.Pairwise (· < ·)
    rw [(hsame c).2]
    exact h.ordered c
  · intro c
    by_cases hc : c = conn
    · show ((l'.history c).answers.map Prod.fst).Pairwise (· < ·)
      rw [hc, hself, List.map_append]
      refine List.pairwise_append.mpr ⟨h.answered conn, List.pairwise_singleton _ _, ?_⟩
      intro a ha b hb
      obtain ⟨a', ha', rfl⟩ := List.mem_map.mp ha
      rw [List.mem_singleton.mp hb]
      exact h.earlier conn a' ha' t hfront
    · show ((l'.history c).answers.map Prod.fst).Pairwise (· < ·)
      rw [hother c hc]
      exact h.answered c
  · intro c a ha
    rcases hanswer c a ha with ha | ⟨rfl, rfl⟩
    · obtain ⟨k', request', hs, hanswers'⟩ := h.answers c a ha
      exact ⟨k', request', hgrow hs, hanswers'⟩
    · exact ⟨k, request, hgrow hsubmitted, hanswers⟩
  · intro c a ha t' ht'
    rcases hanswer c a ha with ha | ⟨rfl, rfl⟩
    · exact h.earlier c a ha t' (by rw [hheld]; exact List.mem_cons_of_mem _ ht')
    · exact hrest t' ht'
  · have hline := h.line
    rw [hheld, List.map_cons, List.pairwise_cons] at hline
    exact hline.2
  · intro t' ht'
    obtain ⟨haccepted, c, hc⟩ := h.held t' (by rw [hheld]; exact List.mem_cons_of_mem _ ht')
    refine ⟨haccepted, c, ?_⟩
    show t'.serial ∈ (l'.history c).submitted
    rw [(hsame c).2]
    exact hc
  · intro c request' hrequest
    have hrequest' : request' ∈ (w.listener.history c).requests := (hsame c).1 ▸ hrequest
    exact h.pdus c request' hrequest'

/-! ## Every move keeps it -/

structure Facts (w : TcpTable) : Prop where
  known : Known w.listener
  queued : Queued w.listener
  flows : Flows w.listener
  ledger : Ledger w

theorem facts_startTable (accepted : List CoreTransaction) : Facts (startTable accepted) where
  known := by
    refine ⟨rfl, ?_, ?_, ?_, ?_, fun c _ => rfl⟩
    · intro i hi
      cases hi
    · intro i hi
      cases hi
    · intro i hi
      cases hi
    · intro i j hi
      cases hi
  queued := by
    refine ⟨?_, ?_⟩
    · intro j hj
      cases hj
    · intro j k hj
      cases hj
  flows := by
    refine ⟨?_, fun c => ⟨List.nil_prefix, List.nil_prefix⟩⟩
    intro i hi
    cases hi
  ledger := by
    refine ⟨?_, fun c => .nil, fun c => .nil, ?_, ?_, .nil, ?_, ?_⟩
    · intro c k serial hserial
      cases hserial
    · intro c a ha
      cases ha
    · intro c a ha
      cases ha
    · intro t ht
      cases ht
    · intro c request hrequest
      cases hrequest

/-- The client's epoch is that of the transaction, so its connection is too. -/
theorem Facts.answered_conn (h : Facts w) (few : w.listener.accepts < 2 ^ 32) (hheld : t ∈ w.carried)
    (hopened : (w.listener.clients i).opened = true)
    (hepoch : (w.listener.clients i).epoch = metaClientEpoch t) :
    ∃ k request, SubmittedAs (w.listener.history (w.listener.clients i).conn) k request t.serial ∧
      MadeFor (w.listener.clients i).conn request t := by
  obtain ⟨haccepted, c, hmem⟩ := h.ledger.held t hheld
  obtain ⟨k, hk⟩ := List.mem_iff_getElem?.mp hmem
  obtain ⟨request, t', hsubmitted, ht', hmade⟩ := h.ledger.made c k t.serial hk
  rw [haccepted] at ht'
  cases ht'
  have hconn := h.known.conn i hopened
  have hc : c < w.listener.accepts := by
    by_contra hlate
    rw [h.known.fresh c (Nat.not_lt.mp hlate)] at hmem
    cases hmem
  have hsame : (w.listener.clients i).conn = c := by
    apply epochOf_inj
    · rw [← h.known.epoch i hopened, hepoch, hmade.epoch]
    · omega
    · omega
  rw [hsame]
  exact ⟨k, request, hsubmitted, hmade⟩

/-- Moves that touch no client, slot or stream. -/
theorem Facts.same {w w' : TcpTable} (h : Facts w)
    (hclients : w'.listener.clients = w.listener.clients)
    (hnext : w'.listener.nextEpoch = w.listener.nextEpoch)
    (haccepts : w'.listener.accepts = w.listener.accepts)
    (hslots : w'.listener.dispatcher.clients = w.listener.dispatcher.clients)
    (hhistory : w'.listener.history = w.listener.history) (haccepted : w'.accepted = w.accepted)
    (hcarried : w'.carried.Sublist w.carried) : Facts w' where
  known := by
    refine h.known.keep ⟨hnext, haccepts, ?_, fun c _ => congrFun hhistory c⟩
    intro i hi
    rw [hclients] at hi ⊢
    exact .refl hi
  queued := by
    refine h.queued.keep hslots ?_ (fun c => congrArg pending (congrFun hhistory c))
    intro i hi
    rw [hclients]
    exact ⟨hi, .refl hi⟩
  flows := by
    refine h.flows.keep ?_ ?_
    · intro i hi
      rw [hclients] at hi ⊢
      exact ⟨hi, rfl, rfl, rfl, rfl⟩
    · intro c
      rw [hhistory]
      exact .refl _
  ledger := by
    refine h.ledger.keep ?_ haccepted hcarried
    intro c
    rw [hhistory]
    exact ⟨rfl, rfl, rfl⟩

/-- A client's connection goes on with other buffers and another history, and no request
    or submission comes or goes. -/
theorem Facts.update {w w' : TcpTable} (h : Facts w) (hopened : (w.listener.clients i).opened = true)
    (client : TcpClient) (f : ConnectionHistory → ConnectionHistory)
    (hlistener : w'.listener = (w.listener.setClient i client).record (w.listener.clients i).conn f)
    (hclient : client.opened = true) (hsame : SameIdentity client (w.listener.clients i))
    (hflowing : Flowing client (f (w.listener.history (w.listener.clients i).conn)))
    (hpending : ∀ h, pending (f h) = pending h) (hledger : Ledger w') : Facts w' where
  known := by
    rw [hlistener]
    exact h.known.keep (keepsClients_update h.known hopened hsame f)
  queued := by
    rw [hlistener]
    refine h.queued.keep rfl ?_ ?_
    · intro j hj
      by_cases hji : j = i
      · subst hji
        rw [record_clients, setClient_self]
        exact ⟨hclient, hsame⟩
      · rw [record_clients, setClient_ne hji]
        exact ⟨hj, .refl hj⟩
    · intro c
      by_cases hc : c = (w.listener.clients i).conn
      · rw [hc, record_history_self, hpending]
        rfl
      · rw [record_history_ne hc]
        rfl
  flows := by
    rw [hlistener]
    exact h.flows.update h.known hopened client f hsame.conn hflowing
  ledger := hledger

theorem Facts.accept (h : Facts w) {now : CoreTick} (ha : Accepted w.listener now l') :
    Facts (w.withListener l') where
  known := h.known.accept ha
  queued := h.queued.accept h.known ha
  flows := h.flows.accept h.known ha
  ledger := by
    refine h.ledger.keep ?_ rfl (List.Sublist.refl _)
    intro c
    cases ha <;> exact ⟨rfl, rfl, rfl⟩

theorem Facts.close (h : Facts w) (i : ClientIndex) :
    Facts (w.withListener (closeClient w.listener i)) where
  known := h.known.keep (keepsClients_close _ i)
  queued := h.queued.close h.known i
  flows := h.flows.close i
  ledger := h.ledger.keep (fun _ => ⟨rfl, rfl, rfl⟩) rfl (List.Sublist.refl _)

theorem Facts.admitted (h : Facts w) {rest : List UInt8} (hopened : (w.listener.clients i).opened = true)
    (hfront : (w.listener.clients i).rx.bytes = encodeAdu adu ++ rest) (hpdu : adu.pdu ≠ [])
    (htaken : (admitAdu i w.listener adu).1 = 0) :
    Facts (w.withListener (withRx (admitAdu i w.listener adu).2 i rest)) := by
  have hqueued := h.queued.admitted h.known hopened (h.ledger.short _) htaken
  rcases admitAdu_cases w.listener i adu with ⟨-, hadmitted⟩ | ⟨-, hadmitted⟩
  · rw [hadmitted] at hqueued ⊢
    -- the slot is taken care of; the rest is a client written with its history
    have hself : SameIdentity
        { w.listener.clients i with rx := { (w.listener.clients i).rx with bytes := rest } }
        (w.listener.clients i) := ⟨hopened, rfl, rfl, rfl⟩
    have hkept := h.known.keep (keepsClients_update h.known hopened hself
      fun h => { h with requests := h.requests ++ [adu] })
    have hflows := h.flows.update h.known hopened
      { w.listener.clients i with rx := { (w.listener.clients i).rx with bytes := rest } }
      (fun h => { h with requests := h.requests ++ [adu] }) rfl
      ((h.flows.flowing i hopened).admitted hfront)
    refine ⟨⟨hkept.nextEpoch, hkept.id, hkept.epoch, hkept.conn, hkept.distinct, hkept.fresh⟩,
      ?_, ⟨hflows.flowing, hflows.flowed⟩, ?_⟩
    · refine hqueued.keep rfl ?_ (fun _ => rfl)
      intro j hj
      by_cases hji : j = i
      · subst hji
        rw [withListener_listener, withRx_self]
        exact ⟨hopened, hopened, rfl, rfl, rfl⟩
      · have hclient : (withRx (({ w.listener with
            dispatcher := (enqueued w.listener i adu).2 }).record
            (w.listener.clients i).conn fun h => { h with requests := h.requests ++ [adu] }) i
            rest).clients j = w.listener.clients j := setClient_ne hji _
        rw [withListener_listener, hclient]
        exact ⟨hj, .refl hj⟩
    · exact h.ledger.admitted (w.listener.clients i).conn hpdu
        (Function.update_self ..) (fun c hc => Function.update_of_ne hc ..)
  · rw [hadmitted] at htaken
    cases htaken

theorem Facts.submit (h : Facts w) {j : ClientIndex} {request : ModbusTcpRequest}
    (hpick : dispatcherPick w.listener.dispatcher = some (j, request)) (hmade : Made request t)
    (hserial : t.serial = w.accepted.length) :
    Facts
      { listener := noteSubmission w.listener j request .accepted w.accepted.length
        carried := w.carried ++ [t], accepted := w.accepted ++ [t] } := by
  obtain ⟨i, adu, rest, hpicked⟩ := h.queued.picked hpick
  have hopened := hpicked.serves.opened
  have hconn : request.conn = (w.listener.clients i).conn := by rw [hpicked.request]; rfl
  have hself := SameIdentity.refl hopened
  have hqueued := h.queued.submit h.known hpicked w.accepted.length
  have hmadeFor : MadeFor (w.listener.clients i).conn adu t := by
    refine ⟨?_, ?_⟩
    · rw [hmade.payload, hpicked.request]
      rfl
    · rw [hmade.metadata, hpicked.request, ← h.known.epoch i hopened]
      rfl
  have hhistory : (noteSubmission w.listener j request .accepted w.accepted.length).history =
      Function.update w.listener.history (w.listener.clients i).conn
        { w.listener.history (w.listener.clients i).conn with
          submitted := (w.listener.history (w.listener.clients i).conn).submitted ++
            [w.accepted.length] } := by
    rw [noteSubmission_accepted, hconn]
    rfl
  refine ⟨h.known.keep ⟨rfl, rfl, fun k hk => .refl hk, ?_⟩, hqueued, h.flows.keep ?_ ?_, ?_⟩
  · intro c hc
    have hlt := h.known.conn i hopened
    show (noteSubmission w.listener j request .accepted w.accepted.length).history c = _
    rw [hhistory, Function.update_of_ne (by omega)]
  · intro k hk
    exact ⟨hk, rfl, rfl, rfl, rfl⟩
  · intro c
    show SameStreams ((noteSubmission w.listener j request .accepted
      w.accepted.length).history c) _
    rw [hhistory]
    by_cases hc : c = (w.listener.clients i).conn
    · rw [hc, Function.update_self]
      exact ⟨rfl, rfl, rfl, rfl⟩
    · rw [Function.update_of_ne hc]
      exact .refl _
  · refine h.ledger.submit hpicked.pending ?_ ?_ hmadeFor hserial
    · rw [hhistory, Function.update_self]
    · intro c hc
      rw [hhistory, Function.update_of_ne hc]

theorem Facts.note (h : Facts w) (same : SameConnection client (w.listener.clients i)) :
    Facts (w.withListener (w.listener.setClient i client)) where
  known := by
    refine h.known.keep (keepsClients_setClient _ _ _ ?_)
    intro hopened
    rw [same.opened] at hopened
    exact ⟨hopened, same.id, same.epoch, same.conn⟩
  queued := by
    refine h.queued.keep rfl ?_ (fun _ => rfl)
    intro j hj
    by_cases hji : j = i
    · subst hji
      rw [withListener_listener, setClient_self, same.opened]
      exact ⟨hj, hj, same.id, same.epoch, same.conn⟩
    · rw [withListener_listener, setClient_ne hji]
      exact ⟨hj, .refl hj⟩
  flows := by
    refine h.flows.keep ?_ (fun _ => .refl _)
    intro j hj
    by_cases hji : j = i
    · subst hji
      rw [withListener_listener, setClient_self] at hj ⊢
      rw [same.opened] at hj
      exact ⟨hj, same.conn, same.bytes, same.tx, same.txOffset⟩
    · rw [withListener_listener, setClient_ne hji] at hj ⊢
      exact ⟨hj, rfl, rfl, rfl, rfl⟩
  ledger := h.ledger.keep (fun _ => ⟨rfl, rfl, rfl⟩) rfl (List.Sublist.refl _)

/-- Bytes come in or go out: the ledger does not notice. -/
theorem Ledger.streams (h : Ledger w) (i : ClientIndex) (client : TcpClient)
    (f : ConnectionHistory → ConnectionHistory) (hrequests : ∀ h, (f h).requests = h.requests)
    (hsubmitted : ∀ h, (f h).submitted = h.submitted) (hanswers : ∀ h, (f h).answers = h.answers) :
    Ledger (w.withListener
      ((w.listener.setClient i client).record (w.listener.clients i).conn f)) := by
  refine h.keep ?_ rfl (List.Sublist.refl _)
  intro c
  rw [withListener_listener]
  by_cases hc : c = (w.listener.clients i).conn
  · rw [hc, record_history_self]
    exact ⟨hrequests _, hsubmitted _, hanswers _⟩
  · rw [record_history_ne hc]
    exact ⟨rfl, rfl, rfl⟩

@[simp] theorem advanceTx_identity (client : TcpClient) (slot : List UInt8) (amount : Nat)
    (now : CoreTick) :
    (advanceTx client slot amount now).opened = client.opened ∧
      (advanceTx client slot amount now).id = client.id ∧
      (advanceTx client slot amount now).epoch = client.epoch ∧
      (advanceTx client slot amount now).conn = client.conn := by
  unfold advanceTx
  split <;> exact ⟨rfl, rfl, rfl, rfl⟩

theorem Facts.receive (h : Facts w) (hopened : (w.listener.clients i).opened = true) (data : List UInt8) :
    Facts (w.withListener (appendRx w.listener i data)) := by
  have hledger := h.ledger.streams i
    { w.listener.clients i with
      rx := { (w.listener.clients i).rx with bytes := (w.listener.clients i).rx.bytes ++ data } }
    (fun h => { h with received := h.received ++ data }) (fun _ => rfl) (fun _ => rfl)
    (fun _ => rfl)
  exact h.update hopened
    { w.listener.clients i with
      rx := { (w.listener.clients i).rx with bytes := (w.listener.clients i).rx.bytes ++ data } }
    (fun h => { h with received := h.received ++ data }) rfl hopened ⟨hopened, rfl, rfl, rfl⟩
    ((h.flows.flowing i hopened).receive data) (fun _ => rfl) hledger

theorem Facts.send (h : Facts w) {slot : List UInt8} {rest : List (List UInt8)} {amount : Nat}
    (hopened : (w.listener.clients i).opened = true) (hline : (w.listener.clients i).tx = slot :: rest)
    (hfits : amount ≤ slot.length - (w.listener.clients i).txOffset) (now : CoreTick) :
    Facts (w.withListener (sendBytes w.listener i slot amount now)) := by
  obtain ⟨hsame, hid, hepoch, hconn⟩ := advanceTx_identity (w.listener.clients i) slot amount now
  have hledger := h.ledger.streams i (advanceTx (w.listener.clients i) slot amount now)
    (fun h => { h with
      sent := h.sent ++ (slot.drop (w.listener.clients i).txOffset).take amount })
    (fun _ => rfl) (fun _ => rfl) (fun _ => rfl)
  exact h.update hopened _
    (fun h => { h with
      sent := h.sent ++ (slot.drop (w.listener.clients i).txOffset).take amount }) rfl
    (hsame.trans hopened) ⟨hopened, hid, hepoch, hconn⟩
    ((h.flows.flowing i hopened).send hline hfits now) (fun _ => rfl) hledger

theorem Facts.answer (h : Facts w) (few : w.listener.accepts < 2 ^ 32) (hheld : w.carried = t :: rest)
    (hopened : (w.listener.clients i).opened = true)
    (hepoch : (w.listener.clients i).epoch = metaClientEpoch t) (hanswers : AnswerOf t data) :
    Facts { w.withListener (appendResponse w.listener i t.serial data) with carried := rest } := by
  obtain ⟨k, request, hsubmitted, hmade⟩ :=
    h.answered_conn few (by simp [hheld]) hopened hepoch
  have hpdu := h.ledger.pdus _ request (List.mem_of_getElem? hsubmitted.request)
  have hledger := h.ledger.answer (appendResponse w.listener i t.serial data) hheld hsubmitted
    (answers_of_answerOf hmade hpdu hanswers)
    (Function.update_self ..) (fun c hc => Function.update_of_ne hc ..)
  exact h.update hopened
    { w.listener.clients i with
      tx := (w.listener.clients i).tx ++ [data]
      writeStartedAt :=
        if (w.listener.clients i).tx = [] then w.listener.now
        else (w.listener.clients i).writeStartedAt }
    (fun h => { h with answers := h.answers ++ [(t.serial, data)] }) rfl hopened
    ⟨hopened, rfl, rfl, rfl⟩ ((h.flows.flowing i hopened).answer t.serial data _)
    (fun _ => rfl) hledger

/-- **A move keeps the facts**, as long as the epochs have not run out. -/
theorem Facts.move {w w' : TcpTable} (h : Facts w) (hmove : TcpMove w w')
    (few : w'.listener.accepts < 2 ^ 32) : Facts w' := by
  cases hmove with
  | now now | listen listening | pass j => exact h.same rfl rfl rfl rfl rfl rfl (List.Sublist.refl _)
  | discard rest fewer => exact h.same rfl rfl rfl rfl rfl rfl fewer
  | accept now => exact h.accept (accepted_acceptOne h.queued h.known now)
  | close i => exact h.close i
  | admitted i adu rest opened front pdu taken => exact h.admitted opened front pdu taken
  | submit j request t picked made serial => exact h.submit picked made serial
  | note i client same => exact h.note same
  | receive i data opened => exact h.receive opened data
  | send i slot rest amount now opened line fits => exact h.send opened line fits now
  | answer i t rest data held opened epoch answers => exact h.answer few held opened epoch answers

theorem accepts_acceptOne (l : TcpListener) (now : CoreTick) (accepted : Bool) :
    l.accepts ≤ (acceptOne l now accepted).accepts := by
  unfold acceptOne
  split
  · exact le_rfl
  · split
    · exact le_rfl
    · split <;> exact Nat.le_succ _

/-- Connections are only ever added. -/
theorem accepts_move {w w' : TcpTable} (h : TcpMove w w') :
    w.listener.accepts ≤ w'.listener.accepts := by
  cases h with
  | accept now => exact accepts_acceptOne w.listener now true
  | admitted i adu rest opened front pdu taken =>
    rcases admitAdu_cases w.listener i adu with ⟨-, hadmitted⟩ | ⟨-, hadmitted⟩
    · rw [hadmitted]
      exact le_rfl
    · rw [hadmitted]
      exact le_rfl
  | submit j request t picked made serial =>
    show _ ≤ (noteSubmission w.listener j request .accepted w.accepted.length).accepts
    rw [noteSubmission_accepted]
    exact le_rfl
  | now | listen | note | pass | close | receive | send | answer | discard => exact le_rfl

theorem facts_moves {w w' : TcpTable} (h : Facts w) (hmoves : TcpMoves w w')
    (few : w'.listener.accepts < 2 ^ 32) : Facts w' := by
  induction hmoves with
  | refl => exact h
  | tail _ hmove ih =>
    have hfewer := accepts_move hmove
    exact (ih (by omega)).move hmove few

/-! ## Requests and answers along a run -/

/-- The answers of a connection, `order` being the numbers of the requests they answer. -/
structure AnsweredInOrder (h : ConnectionHistory) (order : List Nat) : Prop where
  ascending : order.Pairwise (· < ·)
  answers : List.Forall₂
    (fun k a => ∃ request, SubmittedAs h k request a.1 ∧ Answers request a.2) order h.answers

/-- Request `k` comes before request `k'` if it was submitted before it. -/
theorem lt_of_serial_lt (hordered : h.submitted.Pairwise (· < ·)) {k k' serial serial' : Nat}
    {request request' : MbapAdu} (hs : SubmittedAs h k request serial)
    (hs' : SubmittedAs h k' request' serial') (hlt : serial < serial') : k < k' := by
  by_contra hge
  obtain ⟨hk, hserial⟩ := List.getElem?_eq_some_iff.mp hs.serial
  obtain ⟨hk', hserial'⟩ := List.getElem?_eq_some_iff.mp hs'.serial
  rcases Nat.lt_or_eq_of_le (Nat.not_lt.mp hge) with hlt' | heq
  · have hpair := List.pairwise_iff_getElem.mp hordered k' k hk' hk hlt'
    omega
  · subst heq
    omega

theorem answeredInOrder (hordered : h.submitted.Pairwise (· < ·))
    (hanswered : (h.answers.map Prod.fst).Pairwise (· < ·))
    (hanswers : ∀ a ∈ h.answers, ∃ k request, SubmittedAs h k request a.1 ∧ Answers request a.2) :
    ∃ order, AnsweredInOrder h order := by
  have hlist : ∀ answers : List (Nat × List UInt8), (answers.map Prod.fst).Pairwise (· < ·) →
      (∀ a ∈ answers, ∃ k request, SubmittedAs h k request a.1 ∧ Answers request a.2) →
      ∃ order : List Nat, order.Pairwise (· < ·) ∧ List.Forall₂
        (fun k a => ∃ request, SubmittedAs h k request a.1 ∧ Answers request a.2) order answers := by
    intro answers
    induction answers with
    | nil =>
      intro _ _
      exact ⟨[], .nil, .nil⟩
    | cons a rest ih =>
      intro hpairwise hall
      rw [List.map_cons, List.pairwise_cons] at hpairwise
      obtain ⟨k, request, hsubmitted, hanswer⟩ := hall a (by simp)
      obtain ⟨order, hascending, hrest⟩ := ih hpairwise.2 fun b hb => hall b (by simp [hb])
      refine ⟨k :: order, List.pairwise_cons.mpr ⟨?_, hascending⟩,
        .cons ⟨request, hsubmitted, hanswer⟩ hrest⟩
      intro k' hk'
      obtain ⟨n, hn, rfl⟩ := List.mem_iff_getElem.mp hk'
      have hn' : n < rest.length := hrest.length_eq ▸ hn
      obtain ⟨request', hsubmitted', -⟩ := (List.forall₂_iff_get.mp hrest).2 n hn hn'
      exact lt_of_serial_lt hordered hsubmitted hsubmitted'
        (hpairwise.1 _ (List.mem_map_of_mem (List.getElem_mem hn')))
  obtain ⟨order, hascending, hforall⟩ := hlist h.answers hanswered hanswers
  exact ⟨order, hascending, hforall⟩

/-- What holds of connection `conn`, open or closed. -/
structure Faithful (port : PortRuntime σ TcpListener) (conn : Nat) : Prop where
  parsed : wire (port.completionContext.history conn).requests <+:
    (port.completionContext.history conn).received
  made : ∀ k serial, (port.completionContext.history conn).submitted[k]? = some serial →
    ∃ request t, SubmittedAs (port.completionContext.history conn) k request serial ∧
      port.accepted[serial]? = some t ∧ MadeFor conn request t
  own : ∀ serial ∈ (port.completionContext.history conn).submitted,
    ∀ conn', serial ∈ (port.completionContext.history conn').submitted → conn' = conn
  answers : ∃ order, AnsweredInOrder (port.completionContext.history conn) order
  sent : (port.completionContext.history conn).sent <+:
    queuedBytes (port.completionContext.history conn)
  waiting : ∀ i, (port.completionContext.clients i).opened = true →
    (port.completionContext.clients i).conn = conn →
    (port.completionContext.history conn).sent ++ unsent (port.completionContext.clients i) =
      queuedBytes (port.completionContext.history conn)

/-- The epoch of a transaction tells its connection. -/
theorem Facts.own (h : Facts w) (few : w.listener.accepts < 2 ^ 32) {conn conn' serial : Nat}
    (hmem : serial ∈ (w.listener.history conn).submitted)
    (hmem' : serial ∈ (w.listener.history conn').submitted) : conn' = conn := by
  have hlate : ∀ {c}, serial ∈ (w.listener.history c).submitted → c < w.listener.accepts := by
    intro c hc
    by_contra hlate
    rw [h.known.fresh c (Nat.not_lt.mp hlate)] at hc
    cases hc
  obtain ⟨k, hk⟩ := List.mem_iff_getElem?.mp hmem
  obtain ⟨k', hk'⟩ := List.mem_iff_getElem?.mp hmem'
  obtain ⟨request, t, -, ht, hmade⟩ := h.ledger.made conn k serial hk
  obtain ⟨request', t', -, ht', hmade'⟩ := h.ledger.made conn' k' serial hk'
  rw [ht] at ht'
  cases ht'
  have hconn := hlate hmem
  have hconn' := hlate hmem'
  apply epochOf_inj
  · rw [← hmade.epoch, ← hmade'.epoch]
  · omega
  · omega

/-- **Answers go to their own connection, once and in order.** In every run with fewer
    than 2³² connections: the requests of a connection are parsed from its bytes, the
    transactions made of them are no other connection's, the answers queued on it answer
    requests of its own with ascending numbers, and what is sent on it is a prefix of
    the answers queued. -/
theorem faithful_of_tcpRun {port : PortRuntime σ TcpListener} (h : TcpRun port)
    (few : port.completionContext.accepts < 2 ^ 32) (conn : Nat) : Faithful port conn := by
  obtain ⟨accepted, hruns⟩ := runsTo_tcpRun h
  have hfacts := facts_moves (facts_startTable accepted) hruns.under.moves few
  have hledger := hfacts.ledger
  refine ⟨(hfacts.flows.flowed conn).parsed, hledger.made conn, ?_, ?_,
    (hfacts.flows.flowed conn).sent, ?_⟩
  · intro serial hserial conn' hserial'
    exact hfacts.own few hserial hserial'
  · exact answeredInOrder (hledger.ordered conn) (hledger.answered conn) (hledger.answers conn)
  · intro i hopened hconn
    have hflowing := hfacts.flows.flowing i hopened
    rw [← hconn]
    exact hflowing.outbound

/-! ## A run -/

/-- Write register 12 of unit 1. -/
def playFrame : List UInt8 := [0, 1, 0, 0, 0, 6, 1, 6, 0, 12, 0, 37]

/-- A backend that answers with an echo of the request. -/
def echoBackend : CoreBackendOps Unit where
  «open» := fun _ _ => (0, ())
  start := fun _ _ _ => (0, ())
  poll := fun _ _ =>
    (1, { type := .response, generation := 1, data := crcAppend (playFrame.drop 6) }, ())
  cancel := fun _ _ => ()
  recover := fun _ _ => (0, ())
  reconfigure := fun _ _ _ => (0, ())
  stop := fun _ _ => (0, ())

def echoPort : PortRuntime Unit TcpListener :=
  runPort [.start 0 100, .step 0]
    (portRuntimeInit 0 default (some echoBackend) () initialListener [])

theorem coherent_echoPort : echoPort.Coherent :=
  (((coherent_portRuntimeInit 0 default (some echoBackend) () initialListener []).exec
    (.start 0 100)).1.exec (.step 0)).1

/-- Client 0 connects and sends the frame in two pieces. -/
def playIo (accepted : Bool) (data : List UInt8) : SocketIo where
  accepted := accepted
  recv := fun i => if i = 0 then .got data else .again
  send := fun i => if i = 0 then .sent 5 else .again

def connectedPort : PortRuntime Unit TcpListener :=
  modbusTcpListenerStepIo
    (modbusTcpListenerStepIo
      (withListener (modbusTcpListenerInit echoPort)
        (modbusTcpListenerOpen (modbusTcpListenerInit echoPort).completionContext true).2)
      (playIo true (playFrame.take 3)) 1)
    (playIo false (playFrame.drop 3)) 2

/-- The request is served, and five bytes of the answer go out. -/
def answeredPort : PortRuntime Unit TcpListener :=
  modbusTcpListenerStepIo
    ((PortOp.step 5).exec ((PortOp.step 4).exec ((PortOp.step 3).exec connectedPort)))
    (playIo false playFrame) 6

theorem tcpRun_answeredPort : TcpRun answeredPort :=
  .step
    (.step
      (.step
        (.step
          (.step
            (.step (.step (.init echoPort coherent_echoPort (by decide +kernel)) (.open _ true))
              (.stepIo _ (playIo true (playFrame.take 3)) 1))
            (.stepIo _ (playIo false (playFrame.drop 3)) 2))
          (.call _ (.step 3) rfl))
        (.call _ (.step 4) rfl))
      (.call _ (.step 5) rfl))
    (.stepIo _ (playIo false playFrame) 6)

theorem faithful_answeredPort :
    (answeredPort.completionContext.history 0).answers = [(0, playFrame)] ∧
      (answeredPort.completionContext.history 0).sent = playFrame.take 5 ∧
      Faithful answeredPort 0 :=
  ⟨by decide +kernel, by decide +kernel,
    faithful_of_tcpRun tcpRun_answeredPort (by decide +kernel) 0⟩

end FourVrs.Network.Tcp
