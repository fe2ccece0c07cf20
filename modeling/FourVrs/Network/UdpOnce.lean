import FourVrs.Network.UdpPeers

/-!
# Requests over UDP are executed at most once

The log of a listener and the list of the datagrams it accepted say what became of each
of them. `Accounts` relates them to the table of peers: a pending peer holds the last
accepted request of its source, submitted as often as the peer says and not finished; a
request no peer holds any more has been finished once; and a request finished less than
the idle timeout ago, the last of its source, is still remembered with its response. The
moves keep that, so a datagram that repeats or contradicts the request of its source is
recognised as long as the claim of the cache lasts.
-/

set_option autoImplicit false

namespace FourVrs.Network

open FourVrs.Core Modbus Uart

variable {σ : Type}

/-! ## What the log says of a request -/

def UdpEvent.finishes (number : Nat) : UdpEvent → Bool
  | .finished n _ _ => n == number
  | _ => false

def UdpEvent.submits (number : Nat) : UdpEvent → Bool
  | .submitted n _ => n == number
  | _ => false

/-- How often the request was finished. -/
def finishedTimes (log : List UdpEvent) (number : Nat) : Nat :=
  log.countP (UdpEvent.finishes number)

/-- How often the port runtime accepted the request. -/
def submittedTimes (log : List UdpEvent) (number : Nat) : Nat :=
  log.countP (UdpEvent.submits number)

/-- No later request is from this source. -/
def LastFrom (requests : List UdpRequest) (number : Nat) (source : UdpAddress) : Prop :=
  ∀ m, number < m → ∀ r, requests[m]? = some r → r.source ≠ source

/-- Nothing but responses. -/
def Quiet (new : List UdpEvent) : Prop := ∀ e ∈ new, ∃ d response, e = .sent d response

variable {w : UdpTable} {new : List UdpEvent}

theorem Quiet.finishedTimes (h : Quiet new) (log : List UdpEvent) (number : Nat) :
    finishedTimes (log ++ new) number = finishedTimes log number := by
  have hnone : new.countP (UdpEvent.finishes number) = 0 := by
    apply List.countP_eq_zero.mpr
    intro e he
    obtain ⟨d, response, rfl⟩ := h e he
    simp [UdpEvent.finishes]
  simp [FourVrs.Network.finishedTimes, List.countP_append, hnone]

theorem Quiet.submittedTimes (h : Quiet new) (log : List UdpEvent) (number : Nat) :
    submittedTimes (log ++ new) number = submittedTimes log number := by
  have hnone : new.countP (UdpEvent.submits number) = 0 := by
    apply List.countP_eq_zero.mpr
    intro e he
    obtain ⟨d, response, rfl⟩ := h e he
    simp [UdpEvent.submits]
  simp [FourVrs.Network.submittedTimes, List.countP_append, hnone]

theorem Quiet.mem_finished (h : Quiet new) {log : List UdpEvent} {number time : Nat} {response : List UInt8} :
    UdpEvent.finished number time response ∈ log ++ new ↔
      UdpEvent.finished number time response ∈ log := by
  constructor
  · intro he
    rcases List.mem_append.mp he with he | he
    · exact he
    · obtain ⟨d, response', heq⟩ := h _ he
      cases heq
  · exact List.mem_append_left _

theorem Quiet.mem_submitted (h : Quiet new) {log : List UdpEvent} {number : Nat} {rtu : List UInt8} :
    UdpEvent.submitted number rtu ∈ log ++ new ↔ UdpEvent.submitted number rtu ∈ log := by
  constructor
  · intro he
    rcases List.mem_append.mp he with he | he
    · exact he
    · obtain ⟨d, response', heq⟩ := h _ he
      cases heq
  · exact List.mem_append_left _

/-! ## The invariant -/

/-- Peer `i` remembers that `request` was finished at `time` with `response`. -/
structure Remembers (l : UdpListener) (i : PeerIndex) (request : UdpRequest) (time : Nat)
    (response : List UInt8) : Prop where
  used : (l.peers i).used = true
  address : (l.peers i).address = request.source
  free : (l.peers i).pending = false
  cached : (l.peers i).cached = !l.rtuMode
  tid : (l.peers i).tid = request.tid
  rtu : (l.peers i).rtu = request.rtu
  response : (l.peers i).response = response
  completedAt : (l.peers i).completedAt = tick time
  lastSeen : (l.peers i).lastSeen = tick time

/-- A pending peer holds the last request of its source, submitted or not. -/
structure Awaits (requests : List UdpRequest) (log : List UdpEvent) (peer : UdpPeer) : Prop where
  request : requests[peer.number]? =
    some { source := peer.address, tid := peer.tid, rtu := peer.rtu }
  last : LastFrom requests peer.number peer.address
  unfinished : finishedTimes log peer.number = 0
  submissions : submittedTimes log peer.number = if peer.submitted then 1 else 0

structure Accounts (l : UdpListener) : Prop where
  opened : l.opened = true
  now : l.now = tick l.clock
  awaits : ∀ i, (l.peers i).pending = true → Awaits l.requests l.log (l.peers i)
  known : ∀ n, l.requests.length ≤ n → finishedTimes l.log n = 0 ∧ submittedTimes l.log n = 0
  fate : ∀ n, n < l.requests.length → (∃ i, (l.peers i).pending = true ∧ (l.peers i).number = n) ∨
    finishedTimes l.log n = 1 ∧ submittedTimes l.log n ≤ 1
  executed : ∀ n rtu, .submitted n rtu ∈ l.log → ∃ r, l.requests[n]? = some r ∧ r.rtu = rtu
  past : ∀ n time response, .finished n time response ∈ l.log → time ≤ l.clock
  remembered : ∀ n time response r, .finished n time response ∈ l.log →
    l.requests[n]? = some r → LastFrom l.requests n r.source →
    l.clock < time + modbusUdpIdleTimeout.toNat → ∃ i, Remembers l i r time response

theorem accounts_startTable (rtuMode : Bool) : Accounts (startTable rtuMode).listener := by
  refine ⟨rfl, rfl, ?_, ?_, ?_, ?_, ?_, ?_⟩
  · intro i hi
    cases hi
  · intro n hn
    exact ⟨rfl, rfl⟩
  · intro n hn
    exact absurd hn (Nat.not_lt_zero n)
  · intro n rtu h
    cases h
  · intro n time response h
    cases h
  · intro n time response r h
    cases h

/-- Two pending peers hold different requests. -/
theorem Accounts.number_inj (h : Accounts w.listener) (htracks : Tracks w) {i j : PeerIndex}
    (hi : (w.listener.peers i).pending = true) (hj : (w.listener.peers j).pending = true)
    (hij : (w.listener.peers i).number = (w.listener.peers j).number) : i = j := by
  have hri := (h.awaits i hi).request
  have hrj := (h.awaits j hj).request
  rw [hij, hrj] at hri
  simp only [Option.some.injEq, UdpRequest.mk.injEq] at hri
  exact htracks.distinct i j (htracks.used_of_pending i hi) (htracks.used_of_pending j hj)
    hri.1.symm

variable {i : PeerIndex}

/-- Remembering reads one peer. -/
theorem Remembers.of_peer {l l' : UdpListener} {request : UdpRequest} {time : Nat} {response : List UInt8}
    (h : Remembers l i request time response) (hpeer : l'.peers i = l.peers i)
    (hmode : l'.rtuMode = l.rtuMode) :
    Remembers l' i request time response := by
  constructor
  · rw [hpeer]; exact h.used
  · rw [hpeer]; exact h.address
  · rw [hpeer]; exact h.free
  · rw [hpeer, hmode]; exact h.cached
  · rw [hpeer]; exact h.tid
  · rw [hpeer]; exact h.rtu
  · rw [hpeer]; exact h.response
  · rw [hpeer]; exact h.completedAt
  · rw [hpeer]; exact h.lastSeen

/-! ## The moves keep it -/

variable {requests : List UdpRequest}

theorem Awaits.quiet {log new : List UdpEvent} {peer : UdpPeer} (h : Awaits requests log peer)
    (hnew : Quiet new) : Awaits requests (log ++ new) peer :=
  ⟨h.request, h.last, (hnew.finishedTimes _ _).trans h.unfinished,
    (hnew.submittedTimes _ _).trans h.submissions⟩

/-- Sending, and what the invariant does not look at. -/
theorem Accounts.quiet {l l' : UdpListener} (h : Accounts l) (hsame : SameButLog l l')
    (hpeers : l'.peers = l.peers) (hlog : l'.log = l.log ++ new) (hnew : Quiet new) : Accounts l' := by
  constructor
  · exact hsame.opened.trans h.opened
  · rw [hsame.now, hsame.clock]
    exact h.now
  · rw [hpeers, hsame.requests, hlog]
    intro i hi
    exact (h.awaits i hi).quiet hnew
  · intro n hn
    rw [hlog, hnew.finishedTimes, hnew.submittedTimes]
    exact h.known n (hsame.requests ▸ hn)
  · intro n hn
    rw [hlog, hnew.finishedTimes, hnew.submittedTimes, hpeers]
    exact h.fate n (hsame.requests ▸ hn)
  · intro n rtu hmem
    rw [hlog, hnew.mem_submitted] at hmem
    rw [hsame.requests]
    exact h.executed n rtu hmem
  · intro n time response hmem
    rw [hlog, hnew.mem_finished] at hmem
    rw [hsame.clock]
    exact h.past n time response hmem
  · intro n time response r hmem hr hlast hclock
    rw [hlog, hnew.mem_finished] at hmem
    rw [hsame.requests] at hr hlast
    rw [hsame.clock] at hclock
    obtain ⟨i, hi⟩ := h.remembered n time response r hmem hr hlast hclock
    exact ⟨i, hi.of_peer (congrFun hpeers i) hsame.rtuMode⟩

variable {l : UdpListener}

theorem Accounts.tick (h : Accounts l) {time : Nat} (later : l.clock ≤ time) :
    Accounts { l with clock := time, now := FourVrs.Core.tick time } := by
  refine ⟨h.opened, rfl, h.awaits, h.known, h.fate, h.executed, ?_, ?_⟩
  · intro n time' response hmem
    exact Nat.le_trans (h.past n time' response hmem) later
  · intro n time' response r hmem hr hlast hclock
    obtain ⟨i, hi⟩ := h.remembered n time' response r hmem hr hlast
      (Nat.lt_of_le_of_lt later hclock)
    exact ⟨i, hi.of_peer rfl rfl⟩

/-- Only a peer that has been idle for the whole timeout is cleared, and it remembers
    nothing any more. -/
theorem Accounts.evict (h : Accounts l) : Accounts (evictIdle l l.now) := by
  have hback : ∀ i, ((evictIdle l l.now).peers i).pending = true →
      (evictIdle l l.now).peers i = l.peers i := by
    intro i hi
    rcases evictIdle_cases l l.now i with hpeer | ⟨hpeer, -⟩
    · exact hpeer
    · rw [hpeer] at hi
      cases hi
  have hkeep : ∀ i, (l.peers i).pending = true → (evictIdle l l.now).peers i = l.peers i := by
    intro i hi
    rcases evictIdle_cases l l.now i with hpeer | ⟨-, -, hidle, -⟩
    · exact hpeer
    · exact absurd hi (by simp [hidle])
  constructor
  · exact h.opened
  · exact h.now
  · intro i hi
    have hpeer := hback i hi
    rw [hpeer] at hi ⊢
    exact h.awaits i hi
  · exact h.known
  · intro n hn
    refine (h.fate n hn).imp_left ?_
    intro hpending
    obtain ⟨i, hi, hnumber⟩ := hpending
    refine ⟨i, ?_⟩
    rw [hkeep i hi]
    exact ⟨hi, hnumber⟩
  · exact h.executed
  · exact h.past
  · intro n time response r hmem hr hlast hclock
    obtain ⟨i, hi⟩ := h.remembered n time response r hmem hr hlast hclock
    refine ⟨i, ?_⟩
    rcases evictIdle_cases l l.now i with hpeer | ⟨-, -, -, hidle⟩
    · exact hi.of_peer hpeer rfl
    · -- the peer was last seen when the request was finished
      rw [hi.lastSeen, h.now] at hidle
      have hpast := h.past n time response hmem
      have hlate := le_of_coreElapsed hpast hidle
      exact absurd hclock (Nat.not_lt.mpr hlate)

theorem Accounts.enter (h : Accounts w.listener) (htracks : Tracks w) (source : UdpAddress)
    (free : (w.listener.peers i).used = false) :
    Accounts (newPeer w.listener i source) := by
  have hself : ((newPeer w.listener i source).peers i).pending = false := by
    simp [newPeer, zeroPeer]
  have hne : ∀ j, j ≠ i → (newPeer w.listener i source).peers j = w.listener.peers j := by
    intro j hj
    simp [newPeer, setPeer_ne hj]
  have hback : ∀ j, ((newPeer w.listener i source).peers j).pending = true →
      (newPeer w.listener i source).peers j = w.listener.peers j := by
    intro j hj
    refine hne j ?_
    intro he
    exact absurd hj (by simp [he, hself])
  constructor
  · exact h.opened
  · exact h.now
  · intro j hj
    have hpeer := hback j hj
    rw [hpeer] at hj ⊢
    exact h.awaits j hj
  · exact h.known
  · intro n hn
    refine (h.fate n hn).imp_left ?_
    intro hpending
    obtain ⟨j, hj, hnumber⟩ := hpending
    have hji : j ≠ i := by
      intro he
      exact absurd (htracks.used_of_pending j hj) (by simp [he, free])
    refine ⟨j, ?_⟩
    rw [hne j hji]
    exact ⟨hj, hnumber⟩
  · exact h.executed
  · exact h.past
  · intro n time response r hmem hr hlast hclock
    obtain ⟨j, hj⟩ := h.remembered n time response r hmem hr hlast hclock
    have hji : j ≠ i := by
      intro he
      exact absurd hj.used (by simp [he, free])
    exact ⟨j, hj.of_peer (hne j hji) rfl⟩

variable {n : Nat}

theorem getElem?_append_left' {r more : UdpRequest} (h : requests[n]? = some r) :
    (requests ++ [more])[n]? = some r := by
  have hn : n < requests.length := (List.getElem?_eq_some_iff.mp h).1
  rw [List.getElem?_append_left hn]
  exact h

/-- A request added to the list is the only one that can end a `LastFrom`. -/
theorem lastFrom_append {source : UdpAddress} {more : UdpRequest} (hn : n < requests.length) :
    LastFrom (requests ++ [more]) n source ↔
      LastFrom requests n source ∧ more.source ≠ source := by
  constructor
  · intro h
    refine ⟨?_, h requests.length hn more (by simp)⟩
    intro m hm r hr
    exact h m hm r (getElem?_append_left' hr)
  · intro h m hm r hr
    rcases Nat.lt_trichotomy m requests.length with hlt | heq | hgt
    · rw [List.getElem?_append_left hlt] at hr
      exact h.1 m hm r hr
    · subst heq
      rw [List.getElem?_concat_length] at hr
      cases hr
      exact h.2
    · have hlen : (requests ++ [more]).length ≤ m := by simpa using Nat.succ_le_of_lt hgt
      rw [List.getElem?_eq_none hlen] at hr
      cases hr

theorem Accounts.admitted (h : Accounts w.listener) (htracks : Tracks w) {request : UdpRequest}
    (used : (w.listener.peers i).used = true) (address : (w.listener.peers i).address = request.source)
    (free : (w.listener.peers i).pending = false) : Accounts (admitPeer w.listener i request) := by
  have hne : ∀ j, j ≠ i → (admitPeer w.listener i request).peers j = w.listener.peers j := by
    intro j hj
    simp [admitPeer, setPeer_ne hj]
  -- another used peer has another address
  have hother : ∀ j, j ≠ i → (w.listener.peers j).used = true →
      request.source ≠ (w.listener.peers j).address := by
    intro j hji hj he
    exact hji (htracks.distinct j i hj used (he.symm.trans address.symm))
  constructor
  · exact h.opened
  · exact h.now
  · intro j hj
    by_cases hji : j = i
    · subst hji
      have hknown := h.known w.listener.requests.length (Nat.le_refl _)
      constructor
      · simp [admitPeer, address]
      · intro m hm r hr
        have hm' : w.listener.requests.length < m := by simpa [admitPeer] using hm
        have hlen : (w.listener.requests ++ [request]).length ≤ m := by
          simpa using Nat.succ_le_of_lt hm'
        have hnone : (w.listener.requests ++ [request])[m]? = some r := hr
        rw [List.getElem?_eq_none hlen] at hnone
        cases hnone
      · simpa [admitPeer] using hknown.1
      · simpa [admitPeer] using hknown.2
    · have hpeer := hne j hji
      rw [hpeer] at hj ⊢
      have hawaits := h.awaits j hj
      have hlt := (List.getElem?_eq_some_iff.mp hawaits.request).1
      exact ⟨getElem?_append_left' hawaits.request,
        (lastFrom_append hlt).mpr ⟨hawaits.last, hother j hji (htracks.used_of_pending j hj)⟩,
        hawaits.unfinished, hawaits.submissions⟩
  · intro n hn
    refine h.known n ?_
    have hlen : (w.listener.requests ++ [request]).length ≤ n := hn
    rw [List.length_append] at hlen
    exact Nat.le_trans (Nat.le_add_right _ _) hlen
  · intro n hn
    have hlen : n < (w.listener.requests ++ [request]).length := hn
    rw [List.length_append, List.length_singleton] at hlen
    rcases Nat.lt_succ_iff_lt_or_eq.mp hlen with hlt | heq
    · refine (h.fate n hlt).imp_left ?_
      intro hpending
      obtain ⟨j, hj, hnumber⟩ := hpending
      have hji : j ≠ i := by
        intro he
        exact absurd hj (by simp [he, free])
      refine ⟨j, ?_⟩
      rw [hne j hji]
      exact ⟨hj, hnumber⟩
    · exact .inl ⟨i, by simp [admitPeer], by simp [admitPeer, heq]⟩
  · intro n rtu hmem
    obtain ⟨r, hr, hrtu⟩ := h.executed n rtu hmem
    exact ⟨r, getElem?_append_left' hr, hrtu⟩
  · exact h.past
  · intro n time response r hmem hr hlast hclock
    have hlt : n < w.listener.requests.length := by
      rcases Nat.lt_or_ge n w.listener.requests.length with hlt | hge
      · exact hlt
      · have hnone := (h.known n hge).1
        have hpos : 0 < finishedTimes w.listener.log n :=
          List.countP_pos_iff.mpr ⟨_, hmem, by simp [UdpEvent.finishes]⟩
        exact absurd hnone (Nat.ne_of_gt hpos)
    have hr' : w.listener.requests[n]? = some r := by
      have happ : (w.listener.requests ++ [request])[n]? = some r := hr
      rw [List.getElem?_append_left hlt] at happ
      exact happ
    obtain ⟨hlast', hsource⟩ := (lastFrom_append hlt).mp hlast
    obtain ⟨j, hj⟩ := h.remembered n time response r hmem hr' hlast' hclock
    have hji : j ≠ i := by
      intro he
      rw [he] at hj
      exact hsource (address.symm.trans hj.address)
    exact ⟨j, hj.of_peer (hne j hji) rfl⟩

/-- The count of a list with one more event. -/
theorem finishedTimes_append (log new : List UdpEvent) (n : Nat) :
    finishedTimes (log ++ new) n = finishedTimes log n + finishedTimes new n :=
  List.countP_append

theorem submittedTimes_append (log new : List UdpEvent) (n : Nat) :
    submittedTimes (log ++ new) n = submittedTimes log n + submittedTimes new n :=
  List.countP_append

theorem quiet_sent (response : List UInt8) (destination : UdpAddress) :
    Quiet (if response = [] then [] else [.sent destination response]) := by
  intro e he
  split at he
  · cases he
  · exact ⟨destination, response, List.mem_singleton.mp he⟩

/-- Finishing the request of a pending peer. -/
theorem Accounts.complete (h : Accounts w.listener) (htracks : Tracks w) (response : List UInt8)
    (pending : (w.listener.peers i).pending = true) :
    Accounts (completePeer w.listener i response) := by
  have hsame := sameButLog_completePeer w.listener i response
  have hquiet := quiet_sent response (w.listener.peers i).address
  have hlog := completePeer_log h.opened i response
  have hawaits := h.awaits i pending
  have hfree : ((completePeer w.listener i response).peers i).pending = false := by simp
  -- what the new event does to the counts
  have hfinished : ∀ n, finishedTimes (completePeer w.listener i response).log n =
      finishedTimes w.listener.log n + if (w.listener.peers i).number = n then 1 else 0 := by
    intro n
    rw [hlog, hquiet.finishedTimes, finishedTimes_append]
    simp [finishedTimes, UdpEvent.finishes, List.countP_cons]
  have hsubmitted : ∀ n, submittedTimes (completePeer w.listener i response).log n =
      submittedTimes w.listener.log n := by
    intro n
    rw [hlog, hquiet.submittedTimes, submittedTimes_append]
    simp [submittedTimes, UdpEvent.submits]
  have hback : ∀ j, ((completePeer w.listener i response).peers j).pending = true → j ≠ i := by
    intro j hj he
    rw [he, hfree] at hj
    cases hj
  constructor
  · exact hsame.opened.trans h.opened
  · rw [hsame.now, hsame.clock]
    exact h.now
  · intro j hj
    have hji := hback j hj
    have hpeer := completePeer_ne (l := w.listener) hji response
    rw [hpeer] at hj ⊢
    rw [hsame.requests]
    have hothers := h.awaits j hj
    have hnumber : (w.listener.peers i).number ≠ (w.listener.peers j).number :=
      fun he => hji (h.number_inj htracks hj pending he.symm)
    refine ⟨hothers.request, hothers.last, ?_, (hsubmitted _).trans hothers.submissions⟩
    rw [hfinished, if_neg hnumber]
    exact hothers.unfinished
  · intro n hn
    rw [hsame.requests] at hn
    have hnumber : (w.listener.peers i).number ≠ n := by
      intro he
      have hlt := (List.getElem?_eq_some_iff.mp hawaits.request).1
      exact absurd hlt (by rw [he]; exact Nat.not_lt.mpr hn)
    rw [hfinished, hsubmitted, if_neg hnumber]
    exact h.known n hn
  · intro n hn
    rw [hsame.requests] at hn
    rw [hfinished, hsubmitted]
    by_cases hnumber : (w.listener.peers i).number = n
    · refine .inr ⟨?_, ?_⟩
      · rw [if_pos hnumber, ← hnumber, hawaits.unfinished]
      · rw [← hnumber, hawaits.submissions]
        split <;> decide
    · rw [if_neg hnumber]
      refine (h.fate n hn).imp_left ?_
      intro hpending
      obtain ⟨j, hj, hn'⟩ := hpending
      have hji : j ≠ i := by
        intro he
        exact hnumber (he ▸ hn')
      refine ⟨j, ?_⟩
      rw [completePeer_ne hji]
      exact ⟨hj, hn'⟩
  · intro n rtu hmem
    rw [hlog, hquiet.mem_submitted] at hmem
    rw [hsame.requests]
    exact h.executed n rtu (by simpa using hmem)
  · intro n time response' hmem
    rw [hlog, hquiet.mem_finished] at hmem
    rw [hsame.clock]
    rcases List.mem_append.mp hmem with hmem | hmem
    · exact h.past n time response' hmem
    · cases List.mem_singleton.mp hmem
      exact Nat.le_refl _
  · intro n time response' r hmem hr hlast hclock
    rw [hlog, hquiet.mem_finished] at hmem
    rw [hsame.requests] at hr hlast
    rw [hsame.clock] at hclock
    rcases List.mem_append.mp hmem with hmem | hmem
    · obtain ⟨j, hj⟩ := h.remembered n time response' r hmem hr hlast hclock
      have hji : j ≠ i := by
        intro he
        exact absurd pending (by rw [← he, hj.free]; simp)
      exact ⟨j, hj.of_peer (completePeer_ne hji _) hsame.rtuMode⟩
    · cases List.mem_singleton.mp hmem
      rw [hawaits.request] at hr
      cases hr
      refine ⟨i, ?_⟩
      constructor
      · rw [completePeer_self]; exact htracks.used_of_pending i pending
      · rw [completePeer_self]
      · rw [completePeer_self]
      · rw [completePeer_self, hsame.rtuMode]
      · rw [completePeer_self]
      · rw [completePeer_self]
      · rw [completePeer_self]
      · rw [completePeer_self]; exact h.now
      · rw [completePeer_self]; exact h.now

theorem Accounts.submit (h : Accounts w.listener) (htracks : Tracks w) (id : BitVec 32)
    (pending : (w.listener.peers i).pending = true) (waiting : (w.listener.peers i).submitted = false) :
    Accounts (noteSubmission w.listener i .accepted id) := by
  have hawaits := h.awaits i pending
  have hself : (noteSubmission w.listener i .accepted id).peers i =
      { w.listener.peers i with transactionId := id, submitted := true } := by
    simp [noteSubmission, UdpListener.record]
  have hne : ∀ j, j ≠ i →
      (noteSubmission w.listener i .accepted id).peers j = w.listener.peers j := by
    intro j hj
    simp [noteSubmission, UdpListener.record, setPeer_ne hj]
  have hlog : (noteSubmission w.listener i .accepted id).log =
      w.listener.log ++ [.submitted (w.listener.peers i).number (w.listener.peers i).rtu] := rfl
  have hfinished : ∀ n, finishedTimes (noteSubmission w.listener i .accepted id).log n =
      finishedTimes w.listener.log n := by
    intro n
    rw [hlog, finishedTimes_append]
    simp [finishedTimes, UdpEvent.finishes]
  have hsubmitted : ∀ n, submittedTimes (noteSubmission w.listener i .accepted id).log n =
      submittedTimes w.listener.log n + if (w.listener.peers i).number = n then 1 else 0 := by
    intro n
    rw [hlog, submittedTimes_append]
    simp [submittedTimes, UdpEvent.submits, List.countP_cons]
  -- only the count of submissions changes, and only of this request
  constructor
  · exact h.opened
  · exact h.now
  · intro j hj
    by_cases hji : j = i
    · subst hji
      rw [hself]
      refine ⟨hawaits.request, hawaits.last, (hfinished _).trans hawaits.unfinished, ?_⟩
      rw [hsubmitted, hawaits.submissions, waiting]
      simp
    · have hpeer := hne j hji
      rw [hpeer] at hj ⊢
      have hothers := h.awaits j hj
      -- two pending peers never have one number
      have hnumber : (w.listener.peers i).number ≠ (w.listener.peers j).number :=
        fun he => hji (h.number_inj htracks hj pending he.symm)
      refine ⟨hothers.request, hothers.last, (hfinished _).trans hothers.unfinished, ?_⟩
      rw [hsubmitted, if_neg hnumber]
      exact hothers.submissions
  · intro n hn
    have hnumber : (w.listener.peers i).number ≠ n := by
      intro he
      have hlt := (List.getElem?_eq_some_iff.mp hawaits.request).1
      exact absurd hlt (by rw [he]; exact Nat.not_lt.mpr hn)
    rw [hfinished, hsubmitted, if_neg hnumber]
    exact h.known n hn
  · intro n hn
    by_cases hnumber : (w.listener.peers i).number = n
    · refine .inl ⟨i, ?_⟩
      rw [hself]
      exact ⟨pending, hnumber⟩
    · rw [hfinished, hsubmitted, if_neg hnumber]
      refine (h.fate n hn).imp_left ?_
      intro hpending
      obtain ⟨j, hj, hn'⟩ := hpending
      have hji : j ≠ i := by
        intro he
        exact hnumber (he ▸ hn')
      refine ⟨j, ?_⟩
      rw [hne j hji]
      exact ⟨hj, hn'⟩
  · intro n rtu hmem
    rw [hlog] at hmem
    rcases List.mem_append.mp hmem with hmem | hmem
    · exact h.executed n rtu hmem
    · cases List.mem_singleton.mp hmem
      exact ⟨_, hawaits.request, rfl⟩
  · intro n time response hmem
    rw [hlog] at hmem
    exact h.past n time response (by simpa using hmem)
  · intro n time response r hmem hr hlast hclock
    rw [hlog] at hmem
    obtain ⟨j, hj⟩ := h.remembered n time response r (by simpa using hmem) hr hlast hclock
    have hji : j ≠ i := by
      intro he
      exact absurd pending (by rw [← he, hj.free]; simp)
    exact ⟨j, hj.of_peer (hne j hji) rfl⟩

/-- **Every move keeps the accounts.** -/
theorem Accounts.move {w w' : UdpTable} (h : Accounts w.listener) (htracks : Tracks w)
    (hmove : UdpMove w w') : Accounts w'.listener := by
  cases hmove with
  | tick time later => exact h.tick later
  | sync generation =>
    exact ⟨h.opened, h.now, h.awaits, h.known, h.fate, h.executed, h.past, fun n t response r hm hr
      hl hc => (h.remembered n t response r hm hr hl hc).imp fun _ hi => hi.of_peer rfl rfl⟩
  | skip i =>
    exact ⟨h.opened, h.now, h.awaits, h.known, h.fate, h.executed, h.past, fun n t response r hm hr
      hl hc => (h.remembered n t response r hm hr hl hc).imp fun _ hi => hi.of_peer rfl rfl⟩
  | evict => exact h.evict
  | enter i source free new => exact h.enter htracks source free
  | admitted i request used address free => exact h.admitted htracks used address free
  | resend i free =>
    exact h.quiet (sameButLog_sendResponse _ _) (sendResponse_peers _ _)
      (sendResponse_log h.opened i) (quiet_sent _ _)
  | expire i response pending waiting => exact h.complete htracks response pending
  | submit i t pending waiting kind owner epoch => exact h.submit htracks t.id pending waiting
  | complete i t rest response owned held =>
    exact h.complete htracks response (htracks.pending_of_submitted i owned.submitted)

theorem accounts_moves {w w' : UdpTable} (h : Accounts w.listener) (htracks : Tracks w)
    (hmoves : UdpMoves w w') : Accounts w'.listener := by
  induction hmoves with
  | refl => exact h
  | tail hmoves hmove ih => exact ih.move (htracks.moves hmoves) hmove

/-! ## Repeated and contradicting datagrams -/

/-- Request `n` of this source is pending, or in MBAP mode finished less than the cache
    timeout ago by the listener's clock with no request of the source accepted since. -/
def Shielded (l : UdpListener) (n : Nat) (source : UdpAddress) : Prop :=
  finishedTimes l.log n = 0 ∨
    l.rtuMode = false ∧ LastFrom l.requests n source ∧
      ∃ time response, .finished n time response ∈ l.log ∧
        l.clock < time + modbusUdpCacheTimeout.toNat

/-- How the listener answers datagrams of a source whose request is shielded. -/
structure Recognises (l : UdpListener) : Prop where
  repeated : ∀ n r data, l.requests[n]? = some r → Shielded l n r.source →
    decodeDatagram l.rtuMode data = some (r.tid, r.rtu) →
    (modbusUdpListenerReceive l r.source data l.now).1 = 1 ∧
      (modbusUdpListenerReceive l r.source data l.now).2.requests = l.requests ∧
      ((modbusUdpListenerReceive l r.source data l.now).2.log = l.log ∨
        ∃ time response, .finished n time response ∈ l.log ∧
          (modbusUdpListenerReceive l r.source data l.now).2.log =
            l.log ++ [.sent r.source response])
  contradicted : ∀ n r data rtu, l.requests[n]? = some r → Shielded l n r.source →
    decodeDatagram l.rtuMode data = some (r.tid, rtu) → rtu ≠ r.rtu →
    (modbusUdpListenerReceive l r.source data l.now).1 = 1 ∧
      (modbusUdpListenerReceive l r.source data l.now).2.requests = l.requests ∧
      (modbusUdpListenerReceive l r.source data l.now).2.log = l.log

/-- The peer that shields request `n`. -/
structure ShieldedBy (l : UdpListener) (i : PeerIndex) (n : Nat) (r : UdpRequest) : Prop where
  used : (l.peers i).used = true
  address : (l.peers i).address = r.source
  tid : (l.peers i).tid = r.tid
  rtu : (l.peers i).rtu = r.rtu
  holds : holdsRequest l i r.tid l.now = true
  finished : (l.peers i).pending = false →
    ∃ time, .finished n time (l.peers i).response ∈ l.log

/-- Ticks that show a time that has not wrapped. -/
theorem coreElapsed_lt {since now : Nat} {interval : CoreTick} (hnow : since ≤ now)
    (h : now < since + interval.toNat) : coreElapsed (tick since) (tick now) < interval := by
  have helapsed : (coreElapsed (tick since) (tick now)).toNat = (now - since) % 2 ^ 32 := by
    simp only [coreElapsed, tick, BitVec.toNat_sub, BitVec.toNat_ofNat]
    omega
  have hmod : (now - since) % 2 ^ 32 ≤ now - since := Nat.mod_le _ _
  rw [BitVec.lt_def, helapsed]
  omega

theorem shieldedBy_of_shielded (h : Accounts w.listener) (htracks : Tracks w) {r : UdpRequest}
    (hr : w.listener.requests[n]? = some r) (hshielded : Shielded w.listener n r.source) :
    ∃ i, ShieldedBy w.listener i n r := by
  have hlt := (List.getElem?_eq_some_iff.mp hr).1
  rcases hshielded with hnone | ⟨hmode, hlast, time, response, hmem, hclock⟩
  · rcases h.fate n hlt with ⟨i, hpending, hnumber⟩ | ⟨hone, -⟩
    · have hawaits := (h.awaits i hpending).request
      rw [hnumber, hr] at hawaits
      cases hawaits
      refine ⟨i, htracks.used_of_pending i hpending, rfl, rfl, rfl,
        by simp [holdsRequest, hpending], ?_⟩
      intro hfree
      exact absurd hpending (by simp [hfree])
    · exact absurd hone (by simp [hnone])
  · have hcache : modbusUdpCacheTimeout.toNat < modbusUdpIdleTimeout.toNat := by decide
    obtain ⟨i, hi⟩ := h.remembered n time response r hmem hr hlast (by omega)
    refine ⟨i, hi.used, hi.address, hi.tid, hi.rtu, ?_, ?_⟩
    · have hpast := h.past n time response hmem
      have helapsed := coreElapsed_lt hpast hclock
      simp [holdsRequest, hi.cached, hi.tid, hi.completedAt, hmode, h.now, helapsed]
    · intro _
      rw [hi.response]
      exact ⟨time, hmem⟩

/-- A source has one peer, so the shielding one is found. -/
theorem findPeer_of_used (htracks : Tracks w) {source : UdpAddress} (used : (w.listener.peers i).used = true)
    (address : (w.listener.peers i).address = source) : findPeer w.listener source = some i := by
  cases hfind : findPeer w.listener source with
  | none => exact absurd address (findPeer_none hfind i used)
  | some j =>
    obtain ⟨hused, haddress⟩ := findPeer_some hfind
    rw [htracks.distinct j i hused used (haddress.trans address.symm)]

/-- What a datagram with the transaction id of a shielded request comes to. -/
theorem receive_of_shielded (h : Accounts w.listener) (htracks : Tracks w) {r : UdpRequest}
    (hr : w.listener.requests[n]? = some r) (hshielded : Shielded w.listener n r.source)
    {data rtu : List UInt8} (hdata : decodeDatagram w.listener.rtuMode data = some (r.tid, rtu)) :
    ∃ i, ShieldedBy (evictIdle w.listener w.listener.now) i n r ∧
      modbusUdpListenerReceive w.listener r.source data w.listener.now =
        (1, if r.rtu = rtu ∧
            ((evictIdle w.listener w.listener.now).peers i).pending = false then
          sendResponse (evictIdle w.listener w.listener.now) i
          else evictIdle w.listener w.listener.now) := by
  have htracks' := htracks.evict w.listener.now
  obtain ⟨i, hi⟩ := shieldedBy_of_shielded
    (w := { w with listener := evictIdle w.listener w.listener.now }) h.evict htracks' hr hshielded
  refine ⟨i, hi, ?_⟩
  have hfind : findPeer (evictIdle w.listener w.listener.now) r.source = some i :=
    findPeer_of_used htracks' hi.used hi.address
  have hreceive : modbusUdpListenerReceive w.listener r.source data w.listener.now =
      admitRequest (evictIdle w.listener w.listener.now) i
        { source := r.source, tid := r.tid, rtu := rtu } w.listener.now := by
    unfold modbusUdpListenerReceive
    rw [if_neg (by simp [h.opened]), hdata]
    show admitFrom (evictIdle w.listener w.listener.now) _ _ = _
    unfold admitFrom
    rw [hfind]
  have hholds : holdsRequest (evictIdle w.listener w.listener.now) i r.tid w.listener.now = true :=
    hi.holds
  rw [hreceive]
  unfold admitRequest
  rw [if_pos hholds]
  by_cases hrtu : r.rtu = rtu
  · have hsame : ((evictIdle w.listener w.listener.now).peers i).tid = r.tid ∧
        ((evictIdle w.listener w.listener.now).peers i).rtu = rtu := ⟨hi.tid, hi.rtu.trans hrtu⟩
    rw [if_pos hsame]
    by_cases hpending : ((evictIdle w.listener w.listener.now).peers i).pending = true
    · simp [hpending]
    · simp [hpending, hrtu]
  · have hother : ¬(((evictIdle w.listener w.listener.now).peers i).tid = r.tid ∧
        ((evictIdle w.listener w.listener.now).peers i).rtu = rtu) := by
      intro hsame
      exact hrtu (hi.rtu.symm.trans hsame.2)
    rw [if_neg hother]
    simp [hrtu]

theorem recognises_of_accounts (h : Accounts w.listener) (htracks : Tracks w) :
    Recognises w.listener := by
  constructor
  · intro n r data hr hshielded hdata
    obtain ⟨i, hi, hreceive⟩ := receive_of_shielded h htracks hr hshielded hdata
    rw [hreceive]
    refine ⟨rfl, ?_⟩
    by_cases hfree : ((evictIdle w.listener w.listener.now).peers i).pending = false
    · rw [if_pos ⟨rfl, hfree⟩]
      obtain ⟨time, hmem⟩ := hi.finished hfree
      refine ⟨(sameButLog_sendResponse _ i).requests, ?_⟩
      have hlog := sendResponse_log (l := evictIdle w.listener w.listener.now) h.opened i
      rw [hi.address] at hlog
      by_cases hempty : ((evictIdle w.listener w.listener.now).peers i).response = []
      · rw [if_pos hempty] at hlog
        exact .inl (hlog.trans (List.append_nil _))
      · rw [if_neg hempty] at hlog
        exact .inr ⟨time, _, hmem, hlog⟩
    · rw [if_neg (fun hboth => hfree hboth.2)]
      exact ⟨rfl, .inl rfl⟩
  · intro n r data rtu hr hshielded hdata hne
    obtain ⟨i, hi, hreceive⟩ := receive_of_shielded h htracks hr hshielded hdata
    rw [hreceive, if_neg (fun hboth => hne hboth.1.symm)]
    exact ⟨rfl, rfl, rfl⟩

/-! ## Every run -/

/-- What has become of an accepted request while the listener is open. -/
inductive Fate (port : PortRuntime σ UdpListener) (n : Nat) : Prop where
  /-- It waits in its peer to be submitted. -/
  | waiting (i : PeerIndex) (pending : (port.completionContext.peers i).pending = true)
      (unsubmitted : (port.completionContext.peers i).submitted = false)
      (number : (port.completionContext.peers i).number = n)
      (never : submittedTimes port.completionContext.log n = 0)
      (unfinished : finishedTimes port.completionContext.log n = 0)
  /-- The runtime holds the one transaction submitted for it. -/
  | running (i : PeerIndex) (t : CoreTransaction)
      (pending : (port.completionContext.peers i).pending = true)
      (submitted : (port.completionContext.peers i).submitted = true)
      (number : (port.completionContext.peers i).number = n) (held : heldFor port i = [t])
      (once : submittedTimes port.completionContext.log n = 1)
      (unfinished : finishedTimes port.completionContext.log n = 0)
  | finished (once : finishedTimes port.completionContext.log n = 1)

structure AtMostOnce (port : PortRuntime σ UdpListener) : Prop where
  submitted_once : ∀ n, submittedTimes port.completionContext.log n ≤ 1
  finished_once : ∀ n, finishedTimes port.completionContext.log n ≤ 1
  accepted_only : ∀ n, port.completionContext.requests.length ≤ n →
    finishedTimes port.completionContext.log n = 0 ∧
      submittedTimes port.completionContext.log n = 0
  executed : ∀ n rtu, .submitted n rtu ∈ port.completionContext.log →
    ∃ r, port.completionContext.requests[n]? = some r ∧ r.rtu = rtu
  fate : port.completionContext.opened = true →
    ∀ n, n < port.completionContext.requests.length → Fate port n
  /-- Also after other datagrams of the same step. -/
  recognises : port.completionContext.opened = true →
    ∀ time, port.completionContext.clock ≤ time → ∀ earlier,
      Recognises (receiveAll { port.completionContext with clock := time, now := tick time }
        earlier (tick time))

theorem Accounts.finished_once (h : Accounts l) (n : Nat) :
    finishedTimes l.log n ≤ 1 := by
  rcases Nat.lt_or_ge n l.requests.length with hlt | hge
  · rcases h.fate n hlt with ⟨i, hi, rfl⟩ | ⟨hone, -⟩
    · rw [(h.awaits i hi).unfinished]
      exact Nat.zero_le _
    · exact Nat.le_of_eq hone
  · rw [(h.known n hge).1]
    exact Nat.zero_le _

theorem Accounts.submitted_once (h : Accounts l) (n : Nat) :
    submittedTimes l.log n ≤ 1 := by
  rcases Nat.lt_or_ge n l.requests.length with hlt | hge
  · rcases h.fate n hlt with ⟨i, hi, rfl⟩ | ⟨-, hone⟩
    · rw [(h.awaits i hi).submissions]
      split <;> decide
    · exact hone
  · rw [(h.known n hge).2]
    exact Nat.zero_le _

theorem fate_of_accounts {port : PortRuntime σ UdpListener} (h : Accounts port.completionContext)
    (hcorresponds : Corresponds port) (hn : n < port.completionContext.requests.length) : Fate port n := by
  rcases h.fate n hn with ⟨i, hpending, rfl⟩ | ⟨hone, -⟩
  · have hawaits := h.awaits i hpending
    have hsubmissions := hawaits.submissions
    by_cases hsubmitted : (port.completionContext.peers i).submitted = true
    · obtain ⟨t, ht⟩ := (hcorresponds.submitted_iff i).mp ⟨hpending, hsubmitted⟩
      rw [if_pos hsubmitted] at hsubmissions
      exact .running i t hpending hsubmitted rfl ht hsubmissions hawaits.unfinished
    · rw [if_neg hsubmitted] at hsubmissions
      exact .waiting i hpending (by simpa using hsubmitted) rfl hsubmissions hawaits.unfinished
  · exact .finished hone

/-- **At most once.** In every run a datagram that was accepted is submitted at most once
    and finished at most once; as long as the listener is open it waits, runs or has been
    finished once; and a datagram that repeats or contradicts a shielded request is not
    accepted, the first answered with nothing but the request's own response, the second
    not at all. -/
theorem atMostOnce_of_udpRun {port : PortRuntime σ UdpListener} (h : UdpRun port) :
    AtMostOnce port := by
  -- the run is one of the table, and its log and requests are the table's
  obtain ⟨rtuMode, w, hruns⟩ := runsTo_udpRun h
  have haccounts : Accounts w.listener :=
    accounts_moves (accounts_startTable rtuMode) (tracks_startTable rtuMode) hruns.moves
  have hlistener : port.completionContext.opened = true → port.completionContext = w.listener :=
    fun ho => congrArg UdpTable.listener (hruns.table ho)
  constructor
  · intro n
    rw [hruns.log]
    exact haccounts.submitted_once n
  · intro n
    rw [hruns.log]
    exact haccounts.finished_once n
  · intro n hn
    rw [hruns.log]
    exact haccounts.known n (hruns.requests ▸ hn)
  · intro n rtu hmem
    rw [hruns.log] at hmem
    rw [hruns.requests]
    exact haccounts.executed n rtu hmem
  · intro ho n hn
    have htracks : Tracks (udpTable port) := hruns.table ho ▸ hruns.tracks
    exact fate_of_accounts (hlistener ho ▸ haccounts) (corresponds_of_tracks htracks hruns.fresh) hn
  · intro ho time later earlier
    have htracks : Tracks (udpTable port) := hruns.table ho ▸ hruns.tracks
    have haccounts' : Accounts port.completionContext := hlistener ho ▸ haccounts
    -- a further datagram comes after a tick and after those already read
    have htick := UdpMove.tick (udpTable port) time later
    have hreceived := reaches_receiveAll (w := { udpTable port with
      listener := { port.completionContext with clock := time, now := tick time } }) ho earlier
    have hmoves : UdpMoves (udpTable port) _ := .head htick hreceived.moves
    exact recognises_of_accounts (accounts_moves haccounts' htracks hmoves)
      (htracks.moves hmoves)

/-- The request of the run of `submittedPort` runs, and its repetition is recognised. -/
theorem atMostOnce_submittedPort :
    Fate submittedPort 0 ∧
    (modbusUdpListenerReceive
      { submittedPort.completionContext with clock := 2, now := tick 2 } playSource playDatagram
      (tick 2)).1 = 1 :=
  ⟨(atMostOnce_of_udpRun udpRun_submittedPort).fate (by decide +kernel) 0 (by decide +kernel),
    by decide +kernel⟩

/-! ## The clock of the cache

The listener takes the time of its own last call for the time of a completion. A runtime
that is stepped later than its listener completes a request the cache forgets too early. -/

/-- A backend that answers with an echo of the request. -/
def echoOps : CoreBackendOps Unit where
  «open» := fun _ _ => (0, ())
  start := fun _ _ _ => (0, ())
  poll := fun _ _ =>
    (1, { type := .response, generation := 1, data := crcAppend (playDatagram.drop 6) }, ())
  cancel := fun _ _ => ()
  recover := fun _ _ => (0, ())
  reconfigure := fun _ _ _ => (0, ())
  stop := fun _ _ => (0, ())

def echoStart : PortRuntime Unit UdpListener :=
  runPort [.start 0 100, .step 0]
    (portRuntimeInit 0 default (some echoOps) () (startTable false).listener [])

theorem coherent_echoStart : echoStart.Coherent :=
  (((coherent_portRuntimeInit 0 default (some echoOps) () (startTable false).listener []).exec
    (.start 0 100)).1.exec (.step 0)).1

/-- Submitted and started at time 1, when the listener is stepped for the last time. -/
def startedPort : PortRuntime Unit UdpListener :=
  callPort
    (callPort
      (modbusUdpListenerStepIo
        (withListener (openedPort echoStart false)
          ((openedPort echoStart false).completionContext.atTime 1))
        [(playSource, playDatagram)] (tick 1))
      (.step (tick 1)))
    (.step (tick 1))

/-- The runtime's step at time 1000 completes the request. -/
def completedPort : PortRuntime Unit UdpListener := callPort startedPort (.step (tick 1000))

/-- The datagram arrives again at time 5500. -/
def repeatedPort : PortRuntime Unit UdpListener :=
  modbusUdpListenerStepIo
    (withListener completedPort (completedPort.completionContext.atTime 5500))
    [(playSource, playDatagram)] (tick 5500)

theorem udpRun_repeatedPort : UdpRun repeatedPort :=
  .step
    (.step
      (.step
        (.step
          (.step (.opened echoStart false coherent_echoStart (by decide +kernel))
            (.stepIo _ 1 [(playSource, playDatagram)] (by decide +kernel)))
          (.call _ (.step (tick 1)) rfl))
        (.call _ (.step (tick 1)) rfl))
      (.call _ (.step (tick 1000)) rfl))
    (.stepIo _ 5500 [(playSource, playDatagram)] (by decide +kernel))

/-- Completed at 1000 and repeated at 5500, less than the cache timeout later and with
    nothing in between, the request is submitted a second time. -/
theorem repeated_after_late_step :
    UdpRun repeatedPort ∧
    finishedTimes startedPort.completionContext.log 0 = 0 ∧
    finishedTimes completedPort.completionContext.log 0 = 1 ∧
    5500 < 1000 + modbusUdpCacheTimeout.toNat ∧
    completedPort.completionContext.requests.length = 1 ∧
    repeatedPort.completionContext.requests[0]? = repeatedPort.completionContext.requests[1]? ∧
    submittedTimes repeatedPort.completionContext.log 0 = 1 ∧
    submittedTimes repeatedPort.completionContext.log 1 = 1 :=
  ⟨udpRun_repeatedPort, by decide +kernel⟩

end FourVrs.Network
