import FourVrs.Web.RngOnce

/-!
# The pool of a client

What a client has handed out and what is left in its pool add up to the answers it has taken, and
these are the ones the broker gave, but for one that is under way. `ClientSound` says so, whatever
part of a request or an answer has been sent; each operation of the client keeps it, and so does
everything others do.
-/

set_option autoImplicit false

namespace FourVrs.Web

open Config FourVrs.Core Lib

/-! ## Frames on the wire -/

theorem length_rngHeader {magic : List UInt8} (hmagic : magic.length = 4) (sequence length epoch : Nat) :
    (rngHeader magic sequence length epoch).length = 16 := by
  simp [rngHeader, hmagic]

theorem length_wire (f : RngFrame) : f.wire.length = f.payload.length + 16 := by
  rw [RngFrame.wire, List.length_append, length_rngHeader (by decide), Nat.add_comm]

theorem get32_sequence {magic : List UInt8} (hmagic : magic.length = 4) {sequence : Nat} (h : sequence < 2 ^ 32)
    (length epoch : Nat) (rest : List UInt8) :
    get32 ((rngHeader magic sequence length epoch ++ rest).drop 4) = sequence := by
  simp only [rngHeader, List.append_assoc, List.drop_left' hmagic]
  exact get32_append h _

theorem get32_length {magic : List UInt8} (hmagic : magic.length = 4) {length : Nat} (h : length < 2 ^ 32)
    (sequence epoch : Nat) (rest : List UInt8) :
    get32 ((rngHeader magic sequence length epoch ++ rest).drop 8) = length := by
  have hfirst : (magic ++ put32 sequence).length = 8 := by simp [hmagic]
  rw [rngHeader, List.append_assoc, List.append_assoc, List.drop_left' hfirst]
  exact get32_append h _

theorem get32_epoch {magic : List UInt8} (hmagic : magic.length = 4) {epoch : Nat} (h : epoch < 2 ^ 32)
    (sequence length : Nat) (rest : List UInt8) :
    get32 ((rngHeader magic sequence length epoch ++ rest).drop 12) = epoch := by
  have hfirst : (magic ++ put32 sequence ++ put32 length).length = 12 := by simp [hmagic]
  rw [rngHeader, List.append_assoc, List.drop_left' hfirst]
  exact get32_append h _

/-- A frame is read as it was written. -/
theorem ofWire_wire {f : RngFrame} (hsequence : f.sequence < 2 ^ 32) (hepoch : f.epoch < 2 ^ 32) :
    RngFrame.ofWire f.wire = f := by
  have hmagic : rngMagic.length = 4 := by decide
  simp only [RngFrame.ofWire, RngFrame.wire, get32_sequence hmagic hsequence, get32_epoch hmagic hepoch,
    List.drop_left' (length_rngHeader hmagic _ _ _)]

/-! ## A request and its answer -/

def RngClient.frames (c : RngClient) : List RngFrame := c.taken.map RngTaken.frame

def RngClient.payloads (c : RngClient) : List UInt8 := c.frames.flatMap RngFrame.payload

/-- What the broker still has to send of an answer; all of it is sent, or it has some left. -/
def Remains (p : RngSide) (sequence : Nat) (rest : List UInt8) : Prop :=
  p = ⟨[], [], 0, sequence⟩ ∧ rest = [] ∨
    p.seq = sequence ∧ p.sent < p.tx.length ∧ rest = p.tx.drop p.sent

/-- How far the request is that a client has outstanding. -/
inductive Phase (c : RngClient) (l : RngLink) : Prop where
  | idle (htotal : c.total = 0) (hrx : c.rx = []) (hdown : l.down = []) (hframes : l.frames = c.frames)
      (hside : ∀ p, l.side = some p → p = ⟨[], [], 0, c.sequence⟩ ∧ l.up = [])
  /-- What the broker has received, what is on the way and what is not sent yet make up the request. -/
  | asked {magic : List UInt8} {n : Nat} (hmagic : magic.length = 4) (htotal : c.total = n + 16)
      (hn : n ≤ rngMax) (htx : c.tx = rngHeader magic c.sequence n 0) (hsent : c.sent ≤ 16) (hrx : c.rx = [])
      (hdown : l.down = []) (hframes : l.frames = c.frames)
      (hside : ∀ p, l.side = some p →
        p.tx = [] ∧ p.sent = 0 ∧ p.seq + 1 = c.sequence ∧ p.rx ++ l.up ++ c.tx.drop c.sent = c.tx)
  /-- What the client has received, what is on the way and what the broker has left make up the answer. -/
  | answered {f : RngFrame} {rest : List UInt8} (htotal : c.total = f.payload.length + 16)
      (hsequence : f.sequence = c.sequence) (hepoch : f.epoch < 2 ^ 32) (hsent : c.sent = 16)
      (hframes : l.frames = c.frames ++ [f]) (hwire : c.rx ++ l.down ++ rest = f.wire)
      (hside : ∀ p, l.side = some p → Remains p c.sequence rest ∧ l.up = [])

variable {c : RngClient} {l l' : RngLink}

theorem Remains.afterSend {p : RngSide} {sequence n : Nat} {rest : List UInt8} (h : Remains p sequence rest)
    (htx : p.tx ≠ []) (hn : n ≤ (p.tx.drop p.sent).length) :
    (p.tx.drop p.sent).take n ++ rest.drop n = rest ∧ Remains (p.afterSend n) sequence (rest.drop n) := by
  rcases h with ⟨rfl, -⟩ | ⟨hseq, hsent, rfl⟩
  · exact absurd rfl htx
  · refine ⟨List.take_append_drop n _, ?_⟩
    rw [List.length_drop] at hn
    unfold RngSide.afterSend
    split
    · rename_i hall
      refine .inl ⟨by rw [← hseq], ?_⟩
      rw [List.drop_drop, hall, List.drop_length]
    · rename_i hsome
      refine .inr ⟨hseq, ?_, List.drop_drop⟩
      show p.sent + n < p.tx.length
      omega

theorem Phase.linkStep (h : Phase c l) (hsequence : c.sequence < 2 ^ 32) (hstep : LinkStep l l') :
    Phase c l' := by
  cases hstep with
  | same => exact h
  | gone up =>
    cases h with
    | idle htotal hrx hdown hframes hside => exact .idle htotal hrx hdown hframes (by simp)
    | asked hmagic htotal hn htx hsent hrx hdown hframes hside =>
      exact .asked hmagic htotal hn htx hsent hrx hdown hframes (by simp)
    | answered htotal hseq hepoch hsent hframes hwire hside =>
      exact .answered htotal hseq hepoch hsent hframes hwire (by simp)
  | @sends p n hp htx hn =>
    cases h with
    | idle htotal hrx hdown hframes hside => exact absurd (congrArg RngSide.tx (hside p hp).1) htx
    | asked hmagic htotal hmax hctx hsent hrx hdown hframes hside => exact absurd (hside p hp).1 htx
    | @answered f rest htotal hseq hepoch hsent hframes hwire hside =>
      obtain ⟨hremains, hup⟩ := hside p hp
      obtain ⟨hrest, hremains⟩ := hremains.afterSend htx hn
      refine @Phase.answered c _ f (rest.drop n) htotal hseq hepoch hsent hframes ?_ ?_
      · rw [← hwire]
        simp only [List.append_assoc, hrest]
      · rintro q ⟨⟩
        exact ⟨hremains, hup⟩
  | @receives p bytes rest hp htx hup =>
    cases h with
    | idle htotal hrx hdown hframes hside =>
      obtain ⟨rfl, hempty⟩ := hside p hp
      obtain ⟨rfl, rfl⟩ := List.append_eq_nil_iff.mp (hup.symm.trans hempty)
      refine .idle htotal hrx hdown hframes ?_
      rintro q ⟨⟩
      exact ⟨rfl, rfl⟩
    | asked hmagic htotal hn hctx hsent hrx hdown hframes hside =>
      obtain ⟨-, hzero, hnext, hwhole⟩ := hside p hp
      refine .asked hmagic htotal hn hctx hsent hrx hdown hframes ?_
      rintro q ⟨⟩
      refine ⟨htx, hzero, hnext, ?_⟩
      rw [hup] at hwhole
      simpa using hwhole
    | @answered f left htotal hseq hepoch hsent hframes hwire hside =>
      obtain ⟨hremains, hempty⟩ := hside p hp
      obtain ⟨rfl, rfl⟩ := List.append_eq_nil_iff.mp (hup.symm.trans hempty)
      refine .answered htotal hseq hepoch hsent hframes hwire ?_
      rintro q ⟨⟩
      refine ⟨?_, rfl⟩
      simpa using hremains
  | @answers p f hp htx hlength hfsequence hpayload hepoch =>
    cases h with
    | idle htotal hrx hdown hframes hside =>
      obtain ⟨rfl, -⟩ := hside p hp
      cases hlength
    | @asked magic n hmagic htotal hn hctx hsent hrx hdown hframes hside =>
      obtain ⟨-, -, hnext, hwhole⟩ := hside p hp
      have hctxlength : c.tx.length = 16 := hctx ▸ length_rngHeader hmagic _ _ _
      -- the broker has the whole request, so nothing of it is under way and nothing left
      have hrest : l.up ++ c.tx.drop c.sent = [] := by
        have hlen := congrArg List.length hwhole
        rw [List.append_assoc, List.length_append, hlength, hctxlength] at hlen
        exact List.eq_nil_of_length_eq_zero (by omega)
      obtain ⟨hup, hleft⟩ := List.append_eq_nil_iff.mp hrest
      have hprx : p.rx = rngHeader magic c.sequence n 0 ++ [] := by
        rw [hup, hleft, List.append_nil, List.append_nil] at hwhole
        rw [List.append_nil, hwhole, hctx]
      have hseq : f.sequence = c.sequence := by rw [← hfsequence, hprx, get32_sequence hmagic hsequence]
      have hcount : f.payload.length = n := by
        have hlt : n < 2 ^ 32 := lt_of_le_of_lt hn (by decide)
        rw [← hpayload, hprx, get32_length hmagic hlt]
      have hall : c.sent = 16 := by
        have := List.drop_eq_nil_iff.mp hleft
        omega
      refine @Phase.answered c _ f f.wire (by rw [htotal, hcount]) hseq hepoch hall (by rw [← hframes]) ?_ ?_
      · rw [hrx, hdown]
        rfl
      · rintro q ⟨⟩
        refine ⟨.inr ⟨hseq, ?_, rfl⟩, hup⟩
        show 0 < f.wire.length
        rw [length_wire]
        exact Nat.succ_pos _
    | answered htotal hseq hepoch hsent hframes hwire hside =>
      obtain ⟨hremains, -⟩ := hside p hp
      rcases hremains with ⟨rfl, -⟩ | ⟨-, hlt, -⟩
      · cases hlength
      · simp [htx] at hlt

/-! ## What a client keeps -/

/-- While the channel works. -/
structure Working (c : RngClient) (l : RngLink) (handed : List UInt8) : Prop where
  sequence : c.sequence ≤ sequenceMax
  epoch : ∀ t ∈ c.taken, t.frame.epoch = c.epoch ∧ c.epoch ≠ 0
  pool : c.payloads = handed ++ c.pool
  phase : Phase c l

structure ClientSound (c : RngClient) (l : RngLink) (handed : List UInt8) : Prop where
  taken : c.frames <+: l.frames
  matching : Matching c.taken
  count : c.pool.length ≤ 1024
  given : handed <+: c.payloads
  closed : c.failed = true → c.pool = []
  working : c.failed = false → Working c l handed

variable {handed : List UInt8}

theorem Phase.frames (h : Phase c l) : c.frames <+: l.frames := by
  cases h with
  | idle _ _ _ hframes _ | asked _ _ _ _ _ _ _ hframes _ => exact ⟨[], by simp [hframes]⟩
  | @answered f _ _ _ _ _ hframes _ _ => exact ⟨[f], hframes.symm⟩

theorem LinkStep.frames (h : LinkStep l l') : l.frames <+: l'.frames := by
  cases h with
  | answers => exact List.prefix_append _ _
  | _ => exact List.prefix_refl _

theorem Working.sequence_lt (h : Working c l handed) : c.sequence < 2 ^ 32 :=
  lt_of_le_of_lt h.sequence (by decide)

theorem ClientSound.linkStep (h : ClientSound c l handed) (hstep : LinkStep l l') : ClientSound c l' handed := by
  refine ⟨h.taken.trans hstep.frames, h.matching, h.count, h.given, h.closed, fun hopen => ?_⟩
  have hworking := h.working hopen
  exact ⟨hworking.sequence, hworking.epoch, hworking.pool, hworking.phase.linkStep hworking.sequence_lt hstep⟩

theorem ClientSound.linkSteps (h : ClientSound c l handed) (hsteps : Relation.ReflTransGen LinkStep l l') :
    ClientSound c l' handed := by
  induction hsteps with
  | refl => exact h
  | tail _ hstep ih => exact ih.linkStep hstep

/-- A client that works, from what it keeps then. -/
theorem ClientSound.of_working (h : Working c l handed) (hopen : c.failed = false) (hmatching : Matching c.taken)
    (hcount : c.pool.length ≤ 1024) : ClientSound c l handed :=
  ⟨h.phase.frames, hmatching, hcount, ⟨c.pool, h.pool.symm⟩, by simp [hopen], fun _ => h⟩

theorem ClientSound.close (h : ClientSound c l handed) : ClientSound (rngClientClose c) l handed :=
  ⟨h.taken, h.matching, by simp [rngClientClose], h.given, fun _ => rfl, by simp [rngClientClose]⟩

/-! ## What its operations keep -/

/-- The client with a new request. -/
def RngClient.asking (c : RngClient) (magic : List UInt8) (n : Nat) (since : CoreTick) : RngClient :=
  { c with
    sequence := c.sequence + 1
    tx := rngHeader magic (c.sequence + 1) n 0
    sent := 0
    rx := []
    total := n + 16
    since := since }

theorem Working.asks {magic : List UInt8} {n : Nat} (h : Working c l handed) (hmagic : magic.length = 4)
    (hn : n ≤ rngMax) (htotal : c.total = 0) (hlast : c.sequence ≠ sequenceMax) (since : CoreTick) :
    Working (c.asking magic n since) l handed := by
  have hsequence := h.sequence
  refine ⟨show c.sequence + 1 ≤ sequenceMax by omega, h.epoch, h.pool, ?_⟩
  cases h.phase with
  | idle _ _ hdown hframes hside =>
    refine .asked hmagic rfl hn rfl (Nat.zero_le _) rfl hdown hframes fun p hp => ?_
    obtain ⟨rfl, hup⟩ := hside p hp
    exact ⟨rfl, rfl, rfl, by simp [hup, RngClient.asking]⟩
  | asked _ hasked => exact absurd (htotal.symm.trans hasked) (by omega)
  | answered hanswered => exact absurd (htotal.symm.trans hanswered) (by omega)

/-- More of the request is sent. -/
theorem Working.send {n : Nat} (h : Working c l handed) (htotal : c.total ≠ 0) (hsent : c.sent < 16)
    (hn : n ≤ (c.tx.drop c.sent).length) :
    Working { c with sent := c.sent + n } { l with up := l.up ++ (c.tx.drop c.sent).take n } handed := by
  refine ⟨h.sequence, h.epoch, h.pool, ?_⟩
  cases h.phase with
  | idle hidle => exact absurd hidle htotal
  | asked hmagic hasked hmax htx _ hrx hdown hframes hside =>
    have hlength : c.tx.length = 16 := htx ▸ length_rngHeader hmagic _ _ _
    rw [List.length_drop, hlength] at hn
    refine .asked hmagic hasked hmax htx (show c.sent + n ≤ 16 by omega) hrx hdown hframes fun p hp => ?_
    obtain ⟨hptx, hzero, hnext, hwhole⟩ := hside p hp
    refine ⟨hptx, hzero, hnext, ?_⟩
    have hparts : (c.tx.drop c.sent).take n ++ c.tx.drop (c.sent + n) = c.tx.drop c.sent := by
      rw [← List.drop_drop, List.take_append_drop]
    simp only [List.append_assoc, hparts]
    simpa using hwhole
  | answered _ _ _ hall => omega

/-- More of the answer is received. -/
theorem Working.receive {bytes rest : List UInt8} (h : Working c l handed) (htotal : c.total ≠ 0)
    (hdown : l.down = bytes ++ rest) (since : CoreTick) :
    Working { c with since := since, rx := c.rx ++ bytes } { l with down := rest } handed := by
  refine ⟨h.sequence, h.epoch, h.pool, ?_⟩
  cases h.phase with
  | idle hidle => exact absurd hidle htotal
  | asked hmagic hasked hmax htx hsent hrx hempty hframes hside =>
    obtain ⟨rfl, rfl⟩ := List.append_eq_nil_iff.mp (hdown.symm.trans hempty)
    exact .asked hmagic hasked hmax htx hsent (by simpa using hrx) rfl hframes hside
  | answered hanswered hsequence hepoch hall hframes hwire hside =>
    refine .answered hanswered hsequence hepoch hall hframes ?_ hside
    rw [hdown] at hwire
    simpa using hwire

/-- An answer that is complete is the one that was given, and the last. -/
theorem Phase.complete (h : Phase c l) (hlt : c.sequence < 2 ^ 32) (htotal : c.total ≠ 0)
    (hcomplete : c.rx.length = c.total) :
    (RngFrame.ofWire c.rx).sequence = c.sequence ∧ c.total = (RngFrame.ofWire c.rx).payload.length + 16 ∧
      l.frames = c.frames ++ [RngFrame.ofWire c.rx] ∧ l.down = [] ∧
        ∀ p, l.side = some p → p = ⟨[], [], 0, c.sequence⟩ ∧ l.up = [] := by
  cases h with
  | idle hidle => exact absurd hidle htotal
  | asked _ hasked _ _ _ hrx =>
    rw [hrx, hasked] at hcomplete
    exact absurd hcomplete.symm (Nat.succ_ne_zero _)
  | @answered f rest hanswered hsequence hepoch _ hframes hwire hside =>
    have hrest : l.down ++ rest = [] := by
      have hlen := congrArg List.length hwire
      rw [List.append_assoc, List.length_append, hcomplete, hanswered, length_wire] at hlen
      exact List.eq_nil_of_length_eq_zero (by omega)
    obtain ⟨hdown, rfl⟩ := List.append_eq_nil_iff.mp hrest
    have hrx : RngFrame.ofWire c.rx = f := by
      rw [hdown, List.append_nil, List.append_nil] at hwire
      rw [hwire, ofWire_wire (hsequence ▸ hlt) hepoch]
    rw [hrx]
    refine ⟨hsequence, hanswered, hframes, hdown, fun p hp => ?_⟩
    obtain ⟨⟨rfl, -⟩ | ⟨-, hleft, hnil⟩, hup⟩ := hside p hp
    · exact ⟨rfl, hup⟩
    · have := List.drop_eq_nil_iff.mp hnil.symm
      omega

theorem Matching.snoc {taken : List RngTaken} {t : RngTaken} (h : Matching taken)
    (hasked : t.frame.sequence = t.sequence ∧ t.frame.payload.length = t.length)
    (hepoch : ∀ t' ∈ taken, t'.frame.epoch = t.frame.epoch) : Matching (taken ++ [t]) := by
  refine ⟨fun t' ht' => ?_, fun t₁ ht₁ t₂ ht₂ => ?_⟩
  · rcases List.mem_append.mp ht' with hold | hnew
    · exact h.asked t' hold
    · exact List.mem_singleton.mp hnew ▸ hasked
  · rcases List.mem_append.mp ht₁ with hold₁ | hnew₁ <;> rcases List.mem_append.mp ht₂ with hold₂ | hnew₂
    · exact h.epoch t₁ hold₁ t₂ hold₂
    · exact List.mem_singleton.mp hnew₂ ▸ hepoch t₁ hold₁
    · exact List.mem_singleton.mp hnew₁ ▸ (hepoch t₂ hold₂).symm
    · rw [List.mem_singleton.mp hnew₁, List.mem_singleton.mp hnew₂]

theorem ClientSound.accept (h : ClientSound c l handed) (hopen : c.failed = false) (htotal : c.total ≠ 0) :
    ClientSound (rngAccept c).2 l handed ∧ ((rngAccept c).1 < 0 → (rngAccept c).2.failed = true) := by
  have hworking := h.working hopen
  unfold rngAccept
  split
  · exact ⟨h, fun hlt => absurd hlt (Int.lt_irrefl 0)⟩
  rename_i hcomplete
  split
  · rename_i hgood
    simp only [answersRequest, Bool.and_eq_true, Bool.or_eq_true, decide_eq_true_eq] at hgood
    obtain ⟨⟨⟨-, hnonzero⟩, hepoch⟩, hcount⟩ := hgood
    obtain ⟨hsequence, hlength, hframes, hdown, hside⟩ :=
      hworking.phase.complete hworking.sequence_lt htotal (not_not.mp hcomplete)
    have hsame : ∀ t ∈ c.taken, t.frame.epoch = (RngFrame.ofWire c.rx).epoch := by
      intro t ht
      obtain ⟨hfirst, hne⟩ := hworking.epoch t ht
      exact hfirst.trans (hepoch.resolve_left hne)
    have hroom : c.pool.length + (c.rx.drop 16).length ≤ 1024 := by
      have hpayload : c.total = (c.rx.drop 16).length + 16 := hlength
      omega
    refine ⟨.of_working ⟨hworking.sequence, ?_, ?_, ?_⟩ hopen (h.matching.snoc ⟨hsequence, ?_⟩ hsame) ?_,
      fun hlt => absurd hlt (by omega)⟩
    · intro t ht
      rcases List.mem_append.mp ht with hold | hnew
      · exact ⟨hsame t hold, hnonzero⟩
      · obtain rfl := List.mem_singleton.mp hnew
        exact ⟨rfl, hnonzero⟩
    · have hpool := hworking.pool
      simp only [RngClient.payloads, RngClient.frames] at hpool
      simp [RngClient.payloads, RngClient.frames, hpool, RngFrame.ofWire]
    · refine .idle rfl rfl hdown ?_ hside
      simp [RngClient.frames, hframes]
    · show (RngFrame.ofWire c.rx).payload.length = c.total - 16
      omega
    · simpa using hroom
  · exact ⟨h.close, fun _ => rfl⟩

/-! ## Its programs -/

structure ChannelSound (ch : Nat) (c : RngClient) (handed : List UInt8) (w : RngWorld) : Prop where
  broker : BrokerSound w
  client : ClientSound c (w.link ch) handed

section

variable {w w' : RngWorld} {ch : Nat} {α : Type} {post : α → RngWorld → Prop}

theorem ChannelSound.others (h : ChannelSound ch c handed w)
    (hothers : Relation.ReflTransGen (OtherStep ch) w w') : ChannelSound ch c handed w' := by
  have hkept := kept_others h.broker hothers
  exact ⟨hkept.sound, h.client.linkSteps hkept.link⟩

theorem link_up (bytes : List UInt8) :
    ({ w with up := Function.update w.up ch bytes } : RngWorld).link ch = { w.link ch with up := bytes } := by
  simp [RngWorld.link, RngWorld.facing]

theorem link_down (bytes : List UInt8) :
    ({ w with down := Function.update w.down ch bytes } : RngWorld).link ch =
      { w.link ch with down := bytes } := by
  simp [RngWorld.link, RngWorld.facing]

/-- A call, and what it does itself when others have done what they do. -/
theorem safe_rngCall {op : RngOp} {f : op.Result → RngProg α} (h : ChannelSound ch c handed w)
    (hcalled : ∀ w₁ r w', ChannelSound ch c handed w₁ → RngCalled ch op w₁ r w' →
      Prog.Safe (rngWorld ch) (fun _ => True) post (f r) w') :
    Prog.Safe (rngWorld ch) (fun _ => True) post (rngCall op >>= f) w := by
  refine ⟨trivial, fun r w' hstep => ?_⟩
  obtain ⟨w₁, hothers, hcall⟩ := hstep
  exact hcalled w₁ r w' (h.others hothers) hcall

/-- What a step leaves behind. -/
def Stepped (ch : Nat) (handed : List UInt8) (r : Int × RngClient) (w : RngWorld) : Prop :=
  ChannelSound ch r.2 handed w ∧ (r.1 < 0 → r.2.failed = true)

theorem ChannelSound.closes (h : ChannelSound ch c handed w) : Stepped ch handed (-1, rngClientClose c) w :=
  ⟨⟨h.broker, h.client.close⟩, fun _ => rfl⟩

theorem ChannelSound.accepts (h : ChannelSound ch c handed w) (hopen : c.failed = false) (htotal : c.total ≠ 0) :
    Stepped ch handed (rngAccept c) w := by
  obtain ⟨hclient, hfails⟩ := h.client.accept hopen htotal
  exact ⟨⟨h.broker, hclient⟩, hfails⟩

theorem safe_rngReceive (h : ChannelSound ch c handed w) (hopen : c.failed = false) (htotal : c.total ≠ 0)
    (now : CoreTick) : Prog.Safe (rngWorld ch) (fun _ => True) (Stepped ch handed) (rngReceive c now) w := by
  unfold rngReceive
  split
  · exact ⟨trivial, h, fun hlt => absurd hlt (Int.lt_irrefl 0)⟩
  · refine safe_rngCall h fun w₁ r w' hw₁ hcall => ?_
    cases hcall with
    | @received _ _ bytes rest hdown hroom =>
      have hsound : ∀ since, ChannelSound ch { c with since := since, rx := c.rx ++ bytes } handed
          { w₁ with down := Function.update w₁.down ch rest } := by
        intro since
        have hworking := (hw₁.client.working hopen).receive htotal hdown since
        refine ⟨hw₁.broker.congr rfl fun _ he => he, ?_⟩
        rw [link_down]
        exact .of_working hworking hopen hw₁.client.matching hw₁.client.count
      cases bytes with
      | nil => exact ⟨trivial, (hsound c.since).closes⟩
      | cons b bytes => exact ⟨trivial, (hsound _).accepts hopen htotal⟩
    | recvAgain => exact ⟨trivial, hw₁.accepts hopen htotal⟩
    | recvEnded | recvFailed => exact ⟨trivial, hw₁.closes⟩

theorem ChannelSound.sends {n : Nat} (h : ChannelSound ch c handed w) (hopen : c.failed = false)
    (htotal : c.total ≠ 0) (hsent : c.sent < 16) (hn : n ≤ (c.tx.drop c.sent).length) :
    ChannelSound ch { c with sent := c.sent + n } handed
      { w with up := Function.update w.up ch (w.up ch ++ (c.tx.drop c.sent).take n) } := by
  have hworking := (h.client.working hopen).send htotal hsent hn
  refine ⟨h.broker.congr rfl fun _ he => he, ?_⟩
  rw [link_up]
  exact .of_working hworking hopen h.client.matching h.client.count

theorem safe_rngExchange (h : ChannelSound ch c handed w) (hopen : c.failed = false) (htotal : c.total ≠ 0)
    (now : CoreTick) : Prog.Safe (rngWorld ch) (fun _ => True) (Stepped ch handed) (rngExchange c now) w := by
  unfold rngExchange
  extract_lets wait
  split
  · exact ⟨trivial, h.closes⟩
  split
  · rename_i hsent
    refine safe_rngCall h fun w₁ r w' hw₁ hcall => ?_
    cases hcall with
    | @sent _ _ _ n hn =>
      have hsound := hw₁.sends hopen htotal hsent hn
      cases n with
      | zero => exact ⟨trivial, hsound.closes⟩
      | succ n => exact safe_rngReceive hsound hopen htotal now
    | sendAgain => exact safe_rngReceive hw₁ hopen htotal now
    | sendFailed => exact ⟨trivial, hw₁.closes⟩
  · exact safe_rngReceive h hopen htotal now

theorem ChannelSound.asks {magic : List UInt8} {n : Nat} (h : ChannelSound ch c handed w)
    (hopen : c.failed = false) (hmagic : magic.length = 4) (hn : n ≤ rngMax) (htotal : c.total = 0)
    (hlast : c.sequence ≠ sequenceMax) (since : CoreTick) : ChannelSound ch (c.asking magic n since) handed w :=
  ⟨h.broker, .of_working ((h.client.working hopen).asks hmagic hn htotal hlast since) hopen h.client.matching
    h.client.count⟩

theorem ChannelSound.requests {n : Nat} {now : CoreTick} {c' : RngClient} (h : ChannelSound ch c handed w)
    (hopen : c.failed = false) (hrequest : rngRequest c n now = some c') :
    ChannelSound ch c' handed w ∧ c'.failed = false ∧ c'.total ≠ 0 := by
  unfold rngRequest at hrequest
  split at hrequest
  · cases hrequest
  · rename_i hasks
    simp only [not_or, not_not, not_lt] at hasks
    obtain ⟨htotal, -, hn, hlast⟩ := hasks
    obtain rfl := Option.some.inj hrequest
    exact ⟨h.asks hopen (by decide) hn htotal hlast now, hopen, Nat.succ_ne_zero _⟩

theorem safe_rngClientStep (h : ChannelSound ch c handed w) (now : CoreTick) :
    Prog.Safe (rngWorld ch) (fun _ => True) (Stepped ch handed) (rngClientStep c now) w := by
  unfold rngClientStep
  split
  · rename_i hfailed
    exact ⟨trivial, h, fun _ => hfailed⟩
  · rename_i hopen
    rw [Bool.not_eq_true] at hopen
    split
    · rename_i htotal
      exact safe_rngExchange h hopen htotal now
    split
    · exact ⟨trivial, h, fun hlt => absurd hlt (Int.lt_irrefl 0)⟩
    split
    · exact ⟨trivial, h.closes⟩
    · rename_i c' hrequest
      obtain ⟨hsound, hopen', htotal⟩ := h.requests hopen hrequest
      exact safe_rngExchange hsound hopen' htotal now

/-- Whether the loop of a synchronous request comes to its end or not. -/
theorem safe_rngWait (passes : Nat) (h : ChannelSound ch c handed w) :
    Prog.Safe (rngWorld ch) (fun _ => True) (fun o w' => ∀ r, o = some r → ChannelSound ch r.2 handed w')
      (rngWait passes c) w := by
  induction passes generalizing c w with
  | zero => exact ⟨trivial, by simp⟩
  | succ passes ih =>
    unfold rngWait
    split
    · exact ⟨trivial, by simpa using h⟩
    · refine safe_rngCall h fun w₁ now w₂ hw₁ hcall => ?_
      cases hcall with
      | now =>
        refine Prog.Safe.bind (Prog.Safe.mono (safe_rngClientStep hw₁ now) fun r w₃ _ hr => ?_)
        split
        · exact ⟨trivial, by simpa using hr.1⟩
        split
        · exact ⟨trivial, by simpa using hr.1⟩
        split
        · exact ⟨trivial, by simpa using hr.1⟩
        · refine safe_rngCall hr.1 fun w₄ selected w₅ hw₄ hcall => ?_
          cases hcall with
          | select =>
            split
            · exact ih hw₄
            · exact ⟨trivial, by simpa using hw₄⟩

theorem ClientSound.handsOut {n : Nat} (h : ClientSound c l handed) (hn : n ≠ 0) :
    ClientSound (rngHandOut c n).2 l (handed ++ (rngHandOut c n).1.getD []) := by
  unfold rngHandOut
  split
  · simpa using h
  · rename_i henough
    -- a client that is closed has nothing in its pool
    have hopen : c.failed = false := by
      cases hfailed : c.failed with
      | false => rfl
      | true =>
        rw [h.closed hfailed] at henough
        exact absurd (Nat.pos_of_ne_zero hn) henough
    have hworking := h.working hopen
    refine .of_working ⟨hworking.sequence, hworking.epoch, ?_, ?_⟩ hopen h.matching ?_
    · show c.payloads = handed ++ c.pool.take n ++ c.pool.drop n
      rw [List.append_assoc, List.take_append_drop, hworking.pool]
    · cases hworking.phase with
      | idle htotal hrx hdown hframes hside => exact .idle htotal hrx hdown hframes hside
      | asked hmagic htotal hmax htx hsent hrx hdown hframes hside =>
        exact .asked hmagic htotal hmax htx hsent hrx hdown hframes hside
      | answered htotal hsequence hepoch hsent hframes hwire hside =>
        exact .answered htotal hsequence hepoch hsent hframes hwire hside
    · have hcount := h.count
      simp only [List.length_drop]
      omega

/-- The client and what has been handed out when a call for random bytes returns. -/
theorem safe_rngClientRandom (passes n : Nat) (h : ChannelSound ch c handed w) :
    Prog.Safe (rngWorld ch) (fun _ => True)
      (fun o w' => ∀ r, o = some r → ChannelSound ch r.2 (handed ++ r.1.getD []) w')
      (rngClientRandom passes c n) w := by
  unfold rngClientRandom
  split
  · exact ⟨trivial, by simpa using h⟩
  · rename_i hgood
    simp only [not_or] at hgood
    obtain ⟨hopen, hn, -⟩ := hgood
    rw [Bool.not_eq_true] at hopen
    split
    · refine safe_rngCall h fun w₁ start w₂ hw₁ hcall => ?_
      cases hcall with
      | now =>
        split
        · exact ⟨trivial, by simpa using hw₁⟩
        · rename_i c' hrequest
          obtain ⟨hsound, -, -⟩ := hw₁.requests hopen hrequest
          refine Prog.Safe.bind (Prog.Safe.mono (safe_rngWait passes hsound) fun o w₃ _ ho => ?_)
          split
          · exact ⟨trivial, by simp⟩
          · exact ⟨trivial, by simpa using ho _ rfl⟩
          · have hend := ho _ rfl
            refine ⟨trivial, fun r heq => ?_⟩
            obtain rfl := Option.some.inj heq
            exact ⟨hend.broker, hend.client.handsOut hn⟩
    · refine ⟨trivial, fun r heq => ?_⟩
      obtain rfl := Option.some.inj heq
      exact ⟨h.broker, h.client.handsOut hn⟩

/-- An attach that is refused changes nothing. -/
theorem safe_rngClientAttach (fd : Nat) (h : ChannelSound ch c handed w) :
    Prog.Safe (rngWorld ch) (fun _ => True)
      (fun r w' => ChannelSound ch r.2 handed w' ∧ (r.1 < 0 → r.2 = c ∨ r.2.failed = true))
      (rngClientAttach c fd) w := by
  unfold rngClientAttach
  split
  · exact ⟨trivial, h, fun _ => .inl rfl⟩
  · rename_i hgood
    simp only [not_or, not_not, Bool.not_eq_true] at hgood
    obtain ⟨hopen, htotal, -, hlast⟩ := hgood
    refine safe_rngCall h fun w₁ now w₂ hw₁ hcall => ?_
    cases hcall with
    | now =>
      have hasked : ChannelSound ch (c.asking attachMagic 0 now) handed w₁ :=
        hw₁.asks hopen (by decide) (Nat.zero_le _) htotal hlast now
      refine safe_rngCall hasked fun w₃ r w₄ hw₃ hcall => ?_
      cases hcall with
      | @sent _ _ _ n hn =>
        have hsound := hw₃.sends hopen (Nat.succ_ne_zero 15) (Nat.succ_pos 15) hn
        cases n with
        | zero => exact ⟨trivial, hsound.closes.1, fun _ => .inr rfl⟩
        | succ n =>
          refine ⟨trivial, ?_, fun hlt => absurd hlt (Int.lt_irrefl 0)⟩
          have hzero : (c.asking attachMagic 0 now).sent + (n + 1) = n + 1 := Nat.zero_add _
          rwa [hzero] at hsound
      | sendAgain | sendFailed => exact ⟨trivial, hw₃.closes.1, fun _ => .inr rfl⟩

/-! ## Calls -/

/-- What a call leaves behind that fails. -/
def FailsWith (c : RngClient) (r : RngReturned) : RngApi → Prop
  | .step _ => r.2.2.failed = true
  | .random _ _ => r.2.1 = []
  | .attach _ => r.2.2 = c ∨ r.2.2.failed = true
  | .close => False

theorem safe_exec (api : RngApi) (h : ChannelSound ch c handed w) :
    Prog.Safe (rngWorld ch) (fun _ => True)
      (fun o w' => ∀ r, o = some r → ChannelSound ch r.2.2 (handed ++ r.2.1) w' ∧ (r.1 < 0 → FailsWith c r api))
      (api.exec c) w := by
  cases api with
  | step now =>
    refine Prog.Safe.bind (Prog.Safe.mono (safe_rngClientStep h now) fun r w' _ hr => ⟨trivial, ?_⟩)
    rintro _ ⟨⟩
    exact ⟨(List.append_nil handed).symm ▸ hr.1, hr.2⟩
  | random passes n =>
    refine Prog.Safe.bind (Prog.Safe.mono (safe_rngClientRandom passes n h) fun o w' _ ho => ⟨trivial, ?_⟩)
    intro r heq
    obtain ⟨⟨out, c'⟩, rfl, rfl⟩ := Option.map_eq_some_iff.mp heq
    have hsound := ho _ rfl
    cases out with
    | none => exact ⟨hsound, fun _ => rfl⟩
    | some out => exact ⟨hsound, fun hlt => absurd hlt (Int.lt_irrefl 0)⟩
  | attach fd =>
    refine Prog.Safe.bind (Prog.Safe.mono (safe_rngClientAttach fd h) fun r w' _ hr => ⟨trivial, ?_⟩)
    rintro _ ⟨⟩
    exact ⟨(List.append_nil handed).symm ▸ hr.1, hr.2⟩
  | close =>
    refine ⟨trivial, ?_⟩
    rintro _ ⟨⟩
    exact ⟨(List.append_nil handed).symm ▸ h.closes.1, fun hlt => absurd hlt (Int.lt_irrefl 0)⟩

/-- A client that has failed makes no call, and hands nothing out. -/
theorem safe_of_failed (api : RngApi) (hfailed : c.failed = true) :
    Prog.Safe (rngWorld ch) (fun _ => True) (fun o _ => ∀ r, o = some r → r.2.1 = [] ∧ r.2.2.failed = true)
      (api.exec c) w := by
  cases api with
  | step now =>
    simp only [RngApi.exec, rngClientStep, hfailed, if_true]
    refine ⟨trivial, ?_⟩
    rintro _ ⟨⟩
    exact ⟨rfl, hfailed⟩
  | random passes n =>
    simp only [RngApi.exec, rngClientRandom, hfailed, true_or, if_true]
    refine ⟨trivial, ?_⟩
    rintro _ ⟨⟩
    exact ⟨rfl, hfailed⟩
  | attach fd =>
    simp only [RngApi.exec, rngClientAttach, hfailed, true_or, if_true]
    refine ⟨trivial, ?_⟩
    rintro _ ⟨⟩
    exact ⟨rfl, hfailed⟩
  | close =>
    refine ⟨trivial, ?_⟩
    rintro _ ⟨⟩
    exact ⟨rfl, rfl⟩

end

/-! ## Runs -/

def RngState.Sound (ch : Nat) (s : RngState) : Prop := ChannelSound ch s.client s.handed s.world

theorem brokerSound_start {epoch : Nat} (hepoch : epoch < 2 ^ 32) (rotated interval : BitVec 32) :
    BrokerSound (rngWorldStart (rngBrokerStart epoch rotated interval)) where
  apart := Nat.zero_ne_one
  begun i := by rcases first_or_second i with rfl | rfl <;> simp [rngWorldStart, rngBrokerStart]
  attached _ he := by cases he
  answered _ ha := by cases ha
  sequence _ := ⟨Nat.two_pow_pos 32, fun _ ha => by cases ha⟩
  once := List.nodup_nil
  epoch := hepoch

theorem facing_zero {w : RngWorld} {ch : Nat} {p : RngChannel} (hzero : ∀ i, w.broker.c i = zeroChannel)
    (h : w.facing ch = some p) : p = zeroChannel := by
  unfold RngWorld.facing at h
  split at h
  · cases h
  split at h
  · exact (Option.some.inj h).symm.trans (hzero 0)
  split at h
  · exact (Option.some.inj h).symm.trans (hzero 1)
  · split at h
    · exact (Option.some.inj h).symm
    · cases h

theorem sound_start (ch : Nat) (fd : Int) (sync blocking : Bool) {epoch : Nat} (hepoch : epoch < 2 ^ 32)
    (rotated interval : BitVec 32) : RngState.Sound ch
      ⟨rngClientSet fd sync blocking, rngWorldStart (rngBrokerStart epoch rotated interval), []⟩ := by
  refine ⟨brokerSound_start hepoch rotated interval, ?_⟩
  have hmatching : Matching [] := ⟨by simp, by simp⟩
  have hside : ∀ p, ((rngWorldStart (rngBrokerStart epoch rotated interval)).link ch).side = some p →
      p = ⟨[], [], 0, 0⟩ := by
    intro p hp
    obtain ⟨q, hq, rfl⟩ := Option.map_eq_some_iff.mp hp
    obtain rfl : q = zeroChannel := facing_zero (fun _ => rfl) hq
    rfl
  have hworking : Working
      { fd := fd, sync := sync, failed := false, sequence := 0, epoch := 0, sent := 0, total := 0, since := 0,
        tx := [], rx := [], pool := [], taken := [] }
      ((rngWorldStart (rngBrokerStart epoch rotated interval)).link ch) [] :=
    ⟨Nat.zero_le _, by simp, rfl, .idle rfl rfl rfl rfl fun p hp => ⟨hside p hp, rfl⟩⟩
  have hclient := ClientSound.of_working hworking rfl hmatching (Nat.zero_le _)
  unfold rngClientSet
  simp only []
  split
  · exact hclient.close
  · exact hclient

theorem RngCalls.sound {ch : Nat} {s s' : RngState} {api : RngApi} {result : Int}
    (h : RngCalls ch s api result s') (hs : s.Sound ch) :
    s'.Sound ch ∧ ∃ out, s'.handed = s.handed ++ out ∧
      (result < 0 → FailsWith s.client (result, out, s'.client) api) := by
  obtain ⟨out, hhanded, hrun⟩ := h
  obtain ⟨hsound, hfails⟩ := ((safe_exec api hs).runs hrun).2 _ rfl _ rfl
  refine ⟨?_, out, hhanded, hfails⟩
  rw [RngState.Sound, hhanded]
  exact hsound

theorem RngCalled.broker {ch : Nat} {op : RngOp} {r : op.Result} {w w' : RngWorld} (h : RngCalled ch op w r w') :
    w'.broker = w.broker ∧ w'.begun = w.begun := by
  cases h <;> exact ⟨rfl, rfl⟩

/-- The client's end leaves the broker sound, and what it has taken is still what was answered. -/
theorem ChannelSound.closes_of_runs {ch : Nat} {α : Type} {p : RngProg α} {o : Option α} {w w' : RngWorld}
    {c : RngClient} {handed : List UInt8} (hrun : Prog.Runs (rngWorld ch) p w o w')
    (h : ChannelSound ch (rngClientClose c) handed w) : ChannelSound ch (rngClientClose c) handed w' := by
  induction hrun with
  | done | cut => exact h
  | @call op next s s' t r o hstep _ ih =>
    obtain ⟨w₁, hothers, hcall⟩ := hstep
    obtain ⟨hbroker, hbegun⟩ := hcall.broker
    have hw₁ := h.others hothers
    refine ih ⟨hw₁.broker.congr hbroker fun e he => hbegun ▸ he, ?_⟩
    have hframes : (s'.link ch).frames = (w₁.link ch).frames :=
      congrArg (fun b : RngBroker => framesOf ch b.answers) hbroker
    exact ⟨hframes ▸ hw₁.client.taken, hw₁.client.matching, hw₁.client.count, hw₁.client.given, fun _ => rfl,
      fun hopen => absurd hopen (by simp [rngClientClose])⟩

theorem RngMove.sound {ch : Nat} {s s' : RngState} (h : RngMove ch s s') (hs : s.Sound ch) : s'.Sound ch := by
  cases h with
  | others hother => exact hs.others (.single hother)
  | call hcall => exact (hcall.sound hs).1
  | cut hrun => exact hs.closes.1.closes_of_runs hrun

theorem RngRun.sound {ch : Nat} {s : RngState} (h : RngRun ch s) : s.Sound ch := by
  induction h with
  | start fd sync blocking hepoch rotated interval =>
    exact sound_start ch fd sync blocking hepoch rotated interval
  | move _ hmove ih => exact hmove.sound ih

theorem RngMove.failed {ch : Nat} {s s' : RngState} (h : RngMove ch s s') (hfailed : s.client.failed = true) :
    s'.handed = s.handed ∧ s'.client.failed = true := by
  cases h with
  | others _ => exact ⟨rfl, hfailed⟩
  | @call _ api result hcall =>
    obtain ⟨out, hhanded, hrun⟩ := hcall
    obtain ⟨hnothing, hstill⟩ := ((safe_of_failed api hfailed).runs hrun).2 _ rfl _ rfl
    obtain rfl : out = [] := hnothing
    exact ⟨hhanded.trans (List.append_nil _), hstill⟩
  | cut _ => exact ⟨rfl, rfl⟩

theorem handed_of_failed {ch : Nat} {s s' : RngState} (hfailed : s.client.failed = true)
    (h : Relation.ReflTransGen (RngMove ch) s s') : s'.handed = s.handed ∧ s'.client.failed = true := by
  induction h with
  | refl => exact ⟨rfl, hfailed⟩
  | tail _ hmove ih =>
    obtain ⟨hhanded, hstill⟩ := hmove.failed ih.2
    exact ⟨hhanded.trans ih.1, hstill⟩

theorem handedOnce_of_sound {ch : Nat} {s : RngState} (h : s.Sound ch) : HandedOnce ch s where
  handed := by
    obtain ⟨rest, hrest⟩ := h.client.taken
    refine h.client.given.trans ⟨rest.flatMap RngFrame.payload, ?_⟩
    rw [RngClient.payloads, ← List.flatMap_append, hrest]
    rfl
  once := h.broker.once
  taken := h.client.taken
  matching := h.client.matching
  count := h.client.count

theorem failsForGood_of_sound {ch : Nat} {s : RngState} (h : s.Sound ch) : FailsForGood ch s where
  step now result s' hcall hlt := by
    obtain ⟨-, out, -, hfails⟩ := hcall.sound h
    exact hfails hlt
  random passes n result s' hcall hlt := by
    obtain ⟨-, out, hhanded, hfails⟩ := hcall.sound h
    obtain rfl : out = [] := hfails hlt
    exact hhanded.trans (List.append_nil _)
  attach fd result s' hcall hlt := by
    obtain ⟨-, out, -, hfails⟩ := hcall.sound h
    exact hfails hlt
  close result s' hcall := by
    obtain ⟨out, -, hrun⟩ := hcall
    have hsafe : Prog.Safe (rngWorld ch) (fun _ => True) (fun o _ => ∀ r, o = some r → r.2.2.failed = true)
        (RngApi.exec s.client .close) s.world := by
      refine ⟨trivial, ?_⟩
      rintro _ ⟨⟩
      rfl
    exact (hsafe.runs hrun).2 _ rfl _ rfl
  last hfailed s' hmoves := (handed_of_failed hfailed hmoves).1

def firstClient : RngClient := rngClientSet 5 true false

def firstWorld : RngWorld := rngWorldStart (rngBrokerStart 1 0 60)

def oneByte : RngFrame := ⟨1, 1, [7]⟩

def answering : BrokerIo where
  now := 0
  sent := .done 17
  received := .done (rngHeader rngMagic 1 1 0)
  truncated := false
  passed := []
  usable := false
  production := false
  checkedAt := 0
  checkedAgainAt := 0
  rotates := false
  rotatedAt := 0
  stopping := false
  random n := some ⟨List.replicate n 7, List.length_replicate⟩

/-- The client has sent its request. -/
def askedWorld : RngWorld :=
  { firstWorld with up := Function.update firstWorld.up 1 (rngHeader rngMagic 1 1 0) }

/-- The broker has received it. -/
def answeredWorld : RngWorld :=
  RngWorld.settle { askedWorld with up := Function.update askedWorld.up 1 [], begun := [0, 1] }
    (brokerChannel answering 1 askedWorld.broker)

/-- The broker has sent the answer. -/
def sentWorld : RngWorld :=
  RngWorld.settle { answeredWorld with down := Function.update answeredWorld.down 1 oneByte.wire }
    (brokerChannel answering 1 answeredWorld.broker)

def servedWorld : RngWorld := { sentWorld with down := Function.update sentWorld.down 1 [] }

def servedClient : RngClient :=
  { firstClient with sequence := 1, epoch := 1, taken := [⟨1, 1, oneByte⟩] }

theorem others_answer : Relation.ReflTransGen (OtherStep 1) askedWorld sentWorld := by
  have hreceives : BrokerStep askedWorld answeredWorld :=
    @BrokerStep.receives askedWorld 1 answering (rngHeader rngMagic 1 1 0) [] rfl rfl rfl (by decide) (by decide)
      (by simp [answering])
  have hsends : BrokerStep answeredWorld sentWorld :=
    @BrokerStep.sends answeredWorld 1 answering 17 (by decide) (by decide) rfl (by decide)
  exact .tail (.single (.broker hreceives)) (.broker hsends)

theorem calls_refused :
    RngCalls 1 ⟨firstClient, firstWorld, []⟩ (.random 1 0) (-1) ⟨firstClient, firstWorld, []⟩ :=
  ⟨[], rfl, .done _ _⟩

theorem calls_served :
    RngCalls 1 ⟨firstClient, firstWorld, []⟩ (.random 1 1) 0 ⟨servedClient, servedWorld, [7]⟩ := by
  refine ⟨[7], rfl, ?_⟩
  refine Prog.Runs.call (⟨_, .refl, .now 0⟩ : rngWorld 1 .now _ _ _) ?_
  refine Prog.Runs.call (⟨_, .refl, .now 0⟩ : rngWorld 1 .now _ _ _) ?_
  refine Prog.Runs.call (⟨_, .refl, RngCalled.sent (n := 16) (by decide)⟩ : rngWorld 1 (.send _ _) _ _ _) ?_
  refine Prog.Runs.call
    (⟨sentWorld, others_answer, RngCalled.received (by decide) (by decide)⟩ :
      rngWorld 1 (.recv _) _ (.done oneByte.wire) servedWorld) ?_
  exact .done _ _

theorem run_first : RngRun 1 ⟨firstClient, firstWorld, []⟩ := .start 5 true false (by decide) 0 60

end FourVrs.Web
