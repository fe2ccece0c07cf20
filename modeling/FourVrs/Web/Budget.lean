import Mathlib.Algebra.Order.Ring.Int
import Mathlib.Data.List.Chain
import FourVrs.Core.Deadline

/-!
# CPU pacing of the web process (`web/web_budget.h`)

The process earns half a millisecond of CPU time with every millisecond that goes by, saves
up to a burst of it, and pays for what it has spent when it asks how long to wait. The
counters have 32 bits and wrap; the credit has 64.

`Books` bounds the credit by what was earned and spent so far; the pacing follows from it while no
counter goes once around between two calls.
-/

set_option autoImplicit false

namespace FourVrs.Web

def webCpuPercent : Nat := 50
def webCpuBurstUs : Int := 20000

structure WebBudget where
  wall : BitVec 32 := 0
  cpu : BitVec 32 := 0
  peakDebitUs : BitVec 32 := 0
  credit : Int := 0
  initialized : Bool := false

/-- What an `int64_t` keeps. -/
def int64 (x : Int) : Int := x.bmod (2 ^ 64)

/-- How long it takes to earn what is owed, a second at most. -/
def repayMs (credit : Int) : Nat :=
  let ms := (-credit).toNat * 100 % 2 ^ 64 / (webCpuPercent * 1000) + 1
  if ms > 1000 then 1000 else ms

def webBudgetDelay (b : WebBudget) (wall cpu : BitVec 32) : Nat × WebBudget :=
  let elapsed := wall - b.wall
  let spent := cpu - b.cpu
  if !b.initialized then (0, { b with initialized := true, wall, cpu, credit := webCpuBurstUs })
  else
    let peakDebitUs := if spent > b.peakDebitUs then spent else b.peakDebitUs
    let earned := int64 (b.credit + (elapsed.toNat * 1000 * webCpuPercent / 100 : Nat))
    let saved := if earned > webCpuBurstUs then webCpuBurstUs else earned
    let credit := int64 (saved - spent.toNat)
    (if credit < 0 then repayMs credit else 0, { b with wall, cpu, peakDebitUs, credit })

/-! ## Runs -/

/-- How far the counters advance until a call. -/
structure WebCall where
  wall : BitVec 32
  cpu : BitVec 32
  deriving DecidableEq

def webBudgetCall (b : WebBudget) (c : WebCall) : Nat × WebBudget :=
  webBudgetDelay b (b.wall + c.wall) (b.cpu + c.cpu)

/-- A call, and the delay and the credit it leaves. -/
structure WebPaid where
  call : WebCall
  delay : Nat
  credit : Int

def webPaid (c : WebCall) (r : Nat × WebBudget) : WebPaid := { call := c, delay := r.1, credit := r.2.credit }

/-- The calls so far, the first with any counters. -/
inductive PacedRun : List WebPaid → WebBudget → Prop where
  | first {b : WebBudget} (h : b.initialized = false) (wall cpu : BitVec 32) :
      PacedRun [webPaid ⟨0, 0⟩ (webBudgetDelay b wall cpu)] (webBudgetDelay b wall cpu).2
  | next {paid : List WebPaid} {b : WebBudget} (hrun : PacedRun paid b) (c : WebCall) :
      PacedRun (paid ++ [webPaid c (webBudgetCall b c)]) (webBudgetCall b c).2

def spentUs (paid : List WebPaid) : Nat := (paid.map fun p => p.call.cpu.toNat).sum

def wallMs (paid : List WebPaid) : Nat := (paid.map fun p => p.call.wall.toNat).sum

/-- Half of the wall time, in microseconds. -/
def earnedUs (paid : List WebPaid) : Nat := wallMs paid * 1000 * webCpuPercent / 100

/-- No CPU time is spent while a delay is pending: it is over when it has gone by, or when a
    call says so if it is the longest one. -/
def Idles (paid : List WebPaid) : Prop :=
  paid.IsChain fun p q =>
    p.delay ≠ 0 → q.call.cpu = 0 ∨ p.delay < 1000 ∧ p.delay ≤ q.call.wall.toNat

/-- The last debit that is one. -/
def lastDebit (paid : List WebPaid) : Nat :=
  paid.foldl (fun debit p => if p.call.cpu = 0 then debit else p.call.cpu.toNat) 0

structure Pacing (paid : List WebPaid) (b : WebBudget) : Prop where
  burst : b.credit ≤ webCpuBurstUs
  bounded : (spentUs paid : Int) ≤ webCpuBurstUs + earnedUs paid - b.credit
  idle : Idles paid → (spentUs paid : Int) ≤ webCpuBurstUs + earnedUs paid + lastDebit paid
  zero : ∀ p, paid.getLast? = some p → (p.delay = 0 ↔ 0 ≤ b.credit)

/-- A delay that is waited for is the only one. -/
def Repays (paid : List WebPaid) (b : WebBudget) : Prop :=
  ∀ p, paid.getLast? = some p → 0 < p.delay → p.delay < 1000 →
    ∀ c : WebCall, p.delay ≤ c.wall.toNat → c.cpu = 0 → (webBudgetCall b c).1 = 0

/-- The largest debt of which 64 bits hold a hundred times. -/
def webDebtMax : Int := 184467440737095516

/-! ## One call -/

theorem int64_of_range {x : Int} (hlow : -2 ^ 63 ≤ x) (hhigh : x < 2 ^ 63) : int64 x = x := by
  unfold int64
  apply Int.bmod_eq_of_le <;> omega

/-- The credit after a call, as 64 bits keep it. -/
def keptCredit (credit : Int) (c : WebCall) : Int :=
  int64 (min webCpuBurstUs (int64 (credit + c.wall.toNat * 500)) - c.cpu.toNat)

variable {b : WebBudget}

theorem webBudgetCall_of_initialized (c : WebCall) (hinit : b.initialized = true) :
    (webBudgetCall b c).2.initialized = true ∧
      (webBudgetCall b c).2.credit = keptCredit b.credit c ∧
      (webBudgetCall b c).1 =
        if keptCredit b.credit c < 0 then repayMs (keptCredit b.credit c) else 0 := by
  have hwall : b.wall + c.wall - b.wall = c.wall := by
    rw [BitVec.add_comm, BitVec.add_sub_cancel]
  have hcpu : b.cpu + c.cpu - b.cpu = c.cpu := by
    rw [BitVec.add_comm, BitVec.add_sub_cancel]
  have hearned : ((c.wall.toNat * 1000 * webCpuPercent / 100 : Nat) : Int) =
      c.wall.toNat * 500 := by
    simp only [webCpuPercent]
    omega
  have hsaved (x : Int) : (if x > webCpuBurstUs then webCpuBurstUs else x) =
      min webCpuBurstUs x := by
    simp only [webCpuBurstUs]
    omega
  simp only [webBudgetCall, webBudgetDelay, hinit, hwall, hcpu, hearned, hsaved, keptCredit,
    Bool.not_true, Bool.false_eq_true, if_false, true_and]
  congr

/-- The credit a call leaves while it fits. -/
def paidCredit (credit : Int) (c : WebCall) : Int :=
  min webCpuBurstUs (credit + c.wall.toNat * 500) - c.cpu.toNat

theorem keptCredit_eq {credit : Int} {c : WebCall} (hburst : credit ≤ webCpuBurstUs)
    (hlow : -2 ^ 63 + (c.cpu.toNat : Int) ≤ credit) : keptCredit credit c = paidCredit credit c := by
  have hw := c.wall.isLt
  simp only [webCpuBurstUs] at hburst
  have hearned : int64 (credit + c.wall.toNat * 500) = credit + c.wall.toNat * 500 := by
    apply int64_of_range <;> omega
  rw [keptCredit, hearned, paidCredit, int64_of_range] <;> simp only [webCpuBurstUs] <;> omega

/-- What a call does while the credit fits. -/
theorem webBudgetCall_eq {c : WebCall} (hinit : b.initialized = true) (hburst : b.credit ≤ webCpuBurstUs)
    (hlow : -2 ^ 63 + (c.cpu.toNat : Int) ≤ b.credit) :
    (webBudgetCall b c).2.initialized = true ∧
      (webBudgetCall b c).2.credit = paidCredit b.credit c ∧
      (webBudgetCall b c).1 =
        if paidCredit b.credit c < 0 then repayMs (paidCredit b.credit c) else 0 := by
  have hcall := webBudgetCall_of_initialized c hinit
  rwa [keptCredit_eq hburst hlow] at hcall

theorem repayMs_pos (credit : Int) : 0 < repayMs credit := by
  unfold repayMs
  dsimp only
  split
  · simp
  · exact Nat.succ_pos _

/-- A delay under the longest one earns what is owed. -/
theorem repayMs_earns {credit : Int} {d : Nat} (hdebt : -webDebtMax ≤ credit)
    (hd : repayMs credit = d) (hcap : d < 1000) : 0 ≤ credit + d * 500 := by
  have hfits : (-credit).toNat * 100 % 2 ^ 64 = (-credit).toNat * 100 := by
    apply Nat.mod_eq_of_lt
    simp only [webDebtMax] at hdebt
    omega
  simp only [repayMs, hfits, webCpuPercent] at hd
  split at hd <;> omega

/-! ## The books of a run -/

theorem spentUs_append (paid : List WebPaid) (p : WebPaid) :
    spentUs (paid ++ [p]) = spentUs paid + p.call.cpu.toNat := by
  simp [spentUs]

theorem earnedUs_append (paid : List WebPaid) (p : WebPaid) :
    earnedUs (paid ++ [p]) = earnedUs paid + p.call.wall.toNat * 500 := by
  simp only [earnedUs, wallMs, webCpuPercent, List.map_append, List.sum_append, List.map_cons,
    List.map_nil, List.sum_cons, List.sum_nil]
  omega

theorem lastDebit_append (paid : List WebPaid) (p : WebPaid) :
    lastDebit (paid ++ [p]) = if p.call.cpu = 0 then lastDebit paid else p.call.cpu.toNat := by
  simp [lastDebit]

variable {paid : List WebPaid}

/-- What an idle process has done before its last call, and with it. -/
theorem idles_append {p q : WebPaid} (hlast : paid.getLast? = some p) (h : Idles (paid ++ [q])) :
    Idles paid ∧
      (p.delay ≠ 0 → q.call.cpu = 0 ∨ p.delay < 1000 ∧ p.delay ≤ q.call.wall.toNat) := by
  rw [Idles, List.isChain_append] at h
  exact ⟨h.1, h.2.2 p hlast q rfl⟩

/-- The books of the calls so far. -/
structure Books (paid : List WebPaid) (b : WebBudget) : Prop where
  initialized : b.initialized = true
  burst : b.credit ≤ webCpuBurstUs
  low : webCpuBurstUs - spentUs paid ≤ b.credit
  bounded : (spentUs paid : Int) ≤ webCpuBurstUs + earnedUs paid - b.credit
  last : ∃ p, paid.getLast? = some p ∧
    p.delay = if b.credit < 0 then repayMs b.credit else 0
  idle : Idles paid → -(lastDebit paid : Int) ≤ b.credit
  debit : lastDebit paid < 2 ^ 32

theorem books_first (h : b.initialized = false) (wall cpu : BitVec 32) :
    Books [webPaid ⟨0, 0⟩ (webBudgetDelay b wall cpu)] (webBudgetDelay b wall cpu).2 := by
  simp only [webBudgetDelay, h, webPaid, Bool.not_false, if_true]
  constructor <;> simp [spentUs, earnedUs, wallMs, lastDebit, webCpuBurstUs]

/-- A call keeps the books, as long as what is spent fits. -/
theorem Books.call (hb : Books paid b) (c : WebCall)
    (hfits : spentUs (paid ++ [webPaid c (webBudgetCall b c)]) ≤ 2 ^ 63) :
    Books (paid ++ [webPaid c (webBudgetCall b c)]) (webBudgetCall b c).2 := by
  have hspent : spentUs (paid ++ [webPaid c (webBudgetCall b c)]) =
      spentUs paid + c.cpu.toNat := spentUs_append paid _
  have hearned : earnedUs (paid ++ [webPaid c (webBudgetCall b c)]) =
      earnedUs paid + c.wall.toNat * 500 := earnedUs_append paid _
  have hdebit : lastDebit (paid ++ [webPaid c (webBudgetCall b c)]) =
      if c.cpu = 0 then lastDebit paid else c.cpu.toNat := lastDebit_append paid _
  have hlow := hb.low
  have hburst := hb.burst
  have hbounded := hb.bounded
  have hsmall := hb.debit
  have hc := c.cpu.isLt
  rw [hspent] at hfits
  simp only [webCpuBurstUs] at hlow hburst hbounded
  obtain ⟨hinit, hcredit, hdelay⟩ :=
    webBudgetCall_eq hb.initialized (c := c) (by simpa [webCpuBurstUs] using hburst) (by omega)
  have hpaid : paidCredit b.credit c = min 20000 (b.credit + c.wall.toNat * 500) - c.cpu.toNat :=
    rfl
  refine ⟨hinit, ?_, ?_, ?_, ?_, ?_, ?_⟩
  · simp only [hcredit, hpaid, webCpuBurstUs]
    omega
  · simp only [hcredit, hpaid, hspent, webCpuBurstUs]
    omega
  · simp only [hcredit, hpaid, hspent, hearned, webCpuBurstUs]
    omega
  · refine ⟨webPaid c (webBudgetCall b c), by simp, ?_⟩
    simp only [webPaid, hdelay, hcredit]
  · intro hidle
    obtain ⟨p, hlast, hp⟩ := hb.last
    obtain ⟨hbefore, hnow⟩ := idles_append hlast hidle
    have hold := hb.idle hbefore
    simp only [hcredit, hpaid, hdebit]
    by_cases hzero : c.cpu = 0
    · -- nothing is spent, and the credit does not fall
      have hn : c.cpu.toNat = 0 := by simp [hzero]
      rw [if_pos hzero]
      omega
    · -- what is spent is spent from a credit
      have hcover : 0 ≤ b.credit + c.wall.toNat * 500 := by
        by_cases hneg : b.credit < 0
        · rw [if_pos hneg] at hp
          have hpos := repayMs_pos b.credit
          obtain hno | ⟨hcap, hwait⟩ := hnow (by omega)
          · exact absurd hno hzero
          · have hearns := repayMs_earns (by simp only [webDebtMax]; omega) hp.symm hcap
            simp only [webPaid] at hwait
            omega
        · omega
      rw [if_neg hzero]
      omega
  · rw [hdebit]
    split
    · exact hsmall
    · exact hc

theorem books_of_pacedRun (hrun : PacedRun paid b) (hfits : spentUs paid ≤ 2 ^ 63) : Books paid b := by
  induction hrun with
  | first h wall cpu => exact books_first h wall cpu
  | next hrun c ih =>
    apply (ih ?_).call c hfits
    rw [spentUs_append] at hfits
    omega

theorem Books.pacing (hb : Books paid b) :
    Pacing paid b where
  burst := hb.burst
  bounded := hb.bounded
  idle hidle := by
    have hbounded := hb.bounded
    have hlow := hb.idle hidle
    omega
  zero p hp := by
    obtain ⟨q, hlast, hq⟩ := hb.last
    cases Option.some.inj (hp.symm.trans hlast)
    have hpos := repayMs_pos b.credit
    rw [hq]
    split <;> omega

theorem Books.repays (hb : Books paid b) (hdebt : -webDebtMax ≤ b.credit) : Repays paid b := by
  intro p hp hpos hcap c hwait hcpu
  obtain ⟨q, hlast, hq⟩ := hb.last
  cases Option.some.inj (hp.symm.trans hlast)
  have hneg : b.credit < 0 := by
    by_contra hno
    rw [if_neg hno] at hq
    omega
  rw [if_pos hneg] at hq
  have hearns := repayMs_earns hdebt hq.symm hcap
  have hn : c.cpu.toNat = 0 := by simp [hcpu]
  obtain ⟨-, -, hdelay⟩ := webBudgetCall_eq hb.initialized (c := c) hb.burst
    (by simp only [webDebtMax] at hdebt; omega)
  rw [hdelay, if_neg]
  simp only [paidCredit, webCpuBurstUs]
  omega

/-- The process keeps to its budget for as long as the CPU time it has spent fits in 63 bits,
    and a debt that a hundred times fits in 64 is paid in one delay. -/
theorem pacing_of_pacedRun {paid : List WebPaid} {b : WebBudget} (hrun : PacedRun paid b)
    (hfits : spentUs paid ≤ 2 ^ 63) :
    Pacing paid b ∧ (-webDebtMax ≤ b.credit → Repays paid b) :=
  have hb := books_of_pacedRun hrun hfits
  ⟨hb.pacing, hb.repays⟩

theorem pacing_of_pacedRun_overshoot :
    let start := (webBudgetDelay {} 100 0).2
    let c : WebCall := ⟨0, 50000⟩
    let paid := [webPaid ⟨0, 0⟩ (webBudgetDelay {} 100 0), webPaid c (webBudgetCall start c)]
    spentUs paid = 50000 ∧ Pacing paid (webBudgetCall start c).2 ∧
      (-webDebtMax ≤ (webBudgetCall start c).2.credit → Repays paid (webBudgetCall start c).2) :=
  ⟨by decide, pacing_of_pacedRun (.next (.first rfl 100 0) ⟨0, 50000⟩) (by decide)⟩

/-! ## Past the range of the counters -/

/-- The most a call may have spent. -/
def spendAll : WebCall := ⟨0, 0xFFFFFFFF⟩

/-- The process that spends all the time there is. -/
theorem spendAll_run (n : Nat) (hn : n ≤ 2 ^ 31) :
    ∃ paid b, PacedRun paid b ∧ b.initialized = true ∧
      b.credit = webCpuBurstUs - n * (2 ^ 32 - 1) := by
  induction n with
  | zero => exact ⟨_, _, .first (b := {}) rfl 0 0, rfl, by simp [webBudgetDelay]⟩
  | succ n ih =>
    obtain ⟨paid, b, hrun, hinit, hcredit⟩ := ih (by omega)
    have hcpu : spendAll.cpu.toNat = 2 ^ 32 - 1 := rfl
    have hwall : spendAll.wall.toNat = 0 := rfl
    simp only [webCpuBurstUs] at hcredit
    obtain ⟨hinit', hcredit', -⟩ := webBudgetCall_eq hinit (c := spendAll)
      (by simp only [webCpuBurstUs]; omega) (by omega)
    refine ⟨_, _, .next hrun spendAll, hinit', ?_⟩
    rw [hcredit', paidCredit, hcpu, hwall]
    simp only [webCpuBurstUs]
    omega

/-- A debt that does not fit comes back as a credit, and one that a hundred times does not fit
    as a delay of a millisecond. -/
theorem not_pacing_of_pacedRun :
    (¬ ∀ paid b, PacedRun paid b → Pacing paid b) ∧
      ¬ ∀ paid b, PacedRun paid b → Repays paid b := by
  constructor
  · intro h
    obtain ⟨paid, b, hrun, hinit, hcredit⟩ := spendAll_run (2 ^ 31) (le_refl _)
    have hburst := (h _ _ (.next hrun spendAll)).burst
    have hwrap := (webBudgetCall_of_initialized spendAll hinit).2.1
    rw [hwrap, hcredit] at hburst
    exact absurd hburst (by decide)
  · intro h
    obtain ⟨paid, b, hrun, hinit, hcredit⟩ := spendAll_run 42949672 (by decide)
    -- what is left to spend until the debt is one more than `webDebtMax`
    have hlast := webBudgetCall_of_initialized ⟨0, 4166138277⟩ hinit
    rw [hcredit] at hlast
    have hrepays := h _ _ (.next hrun ⟨0, 4166138277⟩) _ List.getLast?_concat
      (by simp only [webPaid, hlast.2.2]; decide) (by simp only [webPaid, hlast.2.2]; decide)
      ⟨1, 0⟩ (by simp only [webPaid, hlast.2.2]; decide) rfl
    have hnext := (webBudgetCall_of_initialized ⟨1, 0⟩ hlast.1).2.2
    rw [hlast.2.1, hrepays] at hnext
    exact absurd hnext (by decide)

end FourVrs.Web
