import FourVrs.Lib.Buckets
import FourVrs.Web.SecurityWorld

/-!
# Guessing

What somebody who guesses can make of the operations: how often a submitted code is compared
with the code that was issued, how old that code is when it is taken, and how many workers
derive a hash from a submitted password. `Guesses` keeps that, with the times; of the worker
it is enough to know whether there is one.

Ticks wrap, and `web_security_poll` and `web_security_local` leave an expired code alone, so
a code that nothing else looks at for 2^32 ticks is young again. The operations that do look
at its age (`SecurityOp.looks`) follow within 2^31 of each other and of its issue; a run that
lasts less than 2^31 is of this kind.
-/

set_option autoImplicit false

namespace FourVrs.Web

open FourVrs.Core Lib

/-! ## The world -/

structure GuessWorld where
  /-- Workers that were started and neither killed nor waited for. -/
  alive : Nat := 0
  /-- Workers that were started to derive a hash, in all. -/
  derived : Nat := 0
  deriving DecidableEq, Repr

def WorkerJob.derives : WorkerJob → Nat
  | .derive _ => 1
  | .commit _ _ => 0

inductive GuessWorld.Call (w : GuessWorld) : (call : SecurityCall) → call.Result → GuessWorld → Prop where
  | read (stored : Stored) : Call w .readRecord stored w
  | random (n : Nat) (filled : Bool) (bytes : List UInt8) (hlen : bytes.length = n) :
      Call w (.random n) (filled, bytes) w
  | refused (job : WorkerJob) : Call w (.spawn job) .refused w
  | started (job : WorkerJob) (sent : Bool) :
      Call w (.spawn job) (.started sent) { alive := w.alive + 1, derived := w.derived + job.derives }
  | killed : Call w .kill () { w with alive := w.alive - 1 }
  | running : Call w .waitpid none w
  | ended (how : WorkerEnd) : Call w .waitpid (some how) { w with alive := w.alive - 1 }
  | reply (bytes : List UInt8) : Call w .readReply bytes w

def guessWorld : Prog.World SecurityCall SecurityCall.Result GuessWorld :=
  fun call w r w' => w.Call call r w'

/-- Never more than one worker under control, wherever the program is. -/
abbrev GuessSafe {α : Type} (post : α → GuessWorld → Prop) (p : SecurityProg α) (w : GuessWorld) : Prop :=
  Prog.Safe guessWorld (fun w => w.alive ≤ 1) post p w

/-! ## The events -/

inductive GuessEvent where
  /-- A code is issued, for an enrolment or a recovery. -/
  | issued
  /-- A submitted code is compared with it. -/
  | compared (equal : Bool)
  /-- The enrolment or the recovery has succeeded. -/
  | effective
  /-- A worker is started to derive a hash, for a login or a change. -/
  | launched
  deriving DecidableEq, Repr

/-- The latest last, each with its time. -/
abbrev Guesses := List (GuessEvent × Nat)

def issuedAt (events : Guesses) : Option Nat :=
  events.foldl (fun last event => if event.1 = .issued then some event.2 else last) none

/-- The comparisons since the last code was issued. -/
def comparedSince (events : Guesses) : Nat :=
  events.foldl (fun n event => match event.1 with
    | .issued => 0
    | .compared _ => n + 1
    | .effective | .launched => n) 0

def launchTimes (events : Guesses) : List Nat :=
  events.filterMap fun event => if event.1 = .launched then some event.2 else none

def workerStopped (s : WebSecurity) : WebSecurity := { abandonCommit s with worker := false }

/-- What `web_security_tick` leaves. -/
def ticked (s : WebSecurity) (now : CoreTick) : WebSecurity :=
  expireSession (if s.code ≠ [] ∧ codeExpired s now then
    { workerStopped s with code := [], recovery := false } else s) now

/-- `web_security_begin` comes to the comparison. -/
def comparesCode (s : WebSecurity) (password : Text) : Bool :=
  !s.worker && decide (12 ≤ password.length ∧ password.length ≤ 128) && decide (s.code ≠ []) &&
    decide (s.attempts < 5) && (s.recovery || !s.administrator)

def SecurityOp.looks : SecurityOp → Bool
  | .begin _ _ _ | .change _ _ _ | .tick | .authorized _ _ _ => true
  | .poll | .local _ | .cancel | .cancelPending => false

def codeIssued (s s' : WebSecurity) : Bool := decide (s.code = [] ∧ s'.code ≠ [])

/-- What an operation that returned `r` adds, with the workers it has started. -/
def SecurityOp.guesses (s : WebSecurity) (now : CoreTick) (r : Int) (s' : WebSecurity) (started : Nat) :
    SecurityOp → List GuessEvent
  | .begin true code password =>
      if comparesCode (ticked s now) password then
        [.compared (decide (code.length = 12 ∧ code = (ticked s now).code))]
      else []
  | .begin false _ _ | .change _ _ _ => List.replicate started .launched
  | .local _ => if codeIssued s s' then [.issued] else []
  | .poll => if r = 200 ∧ s.workerEnroll = .enroll then [.effective] else []
  | .tick | .cancel | .cancelPending | .authorized _ _ _ => []

/-! ## The runs -/

/-- From `init`. `looked` is when the age of the code was looked at last. -/
inductive GuessRun : (now looked : Nat) → WebSecurity → GuessWorld → Guesses → Prop where
  | init {r : Int} {s : WebSecurity} {w : GuessWorld} (path : Text) (now : Nat)
      (h : Prog.Runs guessWorld (webSecurityInit path) {} (some (r, s)) w) : GuessRun now now s w []
  | op {now looked : Nat} {s s' : WebSecurity} {w w' : GuessWorld} {events : Guesses} {r : Int}
      (op : SecurityOp) (next : Nat) (hrun : GuessRun now looked s w events) (hnow : now ≤ next)
      (hlooked : next < looked + 2 ^ 31)
      (h : Prog.Runs guessWorld (op.run s (tick next)) w (some (r, s')) w') :
      GuessRun next (if op.looks || codeIssued s s' then next else looked) s' w'
        (events ++ (op.guesses s (tick next) r s' (w'.derived - w.derived)).map (·, next))

/-- What is to hold of a run. -/
structure GuessingBounded (s : WebSecurity) (w : GuessWorld) (events : Guesses) : Prop where
  /-- No code is compared with a sixth submitted one. -/
  compared : Each (fun past event => ∀ equal, event.1 = .compared equal → comparedSince past < 5) events
  /-- It is taken, and takes effect, only before it is three minutes old. -/
  accepted : Each (fun past event => event.1 = .compared true ∨ event.1 = .effective →
    ∃ at', issuedAt past = some at' ∧ event.2 < at' + webCodeMs.toNat) events
  launched : ∀ first, (launchTimes events).countP (fun t => decide (first ≤ t ∧ t ≤ first + 60000)) ≤ 10
  controlled : ∀ (op : SecurityOp) (now : CoreTick) w', Prog.Runs guessWorld (op.run s now) w none w' → w'.alive ≤ 1

end FourVrs.Web
