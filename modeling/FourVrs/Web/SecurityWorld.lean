import FourVrs.Lib.History
import FourVrs.Web.Security

/-!
# The worker and the stored record

The worker is a process of its own: it may end at any moment, and what it has stored is
stored then, whether or not `poll` has seen the end. `SecurityLog` keeps what has come to
the operations' notice: sessions opened and used, commits that are done, commits nobody
knows the end of, and cancellations. A commit worker that exits with 0 has stored its
record, one that exits with 4 has not touched it; every other end leaves it as it may be.
-/

set_option autoImplicit false

namespace FourVrs.Web

open FourVrs.Core Lib

/-! ## The world -/

structure Worker where
  job : WorkerJob
  ended : Option WorkerEnd

inductive SecurityEvent where
  /-- A login, or the first enrolment, has succeeded. -/
  | session (enrolment : Bool) (token : Text) (at' : CoreTick)
  | used (at' : CoreTick)
  | committed (record : AdminRecord)
  /-- A commit has ended, and what is stored is not known. -/
  | unknown
  | cancelled
  deriving DecidableEq, Repr

structure SecurityWorld where
  stored : Stored
  /-- What was stored when the run began. -/
  loaded : Stored
  worker : Option Worker := none
  /-- The job of the worker that has exited last. -/
  replier : Option WorkerJob := none
  log : List SecurityEvent := []

/-- What a job that ends leaves stored. -/
def WorkerJob.Leaves : WorkerJob → WorkerEnd → Stored → Stored → Prop
  | .derive _, _, before, after => after = before
  | .commit _ record, .exited 0, _, after => after = .record record
  | .commit _ _, .exited 4, before, after => after = before
  | .commit _ _, _, _, _ => True

def WorkerJob.events : WorkerJob → WorkerEnd → List SecurityEvent
  | .derive _, _ => []
  | .commit _ record, .exited 0 => [.committed record]
  | .commit _ _, .exited 4 => []
  | .commit _ _, _ => [.unknown]

/-- The worker ends, or nothing happens. -/
inductive SecurityWorld.Meanwhile : SecurityWorld → SecurityWorld → Prop where
  | nothing (w : SecurityWorld) : Meanwhile w w
  | ended {w : SecurityWorld} {job : WorkerJob} (hrunning : w.worker = some { job, ended := none })
      (how : WorkerEnd) (after : Stored) (h : job.Leaves how w.stored after) :
      Meanwhile w { w with worker := some { job, ended := some how }, stored := after }

/-- A call at the moment it is made. -/
inductive SecurityWorld.Call (w : SecurityWorld) : (call : SecurityCall) → call.Result → SecurityWorld → Prop where
  | loaded : Call w .readRecord w.stored w
  | unreadable : Call w .readRecord .unreadable w
  | random (n : Nat) (filled : Bool) (bytes : List UInt8) (hlen : bytes.length = n) :
      Call w (.random n) (filled, bytes) w
  | refused (job : WorkerJob) : Call w (.spawn job) .refused w
  | started (job : WorkerJob) (sent : Bool) :
      Call w (.spawn job) (.started sent) { w with worker := some { job, ended := none } }
  /-- A worker that is killed leaves the record as it may be. -/
  | killed (k : Worker) (hworker : w.worker = some k) (after : Stored) (h : k.job.Leaves .lost w.stored after) :
      Call w .kill () { w with worker := none, stored := after, log := w.log ++ k.job.events .lost }
  | killedNone (hidle : w.worker = none) : Call w .kill () w
  | waitedNone (hidle : w.worker = none) : Call w .waitpid (some .lost) w
  | running (job : WorkerJob) (hrunning : w.worker = some { job, ended := none }) : Call w .waitpid none w
  | exited (job : WorkerJob) (how : WorkerEnd) (hended : w.worker = some { job, ended := some how }) :
      Call w .waitpid (some how) { w with worker := none, replier := some job, log := w.log ++ job.events how }
  /-- `waitpid` fails: the worker is lost sight of. -/
  | lostSight (k : Worker) (hworker : w.worker = some k) (after : Stored)
      (h : k.job.Leaves .lost w.stored after) :
      Call w .waitpid (some .lost)
        { w with worker := none, stored := after, replier := some k.job, log := w.log ++ k.job.events .lost }
  /-- The reply of a commit worker is the hash it has stored. -/
  | reply (bytes : List UInt8)
      (h : ∀ path record, w.replier = some (.commit path record) → bytes.length = 32 → bytes = record.hash) :
      Call w .readReply bytes w

def securityWorld : Prog.World SecurityCall SecurityCall.Result SecurityWorld :=
  fun call w r w' => ∃ now, w.Meanwhile now ∧ now.Call call r w'

/-! ## The runs -/

inductive SecurityOp where
  | begin (enroll : Bool) (code password : Text)
  | change (current password again : Text)
  | poll
  | local (action : Nat)
  | tick | cancel | cancelPending
  | authorized (token csrf : Text) (write : Bool)

/-- What the operation returns, 0 where the source returns nothing. -/
def SecurityOp.run (s : WebSecurity) (now : CoreTick) : SecurityOp → SecurityProg (Int × WebSecurity)
  | .begin enroll code password => do
      let (r, s) ← webSecurityBegin s enroll code password now
      pure (r, s)
  | .change current password again => do
      let (r, s) ← webSecurityChange s current password again now
      pure (r, s)
  | .poll => do
      let (r, s) ← webSecurityPoll s now
      pure (r, s)
  | .local action => webSecurityLocal s action now
  | .tick => do
      let s ← webSecurityTick s now
      pure (0, s)
  | .cancel => do
      let s ← webSecurityCancel s
      pure (0, s)
  | .cancelPending => do
      let s ← webSecurityCancelPending s
      pure (0, s)
  | .authorized token csrf write => do
      let (shown, s) ← webSecurityAuthorized s token csrf write now
      pure (if shown then 1 else 0, s)

/-- A poll that answers 200 has opened a session after a login and after the first enrolment. -/
def pollEvents (s : WebSecurity) (now : CoreTick) (r : Nat) (s' : WebSecurity) : List SecurityEvent :=
  if r = 200 ∧ (s.workerEnroll = .login ∨ s.administrator = false) then
    [.session (decide (s.workerEnroll ≠ .login)) s'.token now]
  else []

/-- What an operation that has returned adds to the log. -/
def SecurityOp.events (s : WebSecurity) (now : CoreTick) (r : Int) (s' : WebSecurity) :
    SecurityOp → List SecurityEvent
  | .poll => pollEvents s now r.toNat s'
  | .authorized _ _ _ => if r = 1 then [.used now] else []
  | .cancel => [.cancelled]
  | .begin _ _ _ | .change _ _ _ | .local _ | .tick | .cancelPending => []

def SecurityWorld.note (w : SecurityWorld) (events : List SecurityEvent) : SecurityWorld :=
  { w with log := w.log ++ events }

/-- From `init`, whose callers have the path in a buffer of 512 bytes, operations at any ticks. -/
inductive SecurityRun : WebSecurity → SecurityWorld → Prop where
  | init {r : Int} {s : WebSecurity} {w : SecurityWorld} (path : Text) (stored : Stored)
      (hpath : path.length < 512)
      (h : Prog.Runs securityWorld (webSecurityInit path) { stored, loaded := stored } (some (r, s)) w) :
      SecurityRun s w
  | meanwhile {s : WebSecurity} {w w' : SecurityWorld} (hrun : SecurityRun s w) (h : w.Meanwhile w') :
      SecurityRun s w'
  | op {s s' : WebSecurity} {w w' : SecurityWorld} {r : Int} (op : SecurityOp) (now : CoreTick)
      (hrun : SecurityRun s w) (h : Prog.Runs securityWorld (op.run s now) w (some (r, s')) w') :
      SecurityRun s' (w'.note (op.events s now r s'))

/-! ## What is to hold -/

/-- What the credentials in memory say is stored. -/
def WebSecurity.stored (s : WebSecurity) : Stored :=
  if s.administrator then .record { salt := s.salt, hash := s.hash } else .missing

def lastUse (opened : CoreTick) (later : List SecurityEvent) : CoreTick :=
  later.foldl (fun t event => match event with | .used at' => at' | _ => t) opened

/-- The session with this token is the last thing that has happened, its uses apart. -/
def Opened (log : List SecurityEvent) (token : Text) (opened touched : CoreTick) : Prop :=
  ∃ past enrolment later, log = past ++ .session enrolment token opened :: later ∧
    (∀ event ∈ later, ∃ at', event = .used at') ∧ touched = lastUse opened later

/-- A session of an enrolment follows the commit at once. -/
def FollowsCommit (past : List SecurityEvent) (event : SecurityEvent) : Prop :=
  ∀ token at', event = .session true token at' → ∃ record, past.getLast? = some (.committed record)

structure Trustworthy (s : WebSecurity) (w : SecurityWorld) : Prop where
  stored : s.saveFailed = false → s.commitPending = false → w.stored = s.stored
  /-- No hash is in effect that was neither there nor committed. -/
  effective : ∀ record, s.stored = .record record → w.loaded = .record record ∨ .committed record ∈ w.log
  enrolled : Each FollowsCommit w.log
  authorized : ∀ token csrf write now s' w',
    Prog.Runs securityWorld (webSecurityAuthorized s token csrf write now) w (some (true, s')) w' →
      ∃ opened touched, Opened w'.log token opened touched ∧
        coreElapsed opened now < webSessionMaxMs ∧ coreElapsed touched now < webSessionIdleMs

end FourVrs.Web
