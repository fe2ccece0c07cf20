import FourVrs.Core.Deadline
import FourVrs.Lib.Prog

/-!
# Credentials and sessions (`web/web_security.c`)

The administrator's salted hash, the enrolment code and the one session. Deriving a hash
and storing one take a worker process each, and there is one slot for it: `poll` learns
how the worker ended. Texts are the bytes before their terminator; what the source clears
is the empty text.

The record of the administrator is what `web_fields_parse` makes of the file; the slots
for killed workers that are still to be reaped only decide whether a launch is refused,
which the call may be for other reasons too.
-/

set_option autoImplicit false

namespace FourVrs.Web

open FourVrs.Core Lib

abbrev Text := List UInt8

def webCodeMs : CoreTick := 180000
def webSessionIdleMs : CoreTick := 900000
def webSessionMaxMs : CoreTick := 28800000

structure AdminRecord where
  salt : List UInt8
  hash : List UInt8
  deriving DecidableEq, Repr, Inhabited

/-- What is under the path of the record. -/
inductive Stored where
  | missing | unreadable
  | record (record : AdminRecord)
  deriving DecidableEq, Repr

/-- `KDF1`, the request to derive a hash. -/
structure DeriveRequest where
  change : Bool
  password : Text
  next : Option Text
  salt : List UInt8
  pendingSalt : List UInt8
  hash : List UInt8

inductive WorkerJob where
  | derive (request : DeriveRequest)
  /-- `KDC1`, the request to store a record. -/
  | commit (path : Text) (record : AdminRecord)

inductive WorkerEnd where
  | exited (code : Nat)
  /-- By a signal, or nobody knows. -/
  | lost
  deriving DecidableEq, Repr

inductive Spawned where
  /-- There is no process. -/
  | refused
  /-- There is one; its request was sent as a whole or not. -/
  | started (sent : Bool)

inductive SecurityCall where
  | readRecord
  | random (n : Nat)
  | spawn (job : WorkerJob)
  | kill
  | waitpid
  | readReply

/-- `random` fills its buffer, whatever it returns; `waitpid` has nothing while the worker runs. -/
abbrev SecurityCall.Result : SecurityCall → Type
  | .readRecord => Stored
  | .random _ => Bool × List UInt8
  | .spawn _ => Spawned
  | .kill => Unit
  | .waitpid => Option WorkerEnd
  | .readReply => List UInt8

abbrev SecurityProg (α : Type) : Type := Prog SecurityCall SecurityCall.Result α

def securityCall (call : SecurityCall) : SecurityProg call.Result := Prog.lift call

/-- `worker_enroll`: what the worker's hash is for. -/
inductive Purpose where
  | login | enroll | change
  deriving DecidableEq, Repr, Inhabited

structure WebSecurity where
  path : Text := []
  code : Text := []
  token : Text := []
  csrf : Text := []
  salt : List UInt8 := []
  hash : List UInt8 := []
  pendingSalt : List UInt8 := []
  administrator : Bool := false
  recovery : Bool := false
  attempts : Nat := 0
  loginAttempts : Nat := 0
  codeAt : CoreTick := 0
  sessionAt : CoreTick := 0
  touched : CoreTick := 0
  rateAt : CoreTick := 0
  workerAt : CoreTick := 0
  worker : Bool := false
  workerEnroll : Purpose := .login
  saveFailed : Bool := false
  commitPending : Bool := false
  deriving Inhabited

/-- What the functions return: an HTTP status, 0 for an answer that is still pending. -/
abbrev Answered := Nat × WebSecurity

/-- `web_hex`. -/
def hexDigit (n : UInt8) : UInt8 := if n < 10 then 48 + n else 87 + n

def webHex (bytes : List UInt8) : Text :=
  bytes.flatMap fun (b : UInt8) => [hexDigit (b >>> 4), hexDigit (b &&& 15)]

variable (s : WebSecurity)

def clearSession : WebSecurity := { s with token := [], csrf := [] }

/-- A commit that is given up may have stored its record. -/
def abandonCommit : WebSecurity :=
  if s.commitPending then { clearSession s with saveFailed := true, commitPending := false } else s

def stopWorker : SecurityProg WebSecurity :=
  if s.worker then do
    securityCall .kill
    pure { abandonCommit s with worker := false }
  else pure (abandonCommit s)

/-! ## Launching a worker -/

def deriveRequest (password : Text) (next : Option Text) (purpose : Purpose) : DeriveRequest where
  change := purpose = .change
  password := password
  next := next
  salt := if purpose = .enroll then s.pendingSalt else s.salt
  pendingSalt := s.pendingSalt
  hash := s.hash

def launch (password : Text) (next : Option Text) (purpose : Purpose) (now : CoreTick) :
    SecurityProg Answered := do
  match ← securityCall (.spawn (.derive (deriveRequest s password next purpose))) with
  | .refused => pure (503, s)
  | .started true => pure (0, { s with worker := true, workerEnroll := purpose, workerAt := now })
  | .started false => do
      let s ← stopWorker { s with worker := true, workerEnroll := purpose, workerAt := now }
      pure (503, s)

/-- `poll` answers 503 when the commit cannot be launched. -/
def launchCommit (hash : List UInt8) : SecurityProg Answered :=
  if s.path.length ≥ 512 then pure (503, s)
  else do
    match ← securityCall (.spawn (.commit s.path { salt := s.pendingSalt, hash })) with
    | .refused => pure (503, s)
    | .started true => pure (0, { s with worker := true, commitPending := true })
    | .started false => do
        let s ← stopWorker { s with worker := true, commitPending := true }
        pure (503, s)

/-! ## The operations -/

def webSecurityInit (path : Text) : SecurityProg (Int × WebSecurity) :=
  if path.length ≥ 512 then pure (-1, {})
  else do
    match ← securityCall .readRecord with
    | .missing => pure (0, { path })
    | .unreadable => pure (-1, { path, saveFailed := true })
    | .record record => pure (0, { path, salt := record.salt, hash := record.hash, administrator := true })

def expireSession (now : CoreTick) : WebSecurity :=
  if s.token ≠ [] ∧
      (coreElapsed s.sessionAt now ≥ webSessionMaxMs ∨ coreElapsed s.touched now ≥ webSessionIdleMs) then
    clearSession s
  else s

def codeExpired (now : CoreTick) : Bool :=
  decide (coreElapsed s.codeAt now ≥ webCodeMs)

def expireCode (now : CoreTick) : SecurityProg WebSecurity :=
  if s.code ≠ [] ∧ codeExpired s now then do
    let s ← stopWorker s
    pure { s with code := [], recovery := false }
  else pure s

def webSecurityTick (now : CoreTick) : SecurityProg WebSecurity := do
  let s ← expireCode s now
  pure (expireSession s now)

def freshRate (now : CoreTick) : WebSecurity :=
  if coreElapsed s.rateAt now ≥ 60000 then { s with rateAt := now, loginAttempts := 0 } else s

def countLoginAttempt : Answered :=
  if s.loginAttempts ≥ 5 then (429, s) else (0, { s with loginAttempts := s.loginAttempts + 1 })

/-- At most five attempts a minute. -/
def takeLoginAttempt (now : CoreTick) : Answered := countLoginAttempt (freshRate s now)

def fillPendingSalt (next : WebSecurity → SecurityProg Answered) : SecurityProg Answered := do
  let (filled, bytes) ← securityCall (.random 16)
  if filled then next { s with pendingSalt := bytes } else pure (503, { s with pendingSalt := bytes })

/-- The change of a password is let through with 0. -/
def changeAdmitted (current password again : Text) (now : CoreTick) : Answered :=
  if s.worker ∨ s.code ≠ [] then (423, s)
  else if !s.administrator ∨ s.saveFailed then (403, s)
  else if password.length < 12 ∨ password.length > 128 ∨ current.length < 12 ∨ current.length > 128 ∨
      password ≠ again then (400, s)
  else takeLoginAttempt s now

def webSecurityChange (current password again : Text) (now : CoreTick) : SecurityProg Answered := do
  let s ← webSecurityTick s now
  match changeAdmitted s current password again now with
  | (0, s) => fillPendingSalt s fun s => launch s current (some password) .change now
  | refused => pure refused

def enrollAdmitted (code : Text) : Answered :=
  if s.code = [] ∨ s.attempts ≥ 5 ∨ (!s.recovery ∧ s.administrator) then (403, s)
  else if code.length ≠ 12 ∨ code ≠ s.code then
    (403, { s with attempts := s.attempts + 1, code := if s.attempts + 1 = 5 then [] else s.code })
  else (0, { s with attempts := s.attempts + 1 })

def loginAdmitted (now : CoreTick) : Answered :=
  if !s.administrator ∨ s.saveFailed then (403, s) else takeLoginAttempt s now

def beginAdmitted (enroll : Bool) (code password : Text) (now : CoreTick) : Answered :=
  if s.worker then (423, s)
  else if password.length < 12 ∨ password.length > 128 then (400, s)
  else if enroll then enrollAdmitted s code
  else loginAdmitted s now

def webSecurityBegin (enroll : Bool) (code password : Text) (now : CoreTick) : SecurityProg Answered := do
  let s ← webSecurityTick s now
  match beginAdmitted s enroll code password now with
  | (0, s) =>
      if enroll then fillPendingSalt s fun s => launch s password none .enroll now
      else launch s password none .login now
  | refused => pure refused

def webSecurityCancelPending : SecurityProg WebSecurity := do
  let s ← stopWorker s
  pure { s with code := [], recovery := false }

def webSecurityCancel : SecurityProg WebSecurity := do
  let s ← webSecurityCancelPending s
  pure { clearSession s with recovery := false }

/-- A new code, from the panel. -/
def makeCode (action : Nat) (now : CoreTick) : SecurityProg (Int × WebSecurity) := do
  let s ← webSecurityCancelPending s
  let (filled, bytes) ← securityCall (.random 6)
  if filled then
    pure (0, { s with code := webHex bytes, codeAt := now, attempts := 0, recovery := action = 2 })
  else pure (-1, s)

def webSecurityLocal (action : Nat) (now : CoreTick) : SecurityProg (Int × WebSecurity) :=
  if action = 0 then do
    let s ← webSecurityCancelPending s
    pure (0, s)
  else if action = 1 ∧ s.administrator ∧ !s.saveFailed then pure (0, s)
  else if s.code ≠ [] then pure (0, s)
  else makeCode s action now

/-! ## `web_security_poll` -/

/-- The second text is only made when the first is. -/
def openSession (now : CoreTick) : SecurityProg Answered := do
  let (filled, bytes) ← securityCall (.random 32)
  if filled then do
    let (filled, more) ← securityCall (.random 32)
    if filled then
      pure (200, { s with token := webHex bytes, csrf := webHex more, sessionAt := now, touched := now })
    else pure (503, { s with token := [] })
  else pure (503, { s with token := [] })

/-- The commit worker has stored the record: it takes effect. -/
def adopt (hash : List UInt8) : WebSecurity :=
  { s with
    commitPending := false, salt := s.pendingSalt, hash, administrator := true, recovery := false,
    saveFailed := false, code := [] }

def enrolled (hash : List UInt8) (now : CoreTick) : SecurityProg Answered :=
  if s.workerEnroll = .enroll ∧ (s.code = [] ∨ codeExpired s now) then do
    let s ← stopWorker s
    pure (403, { s with code := [], recovery := false })
  else if !s.commitPending then launchCommit s hash
  else if s.administrator then pure (200, clearSession (adopt s hash))
  else openSession (adopt s hash) now

/-- The worker has exited with 0. -/
def afterSuccess (now : CoreTick) : SecurityProg Answered := do
  let hash ← securityCall .readReply
  if hash.length ≠ 32 then do
    let s ← stopWorker s
    pure (503, s)
  else if s.workerEnroll ≠ .login then enrolled s hash now
  else if hash ≠ s.hash then pure (403, s)
  else openSession s now

/-- What a worker that has failed leaves of a commit. -/
def afterFailure (ended : WorkerEnd) : WebSecurity :=
  abandonCommit
    { s with
      code := if s.commitPending then [] else s.code
      commitPending := s.commitPending && decide (ended ≠ .exited 4) }

def failedAnswer (ended : WorkerEnd) : Answered :=
  (if ended = .exited 2 then 403 else 503, if s.saveFailed then clearSession s else s)

def workerEnded (ended : WorkerEnd) (now : CoreTick) : SecurityProg Answered :=
  if ended = .exited 0 then afterSuccess s now else pure (failedAnswer (afterFailure s ended) ended)

def webSecurityPoll (now : CoreTick) : SecurityProg Answered :=
  if !s.worker then pure (403, s)
  else if coreElapsed s.workerAt now ≥ 60000 then do
    let s ← stopWorker s
    pure (503, s)
  else do
    match ← securityCall .waitpid with
    | none => pure (0, s)
    | some ended => workerEnded { s with worker := false } ended now

/-- The session is the one whose token the request shows. -/
def sessionShown (token csrf : Text) (write : Bool) : Bool :=
  !s.saveFailed && s.administrator && decide (token.length = 64) && decide (s.token ≠ []) &&
    decide (token = s.token) && (!write || decide (csrf.length = 64 ∧ csrf = s.csrf))

def webSecurityAuthorized (token csrf : Text) (write : Bool) (now : CoreTick) :
    SecurityProg (Bool × WebSecurity) := do
  let s ← webSecurityTick s now
  pure (if sessionShown s token csrf write then (true, { s with touched := now }) else (false, s))

end FourVrs.Web
