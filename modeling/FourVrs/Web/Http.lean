import FourVrs.Lib.Text
import FourVrs.Web.Frames

/-!
# Requests (`web/web_http.c`)

What a browser sent is parsed again after each read, from the start of the buffer: the header
block in a copy that is taken to pieces, the body where it stands. The buffer is read and written
by offsets; beyond its end there is nothing to touch.
-/

set_option autoImplicit false

namespace FourVrs.Web

open Config Lib

def webHttpMax : Nat := 8192

/-- `web_http_t`; the body as its bytes. -/
structure WebHttp where
  method : CText := []
  path : CText := []
  session : CText := []
  csrf : CText := []
  etag : CText := []
  body : CText := []
  write : Bool := false
  close : Bool := false
  deriving DecidableEq, Repr

/-- Why the header block is not taken: a fault, or a status for the browser. -/
inductive HttpStop where
  | outside
  | status (code : Nat)
  deriving DecidableEq, Repr

/-- What `web_http_parse` returns: 0, 1 or the negative of a status. -/
inductive HttpAnswer where
  | incomplete
  | parsed (request : WebHttp)
  | refused (code : Nat)
  deriving DecidableEq, Repr

def crlf : CText := [13, 10]

/-- A letter in lower case. -/
def lower (c : UInt8) : UInt8 := if ascii 'A' ≤ c ∧ c ≤ ascii 'Z' then c + 32 else c

/-- `strcasecmp` finds no difference. -/
def sameText (a b : CText) : Bool := a.map lower = b.map lower

/-- The loop of `web_number`. -/
def numberLoop (max : Nat) : CText → Nat → Option Nat
  | [], v => some v
  | c :: s, v =>
      if isDigit c then
        let d := digitValue c
        if d > max ∨ v > (max - d) / 10 then none else numberLoop max s (v * 10 + d)
      else none

/-- `web_number`. -/
def webNumber (s : CText) (max : Nat) : Option Nat := if s = [] then none else numberLoop max s 0

/-! ## The cookie -/

def sessionKey (tls : Bool) : CText := if tls then text "session=" else text "session_http="

/-- The cookies between the semicolons: one session of this transport, none but sessions. -/
def cookieLoop (tls : Bool) : Nat → CText → Bool → CText → Except HttpStop CText
  | 0, p, _, session => if p = [] then .ok session else .error .outside
  | rounds + 1, p, found, session =>
      if p = [] then .ok session
      else
        let item := ((cutAt (ascii ';') p).map Prod.fst).getD p
        let after := (cutAt (ascii ';') p).map Prod.snd
        let item := item.dropWhile (· = ascii ' ')
        if sessionKey tls <+: item then
          if found ∨ item.length ≠ (sessionKey tls).length + 64 then .error (.status 400)
          else
            let session := item.drop (sessionKey tls).length
            match after with
            | none => .ok session
            | some p => cookieLoop tls rounds p true session
        else if ¬ (item.length = 72 ∧ text "session=" <+: item ∨
            item.length = 77 ∧ text "session_http=" <+: item) then .error (.status 400)
        else
          match after with
          | none => .ok session
          | some p => cookieLoop tls rounds p found session

/-- `cookie_value`, into a session that is empty before. -/
def cookieValue (p : CText) (tls : Bool) : Except HttpStop CText :=
  if p.length > 160 then .error (.status 400) else cookieLoop tls p.length p false []

/-! ## The header block -/

/-- What the loop over the lines has seen. -/
structure HeaderState where
  out : WebHttp := {}
  host : Bool := false
  origin : Bool := false
  cookie : Bool := false
  csrf : Bool := false
  connection : Bool := false
  etag : Bool := false
  haveLength : Bool := false
  length : Nat := 0
  deriving DecidableEq, Repr

/-- `scheme://authority`, as far as `expected` has room. -/
def ownOrigin (authority : CText) (tls : Bool) : CText :=
  (text (if tls then "https" else "http") ++ text "://" ++ authority).take 95

/-- A line with its name and its value. -/
def headerLine (authority : CText) (tls : Bool) (st : HeaderState) (name value : CText) :
    Except HttpStop HeaderState :=
  if sameText name (text "Host") then
    if st.host ∨ value ≠ authority then .error (.status 400) else .ok { st with host := true }
  else if sameText name (text "Connection") then
    if st.connection ∨ ¬ sameText value (text "close") ∧ ¬ sameText value (text "keep-alive") then
      .error (.status 400)
    else .ok
      { st with connection := true, out := { st.out with close := sameText value (text "close") } }
  else if sameText name (text "If-None-Match") then
    if st.etag ∨ value.length ≥ 256 then .error (.status 400)
    else .ok { st with etag := true, out := { st.out with etag := value } }
  else if sameText name (text "Origin") then
    if st.origin ∨ value ≠ ownOrigin authority tls then .error (.status 403)
    else .ok { st with origin := true }
  else if sameText name (text "Content-Length") then
    match if st.haveLength then none else webNumber value webBodyMax with
    | none => .error (.status 400)
    | some length => .ok { st with haveLength := true, length := length }
  else if sameText name (text "Transfer-Encoding") ∨ sameText name (text "Expect") then
    .error (.status 400)
  else if sameText name (text "Cookie") then
    if st.cookie then .error (.status 400)
    else do
      let session ← cookieValue value tls
      .ok { st with cookie := true, out := { st.out with session := session } }
  else if sameText name (text "X-CSRF-Token") then
    if st.csrf ∨ value.length ≠ 64 then .error (.status 400)
    else .ok { st with csrf := true, out := { st.out with csrf := value } }
  else if sameText name (text "Content-Type") ∧ value ≠ text "text/plain;charset=UTF-8" ∧
      value ≠ text "text/plain" then .error (.status 415)
  else .ok st

/-- Name and value of a line. -/
def headerField (line : CText) : Option (CText × CText) := do
  let (name, value) ← cutAt (ascii ':') line
  if line.head?.any isBlank then none else some (name, value.dropWhile isBlank)

/-- The loop over the lines, up to the empty one. -/
def headerLoop (authority : CText) (tls : Bool) : Nat → CText → HeaderState →
    Except HttpStop HeaderState
  | 0, rest, st => if rest = [] then .ok st else .error .outside
  | rounds + 1, rest, st =>
      if rest = [] then .ok st
      else
        match findText crlf rest with
        | none => .error (.status 400)
        | some (line, next) =>
            if line = [] then .ok st
            else
              match headerField line with
              | none => .error (.status 400)
              | some (name, value) => do
                  let st ← headerLine authority tls st name value
                  headerLoop authority tls rounds (next.drop 2) st

/-- Method, path and version of the request line. -/
def requestLine (line : CText) : Option (CText × CText × CText) := do
  let (method, rest) ← cutAt (ascii ' ') line
  let (path, version) ← cutAt (ascii ' ') rest
  some (method, path, version)

/-- The header block: the request without its body, and the length of that. -/
def headerBlock (authority : CText) (tls : Bool) (h : CText) : Except HttpStop (WebHttp × Nat) :=
  match findText crlf h with
  | none => .error (.status 400)
  | some (line, next) =>
      match requestLine line with
      | none => .error (.status 400)
      | some (method, path, version) =>
          if version ≠ text "HTTP/1.1" ∨ method.length > 7 ∨ path.length > 63 ∨
              path.head? ≠ some (ascii '/') then .error (.status 400)
          else if method ≠ text "GET" ∧ method ≠ text "POST" ∧ method ≠ text "HEAD" then
            .error (.status 405)
          else do
            let out : WebHttp := { method := method, path := path, write := method = text "POST" }
            let st ← headerLoop authority tls h.length (next.drop 2) { out := out }
            if ¬ st.host then .error (.status 400)
            else if st.out.write ∧ ¬ (st.origin ∧ st.haveLength) then .error (.status 403)
            else if ¬ st.out.write ∧ st.length ≠ 0 then .error (.status 400)
            else .ok (st.out, st.length)

/-! ## The buffer -/

/-- The C string at the start of the buffer: `none` if it has no end there. -/
def stringOf (mem : List UInt8) : Option CText := (cutAt 0 mem).map Prod.fst

/-- `web_http_parse`: what it returns, and the buffer it leaves. -/
def webHttpParse (mem : List UInt8) (n : Nat) (authority : CText) (tls : Bool) :
    Option (HttpAnswer × List UInt8) :=
  if n > webHttpMax then some (.refused 400, mem)
  else do
    let given ← readWithin mem 0 n
    if 0 ∈ given then some (.refused 400, mem)
    else
      let mem ← storeAt mem n [0]
      let b ← stringOf mem
      match findText (crlf ++ crlf) b with
      | none => some (if n ≥ 4096 then .refused 431 else .incomplete, mem)
      | some (before, _) =>
          let header := before.length + 4
          if header > 4096 then some (.refused 431, mem)
          else
            let h ← readWithin mem 0 header
            match headerBlock authority tls h with
            | .error .outside => none
            | .error (.status code) => some (.refused code, mem)
            | .ok (out, length) =>
                if n < header + length then some (.incomplete, mem)
                else if n ≠ header + length then some (.refused 400, mem)
                else
                  let body ← readWithin mem header length
                  some (.parsed { out with body := body }, mem)

/-! ## The operation -/

def readOps : List CText :=
  ["help", "detail1", "detail2", "detail3", "detail4", "detail5", "detail6", "detail7", "detail8",
    "overview", "ports", "network", "diagnostics", "system", "about"].map text

def writeOps : List CText :=
  ["recover", "enroll", "login", "logout", "password", "port", "network_review", "network_apply",
    "keep", "revert", "web", "backlight", "ntp", "ntptest", "time", "gateway_stop"].map text

/-- The operation that a path names. -/
def pathOp (path : CText) (write : Bool) : Option CText :=
  if path = text "/api/hello" ∧ write = false then some (text "hello")
  else if text "/api/" <+: path then
    (if write then writeOps else readOps).find? fun op => path.drop 5 = op
  else none

/-- The operations that need no session. -/
def openOp (op : CText) : Bool :=
  op = text "hello" || op = text "login" || op = text "enroll" || op = text "recover"

/-- A line of the text for the gateway. -/
def fieldText (key value : CText) : CText := key ++ ascii '=' :: value ++ [10]

/-- The lines before the body. -/
def ipcFront (op : CText) (r : WebHttp) : CText :=
  fieldText (text "op") op ++
    if openOp op then []
    else fieldText (text "session") r.session ++ if r.write then fieldText (text "csrf") r.csrf else []

/-- `web_http_ipc`: the text for the gateway, into an array of `n` bytes, or the negative of a
    status. -/
def webHttpIpc (r : WebHttp) (n : Nat) : Except Nat CText :=
  match pathOp r.path r.write with
  | none => .error 404
  | some op =>
      match webFieldsParse r.body with
      | .error _ => .error 400
      | .ok fields =>
          if webField fields (text "op") ≠ [] ∨ webField fields (text "session") ≠ [] ∨
              webField fields (text "csrf") ≠ [] then .error 400
          else if ¬ openOp op ∧ r.session = [] then .error 401
          else if ¬ openOp op ∧ r.write ∧ r.csrf = [] then .error 403
          else if (ipcFront op r).length + r.body.length ≥ n then .error 413
          else .ok (ipcFront op r ++ r.body)

end FourVrs.Web
