import FourVrs.Lib.Pbkdf2
import FourVrs.Lib.Sha256

/-!
# The cached key derivation (`web/kdf_cached.h`)

PBKDF2 with HMAC-SHA-256, one block of it. The hash states behind the two HMAC pads are taken
once, and every iteration starts from copies of them. The hash is the library's: it is a parameter
here, with what its calls are documented to do (`ShaLaws`).
-/

set_option autoImplicit false

namespace FourVrs.Web

open Lib

variable {Ctx : Type}

/-! ## The library -/

/-- The calls of `mbedtls/sha256.h`; an error is a result other than 0. -/
structure ShaCalls (Ctx : Type) where
  init : Ctx
  starts : Ctx → Except Int Ctx
  update : Ctx → List UInt8 → Except Int Ctx
  /-- The context after the call, and the digest. -/
  finish : Ctx → Except Int (Ctx × List UInt8)
  /-- The destination after the source is copied to it. -/
  clone : Ctx → Ctx → Ctx
  sha256 : List UInt8 → Except Int (List UInt8)

/-- The calls succeed, and the digest is that of what has been added; `holds` says what a context
    has taken. -/
structure ShaLaws (sha : ShaCalls Ctx) (holds : Ctx → List UInt8 → Prop) : Prop where
  starts : ∀ ctx, ∃ after, sha.starts ctx = .ok after ∧ holds after []
  update : ∀ {ctx message} (more : List UInt8), holds ctx message →
    ∃ after, sha.update ctx more = .ok after ∧ holds after (message ++ more)
  finish : ∀ {ctx message}, holds ctx message → message.length < 2 ^ 61 →
    ∃ after, sha.finish ctx = .ok (after, Sha256.sha256 message)
  clone : ∀ {src message} (dst : Ctx), holds src message → holds (sha.clone dst src) message
  sha256 : ∀ message, message.length < 2 ^ 61 → sha.sha256 message = .ok (Sha256.sha256 message)

/-! ## The derivation -/

/-- `key[64]`. -/
def kdfKey (sha : ShaCalls Ctx) (password : List UInt8) : Except Int (List UInt8) := do
  if password.length > 64 then
    let digest ← sha.sha256 password
    pure (digest ++ List.replicate (64 - digest.length) 0)
  else pure (password ++ List.replicate (64 - password.length) 0)

/-- The state behind a pad. -/
def kdfPad (sha : ShaCalls Ctx) (pad : List UInt8) : Except Int Ctx := do
  let ctx ← sha.starts sha.init
  sha.update ctx pad

/-- What the loop changes. -/
structure KdfLoop (Ctx : Type) where
  work : Ctx
  u : List UInt8
  acc : List UInt8

/-- One pass of the loop. -/
def kdfRound (sha : ShaCalls Ctx) (inner outer : Ctx) (first : List UInt8) (s : KdfLoop Ctx)
    (i : Nat) : Except Int (KdfLoop Ctx) := do
  let work := sha.clone s.work inner
  let work ← sha.update work (if i ≠ 0 then s.u else first)
  let (work, u) ← sha.finish work
  let work := sha.clone work outer
  let work ← sha.update work u
  let (work, u) ← sha.finish work
  pure { work, u, acc := xorBytes s.acc u }

def kdfDerive (sha : ShaCalls Ctx) (password salt : List UInt8) (rounds : Nat) :
    Except Int (List UInt8) := do
  let key ← kdfKey sha password
  let inner ← kdfPad sha (key.map (· ^^^ 0x36))
  let outer ← kdfPad sha (key.map (· ^^^ 0x5c))
  let s ← (List.range rounds).foldlM (kdfRound sha inner outer (salt.take 16 ++ [0, 0, 0, 1]))
    { work := sha.init, u := List.replicate 32 0, acc := List.replicate 32 0 }
  pure s.acc

/-- The result, and the output buffer. -/
def cachedPbkdf2 (sha : ShaCalls Ctx) (password salt : List UInt8) (rounds : Nat)
    (output : List UInt8) : Int × List UInt8 :=
  if password.length < 12 ∨ password.length > 128 ∨ rounds = 0 then (-1, output)
  else
    match kdfDerive sha password salt rounds with
    | .ok acc => (0, acc)
    | .error r => (r, List.replicate 32 0)

/-! ## It is PBKDF2 -/

/-- HMAC-SHA-256 under a password. -/
def hmacSha256 (password text : List UInt8) : List UInt8 := hmac Sha256.sha256 64 password text

theorem length_hmacSha256 (password text : List UInt8) : (hmacSha256 password text).length = 32 :=
  Sha256.length_sha256 _

variable {sha : ShaCalls Ctx} {holds : Ctx → List UInt8 → Prop}

theorem kdfKey_eq (laws : ShaLaws sha holds) {password : List UInt8}
    (hmax : password.length ≤ 128) :
    kdfKey sha password = .ok (hmacKey Sha256.sha256 64 password) := by
  unfold kdfKey hmacKey
  by_cases hlong : password.length > 64
  · rw [if_pos hlong, laws.sha256 password (by omega)]
    simp only [if_pos hlong]
    rfl
  · simp only [if_neg hlong]
    rfl

theorem kdfPad_holds (laws : ShaLaws sha holds) (pad : List UInt8) :
    ∃ ctx, kdfPad sha pad = .ok ctx ∧ holds ctx pad := by
  obtain ⟨started, hstarts, hempty⟩ := laws.starts sha.init
  obtain ⟨ctx, hupdate, hpad⟩ := laws.update pad hempty
  refine ⟨ctx, ?_, hpad⟩
  unfold kdfPad
  rw [hstarts]
  exact hupdate

/-- A pass adds the HMAC of its input. -/
theorem kdfRound_eq (laws : ShaLaws sha holds) {inner outer : Ctx} {password : List UInt8}
    (hinner : holds inner ((hmacKey Sha256.sha256 64 password).map (· ^^^ 0x36)))
    (houter : holds outer ((hmacKey Sha256.sha256 64 password).map (· ^^^ 0x5c)))
    (first : List UInt8) (s : KdfLoop Ctx) (i : Nat) {input : List UInt8}
    (hinput : (if i ≠ 0 then s.u else first) = input) (hshort : input.length ≤ 32) :
    ∃ work, kdfRound sha inner outer first s i = .ok
      { work, u := hmacSha256 password input, acc := xorBytes s.acc (hmacSha256 password input) } := by
  have hkey := length_hmacKey Sha256.sha256 64
    (fun bytes => by rw [Sha256.length_sha256]; decide) password
  obtain ⟨taken, hupdate, htaken⟩ := laws.update input (laws.clone s.work hinner)
  obtain ⟨done, hfinish⟩ := laws.finish htaken (by
    rw [List.length_append, List.length_map, hkey]
    omega)
  obtain ⟨taken', hupdate', htaken'⟩ := laws.update (Sha256.sha256
    ((hmacKey Sha256.sha256 64 password).map (· ^^^ 0x36) ++ input)) (laws.clone done houter)
  obtain ⟨work, hfinish'⟩ := laws.finish htaken' (by
    rw [List.length_append, List.length_map, hkey, Sha256.length_sha256]
    decide)
  refine ⟨work, ?_⟩
  simp only [kdfRound, hinput, hupdate, hfinish, hupdate', hfinish', bind, Except.bind, pure,
    Except.pure]
  rfl

/-- After any number of passes, the last one's HMAC and the exclusive or of all. -/
theorem foldlM_kdfRound (laws : ShaLaws sha holds) {inner outer : Ctx} {password salt : List UInt8}
    (hsalt : salt.length = 16)
    (hinner : holds inner ((hmacKey Sha256.sha256 64 password).map (· ^^^ 0x36)))
    (houter : holds outer ((hmacKey Sha256.sha256 64 password).map (· ^^^ 0x5c))) (n : Nat) :
    ∃ work, (List.range (n + 1)).foldlM
        (kdfRound sha inner outer (salt.take 16 ++ [0, 0, 0, 1]))
        { work := sha.init, u := List.replicate 32 0, acc := List.replicate 32 0 } = .ok
      { work, u := pbkdf2U (hmacSha256 password) salt 1 n,
        acc := pbkdf2Xor (hmacSha256 password) salt 1 n } := by
  have hfirst : salt.take 16 ++ [0, 0, 0, 1] = salt ++ put32 1 := by
    rw [List.take_of_length_le (by omega)]
    rfl
  rw [hfirst]
  induction n with
  | zero =>
    obtain ⟨work, hround⟩ := kdfRound_eq laws hinner houter (salt ++ put32 1)
      { work := sha.init, u := List.replicate 32 0, acc := List.replicate 32 0 } 0 rfl
      (by simp [hsalt])
    refine ⟨work, ?_⟩
    rw [zeros_xorBytes (length_hmacSha256 _ _)] at hround
    rw [List.range_one, List.foldlM_cons, hround]
    rfl
  | succ n ih =>
    obtain ⟨last, hloop⟩ := ih
    have hlength : (pbkdf2U (hmacSha256 password) salt 1 n).length = 32 := by
      cases n <;> exact length_hmacSha256 _ _
    obtain ⟨work, hround⟩ := kdfRound_eq laws hinner houter (salt ++ put32 1)
      { work := last, u := pbkdf2U (hmacSha256 password) salt 1 n,
        acc := pbkdf2Xor (hmacSha256 password) salt 1 n } (n + 1)
      (if_pos (Nat.succ_ne_zero n)) (by simp only [hlength, Nat.le_refl])
    refine ⟨work, ?_⟩
    rw [List.range_succ, List.foldlM_append, hloop]
    simp only [List.foldlM_cons, List.foldlM_nil, hround, bind, Except.bind, pure, Except.pure]
    rfl

/-- The derivation is the first block of PBKDF2, for keys of every length. -/
theorem cachedPbkdf2_eq (laws : ShaLaws sha holds) {password salt : List UInt8} {rounds : Nat}
    (hmin : 12 ≤ password.length) (hmax : password.length ≤ 128) (hsalt : salt.length = 16)
    (hrounds : 1 ≤ rounds) (output : List UInt8) :
    cachedPbkdf2 sha password salt rounds output =
      (0, pbkdf2Block (hmacSha256 password) salt 1 rounds) := by
  obtain ⟨inner, hinner, hipad⟩ := kdfPad_holds laws
    ((hmacKey Sha256.sha256 64 password).map (· ^^^ 0x36))
  obtain ⟨outer, houter, hopad⟩ := kdfPad_holds laws
    ((hmacKey Sha256.sha256 64 password).map (· ^^^ 0x5c))
  obtain ⟨work, hloop⟩ := foldlM_kdfRound laws hsalt hipad hopad (rounds - 1)
  rw [Nat.sub_add_cancel hrounds] at hloop
  have hderive : kdfDerive sha password salt rounds =
      .ok (pbkdf2Block (hmacSha256 password) salt 1 rounds) := by
    simp only [kdfDerive, kdfKey_eq laws hmax, hinner, houter, hloop, bind, Except.bind, pure,
      Except.pure, pbkdf2Block]
  rw [cachedPbkdf2, if_neg (by omega), hderive]

/-! ## A library that keeps the laws -/

/-- The context is what has been added. -/
def keptBytes : ShaCalls (List UInt8) where
  init := []
  starts _ := .ok []
  update ctx more := .ok (ctx ++ more)
  finish ctx := .ok (ctx, Sha256.sha256 ctx)
  clone _ src := src
  sha256 message := .ok (Sha256.sha256 message)

theorem keptBytes_laws : ShaLaws keptBytes (fun ctx message => ctx = message) where
  starts _ := ⟨[], rfl, rfl⟩
  update {ctx} _ more h := ⟨ctx ++ more, rfl, by rw [h]⟩
  finish {ctx} _ h _ := ⟨ctx, by rw [← h]; rfl⟩
  clone _ h := h
  sha256 _ _ := rfl

/-- A password longer than the block, a hundred iterations. -/
theorem cachedPbkdf2_eq_long :
    cachedPbkdf2 keptBytes (List.replicate 100 0x61) (List.replicate 16 7) 100 [] =
      (0, pbkdf2Block (hmacSha256 (List.replicate 100 0x61)) (List.replicate 16 7) 1 100) :=
  cachedPbkdf2_eq keptBytes_laws (by decide) (by decide) (by decide) (by decide) []

end FourVrs.Web
