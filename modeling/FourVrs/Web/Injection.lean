import FourVrs.Web.Requests

/-!
# What goes into the text for the gateway

The session and the token are pasted as the browser sent them, between the operation and the body.
A value in which the parser of fields finds nothing to decode comes out as it went in; in another one
it finds the end of a line, or an escape.
-/

set_option autoImplicit false

namespace FourVrs.Web

open Config Lib

variable {authority : CText} {tls : Bool}

/-! ## The tokens of a request -/

/-- Nothing, or 64 bytes. -/
def Token (t : CText) : Prop := t = [] ∨ t.length = 64

theorem cookieLoop_token {rounds : Nat} {p session s : CText} {found : Bool} (h : Token session)
    (hloop : cookieLoop tls rounds p found session = .ok s) : Token s := by
  induction rounds generalizing p found session with
  | zero =>
    unfold cookieLoop at hloop
    split at hloop
    · exact Except.ok.inj hloop ▸ h
    · cases hloop
  | succ rounds ih =>
    unfold cookieLoop at hloop
    split at hloop
    · exact Except.ok.inj hloop ▸ h
    · simp only [] at hloop
      split at hloop
      · split at hloop
        · cases hloop
        · rename_i hgood
          simp only [not_or, not_not] at hgood
          -- the session is what follows the name of the cookie
          have htoken : Token (((((cutAt (ascii ';') p).map Prod.fst).getD p).dropWhile
              (· = ascii ' ')).drop (sessionKey tls).length) := by
            refine .inr ?_
            rw [List.length_drop, hgood.2]
            omega
          split at hloop
          · exact Except.ok.inj hloop ▸ htoken
          · exact ih htoken hloop
      split at hloop
      · cases hloop
      · split at hloop
        · exact Except.ok.inj hloop ▸ h
        · exact ih h hloop

theorem cookieValue_token {p s : CText} (h : cookieValue p tls = .ok s) : Token s := by
  unfold cookieValue at h
  split at h
  · cases h
  · exact cookieLoop_token (.inl rfl) h

/-- Both tokens of a request. -/
def Tokens (st : HeaderState) : Prop := Token st.out.session ∧ Token st.out.csrf

theorem headerLine_tokens {st st' : HeaderState} {key value : CText} (h : Tokens st)
    (hline : headerLine authority tls st key value = .ok st') : Tokens st' := by
  unfold headerLine at hline
  split at hline
  · split at hline
    · cases hline
    · exact Except.ok.inj hline ▸ h
  split at hline
  · split at hline
    · cases hline
    · exact Except.ok.inj hline ▸ h
  split at hline
  · split at hline
    · cases hline
    · exact Except.ok.inj hline ▸ h
  split at hline
  · split at hline
    · cases hline
    · exact Except.ok.inj hline ▸ h
  split at hline
  · split at hline
    · cases hline
    · exact Except.ok.inj hline ▸ h
  split at hline
  · cases hline
  split at hline
  · split at hline
    · cases hline
    · cases hcookie : cookieValue value tls with
      | error e =>
        simp only [hcookie, bind, Except.bind] at hline
        cases hline
      | ok session =>
        simp only [hcookie, bind, Except.bind] at hline
        exact Except.ok.inj hline ▸ ⟨cookieValue_token hcookie, h.2⟩
  split at hline
  · split at hline
    · cases hline
    · rename_i hgood
      simp only [not_or, not_not] at hgood
      exact Except.ok.inj hline ▸ ⟨h.1, .inr hgood.2⟩
  · split at hline
    · cases hline
    · exact Except.ok.inj hline ▸ h

/-- What each line keeps the loop keeps. -/
theorem headerLoop_keeps {P : HeaderState → Prop}
    (hline : ∀ st st' key value, P st → headerLine authority tls st key value = .ok st' → P st')
    {rounds : Nat} {rest : CText} {st st' : HeaderState} (h : P st)
    (hloop : headerLoop authority tls rounds rest st = .ok st') : P st' := by
  induction rounds generalizing rest st with
  | zero =>
    unfold headerLoop at hloop
    split at hloop
    · exact Except.ok.inj hloop ▸ h
    · cases hloop
  | succ rounds ih =>
    unfold headerLoop at hloop
    split at hloop
    · exact Except.ok.inj hloop ▸ h
    split at hloop
    · cases hloop
    split at hloop
    · exact Except.ok.inj hloop ▸ h
    split at hloop
    · cases hloop
    · rename_i key value _
      cases hstep : headerLine authority tls st key value with
      | error e =>
        simp only [hstep, bind, Except.bind] at hloop
        cases hloop
      | ok st₁ =>
        simp only [hstep, bind, Except.bind] at hloop
        exact ih (hline _ _ _ _ h hstep) hloop

theorem tokens_of_headerBlock {b : CText} {out : WebHttp} {length : Nat}
    (h : headerBlock authority tls b = .ok (out, length)) : Token out.session ∧ Token out.csrf := by
  unfold headerBlock at h
  split at h
  · cases h
  rename_i line next _
  split at h
  · cases h
  rename_i method path version _
  split at h
  · cases h
  split at h
  · cases h
  · cases hloop : headerLoop authority tls b.length (next.drop 2)
        { out := { method := method, path := path, write := method = text "POST" } } with
    | error e =>
      simp only [hloop, bind, Except.bind] at h
      cases h
    | ok st =>
      have htokens := headerLoop_keeps (fun _ _ _ _ => headerLine_tokens) ⟨.inl rfl, .inl rfl⟩ hloop
      simp only [hloop, bind, Except.bind] at h
      split at h
      · cases h
      split at h
      · cases h
      split at h
      · cases h
      · obtain ⟨rfl, rfl⟩ := Prod.mk.inj (Except.ok.inj h)
        exact htokens

/-- The session and the token of a request have 64 bytes where there are any. -/
theorem tokens_of_parsed {b : CText} {r : WebHttp} (h : outcome b authority tls = .parsed r) :
    Token r.session ∧ Token r.csrf := by
  obtain ⟨-, -, before, found, out, -, -, hblock, -, rfl⟩ := outcome_parsed h
  have htokens := tokens_of_headerBlock hblock
  exact htokens

/-! ## Values that are pasted -/

/-- A value in which there is nothing to decode, and no control character. -/
def Plain (v : CText) : Prop := ∀ c ∈ v, c ≠ ascii '%' ∧ control c = false

instance (v : CText) : Decidable (Plain v) := List.decidableBAll _ v

theorem decodes_plain {v : CText} (h : Plain v) : Decodes v v := by
  induction v with
  | nil => exact .nil
  | cons c v ih => exact .plain (h c (by simp)).1 (ih fun d hd => h d (by simp [hd]))

theorem hexchar_some {c : UInt8} {n : Nat} (h : hexchar c = some n) : c ≠ 10 := by
  rintro rfl
  cases h

/-- No line ends inside what decodes to a value. -/
theorem decodes_notMem {s v : CText} (h : Decodes s v) (hv : ∀ c ∈ v, control c = false) : (10 : UInt8) ∉ s := by
  induction h with
  | nil => simp
  | @plain c s v hc hs ih =>
    intro hmem
    rcases List.mem_cons.mp hmem with rfl | hmem
    · have hcontrol := hv 10 (by simp)
      cases hcontrol
    · exact ih (fun d hd => hv d (by simp [hd])) hmem
  | @escape a b c s v hescaped hs ih =>
    unfold escaped at hescaped
    simp only [Option.bind_eq_bind, Option.bind_eq_some_iff] at hescaped
    obtain ⟨high, hhigh, low, hlow, -⟩ := hescaped
    intro hmem
    simp only [List.mem_cons] at hmem
    rcases hmem with hpercent | ha | hb | hmem
    · cases hpercent
    · exact hexchar_some hhigh ha.symm
    · exact hexchar_some hlow hb.symm
    · exact ih (fun d hd => hv d (by simp [hd])) hmem

/-- What decodes is no shorter than its value, and as long only if nothing is decoded. -/
theorem decodes_length {s v : CText} (h : Decodes s v) :
    v.length ≤ s.length ∧ (s.length = v.length → s = v ∧ ∀ c ∈ v, c ≠ ascii '%') := by
  induction h with
  | nil => exact ⟨le_rfl, fun _ => ⟨rfl, by simp⟩⟩
  | @plain c s v hc hs ih =>
    refine ⟨by simpa using ih.1, fun hlength => ?_⟩
    obtain ⟨rfl, hplain⟩ := ih.2 (by simpa using hlength)
    exact ⟨rfl, by simpa [hc] using hplain⟩
  | @escape a b c s v hescaped hs ih =>
    simp only [List.length_cons]
    exact ⟨by omega, by omega⟩

/-- A value that a line holds as it stands is plain. -/
theorem plain_of_line {spelled v tail tail' : CText} (h : Decodes spelled v)
    (hv : ∀ c ∈ v, control c = false) (hsplit : spelled ++ 10 :: tail = v ++ 10 :: tail') :
    Plain v ∧ tail = tail' := by
  obtain ⟨hle, hsame⟩ := decodes_length h
  have hcut := congrArg (cutAt 10) hsplit
  rw [cutAt_append (decodes_notMem h hv)] at hcut
  have hvcut : cutAt 10 (v ++ 10 :: tail') = some (v, tail') := by
    refine cutAt_append (fun hmem => ?_) tail'
    have hcontrol := hv 10 hmem
    cases hcontrol
  rw [hvcut] at hcut
  obtain ⟨rfl, rfl⟩ := Prod.mk.inj (Option.some.inj hcut)
  obtain ⟨-, hpercent⟩ := hsame rfl
  exact ⟨fun c hc => ⟨hpercent c hc, hv c hc⟩, rfl⟩

/-! ## The text for the gateway -/

/-- What `web_http_ipc` writes before the body. -/
def ownFields (op : CText) (r : WebHttp) : List Field :=
  { key := text "op", value := op } ::
    if openOp op then []
    else
      { key := text "session", value := r.session } ::
        if r.write then [{ key := text "csrf", value := r.csrf }] else []

/-- A field as it is pasted. -/
def pasted (f : Field) : CText := fieldText f.key f.value

/-- The fields that pass. -/
theorem webHttpIpc_eq_ok {r : WebHttp} {n : Nat} {t op : CText} {fields : List Field}
    (hop : pathOp r.path r.write = some op) (hfields : webFieldsParse r.body = .ok fields)
    (h : webHttpIpc r n = .ok t) :
    t = (ownFields op r).flatMap pasted ++ r.body ∧
      (¬ openOp op = true → r.session ≠ [] ∧ (r.write = true → r.csrf ≠ [])) := by
  unfold webHttpIpc at h
  simp only [hop, hfields] at h
  split at h
  · cases h
  split at h
  · cases h
  rename_i hsession
  split at h
  · cases h
  rename_i hcsrf
  split at h
  · cases h
  · refine ⟨?_, fun hclosed => ⟨fun hnil => hsession ⟨hclosed, hnil⟩, fun hwrite hnil =>
      hcsrf ⟨hclosed, hwrite, hnil⟩⟩⟩
    rw [← Except.ok.inj h]
    unfold ownFields pasted ipcFront
    cases openOp op <;> cases r.write <;> simp

theorem keyText_own {op : CText} {r : WebHttp} : ∀ f ∈ ownFields op r, KeyText f.key := by
  have hkeys : KeyText (text "op") ∧ KeyText (text "session") ∧ KeyText (text "csrf") := by
    refine ⟨⟨by decide +kernel, by decide +kernel⟩, ⟨by decide +kernel, by decide +kernel⟩,
      ⟨by decide +kernel, by decide +kernel⟩⟩
  intro f hf
  unfold ownFields at hf
  rcases List.mem_cons.mp hf with rfl | hf
  · exact hkeys.1
  · split at hf
    · cases hf
    · rcases List.mem_cons.mp hf with rfl | hf
      · exact hkeys.2.1
      · split at hf
        · obtain rfl := List.mem_singleton.mp hf
          exact hkeys.2.2
        · cases hf

theorem fieldLine_pasted {f : Field} (hkey : KeyText f.key) (hlength : f.value.length ≤ 255)
    (hplain : Plain f.value) : FieldLine (pasted f) f :=
  ⟨hkey, ⟨hlength, fun c hc => (hplain c hc).2⟩, f.value, rfl, decodes_plain hplain⟩

/-- **Pasted fields are read back exactly when their values are plain.** -/
theorem pasted_lines {fields more : List Field} (hkeys : ∀ f ∈ fields, KeyText f.key)
    (hlength : ∀ f ∈ fields, f.value.length ≤ 255) {body : CText} :
    (∃ lines, fields.flatMap pasted ++ body = lines.flatten ∧
      List.Forall₂ FieldLine lines (fields ++ more)) ↔
    (∀ f ∈ fields, Plain f.value) ∧ ∃ lines, body = lines.flatten ∧ List.Forall₂ FieldLine lines more := by
  induction fields with
  | nil => simp
  | cons f fields ih =>
    have ih := ih (fun g hg => hkeys g (by simp [hg])) fun g hg => hlength g (by simp [hg])
    have hkey := hkeys f (by simp)
    constructor
    · intro ⟨lines, hlines, hall⟩
      cases hall with
      | @cons line _ lines _ hline hall =>
        obtain ⟨-, hvalue, spelled, rfl, hdecodes⟩ := hline
        have hcut : spelled ++ 10 :: lines.flatten = f.value ++ 10 :: (fields.flatMap pasted ++ body) := by
          have hfront : f.key ++ ascii '=' :: (spelled ++ 10 :: lines.flatten) =
              f.key ++ ascii '=' :: (f.value ++ 10 :: (fields.flatMap pasted ++ body)) := by
            simpa [pasted, fieldText] using hlines.symm
          exact (List.cons.inj (List.append_cancel_left hfront)).2
        obtain ⟨hplain, htail⟩ := plain_of_line hdecodes hvalue.bytes hcut
        obtain ⟨hrest, hbody⟩ := ih.mp ⟨lines, htail.symm, hall⟩
        exact ⟨by simpa [hplain] using hrest, hbody⟩
    · intro ⟨hplain, hbody⟩
      obtain ⟨lines, hlines, hall⟩ := ih.mpr ⟨fun g hg => hplain g (by simp [hg]), hbody⟩
      refine ⟨pasted f :: lines, ?_, .cons (fieldLine_pasted hkey (hlength f (by simp)) (hplain f (by simp))) hall⟩
      rw [List.flatMap_cons, List.append_assoc, hlines, List.flatten_cons]

/-- The keys of the lines before the body are different, and a body that has none of them adds none
    twice. -/
theorem nodup_keys {op : CText} {r : WebHttp} {fields : List Field} (hfields : (fields.map Field.key).Nodup) :
    ((ownFields op r ++ fields).map Field.key).Nodup ↔
      ∀ f ∈ fields, f.key ∉ (ownFields op r).map Field.key := by
  have hown : ((ownFields op r).map Field.key).Nodup := by
    unfold ownFields
    cases openOp op <;> cases r.write <;>
      simp only [Bool.false_eq_true, if_false, if_true, List.map_cons, List.map_nil] <;> decide
  rw [List.map_append, List.nodup_append]
  constructor
  · intro ⟨_, _, hapart⟩ f hf hmem
    exact hapart _ hmem _ (List.mem_map_of_mem hf) rfl
  · intro hapart
    refine ⟨hown, hfields, fun a ha b hb heq => ?_⟩
    obtain ⟨f, hf, rfl⟩ := List.mem_map.mp hb
    exact hapart f hf (heq ▸ ha)

theorem length_ownFields (op : CText) (r : WebHttp) : (ownFields op r).length ≤ 3 := by
  unfold ownFields
  cases openOp op <;> cases r.write <;> simp

/-- An operation that a path names. -/
theorem op_of_path {path op : CText} {write : Bool} (h : pathOp path write = some op) :
    op.length ≤ 255 ∧ Plain op := by
  have hreads : ∀ op ∈ readOps, op.length ≤ 255 ∧ Plain op := by decide +kernel
  have hwrites : ∀ op ∈ writeOps, op.length ≤ 255 ∧ Plain op := by decide +kernel
  unfold pathOp at h
  split at h
  · obtain rfl := Option.some.inj h
    decide
  split at h
  · cases write
    · exact hreads op (List.mem_of_find?_eq_some h)
    · exact hwrites op (List.mem_of_find?_eq_some h)
  · cases h

/-- What is pasted from the headers. -/
def PastedPlain (op : CText) (r : WebHttp) : Prop :=
  ¬ openOp op = true → Plain r.session ∧ (r.write = true → Plain r.csrf)

instance (op : CText) (r : WebHttp) : Decidable (PastedPlain op r) := by
  unfold PastedPlain
  infer_instance

/-- **Header values stay values exactly when they are plain.** For a request that is taken, with a
    body of at most 28 fields: the text for the gateway has the operation, the session and the token
    of 64 bytes each, and the fields of the body, if and only if there is nothing to decode in the two
    and the body has no field of their names. -/
theorem ipc_fields {b : CText} {r : WebHttp} {n : Nat} {t op : CText} {fields : List Field}
    (hparsed : outcome b authority tls = .parsed r) (hop : pathOp r.path r.write = some op)
    (hfields : webFieldsParse r.body = .ok fields) (hcount : fields.length ≤ 28)
    (hipc : webHttpIpc r n = .ok t) :
    (¬ openOp op = true → r.session.length = 64 ∧ (r.write = true → r.csrf.length = 64)) ∧
    (webFieldsParse t = .ok (ownFields op r ++ fields) ↔
      PastedPlain op r ∧ ∀ f ∈ fields, f.key ∉ (ownFields op r).map Field.key) := by
  obtain ⟨hsession, hcsrf⟩ := tokens_of_parsed hparsed
  obtain ⟨rfl, hgiven⟩ := webHttpIpc_eq_ok hop hfields hipc
  have htokens : ¬ openOp op = true → r.session.length = 64 ∧ (r.write = true → r.csrf.length = 64) :=
    fun hclosed => ⟨hsession.resolve_left (hgiven hclosed).1, fun hwrite =>
      hcsrf.resolve_left ((hgiven hclosed).2 hwrite)⟩
  obtain ⟨hopLength, hopPlain⟩ := op_of_path hop
  have hown : ∀ f ∈ ownFields op r, f.value.length ≤ 255 := by
    intro f hf
    unfold ownFields at hf
    rcases List.mem_cons.mp hf with rfl | hf
    · exact hopLength
    · split at hf
      · cases hf
      · rename_i hclosed
        obtain ⟨hs, hc⟩ := htokens hclosed
        rcases List.mem_cons.mp hf with rfl | hf
        · exact hs ▸ (by decide)
        · split at hf
          · rename_i hwrite
            obtain rfl := List.mem_singleton.mp hf
            exact hc hwrite ▸ (by decide)
          · cases hf
  -- of the pasted values only the op is known to be plain
  have hplain : (∀ f ∈ ownFields op r, Plain f.value) ↔ PastedPlain op r := by
    unfold ownFields PastedPlain
    cases openOp op <;> cases r.write <;> simp [hopPlain]
  have hbody := webFieldsParse_ok.mp hfields
  refine ⟨htokens, ?_⟩
  rw [webFieldsParse_ok]
  constructor
  · intro ⟨hlines, _, hdistinct⟩
    exact ⟨hplain.mp ((pasted_lines keyText_own hown).mp hlines).1,
      (nodup_keys hbody.distinct).mp hdistinct⟩
  · intro ⟨hpasted, hapart⟩
    refine ⟨(pasted_lines keyText_own hown).mpr ⟨hplain.mpr hpasted, hbody.lines⟩, ?_,
      (nodup_keys hbody.distinct).mpr hapart⟩
    have hthree := length_ownFields op r
    rw [List.length_append]
    omega

/-- A write with the tokens of a session. -/
def portRequest : CText :=
  text "POST /api/port HTTP/1.1\r\nHost: 127.0.0.1\r\nOrigin: https://127.0.0.1\r\nCookie: session=" ++
    List.replicate 64 (ascii 'a') ++ text "\r\nX-CSRF-Token: " ++ List.replicate 64 (ascii 'b') ++
    text "\r\nContent-Length: 7\r\n\r\nport=1\n"

def portParsed : WebHttp where
  method := text "POST"
  path := text "/api/port"
  session := List.replicate 64 (ascii 'a')
  csrf := List.replicate 64 (ascii 'b')
  body := text "port=1\n"
  write := true

theorem ipc_fields_port :
    portParsed.session.length = 64 ∧
      webFieldsParse (ipcFront (text "port") portParsed ++ text "port=1\n") =
        .ok (ownFields (text "port") portParsed ++ [⟨text "port", text "1"⟩]) := by
  have hparsed : outcome portRequest (text "127.0.0.1") true = .parsed portParsed := by decide +kernel
  have hipc : webHttpIpc portParsed 4097 = .ok (ipcFront (text "port") portParsed ++ text "port=1\n") := by
    decide +kernel
  have hfields : webFieldsParse portParsed.body = .ok [⟨text "port", text "1"⟩] := by decide +kernel
  have hop : pathOp portParsed.path portParsed.write = some (text "port") := by decide +kernel
  have hread := ipc_fields hparsed hop hfields (by decide) hipc
  exact ⟨(hread.1 (by decide)).1, hread.2.mpr (by decide +kernel)⟩

/-- A cookie with the end of a line in it. -/
def splitCookie : CText :=
  text "GET /api/overview HTTP/1.1\r\nHost: 127.0.0.1\r\nCookie: session=" ++
    List.replicate 57 (ascii 'a') ++ text "\nx=root\r\n\r\n"

/-- The request is taken, and its cookie adds a field. -/
theorem splitCookie_adds_field :
    ∃ r t, outcome splitCookie (text "127.0.0.1") true = .parsed r ∧
      pathOp r.path r.write = some (text "overview") ∧ webFieldsParse r.body = .ok [] ∧
      webHttpIpc r 4097 = .ok t ∧
      webFieldsParse t ≠ .ok [⟨text "op", text "overview"⟩, ⟨text "session", r.session⟩] ∧
      webFieldsParse t = .ok [⟨text "op", text "overview"⟩,
        ⟨text "session", List.replicate 57 (ascii 'a')⟩, ⟨text "x", text "root"⟩] := by
  refine ⟨{ method := text "GET", path := text "/api/overview"
            session := List.replicate 57 (ascii 'a') ++ text "\nx=root" },
    text "op=overview\nsession=" ++ List.replicate 57 (ascii 'a') ++ text "\nx=root\n", ?_⟩
  decide +kernel

end FourVrs.Web
