import FourVrs.Web.Http

/-!
# What a request is

The outcome of a request does not depend on how it was cut into reads: a request that is taken is
incomplete before its last byte and refused with one byte more. What is taken has the form of a
request, down to the number of its lines of each kind.

The parser over an array is `outcome` of the bytes it holds (`webHttpParse_eq`), and the cutting
is then a matter of prefixes. `Told` is the invariant of the loop over the lines: what its flags
say of the lines gone by.
-/

set_option autoImplicit false

namespace FourVrs.Web

open Config Lib

/-! ## Nothing is read that is not there -/

theorem findText_length {needle input before found : CText} (h : findText needle input = some (before, found)) :
    input.length = before.length + found.length ∧ needle.length ≤ found.length := by
  obtain ⟨hinput, hfound⟩ := findText_eq_some h
  exact ⟨by rw [hinput, List.length_append], hfound.length_le⟩

theorem cutAt_length {sep : UInt8} {input line rest : CText} (h : cutAt sep input = some (line, rest)) :
    input.length = line.length + rest.length + 1 := by
  rw [(cutAt_eq_some h).1]
  simp
  omega

variable {tls : Bool}

variable {st st' : HeaderState} {r : WebHttp} {rounds : Nat}

theorem cookieLoop_inside {p : CText} (h : p.length ≤ rounds) (found : Bool) (session : CText) :
    cookieLoop tls rounds p found session ≠ .error .outside := by
  induction rounds generalizing p found session with
  | zero =>
    rw [cookieLoop, if_pos (List.length_eq_zero_iff.mp (by omega))]
    simp
  | succ rounds ih =>
    unfold cookieLoop
    cases hcut : cutAt (ascii ';') p with
    | none =>
      simp only [Option.map_none]
      repeat' split
      all_goals simp
    | some cut =>
      obtain ⟨item, after⟩ := cut
      have hlength := cutAt_length hcut
      simp only [Option.map_some]
      repeat' split
      · simp
      · simp
      · exact ih (by omega) true _
      · simp
      · exact ih (by omega) found session

theorem cookieValue_inside {p : CText} : cookieValue p tls ≠ .error .outside := by
  unfold cookieValue
  split
  · simp
  · exact cookieLoop_inside le_rfl false []

variable {fields : List (CText × CText)} {authority : CText}

theorem headerLine_inside {st : HeaderState} {name value : CText} :
    headerLine authority tls st name value ≠ .error .outside := by
  unfold headerLine
  repeat' split
  any_goals simp
  · cases hcookie : cookieValue value tls with
    | error e =>
      intro h
      have he : e = .outside := by simpa [hcookie, bind, Except.bind] using h
      exact cookieValue_inside (he ▸ hcookie)
    | ok session => simp [bind, Except.bind]

theorem headerLoop_inside {rest : CText} (h : rest.length ≤ rounds) (st : HeaderState) :
    headerLoop authority tls rounds rest st ≠ .error .outside := by
  induction rounds generalizing rest st with
  | zero =>
    rw [headerLoop, if_pos (List.length_eq_zero_iff.mp (by omega))]
    simp
  | succ rounds ih =>
    unfold headerLoop
    split
    · simp
    split
    · simp
    · rename_i line next hfind
      have hlength := findText_length hfind
      split
      · simp
      split
      · simp
      · rename_i name value _
        cases hline : headerLine authority tls st name value with
        | error e =>
          intro h
          have he : e = .outside := by simpa [bind, Except.bind] using h
          exact headerLine_inside (he ▸ hline)
        | ok st' =>
          refine ih ?_ st'
          rw [List.length_drop]
          simp only [crlf, List.length_cons, List.length_nil] at hlength
          omega

theorem headerBlock_inside {h : CText} :
    headerBlock authority tls h ≠ .error .outside := by
  unfold headerBlock
  split
  · simp
  · rename_i line next hfind
    have hlength := findText_length hfind
    split
    · simp
    rename_i method path version _
    split
    · simp
    split
    · simp
    · cases hloop : headerLoop authority tls h.length (next.drop 2)
          { out := { method := method, path := path, write := method = text "POST" } } with
      | error e =>
        intro h
        have he : e = .outside := by simpa [hloop, bind, Except.bind] using h
        refine headerLoop_inside ?_ _ (he ▸ hloop)
        rw [List.length_drop]
        omega
      | ok st =>
        simp only [hloop, bind, Except.bind]
        repeat' split
        all_goals simp

/-! ## The outcome -/

/-- What `web_http_parse` says of the bytes of a request. -/
def outcome (b authority : CText) (tls : Bool) : HttpAnswer :=
  if b.length > webHttpMax ∨ 0 ∈ b then .refused 400
  else
    match findText (crlf ++ crlf) b with
    | none => if b.length ≥ 4096 then .refused 431 else .incomplete
    | some (before, _) =>
        let header := before.length + 4
        if header > 4096 then .refused 431
        else
          match headerBlock authority tls (b.take header) with
          | .error (.status code) => .refused code
          | .error .outside => .refused 0
          | .ok (out, length) =>
              if b.length < header + length then .incomplete
              else if b.length ≠ header + length then .refused 400
              else .parsed { out with body := b.drop header }

/-- What is left of the buffer: at most the byte behind the request is written. -/
def leaves (mem : List UInt8) (n : Nat) : List UInt8 :=
  if n > webHttpMax ∨ 0 ∈ mem.take n then mem else mem.set n 0

theorem storeAt_byte {mem : List UInt8} {n : Nat} (h : n < mem.length) (c : UInt8) :
    storeAt mem n [c] = some (mem.set n c) := by
  rw [storeAt, if_pos (by simp; omega), List.set_eq_take_append_cons_drop, if_pos h]
  simp

/-- **In a buffer with one byte to spare nothing else is touched**, and only the request counts. -/
theorem webHttpParse_eq {mem : List UInt8} {n : Nat} (h : n < mem.length) (authority : CText) (tls : Bool) :
    webHttpParse mem n authority tls = some (outcome (mem.take n) authority tls, leaves mem n) := by
  have hlength : (mem.take n).length = n := by
    rw [List.length_take]
    omega
  unfold webHttpParse outcome leaves
  simp only [hlength]
  by_cases hlong : n > webHttpMax
  · simp [hlong]
  · have hgiven : readWithin mem 0 n = some (mem.take n) := by
      rw [readWithin_eq (by omega)]
      simp
    simp only [hlong, if_false, false_or, hgiven, Option.bind_eq_bind, Option.bind_some]
    by_cases hzero : 0 ∈ mem.take n
    · simp [hzero]
    · have hstring : stringOf (mem.set n 0) = some (mem.take n) := by
        rw [List.set_eq_take_append_cons_drop, if_pos h, stringOf, cutAt_append hzero]
        rfl
      have hread : ∀ i k, i + k ≤ n → readWithin (mem.set n 0) i k = some (((mem.take n).drop i).take k) := by
        intro i k hk
        rw [readWithin_eq (by simp; omega)]
        congr 1
        rw [List.set_eq_take_append_cons_drop, if_pos h, List.drop_append_of_le_length (by omega),
          List.take_append_of_le_length (by rw [List.length_drop]; omega)]
      simp only [hzero, if_false, storeAt_byte h, hstring, Option.bind_some]
      cases hfind : findText (crlf ++ crlf) (mem.take n) with
      | none => rfl
      | some found =>
        obtain ⟨before, found⟩ := found
        have hheader : before.length + 4 ≤ n := by
          have hle := findText_length hfind
          rw [hlength] at hle
          simp only [crlf, List.length_append, List.length_cons, List.length_nil] at hle
          omega
        simp only []
        split
        · rfl
        · rw [hread 0 _ (by omega)]
          simp only [List.drop_zero, Option.bind_some]
          cases hblock : headerBlock authority tls ((mem.take n).take (before.length + 4)) with
          | error e =>
            cases e with
            | outside => exact absurd hblock headerBlock_inside
            | status code => rfl
          | ok out =>
            obtain ⟨out, length⟩ := out
            simp only []
            split
            · rfl
            split
            · rfl
            · rename_i hfull
              rw [hread _ _ (by omega)]
              simp only [Option.bind_some]
              rw [List.take_of_length_le]
              rw [List.length_drop, hlength]
              omega

/-! ## Segments -/

/-- What a request that is taken consists of. -/
theorem outcome_parsed {b authority : CText} (h : outcome b authority tls = .parsed r) :
    b.length ≤ webHttpMax ∧ 0 ∉ b ∧ ∃ before found out, findText (crlf ++ crlf) b = some (before, found) ∧
      before.length + 4 ≤ 4096 ∧
      headerBlock authority tls (b.take (before.length + 4)) = .ok (out, r.body.length) ∧
      b.length = before.length + 4 + r.body.length ∧ r = { out with body := b.drop (before.length + 4) } := by
  unfold outcome at h
  split at h
  · cases h
  · rename_i hsize
    simp only [not_or, not_lt] at hsize
    refine ⟨hsize.1, hsize.2, ?_⟩
    split at h
    · split at h <;> cases h
    · rename_i before found hfind
      simp only [] at h
      split at h
      · cases h
      rename_i hheader
      split at h
      · cases h
      · cases h
      rename_i out length hblock
      split at h
      · cases h
      split at h
      · cases h
      · rename_i hfull
        obtain rfl := HttpAnswer.parsed.inj h
        have hbody : (b.drop (before.length + 4)).length = length := by
          rw [List.length_drop]
          omega
        refine ⟨before, found, out, hfind, by omega, ?_, ?_, rfl⟩
        · rw [hblock, ← hbody]
        · simp only [hbody]
          omega

/-- Before its last byte a request is incomplete. -/
theorem outcome_front {front more authority : CText} (h : outcome (front ++ more) authority tls = .parsed r)
    (hmore : more ≠ []) :
    outcome front authority tls = .incomplete := by
  obtain ⟨hsize, hzero, before, found, out, hfind, hheader, hblock, hlength, -⟩ := outcome_parsed h
  have hpos := List.length_pos_iff.mpr hmore
  rw [List.length_append] at hsize hlength
  unfold outcome
  rw [if_neg (by simp only [List.mem_append, not_or] at hzero ⊢; exact ⟨by omega, hzero.1⟩),
    findText_of_append hfind]
  have hcrlf : (crlf ++ crlf).length = 4 := rfl
  rw [hcrlf]
  by_cases hcut : before.length + 4 ≤ front.length
  · -- the header block is complete, the body is not
    rw [if_pos hcut]
    simp only []
    rw [if_neg (by omega)]
    rw [List.take_append_of_le_length hcut] at hblock
    simp only [hblock]
    rw [if_pos (by omega)]
  · rw [if_neg hcut]
    simp only []
    rw [if_neg (by omega)]

/-- With anything more it is refused. -/
theorem outcome_more {b more authority : CText} (h : outcome b authority tls = .parsed r) (hmore : more ≠ []) :
    outcome (b ++ more) authority tls = .refused 400 := by
  obtain ⟨hsize, hzero, before, found, out, hfind, hheader, hblock, hlength, -⟩ := outcome_parsed h
  have hpos := List.length_pos_iff.mpr hmore
  unfold outcome
  split
  · rfl
  · rw [findText_append_right hfind]
    simp only []
    rw [if_neg (by omega), List.take_append_of_le_length (by omega)]
    simp only [hblock, List.length_append]
    rw [if_neg (by omega), if_pos (by omega)]

/-! ## The form of a request -/

/-- The values of the fields of that name. -/
def valuesOf (name : CText) (fields : List (CText × CText)) : List CText :=
  (fields.filter fun f => sameText f.1 name).map Prod.snd

/-- A number in decimal notation. -/
structure Decimal (v : CText) (n : Nat) : Prop where
  digits : v ≠ [] ∧ ∀ c ∈ v, isDigit c = true
  value : digitsValue v = n

/-- A header block with its fields: the request line, a line for each field, an empty line. -/
structure HeaderText (block method path : CText) (fields : List (CText × CText)) : Prop where
  lines : ∃ lines : List CText,
    block = method ++ ascii ' ' :: path ++ ascii ' ' :: text "HTTP/1.1" ++ crlf ++
      lines.flatMap (· ++ crlf) ++ crlf ∧
      (∀ line ∈ lines, line ≠ [] ∧ ¬ crlf <:+: line) ∧ lines.map headerField = fields.map some
  /-- The empty line is the first one. -/
  first : ∀ front back, block = front ++ back → crlf ++ crlf <+: back → back = crlf ++ crlf

/-- What `web_http_parse` promises of a request. -/
structure Accepted (b authority : CText) (tls : Bool) (r : WebHttp) : Prop where
  form : ∃ block fields, b = block ++ r.body ∧ block.length ≤ 4096 ∧
    HeaderText block r.method r.path fields ∧
    valuesOf (text "Host") fields = [authority] ∧
    valuesOf (text "Transfer-Encoding") fields = [] ∧ valuesOf (text "Expect") fields = [] ∧
    (valuesOf (text "Origin") fields = [] ∨
      valuesOf (text "Origin") fields = [ownOrigin authority tls]) ∧
    (valuesOf (text "Content-Length") fields = [] ∧ r.body = [] ∨
      ∃ v, valuesOf (text "Content-Length") fields = [v] ∧ Decimal v r.body.length) ∧
    (r.method = text "POST" →
      valuesOf (text "Origin") fields ≠ [] ∧ valuesOf (text "Content-Length") fields ≠ [])
  method : r.method = text "GET" ∨ r.method = text "HEAD" ∨ r.method = text "POST"
  path : r.path.head? = some (ascii '/') ∧ r.path.length ≤ 63

theorem numberLoop_eq_some {max : Nat} {s : CText} {v n : Nat} (h : numberLoop max s v = some n) :
    (∀ c ∈ s, isDigit c = true) ∧ s.foldl (fun value b => 10 * value + digitValue b) v = n := by
  induction s generalizing v with
  | nil => exact ⟨by simp, Option.some.inj h⟩
  | cons c s ih =>
    unfold numberLoop at h
    split at h
    · rename_i hdigit
      simp only [] at h
      split at h
      · cases h
      · obtain ⟨hdigits, hvalue⟩ := ih h
        refine ⟨by simpa [hdigit] using hdigits, ?_⟩
        rw [List.foldl_cons, Nat.mul_comm 10 v]
        exact hvalue
    · cases h

theorem decimal_of_webNumber {v : CText} {max n : Nat} (h : webNumber v max = some n) : Decimal v n := by
  unfold webNumber at h
  split at h
  · cases h
  · rename_i hsome
    obtain ⟨hdigits, hvalue⟩ := numberLoop_eq_some h
    exact ⟨⟨hsome, hdigits⟩, hvalue⟩

theorem valuesOf_append {name : CText} (fields : List (CText × CText)) (key value : CText) :
    valuesOf name (fields ++ [(key, value)]) =
      valuesOf name fields ++ if sameText key name then [value] else [] := by
  unfold valuesOf
  rw [List.filter_append, List.map_append]
  by_cases h : sameText key name = true
  · simp [h]
  · simp [h]

/-- A name is that of one kind of line. -/
theorem sameText_other {key a b : CText} (h : sameText key a = true) (hab : a.map lower ≠ b.map lower) :
    sameText key b = false := by
  simp only [sameText, decide_eq_true_eq, decide_eq_false_iff_not] at h ⊢
  exact fun hb => hab (h.symm.trans hb)

/-- What the loop over the lines knows of the fields so far. -/
structure Told (authority : CText) (tls : Bool) (fields : List (CText × CText)) (st : HeaderState) : Prop where
  host : valuesOf (text "Host") fields = if st.host then [authority] else []
  origin : valuesOf (text "Origin") fields = if st.origin then [ownOrigin authority tls] else []
  length : if st.haveLength then
      ∃ v, valuesOf (text "Content-Length") fields = [v] ∧ webNumber v webBodyMax = some st.length
    else valuesOf (text "Content-Length") fields = [] ∧ st.length = 0
  coding : valuesOf (text "Transfer-Encoding") fields = []
  expect : valuesOf (text "Expect") fields = []

/-- A line of no kind that counts here. -/
theorem Told.other (h : Told authority tls fields st) {key : CText} (value : CText)
    (hkey : ∀ name ∈ ["Host", "Origin", "Content-Length", "Transfer-Encoding", "Expect"],
      sameText key (text name) = false)
    (hsame : st'.host = st.host ∧ st'.origin = st.origin ∧ st'.haveLength = st.haveLength ∧
      st'.length = st.length) : Told authority tls (fields ++ [(key, value)]) st' := by
  obtain ⟨hhost, horigin, hhave, hlength⟩ := hsame
  have hvalues : ∀ name ∈ ["Host", "Origin", "Content-Length", "Transfer-Encoding", "Expect"],
      valuesOf (text name) (fields ++ [(key, value)]) = valuesOf (text name) fields := by
    intro name hname
    rw [valuesOf_append, hkey name hname]
    simp
  refine ⟨?_, ?_, ?_, ?_, ?_⟩
  · rw [hvalues _ (by simp), hhost, h.host]
  · rw [hvalues _ (by simp), horigin, h.origin]
  · rw [hvalues _ (by simp), hhave, hlength]
    exact h.length
  · rw [hvalues _ (by simp), h.coding]
  · rw [hvalues _ (by simp), h.expect]

/-- A line of another kind does not count. -/
theorem valuesOf_other {key value : CText} {name : String} {a : CText} (h : sameText key a = true)
    (ha : a.map lower ≠ (text name).map lower) :
    valuesOf (text name) (fields ++ [(key, value)]) = valuesOf (text name) fields := by
  rw [valuesOf_append, sameText_other h ha]
  simp

theorem valuesOf_same {key value name : CText} (h : sameText key name = true) :
    valuesOf name (fields ++ [(key, value)]) = valuesOf name fields ++ [value] := by
  rw [valuesOf_append, h]
  rfl

/-- What the request line said stays. -/
def SameLine (st st' : HeaderState) : Prop :=
  st'.out.method = st.out.method ∧ st'.out.path = st.out.path ∧ st'.out.write = st.out.write

/-- One line. -/
theorem told_headerLine {key value : CText} (h : Told authority tls fields st)
    (hline : headerLine authority tls st key value = .ok st') :
    Told authority tls (fields ++ [(key, value)]) st' ∧ SameLine st st' := by
  have hkinds : ∀ a : CText, sameText key a = true →
      (∀ name ∈ ["Host", "Origin", "Content-Length", "Transfer-Encoding", "Expect"],
        a.map lower ≠ (text name).map lower) →
      ∀ name ∈ ["Host", "Origin", "Content-Length", "Transfer-Encoding", "Expect"],
        sameText key (text name) = false := fun a ha hne name hname => sameText_other ha (hne name hname)
  unfold headerLine at hline
  -- the kinds of line in the order of the source; Host and Origin may come once
  split at hline
  · rename_i hkey
    split at hline
    · cases hline
    · rename_i hgood
      simp only [not_or, Bool.not_eq_true, not_not] at hgood
      obtain ⟨hfresh, rfl⟩ := hgood
      obtain rfl := Except.ok.inj hline
      refine ⟨⟨?_, ?_, ?_, ?_, ?_⟩, rfl, rfl, rfl⟩
      · rw [valuesOf_same hkey, h.host, hfresh]
        rfl
      · rw [valuesOf_other hkey (by decide), h.origin]
      · rw [valuesOf_other hkey (by decide)]
        exact h.length
      · rw [valuesOf_other hkey (by decide), h.coding]
      · rw [valuesOf_other hkey (by decide), h.expect]
  split at hline
  · rename_i hkey
    split at hline
    · cases hline
    · obtain rfl := Except.ok.inj hline
      exact ⟨h.other value (hkinds _ hkey (by decide)) ⟨rfl, rfl, rfl, rfl⟩, rfl, rfl, rfl⟩
  split at hline
  · rename_i hkey
    split at hline
    · cases hline
    · obtain rfl := Except.ok.inj hline
      exact ⟨h.other value (hkinds _ hkey (by decide)) ⟨rfl, rfl, rfl, rfl⟩, rfl, rfl, rfl⟩
  split at hline
  · rename_i hkey
    split at hline
    · cases hline
    · rename_i hgood
      simp only [not_or, Bool.not_eq_true, not_not] at hgood
      obtain ⟨hfresh, rfl⟩ := hgood
      obtain rfl := Except.ok.inj hline
      refine ⟨⟨?_, ?_, ?_, ?_, ?_⟩, rfl, rfl, rfl⟩
      · rw [valuesOf_other hkey (by decide), h.host]
      · rw [valuesOf_same hkey, h.origin, hfresh]
        rfl
      · rw [valuesOf_other hkey (by decide)]
        exact h.length
      · rw [valuesOf_other hkey (by decide), h.coding]
      · rw [valuesOf_other hkey (by decide), h.expect]
  split at hline
  · rename_i hkey
    split at hline
    · cases hline
    rename_i length hnumber
    split at hnumber
    · cases hnumber
    · rename_i hfresh
      obtain rfl := Except.ok.inj hline
      refine ⟨⟨?_, ?_, ?_, ?_, ?_⟩, rfl, rfl, rfl⟩
      · rw [valuesOf_other hkey (by decide), h.host]
      · rw [valuesOf_other hkey (by decide), h.origin]
      · have hlength := h.length
        rw [if_neg hfresh] at hlength
        rw [if_pos rfl, valuesOf_same hkey, hlength.1]
        exact ⟨value, rfl, hnumber⟩
      · rw [valuesOf_other hkey (by decide), h.coding]
      · rw [valuesOf_other hkey (by decide), h.expect]
  split at hline
  · cases hline
  · rename_i hhost _ _ horigin hlength hcoding
    -- a line of none of these kinds
    simp only [not_or, Bool.not_eq_true] at hhost horigin hlength hcoding
    have hnone : ∀ name ∈ ["Host", "Origin", "Content-Length", "Transfer-Encoding", "Expect"],
        sameText key (text name) = false := by
      intro name hname
      simp only [List.mem_cons, List.not_mem_nil, or_false] at hname
      rcases hname with rfl | rfl | rfl | rfl | rfl
      · exact hhost
      · exact horigin
      · exact hlength
      · exact hcoding.1
      · exact hcoding.2
    split at hline
    · split at hline
      · cases hline
      · cases hcookie : cookieValue value tls with
        | error e => simp [hcookie, bind, Except.bind] at hline
        | ok session =>
          simp only [hcookie, bind, Except.bind] at hline
          obtain rfl := Except.ok.inj hline
          exact ⟨h.other value hnone ⟨rfl, rfl, rfl, rfl⟩, rfl, rfl, rfl⟩
    split at hline
    · split at hline
      · cases hline
      · obtain rfl := Except.ok.inj hline
        exact ⟨h.other value hnone ⟨rfl, rfl, rfl, rfl⟩, rfl, rfl, rfl⟩
    split at hline
    · cases hline
    · obtain rfl := Except.ok.inj hline
      exact ⟨h.other value hnone ⟨rfl, rfl, rfl, rfl⟩, rfl, rfl, rfl⟩

/-- The loop: the lines it has read, and what it knows of them. -/
theorem told_headerLoop {rest : CText} (h : Told authority tls fields st)
    (hloop : headerLoop authority tls rounds rest st = .ok st') :
    ∃ (lines : List CText) (tail : CText) (more : List (CText × CText)),
      rest = lines.flatMap (· ++ crlf) ++ tail ∧ (tail = [] ∨ crlf <+: tail) ∧
      (∀ line ∈ lines, line ≠ [] ∧ ¬ crlf <:+: line) ∧ lines.map headerField = more.map some ∧
      Told authority tls (fields ++ more) st' ∧ SameLine st st' := by
  induction rounds generalizing rest fields st with
  | zero =>
    unfold headerLoop at hloop
    split at hloop
    · rename_i hnil
      obtain rfl := Except.ok.inj hloop
      exact ⟨[], [], [], by simp [hnil], .inl rfl, by simp, rfl, by simpa using h, rfl, rfl, rfl⟩
    · cases hloop
  | succ rounds ih =>
    unfold headerLoop at hloop
    split at hloop
    · rename_i hnil
      obtain rfl := Except.ok.inj hloop
      exact ⟨[], [], [], by simp [hnil], .inl rfl, by simp, rfl, by simpa using h, rfl, rfl, rfl⟩
    split at hloop
    · cases hloop
    · rename_i line next hfind
      obtain ⟨hrest, hnext⟩ := findText_eq_some hfind
      split at hloop
      · rename_i hempty
        obtain rfl := Except.ok.inj hloop
        refine ⟨[], rest, [], by simp, .inr ?_, by simp, rfl, by simpa using h, rfl, rfl, rfl⟩
        rw [hrest, hempty]
        exact hnext
      rename_i hsome
      split at hloop
      · cases hloop
      · rename_i key value hfield
        cases hline : headerLine authority tls st key value with
        | error e => simp [hline, bind, Except.bind] at hloop
        | ok st₁ =>
          simp only [hline, bind, Except.bind] at hloop
          obtain ⟨htold, hsame₁⟩ := told_headerLine h hline
          obtain ⟨lines, tail, more, hdrop, htail, hlines, hfields, hmore, hsame₂⟩ := ih htold hloop
          obtain ⟨after, hafter⟩ := hnext
          have hcut : next = crlf ++ (lines.flatMap (· ++ crlf) ++ tail) := by
            rw [← hdrop, ← hafter]
            rfl
          refine ⟨line :: lines, tail, (key, value) :: more, ?_, htail, ?_, ?_, ?_, ?_⟩
          · rw [hrest, hcut]
            simp
          · intro l hl
            rcases List.mem_cons.mp hl with rfl | hl
            · refine ⟨hsome, fun ⟨front, back, hinfix⟩ => ?_⟩
              have hle := @findText_first _ _ crlf _ _ _ hfind front (crlf ++ (back ++ next))
                (by rw [hrest, ← hinfix]; simp) (List.prefix_append _ _)
              have hlength : crlf.length = 2 := rfl
              rw [← hinfix] at hle
              simp only [List.length_append] at hle
              omega
            · exact hlines l hl
          · simp [hfield, hfields]
          · rw [List.append_assoc] at hmore
            exact hmore
          · exact ⟨hsame₂.1.trans hsame₁.1, hsame₂.2.1.trans hsame₁.2.1, hsame₂.2.2.trans hsame₁.2.2⟩

/-- Behind the end of a line a text that ends like one has an end of a line in it. -/
theorem crlf_within {v l : CText} (hv : crlf <:+ v) (hl : l ≠ []) (h : crlf <:+ v ++ l) : crlf <:+: l := by
  rcases List.eq_nil_or_concat l with rfl | ⟨init, y, rfl⟩
  · exact absurd rfl hl
  · rcases List.eq_nil_or_concat init with rfl | ⟨init, x, rfl⟩
    · -- a line of one byte: the byte before it ends the line before it
      obtain ⟨front, hfront⟩ := hv
      obtain ⟨back, hback⟩ := h
      have hsplit : back ++ [13] ++ [10] = front ++ [13] ++ [10] ++ [y] := by
        simpa [crlf, ← hfront] using hback
      have hinit := (List.append_inj' hsplit rfl).1
      have hlast := (List.append_inj' hinit rfl).2
      cases hlast
    · obtain ⟨back, hback⟩ := h
      have hsplit : back ++ [13, 10] = v ++ init ++ [x, y] := by simpa [crlf] using hback
      have hlast := (List.append_inj' hsplit rfl).2
      refine ⟨init, [], ?_⟩
      rw [crlf, hlast]
      simp

/-- Before the first empty line every line is one, and behind it there is nothing. -/
theorem tail_of_lines {before front tail : CText} {lines : List CText}
    (hfirst : ∀ a b, before ++ (crlf ++ crlf) = a ++ b → crlf ++ crlf <+: b → before.length ≤ a.length)
    (hfront : ¬ crlf <:+: front)
    (hlines : ∀ line ∈ lines, line ≠ [] ∧ ¬ crlf <:+: line) (htail : tail = [] ∨ crlf <+: tail)
    (hsplit : before ++ (crlf ++ crlf) = front ++ crlf ++ lines.flatMap (· ++ crlf) ++ tail) : tail = crlf := by
  have hend : ∃ w, front ++ crlf ++ lines.flatMap (· ++ crlf) = w ++ crlf ∧
      (w = front ∨ ∃ v l, w = v ++ l ∧ crlf <:+ v ∧ l ∈ lines) := by
    rcases List.eq_nil_or_concat lines with rfl | ⟨init, l, rfl⟩
    · exact ⟨front, by simp, .inl rfl⟩
    · refine ⟨front ++ crlf ++ init.flatMap (· ++ crlf) ++ l, by simp, .inr ⟨_, l, rfl, ?_, by simp⟩⟩
      rcases List.eq_nil_or_concat init with rfl | ⟨init, k, rfl⟩
      · exact ⟨front, by simp⟩
      · exact ⟨front ++ crlf ++ init.flatMap (· ++ crlf) ++ k, by simp⟩
  obtain ⟨w, hw, hcases⟩ := hend
  rw [hw] at hsplit
  rcases htail with rfl | ⟨u, rfl⟩
  · -- the block would end with a line that ends with an empty one
    have hshort : before ++ crlf = w := by
      have hcut : (before ++ crlf) ++ crlf = w ++ crlf := by simpa using hsplit
      exact (List.append_inj' hcut rfl).1
    rcases hcases with rfl | ⟨v, l, rfl, hv, hl⟩
    · exact absurd ⟨before, [], by simpa using hshort⟩ hfront
    · exact absurd (crlf_within hv (hlines l hl).1 ⟨before, hshort⟩) (hlines l hl).2
  · have hle := hfirst w (crlf ++ crlf ++ u) (by rw [hsplit]; simp) (List.prefix_append _ _)
    have hlength := congrArg List.length hsplit
    simp only [List.length_append] at hlength
    have hu : u = [] := List.length_eq_zero_iff.mp (by omega)
    rw [hu, List.append_nil]

theorem requestLine_eq_some {line method path version : CText}
    (h : requestLine line = some (method, path, version)) :
    line = method ++ ascii ' ' :: path ++ ascii ' ' :: version := by
  unfold requestLine at h
  simp only [Option.bind_eq_bind, Option.bind_eq_some_iff] at h
  obtain ⟨⟨m, rest⟩, hm, ⟨p, v⟩, hp, hend⟩ := h
  obtain ⟨rfl, rfl, rfl⟩ : m = method ∧ p = path ∧ v = version := by simpa using hend
  have hrest := (cutAt_eq_some hp).1
  simp only at hrest
  rw [(cutAt_eq_some hm).1, hrest]
  simp

/-- A header block that is taken. -/
theorem headerBlock_eq_ok {authority before : CText} {out : WebHttp} {length : Nat}
    (hfirst : ∀ a b, before ++ (crlf ++ crlf) = a ++ b → crlf ++ crlf <+: b → before.length ≤ a.length)
    (h : headerBlock authority tls (before ++ (crlf ++ crlf)) = .ok (out, length)) :
    ∃ fields st, HeaderText (before ++ (crlf ++ crlf)) out.method out.path fields ∧
      Told authority tls fields st ∧ st.host = true ∧ st.length = length ∧ st.out = out ∧
      (out.method = text "GET" ∨ out.method = text "HEAD" ∨ out.method = text "POST") ∧
      (out.path.head? = some (ascii '/') ∧ out.path.length ≤ 63) ∧
      (out.method = text "POST" → st.origin = true ∧ st.haveLength = true) ∧
      (out.method ≠ text "POST" → length = 0) := by
  unfold headerBlock at h
  split at h
  · cases h
  · rename_i line next hfind
    obtain ⟨hblock, after, hnext⟩ := findText_eq_some hfind
    -- a line end within the first line would have been found before it
    have hline : ¬ crlf <:+: line := by
      intro ⟨front, back, hinfix⟩
      have hle := @findText_first _ _ crlf _ _ _ hfind front (crlf ++ (back ++ next))
        (by rw [hblock, ← hinfix]; simp) (List.prefix_append _ _)
      have hlength : crlf.length = 2 := rfl
      rw [← hinfix] at hle
      simp only [List.length_append] at hle
      omega
    split at h
    · cases h
    rename_i method path version hrequest
    split at h
    · cases h
    · rename_i hform
      simp only [not_or, not_not, not_lt] at hform
      obtain ⟨rfl, -, hpath, hslash⟩ := hform
      split at h
      · cases h
      · rename_i hmethod
        have hmethod' : method = text "GET" ∨ method = text "HEAD" ∨ method = text "POST" := by
          by_cases hget : method = text "GET"
          · exact .inl hget
          · by_cases hhead : method = text "HEAD"
            · exact .inr (.inl hhead)
            · exact .inr (.inr (not_not.mp fun hpost => hmethod ⟨hget, hpost, hhead⟩))
        cases hloop : headerLoop authority tls (before ++ (crlf ++ crlf)).length (next.drop 2)
            { out := { method := method, path := path, write := method = text "POST" } } with
        | error e =>
          simp only [hloop, bind, Except.bind] at h
          cases h
        | ok st =>
          -- the loop starts where nothing is told yet
          have htold : Told authority tls []
              { out := { method := method, path := path, write := method = text "POST" } } :=
            ⟨rfl, rfl, ⟨rfl, rfl⟩, rfl, rfl⟩
          obtain ⟨lines, tail, fields, hdrop, htail, hlines, hfields, hmore, hmethodSame, hpathSame, hwrite⟩ :=
            told_headerLoop htold hloop
          simp only [hloop, bind, Except.bind] at h
          simp only at hmethodSame hpathSame hwrite
          split at h
          · cases h
          rename_i hhost
          split at h
          · cases h
          rename_i hpost
          split at h
          · cases h
          · rename_i hget
            obtain ⟨rfl, rfl⟩ := Prod.mk.inj (Except.ok.inj h)
            have hrest : next = crlf ++ (lines.flatMap (· ++ crlf) ++ tail) := by
              rw [← hdrop, ← hnext]
              rfl
            have hsplit : before ++ (crlf ++ crlf) =
                line ++ crlf ++ lines.flatMap (· ++ crlf) ++ tail := by
              rw [hblock, hrest]
              simp
            -- the block ends at its first blank line, so nothing follows the lines
            have hempty := tail_of_lines hfirst hline hlines htail hsplit
            refine ⟨fields, st, ⟨⟨lines, ?_, hlines, hfields⟩, ?_⟩, hmore, ?_, rfl, rfl, ?_, ?_, ?_, ?_⟩
            · rw [hsplit, hempty, requestLine_eq_some hrequest, hmethodSame, hpathSame]
            · intro front back hcut hback
              have hle := hfirst front back hcut hback
              have hlength := congrArg List.length hcut
              have hneedle := hback.length_le
              simp only [List.length_append] at hlength hneedle
              obtain ⟨more, rfl⟩ := hback
              have hmore : more = [] := by
                rw [List.length_append, List.length_append] at hlength
                exact List.length_eq_zero_iff.mp (by omega)
              rw [hmore, List.append_nil]
            · simpa using hhost
            · rw [hmethodSame]
              exact hmethod'
            · rw [hpathSame]
              exact ⟨hslash, hpath⟩
            · intro hm
              rw [hmethodSame] at hm
              rw [hwrite, hm] at hpost
              simpa using hpost
            · intro hm
              rw [hmethodSame] at hm
              rw [hwrite] at hget
              simpa [hm] using hget

/-- What is taken is a request. -/
theorem accepted_of_outcome {b authority : CText} (h : outcome b authority tls = .parsed r) :
    Accepted b authority tls r := by
  obtain ⟨-, -, before, found, out, hfind, hheader, hblock, hlength, hr⟩ := outcome_parsed h
  obtain ⟨hb, hfound⟩ := findText_eq_some hfind
  have htake : b.take (before.length + 4) = before ++ (crlf ++ crlf) := by
    obtain ⟨more, hmore⟩ := hfound
    rw [hb, ← hmore, ← List.append_assoc]
    exact List.take_left' (by simp [crlf])
  have hsplit : b = before ++ (crlf ++ crlf) ++ b.drop (before.length + 4) := by
    rw [← htake, List.take_append_drop]
  have hfirst : ∀ front back, before ++ (crlf ++ crlf) = front ++ back → crlf ++ crlf <+: back →
      before.length ≤ front.length := by
    intro front back hcut hback
    refine @findText_first _ _ _ _ _ _ hfind front (back ++ b.drop (before.length + 4)) ?_ ?_
    · rw [← List.append_assoc, ← hcut]
      exact hsplit
    · exact hback.trans (List.prefix_append _ _)
  rw [htake] at hblock
  obtain ⟨fields, st, htext, htold, hhost, hstLength, -, hmethod, hpath, hpost, hget⟩ :=
    headerBlock_eq_ok hfirst hblock
  subst hr
  refine ⟨⟨_, fields, hsplit, ?_, htext, ?_, htold.coding, htold.expect, ?_, ?_, ?_⟩, hmethod, hpath⟩
  · simp only [List.length_append, crlf, List.length_cons, List.length_nil]
    omega
  · rw [htold.host, hhost]
    rfl
  · rw [htold.origin]
    cases st.origin
    · exact .inl rfl
    · exact .inr rfl
  · have hcontent := htold.length
    simp only at hstLength ⊢
    split at hcontent
    · obtain ⟨v, hv, hnumber⟩ := hcontent
      rw [hstLength] at hnumber
      exact .inr ⟨v, hv, decimal_of_webNumber hnumber⟩
    · refine .inl ⟨hcontent.1, List.length_eq_zero_iff.mp ?_⟩
      rw [← hstLength, hcontent.2]
  · intro hm
    obtain ⟨horigin, hhave⟩ := hpost hm
    have hcontent := htold.length
    rw [if_pos hhave] at hcontent
    obtain ⟨v, hv, -⟩ := hcontent
    rw [htold.origin, if_pos horigin, hv]
    simp

theorem ownOrigin_eq (h : authority.length ≤ 87) :
    ownOrigin authority tls = text (if tls then "https" else "http") ++ text "://" ++ authority := by
  unfold ownOrigin
  refine List.take_of_length_le ?_
  cases tls <;> simp [text] <;> omega

/-- **Segments do not matter.** Of a buffer only the bytes of the request and the one behind them are
    touched. A request that is taken has the form of one, is incomplete as long as a byte is missing
    and refused with any more. The origin is the whole of it for an authority that leaves room. -/
theorem segments_agree (authority : CText) (tls : Bool) :
    (∀ mem n, n < mem.length → webHttpParse mem n authority tls =
      some (outcome (mem.take n) authority tls, leaves mem n)) ∧
    (∀ b r, outcome b authority tls = .parsed r → Accepted b authority tls r ∧
      (∀ front more, b = front ++ more → more ≠ [] → outcome front authority tls = .incomplete) ∧
      ∀ more, more ≠ [] → outcome (b ++ more) authority tls = .refused 400) ∧
    (authority.length ≤ 87 →
      ownOrigin authority tls = text (if tls then "https" else "http") ++ text "://" ++ authority) := by
  refine ⟨fun mem n h => webHttpParse_eq h authority tls, fun b r h => ⟨accepted_of_outcome h, ?_, ?_⟩,
    ownOrigin_eq⟩
  · rintro front more rfl hmore
    exact outcome_front h hmore
  · exact fun more hmore => outcome_more h hmore

/-- A request of the tests. -/
def helloRequest : CText := text "GET /api/hello HTTP/1.1\r\nHost: 127.0.0.1\r\n\r\n"

theorem segments_agree_hello :
    ∃ r, webHttpParse (helloRequest ++ [1]) helloRequest.length (text "127.0.0.1") true =
        some (.parsed r, leaves (helloRequest ++ [1]) helloRequest.length) ∧
      Accepted helloRequest (text "127.0.0.1") true r ∧
      outcome (helloRequest.take 20) (text "127.0.0.1") true = .incomplete ∧
      outcome (helloRequest ++ text "GET") (text "127.0.0.1") true = .refused 400 ∧
      ownOrigin (text "127.0.0.1") true = text "https" ++ text "://" ++ text "127.0.0.1" := by
  obtain ⟨hbuffer, hsegments, horigin⟩ := segments_agree (text "127.0.0.1") true
  have hparsed : outcome helloRequest (text "127.0.0.1") true =
      .parsed { method := text "GET", path := text "/api/hello" } := by decide +kernel
  obtain ⟨haccepted, hfront, hmore⟩ := hsegments _ _ hparsed
  refine ⟨_, ?_, haccepted, ?_, hmore _ (by decide), horigin (by decide)⟩
  · rw [hbuffer _ _ (by simp), List.take_left, hparsed]
  · exact hfront (helloRequest.take 20) (helloRequest.drop 20) (List.take_append_drop _ _).symm
      (by decide +kernel)

end FourVrs.Web
