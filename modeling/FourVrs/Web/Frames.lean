import FourVrs.Lib.Bytes
import FourVrs.Web.Fields

/-!
# Frames (`web/web_protocol.c`)

What the web process and the gateway send each other: four bytes of magic, the length of the
body in network byte order, the body. The receiver gathers the bytes in an array of fixed size;
a store that does not fit there is a fault.

What the receiver answers to a chunk is a function of the bytes so far (`feedAll_eq`), so the
verdicts on a frame are those on its prefixes, in whatever pieces it comes.
-/

set_option autoImplicit false

namespace FourVrs.Web

open Config Lib

def webBodyMax : Nat := 4096
def webFrameMax : Nat := webBodyMax + 8

/-- `web_frame_t`. -/
structure WebFrame where
  bytes : List UInt8 := List.replicate webFrameMax 0
  used : Nat := 0
  total : Nat := 0
  sent : Nat := 0
  since : Nat := 0

/-- `memcpy` into an array: `none` if it goes beyond its end. -/
def storeAt (bytes : List UInt8) (i : Nat) (p : List UInt8) : Option (List UInt8) :=
  if i + p.length ≤ bytes.length then some (bytes.take i ++ p ++ bytes.drop (i + p.length)) else none

/-- `"4V\1\0"`. -/
def frameMagic : List UInt8 := [ascii '4', ascii 'V', 1, 0]

/-- `web_frame_feed`. -/
def webFrameFeed (f : WebFrame) (p : List UInt8) : Option (WebFrame × Int) :=
  if p.length > webFrameMax - f.used then some (f, -1)
  else do
    let bytes ← storeAt f.bytes f.used p
    let f := { f with bytes := bytes, used := f.used + p.length }
    if f.used < 8 then some (f, 0)
    else if f.bytes.take 4 ≠ frameMagic then some (f, -1)
    else
      let length := get32 (f.bytes.drop 4)
      if length = 0 ∨ length > webBodyMax then some (f, -1)
      else
        let f := { f with total := length + 8 }
        if f.used > f.total then some (f, -1)
        else if f.used = f.total then some (f, 1)
        else some (f, 0)

/-- `web_frame_make`, of a text without its end. -/
def webFrameMake (f : WebFrame) (s : CText) : Option (WebFrame × Int) :=
  let n := s.length
  if n = 0 ∨ n > webBodyMax then some (f, -1)
  else do
    let f : WebFrame := {}
    let bytes ← storeAt f.bytes 0 frameMagic
    let bytes ← storeAt bytes 6 [UInt8.ofNat (n / 256)]
    let bytes ← storeAt bytes 7 [UInt8.ofNat n]
    let bytes ← storeAt bytes 8 s
    some ({ f with bytes := bytes, used := n + 8, total := n + 8 }, 0)

/-- What is sent of a frame that was made. -/
def WebFrame.wire (f : WebFrame) : List UInt8 := f.bytes.take f.total

/-- The body of a frame that was received. -/
def WebFrame.body (f : WebFrame) : List UInt8 := (f.bytes.drop 8).take (f.total - 8)

/-- Chunks fed one after the other, and what the receiver answers to each. -/
def feedAll (f : WebFrame) : List (List UInt8) → Option (WebFrame × List Int)
  | [] => some (f, [])
  | p :: chunks => do
      let (f, answer) ← webFrameFeed f p
      let (f, answers) ← feedAll f chunks
      some (f, answer :: answers)

/-! ## The frame as a text of bytes -/

/-- A frame with its body. -/
structure OneFrame (bs body : List UInt8) : Prop where
  length : 1 ≤ body.length ∧ body.length ≤ webBodyMax
  bytes : bs = frameMagic ++ put32 body.length ++ body

/-- What the receiver says of the bytes it holds. -/
def verdict (bs : List UInt8) : Int :=
  if bs.length < 8 then 0
  else if bs.take 4 ≠ frameMagic then -1
  else if get32 (bs.drop 4) = 0 ∨ get32 (bs.drop 4) > webBodyMax then -1
  else if bs.length > get32 (bs.drop 4) + 8 then -1
  else if bs.length = get32 (bs.drop 4) + 8 then 1
  else 0

/-- What it holds after a chunk: one that does not fit is refused as a whole. -/
def keep (held p : List UInt8) : List UInt8 := if held.length + p.length ≤ webFrameMax then held ++ p else held

/-- The receiver holds these bytes. -/
structure Receives (f : WebFrame) (held : List UInt8) : Prop where
  size : f.bytes.length = webFrameMax
  used : f.used = held.length
  room : held.length ≤ webFrameMax
  held : f.bytes.take f.used = held

theorem receives_cleared : Receives {} [] where
  size := by simp
  used := rfl
  room := by simp
  held := by simp

theorem get32_take (bs : List UInt8) (n : Nat) (h : 4 ≤ n) : get32 (bs.take n) = get32 bs := by
  obtain ⟨n, rfl⟩ : ∃ m, n = m + 4 := ⟨n - 4, by omega⟩
  match bs with
  | [] | [_] | [_, _] | [_, _, _] => rfl
  | _ :: _ :: _ :: _ :: _ => rfl

/-- One chunk: it is stored where there is room, and answered by what is held then. -/
theorem webFrameFeed_eq {f : WebFrame} {held p : List UInt8} (h : Receives f held) :
    ∃ f' answer, webFrameFeed f p = some (f', answer) ∧ Receives f' (keep held p) ∧
      answer = (if held.length + p.length ≤ webFrameMax then verdict (held ++ p) else -1) ∧
      (answer = 1 → f'.total = (held ++ p).length) := by
  have hused := h.used
  have hroom := h.room
  have hsize := h.size
  unfold webFrameFeed keep
  by_cases hfits : held.length + p.length ≤ webFrameMax
  · rw [if_neg (by omega), if_pos hfits, if_pos hfits]
    have hstore : storeAt f.bytes f.used p = some (held ++ p ++ f.bytes.drop (f.used + p.length)) := by
      rw [storeAt, if_pos (by omega), h.held]
    have hnew : ∀ total, Receives
        { f with
          bytes := held ++ p ++ f.bytes.drop (f.used + p.length)
          used := f.used + p.length
          total := total } (held ++ p) := by
      intro total
      refine ⟨?_, ?_, ?_, ?_⟩
      · simp only [List.length_append, List.length_drop]
        omega
      · simp only [List.length_append]
        omega
      · simpa using hfits
      · exact List.take_left' (by simp [hused])
    simp only [hstore, Option.bind_eq_bind, Option.bind_some]
    generalize f.bytes.drop (f.used + p.length) = back at hnew ⊢
    -- the header is read from what is held
    have hlength : f.used + p.length = (held ++ p).length := by simp [hused]
    have hmagic : 8 ≤ (held ++ p).length → (held ++ p ++ back).take 4 = (held ++ p).take 4 := fun hlong =>
      List.take_append_of_le_length (by omega)
    have hword : 8 ≤ (held ++ p).length →
        get32 ((held ++ p ++ back).drop 4) = get32 ((held ++ p).drop 4) := by
      intro hlong
      rw [List.drop_append_of_le_length (by omega), ← get32_take ((held ++ p).drop 4 ++ back) 4 le_rfl,
        List.take_append_of_le_length (by simp at hlong ⊢; omega), get32_take _ 4 le_rfl]
    unfold verdict
    simp only [hlength]
    by_cases hshort : (held ++ p).length < 8
    · rw [if_pos hshort, if_pos hshort]
      refine ⟨_, _, rfl, ?_, rfl, by simp⟩
      simpa [hlength] using hnew f.total
    · rw [if_neg hshort, if_neg hshort, hmagic (by omega), hword (by omega)]
      have hold := hnew f.total
      rw [hlength] at hold
      split
      · exact ⟨_, _, rfl, hold, rfl, by simp⟩
      split
      · exact ⟨_, _, rfl, hold, rfl, by simp⟩
      · have htotal := hnew (get32 ((held ++ p).drop 4) + 8)
        rw [hlength] at htotal
        split
        · exact ⟨_, _, rfl, htotal, rfl, by simp⟩
        split
        · rename_i hfull
          exact ⟨_, _, rfl, htotal, rfl, fun _ => hfull.symm⟩
        · exact ⟨_, _, rfl, htotal, rfl, by simp⟩
  · rw [if_pos (by omega), if_neg hfits, if_neg hfits]
    exact ⟨f, -1, rfl, h, rfl, by simp⟩

/-! ## Streams of chunks -/

/-- The answers to the chunks of a stream. -/
def verdicts : List UInt8 → List (List UInt8) → List Int
  | _, [] => []
  | held, p :: chunks =>
      (if held.length + p.length ≤ webFrameMax then verdict (held ++ p) else -1) ::
        verdicts (keep held p) chunks

variable {chunks : List (List UInt8)} {held : List UInt8}

theorem feedAll_eq {f : WebFrame} (h : Receives f held) (chunks : List (List UInt8)) :
    ∃ f', feedAll f chunks = some (f', verdicts held chunks) ∧ Receives f' (chunks.foldl keep held) ∧
      ((verdicts held chunks).getLast? = some 1 → f'.total = (chunks.foldl keep held).length) := by
  induction chunks generalizing f held with
  | nil => exact ⟨f, rfl, h, by simp [verdicts]⟩
  | cons p chunks ih =>
    obtain ⟨f₁, answer, hfeed, hreceives, hanswer, htotal⟩ := webFrameFeed_eq h (p := p)
    obtain ⟨f₂, hall, hlast, hend⟩ := ih hreceives
    refine ⟨f₂, ?_, hlast, ?_⟩
    · simp [feedAll, hfeed, hall, hanswer, verdicts]
    · intro hone
      cases chunks with
      | nil =>
        simp only [verdicts, List.getLast?_singleton, Option.some.injEq] at hone
        obtain ⟨rfl, -⟩ : f₁ = f₂ ∧ _ := by simpa [feedAll] using hall
        rw [htotal (hanswer.trans hone)]
        split at hone
        · rename_i hfits
          simp [keep, hfits]
        · cases hone
      | cons q chunks =>
        refine hend ?_
        simp only [verdicts, List.getLast?_cons_cons] at hone ⊢
        exact hone

/-- **A stream is a frame when the receiver says so.** -/
theorem verdict_eq_one {bs : List UInt8} :
    verdict bs = 1 ↔ ∃ body, OneFrame bs body := by
  unfold verdict
  constructor
  · intro h
    split at h
    · cases h
    rename_i hlong
    split at h
    · cases h
    rename_i hmagic
    split at h
    · cases h
    rename_i hlength
    split at h
    · cases h
    split at h
    · rename_i hfull
      refine ⟨bs.drop 8, ?_, ?_⟩
      · simp only [List.length_drop]
        omega
      · have hbody : (bs.drop 8).length = get32 (bs.drop 4) := by
          rw [List.length_drop]
          omega
        match bs, hlong with
        | a :: b :: c :: d :: e :: f :: g :: h :: rest, _ =>
          simp only [List.drop_succ_cons, List.drop_zero] at hbody ⊢
          rw [hbody, put32_get32 (by simp), ← not_not.mp hmagic]
          rfl
    · cases h
  · intro ⟨body, hlength, hbytes⟩
    have hmax : body.length < 2 ^ 32 := Nat.lt_of_le_of_lt hlength.2 (by decide)
    have htake : bs.take 4 = frameMagic := by
      rw [hbytes]
      rfl
    have hword : get32 (bs.drop 4) = body.length := by
      have hdrop : bs.drop 4 = put32 body.length ++ body := by
        rw [hbytes]
        rfl
      rw [hdrop, get32_append hmax]
    have hsize : bs.length = body.length + 8 := by
      rw [hbytes]
      simp [frameMagic]
      omega
    rw [if_neg (by omega), if_neg (by simp [htake]), hword, if_neg (by omega), if_neg (by omega), if_pos hsize]

/-- Before its end a frame is not complete. -/
theorem verdict_front {bs front back body : List UInt8} (h : OneFrame bs body) (hsplit : bs = front ++ back)
    (hback : back ≠ []) : verdict front = 0 := by
  have hmax : body.length < 2 ^ 32 := Nat.lt_of_le_of_lt h.length.2 (by decide)
  have hsize : front.length + back.length = body.length + 8 := by
    rw [← List.length_append, ← hsplit, h.bytes]
    simp [frameMagic]
    omega
  have hpos := List.length_pos_iff.mpr hback
  unfold verdict
  split
  · rfl
  · rename_i hlong
    have htake : front.take 4 = frameMagic := by
      have heq : (front ++ back).take 4 = frameMagic := by
        rw [← hsplit, h.bytes]
        rfl
      rwa [List.take_append_of_le_length (by omega)] at heq
    have hword : get32 (front.drop 4) = body.length := by
      have hdrop : (front ++ back).drop 4 = put32 body.length ++ body := by
        rw [← hsplit, h.bytes]
        rfl
      rw [List.drop_append_of_le_length (by omega)] at hdrop
      have hget := congrArg get32 hdrop
      rw [get32_append hmax] at hget
      rw [← hget, ← get32_take _ 4 le_rfl, ← get32_take (front.drop 4 ++ back) 4 le_rfl,
        List.take_append_of_le_length (by simp; omega)]
    have hlength := h.length
    rw [if_neg (by simp [htake]), hword, if_neg (by omega), if_neg (by omega), if_neg (by omega)]

theorem length_of_oneFrame {bs body : List UInt8} (h : OneFrame bs body) :
    bs.length = body.length + 8 ∧ bs.length ≤ webFrameMax := by
  have hlength := h.length.2
  rw [h.bytes]
  simp only [List.length_append, length_put32, frameMagic, List.length_cons, List.length_nil, webFrameMax]
  omega

/-- However a frame is cut: nothing is answered but to its last chunk. -/
theorem verdicts_of_frame {bs body held : List UInt8} (h : OneFrame bs body) (hsome : chunks ≠ [])
    (hchunks : ∀ p ∈ chunks, p ≠ []) (hsplit : bs = held ++ chunks.flatten) :
    verdicts held chunks = List.replicate (chunks.length - 1) 0 ++ [1] ∧ chunks.foldl keep held = bs := by
  have hroom := (length_of_oneFrame h).2
  induction chunks generalizing held with
  | nil => exact absurd rfl hsome
  | cons p chunks ih =>
    rw [List.flatten_cons, ← List.append_assoc] at hsplit
    have hfits : held.length + p.length ≤ webFrameMax := by
      rw [hsplit, List.length_append, List.length_append] at hroom
      omega
    have hkeep : keep held p = held ++ p := if_pos hfits
    cases chunks with
    | nil =>
      rw [List.flatten_nil, List.append_nil] at hsplit
      rw [verdicts, if_pos hfits, List.foldl_cons, hkeep, ← hsplit, verdict_eq_one.mpr ⟨body, h⟩]
      exact ⟨rfl, rfl⟩
    | cons q chunks =>
      obtain ⟨hrest, hall⟩ := @ih (held ++ p) (by simp) (fun r hr => hchunks r (by simp [hr])) hsplit
      have hfront : verdict (held ++ p) = 0 := by
        refine verdict_front h hsplit ?_
        have hq := hchunks q (by simp)
        simp [hq]
      rw [verdicts, if_pos hfits, hfront, hkeep, hrest, List.foldl_cons, hkeep, hall]
      exact ⟨rfl, rfl⟩

/-- The last answer is about all that is held. -/
theorem held_of_last (h : (verdicts held chunks).getLast? = some 1) :
    ∃ body, OneFrame (chunks.foldl keep held) body := by
  induction chunks generalizing held with
  | nil => simp [verdicts] at h
  | cons p chunks ih =>
    cases chunks with
    | nil =>
      simp only [verdicts, List.getLast?_singleton, Option.some.injEq] at h
      split at h
      · rename_i hfits
        rw [List.foldl_cons, keep, if_pos hfits]
        exact verdict_eq_one.mp h
      · cases h
    | cons q chunks =>
      refine @ih (keep held p) ?_
      simp only [verdicts, List.getLast?_cons_cons] at h ⊢
      exact h

/-- While nothing is refused, what is held is what was fed. -/
theorem keep_eq_flatten (h : ∀ answer ∈ verdicts held chunks, 0 ≤ answer) :
    chunks.foldl keep held = held ++ chunks.flatten := by
  induction chunks generalizing held with
  | nil => simp
  | cons p chunks ih =>
    simp only [verdicts, List.mem_cons, forall_eq_or_imp] at h
    have hkeep : keep held p = held ++ p := by
      refine if_pos ?_
      by_contra hno
      rw [if_neg hno] at h
      exact absurd h.1 (by decide)
    rw [List.foldl_cons, ih h.2, hkeep, List.flatten_cons, List.append_assoc]

theorem storeAt_append {front old back p : List UInt8} (h : old.length = p.length) :
    storeAt (front ++ old ++ back) front.length p = some (front ++ p ++ back) := by
  rw [storeAt, if_pos (by simp [h]), List.append_assoc front old back, List.take_left,
    ← List.append_assoc front old back, ← h, ← List.length_append, List.drop_left]

/-- What is made is a frame. -/
theorem webFrameMake_eq (f : WebFrame) {s : CText} (h : 1 ≤ s.length ∧ s.length ≤ webBodyMax) :
    ∃ made, webFrameMake f s = some (made, 0) ∧ OneFrame made.wire s := by
  have hbody : webBodyMax = 4096 := rfl
  have hlength : put32 s.length = [0, 0, UInt8.ofNat (s.length / 256), UInt8.ofNat s.length] := by
    have hzero : s.length / 2 ^ 24 = 0 ∧ s.length / 2 ^ 16 = 0 := by omega
    simp only [put32, hzero]
    rfl
  have hfour : storeAt (List.replicate webFrameMax 0) 0 frameMagic =
      some (frameMagic ++ [0, 0] ++ [0] ++ (0 :: List.replicate webBodyMax 0)) := by
    have hfour : ∀ n, List.replicate (n + 4) (0 : UInt8) = [0, 0] ++ [0] ++ (0 :: List.replicate n 0) :=
      fun _ => rfl
    have hsplit : List.replicate webFrameMax (0 : UInt8) =
        [] ++ [0, 0, 0, 0] ++ ([0, 0] ++ [0] ++ (0 :: List.replicate webBodyMax 0)) := by
      rw [← hfour webBodyMax, show webFrameMax = webBodyMax + 4 + 4 from rfl, hfour (webBodyMax + 4)]
      rfl
    rw [hsplit, List.append_assoc frameMagic, List.append_assoc frameMagic]
    exact @storeAt_append [] _ _ _ rfl
  have hhigh : ∀ zeros, storeAt (frameMagic ++ [0, 0] ++ [0] ++ (0 :: zeros)) 6
      [UInt8.ofNat (s.length / 256)] =
        some (frameMagic ++ [0, 0] ++ [UInt8.ofNat (s.length / 256)] ++ (0 :: zeros)) := fun zeros =>
    @storeAt_append (frameMagic ++ [0, 0]) _ _ _ rfl
  have hlow : ∀ zeros, storeAt (frameMagic ++ [0, 0] ++ [UInt8.ofNat (s.length / 256)] ++ (0 :: zeros)) 7
      [UInt8.ofNat s.length] = some (frameMagic ++ put32 s.length ++ zeros) := by
    intro zeros
    rw [hlength]
    exact @storeAt_append (frameMagic ++ [0, 0] ++ [UInt8.ofNat (s.length / 256)]) [0] zeros
      [UInt8.ofNat s.length] rfl
  have hsplit : List.replicate webBodyMax (0 : UInt8) =
      List.replicate s.length 0 ++ List.replicate (webBodyMax - s.length) 0 := by
    rw [← List.replicate_add, Nat.add_sub_cancel' h.2]
  have hall : storeAt (frameMagic ++ put32 s.length ++ List.replicate webBodyMax 0) 8 s =
      some (frameMagic ++ put32 s.length ++ s ++ List.replicate (webBodyMax - s.length) 0) := by
    rw [hsplit, ← List.append_assoc]
    exact @storeAt_append (frameMagic ++ put32 s.length) _ _ _ (by simp)
  let made : WebFrame :=
    { bytes := frameMagic ++ put32 s.length ++ s ++ List.replicate (webBodyMax - s.length) 0
      used := s.length + 8
      total := s.length + 8 }
  have hmade : webFrameMake f s = some (made, 0) := by
    unfold webFrameMake
    simp only []
    rw [if_neg (by omega), hfour]
    simp only [Option.bind_eq_bind, Option.bind_some, hhigh, hlow, hall]
    rfl
  refine ⟨made, hmade, h, ?_⟩
  refine List.take_left' ?_
  simp only [List.length_append, length_put32, frameMagic, List.length_cons, List.length_nil]
  show 4 + 4 + s.length = s.length + 8
  omega

/-- The body of a frame that is held. -/
theorem body_of_receives {g : WebFrame} {bs body : List UInt8} (h : Receives g bs) (hframe : OneFrame bs body)
    (htotal : g.total = bs.length) : g.body = body := by
  have hsize := (length_of_oneFrame hframe).1
  have hfront : g.bytes.take (body.length + 8) = frameMagic ++ put32 body.length ++ body := by
    rw [← hframe.bytes, ← hsize, ← h.used, h.held]
  rw [WebFrame.body, htotal, hsize, Nat.add_sub_cancel, List.take_drop, Nat.add_comm 8, hfront]
  exact List.drop_left' (by simp [frameMagic])

/-- **The transport carries frames.** However what was made of a body is cut into chunks, the
    receiver answers 0 to all but the last and has the body with it. Whatever is fed, it never stores
    beyond its array, and when it answers 1 it holds exactly one frame: all that was fed, if it
    refused nothing. -/
theorem frame_transport :
    (∀ (s : CText) (f : WebFrame), 1 ≤ s.length ∧ s.length ≤ webBodyMax →
      ∃ made, webFrameMake f s = some (made, 0) ∧
        ∀ chunks, (∀ p ∈ chunks, p ≠ []) → chunks.flatten = made.wire →
          ∃ g, feedAll {} chunks = some (g, List.replicate (chunks.length - 1) 0 ++ [1]) ∧ g.body = s) ∧
    ∀ chunks, ∃ g answers, feedAll {} chunks = some (g, answers) ∧
      g.bytes.length = webFrameMax ∧ g.used ≤ webFrameMax ∧
      (answers.getLast? = some 1 →
        OneFrame (g.bytes.take g.used) g.body ∧
          ((∀ answer ∈ answers, 0 ≤ answer) → g.bytes.take g.used = chunks.flatten)) := by
  refine ⟨fun s f hs => ?_, fun chunks => ?_⟩
  · obtain ⟨made, hmade, hframe⟩ := webFrameMake_eq f hs
    refine ⟨made, hmade, fun chunks hchunks hflatten => ?_⟩
    have hsome : chunks ≠ [] := by
      rintro rfl
      have hsize := (length_of_oneFrame hframe).1
      rw [← hflatten] at hsize
      simp at hsize
    -- each piece but the last leaves the frame short, wherever the cuts fall
    obtain ⟨hverdicts, hheld⟩ := @verdicts_of_frame _ _ _ [] hframe hsome hchunks hflatten.symm
    obtain ⟨g, hfeed, hreceives, htotal⟩ := feedAll_eq receives_cleared chunks
    rw [hheld] at hreceives htotal
    rw [hverdicts] at hfeed htotal
    exact ⟨g, hfeed, body_of_receives hreceives hframe (htotal (by simp))⟩
  · obtain ⟨g, hfeed, hreceives, htotal⟩ := feedAll_eq receives_cleared chunks
    refine ⟨g, _, hfeed, hreceives.size, hreceives.used ▸ hreceives.room, fun hone => ?_⟩
    rw [hreceives.held]
    obtain ⟨body, hframe⟩ := held_of_last hone
    rw [body_of_receives hreceives hframe (htotal hone)]
    exact ⟨hframe, fun hall => keep_eq_flatten hall⟩

theorem frame_transport_hello :
    ∃ g, feedAll {} [[52, 86, 1], [0, 0, 0, 0, 9, 111], text "p=hello\n"] = some (g, [0, 0, 1]) ∧
      g.body = text "op=hello\n" ∧
      g.bytes.take g.used = [52, 86, 1, 0, 0, 0, 0, 9] ++ text "op=hello\n" := by
  obtain ⟨made, hmade, hcut⟩ := frame_transport.1 (text "op=hello\n") {} (by decide)
  have hwire : ((webFrameMake {} (text "op=hello\n")).map fun r => r.1.wire) =
      some ([52, 86, 1, 0, 0, 0, 0, 9] ++ text "op=hello\n") := by decide +kernel
  rw [hmade] at hwire
  obtain ⟨g, hfeed, hbody⟩ := hcut [[52, 86, 1], [0, 0, 0, 0, 9, 111], text "p=hello\n"]
    (by decide) (Eq.trans (by decide) (Option.some.inj hwire).symm)
  obtain ⟨g', answers, hfeed', -, -, hone⟩ :=
    frame_transport.2 [[52, 86, 1], [0, 0, 0, 0, 9, 111], text "p=hello\n"]
  obtain ⟨rfl, rfl⟩ := Prod.mk.inj (Option.some.inj (hfeed.symm.trans hfeed'))
  exact ⟨g, hfeed, hbody, (hone rfl).2 (by decide)⟩

end FourVrs.Web
