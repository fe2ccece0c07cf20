import FourVrs.Config.CText
import FourVrs.Lib.Reads

/-!
# Fields (`web/web_protocol.c`)

The text between the web process and the gateway: lines `key=value`, the value with percent
escapes. The parser reads the text by its offsets; a read at or beyond the end, and a loop that
goes round more often than there are bytes, is a fault of its own and no refusal.

Each loop has two lemmas against the grammar, one for either direction, and one that it stays
inside the text.
-/

set_option autoImplicit false

namespace FourVrs.Web

open Config Lib

/-- The bytes of a terminated array. -/
abbrev CText : Type := List UInt8

structure Field where
  key : CText
  value : CText
  deriving DecidableEq, Repr

/-- `hexchar`. -/
def hexchar (c : UInt8) : Option Nat :=
  if ascii '0' ≤ c ∧ c ≤ ascii '9' then some (c.toNat - (ascii '0').toNat)
  else if ascii 'a' ≤ c ∧ c ≤ ascii 'f' then some (c.toNat - (ascii 'a').toNat + 10)
  else if ascii 'A' ≤ c ∧ c ≤ ascii 'F' then some (c.toNat - (ascii 'A').toNat + 10)
  else none

def keyChar (c : UInt8) : Bool :=
  (decide (ascii 'a' ≤ c) && decide (c ≤ ascii 'z')) ||
    (decide (ascii '0' ≤ c) && decide (c ≤ ascii '9')) || decide (c = ascii '_')

/-- A byte that no value has. -/
def control (c : UInt8) : Bool := decide (c < 32) || decide (c = 127)

/-- Why a parser stops: it read what is not there, or it refuses the text. -/
inductive Stop where
  | outside | refused
  deriving DecidableEq, Repr

/-- `s[i]`. -/
def readAt (s : CText) (i : Nat) : Except Stop UInt8 :=
  match readByte s i with
  | some c => .ok c
  | none => .error .outside

/-- The loop over a key, up to its `=`. -/
def keyLoop (s : CText) : Nat → Nat → CText → Except Stop (Nat × CText)
  | 0, i, k => if i < s.length then .error .outside else .ok (i, k)
  | rounds + 1, i, k =>
      if i < s.length then do
        let c ← readAt s i
        if c = ascii '=' then .ok (i, k)
        else if k.length = 31 ∨ keyChar c = false then .error .refused
        else keyLoop s rounds (i + 1) (k ++ [c])
      else .ok (i, k)

/-- The byte that an escape stands for. -/
def escaped (a b : UInt8) : Option UInt8 := do
  let high ← hexchar a
  let low ← hexchar b
  some (UInt8.ofNat (high * 16 + low))

/-- A byte of a value, `c` being the one before `i`, and where the next begins. -/
def valueByte (s : CText) (i : Nat) (c : UInt8) : Except Stop (Nat × UInt8) :=
  if c = ascii '%' then
    if i + 1 ≥ s.length then .error .refused
    else do
      let a ← readAt s i
      let b ← readAt s (i + 1)
      match escaped a b with
      | some c => .ok (i + 2, c)
      | none => .error .refused
  else .ok (i, c)

/-- The loop over a value, up to the end of the line. -/
def valueLoop (s : CText) : Nat → Nat → CText → Except Stop (Nat × CText)
  | 0, i, v => if i < s.length then .error .outside else .ok (i, v)
  | rounds + 1, i, v =>
      if i < s.length then do
        let c ← readAt s i
        if c = 10 then .ok (i, v)
        else do
          let (i, c) ← valueByte s (i + 1) c
          if control c ∨ v.length = 255 then .error .refused
          else valueLoop s rounds i (v ++ [c])
      else .ok (i, v)

/-- The loop over the lines, with room for so many fields more. -/
def fieldLoop (s : CText) : Nat → Nat → List Field → Except Stop (List Field)
  | 0, i, fields => if i < s.length then .error .refused else .ok fields
  | room + 1, i, fields =>
      if i < s.length then do
        let (i, key) ← keyLoop s s.length i []
        if key = [] ∨ i = s.length then .error .refused
        else if key ∈ fields.map Field.key then .error .refused
        else do
          let (i, value) ← valueLoop s s.length (i + 1) []
          if i = s.length then .error .refused
          else fieldLoop s room (i + 1) (fields ++ [{ key := key, value := value }])
      else .ok fields

/-- `web_fields_parse`. -/
def webFieldsParse (s : CText) : Except Stop (List Field) := fieldLoop s 32 0 []

/-- `web_field`: empty for a field that is not there. -/
def webField (fields : List Field) (key : CText) : CText :=
  match fields.find? fun f => f.key = key with
  | some f => f.value
  | none => []

/-! ## The grammar -/

/-- What the bytes of a line stand for. -/
inductive Decodes : CText → CText → Prop where
  | nil : Decodes [] []
  | plain {c : UInt8} {s v : CText} : c ≠ ascii '%' → Decodes s v → Decodes (c :: s) (c :: v)
  | escape {a b c : UInt8} {s v : CText} : escaped a b = some c → Decodes s v →
      Decodes (ascii '%' :: a :: b :: s) (c :: v)

/-- A key of 1 to 31 characters. -/
structure KeyText (key : CText) : Prop where
  length : 1 ≤ key.length ∧ key.length ≤ 31
  chars : ∀ c ∈ key, keyChar c = true

/-- A value of at most 255 bytes, none of them a control character. -/
structure ValueText (value : CText) : Prop where
  length : value.length ≤ 255
  bytes : ∀ c ∈ value, control c = false

/-- A line with its field. -/
structure FieldLine (line : CText) (f : Field) : Prop where
  key : KeyText f.key
  value : ValueText f.value
  spelled : ∃ spelled, line = f.key ++ ascii '=' :: spelled ++ [10] ∧ Decodes spelled f.value

/-- A text of lines with its fields. -/
structure FieldText (s : CText) (fields : List Field) : Prop where
  lines : ∃ lines, s = lines.flatten ∧ List.Forall₂ FieldLine lines fields
  count : fields.length ≤ 32
  distinct : (fields.map Field.key).Nodup

/-! ## One loop at a time -/

section

variable {s rest : CText} {i : Nat}

theorem readAt_eq {c : UInt8} (h : s.drop i = c :: rest) : readAt s i = .ok c := by
  have hget : s[i]? = some c := by
    rw [← List.head?_drop, h]
    rfl
  simp [readAt, readByte, hget]

theorem drop_succ_eq {c : UInt8} (h : s.drop i = c :: rest) : s.drop (i + 1) = rest := by
  rw [← List.tail_drop, h]
  rfl

theorem lt_of_drop_cons {c : UInt8} (h : s.drop i = c :: rest) : i < s.length := by
  have hlength := congrArg List.length h
  simp at hlength
  omega

theorem nil_of_drop (h : s.drop i = rest) (hend : ¬ i < s.length) : rest = [] := by
  rw [← h, List.drop_eq_nil_iff]
  omega

theorem length_of_drop_eq (h : s.drop i = rest) (hi : i ≤ s.length) : i + rest.length = s.length := by
  have hlength := congrArg List.length h
  simp at hlength
  omega

/-- The key is what stands before the first `=`. -/
theorem keyLoop_eq {rounds : Nat} {k : CText} (h : s.drop i = rest) (hi : i ≤ s.length)
    (hrounds : rest.length ≤ rounds) (hk : k.length ≤ 31) :
    keyLoop s rounds i k =
      let word := rest.takeWhile (· ≠ ascii '=')
      if word.all keyChar = true ∧ k.length + word.length ≤ 31 then
        .ok (i + word.length, k ++ word)
      else .error .refused := by
  have hlength := length_of_drop_eq h hi
  induction rest generalizing rounds i k with
  | nil =>
    have hend : ¬ i < s.length := by simp at hlength; omega
    cases rounds <;> simp [keyLoop, hend, hk]
  | cons c rest ih =>
    obtain ⟨rounds, rfl⟩ : ∃ n, rounds = n + 1 := ⟨rounds - 1, by simp at hrounds; omega⟩
    have hlt := lt_of_drop_cons h
    simp only [keyLoop, if_pos hlt, readAt_eq h, bind, Except.bind]
    by_cases hsep : c = ascii '='
    · simp [hsep, hk]
    · rw [if_neg hsep]
      have hword : (c :: rest).takeWhile (· ≠ ascii '=') = c :: rest.takeWhile (· ≠ ascii '=') := by
        simp [hsep]
      simp only [hword, List.all_cons, Bool.and_eq_true, List.length_cons]
      by_cases hbad : k.length = 31 ∨ keyChar c = false
      · rw [if_pos hbad, if_neg]
        rintro ⟨⟨hc, -⟩, hroom⟩
        rcases hbad with hfull | hchar
        · omega
        · rw [hchar] at hc
          cases hc
      · simp only [not_or, Bool.not_eq_false] at hbad
        rw [if_neg (by simp [hbad]), ih (drop_succ_eq h) hlt (by simp at hrounds; omega)
          (by simp; omega) (by simp at hlength; omega)]
        simp only [hbad.2, true_and, List.length_append, List.length_singleton, List.append_assoc,
          List.singleton_append]
        congr 1
        · apply propext
          constructor <;> rintro ⟨hchars, hroom⟩ <;> exact ⟨hchars, by omega⟩
        · congr 2
          omega

/-- The key of a line, and where its `=` stands. -/
theorem keyLoop_ok {key : CText} {j : Nat} (hi : i ≤ s.length) :
    keyLoop s s.length i [] = .ok (j, key) ↔
      key = (s.drop i).takeWhile (· ≠ ascii '=') ∧ (∀ c ∈ key, keyChar c = true) ∧ key.length ≤ 31 ∧
        j = i + key.length := by
  rw [keyLoop_eq rfl hi (by simp) (by simp)]
  simp only [List.length_nil, Nat.zero_add, List.nil_append, List.all_eq_true]
  constructor
  · intro h
    split at h
    · rename_i hgood
      obtain ⟨rfl, rfl⟩ := Prod.mk.inj (Except.ok.inj h)
      exact ⟨rfl, hgood.1, hgood.2, rfl⟩
    · cases h
  · rintro ⟨rfl, hchars, hlength, rfl⟩
    rw [if_pos ⟨hchars, hlength⟩]

theorem keyLoop_inside (hi : i ≤ s.length) : keyLoop s s.length i [] ≠ .error .outside := by
  rw [keyLoop_eq rfl hi (by simp) (by simp)]
  simp only []
  split <;> simp

/-- A byte of a value is read as it stands, or an escape as what it stands for. -/
theorem valueByte_ok {c d : UInt8} {j : Nat} (hrest : s.drop i = rest) (hi : i ≤ s.length) :
    valueByte s i c = .ok (j, d) ↔
      c ≠ ascii '%' ∧ d = c ∧ j = i ∨
        c = ascii '%' ∧ ∃ a b tail, rest = a :: b :: tail ∧ escaped a b = some d ∧ j = i + 2 := by
  have hlength := length_of_drop_eq hrest hi
  unfold valueByte
  by_cases hc : c = ascii '%'
  · rw [if_pos hc]
    simp only [hc, ne_eq, not_true_eq_false, false_and, true_and, false_or]
    match rest, hrest with
    | [], hrest | [a], hrest =>
      rw [if_pos (by simp at hlength; omega)]
      simp
    | a :: b :: tail, hrest =>
      rw [if_neg (by simp at hlength; omega), readAt_eq hrest, readAt_eq (drop_succ_eq hrest)]
      simp only [bind, Except.bind, List.cons.injEq]
      cases hescaped : escaped a b with
      | none =>
        refine iff_of_false (by simp) ?_
        rintro ⟨_, _, _, ⟨rfl, rfl, -⟩, hsome, -⟩
        rw [hescaped] at hsome
        cases hsome
      | some e =>
        constructor
        · intro h
          obtain ⟨rfl, rfl⟩ := Prod.mk.inj (Except.ok.inj h)
          exact ⟨a, b, tail, ⟨rfl, rfl, rfl⟩, hescaped, rfl⟩
        · rintro ⟨_, _, _, ⟨rfl, rfl, -⟩, hsome, rfl⟩
          rw [hescaped] at hsome
          rw [Option.some.inj hsome]
  · rw [if_neg hc]
    simp only [ne_eq, hc, not_false_eq_true, true_and, false_and, or_false, Except.ok.injEq, Prod.mk.injEq]
    exact ⟨fun h => ⟨h.2.symm, h.1.symm⟩, fun h => ⟨h.2.symm, h.1.symm⟩⟩

theorem valueByte_inside {c : UInt8} : valueByte s i c ≠ .error .outside := by
  unfold valueByte
  split
  · split
    · simp
    · rename_i hroom
      have hread : ∀ k, k ≤ i + 1 → ∃ a, readAt s k = .ok a := by
        intro k hk
        have hlt : k < s.length := by omega
        exact ⟨s[k], by simp [readAt, readByte, hlt]⟩
      obtain ⟨a, ha⟩ := hread i (by omega)
      obtain ⟨b, hb⟩ := hread (i + 1) (by omega)
      simp only [ha, hb, bind, Except.bind]
      split <;> simp
  · simp

/-- The loop over a value has read bytes and escapes, up to the end of the line or of the text. -/
theorem valueLoop_sound {rounds j : Nat} {v v' : CText} (hrest : s.drop i = rest) (hi : i ≤ s.length)
    (hrounds : rest.length ≤ rounds) (hv : v.length ≤ 255) (h : valueLoop s rounds i v = .ok (j, v')) :
    ∃ spelled w tail, rest = spelled ++ tail ∧ Decodes spelled w ∧ (∀ c ∈ w, control c = false) ∧
      v' = v ++ w ∧ v'.length ≤ 255 ∧ j = i + spelled.length ∧ (tail = [] ∨ tail.head? = some 10) := by
  induction rounds generalizing rest i v with
  | zero =>
    have hnil : rest = [] := List.length_eq_zero_iff.mp (by omega)
    have hlength := length_of_drop_eq hrest hi
    subst hnil
    rw [valueLoop, if_neg (by simp at hlength; omega)] at h
    obtain ⟨rfl, rfl⟩ := Prod.mk.inj (Except.ok.inj h)
    exact ⟨[], [], [], rfl, .nil, by simp, by simp, hv, rfl, .inl rfl⟩
  | succ rounds ih =>
    have hlength := length_of_drop_eq hrest hi
    cases rest with
    | nil =>
      rw [valueLoop, if_neg (by simp at hlength; omega)] at h
      obtain ⟨rfl, rfl⟩ := Prod.mk.inj (Except.ok.inj h)
      exact ⟨[], [], [], rfl, .nil, by simp, by simp, hv, rfl, .inl rfl⟩
    | cons c rest =>
      have hlt := lt_of_drop_cons hrest
      have hnext := drop_succ_eq hrest
      simp only [valueLoop, if_pos hlt, readAt_eq hrest, bind, Except.bind] at h
      split at h
      · rename_i hend
        obtain ⟨rfl, rfl⟩ := Prod.mk.inj (Except.ok.inj h)
        exact ⟨[], [], c :: rest, rfl, .nil, by simp, by simp, hv, rfl, .inr (by rw [hend]; rfl)⟩
      · cases hbyte : valueByte s (i + 1) c with
        | error e =>
          rw [hbyte] at h
          cases h
        | ok next =>
          obtain ⟨j', d⟩ := next
          simp only [hbyte] at h
          split at h
          · cases h
          · rename_i hgood
            simp only [not_or, Bool.not_eq_true] at hgood
            rcases (valueByte_ok hnext hlt).mp hbyte with
              ⟨hplain, rfl, rfl⟩ | ⟨rfl, a, b, tail, rfl, hescaped, rfl⟩
            · obtain ⟨spelled, w, tail, rfl, hdecodes, hw, rfl, hle, rfl, htail⟩ :=
                ih hnext hlt (by simp at hrounds; omega) (by simp; omega) h
              refine ⟨d :: spelled, d :: w, tail, rfl, .plain hplain hdecodes, ?_, by simp, hle, ?_, htail⟩
              · simpa [hgood.1] using hw
              · simp
                omega
            · have hjump : s.drop (i + 1 + 2) = tail := drop_succ_eq (drop_succ_eq hnext)
              obtain ⟨spelled, w, tail, rfl, hdecodes, hw, rfl, hle, rfl, htail⟩ :=
                ih hjump (by simp at hlength; omega) (by simp at hrounds; omega) (by simp; omega) h
              refine ⟨ascii '%' :: a :: b :: spelled, d :: w, tail, rfl, .escape hescaped hdecodes, ?_,
                by simp, hle, ?_, htail⟩
              · simpa [hgood.1] using hw
              · simp
                omega

/-- What decodes up to the end of a line is read. -/
theorem valueLoop_complete {spelled w tail : CText} (hdecodes : Decodes spelled w) {rounds : Nat}
    {v : CText} (hrest : s.drop i = spelled ++ 10 :: tail) (hrounds : spelled.length < rounds)
    (hw : ∀ c ∈ w, control c = false) (hroom : v.length + w.length ≤ 255) :
    valueLoop s rounds i v = .ok (i + spelled.length, v ++ w) := by
  induction hdecodes generalizing i rounds v with
  | nil =>
    obtain ⟨rounds, rfl⟩ : ∃ n, rounds = n + 1 := ⟨rounds - 1, by simp at hrounds; omega⟩
    simp [valueLoop, readAt_eq hrest, bind, Except.bind]
  | @plain c spelled w hplain hdecodes ih =>
    obtain ⟨rounds, rfl⟩ : ∃ n, rounds = n + 1 := ⟨rounds - 1, by simp at hrounds; omega⟩
    have hlt := lt_of_drop_cons hrest
    have hnext := drop_succ_eq hrest
    have hc := hw c (by simp)
    have hend : c ≠ 10 := fun h => by
      rw [h] at hc
      cases hc
    have hbyte := (valueByte_ok (c := c) (d := c) (j := i + 1) hnext hlt).mpr (.inl ⟨hplain, rfl, rfl⟩)
    simp only [valueLoop, if_pos hlt, readAt_eq hrest, bind, Except.bind, if_neg hend, hbyte]
    simp only [List.length_cons] at hroom
    rw [if_neg (by simp only [hc]; simp; omega),
      ih hnext (by simp at hrounds; omega) (fun c h => hw c (by simp [h])) (by simp; omega)]
    simp
    omega
  | @escape a b c spelled w hescaped hdecodes ih =>
    obtain ⟨rounds, rfl⟩ : ∃ n, rounds = n + 1 := ⟨rounds - 1, by simp at hrounds; omega⟩
    have hlt := lt_of_drop_cons hrest
    have hnext := drop_succ_eq hrest
    have hc := hw c (by simp)
    have hbyte := (valueByte_ok (c := ascii '%') (d := c) (j := i + 1 + 2) hnext hlt).mpr
      (.inr ⟨rfl, a, b, _, rfl, hescaped, rfl⟩)
    have hend : ascii '%' ≠ 10 := by decide
    simp only [valueLoop, if_pos hlt, readAt_eq hrest, bind, Except.bind, if_neg hend, hbyte]
    simp only [List.length_cons] at hroom
    rw [if_neg (by simp only [hc]; simp; omega),
      ih (drop_succ_eq (drop_succ_eq hnext)) (by simp at hrounds; omega)
        (fun c h => hw c (by simp [h])) (by simp; omega)]
    simp
    omega

theorem valueLoop_inside {rounds : Nat} {v : CText} (hrounds : s.length ≤ i + rounds) :
    valueLoop s rounds i v ≠ .error .outside := by
  induction rounds generalizing i v with
  | zero =>
    rw [valueLoop, if_neg (by omega)]
    simp
  | succ rounds ih =>
    unfold valueLoop
    split
    · rename_i hlt
      have hread : readAt s i = .ok s[i] := by simp [readAt, readByte, hlt]
      simp only [hread, bind, Except.bind]
      split
      · simp
      · cases hbyte : valueByte s (i + 1) s[i] with
        | error e =>
          intro h
          have he : e = .outside := by simpa using h
          exact valueByte_inside (he ▸ hbyte)
        | ok next =>
          obtain ⟨j, d⟩ := next
          have hle : i + 1 ≤ j := by
            rcases (valueByte_ok rfl hlt).mp hbyte with ⟨-, -, rfl⟩ | ⟨-, _, _, _, -, -, rfl⟩
            · exact Nat.le_refl _
            · omega
          simp only []
          split
          · simp
          · exact ih (by omega)
    · simp

end

/-! ## The text -/

theorem notMem_of_keyText {key : CText} (h : KeyText key) : ∀ c ∈ key, decide (c ≠ ascii '=') = true := by
  intro c hc
  refine decide_eq_true fun hsep => ?_
  have hchar := h.chars c hc
  rw [hsep] at hchar
  cases hchar

/-- The loop over the lines has read a line for each field. -/
theorem fieldLoop_sound {s rest : CText} {room i : Nat} {fields all : List Field}
    (hrest : s.drop i = rest) (hi : i ≤ s.length) (h : fieldLoop s room i fields = .ok all) :
    ∃ more lines, all = fields ++ more ∧ rest = lines.flatten ∧ List.Forall₂ FieldLine lines more ∧
      more.length ≤ room ∧ ((fields.map Field.key).Nodup → (all.map Field.key).Nodup) := by
  induction room generalizing i fields rest with
  | zero =>
    unfold fieldLoop at h
    split at h
    · cases h
    · rename_i hend
      obtain rfl := Except.ok.inj h
      exact ⟨[], [], by simp, by rw [nil_of_drop hrest hend]; rfl, .nil, by simp, id⟩
  | succ room ih =>
    unfold fieldLoop at h
    split at h
    · simp only [bind, Except.bind] at h
      cases hkey : keyLoop s s.length i [] with
      | error e =>
        rw [hkey] at h
        cases h
      | ok found =>
        obtain ⟨j, key⟩ := found
        obtain ⟨hword, hchars, hlength, rfl⟩ := (keyLoop_ok hi).mp hkey
        simp only [hkey] at h
        split at h
        · cases h
        rename_i hsome
        split at h
        · cases h
        · rename_i hnew
          -- what stands behind the key begins with its `=`
          have hsplit := List.takeWhile_append_dropWhile (p := fun c => decide (c ≠ ascii '=')) (l := rest)
          rw [hrest] at hword
          rw [← hword] at hsplit
          have hat : s.drop (i + key.length) = rest.dropWhile fun c => decide (c ≠ ascii '=') := by
            have hleft := @List.drop_left _ key (rest.dropWhile fun c => decide (c ≠ ascii '='))
            rw [hsplit] at hleft
            rw [← List.drop_drop, hrest, hleft]
          have hle : i + key.length ≤ s.length := by
            have hsum := length_of_drop_eq hrest hi
            rw [← hsplit, List.length_append] at hsum
            omega
          cases hdrop : rest.dropWhile fun c => decide (c ≠ ascii '=') with
          | nil =>
            rw [hdrop, List.drop_eq_nil_iff] at hat
            exact absurd (.inr (by omega)) hsome
          | cons c back =>
            have hc : c = ascii '=' := by
              have hhead := List.head?_dropWhile_not (fun c => decide (c ≠ ascii '=')) rest
              rw [hdrop] at hhead
              simpa using hhead
            subst hc
            rw [hdrop] at hat hsplit
            have hback := drop_succ_eq hat
            have hlt := lt_of_drop_cons hat
            cases hvalue : valueLoop s s.length (i + key.length + 1) [] with
            | error e =>
              rw [hvalue] at h
              cases h
            | ok read =>
              obtain ⟨j, value⟩ := read
              simp only [hvalue] at h
              have hfits := length_of_drop_eq hback hlt
              obtain ⟨spelled, w, tail, rfl, hdecodes, hw, hv, hbound, rfl, htail⟩ :=
                valueLoop_sound hback hlt (by omega) (by simp) hvalue
              rw [List.nil_append] at hv
              subst hv
              split at h
              · cases h
              · rename_i hend
                rw [List.length_append] at hfits
                cases tail with
                | nil => exact absurd (by simp at hfits; omega) hend
                | cons c tail =>
                  have hc : c = 10 := by simpa using htail
                  subst hc
                  have htail : s.drop (i + key.length + 1 + spelled.length) = 10 :: tail := by
                    rw [← List.drop_drop, hback, List.drop_left]
                  obtain ⟨more, lines, rfl, rfl, hlines, hroom, hkeys⟩ :=
                    ih (drop_succ_eq htail) (lt_of_drop_cons htail) h
                  refine ⟨⟨key, value⟩ :: more, (key ++ ascii '=' :: spelled ++ [10]) :: lines, ?_, ?_,
                    .cons ⟨⟨⟨?_, hlength⟩, hchars⟩, ⟨hbound, hw⟩, spelled, rfl, hdecodes⟩ hlines, ?_, ?_⟩
                  · simp
                  · rw [← hsplit]
                    simp
                  · exact List.length_pos_iff.mpr fun hnil => hsome (.inl hnil)
                  · simp
                    omega
                  · intro hnodup
                    refine hkeys ?_
                    rw [List.map_append, List.nodup_append]
                    exact ⟨hnodup, by simp, by simpa using hnew⟩
    · rename_i hend
      obtain rfl := Except.ok.inj h
      exact ⟨[], [], by simp, by rw [nil_of_drop hrest hend]; rfl, .nil, by simp, id⟩

/-- A line for each field is read. -/
theorem fieldLoop_complete {s : CText} {lines : List CText} {more : List Field}
    (hlines : List.Forall₂ FieldLine lines more) {room i : Nat} {fields : List Field}
    (hrest : s.drop i = lines.flatten) (hi : i ≤ s.length) (hroom : more.length ≤ room)
    (hkeys : ((fields ++ more).map Field.key).Nodup) :
    fieldLoop s room i fields = .ok (fields ++ more) := by
  induction hlines generalizing room i fields with
  | nil =>
    have hend : ¬ i < s.length := by
      have hdone := List.drop_eq_nil_iff.mp hrest
      omega
    cases room <;> simp [fieldLoop, hend]
  | @cons line f lines more hline hlines ih =>
    obtain ⟨room, rfl⟩ : ∃ n, room = n + 1 := ⟨room - 1, by simp at hroom; omega⟩
    obtain ⟨key, value⟩ := f
    obtain ⟨hkey, hvalue, spelled, rfl, hdecodes⟩ := hline
    simp only at hkey hvalue hdecodes
    have hrest : s.drop i = key ++ ascii '=' :: (spelled ++ 10 :: lines.flatten) := by
      rw [hrest]
      simp
    have hlength := length_of_drop_eq hrest hi
    simp only [List.length_append, List.length_cons] at hlength
    have hword : key = (s.drop i).takeWhile (· ≠ ascii '=') := by
      rw [hrest, List.takeWhile_append_of_pos (notMem_of_keyText hkey)]
      simp
    have hkeyLoop := (@keyLoop_ok s i key _ hi).mpr ⟨hword, hkey.chars, hkey.length.2, rfl⟩
    have hat : s.drop (i + key.length) = ascii '=' :: (spelled ++ 10 :: lines.flatten) := by
      rw [← List.drop_drop, hrest, List.drop_left]
    have hback := drop_succ_eq hat
    have hvalueLoop := @valueLoop_complete s _ _ _ _ hdecodes s.length [] hback (by omega)
      hvalue.bytes (by have := hvalue.length; simpa using this)
    have htail : s.drop (i + key.length + 1 + spelled.length) = 10 :: lines.flatten := by
      rw [← List.drop_drop, hback, List.drop_left]
    have hne : key ≠ [] := fun hnil => by
      have hpos := hkey.length.1
      rw [hnil] at hpos
      cases hpos
    have hnew : key ∉ fields.map Field.key := by
      rw [List.map_append, List.map_cons, List.nodup_append] at hkeys
      exact fun hmem => hkeys.2.2 _ hmem _ (by simp) rfl
    unfold fieldLoop
    rw [if_pos (by omega)]
    simp only [hkeyLoop, bind, Except.bind, hvalueLoop, List.nil_append]
    rw [if_neg (by simp only [hne, false_or]; omega), if_neg hnew, if_neg (by omega),
      ih (drop_succ_eq htail) (lt_of_drop_cons htail) (by simp at hroom; omega) (by simpa using hkeys)]
    simp

theorem fieldLoop_inside {s : CText} {room i : Nat} {fields : List Field} (hi : i ≤ s.length) :
    fieldLoop s room i fields ≠ .error .outside := by
  induction room generalizing i fields with
  | zero =>
    unfold fieldLoop
    split <;> simp
  | succ room ih =>
    unfold fieldLoop
    split
    · simp only [bind, Except.bind]
      cases hkey : keyLoop s s.length i [] with
      | error e =>
        intro h
        have he : e = .outside := by simpa using h
        exact keyLoop_inside hi (he ▸ hkey)
      | ok found =>
        obtain ⟨j, key⟩ := found
        obtain ⟨hword, -, -, rfl⟩ := (keyLoop_ok hi).mp hkey
        simp only []
        split
        · simp
        split
        · simp
        · cases hvalue : valueLoop s s.length (i + key.length + 1) [] with
          | error e =>
            intro h
            have he : e = .outside := by simpa using h
            exact valueLoop_inside (by omega) (he ▸ hvalue)
          | ok read =>
            obtain ⟨j, value⟩ := read
            simp only []
            split
            · simp
            · rename_i hend
              have hlt : i + key.length + 1 ≤ s.length := by
                have hfront : key.length ≤ (s.drop i).length := by
                  rw [hword]
                  exact (List.takeWhile_prefix _).length_le
                rw [List.length_drop] at hfront
                omega
              obtain ⟨spelled, w, tail, htail, -, -, -, -, rfl, -⟩ :=
                valueLoop_sound rfl hlt (by simp) (by simp) hvalue
              have hfits := length_of_drop_eq htail hlt
              rw [List.length_append] at hfits
              exact ih (by omega)
    · simp

theorem webFieldsParse_ok {s : CText} {fields : List Field} :
    webFieldsParse s = .ok fields ↔ FieldText s fields := by
  constructor
  · intro h
    obtain ⟨more, lines, rfl, hs, hlines, hroom, hkeys⟩ :=
      @fieldLoop_sound s s _ _ _ _ (by simp) (by simp) h
    exact ⟨⟨lines, hs, hlines⟩, hroom, hkeys (by simp)⟩
  · intro ⟨⟨lines, hs, hlines⟩, hcount, hdistinct⟩
    exact @fieldLoop_complete s lines fields hlines 32 0 [] (by simpa using hs) (by simp) hcount hdistinct

/-- The text leaves room for its end in an array of so many bytes, and ends there. -/
def Terminated (size : Nat) (t : CText) : Prop := t.length < size ∧ 0 ∉ t

theorem terminated_of_fieldLine {line : CText} {f : Field} (h : FieldLine line f) :
    Terminated 32 f.key ∧ Terminated 256 f.value := by
  refine ⟨⟨Nat.lt_succ_of_le h.key.length.2, fun hzero => ?_⟩,
    ⟨Nat.lt_succ_of_le h.value.length, fun hzero => ?_⟩⟩
  · have hchar := h.key.chars 0 hzero
    cases hchar
  · have hbyte := h.value.bytes 0 hzero
    cases hbyte

/-- Each field has a line. -/
theorem line_of_forall₂ {lines : List CText} {fields : List Field}
    (h : List.Forall₂ FieldLine lines fields) : ∀ f ∈ fields, ∃ line, FieldLine line f := by
  induction h with
  | nil => simp
  | @cons line f lines fields hline _ ih =>
    intro g hg
    rcases List.mem_cons.mp hg with rfl | hg
    · exact ⟨line, hline⟩
    · exact ih g hg

/-- **The parser takes exactly the texts of its grammar**, with their fields, reads nothing beyond
    the text, and leaves terminated keys and values. -/
theorem fields_accepted (s : CText) :
    (∀ fields, webFieldsParse s = .ok fields ↔ FieldText s fields) ∧
      webFieldsParse s ≠ .error .outside ∧
      ∀ fields, webFieldsParse s = .ok fields →
        ∀ f ∈ fields, Terminated 32 f.key ∧ Terminated 256 f.value := by
  refine ⟨fun fields => webFieldsParse_ok, fieldLoop_inside (Nat.zero_le _), fun fields h f hf => ?_⟩
  obtain ⟨lines, -, hlines⟩ := (webFieldsParse_ok.mp h).lines
  obtain ⟨line, hline⟩ := line_of_forall₂ hlines f hf
  exact terminated_of_fieldLine hline

theorem fields_accepted_login :
    FieldText (text "op=login\nuser=%41b\n") [⟨text "op", text "login"⟩, ⟨text "user", text "Ab"⟩] ∧
      Terminated 32 (text "user") ∧ Terminated 256 (text "Ab") := by
  have haccepted := fields_accepted (text "op=login\nuser=%41b\n")
  have hparse : webFieldsParse (text "op=login\nuser=%41b\n") =
      .ok [⟨text "op", text "login"⟩, ⟨text "user", text "Ab"⟩] := by decide +kernel
  exact ⟨(haccepted.1 _).mp hparse, haccepted.2.2 _ hparse ⟨text "user", text "Ab"⟩ (by simp)⟩

end FourVrs.Web
