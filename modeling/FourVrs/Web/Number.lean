import FourVrs.Network.AddressBuffer
import FourVrs.Web.Requests

/-!
# Numbers on a machine word (`web_number` of `web/web_protocol.c`)

`webNumber` computes with numbers that have no bound; the code computes with words of 32 bits. Here
its operations are checked: one that wraps around has no result.
-/

set_option autoImplicit false

namespace FourVrs.Web

open Config
open Network (le_foldl_digits)

/-! ## Checked words -/

abbrev Word : Type := BitVec 32

def subWord (a b : Word) : Option Word := if b.toNat ≤ a.toNat then some (a - b) else none
def mulWord (a b : Word) : Option Word := if a.toNat * b.toNat < 2 ^ 32 then some (a * b) else none
def addWord (a b : Word) : Option Word := if a.toNat + b.toNat < 2 ^ 32 then some (a + b) else none

theorem subWord_eq {a b : Word} (h : b.toNat ≤ a.toNat) :
    subWord a b = some (BitVec.ofNat 32 (a.toNat - b.toNat)) := by
  rw [subWord, if_pos h, Option.some.injEq]
  apply BitVec.eq_of_toNat_eq
  rw [BitVec.toNat_sub_of_le h, BitVec.toNat_ofNat, Nat.mod_eq_of_lt (by omega)]

theorem mulWord_eq {a b : Word} (h : a.toNat * b.toNat < 2 ^ 32) :
    mulWord a b = some (BitVec.ofNat 32 (a.toNat * b.toNat)) := by
  rw [mulWord, if_pos h, Option.some.injEq]
  apply BitVec.eq_of_toNat_eq
  rw [BitVec.toNat_mul, BitVec.toNat_ofNat]

theorem addWord_eq {a b : Word} (h : a.toNat + b.toNat < 2 ^ 32) :
    addWord a b = some (BitVec.ofNat 32 (a.toNat + b.toNat)) := by
  rw [addWord, if_pos h, Option.some.injEq]
  apply BitVec.eq_of_toNat_eq
  rw [BitVec.toNat_add, BitVec.toNat_ofNat]

/-! ## The loop -/

/-- The loop of `web_number` over the string at `s`, where the value so far is `v`. What it ends
    with is the value, or that there is none. -/
def wordLoop (max : Word) : List UInt8 → Word → Option (Option Word)
  | [], v => some (some v)
  | c :: s, v =>
      if c = 0 then some (some v)
      else if c < 48 ∨ 57 < c then some none
      else do
        let d ← subWord (BitVec.ofNat 32 c.toNat) 48
        if max < d then some none
        else do
          let room ← subWord max d
          if room / 10 < v then some none
          else do
            let tens ← mulWord v 10
            let next ← addWord tens d
            wordLoop max s next

/-- `web_number`: what it returns, and what `out` holds afterwards. -/
def webNumberWord (s : List UInt8) (max out : Word) : Option (Int × Word) :=
  if s.head?.getD 0 = 0 then some (-1, out)
  else (wordLoop max s 0).map fun
    | none => (-1, out)
    | some v => (0, v)

/-- The bytes of a string before its terminator. -/
def stringBytes (s : List UInt8) : List UInt8 := s.takeWhile fun b => decide (b ≠ 0)

/-! ## What the loop computes -/

theorem digit_word {c : UInt8} (h : isDigit c = true) :
    48 ≤ c.toNat ∧ c.toNat ≤ 57 ∧ subWord (BitVec.ofNat 32 c.toNat) 48 =
      some (BitVec.ofNat 32 (digitValue c)) := by
  simp only [isDigit, Bool.and_eq_true, decide_eq_true_iff] at h
  have hlow : 48 ≤ c.toNat := h.1
  have hhigh : c.toNat ≤ 57 := h.2
  have hnat : (BitVec.ofNat 32 c.toNat).toNat = c.toNat := by
    rw [BitVec.toNat_ofNat, Nat.mod_eq_of_lt (by omega)]
  refine ⟨hlow, hhigh, ?_⟩
  rw [subWord_eq (by rw [hnat]; exact hlow), hnat]
  rfl

/-- The loop on words is the loop on numbers, and nothing in it wraps around. -/
theorem wordLoop_eq (max : Word) {s : List UInt8} {v : Nat} (hv : v < 2 ^ 32) :
    wordLoop max s (BitVec.ofNat 32 v) =
      some ((numberLoop max.toNat (stringBytes s) v).map (BitVec.ofNat 32)) := by
  induction s generalizing v with
  | nil => rfl
  | cons c s ih =>
    have hmax := max.isLt
    have hvNat : (BitVec.ofNat 32 v).toNat = v := by
      rw [BitVec.toNat_ofNat, Nat.mod_eq_of_lt hv]
    rw [wordLoop]
    by_cases hzero : c = 0
    · simp [hzero, stringBytes, numberLoop]
    rw [if_neg hzero]
    have hbytes : stringBytes (c :: s) = c :: stringBytes s := by simp [stringBytes, hzero]
    rw [hbytes, numberLoop]
    by_cases hdigit : isDigit c = true
    · obtain ⟨hlow, hhigh, hsub⟩ := digit_word hdigit
      have hrange : ¬ (c < 48 ∨ 57 < c) := by
        simp only [UInt8.lt_iff_toNat_lt, not_or, not_lt]
        exact ⟨hlow, hhigh⟩
      have hd : digitValue c ≤ 9 := by
        unfold digitValue
        omega
      have hdNat : (BitVec.ofNat 32 (digitValue c)).toNat = digitValue c := by
        rw [BitVec.toNat_ofNat, Nat.mod_eq_of_lt (by omega)]
      rw [if_neg hrange, if_pos hdigit, hsub]
      simp only [Option.bind_eq_bind, Option.bind_some, BitVec.lt_def, hdNat]
      by_cases hover : max.toNat < digitValue c
      · simp [hover]
      rw [if_neg hover, subWord_eq (by rw [hdNat]; omega), hdNat]
      have hroom : (BitVec.ofNat 32 (max.toNat - digitValue c) / (10 : Word)).toNat =
          (max.toNat - digitValue c) / 10 := by
        rw [BitVec.toNat_udiv, BitVec.toNat_ofNat, Nat.mod_eq_of_lt (by omega)]
        rfl
      simp only [Option.bind_some, hroom, hvNat]
      by_cases hfull : (max.toNat - digitValue c) / 10 < v
      · simp [hfull]
      -- there is room for the next value
      have hten : (10 : Word).toNat = 10 := rfl
      have hfits : v * 10 + digitValue c ≤ max.toNat := by omega
      rw [if_neg hfull, mulWord_eq (by rw [hvNat, hten]; omega)]
      have htens : (BitVec.ofNat 32 (v * 10)).toNat = v * 10 := by
        rw [BitVec.toNat_ofNat, Nat.mod_eq_of_lt (by omega)]
      simp only [Option.bind_some, hvNat, hten]
      rw [addWord_eq (by rw [htens, hdNat]; omega), htens, hdNat]
      simp only [Option.bind_some]
      rw [ih (by omega), if_neg (by omega)]
    · have hrange : c < 48 ∨ 57 < c := by
        simp only [isDigit, Bool.and_eq_true, decide_eq_true_iff, not_and_or, UInt8.not_le] at hdigit
        exact hdigit
      rw [if_pos hrange, if_neg hdigit]
      rfl

/-! ## What a number is -/

/-- A digit string that is too large for the loop is too large. -/
theorem numberLoop_eq (max : Nat) {s : CText} (hdigits : ∀ c ∈ s, isDigit c = true) {v : Nat}
    (hv : v ≤ max) :
    numberLoop max s v =
      if s.foldl (fun value b => 10 * value + digitValue b) v ≤ max
      then some (s.foldl (fun value b => 10 * value + digitValue b) v) else none := by
  induction s generalizing v with
  | nil => simp [numberLoop, hv]
  | cons c s ih =>
    rw [numberLoop, if_pos (hdigits c (by simp)), List.foldl_cons, Nat.mul_comm 10 v]
    simp only
    by_cases hroom : v * 10 + digitValue c ≤ max
    · rw [if_neg (by omega), ih (fun b hb => hdigits b (by simp [hb])) hroom]
    · have hlarge := le_foldl_digits s (v * 10 + digitValue c)
      rw [if_pos (by omega), if_neg (by omega)]

/-- What a decimal number is: digits, and not none of them. -/
def IsNumber (s : CText) : Prop := s ≠ [] ∧ ∀ c ∈ s, isDigit c = true

theorem webNumber_eq_some {s : CText} {max n : Nat} :
    webNumber s max = some n ↔ IsNumber s ∧ digitsValue s = n ∧ n ≤ max := by
  constructor
  · intro h
    have hnumber := decimal_of_webNumber h
    refine ⟨hnumber.digits, hnumber.value, ?_⟩
    rw [webNumber, if_neg hnumber.digits.1, numberLoop_eq max hnumber.digits.2 (Nat.zero_le max)] at h
    split at h
    next hle => exact Option.some.inj h ▸ hle
    next => cases h
  · rintro ⟨⟨hne, hdigits⟩, rfl, hle⟩
    rw [webNumber, if_neg hne, numberLoop_eq max hdigits (Nat.zero_le max)]
    exact if_pos hle

/-- `webNumber` is `web_number`, and no operation of it wraps around. -/
theorem webNumberWord_eq (s : List UInt8) (max out : Word) :
    webNumberWord s max out =
      some (match webNumber (stringBytes s) max.toNat with
        | none => (-1, out)
        | some n => (0, BitVec.ofNat 32 n)) := by
  have hnone : stringBytes s = [] ↔ s.head?.getD 0 = 0 := by
    cases s with
    | nil | cons c s => simp [stringBytes]
  unfold webNumberWord webNumber
  by_cases hempty : s.head?.getD 0 = 0
  · rw [if_pos hempty, if_pos (hnone.mpr hempty)]
  · rw [if_neg hempty, if_neg fun h => hempty (hnone.mp h)]
    have hloop := wordLoop_eq max (s := s) (v := 0) (by decide)
    rw [show (0 : Word) = BitVec.ofNat 32 0 from rfl, hloop]
    cases numberLoop max.toNat (stringBytes s) 0 <;> rfl

/-- What `web_number` returns and stores. -/
structure BoundedNumber (s : CText) (max out : Word) (result : Int) (stored : Word) : Prop where
  accepts : result = 0 ↔ IsNumber s ∧ digitsValue s ≤ max.toNat
  value : result = 0 → stored.toNat = digitsValue s
  refused : result ≠ 0 → result = -1 ∧ stored = out

/-- **A number within its bound, exactly**: the run has a result, so nothing in it wraps around. -/
theorem webNumberWord_bounded (s : List UInt8) (max out : Word) :
    ∃ result stored, webNumberWord s max out = some (result, stored) ∧
      BoundedNumber (stringBytes s) max out result stored := by
  rw [webNumberWord_eq]
  cases hnumber : webNumber (stringBytes s) max.toNat with
  | none =>
    refine ⟨-1, out, rfl, ?_, fun h => absurd h (by decide), fun _ => ⟨rfl, rfl⟩⟩
    constructor
    · intro h
      exact absurd h (by decide)
    · rintro ⟨hdigits, hle⟩
      have hsome := webNumber_eq_some.mpr ⟨hdigits, rfl, hle⟩
      rw [hnumber] at hsome
      cases hsome
  | some n =>
    obtain ⟨hdigits, hvalue, hle⟩ := webNumber_eq_some.mp hnumber
    refine ⟨0, BitVec.ofNat 32 n, rfl, ⟨fun _ => ⟨hdigits, hvalue ▸ hle⟩, fun _ => rfl⟩, fun _ => ?_,
      fun h => absurd rfl h⟩
    rw [BitVec.toNat_ofNat, Nat.mod_eq_of_lt (by omega), hvalue]

example : webNumberWord (text "007") 7 5 = some (0, 7) := by decide
example : webNumberWord (text "4294967296") 4294967295 5 = some (-1, 5) := by decide

end FourVrs.Web
