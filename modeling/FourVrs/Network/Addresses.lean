import FourVrs.Network.Settings
import Mathlib.Tactic.IntervalCases

/-!
# Addresses as text

A number is written without leading zeros, and the parser takes no others: an address has
one spelling, which `gateway_ipv4_format` writes and `gateway_ipv4_parse` reads back.
-/

set_option autoImplicit false

namespace FourVrs.Network

open Config

/-! ## Numbers -/

theorem decimalText_digits {n : Nat} : ∀ b ∈ decimalText n, isDigit b = true := fun _ hb =>
  isDigit_of_mem_decimalText hb

theorem not_mem_decimalText {n : Nat} {b : UInt8} (h : isDigit b = false) : b ∉ decimalText n := by
  intro hb
  exact absurd (decimalText_digits b hb) (by simp [h])

theorem decimalText_ne_nil (n : Nat) : decimalText n ≠ [] := by
  unfold decimalText
  simp

theorem digitsValue_decimalText (n : Nat) : digitsValue (decimalText n) = n := by
  have hvalue : ∀ (chars : List Char) (start : Nat), (∀ c ∈ chars, c.isDigit = true) →
      (chars.map ascii).foldl (fun value b => 10 * value + digitValue b) start =
        Nat.ofDigitChars 10 chars start := by
    intro chars
    induction chars with
    | nil => simp
    | cons c chars ih =>
      intro start hdigits
      have hc := hdigits c (by simp)
      simp only [Char.isDigit, Bool.and_eq_true, decide_eq_true_eq] at hc
      have hhigh : c.toNat ≤ 57 := UInt32.le_iff_toNat_le.mp hc.2
      have hbyte : digitValue (ascii c) = c.toNat - '0'.toNat := by
        simp only [digitValue, ascii, Nat.toUInt8, UInt8.toNat_ofNat']
        show c.toNat % 2 ^ 8 - 48 = c.toNat - 48
        omega
      rw [List.map_cons, List.foldl_cons, Nat.ofDigitChars_cons, hbyte]
      exact ih _ fun c hc => hdigits c (List.mem_cons_of_mem _ hc)
  unfold digitsValue decimalText
  rw [hvalue _ 0 fun c hc => Nat.isDigit_of_mem_toDigits (by decide) (by decide) hc,
    Nat.ofDigitChars_ten_toDigits]

theorem length_decimalText_le {n k : Nat} (hk : 0 < k) (h : n < 10 ^ k) : (decimalText n).length ≤ k := by
  unfold decimalText
  rw [List.length_map]
  exact (Nat.length_toDigits_le_iff (by decide) hk).mpr h

theorem decimalText_digit {d : Nat} (h : d < 10) : decimalText d = [UInt8.ofNat (48 + d)] := by
  interval_cases d <;> rfl

/-! ## Addresses -/

/-- A byte is written in at most three digits, the first of them no zero. -/
theorem decimalText_byte {n : Nat} (h : n < 256) :
    (decimalText n).length ≤ 3 ∧
      ¬ ((decimalText n).length > 1 ∧ (decimalText n).head? = some (ascii '0')) := by
  have hall : ∀ k : Fin 256, (decimalText k).length ≤ 3 ∧
      ¬ ((decimalText k).length > 1 ∧ (decimalText k).head? = some (ascii '0')) := by
    decide +kernel
  exact hall ⟨n, h⟩

/-- A number of at most three digits with no zero in front is written as it is read. -/
theorem decimalText_digitsValue {digits : CText} (hdigits : ∀ b ∈ digits, isDigit b = true)
    (hne : digits ≠ []) (hlength : digits.length ≤ 3)
    (hzero : ¬ (digits.length > 1 ∧ digits.head? = some (ascii '0'))) :
    decimalText (digitsValue digits) = digits := by
  have hvalue : ∀ b ∈ digits, ∃ d : Fin 10, b = UInt8.ofNat (48 + d.val) := by
    intro b hb
    have hdigit := hdigits b hb
    simp only [isDigit, Bool.and_eq_true, decide_eq_true_eq, UInt8.le_iff_toNat_le] at hdigit
    have hlow : 48 ≤ b.toNat := hdigit.1
    have hhigh : b.toNat ≤ 57 := hdigit.2
    refine ⟨⟨b.toNat - 48, by omega⟩, UInt8.toNat_inj.mp ?_⟩
    rw [UInt8.toNat_ofNat']
    show b.toNat = (48 + (b.toNat - 48)) % 2 ^ 8
    omega
  let digit (d : Fin 10) : UInt8 := UInt8.ofNat (48 + d.val)
  have hone : ∀ a, decimalText (digitsValue [digit a]) = [digit a] := by decide +kernel
  have htwo : ∀ a b, a ≠ 0 → decimalText (digitsValue [digit a, digit b]) = [digit a, digit b] := by
    decide +kernel
  have hthree : ∀ a b c, a ≠ 0 →
      decimalText (digitsValue [digit a, digit b, digit c]) = [digit a, digit b, digit c] := by
    decide +kernel
  rcases digits with _ | ⟨x, _ | ⟨y, _ | ⟨z, _ | ⟨_, _⟩⟩⟩⟩
  · exact absurd rfl hne
  · obtain ⟨a, rfl⟩ := hvalue x (by simp)
    exact hone a
  · obtain ⟨a, rfl⟩ := hvalue x (by simp)
    obtain ⟨b, rfl⟩ := hvalue y (by simp)
    exact htwo a b fun h => hzero ⟨by simp, by rw [h]; rfl⟩
  · obtain ⟨a, rfl⟩ := hvalue x (by simp)
    obtain ⟨b, rfl⟩ := hvalue y (by simp)
    obtain ⟨c, rfl⟩ := hvalue z (by simp)
    exact hthree a b c fun h => hzero ⟨by simp, by rw [h]; rfl⟩
  · simp only [List.length_cons] at hlength
    omega

theorem takeWhile_decimalText (n : Nat) {rest : CText} (hrest : ∀ b ∈ rest.head?, isDigit b = false) :
    (decimalText n ++ rest).takeWhile isDigit = decimalText n := by
  rw [List.takeWhile_append_of_pos fun b hb => decimalText_digits b hb]
  cases rest with
  | nil => simp
  | cons b rest => simp [hrest b rfl]

theorem ipv4Part_decimalText {n : Nat} (h : n < 256) {rest : CText}
    (hrest : ∀ b ∈ rest.head?, isDigit b = false) : ipv4Part (decimalText n ++ rest) = some (n, rest) := by
  obtain ⟨hlength, hzero⟩ := decimalText_byte h
  unfold ipv4Part
  simp only [takeWhile_decimalText n hrest, digitsValue_decimalText]
  rw [if_neg]
  · rw [List.drop_left]
  · intro hbad
    rcases hbad with hlong | hlarge | hnil | hleading
    · omega
    · omega
    · exact decimalText_ne_nil n hnil
    · exact hzero hleading

theorem ipv4Dot_cons (rest : CText) : ipv4Dot (ascii '.' :: rest) = some rest := by
  simp [ipv4Dot]

/-- A number of an address is written in one way. -/
theorem ipv4Part_eq_some {input rest : CText} {n : Nat} (h : ipv4Part input = some (n, rest)) :
    n < 256 ∧ input = decimalText n ++ rest := by
  unfold ipv4Part at h
  simp only [] at h
  split at h
  · cases h
  · rename_i hgood
    simp only [not_or, not_lt] at hgood
    obtain ⟨rfl, rfl⟩ := Prod.mk.inj (Option.some.inj h)
    have hdigits : ∀ b ∈ input.takeWhile isDigit, isDigit b = true := fun b hb => List.mem_takeWhile_imp hb
    refine ⟨by omega, ?_⟩
    rw [decimalText_digitsValue hdigits hgood.2.2.1 hgood.1 hgood.2.2.2]
    have hdrop : (input.takeWhile isDigit ++ input.dropWhile isDigit).drop
        (input.takeWhile isDigit).length = input.dropWhile isDigit := List.drop_left
    rw [List.takeWhile_append_dropWhile] at hdrop
    rw [hdrop, List.takeWhile_append_dropWhile]

theorem ipv4Dot_eq_some {input rest : CText} (h : ipv4Dot input = some rest) : input = ascii '.' :: rest := by
  cases input with
  | nil => cases h
  | cons b input =>
    simp only [ipv4Dot] at h
    split at h
    · rename_i heq
      rw [heq, Option.some.inj h]
    · cases h

/-- **What is written is read back.** -/
theorem ipv4Parse_format (address : BitVec 32) : ipv4Parse (ipv4Format address) = some address := by
  have hlt := address.isLt
  have hdot : ∀ (rest : CText), ∀ b ∈ (ascii '.' :: rest).head?, isDigit b = false := by
    intro rest b hb
    cases hb
    rfl
  have hend : ∀ b ∈ ([] : CText).head?, isDigit b = false := by simp
  have hlast := @ipv4Part_decimalText (address.toNat % 256) (Nat.mod_lt _ (by decide)) [] hend
  rw [List.append_nil] at hlast
  unfold ipv4Parse ipv4Format
  simp only [List.append_assoc, List.cons_append]
  rw [ipv4Part_decimalText (by omega) (hdot _)]
  simp only [Option.bind_eq_bind, Option.bind_some, ipv4Dot_cons]
  rw [ipv4Part_decimalText (by omega) (hdot _)]
  simp only [Option.bind_some, ipv4Dot_cons]
  rw [ipv4Part_decimalText (by omega) (hdot _)]
  simp only [Option.bind_some, ipv4Dot_cons, hlast, if_true, Option.some.injEq]
  apply BitVec.eq_of_toNat_eq
  rw [BitVec.toNat_ofNat]
  omega

/-- **An address has one spelling.** -/
theorem ipv4Parse_eq_some {t : CText} {a : BitVec 32} : ipv4Parse t = some a ↔ t = ipv4Format a := by
  constructor
  · intro h
    unfold ipv4Parse at h
    simp only [Option.bind_eq_bind, Option.bind_eq_some_iff] at h
    obtain ⟨⟨n₁, r₁⟩, h₁, s₁, hs₁, ⟨n₂, r₂⟩, h₂, s₂, hs₂, ⟨n₃, r₃⟩, h₃, s₃, hs₃, ⟨n₄, r₄⟩, h₄, hend⟩ := h
    obtain ⟨hn₁, rfl⟩ := ipv4Part_eq_some h₁
    obtain ⟨hn₂, rfl⟩ := ipv4Part_eq_some h₂
    obtain ⟨hn₃, rfl⟩ := ipv4Part_eq_some h₃
    obtain ⟨hn₄, rfl⟩ := ipv4Part_eq_some h₄
    simp only [] at hs₁ hs₂ hs₃ hend
    rw [ipv4Dot_eq_some hs₁, ipv4Dot_eq_some hs₂, ipv4Dot_eq_some hs₃]
    split at hend
    · rename_i hnil
      have hword : a.toNat = ((n₁ * 256 + n₂) * 256 + n₃) * 256 + n₄ := by
        rw [← Option.some.inj hend, BitVec.toNat_ofNat]
        omega
      have hparts : a.toNat / 2 ^ 24 = n₁ ∧ a.toNat / 2 ^ 16 % 256 = n₂ ∧ a.toNat / 2 ^ 8 % 256 = n₃ ∧
          a.toNat % 256 = n₄ := by omega
      simp only [ipv4Format, hparts, hnil, List.append_nil, List.append_assoc, List.cons_append]
    · cases hend
  · intro h
    rw [h, ipv4Parse_format]

theorem length_ipv4Format (a : BitVec 32) : 0 < (ipv4Format a).length ∧ (ipv4Format a).length ≤ 15 := by
  have hlt := a.isLt
  have h₁ := (decimalText_byte (n := a.toNat / 2 ^ 24) (by omega)).1
  have h₂ := (decimalText_byte (n := a.toNat / 2 ^ 16 % 256) (by omega)).1
  have h₃ := (decimalText_byte (n := a.toNat / 2 ^ 8 % 256) (by omega)).1
  have h₄ := (decimalText_byte (n := a.toNat % 256) (by omega)).1
  simp only [ipv4Format, List.length_append, List.length_cons]
  omega

theorem ipv4Format_injective : Function.Injective ipv4Format := by
  intro a b h
  have hparse := congrArg ipv4Parse h
  simpa [ipv4Parse_format] using hparse

theorem ipv4Format_ne_nil (address : BitVec 32) : ipv4Format address ≠ [] := by
  intro h
  have hparse := ipv4Parse_format address
  rw [h] at hparse
  cases hparse

end FourVrs.Network
