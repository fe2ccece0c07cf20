import FourVrs.Network.Addresses

/-!
# Addresses in their buffers (`gateway_ipv4_parse`, `gateway_ipv4_format`)

`ipv4Parse` and `ipv4Format` are about texts; the code has arrays of 16 bytes. Where it stands in
the array is what is left of it from there, and a read where nothing is left has no result.
-/

set_option autoImplicit false

namespace FourVrs.Network

open Config

/-- `char [GATEWAY_IPV4_TEXT_MAX]`. -/
abbrev AddressBuffer : Type := Vector UInt8 16

/-! ## The parser -/

/-- The loop over the digits of a number, from the number and the digits so far: what is left, the
    number and how many digits it has, or none when they are too many. -/
def octetLoop : List UInt8 → Nat → Nat → Option (List UInt8 × Nat × Nat)
  | [], n, digits => some ([], n, digits)
  | b :: rest, n, digits =>
      if isDigit b then
        if digits + 1 > 3 ∨ n * 10 + digitValue b > 255 then none
        else octetLoop rest (n * 10 + digitValue b) (digits + 1)
      else some (b :: rest, n, digits)

/-- What has to stand behind a number: a dot, or the end of the text behind the last. -/
def behindOctet (parts : Nat) : UInt8 := if parts > 0 then ascii '.' else 0

/-- The passes of the loop over the numbers that are still to come: the value, or that the text is
    refused. -/
def octetsLoop : Nat → List UInt8 → BitVec 32 → Option (Option (BitVec 32))
  | 0, _, result => some (some result)
  | parts + 1, start, result =>
      match octetLoop start 0 0 with
      | none => some none
      | some (left, n, digits) =>
          if digits = 0 then some none
          else do
            -- the first digit is looked at only when there are more
            let leading ← if digits > 1 then start.head?.map fun b => decide (b = ascii '0') else some false
            if leading = true ∨ left = [] then some none
            else do
              let b ← left.head?
              if b ≠ behindOctet parts then some none
              else octetsLoop parts (left.drop 1) (result <<< 8 ||| BitVec.ofNat 32 n)

/-- `gateway_ipv4_parse`. -/
def gatewayIpv4Parse (buffer : AddressBuffer) : Option (Option (BitVec 32)) :=
  octetsLoop 4 buffer.toList 0

/-! ## The writer -/

/-- `snprintf` into 16 bytes: as much as fits, a NUL, and what stood behind it. -/
def printInto (buffer : AddressBuffer) (text : CText) : List UInt8 :=
  text.take 15 ++ 0 :: buffer.toList.drop ((text.take 15).length + 1)

theorem length_printInto (buffer : AddressBuffer) (text : CText) : (printInto buffer text).length = 16 := by
  simp only [printInto, List.length_append, List.length_cons, List.length_drop, List.length_take,
    Vector.length_toList]
  omega

/-- `gateway_ipv4_format`. -/
def gatewayIpv4Format (a : BitVec 32) (buffer : AddressBuffer) : AddressBuffer :=
  ⟨(printInto buffer (ipv4Format a)).toArray, by simp [length_printInto]⟩

/-! ## A number of the text -/

/-- A decimal number of one byte without leading zeros. -/
structure IsOctet (t : CText) (n : Nat) : Prop where
  nonempty : t ≠ []
  digits : ∀ b ∈ t, isDigit b = true
  leading : t.head? = some (ascii '0') → t.length = 1
  value : digitsValue t = n
  byte : n ≤ 255

/-- Four of them between single dots, and the end of the text. -/
def DottedQuad (buffer : List UInt8) (a : BitVec 32) : Prop :=
  ∃ t₁ t₂ t₃ t₄ n₁ n₂ n₃ n₄ rest,
    buffer = t₁ ++ ascii '.' :: t₂ ++ ascii '.' :: t₃ ++ ascii '.' :: t₄ ++ 0 :: rest ∧
      IsOctet t₁ n₁ ∧ IsOctet t₂ n₂ ∧ IsOctet t₃ n₃ ∧ IsOctet t₄ n₄ ∧
      a.toNat = ((n₁ * 256 + n₂) * 256 + n₃) * 256 + n₄

/-- The number the first digits spell only grows with the others. -/
theorem le_foldl_digits (t : CText) (v : Nat) :
    v ≤ t.foldl (fun value b => 10 * value + digitValue b) v := by
  induction t generalizing v with
  | nil => exact le_refl v
  | cons b t ih =>
    rw [List.foldl_cons]
    exact le_trans (by omega) (ih (10 * v + digitValue b))

/-- What the loop over the digits finds: all of them, unless they are too many. -/
theorem octetLoop_eq (start : List UInt8) {n digits : Nat} (hn : n ≤ 255) (hdigits : digits ≤ 3) :
    let more := start.takeWhile isDigit
    octetLoop start n digits =
      if digits + more.length ≤ 3 ∧ more.foldl (fun value b => 10 * value + digitValue b) n ≤ 255
      then some (start.dropWhile isDigit, more.foldl (fun value b => 10 * value + digitValue b) n,
        digits + more.length)
      else none := by
  induction start generalizing n digits with
  | nil => simp [octetLoop, hn, hdigits]
  | cons b rest ih =>
    rw [octetLoop]
    by_cases hdigit : isDigit b = true
    · rw [if_pos hdigit, List.takeWhile_cons_of_pos hdigit, List.dropWhile_cons_of_pos hdigit]
      simp only [List.length_cons, List.foldl_cons, Nat.mul_comm 10 n]
      by_cases hbad : digits + 1 > 3 ∨ n * 10 + digitValue b > 255
      · have hlarge := le_foldl_digits (rest.takeWhile isDigit) (n * 10 + digitValue b)
        rw [if_pos hbad, if_neg (by omega)]
      · rw [if_neg hbad, ih (by omega) (by omega)]
        simp only [Nat.add_assoc, Nat.add_comm 1]
    · rw [if_neg hdigit, List.takeWhile_cons_of_neg hdigit, List.dropWhile_cons_of_neg hdigit]
      simp [hn, hdigits]

/-- One number and what has to stand behind it: the loop reads nothing that is not there. -/
theorem octetsLoop_succ (parts : Nat) (start : List UInt8) (result : BitVec 32) :
    octetsLoop (parts + 1) start result =
      match ipv4Part start with
      | none => some none
      | some (_, []) => some none
      | some (n, b :: left) =>
          if b ≠ behindOctet parts then some none
          else octetsLoop parts left (result <<< 8 ||| BitVec.ofNat 32 n) := by
  have hloop := octetLoop_eq start (Nat.zero_le 255) (Nat.zero_le 3)
  have hdrop : start.drop (start.takeWhile isDigit).length = start.dropWhile isDigit := by
    have h : (start.takeWhile isDigit ++ start.dropWhile isDigit).drop
        (start.takeWhile isDigit).length = start.dropWhile isDigit := List.drop_left
    rwa [List.takeWhile_append_dropWhile] at h
  have hhead : ∀ d digits, start.takeWhile isDigit = d :: digits → start.head? = some d := by
    intro d digits hdigits
    rw [← List.takeWhile_append_dropWhile (p := isDigit) (l := start), hdigits]
    rfl
  rw [octetsLoop, ipv4Part, hdrop]
  simp only [Nat.zero_add] at hloop
  rw [hloop]
  generalize start.dropWhile isDigit = left
  cases hdigits : start.takeWhile isDigit with
  | nil => simp
  | cons d digits =>
    have hfirst := hhead d digits hdigits
    have hlong : 0 < (d :: digits).length := by simp
    rw [← digitsValue, hfirst]
    generalize digitsValue (d :: digits) = n
    simp only [List.head?_cons, reduceCtorEq, false_or, Option.some.injEq, Option.map_some]
    generalize (d :: digits).length = k at hlong ⊢
    by_cases hfits : k ≤ 3 ∧ n ≤ 255
    · rw [if_pos hfits]
      simp only [if_neg (show k ≠ 0 by omega)]
      by_cases hmore : k > 1
      · by_cases hzero : d = ascii '0'
        · rw [if_pos hmore, if_pos (show k > 3 ∨ n > 255 ∨ k > 1 ∧ d = ascii '0' by tauto)]
          simp [hzero]
        · have hgood : ¬ (k > 3 ∨ n > 255 ∨ k > 1 ∧ d = ascii '0') := by
            simp only [not_or, not_and]
            exact ⟨by omega, by omega, fun _ => hzero⟩
          rw [if_pos hmore, if_neg hgood]
          cases left <;> simp [hzero]
      · rw [if_neg hmore, if_neg (show ¬ (k > 3 ∨ n > 255 ∨ k > 1 ∧ d = ascii '0') by omega)]
        cases left <;> simp
    · rw [if_neg hfits, if_pos (show k > 3 ∨ n > 255 ∨ k > 1 ∧ d = ascii '0' by omega)]

/-! ## One spelling -/

/-- A byte has one spelling. -/
theorem isOctet_iff {t : CText} {n : Nat} : IsOctet t n ↔ n < 256 ∧ t = decimalText n := by
  constructor
  · rintro ⟨hne, hdigits, hleading, rfl, hbyte⟩
    have hzero : ¬ (t.length > 1 ∧ t.head? = some (ascii '0')) := by
      rintro ⟨hmore, hhead⟩
      have hone := hleading hhead
      omega
    refine ⟨by omega, (decimalText_digitsValue hdigits hne ?_ hzero).symm⟩
    -- four digits without a zero in front are a thousand at least
    by_contra hlong
    match t, hlong with
    | a :: b :: c :: d :: rest, _ =>
      have hlow : 48 ≤ a.toNat := by
        have hdigit := hdigits a (by simp)
        simp only [isDigit, Bool.and_eq_true, decide_eq_true_iff] at hdigit
        exact hdigit.1
      have hne : a.toNat ≠ 48 := by
        intro h
        refine hzero ⟨by simp, ?_⟩
        rw [List.head?_cons, Option.some.injEq]
        exact UInt8.toNat_inj.mp h
      have hgrows := le_foldl_digits rest
        (10 * (10 * (10 * (10 * 0 + digitValue a) + digitValue b) + digitValue c) + digitValue d)
      simp only [digitsValue, List.foldl_cons] at hbyte
      have ha : digitValue a = a.toNat - 48 := rfl
      omega
    | [], h | [_], h | [_, _], h | [_, _, _], h => simp at h
  · rintro ⟨hlt, rfl⟩
    obtain ⟨hlength, hzero⟩ := decimalText_byte hlt
    refine ⟨decimalText_ne_nil n, fun b hb => decimalText_digits b hb, fun hhead => ?_,
      digitsValue_decimalText n, by omega⟩
    have hpos := List.length_pos_iff.mpr (decimalText_ne_nil n)
    by_contra hmore
    exact hzero ⟨by omega, hhead⟩

theorem dottedQuad_iff {buffer : List UInt8} {a : BitVec 32} :
    DottedQuad buffer a ↔ ∃ rest, buffer = ipv4Format a ++ 0 :: rest := by
  have hlt := a.isLt
  constructor
  · rintro ⟨t₁, t₂, t₃, t₄, n₁, n₂, n₃, n₄, rest, rfl, h₁, h₂, h₃, h₄, hvalue⟩
    obtain ⟨hn₁, rfl⟩ := isOctet_iff.mp h₁
    obtain ⟨hn₂, rfl⟩ := isOctet_iff.mp h₂
    obtain ⟨hn₃, rfl⟩ := isOctet_iff.mp h₃
    obtain ⟨hn₄, rfl⟩ := isOctet_iff.mp h₄
    have hparts : a.toNat / 2 ^ 24 = n₁ ∧ a.toNat / 2 ^ 16 % 256 = n₂ ∧ a.toNat / 2 ^ 8 % 256 = n₃ ∧
        a.toNat % 256 = n₄ := by omega
    exact ⟨rest, by simp only [ipv4Format, hparts]⟩
  · rintro ⟨rest, rfl⟩
    exact ⟨_, _, _, _, _, _, _, _, rest, rfl, isOctet_iff.mpr ⟨by omega, rfl⟩,
      isOctet_iff.mpr ⟨by omega, rfl⟩, isOctet_iff.mpr ⟨by omega, rfl⟩,
      isOctet_iff.mpr ⟨by omega, rfl⟩, by omega⟩

/-! ## The parser reads the texts of addresses -/

theorem octetsLoop_total (parts : Nat) (start : List UInt8) (result : BitVec 32) :
    ∃ r, octetsLoop parts start result = some r := by
  induction parts generalizing start result with
  | zero => exact ⟨some result, rfl⟩
  | succ parts ih =>
    rw [octetsLoop_succ]
    split
    · exact ⟨none, rfl⟩
    · exact ⟨none, rfl⟩
    · split
      · exact ⟨none, rfl⟩
      · exact ih _ _

theorem octetsLoop_eq_some {parts : Nat} {start : List UInt8} {result a : BitVec 32} :
    octetsLoop (parts + 1) start result = some (some a) ↔
      ∃ n left, n < 256 ∧
        start = decimalText n ++ behindOctet parts :: left ∧
        octetsLoop parts left (result <<< 8 ||| BitVec.ofNat 32 n) = some (some a) := by
  rw [octetsLoop_succ]
  constructor
  · intro h
    split at h
    next => cases h
    next => cases h
    next n b left hpart =>
      split at h
      next => cases h
      next hb =>
        obtain ⟨hn, rfl⟩ := ipv4Part_eq_some hpart
        exact ⟨n, left, hn, by rw [not_not.mp hb], h⟩
  · rintro ⟨n, left, hn, rfl, h⟩
    have hnot : isDigit (behindOctet parts) = false := by
      unfold behindOctet
      split <;> decide
    rw [ipv4Part_decimalText hn (by simpa using hnot)]
    simpa using h

/-- A number behind the ones before. -/
theorem toNat_shift_or (r : BitVec 32) {n : Nat} (hn : n < 256) :
    (r <<< 8 ||| BitVec.ofNat 32 n).toNat = r.toNat * 256 % 2 ^ 32 + n := by
  have hor := Nat.shiftLeft_add_eq_or_of_lt (show n < 2 ^ 8 by omega) (r.toNat % 2 ^ 24)
  rw [Nat.shiftLeft_eq] at hor
  have hshift : r.toNat * 256 % 2 ^ 32 = r.toNat % 2 ^ 24 * 2 ^ 8 := by omega
  have hword : r.toNat * 2 ^ 8 % 2 ^ 32 = r.toNat % 2 ^ 24 * 2 ^ 8 := by omega
  rw [BitVec.toNat_or, BitVec.toNat_shiftLeft, BitVec.toNat_ofNat, Nat.mod_eq_of_lt (show n < 2 ^ 32 by omega),
    Nat.shiftLeft_eq, hword, ← hor, hshift]

theorem gatewayIpv4Parse_eq_some {buffer : AddressBuffer} {a : BitVec 32} :
    gatewayIpv4Parse buffer = some (some a) ↔ ∃ rest, buffer.toList = ipv4Format a ++ 0 :: rest := by
  have hlt := a.isLt
  unfold gatewayIpv4Parse
  constructor
  · intro h
    obtain ⟨n₁, l₁, hn₁, hbuffer, h₁⟩ := octetsLoop_eq_some.mp h
    obtain ⟨n₂, l₂, hn₂, hl₁, h₂⟩ := octetsLoop_eq_some.mp h₁
    obtain ⟨n₃, l₃, hn₃, hl₂, h₃⟩ := octetsLoop_eq_some.mp h₂
    obtain ⟨n₄, rest, hn₄, hl₃, h₄⟩ := octetsLoop_eq_some.mp h₃
    have hword : _ = a := Option.some.inj (Option.some.inj h₄)
    have hvalue := congrArg BitVec.toNat hword
    rw [toNat_shift_or _ hn₄, toNat_shift_or _ hn₃, toNat_shift_or _ hn₂, toNat_shift_or _ hn₁] at hvalue
    have hzero : (0 : BitVec 32).toNat = 0 := rfl
    have hparts : a.toNat / 2 ^ 24 = n₁ ∧ a.toNat / 2 ^ 16 % 256 = n₂ ∧ a.toNat / 2 ^ 8 % 256 = n₃ ∧
        a.toNat % 256 = n₄ := by omega
    refine ⟨rest, ?_⟩
    rw [hbuffer, hl₁, hl₂, hl₃]
    simp only [ipv4Format, hparts]
    simp [behindOctet]
  · rintro ⟨rest, hbuffer⟩
    refine octetsLoop_eq_some.mpr ⟨a.toNat / 2 ^ 24, _, by omega, ?_,
      octetsLoop_eq_some.mpr ⟨a.toNat / 2 ^ 16 % 256, _, by omega, rfl,
        octetsLoop_eq_some.mpr ⟨a.toNat / 2 ^ 8 % 256, _, by omega, rfl,
          octetsLoop_eq_some.mpr ⟨a.toNat % 256, rest, by omega, rfl, ?_⟩⟩⟩⟩
    · rw [hbuffer]
      simp [ipv4Format, behindOctet]
    · rw [octetsLoop]
      congr 2
      apply BitVec.eq_of_toNat_eq
      rw [toNat_shift_or _ (by omega), toNat_shift_or _ (by omega), toNat_shift_or _ (by omega),
        toNat_shift_or _ (by omega)]
      have hzero : (0 : BitVec 32).toNat = 0 := rfl
      omega

/-- Whatever stood in the buffer, the text is written and ended. -/
theorem toList_gatewayIpv4Format (a : BitVec 32) (buffer : AddressBuffer) :
    (gatewayIpv4Format a buffer).toList =
      ipv4Format a ++ 0 :: buffer.toList.drop ((ipv4Format a).length + 1) := by
  have hlength := (length_ipv4Format a).2
  have htake : (ipv4Format a).take 15 = ipv4Format a := List.take_of_length_le hlength
  simp [gatewayIpv4Format, printInto, htake, Vector.toList]

/-- Two buffers hold the same text. -/
def SameText (buffer other : AddressBuffer) : Prop :=
  ∃ t rest rest', 0 ∉ t ∧ buffer.toList = t ++ 0 :: rest ∧ other.toList = t ++ 0 :: rest'

theorem nonzero_ipv4Format (a : BitVec 32) : (0 : UInt8) ∉ ipv4Format a := by
  have hdigits : ∀ n, (0 : UInt8) ∉ decimalText n := fun n hmem =>
    absurd (decimalText_digits 0 hmem) (by decide)
  have hdot : (0 : UInt8) ≠ ascii '.' := by decide
  simp [ipv4Format, hdigits, hdot]

/-- **The codec of addresses**: every buffer is read within its bounds, what is accepted is an
    address in its one spelling, and writing and reading are inverse to each other. -/
theorem gatewayIpv4_codec :
    (∀ buffer : AddressBuffer, ∃ r, gatewayIpv4Parse buffer = some r ∧
      ∀ a, r = some a ↔ DottedQuad buffer.toList a) ∧
    (∀ a buffer, gatewayIpv4Parse (gatewayIpv4Format a buffer) = some (some a)) ∧
    ∀ buffer a, gatewayIpv4Parse buffer = some (some a) →
      ∀ other, SameText (gatewayIpv4Format a other) buffer := by
  refine ⟨fun buffer => ?_, fun a buffer => ?_, fun buffer a h other => ?_⟩
  · obtain ⟨r, hr⟩ := octetsLoop_total 4 buffer.toList 0
    refine ⟨r, hr, fun a => ?_⟩
    rw [dottedQuad_iff, ← gatewayIpv4Parse_eq_some, gatewayIpv4Parse, hr, Option.some.injEq]
  · exact gatewayIpv4Parse_eq_some.mpr ⟨_, toList_gatewayIpv4Format a buffer⟩
  · obtain ⟨rest, hbuffer⟩ := gatewayIpv4Parse_eq_some.mp h
    exact ⟨ipv4Format a, _, rest, nonzero_ipv4Format a, toList_gatewayIpv4Format a other, hbuffer⟩

end FourVrs.Network
