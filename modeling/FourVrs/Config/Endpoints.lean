import FourVrs.Config.PortConfig

/-!
# Addresses as validated and as bound

The validation reads a bind address with `sscanf("%u.%u.%u.%u%c")` and compares addresses as
texts; the listeners hand the text to `inet_addr` and bind the number. The two agree on a
number written plainly in decimal. They part where `sscanf` skips a space or a sign, which
`inet_addr` does not take, and where a leading zero makes an octal number for `inet_addr`
alone (`inetNumber_spelled`). So two texts of one address, or a second text of the wildcard,
pass the validation.
-/

set_option autoImplicit false

namespace FourVrs.Config

/-! ## `inet_addr`

The documented conversion: one to four numbers in decimal, octal (`0…`) or hexadecimal
(`0x…`), the last one filling the bytes that are left, and nothing behind but white space. -/

def isOctal (b : UInt8) : Bool := decide (48 ≤ b) && decide (b ≤ 55)

def isHexDigit (b : UInt8) : Bool :=
  isDigit b || (decide (65 ≤ b) && decide (b ≤ 70)) || (decide (97 ≤ b) && decide (b ≤ 102))

def hexValue (b : UInt8) : Nat :=
  if isDigit b then digitValue b else if b ≤ 70 then b.toNat - 55 else b.toNat - 87

/-- The number digits spell in a base. -/
def numeral (base : Nat) (value : UInt8 → Nat) (digits : List UInt8) : Nat :=
  digits.foldl (fun number b => base * number + value b) 0

/-- What follows `0x`, if a digit does. -/
def hexDigits : List UInt8 → Option (List UInt8)
  | 48 :: x :: digit :: rest =>
      if (x = 120 ∨ x = 88) ∧ isHexDigit digit = true then some (digit :: rest) else none
  | _ => none

/-- `strtoul(text, &end, 0)` on a text that begins with a digit: the number and the bytes
    from `end` on. -/
def inetDigits (input : List UInt8) : Option (Nat × List UInt8) :=
  match hexDigits input with
  | some digits =>
      some (numeral 16 hexValue (digits.takeWhile isHexDigit), digits.dropWhile isHexDigit)
  | none =>
      if input.head? = some 48 then
        some (numeral 8 digitValue (input.takeWhile isOctal), input.dropWhile isOctal)
      else if input.takeWhile isDigit = [] then none
      else some (digitsValue (input.takeWhile isDigit), input.dropWhile isDigit)

/-- A number out of range is refused (`ERANGE`). -/
def inetNumber (input : List UInt8) : Option (Nat × List UInt8) :=
  (inetDigits input).filter fun found => decide (found.1 ≤ ulongMax)

/-- The numbers up to the last, with at most `dots` dots between them. -/
def inetParts : Nat → List UInt8 → Option (List Nat × List UInt8)
  | dots, input =>
      match inetNumber input with
      | none => none
      | some (value, 46 :: rest) =>
          match dots with
          | 0 => none
          | dots + 1 =>
              if value > 255 then none
              else (inetParts dots rest).map fun found => (value :: found.1, found.2)
      | some (value, rest) => some ([value], rest)

/-- The address of the parts: the last one takes all the bytes from its place on. -/
def inetWord : Nat → List Nat → Option Nat
  | _, [] => none
  | place, [last] => if last < 2 ^ (place + 8) then some last else none
  | place, value :: rest => (inetWord (place - 8) rest).map fun word => value * 2 ^ place + word

/-- `inet_addr`; `none` is its `INADDR_NONE` for a text that is no address. -/
def inetAddr (address : List UInt8) : Option Nat :=
  match inetParts 3 address with
  | none => none
  | some (parts, []) => inetWord 24 parts
  | some (parts, b :: _) => if isSpace b then inetWord 24 parts else none

example : inetAddr (text "192.168.1.10") = some 0xc0a8010a := by decide +kernel
example : inetAddr (text "010.0x10.258") = some 0x08100102 := by decide +kernel
example : inetAddr (text "08.0.0.1") = none := by decide +kernel

/-! ## The octets written -/

/-- The number `%u` reads. -/
def writtenOctet (input : List UInt8) : Option (Nat × List UInt8) :=
  match strtoul input with
  | some number => if number.value ≤ 255 then some (number.value, number.rest) else none
  | none => none

/-- The numbers of an address as `dottedQuad` reads them. -/
def writtenOctets (input : List UInt8) : Option (List Nat) := do
  let (a, rest) ← writtenOctet input
  let (b, rest) ← writtenOctet (← scanDot rest)
  let (c, rest) ← writtenOctet (← scanDot rest)
  let (d, rest) ← writtenOctet (← scanDot rest)
  if rest = [] then some [a, b, c, d] else none

/-- The address of four octets. -/
def quadWord (octets : List Nat) : Nat := octets.foldl (fun word octet => 256 * word + octet) 0

theorem scanOctet_eq (input : List UInt8) : scanOctet input = (writtenOctet input).map Prod.snd := by
  unfold scanOctet writtenOctet
  cases strtoul input with
  | none => rfl
  | some number =>
    dsimp only
    split <;> rfl

/-- A text is accepted when its four numbers can be read. -/
theorem dottedQuad_eq (input : List UInt8) : dottedQuad input = (writtenOctets input).isSome := by
  unfold dottedQuad writtenOctets
  simp only [scanOctet_eq]
  cases writtenOctet input with
  | none => rfl
  | some a =>
    cases hb : scanDot a.2 with
    | none => simp [hb]
    | some textB =>
      cases hvb : writtenOctet textB with
      | none => simp [hb, hvb]
      | some b =>
        cases hc : scanDot b.2 with
        | none => simp [hb, hvb, hc]
        | some textC =>
          cases hvc : writtenOctet textC with
          | none => simp [hb, hvb, hc, hvc]
          | some c =>
            cases hd : scanDot c.2 with
            | none => simp [hb, hvb, hc, hvc, hd]
            | some textD =>
              cases hvd : writtenOctet textD with
              | none => simp [hb, hvb, hc, hvc, hd, hvd]
              | some d =>
                by_cases hend : d.2 = [] <;> simp [hb, hvb, hc, hvc, hd, hvd, hend]

/-! ### The text of a number -/

/-- A space or a sign. -/
def leads (b : UInt8) : Bool := isSpace b || decide (b = 45) || decide (b = 43)

/-- `part` is a number as `%u` reads it: spaces, a sign, digits. -/
structure Spells (part : List UInt8) (value : Nat) : Prop where
  small : value ≤ 255
  text : ∃ lead digits, part = lead ++ digits ∧ digits ≠ [] ∧ (∀ b ∈ digits, isDigit b = true) ∧
    (∀ b ∈ lead, leads b = true) ∧ (lead = [] → value = digitsValue digits)

theorem takeSign_spec (input : List UInt8) :
    ∃ sign, input = sign ++ (takeSign input).2 ∧ (∀ b ∈ sign, leads b = true) ∧
      (sign = [] → (takeSign input).1 = false) := by
  unfold takeSign
  split
  · rename_i rest
    exact ⟨[45], rfl, by simp [leads], by simp⟩
  · rename_i rest
    exact ⟨[43], rfl, by simp [leads], by simp⟩
  · exact ⟨[], rfl, by simp, fun _ => rfl⟩

/-- What leads a number is no digit, no dot and no letter a file's syntax uses. -/
theorem leads_spec {b : UInt8} (h : leads b = true) : isDigit b = false ∧ b ≠ 46 ∧ b ≠ 61 := by
  unfold leads isSpace at h
  simp only [Bool.or_eq_true, Bool.and_eq_true, decide_eq_true_eq] at h
  rcases h with ((rfl | ⟨_, hle⟩) | rfl) | rfl
  · exact ⟨rfl, by decide, by decide⟩
  · have hlow : ¬ 48 ≤ b := fun h48 => absurd (UInt8.le_trans h48 hle) (by decide)
    refine ⟨by simp [isDigit, hlow], ?_, ?_⟩ <;> rintro rfl <;> exact absurd hle (by decide)
  · exact ⟨rfl, by decide, by decide⟩
  · exact ⟨rfl, by decide, by decide⟩

variable {parts : List (List UInt8)} {input rest : List UInt8}

theorem writtenOctet_spells {value : Nat} (h : writtenOctet input = some (value, rest)) :
    ∃ part, input = part ++ rest ∧ Spells part value := by
  unfold writtenOctet at h
  obtain ⟨sign, hsign, hlead, hplus⟩ := takeSign_spec (input.dropWhile isSpace)
  generalize hscan : strtoul input = scanned at h
  unfold strtoul at hscan
  rcases htaken : takeSign (input.dropWhile isSpace) with ⟨negative, unsigned⟩
  rw [htaken] at hscan hsign hplus
  dsimp only at hscan hsign hplus
  have hinput : input = (input.takeWhile isSpace ++ sign) ++ unsigned.takeWhile isDigit ++
      unsigned.dropWhile isDigit := by
    rw [List.append_assoc, List.takeWhile_append_dropWhile, List.append_assoc, ← hsign,
      List.takeWhile_append_dropWhile]
  have hbefore : ∀ b ∈ input.takeWhile isSpace ++ sign, leads b = true := by
    intro b hb
    rcases List.mem_append.mp hb with hspace | hmem
    · simp [leads, List.mem_takeWhile_imp hspace]
    · exact hlead b hmem
  have hdigits : ∀ b ∈ unsigned.takeWhile isDigit, isDigit b = true := fun b hb =>
    List.mem_takeWhile_imp hb
  split at hscan
  · subst hscan
    simp at h
  rename_i hne
  split at hscan
  · subst hscan
    simp [ulongMax] at h
  · subst hscan
    obtain ⟨hsmall, hvalue, hrest⟩ : _ ∧ _ ∧ _ := by simpa using h
    refine ⟨_, hrest ▸ hinput, hvalue ▸ hsmall, _, _, rfl, hne, hdigits, hbefore, fun hnone => ?_⟩
    have hpositive := hplus (List.append_eq_nil_iff.mp hnone).2
    rw [← hvalue, hpositive]
    simp

theorem scanDot_eq (h : scanDot input = some rest) : input = 46 :: rest := by
  unfold scanDot at h
  split at h
  · rw [Option.some.inj h]
  · cases h

/-- Numbers with dots between them. -/
def dotted (parts : List (List UInt8)) : List UInt8 := [46].intercalate parts

variable {octets : List Nat}

/-- An accepted address is four numbers with dots between them. -/
theorem writtenOctets_spells {input : List UInt8} (h : writtenOctets input = some octets) :
    ∃ parts, input = dotted parts ∧ List.Forall₂ Spells parts octets ∧ octets.length = 4 := by
  unfold writtenOctets at h
  simp only [Option.bind_eq_bind, Option.bind_eq_some_iff, Option.ite_none_right_eq_some] at h
  obtain ⟨⟨a, ra⟩, ha, rb, hb, ⟨b, sb⟩, hvb, rc, hc, ⟨c, sc⟩, hvc, rd, hd, ⟨d, sd⟩, hvd, hend, hoctets⟩ := h
  obtain ⟨pa, hpa, hsa⟩ := writtenOctet_spells ha
  obtain ⟨pb, hpb, hsb⟩ := writtenOctet_spells hvb
  obtain ⟨pc, hpc, hsc⟩ := writtenOctet_spells hvc
  obtain ⟨pd, hpd, hsd⟩ := writtenOctet_spells hvd
  have hda := scanDot_eq hb
  have hdb := scanDot_eq hc
  have hdc := scanDot_eq hd
  dsimp only at hda hdb hdc hend
  refine ⟨[pa, pb, pc, pd], ?_, ?_, ?_⟩
  · rw [hpa, hda, hpb, hdb, hpc, hdc, hpd, hend]
    simp [dotted, List.intercalate]
  · rw [← Option.some.inj hoctets]
    exact .cons hsa (.cons hsb (.cons hsc (.cons hsd .nil)))
  · rw [← Option.some.inj hoctets]
    rfl

/-! ### The text of a number that both read alike -/

/-- Digits only, and a leading zero only before a number that is the same in octal. -/
def plainOctet (part : List UInt8) : Bool :=
  part.all isDigit && (decide (part.head? ≠ some 48) || decide (digitsValue part ≤ 7))

theorem digitsValue_snoc (digits : List UInt8) (b : UInt8) :
    digitsValue (digits ++ [b]) = 10 * digitsValue digits + digitValue b := by
  simp [digitsValue]

theorem octal_snoc (digits : List UInt8) (b : UInt8) :
    numeral 8 digitValue (digits ++ [b]) = 8 * numeral 8 digitValue digits + digitValue b := by
  simp [numeral]

/-- An octal reading is never more than the decimal one, and the same below eight only. -/
theorem octal_le_decimal (digits : List UInt8) :
    numeral 8 digitValue digits ≤ digitsValue digits ∧
      (digitsValue digits ≤ 7 → numeral 8 digitValue digits = digitsValue digits) ∧
      ((∀ b ∈ digits, isOctal b = true) → 7 < digitsValue digits →
        numeral 8 digitValue digits < digitsValue digits) := by
  induction digits using List.reverseRecOn with
  | nil => simp [numeral, digitsValue]
  | append_singleton digits b ih =>
    obtain ⟨hle, hlow, hhigh⟩ := ih
    rw [octal_snoc, digitsValue_snoc]
    refine ⟨by omega, fun h => by omega, fun hoctal h => ?_⟩
    have hb : digitValue b ≤ 7 := by
      have hlast := hoctal b (by simp)
      unfold isOctal at hlast
      simp only [Bool.and_eq_true, decide_eq_true_eq, UInt8.le_iff_toNat_le] at hlast
      have hhigh : b.toNat ≤ 55 := hlast.2
      unfold digitValue
      omega
    omega

theorem isOctal_of_low {digits : List UInt8} (hdigits : ∀ b ∈ digits, isDigit b = true)
    (h : digitsValue digits ≤ 7) : ∀ b ∈ digits, isOctal b = true := by
  induction digits using List.reverseRecOn with
  | nil => simp
  | append_singleton digits b ih =>
    rw [digitsValue_snoc] at h
    intro c hc
    rcases List.mem_append.mp hc with hbefore | hlast
    · exact ih (fun b hb => hdigits b (List.mem_append_left _ hb)) (by omega) c hbefore
    · obtain rfl := List.mem_singleton.mp hlast
      have hdigit := hdigits c (by simp)
      unfold isDigit at hdigit
      unfold isOctal
      simp only [Bool.and_eq_true, decide_eq_true_eq, UInt8.le_iff_toNat_le] at hdigit ⊢
      have hvalue : c.toNat - 48 ≤ 7 := by
        unfold digitValue at h
        omega
      refine ⟨hdigit.1, ?_⟩
      show c.toNat ≤ 55
      omega

/-- A digit that is not octal. -/
theorem eight_or_nine {b : UInt8} (hdigit : isDigit b = true) (h : isOctal b = false) :
    b = 56 ∨ b = 57 := by
  unfold isDigit at hdigit
  unfold isOctal at h
  simp only [Bool.and_eq_true, decide_eq_true_eq, Bool.and_eq_false_iff, decide_eq_false_iff_not,
    UInt8.le_iff_toNat_le] at hdigit h
  obtain ⟨hlow, hhigh⟩ := hdigit
  rcases h with hno | hno
  · exact absurd hlow hno
  · have h55 : ¬ b.toNat ≤ 55 := hno
    have h57 : b.toNat ≤ 57 := hhigh
    rw [← UInt8.toNat_inj, ← UInt8.toNat_inj]
    show b.toNat = 56 ∨ b.toNat = 57
    omega

/-- What follows a number in a dotted text. -/
def Stops (rest : List UInt8) : Prop := rest = [] ∨ ∃ tail, rest = 46 :: tail

theorem scan_stops {p : UInt8 → Bool} {digits rest : List UInt8} (hdigits : ∀ b ∈ digits, p b = true)
    (hdot : p 46 = false) (hrest : Stops rest) :
    (digits ++ rest).takeWhile p = digits ∧ (digits ++ rest).dropWhile p = rest := by
  rw [List.takeWhile_append_of_pos hdigits, List.dropWhile_append_of_pos hdigits]
  rcases hrest with rfl | ⟨tail, rfl⟩
  · simp
  · simp [hdot]

theorem hexDigits_none {digits rest : List UInt8} (hdigits : ∀ b ∈ digits, isDigit b = true)
    (hne : digits ≠ []) (hrest : Stops rest) : hexDigits (digits ++ rest) = none := by
  have hsecond : ∀ {b x : UInt8} {tail : List UInt8}, digits ++ rest = b :: x :: tail →
      x ≠ 120 ∧ x ≠ 88 := by
    intro b x tail heq
    match digits, hne with
    | [_], _ =>
      rcases hrest with rfl | ⟨tail', rfl⟩
      · simp at heq
      · obtain ⟨-, rfl, -⟩ : _ ∧ _ ∧ _ := by simpa using heq
        decide
    | _ :: c :: _, _ =>
      obtain ⟨-, rfl, -⟩ : _ ∧ _ ∧ _ := by simpa using heq
      have hdigit := hdigits c (by simp)
      refine ⟨?_, ?_⟩ <;> rintro rfl <;> exact absurd hdigit (by decide)
  unfold hexDigits
  split
  · rename_i x digit tail heq
    have hx := hsecond heq
    rw [if_neg (by simp [hx])]
  · rfl

/-! ### One number, then all four -/

/-- What `inet_addr` may make of a number that is not plain: nothing, a smaller one, or it
    stops at the digit that is not octal. -/
inductive Misread (value : Nat) (rest : List UInt8) : Option (Nat × List UInt8) → Prop where
  | refused : Misread value rest none
  | smaller (found : Nat) (h : found < value) : Misread value rest (some (found, rest))
  | stopped (found : Nat) (b : UInt8) (tail : List UInt8) (h : b = 56 ∨ b = 57) :
      Misread value rest (some (found, b :: tail))

theorem in_range {value : Nat} (h : value ≤ 255) : decide (value ≤ ulongMax) = true :=
  decide_eq_true (h.trans (by decide))

theorem inetNumber_signed {part rest : List UInt8} (h : isDigit (part.headD 0) = false)
    (hne : part ≠ []) : inetNumber (part ++ rest) = none := by
  match part, hne with
  | b :: part, _ =>
    have hdigit : isDigit b = false := h
    have hzero : b ≠ 48 := by
      rintro rfl
      exact absurd hdigit (by decide)
    have hhex : hexDigits (b :: part ++ rest) = none := by
      unfold hexDigits
      split
      · rename_i heq
        exact absurd (List.cons.inj heq).1 hzero
      · rfl
    unfold inetNumber inetDigits
    rw [hhex]
    simp [hzero, hdigit]

theorem inetNumber_octal {digits rest : List UInt8} (hdigits : ∀ b ∈ digits, isDigit b = true)
    (hzero : digits.head? = some 48) (hhigh : 7 < digitsValue digits)
    (hsmall : digitsValue digits ≤ 255) (hrest : Stops rest) :
    Misread (digitsValue digits) rest (inetNumber (digits ++ rest)) := by
  have hne : digits ≠ [] := by
    rintro rfl
    simp at hzero
  have hhead : (digits ++ rest).head? = some 48 := by
    simp [List.head?_append, hzero]
  unfold inetNumber inetDigits
  rw [hexDigits_none hdigits hne hrest]
  simp only [hhead, if_true]
  by_cases hoctal : ∀ b ∈ digits, isOctal b = true
  · obtain ⟨htake, hdrop⟩ := scan_stops hoctal (by decide) hrest
    have hless := (octal_le_decimal digits).2.2 hoctal hhigh
    rw [htake, hdrop]
    rw [Option.filter_some, if_pos (in_range (by omega))]
    exact .smaller _ hless
  · -- the scan ends inside the number
    have hleft : digits.dropWhile isOctal ≠ [] := by
      intro hnil
      exact hoctal (List.dropWhile_eq_nil_iff.mp hnil)
    obtain ⟨b, tail, htail⟩ := List.exists_cons_of_ne_nil hleft
    have hstop : isOctal b = false := by
      have hnot := List.head?_dropWhile_not isOctal digits
      rw [htail] at hnot
      simpa using hnot
    have hmem : b ∈ digits := by
      have hsuffix := List.dropWhile_suffix (l := digits) isOctal
      rw [htail] at hsuffix
      exact hsuffix.subset (by simp)
    rw [List.dropWhile_append, htail]
    simp only [List.isEmpty_cons, Bool.false_eq_true, if_false, List.cons_append, Option.filter_some]
    split
    · exact .stopped _ b _ (eight_or_nine (hdigits b hmem) hstop)
    · exact .refused

/-- **One number.** A plain one is read as it is written; any other is misread. -/
theorem inetNumber_spelled {part rest : List UInt8} {value : Nat} (h : Spells part value)
    (hrest : Stops rest) :
    plainOctet part = true ∧ inetNumber (part ++ rest) = some (value, rest) ∨
      plainOctet part = false ∧ Misread value rest (inetNumber (part ++ rest)) := by
  obtain ⟨hsmall, lead, digits, rfl, hne, hdigits, hlead, hvalue⟩ := h
  cases lead with
  | cons b lead =>
    have hb := (leads_spec (hlead b (by simp))).1
    refine .inr ⟨by simp [plainOctet, hb], ?_⟩
    rw [inetNumber_signed (by exact hb) (by simp)]
    exact .refused
  | nil =>
    obtain rfl := hvalue rfl
    simp only [List.nil_append]
    have hall : digits.all isDigit = true := List.all_eq_true.mpr hdigits
    by_cases hzero : digits.head? = some 48
    · by_cases hlow : digitsValue digits ≤ 7
      · refine .inl ⟨by simp [plainOctet, hall, hlow], ?_⟩
        obtain ⟨htake, hdrop⟩ := scan_stops (isOctal_of_low hdigits hlow) (by decide) hrest
        have hhead : (digits ++ rest).head? = some 48 := by
          simp [List.head?_append, hzero]
        unfold inetNumber inetDigits
        rw [hexDigits_none hdigits hne hrest]
        simp only [hhead, if_true]
        rw [htake, hdrop, (octal_le_decimal digits).2.1 hlow, Option.filter_some,
          if_pos (in_range hsmall)]
      · refine .inr ⟨by simp [plainOctet, hall, hlow, hzero], ?_⟩
        exact inetNumber_octal hdigits hzero (by omega) hsmall hrest
    · refine .inl ⟨by simp [plainOctet, hall, hzero], ?_⟩
      obtain ⟨htake, hdrop⟩ := scan_stops hdigits (by decide) hrest
      have hhead : (digits ++ rest).head? ≠ some 48 := by
        obtain ⟨b, tail, rfl⟩ := List.exists_cons_of_ne_nil hne
        simpa using hzero
      unfold inetNumber inetDigits
      rw [hexDigits_none hdigits hne hrest]
      simp only [hhead, if_false]
      rw [htake, hdrop, if_neg hne, Option.filter_some, if_pos (in_range hsmall)]

/-- A part with the number written there. -/
abbrev SpellsAll (parts : List (List UInt8)) (octets : List Nat) : Prop :=
  List.Forall₂ Spells parts octets

theorem dotted_cons (part : List UInt8) (hne : parts ≠ []) :
    dotted (part :: parts) = part ++ 46 :: dotted parts := by
  obtain ⟨next, parts, rfl⟩ := List.exists_cons_of_ne_nil hne
  simp [dotted, List.intercalate]

theorem inetParts_next {dots value : Nat} (h : inetNumber input = some (value, 46 :: rest))
    (hsmall : value ≤ 255) :
    inetParts (dots + 1) input =
      (inetParts dots rest).map fun found => (value :: found.1, found.2) := by
  rw [inetParts, h]
  simp only
  rw [if_neg (by omega)]

theorem inetParts_last {dots value : Nat} (h : inetNumber input = some (value, rest))
    (hend : ∀ tail, rest ≠ 46 :: tail) :
    inetParts dots input = some ([value], rest) := by
  cases dots <;> rw [inetParts, h] <;> split
  all_goals
    rename_i heq
    cases heq
  · exact absurd rfl (hend _)
  · rfl
  · exact absurd rfl (hend _)
  · rfl

theorem inetParts_plain (h : SpellsAll parts octets) (hne : parts ≠ [])
    (hplain : ∀ part ∈ parts, plainOctet part = true) :
    inetParts (parts.length - 1) (dotted parts) = some (octets, []) := by
  induction h with
  | nil => exact absurd rfl hne
  | @cons part value parts octets hone htail ih =>
    have hpart := hplain part (by simp)
    cases htail with
    | nil =>
      rcases inetNumber_spelled hone (.inl rfl) with ⟨_, hread⟩ | ⟨hnot, _⟩
      · refine inetParts_last ?_ (by simp)
        simpa [dotted, List.intercalate] using hread
      · exact absurd (hpart.symm.trans hnot) (by simp)
    | @cons next value' parts octets hnext htail =>
      have hrest := ih (by simp) fun part hmem => hplain part (List.mem_cons_of_mem _ hmem)
      rcases inetNumber_spelled hone (.inr ⟨dotted (next :: parts), rfl⟩) with ⟨_, hread⟩ | ⟨hnot, _⟩
      · rw [dotted_cons part (by simp)]
        show inetParts (parts.length + 1) _ = _
        rw [inetParts_next hread hone.small]
        simp only [List.length_cons, Nat.add_sub_cancel] at hrest
        rw [hrest]
        rfl
      · exact absurd (hpart.symm.trans hnot) (by simp)

/-- What may follow an address. -/
def AddressEnds (rest : List UInt8) : Prop := rest = [] ∨ ∃ b tail, rest = b :: tail ∧ isSpace b = true

theorem not_addressEnds {b : UInt8} (h : b = 56 ∨ b = 57) (tail : List UInt8) :
    ¬ AddressEnds (b :: tail) := by
  rintro (hnil | ⟨c, tail', heq, hspace⟩)
  · cases hnil
  · obtain ⟨rfl, -⟩ := List.cons.inj heq
    rcases h with rfl | rfl <;> exact absurd hspace (by decide)

theorem inetParts_none {dots : Nat} {input : List UInt8} (h : inetNumber input = none) :
    inetParts dots input = none := by
  cases dots <;> rw [inetParts, h]

/-- No number comes out larger than it is written, and as large only if it is plain. -/
theorem inetParts_spelled {octets found : List Nat} {rest : List UInt8} (h : SpellsAll parts octets)
    (hne : parts ≠ []) (hfound : inetParts (parts.length - 1) (dotted parts) = some (found, rest))
    (hend : AddressEnds rest) :
    List.Forall₂ (· ≤ ·) found octets ∧
      (found = octets → ∀ part ∈ parts, plainOctet part = true) := by
  induction h generalizing found with
  | nil => exact absurd rfl hne
  | @cons part value parts octets hone htail ih =>
    cases htail with
    | nil =>
      have htext : dotted [part] = part ++ [] := by simp [dotted, List.intercalate]
      rw [htext] at hfound
      rcases inetNumber_spelled hone (.inl rfl) with ⟨hplain, hread⟩ | ⟨_, hmisread⟩
      · rw [inetParts_last hread (by simp)] at hfound
        obtain ⟨rfl, rfl⟩ := Prod.mk.inj (Option.some.inj hfound)
        exact ⟨.cons le_rfl .nil, fun _ => by simpa using hplain⟩
      · generalize hnumber : inetNumber (part ++ []) = number at hmisread
        cases hmisread with
        | refused =>
          rw [inetParts_none hnumber] at hfound
          cases hfound
        | smaller small hless =>
          rw [inetParts_last hnumber (by simp)] at hfound
          obtain ⟨rfl, rfl⟩ := Prod.mk.inj (Option.some.inj hfound)
          refine ⟨.cons (by omega) .nil, fun heq => ?_⟩
          exact absurd (List.cons.inj heq).1 (by omega)
        | stopped short b tail hb =>
          rw [inetParts_last hnumber (by rcases hb with rfl | rfl <;> simp)] at hfound
          obtain ⟨rfl, rfl⟩ := Prod.mk.inj (Option.some.inj hfound)
          exact absurd hend (not_addressEnds hb tail)
    | @cons next value' parts octets hnext htail =>
      have hstops : Stops (46 :: dotted (next :: parts)) := .inr ⟨_, rfl⟩
      rw [dotted_cons part (by simp)] at hfound
      simp only [List.length_cons, Nat.add_sub_cancel] at hfound ih
      rcases inetNumber_spelled hone hstops with ⟨hplain, hread⟩ | ⟨_, hmisread⟩
      · rw [inetParts_next hread hone.small] at hfound
        obtain ⟨⟨later, rest'⟩, hlater, heq⟩ := Option.map_eq_some_iff.mp hfound
        obtain ⟨rfl, rfl⟩ := Prod.mk.inj heq
        obtain ⟨hle, hsame⟩ := ih (by simp) hlater
        refine ⟨.cons le_rfl hle, fun hocts => ?_⟩
        exact List.forall_mem_cons.mpr ⟨hplain, hsame (List.cons.inj hocts).2⟩
      · generalize hnumber : inetNumber (part ++ 46 :: dotted (next :: parts)) = number at hmisread
        cases hmisread with
        | refused => simp [inetParts_none hnumber] at hfound
        | smaller small hless =>
          have hsmall := hone.small
          rw [inetParts_next hnumber (by omega)] at hfound
          obtain ⟨⟨later, rest'⟩, hlater, heq⟩ := Option.map_eq_some_iff.mp hfound
          obtain ⟨rfl, rfl⟩ := Prod.mk.inj heq
          obtain ⟨hle, _⟩ := ih (by simp) hlater
          refine ⟨.cons (by omega) hle, fun hocts => ?_⟩
          exact absurd (List.cons.inj hocts).1 (by omega)
        | stopped short b tail hb =>
          rw [inetParts_last hnumber (by rcases hb with rfl | rfl <;> simp)] at hfound
          obtain ⟨rfl, rfl⟩ := Prod.mk.inj (Option.some.inj hfound)
          exact absurd hend (not_addressEnds hb tail)

/-- Every number of the text is plain. -/
def PlainAddress (address : List UInt8) : Prop :=
  ∀ part ∈ address.splitOn 46, plainOctet part = true

instance (address : List UInt8) : Decidable (PlainAddress address) :=
  inferInstanceAs (Decidable (∀ part ∈ address.splitOn 46, plainOctet part = true))

theorem spells_clean {part : List UInt8} {value : Nat} (h : Spells part value) : 46 ∉ part ∧ 61 ∉ part := by
  obtain ⟨_, lead, digits, rfl, _, hdigits, hlead, _⟩ := h
  constructor <;> intro hmem <;> rcases List.mem_append.mp hmem with hbefore | hdigit
  · exact (leads_spec (hlead 46 hbefore)).2.1 rfl
  · exact absurd (hdigits 46 hdigit) (by decide)
  · exact (leads_spec (hlead 61 hbefore)).2.2 rfl
  · exact absurd (hdigits 61 hdigit) (by decide)

theorem plainAddress_dotted (h : SpellsAll parts octets) (hne : parts ≠ []) :
    PlainAddress (dotted parts) ↔ ∀ part ∈ parts, plainOctet part = true := by
  have hnone : ∀ part ∈ parts, 46 ∉ part := by
    clear hne
    induction h with
    | nil => simp
    | cons hone _ ih => exact List.forall_mem_cons.mpr ⟨(spells_clean hone).1, ih⟩
  unfold PlainAddress dotted
  rw [List.splitOn_intercalate 46 hnone hne]

theorem inetWord_quad (a b c : Nat) {d : Nat} (hd : d ≤ 255) :
    inetWord 24 [a, b, c, d] = some (quadWord [a, b, c, d]) := by
  have hd : d < 2 ^ 8 := by omega
  simp only [inetWord, Nat.reduceSub, Nat.reduceAdd, if_pos hd, Option.map_some, quadWord,
    List.foldl_cons, List.foldl_nil, Option.some.injEq]
  omega

theorem quadWord_inj {a b c d a' b' c' d' : Nat} (hb : b ≤ 255) (hc : c ≤ 255)
    (hd : d ≤ 255) (hb' : b' ≤ 255) (hc' : c' ≤ 255) (hd' : d' ≤ 255)
    (h : quadWord [a, b, c, d] = quadWord [a', b', c', d']) : [a, b, c, d] = [a', b', c', d'] := by
  simp only [quadWord, List.foldl_cons, List.foldl_nil] at h
  obtain ⟨rfl, rfl, rfl, rfl⟩ : a = a' ∧ b = b' ∧ c = c' ∧ d = d' := by omega
  rfl

/-- Two addresses of four octets each are one only if the octets are. -/
theorem octets_eq_of_word {parts parts' : List (List UInt8)} {octets octets' : List Nat}
    (h : SpellsAll parts octets) (hlength : octets.length = 4) (h' : SpellsAll parts' octets')
    (hlength' : octets'.length = 4) (hword : quadWord octets = quadWord octets') :
    octets = octets' := by
  match octets, hlength, octets', hlength' with
  | [_, _, _, _], _, [_, _, _, _], _ =>
    obtain _ | ⟨ha, _ | ⟨hb, _ | ⟨hc, _ | ⟨hd, _⟩⟩⟩⟩ := h
    obtain _ | ⟨ha', _ | ⟨hb', _ | ⟨hc', _ | ⟨hd', _⟩⟩⟩⟩ := h'
    exact quadWord_inj hb.small hc.small hd.small hb'.small hc'.small hd'.small hword

/-- **One address.** `inet_addr` makes of an accepted text the four numbers written exactly
    when each of them is plain. -/
theorem inetAddr_written_iff {address : List UInt8} (h : writtenOctets address = some octets) :
    inetAddr address = some (quadWord octets) ↔ PlainAddress address := by
  obtain ⟨parts, rfl, hspells, hlength⟩ := writtenOctets_spells h
  have hcount : parts.length - 1 = 3 := by rw [hspells.length_eq, hlength]
  have hne : parts ≠ [] := by
    rintro rfl
    simp at hcount
  have hfinish : ∀ found rest, inetParts 3 (dotted parts) = some (found, rest) → AddressEnds rest →
      inetWord 24 found = some (quadWord octets) → ∀ part ∈ parts, plainOctet part = true := by
    intro found rest hfound hend hword
    rw [← hcount] at hfound
    obtain ⟨hle, hplain⟩ := inetParts_spelled hspells hne hfound hend
    refine hplain ?_
    match octets, hlength with
    | [a, b, c, d], _ =>
      obtain _ | ⟨ha, _ | ⟨hb, _ | ⟨hc, _ | ⟨hd, _⟩⟩⟩⟩ := hspells
      obtain _ | ⟨hla, _ | ⟨hlb, _ | ⟨hlc, _ | ⟨hld, _ | _⟩⟩⟩⟩ := hle
      rw [inetWord_quad _ _ _ (hld.trans hd.small)] at hword
      exact quadWord_inj (hlb.trans hb.small) (hlc.trans hc.small) (hld.trans hd.small) hb.small
        hc.small hd.small (Option.some.inj hword)
  rw [plainAddress_dotted hspells hne]
  constructor
  · intro hword
    unfold inetAddr at hword
    split at hword
    · cases hword
    · rename_i found hfound
      exact hfinish found [] hfound (.inl rfl) hword
    rename_i found b tail hfound
    split at hword
    · rename_i hspace
      exact hfinish found _ hfound (.inr ⟨b, tail, rfl, hspace⟩) hword
    · cases hword
  · intro hplain
    have hread := inetParts_plain hspells hne hplain
    rw [hcount] at hread
    unfold inetAddr
    rw [hread]
    match octets, hlength with
    | [a, b, c, d], _ =>
      obtain _ | ⟨ha, _ | ⟨hb, _ | ⟨hc, _ | ⟨hd, _⟩⟩⟩⟩ := hspells
      exact inetWord_quad a b c hd.small

/-! ## Ports in each other's way -/

/-- The two ports listen with sockets of one kind on one port number. -/
structure Compete (a b : GatewayPortConfig) : Prop where
  enabled : a.enabled ≠ 0 ∧ b.enabled ≠ 0
  family : tcpFamily a.transport = true ∧ tcpFamily b.transport = true ∨
    udpFamily a.transport = true ∧ udpFamily b.transport = true
  port : a.endpointPort = b.endpointPort

instance (a b : GatewayPortConfig) : Decidable (Compete a b) :=
  decidable_of_iff ((a.enabled ≠ 0 ∧ b.enabled ≠ 0) ∧
      (tcpFamily a.transport = true ∧ tcpFamily b.transport = true ∨
        udpFamily a.transport = true ∧ udpFamily b.transport = true) ∧
      a.endpointPort = b.endpointPort)
    ⟨fun h => ⟨h.1, h.2.1, h.2.2⟩, fun h => ⟨h.enabled, h.family, h.port⟩⟩

/-- What a validation of endpoints has to rule out, in the numbers the listeners bind. -/
structure SocketsApart (ports : GatewayPorts) : Prop where
  apart : ∀ i j, i ≠ j → Compete (ports i) (ports j) → ∀ word,
    inetAddr (ports i).bindAddress.bytes = some word →
      word ≠ 0 ∧ inetAddr (ports j).bindAddress.bytes ≠ some word
  converted : ∀ i, ∃ octets, writtenOctets (ports i).bindAddress.bytes = some octets ∧
    inetAddr (ports i).bindAddress.bytes = some (quadWord octets)

/-- The texts alone: every number plain, and no address of two competing ports, and no
    wildcard of theirs, in another spelling. -/
structure SpelledOnce (ports : GatewayPorts) : Prop where
  plain : ∀ i, PlainAddress (ports i).bindAddress.bytes
  once : ∀ i j, i ≠ j → Compete (ports i) (ports j) →
    writtenOctets (ports i).bindAddress.bytes = writtenOctets (ports j).bindAddress.bytes →
      (ports i).bindAddress = (ports j).bindAddress
  wildcard : ∀ i j, i ≠ j → Compete (ports i) (ports j) →
    writtenOctets (ports i).bindAddress.bytes = some [0, 0, 0, 0] →
      (ports i).bindAddress = anyAddress

theorem bindAddressValid_of_validateOne {config : GatewayPortConfig}
    (h : validateOne config = .none) : bindAddressValid config.bindAddress = true := by
  unfold validateOne at h
  split at h
  · cases h
  · rename_i hfields
    simp only [not_or] at hfields
    simpa using hfields.2.2.2.2.2.2.2.2.2

theorem written_of_valid {ports : GatewayPorts} (h : (gatewayConfigurationValidate ports).1 = 0)
    (i : Fin gatewayPortCount) : ∃ octets, writtenOctets (ports i).bindAddress.bytes = some octets := by
  have hvalid := bindAddressValid_of_validateOne (validateOne_of_valid (valid_errors h i))
  unfold bindAddressValid at hvalid
  rw [dottedQuad_eq] at hvalid
  simp only [Bool.and_eq_true] at hvalid
  exact Option.isSome_iff_exists.mp hvalid.2

theorem texts_apart {ports : GatewayPorts} (h : (gatewayConfigurationValidate ports).1 = 0)
    {i j : Fin gatewayPortCount} (hne : i ≠ j) (hcompete : Compete (ports i) (ports j)) :
    (ports i).bindAddress ≠ (ports j).bindAddress ∧ (ports i).bindAddress ≠ anyAddress := by
  have hclash := not_clash_of_valid h hne hcompete.enabled.1 hcompete.enabled.2
  have hfamily : (tcpFamily (ports i).transport && tcpFamily (ports j).transport ||
      udpFamily (ports i).transport && udpFamily (ports j).transport) = true := by
    simpa using hcompete.family
  unfold endpointsClash at hclash
  rw [hfamily, hcompete.port] at hclash
  simp only [decide_true, Bool.and_true, Bool.true_and, Bool.or_eq_false_iff,
    decide_eq_false_iff_not] at hclash
  exact hclash.1

/-- **Endpoint validation and sockets.** In a configuration that passes the validation the
    sockets do not conflict, and every address is bound as it is written, exactly when the
    texts spell each address in one way. -/
theorem socketsApart_iff (ports : GatewayPorts) (h : (gatewayConfigurationValidate ports).1 = 0) :
    SocketsApart ports ↔ SpelledOnce ports := by
  constructor
  · rintro ⟨hapart, hconverted⟩
    refine ⟨fun i => ?_, fun i j hne hcompete hsame => ?_, fun i j hne hcompete hzero => ?_⟩
    · obtain ⟨octets, hwritten, hword⟩ := hconverted i
      exact (inetAddr_written_iff hwritten).mp hword
    · obtain ⟨octets, hwritten, hword⟩ := hconverted i
      obtain ⟨octets', hwritten', hword'⟩ := hconverted j
      obtain rfl : octets = octets' := Option.some.inj (hwritten.symm.trans (hsame.trans hwritten'))
      exact absurd hword' (hapart i j hne hcompete _ hword).2
    · obtain ⟨octets, hwritten, hword⟩ := hconverted i
      obtain rfl : octets = [0, 0, 0, 0] := Option.some.inj (hwritten.symm.trans hzero)
      exact absurd rfl (hapart i j hne hcompete _ hword).1
  -- spelled alike, two addresses that differ as texts differ as words
  · rintro ⟨hplain, honce, hwildcard⟩
    have hconverted : ∀ i, ∃ octets, writtenOctets (ports i).bindAddress.bytes = some octets ∧
        inetAddr (ports i).bindAddress.bytes = some (quadWord octets) := by
      intro i
      obtain ⟨octets, hwritten⟩ := written_of_valid h i
      exact ⟨octets, hwritten, (inetAddr_written_iff hwritten).mpr (hplain i)⟩
    refine ⟨fun i j hne hcompete word hword => ?_, hconverted⟩
    obtain ⟨htexts, hany⟩ := texts_apart h hne hcompete
    obtain ⟨octets, hwritten, hread⟩ := hconverted i
    obtain ⟨octets', hwritten', hread'⟩ := hconverted j
    obtain ⟨parts, _, hspells, hlength⟩ := writtenOctets_spells hwritten
    obtain ⟨parts', _, hspells', hlength'⟩ := writtenOctets_spells hwritten'
    obtain rfl : quadWord octets = word := Option.some.inj (hread.symm.trans hword)
    refine ⟨fun hzero => ?_, fun hsame => ?_⟩
    · have hnull : SpellsAll [[48], [48], [48], [48]] [0, 0, 0, 0] := by
        have hone : Spells [48] 0 := ⟨by simp, [], [48], rfl, by simp, by simp [isDigit], by simp, fun _ => rfl⟩
        exact .cons hone (.cons hone (.cons hone (.cons hone .nil)))
      have hoctets := octets_eq_of_word hspells hlength hnull rfl (hzero.trans rfl)
      exact hany (hwildcard i j hne hcompete (hoctets ▸ hwritten))
    · have hword' := Option.some.inj (hread'.symm.trans hsame)
      have hoctets := octets_eq_of_word hspells hlength hspells' hlength' hword'.symm
      exact htexts (honce i j hne hcompete (by rw [hwritten, hwritten', hoctets]))

def boundTo (config : GatewayPortConfig) (address : CString) (port : Nat) : GatewayPortConfig :=
  { config.bindTo address with endpointPort := port }

/-- The first two ports on one port number, each on an address of its own. -/
def twoHosts (first second : CString) : GatewayPorts :=
  Function.update (Function.update gatewayConfigurationDefaults 0
    (boundTo (gatewayConfigurationDefaults 0) first 502)) 1
    (boundTo (gatewayConfigurationDefaults 1) second 502)

/-- Two hosts in plain decimal. -/
theorem socketsApart_twoHosts :
    SocketsApart (twoHosts ⟨text "10.0.0.1", by decide⟩ ⟨text "10.0.0.2", by decide⟩) := by
  refine (socketsApart_iff _ (by decide +kernel)).mpr ⟨?_, ?_, ?_⟩
  · decide +kernel
  · decide +kernel
  · decide +kernel

/-- **One host, spelled twice.** Both ports pass, and both are bound to 10.0.0.1. -/
theorem sockets_conflict :
    (gatewayConfigurationValidate
        (twoHosts ⟨text "10.0.0.1", by decide⟩ ⟨text "10.0.0.01", by decide⟩)).1 = 0 ∧
      ¬ SocketsApart (twoHosts ⟨text "10.0.0.1", by decide⟩ ⟨text "10.0.0.01", by decide⟩) := by
  refine ⟨by decide +kernel, fun h => ?_⟩
  exact (h.apart 0 1 (by decide) (by decide +kernel) 0x0a000001 (by decide +kernel)).2 (by decide +kernel)

/-- An address is bound to another than is written. -/
example : (writtenOctets (text "010.0.0.1"), inetAddr (text "010.0.0.1")) =
    (some [10, 0, 0, 1], some 0x08000001) := by
  decide +kernel

end FourVrs.Config
