import FourVrs.Network.Addresses
import FourVrs.Network.Document

/-!
# The lines the gateway writes

What a written line says is read off it again: its first word, and behind it an address, a pair
of servers or the words of an `iface` line. Addresses are words of at most fifteen bytes without
blanks, so no format splits one.
-/

set_option autoImplicit false

namespace FourVrs.Network

open Config Lib

/-! ## Words -/

/-- A word of a line. -/
structure Word (w : CText) : Prop where
  nonempty : w ≠ []
  plain : ∀ b ∈ w, isSpace b = false ∧ b ≠ 0

instance (w : CText) : Decidable (Word w) :=
  letI : Decidable (∀ b ∈ w, isSpace b = false ∧ b ≠ 0) := List.decidableBAll _ w
  decidable_of_iff (w ≠ [] ∧ ∀ b ∈ w, isSpace b = false ∧ b ≠ 0) ⟨fun h => ⟨h.1, h.2⟩, fun h => ⟨h.1, h.2⟩⟩

/-- What stands behind the first word: it begins and ends with no blank. -/
structure LineValue (v : CText) : Prop where
  head : ∀ b ∈ v.head?, isBlank b = false
  last : ∀ b ∈ v.getLast?, isBreak b = false
  plain : ∀ b ∈ v, b ≠ 10 ∧ b ≠ 0

theorem isBreak_of_not_space {b : UInt8} (h : isSpace b = false) : isBreak b = false := by
  simp only [isSpace, Bool.or_eq_false_iff, Bool.and_eq_false_iff, decide_eq_false_iff_not] at h
  simp only [isBreak, isBlank, Bool.or_eq_false_iff, decide_eq_false_iff_not]
  refine ⟨⟨h.1, ?_⟩, ?_⟩
  · rintro rfl
    exact h.2.elim (· (by decide)) (· (by decide))
  · rintro rfl
    exact h.2.elim (· (by decide)) (· (by decide))

theorem isBlank_of_isBreak {b : UInt8} (h : isBreak b = false) : isBlank b = false := by
  simp only [isBreak, Bool.or_eq_false_iff] at h
  exact h.1

theorem not_newline_of_not_space {b : UInt8} (h : isSpace b = false) : b ≠ 10 := by
  rintro rfl
  exact absurd h (by decide)

theorem Word.lineValue {w : CText} (h : Word w) : LineValue w where
  head := fun b hb => isBlank_of_isBreak (isBreak_of_not_space (h.plain b (List.mem_of_mem_head? hb)).1)
  last := fun b hb => isBreak_of_not_space (h.plain b (List.mem_of_getLast? hb)).1
  plain := fun b hb => ⟨not_newline_of_not_space (h.plain b hb).1, (h.plain b hb).2⟩

/-- Two words with a space between them. -/
theorem Word.lineValue_pair {v w : CText} (hv : Word v) (hw : Word w) : LineValue (v ++ text " " ++ w) where
  head := by
    obtain ⟨b, v', rfl⟩ := List.exists_cons_of_ne_nil hv.nonempty
    simpa using isBlank_of_isBreak (isBreak_of_not_space (hv.plain b (by simp)).1)
  last := by
    intro b hb
    rw [List.getLast?_append_of_ne_nil _ hw.nonempty] at hb
    exact isBreak_of_not_space (hw.plain b (List.mem_of_getLast? hb)).1
  plain := by
    intro b hb
    rcases List.mem_append.mp hb with hb | hb
    · rcases List.mem_append.mp hb with hb | hb
      · exact ⟨not_newline_of_not_space (hv.plain b hb).1, (hv.plain b hb).2⟩
      · obtain rfl : b = ascii ' ' := by simpa [text] using hb
        decide
    · exact ⟨not_newline_of_not_space (hw.plain b hb).1, (hw.plain b hb).2⟩

/-! ## The lines -/

theorem lineText_ended {words : CText} (h : 10 ∉ words) : lineText (words ++ [10]) = words := by
  unfold lineText
  rw [List.takeWhile_append_of_pos]
  · simp
  · intro b hb
    simpa using fun heq : b = 10 => h (heq ▸ hb)

theorem lineText_last {words : CText} (h : 10 ∉ words) : lineText words = words := by
  unfold lineText
  rw [List.takeWhile_eq_self_iff]
  intro b hb
  simpa using fun heq : b = 10 => h (heq ▸ hb)

/-- A newline behind a line changes nothing that is read of it. -/
theorem lineText_append_newline {raw : CText} (h : 10 ∉ raw) : lineText (raw ++ [10]) = lineText raw := by
  rw [lineText_ended h, lineText_last h]

/-- What a line with a key and a value reads as, whatever it is set in by. -/
theorem line_words {indent key value : CText} (hindent : ∀ b ∈ indent, isBlank b = true) (hkey : Word key)
    (hvalue : LineValue value) :
    lineKey (indent ++ key ++ text " " ++ value) = key ∧
      lineValue (indent ++ key ++ text " " ++ value) = value := by
  have hdrop : (indent ++ key ++ text " " ++ value).dropWhile isBlank = key ++ text " " ++ value := by
    rw [List.append_assoc, List.append_assoc, List.dropWhile_append_of_pos hindent]
    obtain ⟨b, key', rfl⟩ := List.exists_cons_of_ne_nil hkey.nonempty
    rw [List.cons_append, List.dropWhile_cons_of_neg
      (by simp [isBlank_of_isBreak (isBreak_of_not_space (hkey.plain b (by simp)).1)])]
    simp
  have hbreak : ∀ b ∈ key, (!isBreak b) = true := fun b hb => by
    simp [isBreak_of_not_space (hkey.plain b hb).1]
  have hspace : text " " ++ value = 32 :: value := rfl
  have htake : (key ++ text " " ++ value).takeWhile (fun b => !isBreak b) = key := by
    rw [List.append_assoc, hspace, List.takeWhile_append_of_pos hbreak,
      List.takeWhile_cons_of_neg (by decide), List.append_nil]
  have hbehind : (key ++ text " " ++ value).dropWhile (fun b => !isBreak b) = 32 :: value := by
    rw [List.append_assoc, hspace, List.dropWhile_append_of_pos hbreak,
      List.dropWhile_cons_of_neg (by decide)]
  have hfront : value.dropWhile isBlank = value := by
    cases value with
    | nil => rfl
    | cons b value => exact List.dropWhile_cons_of_neg (by simp [hvalue.head b rfl])
  refine ⟨?_, ?_⟩
  · unfold lineKey
    rw [hdrop, htake]
  · unfold lineValue
    simp only [hdrop, hbehind, List.drop_one, List.tail_cons, hfront]
    rw [List.rdropWhile_eq_self_iff]
    intro hne
    simp [hvalue.last _ (List.getLast?_eq_some_getLast hne)]

theorem nextLine_eq {words key value : CText} (hplain : ∀ b ∈ words, b ≠ 10 ∧ b ≠ 0)
    (hlength : words.length < lineMaxBytes) (hkey : lineKey words = key) (hvalue : lineValue words = value) :
    nextLine (words ++ [10]) = some { raw := words ++ [10], key := key, value := value } := by
  have htext : lineText (words ++ [10]) = words := lineText_ended fun h => (hplain 10 h).1 rfl
  unfold nextLine
  simp only [htext, hkey, hvalue]
  rw [if_neg]
  intro h
  rcases h with h | h
  · omega
  · exact (hplain 0 h).2 rfl

/-- **A written line.** -/
theorem nextLine_fieldText {key value : CText} (hkey : Word key) (hvalue : LineValue value)
    (hlength : key.length + value.length < 500) :
    nextLine (fieldText key value) = some { raw := fieldText key value, key := key, value := value } := by
  have hindent : ∀ b ∈ text "\t", isBlank b = true := by decide +kernel
  obtain ⟨hread, hvalue'⟩ := line_words hindent hkey hvalue
  refine nextLine_eq ?_ ?_ hread hvalue'
  · intro b hb
    simp only [List.mem_append] at hb
    rcases hb with ((hb | hb) | hb) | hb
    · revert b
      decide +kernel
    · exact ⟨not_newline_of_not_space (hkey.plain b hb).1, (hkey.plain b hb).2⟩
    · revert b
      decide +kernel
    · exact hvalue.plain b hb
  · have hblank : (text "\t").length + (text " ").length = 2 := rfl
    simp only [List.length_append, lineMaxBytes]
    omega

/-- The words behind `iface`. -/
def ifaceValue (p : Platform) (lan : Lan) (mode : LanMode) : CText :=
  lanName p lan ++ text " inet " ++ (if mode = .static then text "static" else text "dhcp")

theorem nextLine_ifaceText (p : Platform) (lan : Lan) (mode : LanMode) :
    nextLine (ifaceText p lan mode) =
      some { raw := ifaceText p lan mode, key := text "iface", value := ifaceValue p lan mode } := by
  cases p <;> rcases lan_cases lan with rfl | rfl <;> cases mode <;> decide +kernel

theorem iface_ifaceValue (p : Platform) (lan : Lan) (mode : LanMode) (raw : CText) :
    iface p { raw := raw, key := text "iface", value := ifaceValue p lan mode } = some (.owned lan mode) := by
  have hempty : iface p { raw := [], key := text "iface", value := ifaceValue p lan mode } =
      some (.owned lan mode) := by
    cases p <;> rcases lan_cases lan with rfl | rfl <;> cases mode <;> decide +kernel
  exact hempty

theorem unfollowed_ifaceValue (p : Platform) (lan : Lan) (mode : LanMode) (raw : CText) :
    unfollowed { raw := raw, key := text "iface", value := ifaceValue p lan mode } = false := by
  have hempty : unfollowed { raw := [], key := text "iface", value := ifaceValue p lan mode } = false := by
    cases p <;> rcases lan_cases lan with rfl | rfl <;> cases mode <;> decide +kernel
  exact hempty

/-! ## Scanned words -/

theorem scanWord_word {width : Nat} {w rest : CText} (hw : Word w) (hlength : w.length ≤ width)
    (hrest : ∀ b ∈ rest.head?, isSpace b = true) : scanWord width (w ++ rest) = some (w, rest) := by
  have hdrop : (w ++ rest).dropWhile isSpace = w ++ rest := by
    obtain ⟨b, w', rfl⟩ := List.exists_cons_of_ne_nil hw.nonempty
    exact List.dropWhile_cons_of_neg (by simp [(hw.plain b (by simp)).1])
  have htake : (w ++ rest).takeWhile (fun b => !isSpace b) = w := by
    rw [List.takeWhile_append_of_pos fun b hb => by simp [(hw.plain b hb).1]]
    cases rest with
    | nil => simp
    | cons b rest => simp [hrest b rfl]
  unfold scanWord
  simp only [hdrop, htake, List.take_of_length_le hlength]
  rw [if_neg hw.nonempty, List.drop_left]

theorem scanWord_space {width : Nat} {input : CText} : scanWord width (32 :: input) = scanWord width input := by
  unfold scanWord
  rw [List.dropWhile_cons_of_pos (by decide)]

theorem scanWord_nil (width : Nat) : scanWord width [] = none := by simp [scanWord]

/-! ## Addresses -/

/-- The bytes of an address. -/
structure AddressText (t : CText) : Prop where
  word : Word t
  length : t.length ≤ 15
  backslash : 92 ∉ t

theorem digit_plain {b : UInt8} (h : isDigit b = true) : isSpace b = false ∧ b ≠ 0 ∧ b ≠ 92 := by
  simp only [isDigit, Bool.and_eq_true, decide_eq_true_eq, UInt8.le_iff_toNat_le] at h
  have hlow : 48 ≤ b.toNat := h.1
  have hhigh : b.toNat ≤ 57 := h.2
  simp only [isSpace, Bool.or_eq_false_iff, Bool.and_eq_false_iff, decide_eq_false_iff_not,
    UInt8.le_iff_toNat_le]
  refine ⟨⟨?_, .inr ?_⟩, ?_, ?_⟩
  · rintro rfl
    exact absurd hlow (by decide)
  · show ¬ b.toNat ≤ 13
    omega
  · rintro rfl
    exact absurd hlow (by decide)
  · rintro rfl
    exact absurd hhigh (by decide)

theorem ipv4Part_some {input rest : CText} {n : Nat} (h : ipv4Part input = some (n, rest)) :
    ∃ digits, input = digits ++ rest ∧ digits ≠ [] ∧ digits.length ≤ 3 ∧ ∀ b ∈ digits, isDigit b = true := by
  unfold ipv4Part at h
  simp only [] at h
  split at h
  · cases h
  · rename_i hgood
    simp only [not_or, not_lt] at hgood
    obtain ⟨-, rfl⟩ := Prod.mk.inj (Option.some.inj h)
    refine ⟨input.takeWhile isDigit, ?_, hgood.2.2.1, hgood.1, fun b hb => List.mem_takeWhile_imp hb⟩
    have hdrop : (input.takeWhile isDigit ++ input.dropWhile isDigit).drop
        (input.takeWhile isDigit).length = input.dropWhile isDigit := List.drop_left
    rw [List.takeWhile_append_dropWhile] at hdrop
    rw [hdrop, List.takeWhile_append_dropWhile]

theorem ipv4Dot_some {input rest : CText} (h : ipv4Dot input = some rest) : input = 46 :: rest := by
  cases input with
  | nil => cases h
  | cons b input =>
    simp only [ipv4Dot] at h
    split at h
    · rename_i heq
      rw [heq, Option.some.inj h]
      rfl
    · cases h

theorem addressText_of_parse {t : CText} {a : BitVec 32} (h : ipv4Parse t = some a) : AddressText t := by
  unfold ipv4Parse at h
  simp only [Option.bind_eq_bind, Option.bind_eq_some_iff] at h
  obtain ⟨⟨n₁, r₁⟩, h₁, s₁, hs₁, ⟨n₂, r₂⟩, h₂, s₂, hs₂, ⟨n₃, r₃⟩, h₃, s₃, hs₃, ⟨n₄, r₄⟩, h₄, hend⟩ := h
  obtain ⟨d₁, rfl, hne, hl₁, hd₁⟩ := ipv4Part_some h₁
  obtain ⟨d₂, rfl, -, hl₂, hd₂⟩ := ipv4Part_some h₂
  obtain ⟨d₃, rfl, -, hl₃, hd₃⟩ := ipv4Part_some h₃
  obtain ⟨d₄, rfl, -, hl₄, hd₄⟩ := ipv4Part_some h₄
  simp only [] at hs₁ hs₂ hs₃ hend
  rw [ipv4Dot_some hs₁, ipv4Dot_some hs₂, ipv4Dot_some hs₃]
  split at hend
  · rename_i hnil
    subst hnil
    have hbytes : ∀ b ∈ d₁ ++ 46 :: (d₂ ++ 46 :: (d₃ ++ 46 :: (d₄ ++ []))),
        isSpace b = false ∧ b ≠ 0 ∧ b ≠ 92 := by
      intro b hb
      simp only [List.mem_append, List.mem_cons, List.not_mem_nil, or_false] at hb
      have hdot : isSpace 46 = false ∧ (46 : UInt8) ≠ 0 ∧ (46 : UInt8) ≠ 92 := by decide
      rcases hb with hb | rfl | hb | rfl | hb | rfl | hb
      · exact digit_plain (hd₁ b hb)
      · exact hdot
      · exact digit_plain (hd₂ b hb)
      · exact hdot
      · exact digit_plain (hd₃ b hb)
      · exact hdot
      · exact digit_plain (hd₄ b hb)
    refine ⟨⟨by simp [hne], fun b hb => ⟨(hbytes b hb).1, (hbytes b hb).2.1⟩⟩, ?_, fun h => (hbytes 92 h).2.2 rfl⟩
    simp only [List.length_append, List.length_cons, List.length_nil]
    omega
  · cases hend

theorem addressText_format (a : BitVec 32) : AddressText (ipv4Format a) :=
  addressText_of_parse (ipv4Parse_format a)

theorem addressText_of_server {t : CText} (h : dnsServer t = true) : AddressText t := by
  unfold dnsServer at h
  split at h
  · exact addressText_of_parse ‹_›
  · cases h

/-! ## Name servers -/

theorem dnsLine_one {server : CText} (h : dnsServer server = true) :
    dnsLine server = some (serverPair server []) := by
  have hw := addressText_of_server h
  have hscan : scanWord 15 (server ++ []) = some (server, []) := scanWord_word hw.word hw.length (by simp)
  rw [List.append_nil] at hscan
  have hwords : scanWords [15, 15, 1] server = [server] := by
    simp only [scanWords, hscan, scanWord_nil]
  unfold dnsLine
  rw [hwords]
  exact if_pos h

theorem dnsLine_two {first second : CText} (h₁ : dnsServer first = true) (h₂ : dnsServer second = true) :
    dnsLine (first ++ text " " ++ second) =
      if first ≠ second then some (serverPair first second) else none := by
  have hw₁ := addressText_of_server h₁
  have hw₂ := addressText_of_server h₂
  have hscan₁ : scanWord 15 (first ++ text " " ++ second) = some (first, 32 :: second) := by
    rw [List.append_assoc]
    exact scanWord_word hw₁.word hw₁.length (by simp [text]; decide)
  have hscan₂ : scanWord 15 (second ++ []) = some (second, []) := scanWord_word hw₂.word hw₂.length (by simp)
  rw [List.append_nil] at hscan₂
  have hwords : scanWords [15, 15, 1] (first ++ text " " ++ second) = [first, second] := by
    simp only [scanWords, hscan₁, scanWord_space, hscan₂, scanWord_nil]
  unfold dnsLine
  rw [hwords]
  simp only [h₁, h₂, true_and]

/-- The servers that a line names are servers, and not the same twice. -/
theorem dnsLine_some {value : CText} {dns : Fin 2 → CText} (h : dnsLine value = some dns) :
    dnsServer (dns 0) = true ∧ dns 0 ≠ dns 1 := by
  unfold dnsLine at h
  split at h
  · split at h
    · rename_i hserver
      obtain rfl := Option.some.inj h
      exact ⟨hserver, (addressText_of_server hserver).word.nonempty⟩
    · cases h
  · split at h
    · rename_i hboth
      obtain rfl := Option.some.inj h
      exact ⟨hboth.1, hboth.2.2⟩
    · cases h
  · cases h

end FourVrs.Network
