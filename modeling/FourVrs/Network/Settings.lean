import FourVrs.Config.CText

/-!
# Network settings (`network/gateway_network_settings.c`)

Two Ethernet interfaces, each with a static address or a DHCP client; a default route
through one of them; DNS servers given or taken from a lease. Addresses are text, an
empty one is none. A text is the list of its bytes up to the terminator; `memchr` finds
one in every array, for that is what a `CText` is.
-/

set_option autoImplicit false

namespace FourVrs.Network

open Config

/-- The bytes of a terminated array. -/
abbrev CText : Type := List UInt8

/-- `GATEWAY_LAN_COUNT`. -/
abbrev Lan : Type := Fin 2

instance neZeroTwo : @NeZero Nat Zero.ofOfNat0 2 := ⟨by decide⟩

theorem lan_cases (i : Lan) : i = 0 ∨ i = 1 := by
  revert i
  decide

inductive LanMode where
  | static | dhcpClient
  deriving DecidableEq, Repr, Inhabited

structure LanSettings where
  mode : LanMode := .static
  address : CText := []
  netmask : CText := []
  gateway : CText := []
  deriving DecidableEq, Repr, Inhabited

structure NetworkSettings where
  lan : Lan → LanSettings := fun _ => {}
  /-- 0 for no default route, else the number of the interface. -/
  defaultLan : Nat := 0
  automaticDns : Nat := 0
  /-- The interface whose lease gives the servers; 0 for that of the route. -/
  dnsLan : Nat := 0
  dns : Fin 2 → CText := fun _ => []
  deriving Inhabited

/-- `lan[number - 1]`. -/
def lanOfNumber (number : Nat) : Lan := if number = 2 then 1 else 0

/-! ## Addresses -/

/-- One number of an address, and what follows it. -/
def ipv4Part (input : CText) : Option (Nat × CText) :=
  let digits := input.takeWhile isDigit
  let n := digitsValue digits
  if digits.length > 3 ∨ n > 255 ∨ digits = [] ∨ digits.length > 1 ∧ digits.head? = some (ascii '0') then
    none
  else some (n, input.drop digits.length)

def ipv4Dot : CText → Option CText
  | b :: rest => if b = ascii '.' then some rest else none
  | [] => none

/-- `gateway_ipv4_parse`. -/
def ipv4Parse (input : CText) : Option (BitVec 32) := do
  let (a, rest) ← ipv4Part input
  let (b, rest) ← ipv4Part (← ipv4Dot rest)
  let (c, rest) ← ipv4Part (← ipv4Dot rest)
  let (d, rest) ← ipv4Part (← ipv4Dot rest)
  if rest = [] then some (BitVec.ofNat 32 (((a * 256 + b) * 256 + c) * 256 + d)) else none

def decimalText (n : Nat) : CText := (Nat.toDigits 10 n).map ascii

/-- `gateway_ipv4_format`. -/
def ipv4Format (address : BitVec 32) : CText :=
  let n := address.toNat
  decimalText (n / 2 ^ 24) ++ ascii '.' :: decimalText (n / 2 ^ 16 % 256) ++
    ascii '.' :: decimalText (n / 2 ^ 8 % 256) ++ ascii '.' :: decimalText (n % 256)

/-- The digits of a number are digits. -/
theorem isDigit_of_mem_decimalText {n : Nat} {b : UInt8} (h : b ∈ decimalText n) : isDigit b = true := by
  obtain ⟨c, hc, rfl⟩ := List.mem_map.mp h
  have hdigit := Nat.isDigit_of_mem_toDigits (by decide) (by decide) hc
  simp only [Char.isDigit, Bool.and_eq_true, decide_eq_true_eq] at hdigit
  obtain ⟨hlow, hhigh⟩ := hdigit
  have hlow : 48 ≤ c.toNat := UInt32.le_iff_toNat_le.mp hlow
  have hhigh : c.toNat ≤ 57 := UInt32.le_iff_toNat_le.mp hhigh
  have hbyte : c.toNat.toUInt8.toNat = c.toNat := by
    simp only [Nat.toUInt8, UInt8.toNat_ofNat']
    omega
  simp only [isDigit, ascii, Bool.and_eq_true, decide_eq_true_eq, UInt8.le_iff_toNat_le, hbyte]
  exact ⟨hlow, hhigh⟩

theorem decimalText_injective : Function.Injective decimalText := by
  intro n m h
  have hchars : ∀ c₁ ∈ Nat.toDigits 10 n, ∀ c₂ ∈ Nat.toDigits 10 m, ascii c₁ = ascii c₂ → c₁ = c₂ := by
    intro c₁ h₁ c₂ h₂ heq
    have bound : ∀ {c : Char} {k : Nat}, c ∈ Nat.toDigits 10 k → c.toNat ≤ 57 := by
      intro c k hc
      have hdigit := Nat.isDigit_of_mem_toDigits (by decide) (by decide) hc
      simp only [Char.isDigit, Bool.and_eq_true, decide_eq_true_eq] at hdigit
      exact UInt32.le_iff_toNat_le.mp hdigit.2
    have hnat := congrArg UInt8.toNat heq
    have h₁' := bound h₁
    have h₂' := bound h₂
    simp only [ascii, Nat.toUInt8, UInt8.toNat_ofNat'] at hnat
    exact Char.toNat_inj.mp (by omega)
  have hdigits : Nat.toDigits 10 n = Nat.toDigits 10 m := by
    unfold decimalText at h
    generalize Nat.toDigits 10 n = xs at h hchars
    generalize Nat.toDigits 10 m = ys at h hchars
    induction xs generalizing ys with
    | nil => simpa using h.symm
    | cons x xs ih =>
      cases ys with
      | nil => simp at h
      | cons y ys =>
        simp only [List.map_cons, List.cons.injEq] at h
        rw [hchars x (by simp) y (by simp) h.1,
          ih ys h.2 fun c₁ h₁ c₂ h₂ => hchars c₁ (by simp [h₁]) c₂ (by simp [h₂])]
  rw [← Nat.ofDigitChars_ten_toDigits (n := n), hdigits, Nat.ofDigitChars_ten_toDigits]

def unicast (address : BitVec 32) : Bool :=
  let first := address.toNat / 2 ^ 24
  decide (first ≠ 0 ∧ first ≠ 127 ∧ first < 224)

/-- An address that may be left out: 0 for none. -/
def optionalAddress (input : CText) : Option (BitVec 32) :=
  if input = [] then some 0
  else
    match ipv4Parse input with
    | some a => if a ≠ 0 then some a else none
    | none => none

/-! ## Validation -/

/-- `gateway_network_settings_result_t`. -/
inductive SettingsResult where
  | ok | invalid | address | mask | gateway | overlap | dns
  deriving DecidableEq, Repr

/-- A field that is not in force is empty or an address. -/
def dormant (input : CText) : Bool := input = [] || (ipv4Parse input).isSome

/-- What the loop of `gateway_network_settings_validate` finds of one interface: its
    static address and mask, 0 for a DHCP client, or what is wrong. -/
def validateLan (s : NetworkSettings) (i : Lan) : Except SettingsResult (BitVec 32 × BitVec 32) :=
  let p := s.lan i
  match p.mode with
  | .dhcpClient =>
      if dormant p.address && dormant p.netmask && dormant p.gateway then .ok (0, 0)
      else .error .invalid
  | .static =>
      match ipv4Parse p.address with
      | none => .error .address
      | some address =>
        if ¬ unicast address then .error .address
        else
          match ipv4Parse p.netmask with
          | none => .error .mask
          | some mask =>
            let inverse := ~~~mask
            if mask = 0 ∨ inverse < 3 ∨ inverse &&& (inverse + 1) ≠ 0 then .error .mask
            else if address &&& inverse = 0 ∨ address &&& inverse = inverse then .error .address
            else
              match optionalAddress p.gateway with
              | none => .error .gateway
              | some gateway =>
                if gateway ≠ 0 ∧ (¬ unicast gateway ∨ gateway = address ∨
                    gateway &&& mask ≠ address &&& mask ∨ gateway &&& inverse = 0 ∨
                    gateway &&& inverse = inverse) then .error .gateway
                else if s.defaultLan = i.val + 1 ∧ gateway = 0 then .error .gateway
                else .ok (address, mask)

/-- The end of `gateway_network_settings_validate`. -/
def validateDns (s : NetworkSettings) : SettingsResult :=
  if s.automaticDns ≠ 0 then
    if ¬ (dormant (s.dns 0) && dormant (s.dns 1)) then .invalid
    else
      let source := if s.dnsLan ≠ 0 then s.dnsLan else s.defaultLan
      if source = 0 ∨ (s.lan (lanOfNumber source)).mode ≠ .dhcpClient then .dns else .ok
  else
    let server (i : Fin 2) : Bool :=
      match optionalAddress (s.dns i) with
      | none => false
      | some a => a = 0 || unicast a
    if server 0 && server 1 then .ok else .dns

/-- `gateway_network_settings_validate`. -/
def settingsValidate (s : NetworkSettings) : SettingsResult :=
  if s.defaultLan > 2 ∨ s.automaticDns > 1 ∨ s.dnsLan > 2 ∨ s.automaticDns = 0 ∧ s.dnsLan ≠ 0 then .invalid
  else
    match validateLan s 0 with
    | .error e => e
    | .ok (addr0, mask0) =>
      match validateLan s 1 with
      | .error e => e
      | .ok (addr1, mask1) =>
        if (s.lan 0).mode = .static ∧ (s.lan 1).mode = .static ∧
            addr0 &&& (mask0 &&& mask1) = addr1 &&& (mask0 &&& mask1) then .overlap
        else validateDns s

/-! ## What valid settings are -/

/-- A static interface that is in order: its host is neither the network nor its broadcast
    address, and its router is on the network. -/
structure StaticHost (lan : LanSettings) (a m : BitVec 32) : Prop where
  address : ipv4Parse lan.address = some a
  netmask : ipv4Parse lan.netmask = some m
  host : a &&& ~~~m ≠ 0 ∧ a &&& ~~~m ≠ ~~~m
  gateway : lan.gateway ≠ [] → ∃ g, ipv4Parse lan.gateway = some g ∧ g &&& m = a &&& m

theorem validateLan_static {s : NetworkSettings} {i : Lan} {r : BitVec 32 × BitVec 32}
    (hmode : (s.lan i).mode = .static) (h : validateLan s i = .ok r) :
    StaticHost (s.lan i) r.1 r.2 := by
  unfold validateLan at h
  simp only [hmode] at h
  split at h
  · cases h
  rename_i a haddress
  split at h
  · cases h
  split at h
  · cases h
  rename_i m hmask
  split at h
  · cases h
  split at h
  · cases h
  rename_i hhost
  split at h
  · cases h
  rename_i g hgateway
  split at h
  · cases h
  rename_i hrouter
  split at h
  · cases h
  · obtain rfl := Except.ok.inj h
    refine ⟨haddress, hmask, not_or.mp hhost, fun hgiven => ?_⟩
    unfold optionalAddress at hgateway
    rw [if_neg hgiven] at hgateway
    split at hgateway
    · rename_i g' hparse
      split at hgateway
      · rename_i hnonzero
        obtain rfl := Option.some.inj hgateway
        refine ⟨g', hparse, ?_⟩
        by_contra hother
        exact hrouter ⟨hnonzero, .inr (.inr (.inl hother))⟩
      · cases hgateway
    · cases hgateway

/-- An interface that is refused is refused for a reason. -/
theorem validateLan_error {s : NetworkSettings} {i : Lan} {e : SettingsResult}
    (h : validateLan s i = .error e) : e ≠ .ok := by
  rintro rfl
  unfold validateLan at h
  simp only at h
  repeat' split at h
  all_goals cases h

theorem validate_lans {s : NetworkSettings} (h : settingsValidate s = .ok) :
    ∃ r₀ r₁, validateLan s 0 = .ok r₀ ∧ validateLan s 1 = .ok r₁ ∧
      ((s.lan 0).mode = .static → (s.lan 1).mode = .static →
        r₀.1 &&& (r₀.2 &&& r₁.2) ≠ r₁.1 &&& (r₀.2 &&& r₁.2)) := by
  unfold settingsValidate at h
  split at h
  · cases h
  split at h
  · rename_i e herror
    exact absurd h (validateLan_error herror)
  rename_i a₀ m₀ hfirst
  split at h
  · rename_i e herror
    exact absurd h (validateLan_error herror)
  · rename_i a₁ m₁ hsecond
    refine ⟨_, _, hfirst, hsecond, fun hstatic₀ hstatic₁ hsame => ?_⟩
    rw [if_pos ⟨hstatic₀, hstatic₁, hsame⟩] at h
    cases h

theorem staticHost_of_validate {s : NetworkSettings} (h : settingsValidate s = .ok) {i : Lan}
    (hmode : (s.lan i).mode = .static) : ∃ a m, StaticHost (s.lan i) a m := by
  obtain ⟨r₀, r₁, hfirst, hsecond, -⟩ := validate_lans h
  rcases lan_cases i with rfl | rfl
  · exact ⟨_, _, validateLan_static hmode hfirst⟩
  · exact ⟨_, _, validateLan_static hmode hsecond⟩

/-- The networks of two static interfaces have no address in common. -/
theorem disjoint_of_validate {s : NetworkSettings} (h : settingsValidate s = .ok)
    (hstatic₀ : (s.lan 0).mode = .static) (hstatic₁ : (s.lan 1).mode = .static) {a₀ m₀ a₁ m₁ : BitVec 32}
    (hhost₀ : StaticHost (s.lan 0) a₀ m₀) (hhost₁ : StaticHost (s.lan 1) a₁ m₁) (x : BitVec 32) :
    ¬ (x &&& m₀ = a₀ &&& m₀ ∧ x &&& m₁ = a₁ &&& m₁) := by
  obtain ⟨r₀, r₁, hfirst, hsecond, hapart⟩ := validate_lans h
  have hfound₀ := validateLan_static hstatic₀ hfirst
  have hfound₁ := validateLan_static hstatic₁ hsecond
  obtain rfl : r₀.1 = a₀ := Option.some.inj (hfound₀.address.symm.trans hhost₀.address)
  obtain rfl : r₀.2 = m₀ := Option.some.inj (hfound₀.netmask.symm.trans hhost₀.netmask)
  obtain rfl : r₁.1 = a₁ := Option.some.inj (hfound₁.address.symm.trans hhost₁.address)
  obtain rfl : r₁.2 = m₁ := Option.some.inj (hfound₁.netmask.symm.trans hhost₁.netmask)
  rintro ⟨hx₀, hx₁⟩
  refine hapart hstatic₀ hstatic₁ ?_
  -- an address of both is on either network under the mask they share
  calc r₀.1 &&& (r₀.2 &&& r₁.2) = r₀.1 &&& r₀.2 &&& r₁.2 := (BitVec.and_assoc ..).symm
    _ = x &&& r₁.2 &&& r₀.2 := by rw [← hx₀, BitVec.and_assoc, BitVec.and_assoc, BitVec.and_comm r₀.2]
    _ = r₁.1 &&& (r₀.2 &&& r₁.2) := by rw [hx₁, BitVec.and_assoc, BitVec.and_comm r₁.2]

end FourVrs.Network
