import FourVrs.Lib.Masks
import FourVrs.Network.Addresses

/-!
# The address plan

`gateway_network_settings_validate` reads arrays and the numbers of enumerations. What it lets
pass is said here without its arithmetic: which texts stand in which array, which mask lengths
there are, which sets of addresses have nothing in common.
-/

set_option autoImplicit false

namespace FourVrs.Network

open Config Lib

/-! ## The record -/

/-- `gateway_lan_settings_t`: the mode by its number, a text in an array of
    `GATEWAY_IPV4_TEXT_MAX` bytes that may have no end. -/
structure LanArrays where
  mode : Nat
  address : Vector UInt8 16
  netmask : Vector UInt8 16
  gateway : Vector UInt8 16

/-- `gateway_network_settings_t`. -/
structure SettingsArrays where
  lan : Lan → LanArrays
  defaultLan : Nat
  automaticDns : Nat
  dnsLan : Nat
  dns : Fin 2 → Vector UInt8 16

/-- `memchr` finds the end of the text. -/
def terminated (field : Vector UInt8 16) : Bool := field.toList.contains 0

/-- What a reader takes for the text; all of the array if it has no end. -/
def arrayText (field : Vector UInt8 16) : CText := field.toList.takeWhile (· ≠ 0)

def SettingsArrays.read (s : SettingsArrays) : NetworkSettings where
  lan i :=
    { mode := if (s.lan i).mode = 1 then .dhcpClient else .static
      address := arrayText (s.lan i).address
      netmask := arrayText (s.lan i).netmask
      gateway := arrayText (s.lan i).gateway }
  defaultLan := s.defaultLan
  automaticDns := s.automaticDns
  dnsLan := s.dnsLan
  dns i := arrayText (s.dns i)

/-- A pass of the loop of `gateway_network_settings_validate`. -/
def validateArrays (s : SettingsArrays) (i : Lan) : Except SettingsResult (BitVec 32 × BitVec 32) :=
  let p := s.lan i
  if p.mode ≠ 0 ∧ p.mode ≠ 1 then .error .invalid
  else if terminated p.address && terminated p.netmask && terminated p.gateway then
    validateLan s.read i
  else .error .invalid

/-- The end of `gateway_network_settings_validate`. -/
def validateServers (s : SettingsArrays) : SettingsResult :=
  if s.automaticDns ≠ 0 ∧ ¬ (terminated (s.dns 0) && terminated (s.dns 1)) then .invalid
  else validateDns s.read

/-- `gateway_network_settings_validate`, with what it leaves in `invalid_lan`. -/
def gatewayNetworkSettingsValidate (s : SettingsArrays) : SettingsResult × Nat :=
  if s.defaultLan > 2 ∨ s.automaticDns > 1 ∨ s.dnsLan > 2 ∨ s.automaticDns = 0 ∧ s.dnsLan ≠ 0 then
    (.invalid, 2)
  else
    match validateArrays s 0 with
    | .error e => (e, 0)
    | .ok (addr0, mask0) =>
      match validateArrays s 1 with
      | .error e => (e, 1)
      | .ok (addr1, mask1) =>
        if (s.lan 0).mode = 0 ∧ (s.lan 1).mode = 0 ∧
            addr0 &&& (mask0 &&& mask1) = addr1 &&& (mask0 &&& mask1) then (.overlap, 2)
        else (validateServers s, 2)

/-! ## The plan -/

/-- The text and its end stand at the beginning of the array. -/
def HoldsText (field : Vector UInt8 16) (t : CText) : Prop := ∃ rest, field.toList = t ++ 0 :: rest

/-- The address in dotted decimal notation stands in the array. -/
def Quad (field : Vector UInt8 16) (a : BitVec 32) : Prop := HoldsText field (ipv4Format a)

def EmptyOrQuad (field : Vector UInt8 16) : Prop := HoldsText field [] ∨ ∃ a, Quad field a

/-- An address of one host: not of this network (0), not of this machine (127), no group (224
    and above). -/
def Unicast (a : BitVec 32) : Prop :=
  let first := a.toNat / 2 ^ 24
  first ≠ 0 ∧ first ≠ 127 ∧ first < 224

/-- The interface whose lease gives the name servers, by its number. -/
def dnsSource (dnsLan defaultLan : Nat) : Nat := if dnsLan ≠ 0 then dnsLan else defaultLan

/-- A host part that is neither that of the network nor that of its broadcast. -/
def ProperHost (a m : BitVec 32) : Prop := a &&& ~~~m ≠ 0 ∧ a &&& ~~~m ≠ ~~~m

/-- A static interface: address `a`, the first `k` bits of it the network's. -/
structure StaticPlan (p : LanArrays) (isDefault : Prop) (a : BitVec 32) (k : Nat) : Prop where
  address : Quad p.address a
  unicast : Unicast a
  netmask : Quad p.netmask (leadingOnes 32 k)
  length : 1 ≤ k ∧ k ≤ 30
  host : ProperHost a (leadingOnes 32 k)
  gateway : HoldsText p.gateway [] ∧ ¬ isDefault ∨
    ∃ g, Quad p.gateway g ∧ Unicast g ∧ g ≠ a ∧ g ∈ subnet a (leadingOnes 32 k) ∧
      ProperHost g (leadingOnes 32 k)

/-- What the settings of both interfaces, the route and the name servers must be. -/
structure AddressPlan (s : SettingsArrays) : Prop where
  mode : ∀ i, (s.lan i).mode = 0 ∨ (s.lan i).mode = 1
  defaultLan : s.defaultLan ≤ 2
  automaticDns : s.automaticDns ≤ 1
  dnsLan : s.dnsLan ≤ 2 ∧ (s.dnsLan ≠ 0 → s.automaticDns = 1)
  static : ∀ i, (s.lan i).mode = 0 → ∃ a k, StaticPlan (s.lan i) (s.defaultLan = i.val + 1) a k
  dormant : ∀ i, (s.lan i).mode = 1 →
    EmptyOrQuad (s.lan i).address ∧ EmptyOrQuad (s.lan i).netmask ∧ EmptyOrQuad (s.lan i).gateway
  apart : (s.lan 0).mode = 0 → (s.lan 1).mode = 0 → ∀ a m b n,
    Quad (s.lan 0).address a → Quad (s.lan 0).netmask m →
    Quad (s.lan 1).address b → Quad (s.lan 1).netmask n → Disjoint (subnet a m) (subnet b n)
  automatic : s.automaticDns = 1 →
    (∃ i : Lan, dnsSource s.dnsLan s.defaultLan = i.val + 1 ∧ (s.lan i).mode = 1) ∧
      ∀ i, EmptyOrQuad (s.dns i)
  manual : s.automaticDns = 0 → ∀ i, HoldsText (s.dns i) [] ∨ ∃ a, Quad (s.dns i) a ∧ a ≠ 0 ∧ Unicast a

/-! ## Texts in arrays -/

variable {field : Vector UInt8 16}

theorem holds_iff {t : CText} (h0 : 0 ∉ t) :
    HoldsText field t ↔ terminated field = true ∧ arrayText field = t := by
  unfold HoldsText terminated arrayText
  constructor
  · intro ⟨rest, hrest⟩
    rw [hrest]
    refine ⟨by simp, ?_⟩
    rw [List.takeWhile_append_of_pos]
    · simp
    · intro b hb
      exact decide_eq_true fun hzero => h0 (hzero ▸ hb)
  · intro ⟨hend, htext⟩
    have hsplit := List.takeWhile_append_dropWhile (p := fun b : UInt8 => decide (b ≠ 0)) (l := field.toList)
    rw [htext] at hsplit
    cases hdrop : field.toList.dropWhile fun b => decide (b ≠ 0) with
    | nil =>
      rw [hdrop, List.append_nil] at hsplit
      rw [List.contains_iff_mem, ← hsplit] at hend
      exact absurd hend h0
    | cons b rest =>
      have hb : b = 0 := by
        have hhead := List.head?_dropWhile_not (fun b : UInt8 => decide (b ≠ 0)) field.toList
        rw [hdrop] at hhead
        simpa using hhead
      exact ⟨rest, by rw [← hsplit, hdrop, hb]⟩

/-- A text that leaves room has an end. -/
theorem terminated_of_short (h : (arrayText field).length < 16) :
    terminated field = true := by
  by_contra hend
  have hall : ∀ b ∈ field.toList, decide (b ≠ 0) = true := by
    intro b hb
    refine decide_eq_true fun hzero => hend ?_
    rw [terminated, List.contains_iff_mem, ← hzero]
    exact hb
  unfold arrayText at h
  rw [List.takeWhile_eq_self_iff.mpr hall, Vector.length_toList] at h
  omega

theorem zero_notMem_ipv4Format (a : BitVec 32) : 0 ∉ ipv4Format a := by
  have hdigits : ∀ n, (0 : UInt8) ∉ decimalText n := fun n => not_mem_decimalText (by decide)
  have hdot : (0 : UInt8) ≠ ascii '.' := by decide
  simp [ipv4Format, hdigits, hdot]

variable {r : BitVec 32 × BitVec 32} {i : Lan} {a : BitVec 32}

theorem quad_iff :
    Quad field a ↔ ipv4Parse (arrayText field) = some a := by
  rw [Quad, holds_iff (zero_notMem_ipv4Format a), ipv4Parse_eq_some]
  refine ⟨fun h => h.2, fun h => ⟨terminated_of_short ?_, h⟩⟩
  rw [h]
  exact Nat.lt_of_le_of_lt (length_ipv4Format a).2 (by decide)

theorem empty_iff : HoldsText field [] ↔ arrayText field = [] := by
  rw [holds_iff (by simp)]
  refine ⟨fun h => h.2, fun h => ⟨terminated_of_short ?_, h⟩⟩
  rw [h]
  decide

theorem quad_unique {a b : BitVec 32} (ha : Quad field a) (hb : Quad field b) :
    a = b :=
  Option.some.inj ((quad_iff.mp ha).symm.trans (quad_iff.mp hb))

theorem terminated_of_quad (h : Quad field a) :
    terminated field = true :=
  ((holds_iff (zero_notMem_ipv4Format a)).mp h).1

theorem terminated_of_empty (h : HoldsText field []) : terminated field = true :=
  ((holds_iff (by simp)).mp h).1

/-- A field that is not in force. -/
theorem emptyOrQuad_iff :
    EmptyOrQuad field ↔ dormant (arrayText field) = true := by
  simp only [EmptyOrQuad, empty_iff, quad_iff, dormant, Bool.or_eq_true, decide_eq_true_eq,
    Option.isSome_iff_exists]

theorem terminated_of_emptyOrQuad (h : EmptyOrQuad field) :
    terminated field = true := by
  cases h with
  | inl hempty => exact terminated_of_empty hempty
  | inr hquad => exact terminated_of_quad hquad.choose_spec

/-! ## Masks and hosts -/

theorem unicast_iff : unicast a = true ↔ Unicast a := by
  simp [unicast, Unicast]

theorem ne_zero_of_unicast (h : Unicast a) : a ≠ 0 := by
  intro hzero
  exact h.1 (by rw [hzero]; rfl)

/-- The masks of the policy: /1 to /30. -/
theorem mask_iff {m : BitVec 32} :
    ¬ (m = 0 ∨ ~~~m < 3 ∨ ~~~m &&& (~~~m + 1) ≠ 0) ↔ ∃ k, (1 ≤ k ∧ k ≤ 30) ∧ m = leadingOnes 32 k := by
  simp only [not_or, not_not]
  constructor
  · intro ⟨hm, hsmall, hand⟩
    obtain ⟨k, hk, hmask⟩ := (leadingOnes_iff hm).mp hand
    refine ⟨k, ⟨?_, ?_⟩, hmask⟩
    · -- no bit of the network's would be no mask
      refine Nat.one_le_iff_ne_zero.mpr fun hzero => hm ?_
      rw [hmask, hzero]
      decide
    · by_contra hlong
      refine hsmall ?_
      rw [hmask, BitVec.lt_def, toNat_not_leadingOnes]
      have hcases : k = 31 ∨ k = 32 := by omega
      rcases hcases with rfl | rfl <;> decide
  · intro ⟨k, hk, hmask⟩
    have hnot := toNat_not_leadingOnes (w := 32) (k := k)
    have hm : m ≠ 0 := by
      intro hzero
      rw [← hmask, hzero] at hnot
      have hlt : 2 ^ (32 - k) ≤ 2 ^ 31 := Nat.pow_le_pow_right (by decide) (by omega)
      simp at hnot
      omega
    refine ⟨hm, ?_, (leadingOnes_iff hm).mpr ⟨k, by omega, hmask⟩⟩
    rw [BitVec.lt_def, hmask, hnot]
    have hle : 2 ^ 2 ≤ 2 ^ (32 - k) := Nat.pow_le_pow_right (by decide) (by omega)
    simp
    omega

/-- The router that is let pass: none but for the default route, or a host of the network. -/
theorem gateway_iff {t : CText} {a m : BitVec 32} {isDefault : Prop} :
    (∃ g, optionalAddress t = some g ∧
      ¬ (g ≠ 0 ∧ (¬ unicast g = true ∨ g = a ∨ g &&& m ≠ a &&& m ∨ g &&& ~~~m = 0 ∨
        g &&& ~~~m = ~~~m)) ∧ ¬ (isDefault ∧ g = 0)) ↔
    (t = [] ∧ ¬ isDefault ∨
      ∃ g, ipv4Parse t = some g ∧ Unicast g ∧ g ≠ a ∧ g ∈ subnet a m ∧ ProperHost g m) := by
  constructor
  · intro ⟨g, hgiven, hgood, hroute⟩
    unfold optionalAddress at hgiven
    split at hgiven
    · rename_i hnone
      obtain rfl := Option.some.inj hgiven
      exact .inl ⟨hnone, fun h => hroute ⟨h, rfl⟩⟩
    split at hgiven
    · rename_i g' hparse
      split at hgiven
      · rename_i hnonzero
        obtain rfl := Option.some.inj hgiven
        simp only [not_and, hnonzero, ne_eq, not_false_eq_true, true_implies, not_or, not_not] at hgood
        exact .inr ⟨g', hparse, unicast_iff.mp hgood.1, hgood.2.1, hgood.2.2.1, hgood.2.2.2⟩
      · cases hgiven
    · cases hgiven
  · rintro (⟨rfl, hroute⟩ | ⟨g, hparse, hunicast, hother, hsame, hhost⟩)
    · exact ⟨0, rfl, by simp, fun h => hroute h.1⟩
    · have hnonzero := ne_zero_of_unicast hunicast
      refine ⟨g, ?_, ?_, fun h => hnonzero h.2⟩
      · have hgiven : t ≠ [] := fun hnil => by
          rw [hnil] at hparse
          cases hparse
        rw [optionalAddress, if_neg hgiven, hparse]
        exact if_pos hnonzero
      · rintro ⟨-, hbad | hbad | hbad | hbad | hbad⟩
        · exact hbad (unicast_iff.mpr hunicast)
        · exact hother hbad
        · exact hbad hsame
        · exact hhost.1 hbad
        · exact hhost.2 hbad

/-! ## The validation of a plan -/

theorem validateLan_static_iff {s : NetworkSettings} (hmode : (s.lan i).mode = .static) {a m : BitVec 32} :
    validateLan s i = .ok (a, m) ↔
      ipv4Parse (s.lan i).address = some a ∧ unicast a = true ∧ ipv4Parse (s.lan i).netmask = some m ∧
        ¬ (m = 0 ∨ ~~~m < 3 ∨ ~~~m &&& (~~~m + 1) ≠ 0) ∧
        ¬ (a &&& ~~~m = 0 ∨ a &&& ~~~m = ~~~m) ∧
        ∃ g, optionalAddress (s.lan i).gateway = some g ∧
          ¬ (g ≠ 0 ∧ (¬ unicast g = true ∨ g = a ∨ g &&& m ≠ a &&& m ∨ g &&& ~~~m = 0 ∨
            g &&& ~~~m = ~~~m)) ∧ ¬ (s.defaultLan = i.val + 1 ∧ g = 0) := by
  unfold validateLan
  simp only [hmode]
  constructor
  · intro h
    split at h
    · cases h
    rename_i a' haddress
    split at h
    · cases h
    rename_i hunicast
    split at h
    · cases h
    rename_i m' hmask
    split at h
    · cases h
    rename_i hmaskGood
    split at h
    · cases h
    rename_i hhost
    split at h
    · cases h
    rename_i g hgateway
    split at h
    · cases h
    rename_i hrouter
    split at h
    · cases h
    · rename_i hroute
      obtain ⟨rfl, rfl⟩ := Prod.mk.inj (Except.ok.inj h)
      exact ⟨haddress, not_not.mp hunicast, hmask, hmaskGood, hhost, g, hgateway, hrouter,
        hroute⟩
  · intro ⟨haddress, hunicast, hmask, hmaskGood, hhost, g, hgateway, hrouter, hroute⟩
    simp only [haddress, hmask, hgateway]
    rw [if_neg (not_not.mpr hunicast), if_neg hmaskGood, if_neg hhost, if_neg hrouter, if_neg hroute]

variable {s : SettingsArrays}

/-- A static interface passes with the address and the mask of its plan. -/
theorem validateArrays_static (hmode : (s.lan i).mode = 0) {a m : BitVec 32} :
    validateArrays s i = .ok (a, m) ↔
      ∃ k, m = leadingOnes 32 k ∧ StaticPlan (s.lan i) (s.defaultLan = i.val + 1) a k := by
  have hread : (s.read.lan i).mode = .static := by simp [SettingsArrays.read, hmode]
  have hlan := @validateLan_static_iff i s.read hread a m
  rw [gateway_iff, mask_iff, unicast_iff, not_or] at hlan
  simp only [SettingsArrays.read] at hlan
  simp only [← quad_iff, ← empty_iff] at hlan
  constructor
  · intro h
    unfold validateArrays at h
    simp only [hmode] at h
    rw [if_neg (by simp)] at h
    split at h
    · obtain ⟨haddress, hunicast, hmask, ⟨k, hk, rfl⟩, hhost, hgateway⟩ := hlan.mp h
      exact ⟨k, rfl, haddress, hunicast, hmask, hk, hhost, hgateway⟩
    · cases h
  · intro ⟨k, hm, hplan⟩
    subst hm
    have hgateway : terminated (s.lan i).gateway = true := by
      rcases hplan.gateway with ⟨hempty, -⟩ | ⟨g, hquad, -⟩
      · exact terminated_of_empty hempty
      · exact terminated_of_quad hquad
    unfold validateArrays
    simp only [hmode, terminated_of_quad hplan.address, terminated_of_quad hplan.netmask, hgateway]
    rw [if_neg (by simp), if_pos (by simp)]
    exact hlan.mpr ⟨hplan.address, hplan.unicast, hplan.netmask, ⟨k, hplan.length, rfl⟩, hplan.host,
      hplan.gateway⟩

/-- A DHCP client passes when no text of its own is anything else than an address. -/
theorem validateArrays_dhcp (hmode : (s.lan i).mode = 1) :
    validateArrays s i = .ok r ↔
      (EmptyOrQuad (s.lan i).address ∧ EmptyOrQuad (s.lan i).netmask ∧ EmptyOrQuad (s.lan i).gateway) ∧
        r = (0, 0) := by
  have hlan : validateLan s.read i =
      if dormant (arrayText (s.lan i).address) && dormant (arrayText (s.lan i).netmask) &&
          dormant (arrayText (s.lan i).gateway) then .ok (0, 0) else .error .invalid := by
    simp [validateLan, SettingsArrays.read, hmode]
  unfold validateArrays
  simp only [hmode, hlan]
  rw [if_neg (by simp)]
  constructor
  · intro h
    split at h
    · split at h
      · rename_i hdormant
        simp only [Bool.and_eq_true, ← emptyOrQuad_iff] at hdormant
        exact ⟨⟨hdormant.1.1, hdormant.1.2, hdormant.2⟩, (Except.ok.inj h).symm⟩
      · cases h
    · cases h
  · intro ⟨⟨haddress, hnetmask, hgateway⟩, hr⟩
    rw [if_pos, if_pos, hr]
    · simp only [Bool.and_eq_true, ← emptyOrQuad_iff]
      exact ⟨⟨haddress, hnetmask⟩, hgateway⟩
    · simp [terminated_of_emptyOrQuad haddress, terminated_of_emptyOrQuad hnetmask,
        terminated_of_emptyOrQuad hgateway]

/-- The number of a mode that is none. -/
theorem mode_of_validateArrays (h : validateArrays s i = .ok r) :
    (s.lan i).mode = 0 ∨ (s.lan i).mode = 1 := by
  unfold validateArrays at h
  simp only [] at h
  split at h
  · cases h
  · omega

theorem validateArrays_error {e : SettingsResult} (h : validateArrays s i = .error e) : e ≠ .ok := by
  unfold validateArrays at h
  simp only [] at h
  split at h
  · cases h
    decide
  split at h
  · exact validateLan_error h
  · cases h
    decide

/-- What the loop lets pass is a plan for the interface. -/
theorem lan_of_validateArrays (h : validateArrays s i = .ok r) :
    ((s.lan i).mode = 0 → ∃ k, r.2 = leadingOnes 32 k ∧
      StaticPlan (s.lan i) (s.defaultLan = i.val + 1) r.1 k) ∧
    ((s.lan i).mode = 1 →
      EmptyOrQuad (s.lan i).address ∧ EmptyOrQuad (s.lan i).netmask ∧ EmptyOrQuad (s.lan i).gateway) :=
  ⟨fun hmode => (validateArrays_static hmode).mp h, fun hmode => ((validateArrays_dhcp hmode).mp h).1⟩

/-- Servers from a lease, in terms of the texts. -/
theorem validateDns_automatic {s : NetworkSettings} (hauto : s.automaticDns = 1) :
    validateDns s = .ok ↔ (dormant (s.dns 0) && dormant (s.dns 1)) = true ∧
      dnsSource s.dnsLan s.defaultLan ≠ 0 ∧
      (s.lan (lanOfNumber (dnsSource s.dnsLan s.defaultLan))).mode = .dhcpClient := by
  have hvalidate : validateDns s =
      if ¬ (dormant (s.dns 0) && dormant (s.dns 1)) then .invalid
      else if dnsSource s.dnsLan s.defaultLan = 0 ∨
          (s.lan (lanOfNumber (dnsSource s.dnsLan s.defaultLan))).mode ≠ .dhcpClient then .dns
      else .ok := by
    unfold validateDns
    rw [if_pos (by rw [hauto]; decide)]
    rfl
  rw [hvalidate]
  constructor
  · intro h
    split at h
    · cases h
    rename_i hdormant
    split at h
    · cases h
    · rename_i hsource
      exact ⟨not_not.mp hdormant, (not_or.mp hsource).imp id not_not.mp⟩
  · intro ⟨hdormant, hsource, hleases⟩
    rw [if_neg (not_not.mpr hdormant), if_neg]
    rintro (h | h)
    · exact hsource h
    · exact h hleases

/-- With automatic servers: an interface that leases gives them. -/
theorem validateServers_automatic (hauto : s.automaticDns = 1) (hdefault : s.defaultLan ≤ 2)
    (hlan : s.dnsLan ≤ 2) :
    validateServers s = .ok ↔
      (∃ i : Lan, dnsSource s.dnsLan s.defaultLan = i.val + 1 ∧ (s.lan i).mode = 1) ∧
        ∀ i, EmptyOrQuad (s.dns i) := by
  have hdns := validateDns_automatic (s := s.read) hauto
  have hmode : ∀ i, (s.read.lan i).mode = .dhcpClient ↔ (s.lan i).mode = 1 := fun i => by
    simp [SettingsArrays.read]
  have hsource : dnsSource s.dnsLan s.defaultLan ≤ 2 := by
    unfold dnsSource
    split
    · exact hlan
    · exact hdefault
  rw [hmode, Bool.and_eq_true] at hdns
  simp only [SettingsArrays.read, ← emptyOrQuad_iff] at hdns
  generalize dnsSource s.dnsLan s.defaultLan = source at hsource hdns ⊢
  unfold validateServers
  constructor
  · intro h
    split at h
    · cases h
    · obtain ⟨hdormant, hnumber, hleases⟩ := hdns.mp h
      refine ⟨⟨lanOfNumber source, ?_, hleases⟩, fun i => ?_⟩
      · have hcases : source = 1 ∨ source = 2 := by omega
        rcases hcases with rfl | rfl <;> rfl
      · rcases lan_cases i with rfl | rfl
        · exact hdormant.1
        · exact hdormant.2
  · intro ⟨⟨i, hi, hleases⟩, hservers⟩
    have hnumber : lanOfNumber source = i := by
      rw [hi]
      rcases lan_cases i with rfl | rfl <;> rfl
    rw [if_neg]
    · refine hdns.mpr ⟨⟨hservers 0, hservers 1⟩, ?_, ?_⟩
      · rw [hi]
        exact Nat.succ_ne_zero _
      · rw [hnumber]
        exact hleases
    · simp [terminated_of_emptyOrQuad (hservers 0), terminated_of_emptyOrQuad (hservers 1)]

/-- A server that is given by hand. -/
def server (t : CText) : Bool :=
  match optionalAddress t with
  | none => false
  | some a => a = 0 || unicast a

theorem server_iff {t : CText} :
    server t = true ↔ t = [] ∨ ∃ a, ipv4Parse t = some a ∧ a ≠ 0 ∧ Unicast a := by
  unfold server optionalAddress
  by_cases hnone : t = []
  · simp [hnone]
  · simp only [hnone, if_false, false_or]
    cases hparse : ipv4Parse t with
    | none => simp
    | some a =>
      by_cases hzero : a = 0
      · simp [hzero]
      · simp only [ne_eq, hzero, not_false_eq_true, if_true, decide_false, Bool.false_or, unicast_iff]
        constructor
        · intro h
          exact ⟨a, rfl, hzero, h⟩
        · intro ⟨b, hb, _, h⟩
          exact Option.some.inj hb ▸ h

theorem validateServers_manual (hmanual : s.automaticDns = 0) :
    validateServers s = .ok ↔ ∀ i, HoldsText (s.dns i) [] ∨ ∃ a, Quad (s.dns i) a ∧ a ≠ 0 ∧ Unicast a := by
  have hserver : ∀ i, server (arrayText (s.dns i)) = true ↔
      HoldsText (s.dns i) [] ∨ ∃ a, Quad (s.dns i) a ∧ a ≠ 0 ∧ Unicast a := fun i => by
    rw [server_iff, empty_iff]
    simp only [quad_iff]
  have hvalidate : validateServers s =
      if server (arrayText (s.dns 0)) && server (arrayText (s.dns 1)) then .ok else .dns := by
    unfold validateServers validateDns
    rw [if_neg (by simp [hmanual]), if_neg (by simp [SettingsArrays.read, hmanual])]
    rfl
  rw [hvalidate]
  constructor
  · intro h i
    split at h
    · rename_i hboth
      rw [Bool.and_eq_true] at hboth
      rcases lan_cases i with rfl | rfl
      · exact (hserver 0).mp hboth.1
      · exact (hserver 1).mp hboth.2
    · cases h
  · intro h
    rw [if_pos]
    rw [Bool.and_eq_true]
    exact ⟨(hserver 0).mpr (h 0), (hserver 1).mpr (h 1)⟩

/-- **Validation is the plan.** The settings pass exactly when they are a plan of addresses. -/
theorem validate_iff_plan (s : SettingsArrays) :
    (gatewayNetworkSettingsValidate s).1 = .ok ↔ AddressPlan s := by
  unfold gatewayNetworkSettingsValidate
  constructor
  · intro h
    -- the checks of the source in their order: bounds, each LAN, the pair, the servers
    split at h
    · cases h
    · rename_i hbounds
      simp only [not_or, not_and, not_lt, ne_eq, not_not] at hbounds
      obtain ⟨hdefault, hauto, hlan, hmanual⟩ := hbounds
      split at h
      · rename_i e herror
        exact absurd h (validateArrays_error herror)
      rename_i a₀ m₀ hfirst
      split at h
      · rename_i e herror
        exact absurd h (validateArrays_error herror)
      rename_i a₁ m₁ hsecond
      split at h
      · cases h
      · rename_i hapart
        have hservers : validateServers s = .ok := h
        have hmode : ∀ i, (s.lan i).mode = 0 ∨ (s.lan i).mode = 1 := by
          intro i
          rcases lan_cases i with rfl | rfl
          · exact mode_of_validateArrays hfirst
          · exact mode_of_validateArrays hsecond
        refine ⟨hmode, hdefault, hauto, ⟨hlan, fun hgiven => ?_⟩, ?_, ?_, ?_, ?_, ?_⟩
        · by_contra hother
          exact hgiven (hmanual (by omega))
        · intro i hstatic
          rcases lan_cases i with rfl | rfl
          · obtain ⟨k, -, hplan⟩ := (lan_of_validateArrays hfirst).1 hstatic
            exact ⟨_, k, hplan⟩
          · obtain ⟨k, -, hplan⟩ := (lan_of_validateArrays hsecond).1 hstatic
            exact ⟨_, k, hplan⟩
        · intro i hleases
          rcases lan_cases i with rfl | rfl
          · exact (lan_of_validateArrays hfirst).2 hleases
          · exact (lan_of_validateArrays hsecond).2 hleases
        · intro hstatic₀ hstatic₁ a m b n ha hm hb hn
          obtain ⟨k₀, hk₀, hplan₀⟩ := (lan_of_validateArrays hfirst).1 hstatic₀
          obtain ⟨k₁, hk₁, hplan₁⟩ := (lan_of_validateArrays hsecond).1 hstatic₁
          rw [quad_unique ha hplan₀.address, quad_unique hm hplan₀.netmask,
            quad_unique hb hplan₁.address, quad_unique hn hplan₁.netmask, ← hk₀, ← hk₁]
          exact disjoint_subnet.mpr fun hsame => hapart ⟨hstatic₀, hstatic₁, hsame⟩
        · exact fun hone => (validateServers_automatic hone hdefault hlan).mp hservers
        · exact fun hzero => (validateServers_manual hzero).mp hservers
  · intro hplan
    -- each LAN passes its own checks first; then the pair and the servers
    have hlans : ∀ i, ∃ r, validateArrays s i = .ok r := by
      intro i
      rcases hplan.mode i with hstatic | hleases
      · obtain ⟨a, k, hstaticPlan⟩ := hplan.static i hstatic
        exact ⟨_, (validateArrays_static hstatic).mpr ⟨k, rfl, hstaticPlan⟩⟩
      · exact ⟨_, (validateArrays_dhcp hleases).mpr ⟨hplan.dormant i hleases, rfl⟩⟩
    obtain ⟨⟨a₀, m₀⟩, hfirst⟩ := hlans 0
    obtain ⟨⟨a₁, m₁⟩, hsecond⟩ := hlans 1
    have hauto := hplan.automaticDns
    have hlan := hplan.dnsLan.2
    rw [if_neg]
    · simp only [hfirst, hsecond]
      rw [if_neg]
      · rcases Nat.le_one_iff_eq_zero_or_eq_one.mp hplan.automaticDns with hzero | hone
        · exact (validateServers_manual hzero).mpr (hplan.manual hzero)
        · exact (validateServers_automatic hone hplan.defaultLan hplan.dnsLan.1).mpr (hplan.automatic hone)
      · intro ⟨hstatic₀, hstatic₁, hsame⟩
        obtain ⟨k₀, hk₀, hplan₀⟩ := (validateArrays_static hstatic₀).mp hfirst
        obtain ⟨k₁, hk₁, hplan₁⟩ := (validateArrays_static hstatic₁).mp hsecond
        have hapart := hplan.apart hstatic₀ hstatic₁ _ _ _ _ hplan₀.address hplan₀.netmask
          hplan₁.address hplan₁.netmask
        rw [← hk₀, ← hk₁] at hapart
        exact disjoint_subnet.mp hapart hsame
    · have hdefault := hplan.defaultLan
      have hbound := hplan.dnsLan.1
      omega

end FourVrs.Network
