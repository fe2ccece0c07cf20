import FourVrs.App.Exclusion
import FourVrs.Config.RoundTrip

/-!
# Bind addresses in the file

The file keeps a port's address as it was when the profile of the network was made, and the
address its interface has now is put in its place at start-up. `networkMap` goes both ways, and
which interface an address follows is read off the address it replaces.

Two configurations are compared as their strings: a copy that is shorter than what stood there
leaves the end of it behind its terminator.
-/

set_option autoImplicit false

namespace FourVrs.App

open FourVrs.Core Config Gateway Network

variable {ω σ κ : Type} {device : σ → σ → Prop}

/-! ## The interface an address follows -/

/-- The interface that a profile has a port follow, the migrated first profiles included. -/
def profileAffinity (p : NetworkProfile) (index : Fin gatewayPortCount) : Nat :=
  if p.affinity index = 0 ∧ p.originalBind index = (p.settings.lan 0).address then 1
  else p.affinity index

/-- A profile whose texts end at their terminators, and that has no port with the address of all
    interfaces follow one. -/
structure BindProfile (p : NetworkProfile) : Prop where
  terminated : ∀ i, 0 ∉ p.originalBind i
  named : ∀ i, profileAffinity p i ≠ 0 → p.originalBind i ≠ anyAddress.bytes

section Affinity

variable {p : NetworkProfile} {port other : GatewayPortConfig} {index : Fin gatewayPortCount}

/-- Only the policy and the address of a port count. -/
theorem bindAffinity_congr (hpolicy : port.bindPolicy = other.bindPolicy)
    (haddress : port.bindAddress = other.bindAddress) :
    bindAffinity p port index = bindAffinity p other index := by
  unfold bindAffinity
  rw [hpolicy, haddress]

/-- A port without a policy follows what the profile has it follow, unless its address is its own. -/
theorem bindAffinity_profile (hpolicy : port.bindPolicy = 0) (hany : port.bindAddress ≠ anyAddress) :
    bindAffinity p port index =
      if profileAffinity p index ≠ 0 ∧
          ((p.settings.lan (lanOfNumber (profileAffinity p index))).mode = .dhcpClient ∨
            port.bindAddress.bytes = p.originalBind index ∨
            port.bindAddress.bytes =
              (p.settings.lan (lanOfNumber (profileAffinity p index))).address) then
        profileAffinity p index
      else 0 := by
  unfold bindAffinity
  rw [if_neg (by simp [hpolicy]), if_neg hany]
  rfl

theorem bindAffinity_any (hpolicy : port.bindPolicy = 0) (hany : port.bindAddress = anyAddress) :
    bindAffinity p port index = 0 := by
  unfold bindAffinity
  rw [if_neg (by simp [hpolicy]), if_pos hany]

theorem bindAffinity_followed (hpolicy : port.bindPolicy = 0) (h : bindAffinity p port index ≠ 0) :
    bindAffinity p port index = profileAffinity p index := by
  by_cases hany : port.bindAddress = anyAddress
  · exact absurd (bindAffinity_any hpolicy hany) h
  · rw [bindAffinity_profile hpolicy hany] at h ⊢
    split at h
    · exact if_pos ‹_›
    · exact absurd rfl h

theorem bindAffinity_explicit (hpolicy : port.bindPolicy ≠ 0) (hsame : other.bindPolicy = port.bindPolicy) :
    bindAffinity p other index = bindAffinity p port index := by
  unfold bindAffinity
  rw [if_pos hpolicy, if_pos (hsame ▸ hpolicy), hsame]

/-- The original address follows whatever the profile has its port follow. -/
theorem bindAffinity_original (hpolicy : port.bindPolicy = 0)
    (haddress : port.bindAddress.bytes = p.originalBind index) (hany : port.bindAddress ≠ anyAddress) :
    bindAffinity p port index = profileAffinity p index := by
  rw [bindAffinity_profile hpolicy hany]
  by_cases hlan : profileAffinity p index = 0
  · rw [if_neg (fun h => h.1 hlan), hlan]
  · exact if_pos ⟨hlan, .inr (.inl haddress)⟩

end Affinity

/-! ## One port -/

theorem ofText_bytes_of_terminated {bytes : CText} (h : 0 ∉ bytes) :
    (CString.ofText bytes).bytes = bytes := by
  unfold CString.ofText
  rw [List.takeWhile_eq_self_iff]
  intro b hb
  have hne : b ≠ 0 := fun h0 => h (h0 ▸ hb)
  simpa using hne

section Port

variable {n : NetworkRuntime} {port other : GatewayPortConfig} {index : Fin gatewayPortCount}

variable {address : CText} (reverse : Bool)

theorem mapPort_of_unfollowed (h : bindAffinity n.confirmed port index = 0) :
    mapPort n reverse port index = port := by
  unfold mapPort
  exact if_pos h

/-- Where there is nothing to copy. -/
theorem mapPort_of_none (h : bindingAddress n n.confirmed (bindAffinity n.confirmed port index) = none) :
    mapPort n reverse port index = port := by
  unfold mapPort
  simp only [h]
  exact ite_self _

/-- A port with a policy: only the way forward copies. -/
theorem mapPort_explicit (hpolicy : port.bindPolicy ≠ 0) (hlan : bindAffinity n.confirmed port index ≠ 0)
    (haddress : bindingAddress n n.confirmed (bindAffinity n.confirmed port index) = some address) :
    mapPort n reverse port index = if reverse then port else bindPort port address := by
  unfold mapPort
  simp only [haddress]
  rw [if_neg hlan, if_pos hpolicy]

/-- A port that follows by the profile, forward: the original address is copied over. -/
theorem mapPort_forward (hpolicy : port.bindPolicy = 0) (hlan : bindAffinity n.confirmed port index ≠ 0)
    (haddress : bindingAddress n n.confirmed (bindAffinity n.confirmed port index) = some address) :
    mapPort n false port index =
      if port.bindAddress.bytes = n.confirmed.originalBind index then bindPort port address else port := by
  unfold mapPort
  simp only [haddress]
  rw [if_neg hlan, if_neg (by simp [hpolicy])]
  rfl

/-- And back: the address of the interface is. -/
theorem mapPort_reverse (hpolicy : port.bindPolicy = 0) (hlan : bindAffinity n.confirmed port index ≠ 0)
    (haddress : bindingAddress n n.confirmed (bindAffinity n.confirmed port index) = some address) :
    mapPort n true port index =
      if port.bindAddress.bytes = address then bindPort port (n.confirmed.originalBind index) else port := by
  unfold mapPort
  simp only [haddress]
  rw [if_neg hlan, if_neg (by simp [hpolicy])]
  rfl

/-- A port is left as it is, or its address is copied over. -/
theorem mapPort_cases (n : NetworkRuntime) (reverse : Bool) (port : GatewayPortConfig)
    (index : Fin gatewayPortCount) :
    mapPort n reverse port index = port ∨
      bindAffinity n.confirmed port index ≠ 0 ∧
        ∃ address, mapPort n reverse port index = bindPort port address := by
  by_cases hlan : bindAffinity n.confirmed port index = 0
  · exact .inl (mapPort_of_unfollowed reverse hlan)
  · cases haddress : bindingAddress n n.confirmed (bindAffinity n.confirmed port index) with
    | none => exact .inl (mapPort_of_none reverse haddress)
    | some address =>
      by_cases hpolicy : port.bindPolicy = 0
      · cases reverse with
        | false =>
          rw [mapPort_forward hpolicy hlan haddress]
          exact (ite_eq_or_eq _ _ _).symm.imp_right fun h => ⟨hlan, _, h⟩
        | true =>
          rw [mapPort_reverse hpolicy hlan haddress]
          exact (ite_eq_or_eq _ _ _).symm.imp_right fun h => ⟨hlan, _, h⟩
      · rw [mapPort_explicit reverse hpolicy hlan haddress]
        cases reverse with
        | false => exact .inr ⟨hlan, _, rfl⟩
        | true => exact .inl rfl

/-- Nothing of a port but its address changes. -/
theorem mapPort_eq_bindTo (n : NetworkRuntime) (reverse : Bool) (port : GatewayPortConfig)
    (index : Fin gatewayPortCount) :
    mapPort n reverse port index = port.bindTo (mapPort n reverse port index).bindAddress := by
  rcases mapPort_cases n reverse port index with hsame | ⟨_, address, hbound⟩
  · rw [hsame]
    exact (bindTo_self port).symm
  · rw [hbound]
    rfl

/-- Where a port with these strings goes depends on nothing else of it. -/
theorem mapPort_congr (hpolicy : port.bindPolicy = other.bindPolicy)
    (haddress : port.bindAddress = other.bindAddress) :
    (mapPort n reverse port index).bindAddress = (mapPort n reverse other index).bindAddress := by
  have haffinity : bindAffinity n.confirmed port index = bindAffinity n.confirmed other index :=
    bindAffinity_congr hpolicy haddress
  by_cases hlan : bindAffinity n.confirmed other index = 0
  · rw [mapPort_of_unfollowed reverse hlan, mapPort_of_unfollowed reverse (haffinity.trans hlan), haddress]
  · have hlan' : bindAffinity n.confirmed port index ≠ 0 := haffinity ▸ hlan
    cases hfrom : bindingAddress n n.confirmed (bindAffinity n.confirmed other index) with
    | none =>
      rw [mapPort_of_none reverse hfrom, mapPort_of_none reverse (haffinity ▸ hfrom), haddress]
    | some address =>
      by_cases hzero : port.bindPolicy = 0
      · have hzero' : other.bindPolicy = 0 := hpolicy ▸ hzero
        cases reverse with
        | false =>
          rw [mapPort_forward hzero hlan' (haffinity ▸ hfrom), mapPort_forward hzero' hlan hfrom, haddress]
          split
          · rfl
          · exact haddress
        | true =>
          rw [mapPort_reverse hzero hlan' (haffinity ▸ hfrom), mapPort_reverse hzero' hlan hfrom, haddress]
          split
          · rfl
          · exact haddress
      · rw [mapPort_explicit reverse hzero hlan' (haffinity ▸ hfrom),
          mapPort_explicit reverse (hpolicy ▸ hzero) hlan hfrom]
        cases reverse with
        | false => rfl
        | true => exact haddress

/-! ## There and back -/

/-- Forward from the original address: the one it was taken for comes back. -/
theorem forward_original (h : BindProfile n.confirmed) (hpolicy : port.bindPolicy = 0)
    (hlan : bindAffinity n.confirmed port index ≠ 0)
    (haddress : bindingAddress n n.confirmed (bindAffinity n.confirmed port index) = some address)
    (hbytes : port.bindAddress.bytes = address) :
    (mapPort n false (bindPort port (n.confirmed.originalBind index)) index).bindAddress =
      (mapPort n false port index).bindAddress := by
  have hfollowed : bindAffinity n.confirmed port index = profileAffinity n.confirmed index :=
    bindAffinity_followed hpolicy hlan
  have horiginal : (bindPort port (n.confirmed.originalBind index)).bindAddress.bytes =
      n.confirmed.originalBind index := ofText_bytes_of_terminated (h.terminated index)
  have hany : (bindPort port (n.confirmed.originalBind index)).bindAddress ≠ anyAddress := by
    intro heq
    refine h.named index (hfollowed ▸ hlan) ?_
    rw [← horiginal, heq]
  have hkeep : bindAffinity n.confirmed (bindPort port (n.confirmed.originalBind index)) index =
      bindAffinity n.confirmed port index := by
    rw [hfollowed]
    exact bindAffinity_original hpolicy horiginal hany
  have hown : CString.ofText address = port.bindAddress := by
    rw [← hbytes]
    exact ofText_bytes port.bindAddress
  have hforward := @mapPort_forward n (bindPort port (n.confirmed.originalBind index)) index address hpolicy
    (hkeep ▸ hlan) (hkeep ▸ haddress)
  rw [hforward, if_pos horiginal, mapPort_forward hpolicy hlan haddress]
  split
  · rfl
  · exact hown

/-- The address that the way forward has put there stays. -/
theorem forward_forward (n : NetworkRuntime) (port : GatewayPortConfig) (index : Fin gatewayPortCount) :
    (mapPort n false (mapPort n false port index) index).bindAddress =
      (mapPort n false port index).bindAddress := by
  rcases mapPort_cases n false port index with hsame | ⟨hlan, _, _⟩
  · rw [hsame, hsame]
  · cases haddress : bindingAddress n n.confirmed (bindAffinity n.confirmed port index) with
    | none => rw [mapPort_of_none false haddress, mapPort_of_none false haddress]
    | some address =>
      by_cases hpolicy : port.bindPolicy = 0
      · rw [mapPort_forward hpolicy hlan haddress]
        split
        · -- The second time the port follows the same interface, or none any more.
          by_cases hlan' : bindAffinity n.confirmed (bindPort port address) index = 0
          · rw [mapPort_of_unfollowed false hlan']
          · have hkeep : bindAffinity n.confirmed (bindPort port address) index =
                bindAffinity n.confirmed port index :=
              (@bindAffinity_followed _ (bindPort port address) index hpolicy hlan').trans
                (bindAffinity_followed hpolicy hlan).symm
            rw [@mapPort_forward n (bindPort port address) index address hpolicy hlan' (hkeep ▸ haddress)]
            split <;> rfl
        · rw [mapPort_forward hpolicy hlan haddress, if_neg ‹_›]
      · have hkeep : bindAffinity n.confirmed (bindPort port address) index =
            bindAffinity n.confirmed port index := bindAffinity_explicit hpolicy rfl
        rw [mapPort_explicit false hpolicy hlan haddress]
        simp only [Bool.false_eq_true, if_false]
        rw [@mapPort_explicit n (bindPort port address) index address false hpolicy (hkeep ▸ hlan)
          (hkeep ▸ haddress)]
        rfl

/-- What the way back changes, the way forward brings back. -/
theorem forward_reverse (h : BindProfile n.confirmed) (port : GatewayPortConfig)
    (index : Fin gatewayPortCount) :
    (mapPort n false (mapPort n true port index) index).bindAddress =
      (mapPort n false port index).bindAddress := by
  rcases mapPort_cases n true port index with hsame | ⟨hlan, _, _⟩
  · rw [hsame]
  · cases haddress : bindingAddress n n.confirmed (bindAffinity n.confirmed port index) with
    | none => rw [mapPort_of_none true haddress]
    | some address =>
      by_cases hpolicy : port.bindPolicy = 0
      · rw [mapPort_reverse hpolicy hlan haddress]
        split
        · exact forward_original h hpolicy hlan haddress ‹_›
        · rfl
      · rw [mapPort_explicit true hpolicy hlan haddress]
        rfl

end Port

/-! ## Whole configurations -/

theorem networkMap_ports {n : NetworkRuntime} (h : n.available = true) (c : GatewayPersistentConfig)
    (reverse : Bool) (i : Fin gatewayPortCount) :
    (networkMap n c reverse).ports i = mapPort n reverse (c.ports i) i := by
  unfold networkMap
  rw [if_pos h]

theorem networkMap_unavailable {n : NetworkRuntime} (h : n.available = false) (c : GatewayPersistentConfig)
    (reverse : Bool) : networkMap n c reverse = c := by
  unfold networkMap
  rw [if_neg (by simp [h])]

theorem networkMap_schemaVersion (n : NetworkRuntime) (c : GatewayPersistentConfig) (reverse : Bool) :
    (networkMap n c reverse).schemaVersion = c.schemaVersion := by
  unfold networkMap
  split <;> rfl

theorem networkMap_settings (n : NetworkRuntime) (c : GatewayPersistentConfig) (reverse : Bool) :
    (networkMap n c reverse).settings = c.settings := by
  unfold networkMap
  split <;> rfl

/-- A mapping changes the addresses of the ports, and no more of them. -/
theorem networkMap_bindTo (n : NetworkRuntime) (c : GatewayPersistentConfig) (reverse : Bool)
    (i : Fin gatewayPortCount) :
    (networkMap n c reverse).ports i = (c.ports i).bindTo ((networkMap n c reverse).ports i).bindAddress := by
  cases h : n.available with
  | false =>
    rw [networkMap_unavailable h]
    exact (bindTo_self _).symm
  | true =>
    rw [networkMap_ports h]
    exact mapPort_eq_bindTo n reverse (c.ports i) i

/-- Mappings with the same addresses, of configurations with the same contents, show the same. -/
theorem contents_networkMap {n : NetworkRuntime} {c d : GatewayPersistentConfig} {reverse back : Bool}
    (hsame : c.contents = d.contents)
    (haddress : ∀ i, ((networkMap n c reverse).ports i).bindAddress =
      ((networkMap n d back).ports i).bindAddress) :
    (networkMap n c reverse).contents = (networkMap n d back).contents := by
  have hschema := congrArg GatewayPersistentConfig.schemaVersion hsame
  have hsettings := congrArg GatewayPersistentConfig.settings hsame
  unfold GatewayPersistentConfig.contents at hschema hsettings ⊢
  simp only [networkMap_schemaVersion, networkMap_settings] at hschema hsettings ⊢
  rw [hschema, hsettings]
  congr 1
  funext i
  have hport := congrArg (fun c : GatewayPersistentConfig => c.ports i) hsame
  unfold GatewayPersistentConfig.contents at hport
  rw [networkMap_bindTo n c, networkMap_bindTo n d, haddress i]
  simp only [GatewayPortConfig.bindTo] at hport ⊢
  injection hport
  simp only [*]

/-- What the gateway shows after a start depends on what the file shows. -/
theorem forward_congr {n : NetworkRuntime} {c d : GatewayPersistentConfig} (hsame : c.contents = d.contents) :
    (networkMap n c false).contents = (networkMap n d false).contents := by
  refine contents_networkMap hsame fun i => ?_
  have hport := congrArg (fun c : GatewayPersistentConfig => c.ports i) hsame
  have hpolicy : (c.ports i).bindPolicy = (d.ports i).bindPolicy := by
    simpa [GatewayPersistentConfig.contents] using congrArg GatewayPortConfig.bindPolicy hport
  have haddress : (c.ports i).bindAddress = (d.ports i).bindAddress := by
    simpa [GatewayPersistentConfig.contents] using congrArg GatewayPortConfig.bindAddress hport
  cases h : n.available with
  | false => simpa only [networkMap_unavailable h] using haddress
  | true =>
    rw [networkMap_ports h, networkMap_ports h]
    exact mapPort_congr false hpolicy haddress

theorem contents_of_bindAddress {n : NetworkRuntime} {c : GatewayPersistentConfig} {reverse : Bool}
    (haddress : ∀ i, ((networkMap n c reverse).ports i).bindAddress = (c.ports i).bindAddress) :
    (networkMap n c reverse).contents = c.contents := by
  unfold GatewayPersistentConfig.contents
  rw [networkMap_schemaVersion, networkMap_settings]
  congr 1
  funext i
  rw [networkMap_bindTo, haddress i]
  rfl

theorem contents_forward_forward (n : NetworkRuntime) (c : GatewayPersistentConfig) :
    (networkMap n (networkMap n c false) false).contents = (networkMap n c false).contents := by
  refine contents_of_bindAddress fun i => ?_
  cases h : n.available with
  | false => simp only [networkMap_unavailable h]
  | true =>
    rw [networkMap_ports h, networkMap_ports h]
    exact forward_forward n (c.ports i) i

/-- A start undoes what saving did. -/
theorem contents_forward_reverse {n : NetworkRuntime} (hp : BindProfile n.confirmed)
    (c : GatewayPersistentConfig) :
    (networkMap n (networkMap n c true) false).contents = (networkMap n c false).contents := by
  cases h : n.available with
  | false => simp only [networkMap_unavailable h]
  | true =>
    have hport : ∀ i, ((networkMap n (networkMap n c true) false).ports i).bindAddress =
        ((networkMap n c false).ports i).bindAddress := by
      intro i
      rw [networkMap_ports h, networkMap_ports h, networkMap_ports h]
      exact forward_reverse hp (c.ports i) i
    unfold GatewayPersistentConfig.contents
    simp only [networkMap_schemaVersion, networkMap_settings]
    congr 1
    funext i
    rw [networkMap_bindTo n _ false, hport i, networkMap_bindTo n c true, networkMap_bindTo n c false]
    rfl

/-! ## Requests -/

/-- What a start puts in place of the address of a port, in this network. -/
def startAddress (n : NetworkRuntime) (port : GatewayPortConfig) (index : Fin gatewayPortCount) : CString :=
  match bindingAddress n n.confirmed (bindAffinity n.confirmed port index) with
  | none => port.bindAddress
  | some address =>
      if bindAffinity n.confirmed port index ≠ 0 ∧
          (port.bindPolicy ≠ 0 ∨ port.bindAddress.bytes = n.confirmed.originalBind index) then
        .ofText address
      else port.bindAddress

theorem mapPort_startAddress (n : NetworkRuntime) (port : GatewayPortConfig) (index : Fin gatewayPortCount) :
    (mapPort n false port index).bindAddress = startAddress n port index := by
  unfold startAddress
  cases haddress : bindingAddress n n.confirmed (bindAffinity n.confirmed port index) with
  | none => rw [mapPort_of_none false haddress]
  | some address =>
    by_cases hlan : bindAffinity n.confirmed port index = 0
    · rw [mapPort_of_unfollowed false hlan]
      exact (if_neg fun h => h.1 hlan).symm
    by_cases hpolicy : port.bindPolicy = 0
    · rw [mapPort_forward hpolicy hlan haddress]
      by_cases hbytes : port.bindAddress.bytes = n.confirmed.originalBind index
      · rw [if_pos hbytes]
        exact (if_pos ⟨hlan, .inr hbytes⟩).symm
      · rw [if_neg hbytes]
        exact (if_neg fun h => h.2.elim (fun h => h hpolicy) hbytes).symm
    · rw [mapPort_explicit false hpolicy hlan haddress]
      exact (if_pos ⟨hlan, .inl hpolicy⟩).symm

/-- A start shows the accepted configuration exactly when every port has the address that a
    start gives it. -/
theorem contents_start_iff (n : NetworkRuntime) (c : GatewayPersistentConfig) :
    (networkMap n c false).contents = c.contents ↔
      n.available = true → ∀ i, startAddress n (c.ports i) i = (c.ports i).bindAddress := by
  constructor
  · intro h hn i
    have hport := congrArg (fun c : GatewayPersistentConfig => (c.ports i).bindAddress) h
    rw [← mapPort_startAddress, ← networkMap_ports hn]
    exact hport
  · intro h
    cases hn : n.available with
    | false => rw [networkMap_unavailable hn]
    | true =>
      refine contents_of_bindAddress fun i => ?_
      rw [networkMap_ports hn, mapPort_startAddress]
      exact h hn i

/-- What an accepted request has staged. -/
theorem staged_of_request (deps : GatewayApplicationDependencies ω σ κ device)
    (a : GatewayApplication ω σ κ device) (config : GatewayPersistentConfig)
    (hzero : (gatewayApplicationRequestConfiguration deps a config).1 = 0)
    (hchanged : (gatewayApplicationRequestConfiguration deps a config).2.transaction.state ≠ .unchanged) :
    (deps.stageConfiguration (networkMap a.network
      (gatewayApplicationRequestConfiguration deps a config).2.transaction.candidate true) a.world).1 =
        .ok := by
  unfold gatewayApplicationRequestConfiguration at hzero hchanged ⊢
  simp only [] at hzero hchanged ⊢
  split
  · rename_i h
    rw [if_pos h] at hzero
    cases hzero
  · rename_i hpossible
    rw [if_neg hpossible] at hzero hchanged
    split
    · rename_i h
      rw [if_pos h] at hzero
      cases hzero
    · rename_i hsettings
      rw [if_neg hsettings] at hzero hchanged
      split
      · rename_i h
        rw [if_pos h] at hzero
        cases hzero
      · rename_i hvalid
        rw [if_neg hvalid] at hzero hchanged
        split
        · rename_i h
          rw [if_pos h] at hzero
          cases hzero
        · rename_i huart
          rw [if_neg huart] at hzero hchanged
          split
          · rename_i h
            rw [if_pos h] at hchanged
            exact absurd rfl hchanged
          · rename_i hne
            rw [if_neg hne] at hzero
            split
            · assumption
            · rename_i hfailed
              rw [if_neg hfailed] at hzero
              cases hzero

/-- What a start in this network makes of a file with the contents that were saved for a
    candidate: the candidate with the addresses that a start gives its ports. -/
structure StartsAgain (n : NetworkRuntime) (candidate : GatewayPersistentConfig) : Prop where
  forward : ∀ loaded : GatewayPersistentConfig,
    loaded.contents = (networkMap n candidate true).contents →
      (networkMap n loaded false).contents = (networkMap n candidate false).contents
  /-- Which is the accepted one exactly when a start leaves its addresses. -/
  accepted : ∀ loaded : GatewayPersistentConfig,
    loaded.contents = (networkMap n candidate true).contents →
      ((networkMap n loaded false).contents = candidate.contents ↔
        (n.available = true → ∀ i, startAddress n (candidate.ports i) i = (candidate.ports i).bindAddress))

theorem startsAgain {n : NetworkRuntime} (hp : BindProfile n.confirmed) (c : GatewayPersistentConfig) :
    StartsAgain n c := by
  have hforward : ∀ loaded : GatewayPersistentConfig, loaded.contents = (networkMap n c true).contents →
      (networkMap n loaded false).contents = (networkMap n c false).contents := fun loaded hloaded =>
    (forward_congr hloaded).trans (contents_forward_reverse hp c)
  refine ⟨hforward, fun loaded hloaded => ?_⟩
  rw [hforward loaded hloaded]
  exact contents_start_iff n c

/-- **Bind addresses survive being saved.** Forward, back and forward again is forward; the way
    back changes the bind addresses of the ports that follow an interface, and nothing else; and
    a gateway that starts from the file of an accepted request, in a network that has not
    changed, has the accepted configuration with the addresses that the network gives its ports. -/
theorem bindAddresses_survive (n : NetworkRuntime) (hp : BindProfile n.confirmed) :
    (∀ c : GatewayPersistentConfig,
      (networkMap n (networkMap n (networkMap n c false) true) false).contents =
        (networkMap n c false).contents) ∧
    (∀ c : GatewayPersistentConfig,
      (networkMap n c true).schemaVersion = c.schemaVersion ∧
        (networkMap n c true).settings = c.settings ∧
        ∀ i, (networkMap n c true).ports i =
            (c.ports i).bindTo ((networkMap n c true).ports i).bindAddress ∧
          (bindAffinity n.confirmed (c.ports i) i = 0 → (networkMap n c true).ports i = c.ports i)) ∧
    (∀ (deps : GatewayApplicationDependencies ω σ κ device) (a : GatewayApplication ω σ κ device)
      (config : GatewayPersistentConfig), a.network = n →
      let result := gatewayApplicationRequestConfiguration deps a config
      result.1 = 0 → result.2.transaction.state ≠ .unchanged →
        (deps.stageConfiguration (networkMap n result.2.transaction.candidate true) a.world).1 = .ok ∧
          StartsAgain n result.2.transaction.candidate) := by
  refine ⟨fun c => ?_, fun c => ?_, ?_⟩
  · calc (networkMap n (networkMap n (networkMap n c false) true) false).contents
        = (networkMap n (networkMap n c false) false).contents := contents_forward_reverse hp _
      _ = (networkMap n c false).contents := contents_forward_forward n c
  · refine ⟨networkMap_schemaVersion n c true, networkMap_settings n c true, fun i => ⟨?_, fun hlan => ?_⟩⟩
    · exact networkMap_bindTo n c true i
    · cases h : n.available with
      | false => rw [networkMap_unavailable h]
      | true =>
        rw [networkMap_ports h]
        exact mapPort_of_unfollowed true hlan
  · intro deps a config hn result hzero hchanged
    subst hn
    -- what is staged is the candidate mapped back, and mapping it forward gives it again
    exact ⟨staged_of_request deps a config hzero hchanged, startsAgain hp _⟩

/-! ## A lease that the ports do not have yet -/

/-- A system whose observer takes as many looks as the script has frames. -/
def leaseDependencies : GatewayApplicationDependencies Script (List Int) (List Int) fun _ _ => False :=
  { scriptedDependencies boundConfig with
    network :=
      { scriptedNetwork with
        reapObserver := fun w => (if w.observer.isEmpty then .exited true else .running, w) } }

/-- The first interface has a lease. -/
def leased : ServiceStatus :=
  { observed := { lan := fun i => if i = 0 then { address := text "10.0.0.5" } else {} }
    leaseValid := fun i => i = 0, leaseExpiry := fun _ => 1000 }

/-- The lease is seen after a while. -/
def leasedApplication (looks : Nat) : GatewayApplication Script (List Int) (List Int) fun _ _ => False :=
  gatewayApplicationInit
    (some ({ service := true, readNetwork := true },
      { settings := { twoNetworks with lan := fun i => { twoNetworks.lan i with mode := .dhcpClient } } }))
    emptyString (scriptedStart [] []) 0
    { observer := List.replicate looks .again ++ [.frame leased] }

/-- The lease is there, and the first port has its old address until its turn comes. -/
def leasedRun : GatewayApplication Script (List Int) (List Int) fun _ _ => False :=
  runApplication leaseDependencies (List.replicate 9 .step) (leasedApplication 7)

/-- The selected configuration with the backlight off. -/
def darkened (a : GatewayApplication Script (List Int) (List Int) fun _ _ => False) :
    GatewayPersistentConfig :=
  { a.coordinator.selected with settings := { a.coordinator.selected.settings with backlightOn := 0 } }

theorem bindProfile_leasedRun : BindProfile leasedRun.network.confirmed := by
  constructor
  · decide +kernel
  · decide +kernel

/-- The backlight goes off, and the file gives the first port what the lease gives it. -/
theorem startsAgain_leasedRun :
    StartsAgain leasedRun.network
      (gatewayApplicationRequestConfiguration leaseDependencies leasedRun
        (darkened leasedRun)).2.transaction.candidate :=
  ((bindAddresses_survive leasedRun.network bindProfile_leasedRun).2.2 leaseDependencies leasedRun
    (darkened leasedRun) rfl (by decide +kernel) (by decide +kernel)).2

/-- **The accepted address that does not come back.** The request is accepted with the address
    that the first port still has, and a start in the same network gives the port another. -/
theorem accepted_address_replaced :
    (gatewayApplicationRequestConfiguration leaseDependencies leasedRun (darkened leasedRun)).1 = 0 ∧
      (gatewayApplicationRequestConfiguration leaseDependencies leasedRun
        (darkened leasedRun)).2.transaction.state = .promoting ∧
      (networkMap leasedRun.network
        (networkMap leasedRun.network
          (gatewayApplicationRequestConfiguration leaseDependencies leasedRun
            (darkened leasedRun)).2.transaction.candidate true) false).contents ≠
        (gatewayApplicationRequestConfiguration leaseDependencies leasedRun
          (darkened leasedRun)).2.transaction.candidate.contents := by
  refine ⟨by decide +kernel, by decide +kernel, fun heq => ?_⟩
  have haddress := congrArg (fun c : GatewayPersistentConfig => (c.ports 0).bindAddress.bytes) heq
  revert haddress
  decide +kernel

end FourVrs.App
