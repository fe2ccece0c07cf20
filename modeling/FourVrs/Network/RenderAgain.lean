import FourVrs.Network.ReadAgain

/-!
# Rendering again

The document that was rendered is read as the settings it was rendered with, as far as a document
shows them, so nothing is left to change, and rendering it again with these settings gives it back.
-/

set_option autoImplicit false

namespace FourVrs.Network

open Config Lib

variable {p : Platform} {s imported : NetworkSettings}

/-! ## What the written document is read as -/

/-- What was read of a document, where no name servers are looked for. -/
def Import.result (st : Import) : NetworkSettings := { st.settings with dns := fun _ => [] }

theorem routeOf_eq {routed : Lan → Bool} {lan : Lan} (h : routeOf routed = lan.val + 1) :
    routed lan = true := by
  unfold routeOf at h
  rcases lan_cases lan with rfl | rfl
  · split at h
    · assumption
    · split at h <;> simp at h
  · split at h
    · simp at h
    · split at h
      · assumption
      · simp at h

theorem routeOf_le (routed : Lan → Bool) : routeOf routed ≤ 2 := by
  unfold routeOf
  split
  · decide
  · split <;> decide

section Final

variable {final : Import}

/-- The default route of a document is where it has a gateway line. -/
theorem defaultLan_iff (h : Reading imported final) (hfinal : final.defaultLan = imported.defaultLan) (lan : Lan) :
    imported.defaultLan = lan.val + 1 ↔ ((final.lans lan).fields .gateway).isSome = true := by
  constructor
  · intro hdefault
    obtain ⟨j, hj⟩ := h.routed (by omega)
    have hother := h.route j hj
    have heq : j = lan := Fin.ext (by omega)
    exact heq ▸ hj
  · intro hsome
    rw [← hfinal]
    exact h.route lan hsome

theorem rewrite_defaultLan_iff (h : Reading imported final) (lan : Lan) :
    (final.rewrite s imported).defaultLan = lan.val + 1 ↔
      (((final.lans lan).rewrite s imported lan).fields .gateway).isSome = true := by
  constructor
  · intro hdefault
    exact @routeOf_eq (fun lan => (((final.lans lan).rewrite s imported lan).fields .gateway).isSome) lan hdefault
  · intro hsome
    show routeOf (fun lan => (((final.lans lan).rewrite s imported lan).fields .gateway).isSome) = lan.val + 1
    refine routeOf_only hsome fun j hj => ?_
    have hlan := route_of_rewrite (s := s) h hsome
    have hother := route_of_rewrite (s := s) h hj
    exact Fin.ext (by omega)

/-- What is read of one interface of the written document. -/
structure WrittenLan (s imported : NetworkSettings) (t : NetworkSettings) (lan : Lan) : Prop where
  mode : (t.lan lan).mode = (s.lan lan).mode
  static : (s.lan lan).mode = .static →
    (t.lan lan).address = (s.lan lan).address ∧ (t.lan lan).netmask = (s.lan lan).netmask ∧
      (t.defaultLan = lan.val + 1 ↔ s.defaultLan = lan.val + 1) ∧
      (t.lan lan).gateway = if s.defaultLan = lan.val + 1 then (s.lan lan).gateway else []
  /-- Of a DHCP client nothing is written, and what was there stays or goes. -/
  kept : addressesChanged s imported lan = false →
    (t.lan lan).address = (imported.lan lan).address ∧ (t.lan lan).netmask = (imported.lan lan).netmask
  gone : addressesChanged s imported lan = true → (s.lan lan).mode = .dhcpClient →
    (t.lan lan).address = [] ∧ (t.lan lan).netmask = []
  routeKept : addressesChanged s imported lan = false → routeChanged s imported lan = false →
    (t.lan lan).gateway = (imported.lan lan).gateway ∧
      (t.defaultLan = lan.val + 1 ↔ imported.defaultLan = lan.val + 1)
  routeGone : addressesChanged s imported lan = true ∨ routeChanged s imported lan = true →
    (s.lan lan).mode = .dhcpClient → (t.lan lan).gateway = []

theorem unchanged_mode {lan : Lan} (h : addressesChanged s imported lan = false) :
    (s.lan lan).mode = (imported.lan lan).mode ∧ (s.lan lan).address = (imported.lan lan).address ∧
      (s.lan lan).netmask = (imported.lan lan).netmask := by
  simpa [addressesChanged, and_assoc] using h

theorem unchanged_route {lan : Lan} (h : routeChanged s imported lan = false) :
    (s.defaultLan = lan.val + 1 ↔ imported.defaultLan = lan.val + 1) ∧
      (s.defaultLan = lan.val + 1 → (s.lan lan).gateway = (imported.lan lan).gateway) := by
  simp only [routeChanged, Bool.or_eq_false_iff, bne_eq_false_iff_eq, decide_eq_decide,
    Bool.and_eq_false_iff, decide_eq_false_iff_not, Decidable.not_not] at h
  exact ⟨h.1, fun hdefault => h.2.resolve_left (· hdefault)⟩

theorem writtenLan (h : Reading imported final) (hfinal : final.defaultLan = imported.defaultLan)
    (hlans : ∀ lan, (final.lans lan).settings = imported.lan lan) (hseen : ∀ lan, (final.lans lan).seen = true)
    (lan : Lan) : WrittenLan s imported (final.rewrite s imported).result lan := by
  have hdefault := rewrite_defaultLan_iff (s := s) h lan
  have himported := defaultLan_iff h hfinal lan
  have hown := hlans lan
  have hx : (final.lans lan).rewrite s imported lan =
      { seen := true
        mode := if addressesChanged s imported lan then (s.lan lan).mode else (final.lans lan).mode
        fields := fun field =>
          if addressesChanged s imported lan then stanzaFields s lan field
          else if field = .gateway ∧ routeChanged s imported lan then gatewayField s lan
          else (final.lans lan).fields field
        dns := (final.lans lan).dns.bind fun _ =>
          if s.automaticDns ≠ 0 ∨ s.dns 0 = [] then none else some s.dns } := by
    unfold ImportedLan.rewrite
    rw [if_pos (hseen lan)]
  have ht : (final.rewrite s imported).result.lan lan = ((final.lans lan).rewrite s imported lan).settings := rfl
  have htd : (final.rewrite s imported).result.defaultLan = (final.rewrite s imported).defaultLan := rfl
  -- Whether there is a gateway line, and which.
  have hgateway : addressesChanged s imported lan = true ∨ routeChanged s imported lan = true →
      ((final.lans lan).rewrite s imported lan).fields .gateway = gatewayField s lan := by
    intro hchanged
    rw [hx]
    by_cases haddresses : addressesChanged s imported lan = true
    · simp [haddresses, stanzaFields]
    · simp [haddresses, hchanged.resolve_left haddresses]
  have hsome : (s.lan lan).mode = .static →
      ((gatewayField s lan).isSome = true ↔ s.defaultLan = lan.val + 1) ∧
        (gatewayField s lan).getD [] = if s.defaultLan = lan.val + 1 then (s.lan lan).gateway else [] := by
    intro hstatic
    unfold gatewayField
    by_cases hroute : s.defaultLan = lan.val + 1 <;> simp [hroute, hstatic]
  have hkept : addressesChanged s imported lan = false → routeChanged s imported lan = false →
      ((final.lans lan).rewrite s imported lan).fields .gateway = (final.lans lan).fields .gateway := by
    intro haddresses hroute
    rw [hx]
    simp [haddresses, hroute]
  have haddress : addressesChanged s imported lan = false →
      ((final.rewrite s imported).result.lan lan).address = (imported.lan lan).address ∧
        ((final.rewrite s imported).result.lan lan).netmask = (imported.lan lan).netmask := by
    intro haddresses
    rw [ht, hx, ← hown]
    simp [ImportedLan.settings, haddresses]
  have hroute : addressesChanged s imported lan = false → routeChanged s imported lan = false →
      ((final.rewrite s imported).result.lan lan).gateway = (imported.lan lan).gateway ∧
        ((final.rewrite s imported).result.defaultLan = lan.val + 1 ↔ imported.defaultLan = lan.val + 1) := by
    intro haddresses hsame
    have hfield := hkept haddresses hsame
    refine ⟨?_, ?_⟩
    · rw [ht, ← hown]
      simp [ImportedLan.settings, hfield]
    · rw [htd, hdefault, hfield, himported]
  refine ⟨?_, fun hstatic => ⟨?_, ?_, ?_, ?_⟩, haddress, fun haddresses hdhcp => ?_, hroute,
    fun hchanged hdhcp => ?_⟩
  · rw [ht, hx]
    by_cases haddresses : addressesChanged s imported lan = true
    · simp [ImportedLan.settings, haddresses]
    · have hmode := (unchanged_mode (by simpa using haddresses)).1
      rw [hmode, ← hown]
      simp [ImportedLan.settings, haddresses]
  · by_cases haddresses : addressesChanged s imported lan = true
    · rw [ht, hx]
      simp [ImportedLan.settings, haddresses, stanzaFields, hstatic]
    · have haddresses : addressesChanged s imported lan = false := by simpa using haddresses
      exact (haddress haddresses).1.trans (unchanged_mode haddresses).2.1.symm
  · by_cases haddresses : addressesChanged s imported lan = true
    · rw [ht, hx]
      simp [ImportedLan.settings, haddresses, stanzaFields, hstatic]
    · have haddresses : addressesChanged s imported lan = false := by simpa using haddresses
      exact (haddress haddresses).2.trans (unchanged_mode haddresses).2.2.symm
  · by_cases hchanged : addressesChanged s imported lan = true ∨ routeChanged s imported lan = true
    · rw [htd, hdefault, hgateway hchanged]
      exact (hsome hstatic).1
    · simp only [not_or, Bool.not_eq_true] at hchanged
      exact (hroute hchanged.1 hchanged.2).2.trans (unchanged_route hchanged.2).1.symm
  · by_cases hchanged : addressesChanged s imported lan = true ∨ routeChanged s imported lan = true
    · rw [ht, ← (hsome hstatic).2, ← hgateway hchanged]
      rfl
    · simp only [not_or, Bool.not_eq_true] at hchanged
      rw [(hroute hchanged.1 hchanged.2).1]
      split
      · rename_i hs
        exact ((unchanged_route hchanged.2).2 hs).symm
      · rename_i hs
        have hno : (final.lans lan).fields .gateway = none := by
          rw [(unchanged_route hchanged.2).1, himported] at hs
          simpa using hs
        rw [← hown]
        simp [ImportedLan.settings, hno]
  · rw [ht, hx]
    simp [ImportedLan.settings, haddresses, stanzaFields, hdhcp]
  · rw [ht]
    show (((final.lans lan).rewrite s imported lan).fields .gateway).getD [] = []
    rw [hgateway hchanged]
    simp [gatewayField, hdhcp]

end Final

/-! ## It is valid -/

variable {t : NetworkSettings}

/-- A static interface without a router of its own is as valid as one with the default route. -/
theorem validateLan_of_static {i : Lan} {r : BitVec 32 × BitVec 32} (hmode : (s.lan i).mode = .static)
    (hmode' : (t.lan i).mode = .static) (haddress : (t.lan i).address = (s.lan i).address)
    (hnetmask : (t.lan i).netmask = (s.lan i).netmask)
    (hdefault : t.defaultLan = i.val + 1 ↔ s.defaultLan = i.val + 1)
    (hgateway : (t.lan i).gateway = if s.defaultLan = i.val + 1 then (s.lan i).gateway else [])
    (h : validateLan s i = .ok r) : validateLan t i = .ok r := by
  unfold validateLan at h ⊢
  simp only [hmode, hmode', haddress, hnetmask, hgateway, hdefault] at h ⊢
  by_cases hroute : s.defaultLan = i.val + 1
  · simpa only [if_pos hroute] using h
  · simp only [hroute, false_and, if_false, optionalAddress, if_true] at h ⊢
    repeat' split at h
    all_goals cases h
    all_goals simp_all

theorem dormant_of_dhcp {i : Lan} {r : BitVec 32 × BitVec 32} (hmode : (t.lan i).mode = .dhcpClient) :
    validateLan t i = .ok r ↔
      dormant (t.lan i).address = true ∧ dormant (t.lan i).netmask = true ∧
        dormant (t.lan i).gateway = true ∧ r = (0, 0) := by
  unfold validateLan
  simp only [hmode]
  split
  · rename_i hdormant
    simp only [Bool.and_eq_true] at hdormant
    simp [hdormant, eq_comm]
  · rename_i hdormant
    simp only [Bool.and_eq_true] at hdormant
    refine iff_of_false (by simp) fun h => hdormant ⟨⟨h.1, h.2.1⟩, h.2.2.1⟩

theorem validateLan_written {lan : Lan} {r r' : BitVec 32 × BitVec 32} (h : WrittenLan s imported t lan)
    (hs : validateLan s lan = .ok r) (himported : validateLan imported lan = .ok r') :
    validateLan t lan = .ok r := by
  cases hmode : (s.lan lan).mode with
  | static =>
    obtain ⟨haddress, hnetmask, hdefault, hgateway⟩ := h.static hmode
    exact validateLan_of_static hmode (h.mode.trans hmode) haddress hnetmask hdefault hgateway hs
  | dhcpClient =>
    have hempty : dormant [] = true := rfl
    have hr := ((dormant_of_dhcp hmode).mp hs).2.2.2
    refine (dormant_of_dhcp (h.mode.trans hmode)).mpr ?_
    by_cases haddresses : addressesChanged s imported lan = true
    · obtain ⟨haddress, hnetmask⟩ := h.gone haddresses hmode
      rw [haddress, hnetmask, h.routeGone (.inl haddresses) hmode]
      exact ⟨hempty, hempty, hempty, hr⟩
    · have haddresses : addressesChanged s imported lan = false := by simpa using haddresses
      obtain ⟨haddress, hnetmask⟩ := h.kept haddresses
      have hdormant := (dormant_of_dhcp ((unchanged_mode haddresses).1.symm.trans hmode)).mp himported
      rw [haddress, hnetmask]
      refine ⟨hdormant.1, hdormant.2.1, ?_, hr⟩
      by_cases hroute : routeChanged s imported lan = true
      · rw [h.routeGone (.inr hroute) hmode]
        exact hempty
      · rw [(h.routeKept haddresses (by simpa using hroute)).1]
        exact hdormant.2.2.1

theorem validate_written (hs : settingsValidate s = .ok) (himported : settingsValidate imported = .ok)
    (hlans : ∀ lan, WrittenLan s imported t lan) (hroute : t.defaultLan ≤ 2) (hmanual : t.automaticDns = 0)
    (hsource : t.dnsLan = 0) (hdns : t.dns = fun _ => []) : settingsValidate t = .ok := by
  obtain ⟨r₀, r₁, h₀, h₁, hapart⟩ := validate_lans hs
  obtain ⟨i₀, i₁, hi₀, hi₁, -⟩ := validate_lans himported
  unfold settingsValidate
  rw [if_neg (by simp only [hmanual, hsource]; omega), validateLan_written (hlans 0) h₀ hi₀]
  simp only [validateLan_written (hlans 1) h₁ hi₁, (hlans 0).mode, (hlans 1).mode]
  rw [if_neg fun hboth => hapart hboth.1 hboth.2.1 hboth.2.2]
  unfold validateDns
  rw [if_neg (by simp [hmanual]), hdns]
  rfl

/-- A network line of what is written states the network of the address. -/
theorem networkAgrees_rewrite (hs : Writes s) {x : ImportedLan} {lan : Lan} (h : networkAgrees x = true) :
    networkAgrees (x.rewrite s imported lan) = true := by
  unfold ImportedLan.rewrite
  split
  · by_cases haddresses : addressesChanged s imported lan = true
    · cases hmode : (s.lan lan).mode with
      | dhcpClient => simp [networkAgrees, haddresses, stanzaFields, hmode]
      | static =>
        obtain ⟨a, m, ha, hm⟩ := hs.host lan hmode
        have hnetwork : networkText (s.lan lan) = ipv4Format (a &&& m) := by
          simp [networkText, hostOf, maskOf, ha, hm]
        simp [networkAgrees, haddresses, stanzaFields, hmode, ImportedLan.settings, ha, hm, hnetwork,
          ipv4Parse_format]
    · simpa [networkAgrees, haddresses, ImportedLan.settings] using h
  · exact h

/-! ## Nothing is left to change -/

/-- What is left to change in the written document: the fields of a DHCP client that are not
    written, in a stanza that was written again. -/
structure LeftUnwritten (s imported t : NetworkSettings) : Prop where
  addresses : ∀ lan, addressesChanged s t lan = true →
    addressesChanged s imported lan = true ∧ (s.lan lan).mode = .dhcpClient
  route : ∀ lan, routeChanged s t lan = true →
    (addressesChanged s imported lan = true ∨ routeChanged s imported lan = true) ∧
      (s.lan lan).mode = .dhcpClient

theorem settled_of_written (hlans : ∀ lan, WrittenLan s imported t lan) :
    LeftUnwritten s imported t where
  addresses := by
    intro lan hchanged
    have h := hlans lan
    cases hmode : (s.lan lan).mode with
    | static =>
      obtain ⟨haddress, hnetmask, -, -⟩ := h.static hmode
      simp [addressesChanged, h.mode, haddress, hnetmask] at hchanged
    | dhcpClient =>
      refine ⟨?_, rfl⟩
      by_contra haddresses
      have haddresses : addressesChanged s imported lan = false := by simpa using haddresses
      obtain ⟨haddress, hnetmask⟩ := h.kept haddresses
      obtain ⟨-, haddress', hnetmask'⟩ := unchanged_mode haddresses
      simp [addressesChanged, h.mode, haddress, hnetmask, haddress', hnetmask'] at hchanged
  route := by
    intro lan hchanged
    have h := hlans lan
    cases hmode : (s.lan lan).mode with
    | static =>
      obtain ⟨-, -, hdefault, hgateway⟩ := h.static hmode
      by_cases hroute : s.defaultLan = lan.val + 1 <;>
        simp [routeChanged, hdefault, hgateway, hroute] at hchanged
    | dhcpClient =>
      refine ⟨?_, rfl⟩
      by_contra hnone
      simp only [not_or, Bool.not_eq_true] at hnone
      obtain ⟨hgateway, hdefault⟩ := h.routeKept hnone.1 hnone.2
      obtain ⟨hsame, hgateway'⟩ := unchanged_route hnone.2
      by_cases hroute : s.defaultLan = lan.val + 1
      · simp [routeChanged, hdefault, hgateway, hroute, hsame.mp hroute, hgateway' hroute] at hchanged
      · have hother : ¬ imported.defaultLan = lan.val + 1 := fun heq => hroute (hsame.mpr heq)
        simp [routeChanged, hdefault, hroute, hother] at hchanged

theorem rewriteLines_append (t : NetworkSettings) (owned : Option Lan) (front back : List CText) :
    rewriteLines p s t owned (front ++ back) =
      rewriteLines p s t owned front ++
        rewriteLines p s t (front.foldl (fun owned raw => ((readLine p raw).getD .skipped).after owned) owned)
          back := by
  induction front generalizing owned with
  | nil => rfl
  | cons raw front ih =>
    simp only [List.cons_append, rewriteLines, List.foldl_cons, ih, List.append_assoc]

/-- The stanza behind some lines. -/
def stanzaAfter (p : Platform) (owned : Option Lan) (lines : List CText) : Option Lan :=
  lines.foldl (fun owned raw => ((readLine p raw).getD .skipped).after owned) owned

/-- The lines in the place of one stay as they are when they are written again. -/
structure Stays (p : Platform) (s t : NetworkSettings) (owned owned' : Option Lan) (lines : List CText) :
    Prop where
  same : rewriteLines p s t owned lines = lines
  after : stanzaAfter p owned lines = owned'

theorem stays_nil (t : NetworkSettings) (owned : Option Lan) : Stays p s t owned owned [] := ⟨rfl, rfl⟩

theorem stays_cons {owned owned' : Option Lan} {raw : CText} {lines : List CText} {kind : LineKind}
    (hkind : readLine p raw = some kind) (hself : rewritten p s t owned raw kind = [raw])
    (h : Stays p s t (kind.after owned) owned' lines) : Stays p s t owned owned' (raw :: lines) where
  same := by
    simp only [rewriteLines, hkind, Option.getD_some, hself, h.same]
    rfl
  after := by
    simp only [stanzaAfter, List.foldl_cons, hkind, Option.getD_some]
    exact h.after

/-- A line of a static stanza that has been written. -/
theorem rewritten_written {lan : Lan} {raw key value : CText} (haddresses : addressesChanged s t lan = false)
    (hroute : routeChanged s t lan = false) (hkey : dnsKey key = false) :
    rewritten p s t (some lan) raw (.field key value) = [raw] := by
  simp [rewritten, haddresses, hroute, hkey]

theorem stays_gatewayLines (hs : Writes s) (h : LeftUnwritten s imported t) (lan : Lan) :
    Stays p s t (some lan) (some lan) (gatewayLines s lan) := by
  unfold gatewayLines
  split
  · rename_i hroute
    have haddresses : addressesChanged s t lan = false := by
      by_contra hchanged
      have hdhcp := (h.addresses lan (by simpa using hchanged)).2
      rw [hroute.2] at hdhcp
      cases hdhcp
    have hsame : routeChanged s t lan = false := by
      by_contra hchanged
      have hdhcp := (h.route lan (by simpa using hchanged)).2
      rw [hroute.2] at hdhcp
      cases hdhcp
    obtain ⟨g, hg⟩ := hs.gateway lan hroute.2 hroute.1
    exact stays_cons (readLine_address (by decide) (addressText_of_parse hg))
      (rewritten_written haddresses hsame (by decide)) (stays_nil t _)
  · exact stays_nil t _

theorem stays_stanzaLines (hs : Writes s) (h : LeftUnwritten s imported t) (owned : Option Lan) (lan : Lan) :
    Stays p s t owned (some lan) (stanzaLines p s lan) := by
  unfold stanzaLines
  cases hmode : (s.lan lan).mode with
  | dhcpClient =>
    -- Of a DHCP client the line alone is written, whether something is left to change or not.
    refine stays_cons (readLine_ifaceText lan .dhcpClient) ?_ (stays_nil t _)
    have hno : gatewayLines s lan = [] := if_neg fun h => absurd (h.2.symm.trans hmode) (by decide)
    simp only [rewritten, stanzaLines, hmode, routeLines, hno, ite_self]
  | static =>
    have haddresses : addressesChanged s t lan = false := by
      by_contra hchanged
      have hdhcp := (h.addresses lan (by simpa using hchanged)).2
      rw [hmode] at hdhcp
      cases hdhcp
    have hsame : routeChanged s t lan = false := by
      by_contra hchanged
      have hdhcp := (h.route lan (by simpa using hchanged)).2
      rw [hmode] at hdhcp
      cases hdhcp
    obtain ⟨a, m, ha, hm⟩ := hs.host lan hmode
    have hline : ∀ key value, key ∈ writtenKeys → dnsKey key = false → AddressText value → ∀ lines,
        Stays p s t (some lan) (some lan) lines →
          Stays p s t (some lan) (some lan) (fieldText key value :: lines) :=
      fun key value hkey hdns hvalue lines hrest =>
        stays_cons (readLine_address hkey hvalue) (rewritten_written haddresses hsame hdns) hrest
    refine stays_cons (readLine_ifaceText lan .static) ?_ ?_
    · simp [rewritten, haddresses, hsame]
    · refine hline _ _ (by decide) (by decide) (addressText_of_parse ha) _ ?_
      refine hline _ _ (by decide) (by decide) (addressText_format _) _ ?_
      refine hline _ _ (by decide) (by decide) (addressText_of_parse hm) _ ?_
      refine hline _ _ (by decide) (by decide) (addressText_format _) _ ?_
      exact stays_gatewayLines hs h lan

theorem stays_rewritten (hs : Writes s) (h : LeftUnwritten s imported t) {owned : Option Lan} {raw : CText}
    {kind : LineKind} (hraw : Lines 10 [raw]) (hkind : readLine p raw = some kind)
    (htwice : dnsField owned kind = true → ¬ NamedTwice s) :
    Stays p s t owned (kind.after owned) (rewritten p s imported owned raw kind) := by
  cases kind with
  | skipped | leave => exact stays_cons hkind rfl (stays_nil t _)
  | iface lan mode =>
    simp only [rewritten]
    split
    · exact stays_stanzaLines hs h owned lan
    · rename_i hkept
      have haddresses : ¬ addressesChanged s t lan = true := fun hchanged => hkept (h.addresses lan hchanged).1
      have hself : ∀ line, rewritten p s t owned line (.iface lan mode) = [line] := by
        intro line
        simp only [rewritten]
        rw [if_neg haddresses]
        split
        · rename_i hroute
          have hno : gatewayLines s lan = [] :=
            if_neg fun hboth => absurd (hboth.2.symm.trans (h.route lan hroute).2) (by decide)
          simp only [routeLines, hno]
        · rfl
      split
      · unfold routeLines
        split
        · exact stays_cons hkind (hself raw) (stays_nil t _)
        · exact stays_cons ((readLine_congr p (lineText_ended_eq hraw)).trans hkind) (hself _)
            (stays_gatewayLines hs h lan)
      · exact stays_cons hkind (hself raw) (stays_nil t _)
  | field key value =>
    cases owned with
    | none => exact stays_cons hkind rfl (stays_nil t _)
    | some lan =>
      simp only [rewritten]
      by_cases hdns : dnsKey key = true
      · rw [if_pos hdns]
        unfold serverLines
        split
        · exact stays_nil t _
        · rename_i hmanual
          have hmanual : s.automaticDns = 0 := by simpa using hmanual
          split
          · split
            · exact stays_nil t _
            · rename_i hgiven
              refine stays_cons (readLine_serversText hs hmanual hgiven hdns) ?_ (stays_nil t _)
              have hvalue := dnsLine_serversValue hs hmanual hgiven
              rw [if_neg (htwice (by simp [dnsField, hdns]))] at hvalue
              simp [rewritten, hdns, serverLines, hmanual, hvalue]
          · rename_i hvalue
            refine stays_cons hkind ?_ (stays_nil t _)
            simp only [ne_eq, Decidable.not_not] at hvalue
            simp [rewritten, hdns, serverLines, hmanual, hvalue]
      · rw [if_neg hdns]
        split
        · exact stays_nil t _
        rename_i hroute
        split
        · exact stays_nil t _
        · rename_i haddresses
          refine stays_cons hkind ?_ (stays_nil t _)
          have hgateway : ¬ (routeChanged s t lan = true ∧ key = text "gateway") := by
            rintro ⟨hchanged, rfl⟩
            rcases (h.route lan hchanged).1 with hother | hother
            · exact haddresses ⟨hother, by decide⟩
            · exact hroute ⟨hother, rfl⟩
          have haddress : ¬ (addressesChanged s t lan = true ∧ addressKey key = true) := fun hboth =>
            haddresses ⟨(h.addresses lan hboth.1).1, hboth.2⟩
          simp only [rewritten]
          rw [if_neg hdns, if_neg hgateway, if_neg haddress]

/-- **The document that is written is written as it is.** -/
theorem rewriteLines_again (hs : Writes s) (h : LeftUnwritten s imported t) {lines : List CText}
    {st final : Import} (hlines : Lines 10 lines) (hread : lines.foldlM (importLine p) st = some final)
    (htwice : namesServers p st.owned lines = true → ¬ NamedTwice s) :
    rewriteLines p s t st.owned (rewriteLines p s imported st.owned lines) =
      rewriteLines p s imported st.owned lines := by
  induction lines generalizing st with
  | nil => rfl
  | cons raw lines ih =>
    rw [List.foldlM_cons, Option.bind_eq_bind, Option.bind_eq_some_iff] at hread
    obtain ⟨next, hnext, hrest⟩ := hread
    obtain ⟨kind, hkind, hact⟩ := importLine_eq_some.mp hnext
    simp only [namesServers, hkind, Option.getD_some, Bool.or_eq_true, ← owned_of_act hact] at htwice
    have hstays := stays_rewritten hs h hlines.head hkind fun hdns => htwice (.inl hdns)
    have hafter := hstays.after
    rw [← owned_of_act hact] at hafter
    unfold stanzaAfter at hafter
    have hsplit : rewriteLines p s imported st.owned (raw :: lines) =
        rewritten p s imported st.owned raw kind ++ rewriteLines p s imported next.owned lines := by
      simp only [rewriteLines, hkind, Option.getD_some, ← owned_of_act hact]
    rw [hsplit, rewriteLines_append, hafter, hstays.same, ih hlines.tail hrest fun hnames => htwice (.inr hnames)]

/-- What a document was rendered from. -/
structure Rendered (p : Platform) (s : NetworkSettings) (input out : CText) (cap : Nat)
    (imported : NetworkSettings) : Prop where
  valid : settingsValidate s = .ok
  room : 0 < cap
  read : importDocument p input [] false = some imported
  text : out = (rewriteLines p s imported none (documentLines input)).flatten
  fits : out.length < cap

theorem rendered_of_render {input out : CText} {cap : Nat} (h : gatewayNetworkRender p input s cap = some out) :
    ∃ imported, Rendered p s input out cap imported := by
  have hguard : ¬ (cap = 0 ∨ settingsValidate s ≠ .ok) := by
    intro hbad
    unfold gatewayNetworkRender at h
    rw [if_pos hbad] at h
    cases h
  obtain ⟨hcap, hvalid⟩ := not_or.mp hguard
  have hvalid : settingsValidate s = .ok := by simpa using hvalid
  have hcap : 0 < cap := by omega
  obtain ⟨imported, himport⟩ : ∃ imported, importDocument p input [] false = some imported := by
    unfold gatewayNetworkRender at h
    rw [if_neg hguard] at h
    exact (Option.bind_eq_some_iff.mp h).imp fun _ h => h.1
  rw [render_eq hvalid hcap himport] at h
  unfold FourVrs.Network.room at h
  split at h
  · exact ⟨imported, hvalid, hcap, himport, (Option.some.inj h).symm, by rw [← Option.some.inj h]; assumption⟩
  · cases h

theorem Rendered.lines {input out : CText} {cap : Nat} (h : Rendered p s input out cap imported) :
    documentLines out = rewriteLines p s imported none (documentLines input) := by
  rw [h.text]
  exact documentLines_rewrite (writes_of_validate h.valid) input

/-- A document that was rendered is rendered again as it is, unless a line of it names a server
    twice. -/
theorem render_again {input out : CText} {cap : Nat} (hcap : cap ≤ networkFileMax)
    (h : gatewayNetworkRender p input s cap = some out) :
    gatewayNetworkRender p out s cap = some out ↔
      ¬ (NamedTwice s ∧ namesServers p none (documentLines input) = true) := by
  obtain ⟨imported, hrendered⟩ := rendered_of_render h
  have hlines := hrendered.lines
  obtain ⟨hvalid, hcap', himport, hout, hfits⟩ := hrendered
  have hs := writes_of_validate hvalid
  obtain ⟨final, dns, hread⟩ := importDocument_eq_some.mp himport
  have himported : imported = final.result := by
    obtain rfl := Option.some.inj hread.servers
    rw [hread.settings]
    rfl
  have hfinal : final.defaultLan = imported.defaultLan := by rw [himported]; rfl
  have hwell : Lines 10 (documentLines input) := lines_splitLines input
  constructor
  · rintro hagain ⟨htwice, hnames⟩
    have hno := import_named_twice hs hwell hread.stanzas reading_start hfinal hnames htwice
    obtain ⟨t, ht⟩ := rendered_of_render hagain
    obtain ⟨st, _, hst⟩ := importDocument_eq_some.mp ht.read
    have hstanzas := hst.stanzas
    unfold importStanzas at hstanzas
    rw [hlines] at hstanzas
    have hstart : ({} : Import).rewrite s imported = {} := rfl
    rw [hstart] at hno
    exact absurd (hstanzas.symm.trans hno) (by simp)
  · intro htwice
    have htwice : namesServers p ({} : Import).owned (documentLines input) = true → ¬ NamedTwice s :=
      fun hnames hboth => htwice ⟨hboth, hnames⟩
    obtain ⟨hagain, hreading⟩ := import_rewriteLines hs hwell hread.stanzas reading_start hfinal htwice
    have hwritten : ∀ lan, WrittenLan s imported (final.rewrite s imported).result lan :=
      writtenLan hreading hfinal (fun lan => by rw [himported]; rfl) fun lan => (hread.lans lan).1
    have hstanzas : importStanzas p out = some (final.rewrite s imported) := by
      unfold importStanzas
      rw [hlines]
      exact hagain
    have hsame : importDocument p out [] false = some (final.rewrite s imported).result := by
      refine importDocument_eq_some.mpr ⟨_, [], ?_, by omega, by simp, hstanzas, fun i => ⟨?_, ?_⟩, rfl, rfl, ?_,
        fun h => by cases h⟩
      · rintro rfl
        have hnone : importStanzas p [] = some {} := rfl
        rw [hnone] at hstanzas
        have hseen := congrArg (fun st => (st.lans 0).seen) (Option.some.inj hstanzas)
        simp [Import.rewrite, ImportedLan.rewrite, (hread.lans 0).1] at hseen
      · simp [Import.rewrite, ImportedLan.rewrite, (hread.lans i).1]
      · exact networkAgrees_rewrite hs (hread.lans i).2
      · exact validate_written hvalid hread.valid hwritten
          (routeOf_le fun lan => (((final.lans lan).rewrite s imported lan).fields .gateway).isSome) rfl rfl rfl
    rw [render_eq hvalid hcap' hsame, hlines]
    have hself := rewriteLines_again hs (settled_of_written hwritten) hwell hread.stanzas htwice
    have hstart : ({} : Import).owned = none := rfl
    rw [hstart] at hself
    rw [hself, ← hout, room_of_lt hfits]

end FourVrs.Network
