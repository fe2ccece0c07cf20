import FourVrs.Network.RenderedLines

/-!
# Reading what was rendered

What was rendered is a document the reader takes: after the lines that are written for a line,
it is in the state that the reader of the document is in after the line, with the new settings in
the stanzas that were written (`Import.rewrite`). Only a line of name servers that would name one
twice is not read.
-/

set_option autoImplicit false

namespace FourVrs.Network

open Config Lib
open Function (update update_of_ne update_self update_eq_self)

variable {p : Platform} {s imported : NetworkSettings}

/-! ## The state of the second reader -/

def gatewayField (s : NetworkSettings) (lan : Lan) : Option CText :=
  if s.defaultLan = lan.val + 1 ∧ (s.lan lan).mode = .static then some (s.lan lan).gateway else none

/-- The fields of a stanza that is written again. -/
def stanzaFields (s : NetworkSettings) (lan : Lan) : LanField → Option CText
  | .gateway => gatewayField s lan
  | .address => if (s.lan lan).mode = .static then some (s.lan lan).address else none
  | .netmask => if (s.lan lan).mode = .static then some (s.lan lan).netmask else none
  | .network => if (s.lan lan).mode = .static then some (networkText (s.lan lan)) else none

/-- What is read of an interface once it has been written. -/
def ImportedLan.rewrite (s imported : NetworkSettings) (lan : Lan) (x : ImportedLan) : ImportedLan :=
  if x.seen then
    { seen := true
      mode := if addressesChanged s imported lan then (s.lan lan).mode else x.mode
      fields := fun field =>
        if addressesChanged s imported lan then stanzaFields s lan field
        else if field = .gateway ∧ routeChanged s imported lan then gatewayField s lan
        else x.fields field
      dns := x.dns.bind fun _ => if s.automaticDns ≠ 0 ∨ s.dns 0 = [] then none else some s.dns }
  else x

/-- The number of the interface with a gateway line. -/
def routeOf (routed : Lan → Bool) : Nat := if routed 0 then 1 else if routed 1 then 2 else 0

def Import.rewrite (s imported : NetworkSettings) (st : Import) : Import where
  owned := st.owned
  lans := fun lan => (st.lans lan).rewrite s imported lan
  defaultLan := routeOf fun lan => (((st.lans lan).rewrite s imported lan).fields .gateway).isSome

theorem routeOf_none {routed : Lan → Bool} (h : ∀ lan, routed lan = false) : routeOf routed = 0 := by
  simp [routeOf, h]

variable {lan : Lan}

theorem routeOf_only {routed : Lan → Bool} (h : routed lan = true) (honly : ∀ j, routed j = true → j = lan) :
    routeOf routed = lan.val + 1 := by
  unfold routeOf
  rcases lan_cases lan with rfl | rfl
  · rw [if_pos h]
    rfl
  · have hzero : ¬ routed 0 = true := fun h0 => absurd (honly 0 h0) (by decide)
    rw [if_neg hzero, if_pos h]
    rfl

/-! ## What the first reader has read -/

/-- What holds of the reader's state, `imported` being what the document is read as. -/
structure Reading (imported : NetworkSettings) (st : Import) : Prop where
  fresh : ∀ lan, (st.lans lan).seen = false → st.lans lan = {}
  owned : ∀ lan, st.owned = some lan → (st.lans lan).seen = true
  route : ∀ lan, ((st.lans lan).fields .gateway).isSome = true → st.defaultLan = lan.val + 1
  routed : st.defaultLan ≠ 0 → ∃ lan, ((st.lans lan).fields .gateway).isSome = true
  final : st.defaultLan ≠ 0 → imported.defaultLan = st.defaultLan

theorem reading_start : Reading imported {} where
  fresh := fun _ _ => rfl
  owned := fun _ h => by cases h
  route := fun _ h => by cases h
  routed := fun h => absurd rfl h
  final := fun h => absurd rfl h

variable {st : Import} {raw : CText} {field : LanField} {kind : LineKind}

theorem reading_of_act {st st' : Import} (h : Reading imported st) (hact : actLine st kind = some st')
    (hfinal : st'.defaultLan ≠ 0 → imported.defaultLan = st'.defaultLan) :
    Reading imported st' := by
  cases kind with
  | skipped =>
    obtain rfl := Option.some.inj hact
    exact h
  | leave =>
    obtain rfl := Option.some.inj hact
    exact { h with owned := fun _ howned => by cases howned }
  -- a stanza opens its LAN and touches no other
  | iface lan mode =>
    obtain ⟨hseen, rfl⟩ := importIface_eq_some.mp hact
    have hother : ∀ j, j ≠ lan → ((st.withIface lan mode).lans j) = st.lans j := fun j hj =>
      update_of_ne hj _ _
    have hown : (st.withIface lan mode).lans lan = { st.lans lan with seen := true, mode := mode } :=
      update_self ..
    refine ⟨fun j hj => ?_, fun j hj => ?_, fun j hj => ?_, fun hne => ?_, hfinal⟩
    · have hne : j ≠ lan := by
        rintro rfl
        rw [hown] at hj
        cases hj
      rw [hother j hne] at hj ⊢
      exact h.fresh j hj
    · obtain rfl : lan = j := Option.some.inj hj
      rw [hown]
    · by_cases heq : j = lan
      · subst heq
        rw [hown] at hj
        exact h.route j hj
      · rw [hother j heq] at hj
        exact h.route j hj
    · obtain ⟨j, hj⟩ := h.routed hne
      refine ⟨j, ?_⟩
      by_cases heq : j = lan
      · subst heq
        rw [hown]
        exact hj
      · rw [hother j heq]
        exact hj
  | field key value =>
    simp only [actLine] at hact
    -- an option belongs to the LAN whose stanza is open, if there is one
    cases howned : st.owned with
    | none =>
      simp only [howned, Option.some.injEq] at hact
      exact hact ▸ h
    | some lan =>
      simp only [howned, importOwned] at hact
      split at hact
      · rename_i field hfield
        obtain ⟨hnone, -, hroute, rfl⟩ := importField_eq_some.mp hact
        have hother : ∀ j, j ≠ lan → ((st.withField lan field value).lans j) = st.lans j := fun j hj =>
          update_of_ne hj _ _
        have hown : (st.withField lan field value).lans lan =
            { st.lans lan with fields := update (st.lans lan).fields field (some value) } :=
          update_self ..
        have hsame : ∀ j, j ≠ lan ∨ field ≠ .gateway →
            ((st.withField lan field value).lans j).fields .gateway = (st.lans j).fields .gateway := by
          intro j hj
          by_cases heq : j = lan
          · subst heq
            rw [hown]
            exact update_of_ne (Ne.symm (hj.resolve_left (· rfl))) _ _
          · rw [hother j heq]
        refine ⟨fun j hj => ?_, fun j hj => ?_, fun j hj => ?_, fun hne => ?_, hfinal⟩
        · have hne : j ≠ lan := by
            rintro rfl
            rw [hown] at hj
            exact absurd (h.owned j howned) (by simpa using hj)
          rw [hother j hne] at hj ⊢
          exact h.fresh j hj
        · obtain rfl : lan = j := Option.some.inj (howned.symm.trans hj)
          rw [hown]
          exact h.owned lan howned
        -- the default route is noted with a gateway and with nothing else
        · by_cases hgateway : field = .gateway
          · by_cases heq : j = lan
            · subst heq
              exact if_pos hgateway
            · rw [hsame j (.inl heq)] at hj
              have hzero := h.route j hj
              rw [hroute hgateway] at hzero
              omega
          · rw [hsame j (.inr hgateway)] at hj
            exact (if_neg hgateway).trans (h.route j hj)
        · by_cases hgateway : field = .gateway
          · refine ⟨lan, ?_⟩
            rw [hown, hgateway]
            simp
          · obtain ⟨j, hj⟩ := h.routed (by simpa [Import.withField, hgateway] using hne)
            exact ⟨j, by rw [hsame j (.inr hgateway)]; exact hj⟩
      split at hact
      · obtain ⟨-, dns, -, rfl⟩ := importDns_eq_some.mp hact
        have hother : ∀ j, j ≠ lan → ((st.withDns lan dns).lans j) = st.lans j := fun j hj =>
          update_of_ne hj _ _
        have hown : (st.withDns lan dns).lans lan = { st.lans lan with dns := some dns } :=
          update_self ..
        have hsame : ∀ j, ((st.withDns lan dns).lans j).seen = (st.lans j).seen ∧
            ((st.withDns lan dns).lans j).fields = (st.lans j).fields := by
          intro j
          by_cases heq : j = lan
          · subst heq
            rw [hown]
            exact ⟨rfl, rfl⟩
          · rw [hother j heq]
            exact ⟨rfl, rfl⟩
        refine ⟨fun j hj => ?_, fun j hj => ?_, fun j hj => ?_, fun hne => ?_, hfinal⟩
        · have hne : j ≠ lan := by
            rintro rfl
            rw [(hsame j).1] at hj
            exact absurd (h.owned j howned) (by simp [hj])
          rw [hother j hne] at hj ⊢
          exact h.fresh j hj
        · rw [(hsame j).1]
          exact h.owned j hj
        · rw [(hsame j).2] at hj
          exact h.route j hj
        · obtain ⟨j, hj⟩ := h.routed hne
          exact ⟨j, by rw [(hsame j).2]; exact hj⟩
      split at hact
      · obtain rfl := Option.some.inj hact
        exact h
      · cases hact

/-- An interface that has a gateway line in what is written is the one with the default route. -/
theorem route_of_rewrite (h : Reading imported st)
    (hrouted : (((st.lans lan).rewrite s imported lan).fields .gateway).isSome = true) :
    s.defaultLan = lan.val + 1 := by
  have hwritten : (gatewayField s lan).isSome = true → s.defaultLan = lan.val + 1 := by
    intro hsome
    unfold gatewayField at hsome
    split at hsome
    · rename_i hroute
      exact hroute.1
    · cases hsome
  unfold ImportedLan.rewrite at hrouted
  split at hrouted
  · simp only [true_and] at hrouted
    split at hrouted
    · exact hwritten hrouted
    split at hrouted
    · exact hwritten hrouted
    · rename_i hsame
      have hdefault := h.route lan hrouted
      have himported : imported.defaultLan = lan.val + 1 := (h.final (by omega)).trans hdefault
      simp only [routeChanged, himported, decide_true, Bool.or_eq_true, bne_iff_ne, ne_eq,
        Bool.and_eq_true, decide_eq_true_eq, not_or] at hsame
      by_contra hne
      exact hsame.1 (by simp [hne])
  · exact absurd (h.route lan hrouted) (by
      rename_i hseen
      have hfresh := h.fresh lan (by simpa using hseen)
      rw [hfresh] at hrouted
      cases hrouted)

/-- Nothing has a gateway line before that of the interface with the default route. -/
theorem defaultLan_rewrite (h : Reading imported st) (hdefault : s.defaultLan = lan.val + 1)
    (hnone : (((st.lans lan).rewrite s imported lan).fields .gateway).isSome = false) :
    (st.rewrite s imported).defaultLan = 0 := by
  show routeOf (fun lan => (((st.lans lan).rewrite s imported lan).fields .gateway).isSome) = 0
  refine routeOf_none fun j => ?_
  by_cases heq : j = lan
  · exact heq ▸ hnone
  · by_contra hsome
    have hother := route_of_rewrite (s := s) h ((Bool.not_eq_false _).mp hsome)
    exact heq (Fin.ext (by omega))

/-! ## What is written for a line is read -/

variable {mode : LanMode}

theorem importLine_iface (hseen : (st.lans lan).seen = false) :
    importLine p st (ifaceText p lan mode) = some (st.withIface lan mode) :=
  importLine_eq_some.mpr ⟨_, readLine_ifaceText lan mode, importIface_eq_some.mpr ⟨hseen, rfl⟩⟩

theorem importLine_field {value : CText} (howned : st.owned = some lan)
    (hnone : (st.lans lan).fields field = none) (hvalue : ∃ a, ipv4Parse value = some a)
    (hroute : field = .gateway → st.defaultLan = 0) :
    importLine p st (fieldText field.key value) = some (st.withField lan field value) := by
  obtain ⟨a, ha⟩ := hvalue
  have hkey : field.key ∈ writtenKeys := by cases field <;> decide
  refine importLine_eq_some.mpr ⟨_, readLine_address hkey (addressText_of_parse ha), ?_⟩
  simp only [actLine, howned, importOwned, LanField.ofKey_key]
  exact importField_eq_some.mpr ⟨hnone, by simp [ha], hroute, rfl⟩

theorem importLine_broadcast {value : CText} (hvalue : AddressText value) :
    importLine p st (fieldText (text "broadcast") value) = some st := by
  refine importLine_eq_some.mpr ⟨_, readLine_address (by decide) hvalue, ?_⟩
  simp only [actLine]
  cases st.owned with
  | none | some lan => rfl

/-- The route of the interface was read, where it has one. -/
def Import.withRoute (s : NetworkSettings) (lan : Lan) (st : Import) : Import :=
  match gatewayField s lan with
  | none => st
  | some gateway => st.withField lan .gateway gateway

theorem import_gatewayLines (hs : Writes s) (howned : st.owned = some lan)
    (hnone : (st.lans lan).fields .gateway = none) (hroute : s.defaultLan = lan.val + 1 → st.defaultLan = 0) :
    (gatewayLines s lan).foldlM (importLine p) st = some (st.withRoute s lan) := by
  unfold gatewayLines Import.withRoute gatewayField
  by_cases hdefault : s.defaultLan = lan.val + 1 ∧ (s.lan lan).mode = .static
  · rw [if_pos hdefault, if_pos hdefault]
    simp only [List.foldlM_cons, List.foldlM_nil, Option.bind_eq_bind]
    have hread := importLine_field (p := p) howned hnone (hs.gateway lan hdefault.2 hdefault.1)
      fun _ => hroute hdefault.1
    rw [show text "gateway" = LanField.gateway.key from rfl, hread]
    rfl
  · rw [if_neg hdefault, if_neg hdefault]
    rfl

theorem lans_withRoute (hnone : (st.lans lan).fields .gateway = none) :
    (st.withRoute s lan).lans = update st.lans lan
      { st.lans lan with
        fields := update (st.lans lan).fields .gateway (gatewayField s lan) } := by
  cases hroute : gatewayField s lan with
  | none =>
    have hfields : update (st.lans lan).fields .gateway none = (st.lans lan).fields := by
      rw [← hnone, update_eq_self]
    simp only [Import.withRoute, hroute, hfields]
    exact (update_eq_self lan st.lans).symm
  | some gateway =>
    simp only [Import.withRoute, hroute]
    rfl

theorem defaultLan_withRoute (st : Import) (lan : Lan) :
    (st.withRoute s lan).defaultLan =
      if (gatewayField s lan).isSome then lan.val + 1 else st.defaultLan := by
  unfold Import.withRoute
  cases gatewayField s lan with
  | none | some gateway => rfl

theorem owned_withRoute (st : Import) (lan : Lan) : (st.withRoute s lan).owned = st.owned := by
  unfold Import.withRoute
  cases gatewayField s lan with
  | none | some gateway => rfl

/-- Where the default route is read once another line of an interface is. -/
theorem defaultLan_changed {st st' : Import} (h' : Reading imported st')
    (hsame : ∀ j, j ≠ lan → st'.lans j = st.lans j)
    (hnone : (((st.lans lan).rewrite s imported lan).fields .gateway) = none) :
    (st'.rewrite s imported).defaultLan =
      if (((st'.lans lan).rewrite s imported lan).fields .gateway).isSome then lan.val + 1
      else (st.rewrite s imported).defaultLan := by
  show routeOf (fun lan => (((st'.lans lan).rewrite s imported lan).fields .gateway).isSome) = _
  split
  · rename_i hsome
    refine routeOf_only hsome fun j hj => ?_
    have hlan := route_of_rewrite (s := s) h' hsome
    have hother := route_of_rewrite (s := s) h' hj
    exact Fin.ext (by omega)
  · rename_i hsome
    show routeOf _ = routeOf fun lan => (((st.lans lan).rewrite s imported lan).fields .gateway).isSome
    congr 1
    funext j
    by_cases heq : j = lan
    · subst heq
      rw [hnone]
      simpa using hsome
    · rw [hsame j heq]

theorem parse_networkText (lan : LanSettings) : ∃ a, ipv4Parse (networkText lan) = some a :=
  ⟨_, ipv4Parse_format _⟩

/-- A stanza that is written again is read as it was written. -/
theorem import_stanzaLines (hs : Writes s) (hfresh : st.lans lan = {})
    (hroute : s.defaultLan = lan.val + 1 → st.defaultLan = 0) :
    (stanzaLines p s lan).foldlM (importLine p) st =
      some
        { owned := some lan
          lans := update st.lans lan
            { seen := true, mode := (s.lan lan).mode, fields := stanzaFields s lan }
          defaultLan := if (gatewayField s lan).isSome then lan.val + 1 else st.defaultLan } := by
  have hiface : importLine p st (ifaceText p lan (s.lan lan).mode) =
      some (st.withIface lan (s.lan lan).mode) := importLine_iface (by rw [hfresh])
  have hlan : (st.withIface lan (s.lan lan).mode).lans lan = { seen := true, mode := (s.lan lan).mode } := by
    show update st.lans lan _ lan = _
    rw [update_self, hfresh]
  unfold stanzaLines
  rw [List.foldlM_cons, hiface]
  simp only [Option.bind_eq_bind, Option.bind_some]
  cases hmode : (s.lan lan).mode with
  | dhcpClient =>
    have hno : gatewayField s lan = none := if_neg fun h => absurd (h.2.symm.trans hmode) (by decide)
    simp only [List.foldlM_nil, hno, Option.isSome_none, Bool.false_eq_true, if_false]
    refine congrArg some (Import.ext rfl ?_ rfl)
    show update st.lans lan _ = _
    congr 1
    rw [hfresh]
    refine ImportedLan.ext rfl rfl ?_ rfl
    funext field
    cases field <;> simp [stanzaFields, hmode, hno]
  | static =>
    obtain ⟨a, m, ha, hm⟩ := hs.host lan hmode
    rw [hmode] at hlan
    generalize hst₁ : st.withIface lan .static = st₁ at hlan ⊢
    have howned : st₁.owned = some lan := by rw [← hst₁]; rfl
    have hdefault : st₁.defaultLan = st.defaultLan := by rw [← hst₁]; rfl
    have hlans : st₁.lans = update st.lans lan { seen := true, mode := .static } := by
      rw [← hst₁]
      show update st.lans lan _ = _
      rw [hfresh]
    simp only [List.foldlM_append, List.foldlM_cons, List.foldlM_nil, Option.bind_eq_bind]
    rw [show text "address" = LanField.address.key from rfl,
      importLine_field howned (by rw [hlan]) ⟨a, ha⟩ (by simp)]
    simp only [Option.bind_some]
    rw [show text "network" = LanField.network.key from rfl,
      importLine_field (by exact howned) (by simp [Import.withField, Import.withLan, hlan])
        (parse_networkText (s.lan lan)) (by simp)]
    simp only [Option.bind_some]
    rw [show text "netmask" = LanField.netmask.key from rfl,
      importLine_field (by exact howned) (by simp [Import.withField, Import.withLan, hlan])
        ⟨m, hm⟩ (by simp)]
    simp only [Option.bind_some]
    have hbroadcast : AddressText (broadcastText (s.lan lan)) := addressText_format _
    rw [importLine_broadcast hbroadcast]
    simp only [Option.bind_some, Option.pure_def]
    rw [import_gatewayLines hs (by exact howned) (by simp [Import.withField, Import.withLan, hlan])
      (fun h => by simpa [Import.withField, Import.withLan, hdefault] using hroute h)]
    refine congrArg some (Import.ext ?_ ?_ ?_)
    · rw [owned_withRoute]
      exact howned
    · rw [lans_withRoute (by simp [Import.withField, Import.withLan, hlan])]
      simp only [Import.withField, Import.withLan, Function.update_idem, update_self, hlans]
      congr 1
      refine ImportedLan.ext rfl rfl ?_ rfl
      funext field
      cases field <;> simp [stanzaFields, hmode]
    · rw [defaultLan_withRoute]
      simp [Import.withField, Import.withLan, hdefault]

theorem lineText_ended_eq (h : Lines 10 [raw]) : lineText (ended raw) = lineText raw := by
  cases h with
  | last hne hsep =>
    unfold ended
    rw [if_neg fun h => hsep (List.mem_of_getLast? h), lineText_append_newline hsep]
  | cons hsep _ =>
    unfold ended
    rw [if_pos (by simp)]

/-- Whether there is a line for the route, and whether there is a route. -/
theorem gatewayLines_eq_nil : gatewayLines s lan = [] ↔ gatewayField s lan = none := by
  unfold gatewayLines gatewayField
  split <;> simp

/-- A stanza whose route alone is written again. -/
theorem import_routeLines (hs : Writes s) (hraw : Lines 10 [raw])
    (hkind : readLine p raw = some (.iface lan mode)) (hfresh : st.lans lan = {})
    (hroute : s.defaultLan = lan.val + 1 → st.defaultLan = 0) :
    (routeLines s lan raw).foldlM (importLine p) st =
      some
        { owned := some lan
          lans := update st.lans lan
            { seen := true, mode := mode
              fields := fun field => if field = .gateway then gatewayField s lan else none }
          defaultLan := if (gatewayField s lan).isSome then lan.val + 1 else st.defaultLan } := by
  have hread : ∀ line, readLine p line = some (.iface lan mode) →
      importLine p st line = some (st.withIface lan mode) := fun line hline =>
    importLine_eq_some.mpr ⟨_, hline, importIface_eq_some.mpr ⟨by rw [hfresh], rfl⟩⟩
  have hlan : (st.withIface lan mode).lans lan = { seen := true, mode := mode } := by
    show update st.lans lan _ lan = _
    rw [update_self, hfresh]
  have hresult : (st.withIface lan mode).withRoute s lan =
      { owned := some lan
        lans := update st.lans lan
          { seen := true, mode := mode
            fields := fun field => if field = .gateway then gatewayField s lan else none }
        defaultLan := if (gatewayField s lan).isSome then lan.val + 1 else st.defaultLan } := by
    refine Import.ext ?_ ?_ (defaultLan_withRoute _ lan)
    · exact owned_withRoute _ lan
    · rw [lans_withRoute (by rw [hlan]), hlan]
      show update (update st.lans lan _) lan _ = _
      rw [Function.update_idem]
      congr 1
      refine ImportedLan.ext rfl rfl ?_ rfl
      funext field
      cases field <;> simp
  rw [← hresult]
  by_cases hnone : gatewayLines s lan = []
  · have hfield := gatewayLines_eq_nil.mp hnone
    simp only [routeLines, hnone, List.foldlM_cons, List.foldlM_nil, hread raw hkind, Import.withRoute,
      hfield]
    rfl
  · have hlines : routeLines s lan raw = ended raw :: gatewayLines s lan := by
      unfold routeLines
      split
      · exact absurd ‹_› hnone
      · rfl
    rw [hlines, List.foldlM_cons,
      hread (ended raw) ((readLine_congr p (lineText_ended_eq hraw)).trans hkind)]
    exact import_gatewayLines hs rfl (by rw [hlan]) hroute

/-! ## One line of the document -/

/-- A line of servers in an owned stanza. -/
def dnsField (owned : Option Lan) : LineKind → Bool
  | .field key _ => owned.isSome && dnsKey key
  | _ => false

/-- The state of the second reader after a line that only the lines of one interface answer for. -/
theorem rewrite_eq (st : Import) {st' : Import} (h' : Reading imported st') (howned : st'.owned = some lan)
    (hlans : ∃ x, st'.lans = update st.lans lan x)
    (hnone : ((st.lans lan).rewrite s imported lan).fields .gateway = none) {x : ImportedLan}
    (hx : (st'.lans lan).rewrite s imported lan = x) :
    st'.rewrite s imported =
      { owned := some lan
        lans := update (st.rewrite s imported).lans lan x
        defaultLan := if (x.fields .gateway).isSome then lan.val + 1 else (st.rewrite s imported).defaultLan } := by
  obtain ⟨y, hy⟩ := hlans
  have hsame : ∀ j, j ≠ lan → st'.lans j = st.lans j := fun j hj => by
    rw [hy, update_of_ne hj]
  refine Import.ext howned ?_ ?_
  · funext j
    show (st'.lans j).rewrite s imported j = update (st.rewrite s imported).lans lan x j
    by_cases heq : j = lan
    · subst heq
      rw [update_self, hx]
    · rw [hsame j heq, update_of_ne heq]
      rfl
  · rw [defaultLan_changed h' hsame hnone, hx]

theorem import_iface (hs : Writes s) {st st' : Import} (hraw : Lines 10 [raw])
    (hkind : readLine p raw = some (.iface lan mode)) (h : Reading imported st) (h' : Reading imported st')
    (hact : importIface st lan mode = some st') :
    (rewritten p s imported st.owned raw (.iface lan mode)).foldlM (importLine p) (st.rewrite s imported) =
      some (st'.rewrite s imported) := by
  obtain ⟨hseen, rfl⟩ := importIface_eq_some.mp hact
  have hfresh := h.fresh lan hseen
  have hfresh' : (st.rewrite s imported).lans lan = {} := by
    show (st.lans lan).rewrite s imported lan = {}
    rw [hfresh]
    rfl
  have hnone : ((st.lans lan).rewrite s imported lan).fields .gateway = none := by rw [hfresh]; rfl
  have hroute : s.defaultLan = lan.val + 1 → (st.rewrite s imported).defaultLan = 0 := fun hdefault =>
    defaultLan_rewrite h hdefault (by rw [hnone]; rfl)
  have hlan : (st.withIface lan mode).lans lan = { seen := true, mode := mode } := by
    show update st.lans lan _ lan = _
    rw [update_self, hfresh]
  have hstate := fun x hx => @rewrite_eq s imported lan st _ h' rfl ⟨_, rfl⟩ hnone x hx
  simp only [rewritten]
  by_cases hchanged : addressesChanged s imported lan = true
  · rw [if_pos hchanged, import_stanzaLines hs hfresh' hroute]
    refine congrArg some (hstate _ ?_).symm
    rw [hlan]
    simp [ImportedLan.rewrite, hchanged]
  · rw [if_neg hchanged]
    by_cases hrouted : routeChanged s imported lan = true
    · rw [if_pos hrouted, import_routeLines hs hraw hkind hfresh' hroute]
      have hx : ((st.withIface lan mode).lans lan).rewrite s imported lan =
          { seen := true, mode := mode
            fields := fun field => if field = .gateway then gatewayField s lan else none } := by
        rw [hlan]
        simp [ImportedLan.rewrite, hchanged, hrouted]
      rw [hstate _ hx]
      simp
    · rw [if_neg hrouted, List.foldlM_cons]
      have hread : importLine p (st.rewrite s imported) raw =
          some ((st.rewrite s imported).withIface lan mode) :=
        importLine_eq_some.mpr ⟨_, hkind, importIface_eq_some.mpr ⟨by rw [hfresh'], rfl⟩⟩
      have hx : ((st.withIface lan mode).lans lan).rewrite s imported lan =
          { seen := true, mode := mode } := by
        rw [hlan]
        simp [ImportedLan.rewrite, hchanged, hrouted]
      rw [hread, hstate _ hx]
      show some _ = some _
      refine congrArg some (Import.ext rfl ?_ rfl)
      show update _ lan _ = _
      rw [hfresh']

theorem key_of_ofKey {key : CText} (h : LanField.ofKey key = some field) :
    key = field.key := by
  unfold LanField.ofKey at h
  split at h
  · cases h
    assumption
  split at h
  · cases h
    assumption
  split at h
  · cases h
    assumption
  split at h
  · cases h
    assumption
  · cases h

theorem keys_of_field (field : LanField) :
    addressKey field.key = true ∧ dnsKey field.key = false ∧
      (field.key = text "gateway" ↔ field = .gateway) := by
  cases field <;> decide

/-- A line that says nothing of a route leaves the default route. -/
theorem rewrite_eq_withLan (st st' : Import) (howned : st'.owned = st.owned) {y x : ImportedLan}
    (hlans : st'.lans = update st.lans lan y) (hx : y.rewrite s imported lan = x)
    (hgateway : x.fields .gateway = ((st.lans lan).rewrite s imported lan).fields .gateway) :
    st'.rewrite s imported = (st.rewrite s imported).withLan lan x := by
  have hlan : ∀ j, (st'.lans j).rewrite s imported j =
      update (st.rewrite s imported).lans lan x j := by
    intro j
    rw [hlans]
    by_cases heq : j = lan
    · subst heq
      rw [update_self, update_self, hx]
    · rw [update_of_ne heq, update_of_ne heq]
      rfl
  refine Import.ext howned (funext hlan) ?_
  show routeOf (fun j => (((st'.lans j).rewrite s imported j).fields .gateway).isSome) =
    routeOf fun j => (((st.lans j).rewrite s imported j).fields .gateway).isSome
  congr 1
  funext j
  rw [hlan j]
  by_cases heq : j = lan
  · subst heq
    rw [update_self, hgateway]
  · rw [update_of_ne heq]
    rfl

theorem withLan_self (st : Import) (lan : Lan) : st.withLan lan (st.lans lan) = st := by
  unfold Import.withLan
  rw [update_eq_self]

theorem import_field {st st' : Import} {value raw : CText}
    (hkind : readLine p raw = some (.field field.key value)) (h : Reading imported st)
    (h' : Reading imported st') (howned : st.owned = some lan)
    (hact : importField st lan field value = some st') :
    (rewritten p s imported (some lan) raw (.field field.key value)).foldlM (importLine p)
      (st.rewrite s imported) = some (st'.rewrite s imported) := by
  obtain ⟨hnone, hparse, hroute, rfl⟩ := importField_eq_some.mp hact
  obtain ⟨haddress, hdns, hgateway⟩ := keys_of_field field
  have hseen := h.owned lan howned
  have hlan : (st.withField lan field value).lans lan =
      { st.lans lan with fields := update (st.lans lan).fields field (some value) } :=
    update_self ..
  simp only [rewritten, hdns, haddress, hgateway, Bool.false_eq_true, if_false, and_true]
  by_cases hdropped : addressesChanged s imported lan = true ∨
      routeChanged s imported lan = true ∧ field = .gateway
  · -- The line is not written, and what it says is not read of the interface.
    have hsame : ImportedLan.rewrite s imported lan
        { st.lans lan with fields := update (st.lans lan).fields field (some value) } =
          (st.lans lan).rewrite s imported lan := by
      unfold ImportedLan.rewrite
      simp only [hseen, if_true]
      refine ImportedLan.ext rfl rfl ?_ rfl
      funext other
      rcases hdropped with hchanged | ⟨hrouted, rfl⟩
      · simp [hchanged]
      · by_cases hother : other = .gateway
        · simp [hother, hrouted]
        · simp [hother]
    have hlines : (if routeChanged s imported lan = true ∧ field = LanField.gateway then []
        else if addressesChanged s imported lan = true then [] else [raw]) = ([] : List CText) := by
      rcases hdropped with hchanged | hrouted
      · simp [hchanged]
      · rw [if_pos hrouted]
    have hstate : (st.withField lan field value).rewrite s imported = st.rewrite s imported :=
      (rewrite_eq_withLan st (st.withField lan field value) rfl rfl hsame rfl).trans
        (withLan_self (st.rewrite s imported) lan)
    rw [hlines, hstate]
    rfl
  · obtain ⟨hchanged, hrouted⟩ := not_or.mp hdropped
    have hfields : ∀ other, other = field ∨ other ≠ .gateway →
        ((st.lans lan).rewrite s imported lan).fields other = (st.lans lan).fields other := by
      intro other hother
      unfold ImportedLan.rewrite
      rw [if_pos hseen]
      simp only [hchanged, Bool.false_eq_true, if_false]
      refine if_neg ?_
      rintro ⟨rfl, hroute'⟩
      exact hother.elim (fun heq => hrouted ⟨hroute', heq.symm⟩) (fun hne => hne rfl)
    -- the line stays, and reading it commutes with the rewriting
    have hx : ImportedLan.rewrite s imported lan
        { st.lans lan with fields := update (st.lans lan).fields field (some value) } =
          { (st.lans lan).rewrite s imported lan with
            fields := update ((st.lans lan).rewrite s imported lan).fields field (some value) } := by
      unfold ImportedLan.rewrite
      simp only [hseen, if_true, hchanged, Bool.false_eq_true, if_false]
      refine ImportedLan.ext rfl rfl ?_ rfl
      funext other
      by_cases hother : other = field
      · subst hother
        simp only [update_self]
        exact if_neg fun hboth => hrouted ⟨hboth.2, hboth.1⟩
      · simp only [update_of_ne hother]
    have hbefore : ((st.lans lan).rewrite s imported lan).fields field = none :=
      (hfields field (.inl rfl)).trans hnone
    have hdefault : field = .gateway → (st.rewrite s imported).defaultLan = 0 := by
      rintro rfl
      have hwritten : s.defaultLan = lan.val + 1 := by
        refine route_of_rewrite (s := s) h' ?_
        rw [hlan, hx]
        simp
      exact defaultLan_rewrite h hwritten (by rw [hbefore]; rfl)
    have hread : importLine p (st.rewrite s imported) raw =
        some ((st.rewrite s imported).withField lan field value) := by
      refine importLine_eq_some.mpr ⟨_, hkind, ?_⟩
      have howned' : (st.rewrite s imported).owned = some lan := howned
      simp only [actLine, howned', importOwned, LanField.ofKey_key]
      exact importField_eq_some.mpr ⟨hbefore, hparse, hdefault, rfl⟩
    rw [if_neg hrouted, if_neg hchanged, List.foldlM_cons, hread]
    show some _ = some _
    refine congrArg some ?_
    by_cases hfield : field = .gateway
    · subst hfield
      rw [rewrite_eq st h' howned ⟨_, rfl⟩ hbefore (hlan ▸ hx)]
      refine Import.ext howned rfl ?_
      simp [Import.withField]
    · have hstate : (st.withField lan field value).rewrite s imported =
          (st.rewrite s imported).withLan lan _ :=
        rewrite_eq_withLan st (st.withField lan field value) rfl rfl hx
          (update_of_ne (Ne.symm hfield) _ _)
      rw [hstate]
      refine Import.ext rfl rfl ?_
      simp [Import.withField, hfield]
      rfl

theorem ofKey_of_dnsKey {key : CText} (h : dnsKey key = true) : LanField.ofKey key = none := by
  simp only [dnsKey, Bool.or_eq_true, decide_eq_true_eq] at h
  rcases h with rfl | rfl <;> decide

/-- The servers of an interface in what is written. -/
theorem import_dns (hs : Writes s) {st st' : Import} {key value raw : CText} (hkey : dnsKey key = true)
    (hkind : readLine p raw = some (.field key value)) (h : Reading imported st)
    (howned : st.owned = some lan) (hact : importDns st lan value = some st') (htwice : ¬ NamedTwice s) :
    (rewritten p s imported (some lan) raw (.field key value)).foldlM (importLine p) (st.rewrite s imported) =
      some (st'.rewrite s imported) := by
  obtain ⟨hnone, dns, hdns, rfl⟩ := importDns_eq_some.mp hact
  have hseen := h.owned lan howned
  have hbefore : ((st.lans lan).rewrite s imported lan).dns = none := by
    unfold ImportedLan.rewrite
    rw [if_pos hseen, hnone]
    rfl
  -- What is read of a line with the servers of the settings.
  have hread : ∀ line v, readLine p line = some (.field key v) → dnsLine v = some s.dns →
      importLine p (st.rewrite s imported) line = some ((st.rewrite s imported).withDns lan s.dns) := by
    intro line v hline hv
    refine importLine_eq_some.mpr ⟨_, hline, ?_⟩
    have howned' : (st.rewrite s imported).owned = some lan := howned
    simp only [actLine, howned', importOwned, ofKey_of_dnsKey hkey, hkey, if_true]
    exact importDns_eq_some.mpr ⟨hbefore, s.dns, hv, rfl⟩
  have hstate : ∀ x, ImportedLan.rewrite s imported lan { st.lans lan with dns := some dns } =
      { (st.lans lan).rewrite s imported lan with dns := x } →
        (st.withDns lan dns).rewrite s imported =
          (st.rewrite s imported).withLan lan { (st.lans lan).rewrite s imported lan with dns := x } :=
    fun x hx => rewrite_eq_withLan st (st.withDns lan dns) rfl rfl hx rfl
  have hx : ImportedLan.rewrite s imported lan { st.lans lan with dns := some dns } =
      { (st.lans lan).rewrite s imported lan with
        dns := if s.automaticDns ≠ 0 ∨ s.dns 0 = [] then none else some s.dns } := by
    simp [ImportedLan.rewrite, hseen]
  rw [hstate _ hx]
  simp only [rewritten, hkey, if_true]
  unfold serverLines
  by_cases hmanual : s.automaticDns = 0
  · have hgiven : dns = s.dns → s.dns 0 ≠ [] := by
      rintro rfl hnil
      have hserver := (dnsLine_some hdns).1
      rw [hnil] at hserver
      cases hserver
    by_cases hsame : dns = s.dns
    · simp only [hmanual, hdns, hsame, ne_eq, not_true_eq_false, if_false, false_or, hgiven hsame,
        List.foldlM_cons, List.foldlM_nil]
      rw [hread raw value hkind (by rw [hdns, hsame])]
      rfl
    · simp only [hmanual, hdns, ne_eq, not_true_eq_false, if_false, Option.some.injEq, hsame,
        not_false_eq_true, if_true, false_or]
      by_cases hnil : s.dns 0 = []
      · simp only [if_pos hnil, List.foldlM_nil]
        refine congrArg some ((withLan_self (st.rewrite s imported) lan).symm.trans ?_)
        congr 1
        exact ImportedLan.ext rfl rfl rfl hbefore
      · simp only [if_neg hnil, List.foldlM_cons, List.foldlM_nil]
        rw [hread _ _ (readLine_serversText hs hmanual hnil hkey)
          (by rw [dnsLine_serversValue hs hmanual hnil, if_neg htwice])]
        rfl
  · simp only [ne_eq, hmanual, not_false_eq_true, if_true, true_or, List.foldlM_nil]
    refine congrArg some ((withLan_self (st.rewrite s imported) lan).symm.trans ?_)
    congr 1
    exact ImportedLan.ext rfl rfl rfl hbefore

/-- **The lines that are written for a line are read as the line, with the new settings.** -/
theorem import_rewritten (hs : Writes s) {st st' : Import} (hraw : Lines 10 [raw])
    (hkind : readLine p raw = some kind) (hact : actLine st kind = some st') (h : Reading imported st)
    (h' : Reading imported st') (htwice : dnsField st.owned kind = true → ¬ NamedTwice s) :
    (rewritten p s imported st.owned raw kind).foldlM (importLine p) (st.rewrite s imported) =
      some (st'.rewrite s imported) := by
  have hself : ∀ next, actLine (st.rewrite s imported) kind = some next →
      [raw].foldlM (importLine p) (st.rewrite s imported) = some next := by
    intro next hnext
    rw [List.foldlM_cons, importLine_eq_some.mpr ⟨kind, hkind, hnext⟩]
    rfl
  cases kind with
  | skipped =>
    obtain rfl := Option.some.inj hact
    exact hself _ rfl
  | leave =>
    obtain rfl := Option.some.inj hact
    exact hself _ rfl
  | iface lan mode => exact import_iface hs hraw hkind h h' hact
  | field key value =>
    simp only [actLine] at hact
    cases howned : st.owned with
    | none =>
      simp only [howned, Option.some.injEq] at hact
      subst hact
      refine hself _ ?_
      have howned' : (st.rewrite s imported).owned = none := howned
      simp only [actLine, howned']
    | some lan =>
      simp only [howned] at hact
      by_cases hdns : dnsKey key = true
      · have hact' : importDns st lan value = some st' := by
          simpa [importOwned, ofKey_of_dnsKey hdns, hdns] using hact
        exact import_dns hs hdns hkind h howned hact' (htwice (by simp [dnsField, howned, hdns]))
      · cases hfield : LanField.ofKey key with
        | some field =>
          simp only [importOwned, hfield] at hact
          obtain rfl := key_of_ofKey hfield
          exact import_field hkind h h' howned hact
        | none =>
          have hvendor : importOwned (st.rewrite s imported) lan
              { raw := [], key := key, value := value } = some (st.rewrite s imported) ∧ st' = st := by
            simp only [importOwned, hfield, hdns, Bool.false_eq_true, if_false] at hact ⊢
            split at hact
            · rename_i hmem
              exact ⟨if_pos hmem, (Option.some.inj hact).symm⟩
            · cases hact
          obtain ⟨hvendor, rfl⟩ := hvendor
          have hgateway : key ≠ text "gateway" := by
            rintro rfl
            cases hfield
          simp only [rewritten, hdns, hgateway, Bool.false_eq_true, if_false, and_false]
          split
          · rfl
          · refine hself _ ?_
            have howned' : (st'.rewrite s imported).owned = some lan := howned
            simp only [actLine, howned']
            exact hvendor

/-! ## The whole document -/

/-- An owned stanza has a line of servers. -/
def namesServers (p : Platform) : Option Lan → List CText → Bool
  | _, [] => false
  | owned, raw :: lines =>
      let kind := (readLine p raw).getD .skipped
      dnsField owned kind || namesServers p (kind.after owned) lines

/-- **The document that is written is read.** -/
theorem import_rewriteLines (hs : Writes s) {lines : List CText} {st final : Import}
    (hlines : Lines 10 lines) (h : lines.foldlM (importLine p) st = some final) (hread : Reading imported st)
    (hfinal : final.defaultLan = imported.defaultLan)
    (htwice : namesServers p st.owned lines = true → ¬ NamedTwice s) :
    (rewriteLines p s imported st.owned lines).foldlM (importLine p) (st.rewrite s imported) =
      some (final.rewrite s imported) ∧ Reading imported final := by
  induction lines generalizing st with
  | nil =>
    obtain rfl := Option.some.inj h
    exact ⟨rfl, hread⟩
  | cons raw lines ih =>
    rw [List.foldlM_cons, Option.bind_eq_bind, Option.bind_eq_some_iff] at h
    obtain ⟨next, hnext, hrest⟩ := h
    obtain ⟨kind, hkind, hact⟩ := importLine_eq_some.mp hnext
    simp only [namesServers, hkind, Option.getD_some, Bool.or_eq_true, ← owned_of_act hact] at htwice
    have hnextRead : Reading imported next := reading_of_act hread hact fun hne => by
      rw [← hfinal, (keeps_of_import hrest).route hne]
    obtain ⟨hwritten, hlast⟩ := ih hlines.tail hrest hnextRead fun hnames => htwice (.inr hnames)
    refine ⟨?_, hlast⟩
    unfold rewriteLines
    simp only [hkind, Option.getD_some, ← owned_of_act hact]
    rw [List.foldlM_append, import_rewritten hs hlines.head hkind hact hread hnextRead
      fun hdns => htwice (.inl hdns)]
    exact hwritten

/-- A line of servers that would name one twice is not read. -/
theorem import_twice (hs : Writes s) (htwice : NamedTwice s) (hdns : dnsField st.owned kind = true) :
    (rewritten p s imported st.owned raw kind).foldlM (importLine p) (st.rewrite s imported) = none := by
  obtain ⟨hmanual, hsame, hgiven⟩ := htwice
  cases kind with
  | skipped | leave | iface lan mode => cases hdns
  | field key value =>
    simp only [dnsField, Bool.and_eq_true, Option.isSome_iff_exists] at hdns
    obtain ⟨⟨lan, howned⟩, hkey⟩ := hdns
    have hother : dnsLine value ≠ some s.dns := fun h => (dnsLine_some h).2 hsame
    have hvalue := dnsLine_serversValue hs hmanual hgiven
    rw [if_pos ⟨hmanual, hsame, hgiven⟩] at hvalue
    simp only [rewritten, howned, hkey, if_true, serverLines, hmanual, ne_eq, not_true_eq_false, if_false,
      hother, not_false_eq_true, hgiven, List.foldlM_cons]
    rw [importLine_eq, readLine_serversText hs hmanual hgiven hkey]
    have howned' : (st.rewrite s imported).owned = some lan := howned
    simp only [Option.bind_eq_bind, Option.bind_some, actLine, howned', importOwned, ofKey_of_dnsKey hkey, hkey,
      if_true, importDns, hvalue, Option.map_none, ite_self]
    rfl

/-- Where a document has such a line, what is written is not read. -/
theorem import_named_twice (hs : Writes s) {lines : List CText} {st final : Import}
    (hlines : Lines 10 lines) (h : lines.foldlM (importLine p) st = some final) (hread : Reading imported st)
    (hfinal : final.defaultLan = imported.defaultLan) (hnames : namesServers p st.owned lines = true)
    (htwice : NamedTwice s) :
    (rewriteLines p s imported st.owned lines).foldlM (importLine p) (st.rewrite s imported) = none := by
  induction lines generalizing st with
  | nil => cases hnames
  | cons raw lines ih =>
    rw [List.foldlM_cons, Option.bind_eq_bind, Option.bind_eq_some_iff] at h
    obtain ⟨next, hnext, hrest⟩ := h
    obtain ⟨kind, hkind, hact⟩ := importLine_eq_some.mp hnext
    have hnextRead : Reading imported next := reading_of_act hread hact fun hne => by
      rw [← hfinal, (keeps_of_import hrest).route hne]
    simp only [namesServers, hkind, Option.getD_some, Bool.or_eq_true, ← owned_of_act hact] at hnames
    unfold rewriteLines
    simp only [hkind, Option.getD_some, ← owned_of_act hact]
    rw [List.foldlM_append]
    by_cases hdns : dnsField st.owned kind = true
    · rw [import_twice hs htwice hdns]
      rfl
    · rw [import_rewritten hs hlines.head hkind hact hread hnextRead fun h => absurd h hdns]
      exact ih hlines.tail hrest hnextRead (hnames.resolve_left hdns)

end FourVrs.Network
