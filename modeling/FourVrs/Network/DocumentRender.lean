import FourVrs.Network.DocumentText

/-!
# What is written for a line

The reader and the writer of a document look at a line in the same way: `readLine` says what a
line is, `actLine` what the reader does with it and `rewritten` which lines the writer puts in
its place. A document that the reader takes is written line by line, and fails to be written
only where the buffer ends.
-/

set_option autoImplicit false

namespace FourVrs.Network

open Config Lib

/-! ## What a line is -/

/-- A line, as far as it matters whose stanza it stands in. -/
inductive LineKind where
  /-- Nothing, or a comment. -/
  | skipped
  /-- The first line of an owned stanza. -/
  | iface (lan : Lan) (mode : LanMode)
  /-- What ends a stanza and begins none that is owned. -/
  | leave
  | field (key value : CText)

def readLine (p : Platform) (raw : CText) : Option LineKind := do
  let l ← nextLine raw
  if skipped l then some .skipped
  else if unfollowed l then none
  else
    match ← iface p l with
    | .owned lan mode => some (.iface lan mode)
    | .other => some .leave
    | .absent => if stanzaEnd l.key then some .leave else some (.field l.key l.value)

/-- The stanza behind a line. -/
def LineKind.after (owned : Option Lan) : LineKind → Option Lan
  | .skipped | .field _ _ => owned
  | .iface lan _ => some lan
  | .leave => none

def actLine (st : Import) : LineKind → Option Import
  | .skipped => some st
  | .iface lan mode => importIface st lan mode
  | .leave => some { st with owned := none }
  | .field key value =>
      match st.owned with
      | none => some st
      | some lan => importOwned st lan { raw := [], key := key, value := value }

theorem importLine_eq (p : Platform) (st : Import) (raw : CText) :
    importLine p st raw = (readLine p raw).bind (actLine st) := by
  unfold importLine readLine
  simp only [Option.bind_eq_bind, Option.bind_assoc]
  congr 1
  funext l
  by_cases hskipped : skipped l = true
  · simp [hskipped, actLine]
  by_cases hunfollowed : unfollowed l = true
  · simp [hskipped, hunfollowed]
  · simp only [hskipped, hunfollowed, Bool.false_eq_true, if_false, Option.bind_assoc]
    congr 1
    funext line
    cases line with
    | owned lan mode | other => rfl
    | absent =>
      by_cases hend : stanzaEnd l.key = true
      · simp [hend, actLine]
      · simp only [hend, Bool.false_eq_true, if_false, Option.bind_some, actLine]
        cases st.owned <;> rfl

/-! ## What the reader does with it -/

/-- The first line of a stanza was read. -/
def Import.withIface (st : Import) (lan : Lan) (mode : LanMode) : Import :=
  { st.withLan lan { st.lans lan with seen := true, mode := mode } with owned := some lan }

/-- A field was read. -/
def Import.withField (st : Import) (lan : Lan) (field : LanField) (value : CText) : Import :=
  { st.withLan lan { st.lans lan with fields := Function.update (st.lans lan).fields field (some value) } with
    defaultLan := if field = .gateway then lan.val + 1 else st.defaultLan }

/-- The name servers were read. -/
def Import.withDns (st : Import) (lan : Lan) (dns : Fin 2 → CText) : Import :=
  st.withLan lan { st.lans lan with dns := some dns }

theorem importIface_eq_some {st st' : Import} {lan : Lan} {mode : LanMode} :
    importIface st lan mode = some st' ↔ (st.lans lan).seen = false ∧ st' = st.withIface lan mode := by
  unfold importIface Import.withIface
  cases (st.lans lan).seen with
  | true => simp
  | false =>
    simp only [Bool.false_eq_true, if_false, Option.some.injEq, true_and]
    exact eq_comm

theorem importField_eq_some {st st' : Import} {lan : Lan} {field : LanField} {value : CText} :
    importField st lan field value = some st' ↔
      (st.lans lan).fields field = none ∧ (ipv4Parse value).isSome = true ∧
        (field = .gateway → st.defaultLan = 0) ∧ st' = st.withField lan field value := by
  constructor
  · intro h
    unfold importField at h
    split at h
    · cases h
    · rename_i hgood
      obtain ⟨hnone, hparse⟩ := not_or.mp hgood
      have hnone : (st.lans lan).fields field = none := by simpa using hnone
      have hparse : (ipv4Parse value).isSome = true := by
        simpa [Option.isSome_iff_ne_none] using hparse
      simp only [] at h
      split at h
      · rename_i hfield
        split at h
        · cases h
        · rename_i hroute
          obtain rfl := Option.some.inj h
          refine ⟨hnone, hparse, fun _ => by simpa [Import.withLan] using hroute, ?_⟩
          unfold Import.withField
          rw [if_pos hfield]
      · rename_i hfield
        obtain rfl := Option.some.inj h
        refine ⟨hnone, hparse, fun heq => absurd heq hfield, ?_⟩
        unfold Import.withField
        rw [if_neg hfield]
        rfl
  · rintro ⟨hnone, hparse, hroute, rfl⟩
    unfold importField Import.withField
    rw [if_neg (by simpa [hnone, Option.isSome_iff_ne_none] using hparse)]
    by_cases hfield : field = .gateway
    · have hzero : ¬ (st.withLan lan { st.lans lan with
          fields := Function.update (st.lans lan).fields field (some value) }).defaultLan ≠ 0 := by
        simpa [Import.withLan] using hroute hfield
      simp only [if_pos hfield]
      rw [if_neg hzero]
    · simp only [if_neg hfield]
      rfl

theorem importDns_eq_some {st st' : Import} {lan : Lan} {value : CText} :
    importDns st lan value = some st' ↔
      (st.lans lan).dns = none ∧ ∃ dns, dnsLine value = some dns ∧ st' = st.withDns lan dns := by
  unfold importDns
  cases (st.lans lan).dns with
  | some dns => simp
  | none =>
    simp only [Option.isSome_none, Bool.false_eq_true, if_false, true_and, Option.map_eq_some_iff]
    constructor
    · rintro ⟨dns, hdns, rfl⟩
      exact ⟨dns, hdns, rfl⟩
    · rintro ⟨dns, hdns, rfl⟩
      exact ⟨dns, hdns, rfl⟩

theorem owned_of_act {st st' : Import} {kind : LineKind} (h : actLine st kind = some st') :
    st'.owned = kind.after st.owned := by
  cases kind with
  | skipped =>
    obtain rfl := Option.some.inj h
    rfl
  | iface lan mode =>
    obtain ⟨-, rfl⟩ := importIface_eq_some.mp h
    rfl
  | leave =>
    obtain rfl := Option.some.inj h
    rfl
  | field key value =>
    simp only [actLine] at h
    cases howned : st.owned with
    | none =>
      simp only [howned, Option.some.injEq] at h
      rw [← h]
      exact howned
    | some lan =>
      simp only [howned, importOwned] at h
      split at h
      · obtain ⟨-, -, -, rfl⟩ := importField_eq_some.mp h
        exact howned
      split at h
      · obtain ⟨-, dns, -, rfl⟩ := importDns_eq_some.mp h
        exact howned
      split at h
      · obtain rfl := Option.some.inj h
        exact howned
      · cases h

/-! ## The lines in its place -/

section Rewrite

variable (p : Platform) (s imported : NetworkSettings)

/-- The route of a static interface. -/
def gatewayLines (lan : Lan) : List CText :=
  if s.defaultLan = lan.val + 1 ∧ (s.lan lan).mode = .static then
    [fieldText (text "gateway") (s.lan lan).gateway]
  else []

/-- The network of a static interface, and its broadcast address. -/
def hostOf (lan : LanSettings) : BitVec 32 := (ipv4Parse lan.address).getD 0
def maskOf (lan : LanSettings) : BitVec 32 := (ipv4Parse lan.netmask).getD 0

def networkText (lan : LanSettings) : CText := ipv4Format (hostOf lan &&& maskOf lan)
def broadcastText (lan : LanSettings) : CText := ipv4Format (hostOf lan ||| ~~~maskOf lan)

/-- The lines of a stanza that is written again. -/
def stanzaLines (lan : Lan) : List CText :=
  ifaceText p lan (s.lan lan).mode ::
    (match (s.lan lan).mode with
    | .dhcpClient => []
    | .static =>
        [fieldText (text "address") (s.lan lan).address,
          fieldText (text "network") (networkText (s.lan lan)),
          fieldText (text "netmask") (s.lan lan).netmask,
          fieldText (text "broadcast") (broadcastText (s.lan lan))] ++ gatewayLines s lan)

/-- A line with its newline. -/
def ended (raw : CText) : CText := if raw.getLast? = some 10 then raw else raw ++ [10]

def routeLines (lan : Lan) (raw : CText) : List CText :=
  match gatewayLines s lan with
  | [] => [raw]
  | lines => ended raw :: lines

def serverLines (raw key value : CText) : List CText :=
  if s.automaticDns ≠ 0 then []
  else if dnsLine value ≠ some s.dns then if s.dns 0 = [] then [] else [serversText key s.dns]
  else [raw]

/-- The lines that are written for one, in the stanza of `owned`. -/
def rewritten (owned : Option Lan) (raw : CText) : LineKind → List CText
  | .skipped | .leave => [raw]
  | .iface lan _ =>
      if addressesChanged s imported lan then stanzaLines p s lan
      else if routeChanged s imported lan then routeLines s lan raw
      else [raw]
  | .field key value =>
      match owned with
      | none => [raw]
      | some lan =>
          if dnsKey key then serverLines s raw key value
          else if routeChanged s imported lan ∧ key = text "gateway" then []
          else if addressesChanged s imported lan ∧ addressKey key then []
          else [raw]

/-- The lines that are written for a document. -/
def rewriteLines : Option Lan → List CText → List CText
  | _, [] => []
  | owned, raw :: lines =>
      let kind := (readLine p raw).getD .skipped
      rewritten p s imported owned raw kind ++ rewriteLines (kind.after owned) lines

end Rewrite

/-! ## Valid settings -/

/-- What the writer needs of the settings: the texts it writes are addresses. -/
structure Writes (s : NetworkSettings) : Prop where
  host : ∀ lan, (s.lan lan).mode = .static →
    ∃ a m, ipv4Parse (s.lan lan).address = some a ∧ ipv4Parse (s.lan lan).netmask = some m
  gateway : ∀ lan : Lan, (s.lan lan).mode = .static → s.defaultLan = lan.val + 1 →
    ∃ g, ipv4Parse (s.lan lan).gateway = some g
  dns : s.automaticDns = 0 → ∀ i, s.dns i ≠ [] → dnsServer (s.dns i) = true

theorem dnsServer_of_optional {server : CText} {a : BitVec 32} (hne : server ≠ [])
    (h : optionalAddress server = some a) (hunicast : a = 0 ∨ unicast a = true) : dnsServer server = true := by
  unfold optionalAddress at h
  rw [if_neg hne] at h
  split at h
  · rename_i b hparse
    split at h
    · rename_i hzero
      obtain rfl := Option.some.inj h
      have hu := hunicast.resolve_left hzero
      simp only [unicast, decide_eq_true_eq] at hu
      unfold dnsServer
      rw [hparse]
      show (decide (b ≠ 0) && decide (b.toNat / 2 ^ 24 ≠ 127) && decide (b.toNat / 2 ^ 24 < 224)) = true
      simp only [Bool.and_eq_true, decide_eq_true_eq]
      exact ⟨⟨hzero, hu.2.1⟩, hu.2.2⟩
    · cases h
  · cases h

theorem validateDns_of_validate {s : NetworkSettings} (h : settingsValidate s = .ok) :
    validateDns s = .ok := by
  unfold settingsValidate at h
  split at h
  · cases h
  split at h
  · rename_i e herror
    exact absurd h (validateLan_error herror)
  split at h
  · rename_i e herror
    exact absurd h (validateLan_error herror)
  · split at h
    · cases h
    · exact h

/-- The default route of a static interface has a router. -/
theorem gateway_of_validateLan {s : NetworkSettings} {i : Lan} {r : BitVec 32 × BitVec 32}
    (hmode : (s.lan i).mode = .static) (hdefault : s.defaultLan = i.val + 1)
    (h : validateLan s i = .ok r) : (s.lan i).gateway ≠ [] := by
  intro hnone
  simp only [validateLan, hmode, hnone, hdefault, optionalAddress, if_true, true_and] at h
  repeat' split at h
  all_goals cases h

theorem writes_of_validate {s : NetworkSettings} (h : settingsValidate s = .ok) : Writes s where
  host := by
    intro lan hmode
    obtain ⟨a, m, hhost⟩ := staticHost_of_validate h hmode
    exact ⟨a, m, hhost.address, hhost.netmask⟩
  gateway := by
    intro lan hmode hdefault
    obtain ⟨r₀, r₁, hfirst, hsecond, -⟩ := validate_lans h
    have hgiven : (s.lan lan).gateway ≠ [] := by
      rcases lan_cases lan with rfl | rfl
      · exact gateway_of_validateLan hmode hdefault hfirst
      · exact gateway_of_validateLan hmode hdefault hsecond
    obtain ⟨a, m, hhost⟩ := staticHost_of_validate h hmode
    obtain ⟨g, hg, -⟩ := hhost.gateway hgiven
    exact ⟨g, hg⟩
  dns := by
    intro hmanual i hgiven
    have hdns := validateDns_of_validate h
    unfold validateDns at hdns
    rw [if_neg (by simp [hmanual])] at hdns
    cases h₀ : optionalAddress (s.dns 0) with
    | none => simp [h₀] at hdns
    | some a₀ =>
      cases h₁ : optionalAddress (s.dns 1) with
      | none => simp [h₁] at hdns
      | some a₁ =>
        simp only [h₀, h₁] at hdns
        split at hdns
        · rename_i hboth
          simp only [Bool.and_eq_true, Bool.or_eq_true, decide_eq_true_eq] at hboth
          rcases lan_cases i with rfl | rfl
          · exact dnsServer_of_optional hgiven h₀ hboth.1
          · exact dnsServer_of_optional hgiven h₁ hboth.2
        · cases hdns

/-! ## The buffer -/

/-- A text that fits into the buffer, with the byte behind it. -/
def room (cap : Nat) (out : CText) : Option CText := if out.length < cap then some out else none

section Buffer

variable {cap limit : Nat} {out x y : CText}

theorem appendTo_eq (hout : out.length < cap) : appendTo cap out x = room cap (out ++ x) := by
  unfold appendTo room
  by_cases hfits : (out ++ x).length < cap
  · rw [if_pos hfits, if_pos]
    rw [List.length_append] at hfits
    exact ⟨hout, by omega⟩
  · rw [if_neg hfits, if_neg]
    rw [List.length_append] at hfits
    omega

theorem appendPrinted_eq (hlimit : x.length < limit) (hout : out.length < cap) :
    appendPrinted limit cap out x = room cap (out ++ x) := by
  unfold appendPrinted
  rw [if_pos hlimit, appendTo_eq hout]

theorem room_of_lt (hout : out.length < cap) : room cap out = some out := if_pos hout

/-- One piece behind another: both fit when their text does. -/
theorem room_bind {f : CText → Option CText} (hf : x.length < cap → f x = room cap (x ++ y)) :
    (room cap x).bind f = room cap (x ++ y) := by
  by_cases hfits : x.length < cap
  · rw [room_of_lt hfits]
    exact hf hfits
  · have hboth : ¬ (x ++ y).length < cap := by
      rw [List.length_append]
      omega
    unfold room
    rw [if_neg hfits, if_neg hboth]
    rfl

end Buffer

section Written

variable {p : Platform} {s imported : NetworkSettings} {cap : Nat} {out : CText}

theorem length_fieldText (key value : CText) :
    (fieldText key value).length = key.length + value.length + 3 := by
  simp only [fieldText, List.length_append]
  show 1 + key.length + 1 + value.length + 1 = _
  omega

theorem length_ifaceText (p : Platform) (lan : Lan) (mode : LanMode) : (ifaceText p lan mode).length < 256 := by
  cases p <;> rcases lan_cases lan with rfl | rfl <;> cases mode <;> decide

theorem appendPrinted_gateway (hs : Writes s) (lan : Lan) {limit : Nat} (hlimit : 48 ≤ limit)
    (hroute : s.defaultLan = lan.val + 1 ∧ (s.lan lan).mode = .static) (hout : out.length < cap) :
    appendPrinted limit cap out (fieldText (text "gateway") (s.lan lan).gateway) =
      room cap (out ++ (gatewayLines s lan).flatten) := by
  obtain ⟨g, hg⟩ := hs.gateway lan hroute.2 hroute.1
  have hlength := (addressText_of_parse hg).length
  have hkey : (text "gateway").length = 7 := rfl
  rw [appendPrinted_eq (by rw [length_fieldText]; omega) hout]
  unfold gatewayLines
  rw [if_pos hroute]
  simp

theorem renderLan_eq (hs : Writes s) (lan : Lan) (hout : out.length < cap) :
    renderLan p s lan cap out = room cap (out ++ (stanzaLines p s lan).flatten) := by
  unfold renderLan stanzaLines
  rw [appendPrinted_eq (length_ifaceText _ _ _) hout]
  cases hmode : (s.lan lan).mode with
  | dhcpClient =>
    simp only [if_true, List.flatten_cons, List.flatten_nil, List.append_nil]
    exact Option.bind_fun_some _
  | static =>
    obtain ⟨a, m, ha, hm⟩ := hs.host lan hmode
    have hhost : hostOf (s.lan lan) = a := by simp [hostOf, ha]
    have hmask : maskOf (s.lan lan) = m := by simp [maskOf, hm]
    have hla := (addressText_of_parse ha).length
    have hlm := (addressText_of_parse hm).length
    have hln := (addressText_format (a &&& m)).length
    have hlb := (addressText_format (a ||| ~~~m)).length
    simp only [reduceCtorEq, if_false, ha, hm, Option.bind_eq_bind]
    rw [List.flatten_cons, ← List.append_assoc]
    refine room_bind fun hz => ?_
    rw [appendPrinted_eq _ hz, List.flatten_append, ← List.append_assoc]
    · have hsame : addressLines (s.lan lan) a m =
          [fieldText (text "address") (s.lan lan).address,
            fieldText (text "network") (networkText (s.lan lan)),
            fieldText (text "netmask") (s.lan lan).netmask,
            fieldText (text "broadcast") (broadcastText (s.lan lan))].flatten := by
        simp [addressLines, networkText, broadcastText, hhost, hmask]
      rw [← hsame]
      refine room_bind fun hz => ?_
      by_cases hroute : s.defaultLan = lan.val + 1
      · rw [if_pos hroute]
        exact appendPrinted_gateway hs lan (by decide) ⟨hroute, hmode⟩ hz
      · have hnone : gatewayLines s lan = [] := if_neg fun h => hroute h.1
        rw [if_neg hroute, hnone, List.flatten_nil, List.append_nil, room_of_lt hz]
    · have hkeys : (text "address").length + (text "network").length + (text "netmask").length +
          (text "broadcast").length = 30 := rfl
      simp only [addressLines, List.length_append, length_fieldText]
      omega

/-- The last byte of a line, and its newline. -/
theorem flatten_routeLines (lan : Lan) (raw : CText) :
    (routeLines s lan raw).flatten =
      if gatewayLines s lan = [] then raw else ended raw ++ (gatewayLines s lan).flatten := by
  unfold routeLines
  cases gatewayLines s lan with
  | nil | cons line lines => simp

theorem renderRoute_eq (hs : Writes s) (lan : Lan) {raw : CText} (hraw : raw ≠ []) (hout : out.length < cap) :
    renderRoute s lan cap out raw = room cap (out ++ (routeLines s lan raw).flatten) := by
  unfold renderRoute
  rw [appendTo_eq hout, flatten_routeLines]
  by_cases hroute : s.defaultLan = lan.val + 1 ∧ (s.lan lan).mode = .static
  · have hsome : gatewayLines s lan ≠ [] := by
      unfold gatewayLines
      rw [if_pos hroute]
      simp
    simp only [if_pos hroute, if_neg hsome, Option.bind_eq_bind]
    have hlast : (out ++ raw).getLast? = raw.getLast? := List.getLast?_append_of_ne_nil _ hraw
    have hne : out ++ raw ≠ [] := by simp [hraw]
    unfold ended
    by_cases hended : raw.getLast? = some 10
    · rw [if_pos hended, ← List.append_assoc]
      refine room_bind fun hz => ?_
      unfold endLine
      rw [if_neg fun h => h.2 (hlast.trans hended), Option.bind_some]
      exact appendPrinted_gateway hs lan (by decide) hroute hz
    · rw [if_neg hended, List.append_assoc, ← List.append_assoc out]
      refine room_bind fun hz => ?_
      unfold endLine
      rw [if_pos ⟨hne, fun h => hended (hlast.symm.trans h)⟩, appendTo_eq hz, ← List.append_assoc]
      exact room_bind fun hz => appendPrinted_gateway hs lan (by decide) hroute hz
  · have hnone : gatewayLines s lan = [] := if_neg hroute
    simp only [if_neg hroute, if_pos hnone, Option.bind_eq_bind]
    exact Option.bind_fun_some _

/-- The texts of a line of servers. -/
theorem length_serversText (hs : Writes s) (hmanual : s.automaticDns = 0) {key : CText} (hkey : dnsKey key = true)
    (hgiven : s.dns 0 ≠ []) : (serversText key s.dns).length < 80 := by
  have hfirst := (addressText_of_server (hs.dns hmanual 0 hgiven)).length
  have hsecond : (s.dns 1).length ≤ 15 := by
    by_cases hnone : s.dns 1 = []
    · simp [hnone]
    · exact (addressText_of_server (hs.dns hmanual 1 hnone)).length
  have hlength : key.length ≤ 15 := by
    simp only [dnsKey, Bool.or_eq_true, decide_eq_true_eq] at hkey
    rcases hkey with rfl | rfl <;> decide
  have hspace : (if s.dns 1 = [] then [] else text " ").length ≤ 1 := by split <;> simp [text]
  unfold serversText
  rw [length_fieldText]
  simp only [List.length_append]
  omega

theorem renderDns_eq (hs : Writes s) {l : Line} (hkey : dnsKey l.key = true) {old : Fin 2 → CText}
    (hold : dnsLine l.value = some old) (hout : out.length < cap) :
    renderDns s cap out l = room cap (out ++ (serverLines s l.raw l.key l.value).flatten) := by
  unfold renderDns serverLines
  simp only [hold, Option.bind_eq_bind, Option.bind_some, ne_eq, Option.some.injEq]
  by_cases hmanual : s.automaticDns = 0
  · simp only [hmanual, not_true_eq_false, if_false]
    by_cases hsame : old = s.dns
    · simp [hsame, appendTo_eq hout]
    · simp only [hsame, not_false_eq_true, if_true]
      by_cases hgiven : s.dns 0 = []
      · simp [hgiven, room_of_lt hout]
      · simp only [hgiven, if_false, List.flatten_cons, List.flatten_nil, List.append_nil]
        exact appendPrinted_eq (length_serversText hs hmanual hkey hgiven) hout
  · simp [hmanual, room_of_lt hout]

/-- A comment and an empty line have no key the writer looks for. -/
theorem keys_of_skipped {l : Line} (h : skipped l = true) :
    l.key ≠ text "iface" ∧ stanzaEnd l.key = false ∧ dnsKey l.key = false ∧ l.key ≠ text "gateway" ∧
      addressKey l.key = false := by
  simp only [skipped, Bool.or_eq_true, decide_eq_true_eq] at h
  have hother : ∀ key ∈ [text "iface", text "auto", text "allow-hotplug", text "dns-nameserver",
      text "dns-nameservers", text "gateway", text "address", text "netmask", text "network",
      text "broadcast"], ¬ (key = [] ∨ key.head? = some (ascii '#')) := by decide
  have hkeys : ∀ key ∈ [text "iface", text "auto", text "allow-hotplug", text "dns-nameserver",
      text "dns-nameservers", text "gateway", text "address", text "netmask", text "network",
      text "broadcast"], l.key ≠ key := fun key hmem heq => hother key hmem (heq ▸ h)
  simp only [List.forall_mem_cons] at hkeys
  simp [stanzaEnd, dnsKey, addressKey, hkeys]

/-- The reader takes a line of servers only if it can read them. -/
theorem dnsLine_of_owned {st st' : Import} {lan : Lan} {l : Line} (hkey : dnsKey l.key = true)
    (h : importOwned st lan l = some st') :
    (st.lans lan).dns = none ∧ ∃ dns, dnsLine l.value = some dns ∧ st' = st.withDns lan dns := by
  have hfield : LanField.ofKey l.key = none := by
    simp only [dnsKey, Bool.or_eq_true, decide_eq_true_eq] at hkey
    rcases hkey with hkey | hkey <;> rw [hkey] <;> decide
  unfold importOwned at h
  simp only [hfield, hkey, if_true] at h
  exact importDns_eq_some.mp h

theorem renderOwned_eq (hs : Writes s) (lan : Lan) {l : Line}
    (hdns : dnsKey l.key = true → ∃ dns, dnsLine l.value = some dns) (hout : out.length < cap) :
    renderOwned s imported lan cap out l =
      room cap (out ++ (rewritten p s imported (some lan) l.raw (.field l.key l.value)).flatten) := by
  unfold renderOwned rewritten
  simp only []
  by_cases hkey : dnsKey l.key = true
  · obtain ⟨dns, hread⟩ := hdns hkey
    rw [if_pos hkey, if_pos hkey, renderDns_eq hs hkey hread hout]
  · rw [if_neg hkey, if_neg hkey]
    split
    · simp [room_of_lt hout]
    · split
      · simp [room_of_lt hout]
      · rw [appendTo_eq hout, List.flatten_singleton]

/-- **What is written for a line.** -/
theorem renderLine_eq (hs : Writes s) {raw : CText} (hraw : raw ≠ []) {kind : LineKind}
    (hkind : readLine p raw = some kind) {st st' : Import} (hact : actLine st kind = some st')
    (hout : out.length < cap) :
    renderLine p s imported cap (st.owned, out) raw =
      (room cap (out ++ (rewritten p s imported st.owned raw kind).flatten)).map (st'.owned, ·) := by
  have howned := owned_of_act hact
  rw [howned]
  unfold readLine at hkind
  simp only [Option.bind_eq_bind, Option.bind_eq_some_iff] at hkind
  obtain ⟨l, hl, hkind⟩ := hkind
  have hsame : l.raw = raw := by
    unfold nextLine at hl
    simp only [] at hl
    split at hl
    · cases hl
    · rw [← Option.some.inj hl]
  unfold renderLine
  simp only [hl, Option.bind_eq_bind, Option.bind_some]
  by_cases hskipped : skipped l = true
  · rw [if_pos hskipped] at hkind
    obtain rfl := Option.some.inj hkind
    obtain ⟨hiface, hend, hdns, hgateway, haddress⟩ := keys_of_skipped hskipped
    have habsent : iface p l = some .absent := if_pos hiface
    simp only [habsent, hend, Option.bind_some, Bool.false_eq_true, if_false, LineKind.after, rewritten]
    rw [List.flatten_singleton, ← appendTo_eq hout]
    cases st.owned with
    | none => rfl
    | some lan =>
      simp only [renderOwned, hdns, hgateway, haddress, hsame, Bool.false_eq_true, if_false, and_false]
  · rw [if_neg hskipped] at hkind
    split at hkind
    · cases hkind
    · rw [Option.bind_eq_some_iff] at hkind
      obtain ⟨line, hline, hkind⟩ := hkind
      simp only [hline, Option.bind_some]
      cases line with
      | owned lan mode =>
        obtain rfl := Option.some.inj hkind
        simp only [LineKind.after, rewritten]
        split
        · rw [renderLan_eq hs lan hout]
          cases room cap _ <;> rfl
        split
        · rw [renderRoute_eq hs lan hraw hout]
          cases room cap _ <;> rfl
        · rw [appendTo_eq hout, List.flatten_singleton]
          cases room cap _ <;> rfl
      | other =>
        obtain rfl := Option.some.inj hkind
        simp only [LineKind.after, rewritten, List.flatten_singleton, appendTo_eq hout]
      | absent =>
        by_cases hend : stanzaEnd l.key = true
        · simp only [hend, if_true] at hkind ⊢
          obtain rfl := Option.some.inj hkind
          simp only [LineKind.after, rewritten, List.flatten_singleton, appendTo_eq hout]
        · simp only [hend, Bool.false_eq_true, if_false] at hkind ⊢
          obtain rfl := Option.some.inj hkind
          simp only [LineKind.after]
          cases hst : st.owned with
          | none => simp only [rewritten, List.flatten_singleton, appendTo_eq hout]
          | some lan =>
            simp only [actLine, hst] at hact
            have hdns : dnsKey l.key = true → ∃ dns, dnsLine l.value = some dns := by
              intro hkey
              obtain ⟨-, dns, hread, -⟩ := dnsLine_of_owned hkey hact
              exact ⟨dns, hread⟩
            simp only [renderOwned_eq (p := p) hs lan hdns hout, hsame]

/-- **What is written for a document.** -/
theorem renderLines_eq (hs : Writes s) {lines : List CText} (hlines : ∀ raw ∈ lines, raw ≠ [])
    {st st' : Import} (h : lines.foldlM (importLine p) st = some st') (hout : out.length < cap) :
    lines.foldlM (renderLine p s imported cap) (st.owned, out) =
      (room cap (out ++ (rewriteLines p s imported st.owned lines).flatten)).map (st'.owned, ·) := by
  induction lines generalizing st out with
  | nil =>
    obtain rfl := Option.some.inj h
    simp only [rewriteLines, List.flatten_nil, List.append_nil, room_of_lt hout]
    rfl
  | cons raw lines ih =>
    rw [List.foldlM_cons, Option.bind_eq_bind, Option.bind_eq_some_iff] at h
    obtain ⟨next, hnext, hrest⟩ := h
    rw [importLine_eq, Option.bind_eq_some_iff] at hnext
    obtain ⟨kind, hkind, hact⟩ := hnext
    rw [List.foldlM_cons, renderLine_eq hs (hlines raw (by simp)) hkind hact hout]
    unfold rewriteLines
    simp only [hkind, Option.getD_some, ← owned_of_act hact]
    rw [List.flatten_append, ← List.append_assoc]
    generalize out ++ (rewritten p s imported st.owned raw kind).flatten = written
    by_cases hfits : written.length < cap
    · rw [room_of_lt hfits]
      exact ih (fun raw hraw => hlines raw (by simp [hraw])) hrest hfits
    · have hnot : ¬ (written ++ (rewriteLines p s imported next.owned lines).flatten).length < cap := by
        rw [List.length_append]
        omega
      unfold room
      rw [if_neg hfits, if_neg hnot]
      rfl

end Written

end FourVrs.Network
