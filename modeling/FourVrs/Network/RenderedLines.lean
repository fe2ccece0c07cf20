import FourVrs.Network.Rendering

/-!
# The lines that are rendered

The lines that are written are lines of the document that is written, each of them says what it
was written to say, and among them are all lines of the vendor's, in their order.
-/

set_option autoImplicit false

namespace FourVrs.Network

open Config Lib

/-! ## Written lines as lines that are read -/

/-- The keys that the gateway writes. -/
def LanField.key : LanField → CText
  | .address => text "address"
  | .netmask => text "netmask"
  | .gateway => text "gateway"
  | .network => text "network"

theorem LanField.ofKey_key (field : LanField) : LanField.ofKey field.key = some field := by
  cases field <;> decide

theorem readLine_congr (p : Platform) {raw raw' : CText} (h : lineText raw = lineText raw') :
    readLine p raw = readLine p raw' := by
  unfold readLine nextLine
  simp only [h]
  split <;> rfl

section Written

variable {p : Platform}

/-- A key the gateway writes in a stanza. -/
def writtenKeys : List CText :=
  [text "address", text "netmask", text "gateway", text "network", text "broadcast",
    text "dns-nameserver", text "dns-nameservers"]

theorem word_of_written {key : CText} (h : key ∈ writtenKeys) : Word key ∧ key.length ≤ 15 := by
  revert key
  decide +kernel

theorem readLine_fieldText {key value : CText} (hkey : key ∈ writtenKeys) (hvalue : LineValue value)
    (hlength : value.length < 100) (hback : 92 ∉ value) :
    readLine p (fieldText key value) = some (.field key value) := by
  obtain ⟨hword, hshort⟩ := word_of_written hkey
  have hother : ∀ key ∈ writtenKeys, key ≠ [] ∧ key.head? ≠ some (ascii '#') ∧ key ≠ text "mapping" ∧
      key ≠ text "source" ∧ key ≠ text "source-directory" ∧ key ≠ text "iface" ∧
      stanzaEnd key = false := by decide
  obtain ⟨h1, h2, h3, h4, h5, h6, h7⟩ := hother key hkey
  unfold readLine
  rw [nextLine_fieldText hword hvalue (by omega)]
  simp [skipped, unfollowed, iface, h1, h2, h3, h4, h5, h6, h7, hback]

theorem readLine_address {key address : CText} (hkey : key ∈ writtenKeys) (h : AddressText address) :
    readLine p (fieldText key address) = some (.field key address) :=
  readLine_fieldText hkey h.word.lineValue (by have := h.length; omega) h.backslash

theorem readLine_ifaceText (lan : Lan) (mode : LanMode) :
    readLine p (ifaceText p lan mode) = some (.iface lan mode) := by
  unfold readLine
  rw [nextLine_ifaceText]
  have hkey : skipped { raw := ifaceText p lan mode, key := text "iface", value := ifaceValue p lan mode } =
      false := by
    show (decide (text "iface" = []) || decide ((text "iface").head? = some (ascii '#'))) = false
    decide
  simp only [Option.bind_eq_bind, Option.bind_some, hkey, unfollowed_ifaceValue, iface_ifaceValue,
    Bool.false_eq_true, if_false]

/-- A line of servers. -/
theorem servers_value {s : NetworkSettings} (hs : Writes s) (hmanual : s.automaticDns = 0)
    (hgiven : s.dns 0 ≠ []) :
    LineValue (s.dns 0 ++ (if s.dns 1 = [] then [] else text " ") ++ s.dns 1) ∧
      (s.dns 0 ++ (if s.dns 1 = [] then [] else text " ") ++ s.dns 1).length < 100 ∧
      (92 : UInt8) ∉ s.dns 0 ++ (if s.dns 1 = [] then [] else text " ") ++ s.dns 1 := by
  have hfirst := addressText_of_server (hs.dns hmanual 0 hgiven)
  have hl₀ := hfirst.length
  by_cases hnone : s.dns 1 = []
  · rw [if_pos hnone, hnone, List.append_nil, List.append_nil]
    exact ⟨hfirst.word.lineValue, by omega, hfirst.backslash⟩
  · have hsecond := addressText_of_server (hs.dns hmanual 1 hnone)
    have hl₁ := hsecond.length
    rw [if_neg hnone]
    refine ⟨hfirst.word.lineValue_pair hsecond.word, ?_, ?_⟩
    · simp only [List.length_append]
      show (s.dns 0).length + 1 + (s.dns 1).length < 100
      omega
    · simp only [List.mem_append, not_or]
      exact ⟨⟨hfirst.backslash, by decide⟩, hsecond.backslash⟩

/-- The servers of the settings, as a line of them. -/
def serversValue (s : NetworkSettings) : CText :=
  s.dns 0 ++ (if s.dns 1 = [] then [] else text " ") ++ s.dns 1

theorem readLine_serversText {s : NetworkSettings} (hs : Writes s) (hmanual : s.automaticDns = 0)
    (hgiven : s.dns 0 ≠ []) {key : CText} (hkey : dnsKey key = true) :
    readLine p (serversText key s.dns) = some (.field key (serversValue s)) := by
  obtain ⟨hvalue, hlength, hback⟩ := servers_value hs hmanual hgiven
  refine readLine_fieldText ?_ hvalue hlength hback
  simp only [dnsKey, Bool.or_eq_true, decide_eq_true_eq] at hkey
  rcases hkey with rfl | rfl <;> decide

theorem serverPair_dns (s : NetworkSettings) : serverPair (s.dns 0) (s.dns 1) = s.dns := by
  funext i
  rcases lan_cases i with rfl | rfl <;> rfl

/-- A server that is named twice. -/
def NamedTwice (s : NetworkSettings) : Prop := s.automaticDns = 0 ∧ s.dns 0 = s.dns 1 ∧ s.dns 0 ≠ []

instance (s : NetworkSettings) : Decidable (NamedTwice s) :=
  inferInstanceAs (Decidable (s.automaticDns = 0 ∧ s.dns 0 = s.dns 1 ∧ s.dns 0 ≠ []))

theorem dnsLine_serversValue {s : NetworkSettings} (hs : Writes s) (hmanual : s.automaticDns = 0)
    (hgiven : s.dns 0 ≠ []) :
    dnsLine (serversValue s) = if NamedTwice s then none else some s.dns := by
  have hfirst := hs.dns hmanual 0 hgiven
  unfold serversValue
  by_cases hnone : s.dns 1 = []
  · have hno : ¬ NamedTwice s := fun h => hgiven (h.2.1.trans hnone)
    rw [if_neg hno, if_pos hnone, hnone, List.append_nil, List.append_nil, dnsLine_one hfirst, ← hnone,
      serverPair_dns]
  · rw [if_neg hnone, dnsLine_two hfirst (hs.dns hmanual 1 hnone), serverPair_dns]
    by_cases hsame : s.dns 0 = s.dns 1
    · rw [if_neg (by simp [hsame]), if_pos ⟨hmanual, hsame, hgiven⟩]
    · rw [if_pos hsame, if_neg fun h => hsame h.2.1]

end Written

/-! ## The lines of what is written -/

theorem ended_fieldText {key value : CText} (hkey : 10 ∉ key) (hvalue : 10 ∉ value) :
    OneLine 10 (fieldText key value) :=
  ⟨text "\t" ++ key ++ text " " ++ value, by
    simp only [List.mem_append, not_or]
    exact ⟨⟨⟨by decide, hkey⟩, by decide⟩, hvalue⟩, rfl⟩

theorem ended_address {key address : CText} (hkey : key ∈ writtenKeys) (h : AddressText address) :
    OneLine 10 (fieldText key address) := by
  refine ended_fieldText ?_ fun h10 => (h.word.lineValue.plain 10 h10).1 rfl
  revert key
  decide

theorem ended_ifaceText (p : Platform) (lan : Lan) (mode : LanMode) : OneLine 10 (ifaceText p lan mode) := by
  refine ⟨text "iface " ++ lanName p lan ++ text " inet " ++
    (if mode = .static then text "static" else text "dhcp"), ?_, rfl⟩
  cases p <;> rcases lan_cases lan with rfl | rfl <;> cases mode <;> decide

theorem ended_ended {raw : CText} (h : Lines 10 [raw]) : OneLine 10 (ended raw) := by
  cases h with
  | last hne hsep =>
    unfold ended
    rw [if_neg fun h => hsep (List.mem_of_getLast? h)]
    exact ⟨raw, hsep, rfl⟩
  | cons hsep _ =>
    unfold ended
    rw [if_pos (by simp)]
    exact ⟨_, hsep, rfl⟩

theorem ended_of_ended {raw : CText} (h : OneLine 10 raw) : ended raw = raw := by
  obtain ⟨t, -, rfl⟩ := h
  unfold ended
  rw [if_pos (by simp)]

section Lines

variable {p : Platform} {s imported : NetworkSettings}

theorem ended_gatewayLines (hs : Writes s) (lan : Lan) : ∀ line ∈ gatewayLines s lan, OneLine 10 line := by
  intro line hline
  unfold gatewayLines at hline
  split at hline
  · rename_i hroute
    obtain rfl := List.mem_singleton.mp hline
    obtain ⟨g, hg⟩ := hs.gateway lan hroute.2 hroute.1
    exact ended_address (by decide) (addressText_of_parse hg)
  · cases hline

theorem ended_stanzaLines (hs : Writes s) (lan : Lan) : ∀ line ∈ stanzaLines p s lan, OneLine 10 line := by
  intro line hline
  unfold stanzaLines at hline
  rcases List.mem_cons.mp hline with rfl | hline
  · exact ended_ifaceText p lan _
  · cases hmode : (s.lan lan).mode with
    | dhcpClient =>
      simp only [hmode] at hline
      cases hline
    | static =>
      simp only [hmode] at hline
      obtain ⟨a, m, ha, hm⟩ := hs.host lan hmode
      rcases List.mem_append.mp hline with hline | hline
      · simp only [List.mem_cons, List.not_mem_nil, or_false] at hline
        rcases hline with rfl | rfl | rfl | rfl
        · exact ended_address (by decide) (addressText_of_parse ha)
        · exact ended_address (by decide) (addressText_format _)
        · exact ended_address (by decide) (addressText_of_parse hm)
        · exact ended_address (by decide) (addressText_format _)
      · exact ended_gatewayLines hs lan line hline

theorem ended_serversText (hs : Writes s) (hmanual : s.automaticDns = 0) (hgiven : s.dns 0 ≠ [])
    {key : CText} (hkey : dnsKey key = true) : OneLine 10 (serversText key s.dns) := by
  obtain ⟨hvalue, -, -⟩ := servers_value hs hmanual hgiven
  refine ended_fieldText ?_ fun h => (hvalue.plain 10 h).1 rfl
  simp only [dnsKey, Bool.or_eq_true, decide_eq_true_eq] at hkey
  rcases hkey with rfl | rfl <;> decide

/-- What a line may be replaced by: itself, or ended lines. -/
theorem rewritten_cases (hs : Writes s) {owned : Option Lan} {raw : CText} (hraw : Lines 10 [raw])
    (kind : LineKind) :
    rewritten p s imported owned raw kind = [raw] ∨
      ∀ line ∈ rewritten p s imported owned raw kind, OneLine 10 line := by
  cases kind with
  | skipped | leave => exact .inl rfl
  | iface lan mode =>
    simp only [rewritten]
    split
    · exact .inr (ended_stanzaLines hs lan)
    split
    · unfold routeLines
      split
      · exact .inl rfl
      · refine .inr fun line hline => ?_
        rcases List.mem_cons.mp hline with rfl | hline
        · exact ended_ended hraw
        · exact ended_gatewayLines hs lan line hline
    · exact .inl rfl
  | field key value =>
    simp only [rewritten]
    cases owned with
    | none => exact .inl rfl
    | some lan =>
      simp only []
      split
      · rename_i hkey
        unfold serverLines
        split
        · exact .inr (by simp)
        rename_i hmanual
        split
        · split
          · exact .inr (by simp)
          · rename_i hgiven
            refine .inr fun line hline => ?_
            obtain rfl := List.mem_singleton.mp hline
            exact ended_serversText hs (by simpa using hmanual) hgiven hkey
        · exact .inl rfl
      split
      · exact .inr (by simp)
      · split
        · exact .inr (by simp)
        · exact .inl rfl

theorem lines_rewriteLines (hs : Writes s) {lines : List CText} (hlines : Lines 10 lines)
    (owned : Option Lan) : Lines 10 (rewriteLines p s imported owned lines) := by
  induction lines generalizing owned with
  | nil => exact .nil
  | cons raw lines ih =>
    have hrest := ih hlines.tail (((readLine p raw).getD .skipped).after owned)
    unfold rewriteLines
    simp only []
    rcases @rewritten_cases p s imported hs owned _ hlines.head ((readLine p raw).getD .skipped) with
      hself | hended
    · rw [hself]
      cases lines with
      | nil => simpa [rewriteLines] using hlines
      | cons next lines => exact Lines.append (fun line hline => by
          obtain rfl := List.mem_singleton.mp hline
          exact hlines.head_ended) hrest
    · exact Lines.append hended hrest

theorem documentLines_rewrite (hs : Writes s) (input : CText) :
    documentLines (rewriteLines p s imported none (documentLines input)).flatten =
      rewriteLines p s imported none (documentLines input) := by
  unfold documentLines
  exact splitLines_flatten (lines_rewriteLines hs (lines_splitLines input) none)

/-! ## The lines of the vendor's -/

/-- A line that is not the gateway's: it stands in no owned stanza, or says something else of the
    interface. -/
def vendorLine (owned : Option Lan) : LineKind → Bool
  | .skipped | .leave => true
  | .iface _ _ => false
  | .field key _ => owned = none || !(addressKey key || dnsKey key)

def vendorLines (p : Platform) : Option Lan → List CText → List CText
  | _, [] => []
  | owned, raw :: lines =>
      let kind := (readLine p raw).getD .skipped
      (if vendorLine owned kind then [raw] else []) ++ vendorLines p (kind.after owned) lines

theorem rewritten_vendor {owned : Option Lan} {raw : CText} {kind : LineKind}
    (h : vendorLine owned kind = true) : rewritten p s imported owned raw kind = [raw] := by
  cases kind with
  | skipped | leave => rfl
  | iface lan mode => cases h
  | field key value =>
    simp only [rewritten]
    cases owned with
    | none => rfl
    | some lan =>
      simp only [vendorLine, reduceCtorEq, decide_false, Bool.false_or, Bool.not_eq_true',
        Bool.or_eq_false_iff] at h
      have hgateway : key ≠ text "gateway" := by
        rintro rfl
        exact absurd h.1 (by decide)
      simp [h.1, h.2, hgateway]

/-- **Every line of the vendor's stays, in its place.** -/
theorem vendorLines_sublist (owned : Option Lan) (lines : List CText) :
    (vendorLines p owned lines).Sublist (rewriteLines p s imported owned lines) := by
  induction lines generalizing owned with
  | nil => exact List.Sublist.refl _
  | cons raw lines ih =>
    unfold vendorLines rewriteLines
    simp only []
    refine List.Sublist.append ?_ (ih _)
    split
    · rename_i hvendor
      rw [rewritten_vendor hvendor]
    · exact List.nil_sublist _

end Lines

end FourVrs.Network
