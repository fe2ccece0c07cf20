import FourVrs.Network.DocumentRender

/-!
# Rendering changes only what it must

A document that is written with the settings it was read with is the document. With other
settings the lines of the vendor's stay, in their order, and writing again changes nothing: what
was written is read line by line, and the reader of what was written is, after each line of the
document, in the state that the reader of the document is in, with the new settings
(`Import.rewrite`).
-/

set_option autoImplicit false

namespace FourVrs.Network

open Config Lib

variable {p : Platform} {s imported : NetworkSettings}

/-! ## Reading -/

/-- What an accepted document was read as. -/
structure Accepted (p : Platform) (input resolver : CText) (compareDns : Bool) (s : NetworkSettings)
    (st : Import) (dns : List CText) : Prop where
  nonempty : input ≠ []
  size : input.length ≤ networkFileMax
  resolverSize : resolver.length ≤ networkFileMax
  stanzas : importStanzas p input = some st
  lans : ∀ i, (st.lans i).seen = true ∧ networkAgrees (st.lans i) = true
  servers : (documentLines resolver).foldlM importNameserver [] = some dns
  settings : s = { st.settings with dns := fun i => dns.getD i.val [] }
  valid : settingsValidate s = .ok
  compared : compareDns = true → ∀ i v, (st.lans i).dns = some v → v = s.dns

theorem importDocument_eq_some {input resolver : CText} {compareDns : Bool} :
    importDocument p input resolver compareDns = some s ↔
      ∃ st dns, Accepted p input resolver compareDns s st dns := by
  unfold importDocument
  constructor
  · intro h
    split at h
    · cases h
    · rename_i hsize
      simp only [not_or, not_lt] at hsize
      simp only [Option.bind_eq_bind, Option.bind_eq_some_iff] at h
      obtain ⟨st, hst, h⟩ := h
      split at h
      · cases h
      · rename_i hlans
        simp only [not_exists, not_or, Decidable.not_not] at hlans
        rw [Option.bind_eq_some_iff] at h
        obtain ⟨dns, hdns, h⟩ := h
        split at h
        · cases h
        rename_i hvalid
        split at h
        · cases h
        · rename_i hcompared
          obtain rfl := Option.some.inj h
          refine ⟨st, dns, hsize.1, hsize.2.1, hsize.2.2, hst, hlans, hdns, rfl, by simpa using hvalid, ?_⟩
          intro hcompare i v hv
          by_contra hne
          refine hcompared ⟨hcompare, i, ?_⟩
          simpa [hv] using hne
  · rintro ⟨st, dns, h⟩
    rw [if_neg (by simp only [not_or, not_lt]; exact ⟨h.nonempty, h.size, h.resolverSize⟩)]
    simp only [h.stanzas, h.servers, Option.bind_eq_bind, Option.bind_some, ← h.settings]
    rw [if_neg, if_neg (by simp [h.valid]), if_neg]
    · rintro ⟨hcompare, i, hi⟩
      cases hdns : (st.lans i).dns with
      | none => simp [hdns] at hi
      | some v =>
        simp only [hdns, Option.any_some, decide_eq_true_eq] at hi
        exact hi ((h.compared hcompare i v hdns).trans (congrArg NetworkSettings.dns h.settings))
    · rintro ⟨i, hi⟩
      exact hi.elim (· (h.lans i).1) (· (h.lans i).2)

/-- A reader goes on with what it has read. -/
structure Keeps (st st' : Import) : Prop where
  route : st.defaultLan ≠ 0 → st'.defaultLan = st.defaultLan
  dns : ∀ i v, (st.lans i).dns = some v → (st'.lans i).dns = some v

theorem Keeps.trans {st st' st'' : Import} (h : Keeps st st') (h' : Keeps st' st'') : Keeps st st'' where
  route := fun hne => (h'.route (by rw [h.route hne]; exact hne)).trans (h.route hne)
  dns := fun i v hv => h'.dns i v (h.dns i v hv)

/-- Another field of an interface leaves its servers. -/
theorem dns_withLan {st : Import} {lan i : Lan} {x : ImportedLan} (hdns : x.dns = (st.lans lan).dns) :
    ((st.withLan lan x).lans i).dns = (st.lans i).dns := by
  unfold Import.withLan
  by_cases heq : i = lan
  · subst heq
    simpa using hdns
  · simp [Function.update_of_ne heq]

theorem keeps_of_act {st st' : Import} {kind : LineKind} (h : actLine st kind = some st') : Keeps st st' := by
  cases kind with
  | skipped =>
    obtain rfl := Option.some.inj h
    exact ⟨fun _ => rfl, fun _ _ hv => hv⟩
  | iface lan mode =>
    obtain ⟨-, rfl⟩ := importIface_eq_some.mp h
    refine ⟨fun _ => rfl, fun i v hv => ?_⟩
    exact (dns_withLan (x := { st.lans lan with seen := true, mode := mode }) rfl).trans hv
  | leave =>
    obtain rfl := Option.some.inj h
    exact ⟨fun _ => rfl, fun _ _ hv => hv⟩
  | field key value =>
    simp only [actLine] at h
    cases howned : st.owned with
    | none =>
      simp only [howned, Option.some.injEq] at h
      subst h
      exact ⟨fun _ => rfl, fun _ _ hv => hv⟩
    | some lan =>
      simp only [howned, importOwned] at h
      split at h
      · rename_i field hfield
        obtain ⟨-, -, hroute, rfl⟩ := importField_eq_some.mp h
        refine ⟨fun hne => if_neg fun heq => hne (hroute heq), fun i v hv => ?_⟩
        exact (dns_withLan (x := { st.lans lan with
          fields := Function.update (st.lans lan).fields field (some value) }) rfl).trans hv
      split at h
      · obtain ⟨hnone, dns, -, rfl⟩ := importDns_eq_some.mp h
        refine ⟨fun _ => rfl, fun i v hv => ?_⟩
        have hne : i ≠ lan := by
          rintro rfl
          rw [hnone] at hv
          cases hv
        unfold Import.withDns Import.withLan
        simpa [Function.update_of_ne hne] using hv
      split at h
      · obtain rfl := Option.some.inj h
        exact ⟨fun _ => rfl, fun _ _ hv => hv⟩
      · cases h

theorem importLine_eq_some {st st' : Import} {raw : CText} :
    importLine p st raw = some st' ↔ ∃ kind, readLine p raw = some kind ∧ actLine st kind = some st' := by
  rw [importLine_eq, Option.bind_eq_some_iff]

theorem keeps_of_import {lines : List CText} {st st' : Import}
    (h : lines.foldlM (importLine p) st = some st') : Keeps st st' := by
  induction lines generalizing st with
  | nil =>
    obtain rfl := Option.some.inj h
    exact ⟨fun _ => rfl, fun _ _ hv => hv⟩
  | cons raw lines ih =>
    rw [List.foldlM_cons, Option.bind_eq_bind, Option.bind_eq_some_iff] at h
    obtain ⟨next, hnext, hrest⟩ := h
    obtain ⟨kind, -, hact⟩ := importLine_eq_some.mp hnext
    exact (keeps_of_act hact).trans (ih hrest)

/-! ## Rendering what was read -/

theorem documentLines_ne_nil {input raw : CText} (h : raw ∈ documentLines input) : raw ≠ [] :=
  ((lines_splitLines input).ne_nil) raw h

theorem render_eq {input : CText} {cap : Nat} (hvalid : settingsValidate s = .ok) (hcap : 0 < cap)
    (himport : importDocument p input [] false = some imported) :
    gatewayNetworkRender p input s cap =
      room cap (rewriteLines p s imported none (documentLines input)).flatten := by
  obtain ⟨st, dns, hread⟩ := importDocument_eq_some.mp himport
  have hlines := @renderLines_eq p s imported cap [] (writes_of_validate hvalid) _
    (fun raw hraw => documentLines_ne_nil hraw) _ _ hread.stanzas hcap
  unfold gatewayNetworkRender
  rw [if_neg (by simp only [not_or]; exact ⟨by omega, by simp [hvalid]⟩), himport]
  simp only [Option.bind_eq_bind, Option.bind_some]
  have hstart : ({} : Import).owned = none := rfl
  rw [hstart] at hlines
  rw [hlines, List.nil_append]
  cases room cap (rewriteLines p s imported none (documentLines input)).flatten <;> rfl

/-- Where nothing changes, a line is written as it stands. -/
theorem rewritten_self {st st' final : Import} {raw : CText} {kind : LineKind}
    (hchanged : ∀ lan, addressesChanged s imported lan = false)
    (hroute : ∀ lan, routeChanged s imported lan = false) (hmanual : s.automaticDns = 0)
    (hdns : ∀ i v, (final.lans i).dns = some v → v = s.dns) (hact : actLine st kind = some st')
    (hkeeps : Keeps st' final) : rewritten p s imported st.owned raw kind = [raw] := by
  cases kind with
  | skipped | leave => rfl
  | iface lan mode => simp [rewritten, hchanged, hroute]
  | field key value =>
    simp only [actLine] at hact
    simp only [rewritten]
    cases howned : st.owned with
    | none => rfl
    | some lan =>
      simp only [howned] at hact
      simp only [hchanged, hroute, Bool.false_eq_true, false_and, if_false]
      by_cases hkey : dnsKey key = true
      · obtain ⟨-, dns, hread, rfl⟩ := dnsLine_of_owned hkey hact
        have hsame : dns = s.dns := hdns lan dns (hkeeps.dns lan dns (by simp [Import.withDns, Import.withLan]))
        simp only [hkey, if_true, serverLines, hmanual, hread, hsame, ne_eq, not_true_eq_false, if_false]
      · rw [if_neg hkey]

theorem rewriteLines_self {lines : List CText} {st final : Import}
    (hchanged : ∀ lan, addressesChanged s imported lan = false)
    (hroute : ∀ lan, routeChanged s imported lan = false) (hmanual : s.automaticDns = 0)
    (hdns : ∀ i v, (final.lans i).dns = some v → v = s.dns)
    (h : lines.foldlM (importLine p) st = some final) :
    rewriteLines p s imported st.owned lines = lines := by
  induction lines generalizing st with
  | nil => rfl
  | cons raw lines ih =>
    rw [List.foldlM_cons, Option.bind_eq_bind, Option.bind_eq_some_iff] at h
    obtain ⟨next, hnext, hrest⟩ := h
    obtain ⟨kind, hkind, hact⟩ := importLine_eq_some.mp hnext
    unfold rewriteLines
    simp only [hkind, Option.getD_some, ← owned_of_act hact]
    rw [rewritten_self hchanged hroute hmanual hdns hact (keeps_of_import hrest), ih hrest]
    rfl

/-- Settings without name servers of their own are as valid. -/
theorem validate_without_dns {t : NetworkSettings} (h : settingsValidate t = .ok) (hmanual : t.automaticDns = 0) :
    settingsValidate { t with dns := fun _ => [] } = .ok := by
  have hlan : ∀ i, validateLan { t with dns := fun _ => [] } i = validateLan t i := fun i => rfl
  have hdns : validateDns { t with dns := fun _ => [] } = .ok := by
    unfold validateDns
    rw [if_neg (by simp [hmanual])]
    rfl
  unfold settingsValidate at h ⊢
  simp only [hlan, hdns] at h ⊢
  split at h
  · cases h
  · rename_i hbounds
    rw [if_neg hbounds]
    split at h
    · rename_i e herror
      exact absurd h (validateLan_error herror)
    split at h
    · rename_i e herror
      exact absurd h (validateLan_error herror)
    split at h
    · cases h
    · rename_i hapart
      exact if_neg hapart

/-- **A document written with the settings it was read with.** -/
theorem render_of_import {input resolver : CText} {cap : Nat}
    (himport : gatewayNetworkImport p input resolver = some s) (hcap : input.length < cap) :
    gatewayNetworkRender p input s cap = some input := by
  obtain ⟨st, dns, hread⟩ := importDocument_eq_some.mp himport
  have hmanual : s.automaticDns = 0 := by rw [hread.settings]; rfl
  have himported : importDocument p input [] false = some { s with dns := fun _ => [] } := by
    refine importDocument_eq_some.mpr ⟨st, [], hread.nonempty, hread.size, by simp, hread.stanzas,
      hread.lans, rfl, ?_, validate_without_dns hread.valid hmanual, fun h => by cases h⟩
    rw [hread.settings]
    simp
  have hchanged : ∀ lan, addressesChanged s { s with dns := fun _ => [] } lan = false := by
    simp [addressesChanged]
  have hroute : ∀ lan, routeChanged s { s with dns := fun _ => [] } lan = false := by
    simp [routeChanged]
  have hself : rewriteLines p s { s with dns := fun _ => [] } none (documentLines input) =
      documentLines input :=
    rewriteLines_self hchanged hroute hmanual (hread.compared rfl) hread.stanzas
  rw [render_eq hread.valid (by omega) himported, hself]
  unfold documentLines
  rw [flatten_splitLines, room_of_lt hcap]

end FourVrs.Network
