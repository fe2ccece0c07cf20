import FourVrs.Network.RenderAgain

/-!
# The vendor's documents stay the vendor's

What the gateway writes into the two documents of the vendor's: every line that is not its own
stays, in its order, and writing a second time changes nothing, but where a line of name servers
would name one twice.
-/

set_option autoImplicit false

namespace FourVrs.Network

open Config Lib

variable {p : Platform} {s : NetworkSettings}

/-! ## The resolver's document -/

/-- A line that names no server. -/
def resolverKeeps (raw : CText) : Bool := decide (lineKey (lineText raw) ≠ text "nameserver")

/-- The lines of servers. -/
def nameserverLines (dns : Fin 2 → CText) : List CText :=
  ([dns 0, dns 1].filter (· ≠ [])).map nameserverText

/-- The lines of the resolver's document that is written. -/
def resolverLines (input : CText) (dns : Fin 2 → CText) : List CText :=
  ((documentLines input).filter resolverKeeps).map ended ++ nameserverLines dns

variable {cap : Nat}

theorem resolverLine_eq {out raw : CText} {l : Line} (hl : nextLine raw = some l) (hout : out.length < cap) :
    resolverLine cap out raw = room cap (out ++ if resolverKeeps raw then raw else []) := by
  have hkey : l.key = lineKey (lineText raw) := by
    unfold nextLine at hl
    simp only [] at hl
    split at hl
    · cases hl
    · rw [← Option.some.inj hl]
  unfold resolverLine resolverKeeps
  simp only [hl, Option.bind_eq_bind, Option.bind_some, hkey]
  by_cases hname : lineKey (lineText raw) = text "nameserver"
  · simp [hname, room_of_lt hout]
  · simp [hname, appendTo_eq hout]

variable {dns : Fin 2 → CText} {lines : List CText}

theorem resolver_kept {out result : CText} (hout : out.length < cap) :
    lines.foldlM (resolverLine cap) out = some result ↔
      (∀ raw ∈ lines, nextLine raw ≠ none) ∧ result = out ++ (lines.filter resolverKeeps).flatten ∧
        result.length < cap := by
  induction lines generalizing out with
  | nil =>
    simp only [List.foldlM_nil, Option.pure_def, Option.some.injEq, List.filter_nil, List.flatten_nil,
      List.append_nil, List.not_mem_nil, false_implies, implies_true, true_and]
    constructor
    · rintro rfl
      exact ⟨rfl, hout⟩
    · rintro ⟨rfl, -⟩
      rfl
  | cons raw lines ih =>
    rw [List.foldlM_cons, Option.bind_eq_bind]
    cases hl : nextLine raw with
    | none => simp [resolverLine, hl]
    | some l =>
      rw [resolverLine_eq hl hout]
      have hflat : ((raw :: lines).filter resolverKeeps).flatten =
          (if resolverKeeps raw then raw else []) ++ (lines.filter resolverKeeps).flatten := by
        by_cases hkeeps : resolverKeeps raw = true <;> simp [hkeeps]
      rw [hflat, ← List.append_assoc]
      generalize out ++ (if resolverKeeps raw then raw else []) = next
      by_cases hfits : next.length < cap
      · rw [room_of_lt hfits, Option.bind_some, ih hfits]
        simp [hl]
      · unfold room
        rw [if_neg hfits]
        refine iff_of_false (by simp) ?_
        rintro ⟨-, rfl, hlength⟩
        rw [List.length_append] at hlength
        omega

theorem resolverServer_eq_some {out server result : CText} (hout : out.length < cap) :
    resolverServer cap out server = some result ↔
      (server ≠ [] → dnsServer server = true) ∧
        result = out ++ (([server].filter (· ≠ [])).map nameserverText).flatten ∧ result.length < cap := by
  unfold resolverServer
  by_cases hnone : server = []
  · simp only [hnone, if_true, Option.some.injEq]
    constructor
    · rintro rfl
      simpa using hout
    · rintro ⟨-, rfl, -⟩
      simp
  · rw [if_neg hnone]
    by_cases hserver : dnsServer server = true
    · have hlength : (nameserverText server).length < 40 := by
        have h := (addressText_of_server hserver).length
        have hkey : (text "nameserver ").length + (text "\n").length = 12 := rfl
        simp only [nameserverText, List.length_append]
        omega
      rw [if_pos hserver, appendPrinted_eq hlength hout]
      unfold room
      simp only [hserver, hnone, implies_true, ne_eq, not_false_eq_true, decide_true, List.filter_cons_of_pos,
        List.filter_nil, List.map_cons, List.map_nil, List.flatten_cons, List.flatten_nil, List.append_nil,
        true_and]
      constructor
      · intro h
        split at h
        · obtain rfl := Option.some.inj h
          exact ⟨rfl, ‹_›⟩
        · cases h
      · rintro ⟨rfl, hlength⟩
        exact if_pos hlength
    · rw [if_neg hserver]
      refine iff_of_false (by simp) fun h => hserver (h.1 hnone)

theorem flatten_ended (h : Lines 10 lines) :
    (lines.map ended).flatten =
      lines.flatten ++ if lines.flatten ≠ [] ∧ lines.flatten.getLast? ≠ some 10 then [10] else [] := by
  induction h with
  | nil => rfl
  | last hne hsep =>
    rename_i line
    have hlast : line.getLast? ≠ some 10 := fun h => hsep (List.mem_of_getLast? h)
    simp [ended, hlast, hne]
  | cons hsep hlines ih =>
    rename_i line lines
    have hself : ended (line ++ [10]) = line ++ [10] := ended_of_ended ⟨line, hsep, rfl⟩
    have hlast : (if lines.flatten ≠ [] ∧ lines.flatten.getLast? ≠ some 10 then [10] else []) =
        if line ++ [10] ++ lines.flatten ≠ [] ∧ (line ++ [10] ++ lines.flatten).getLast? ≠ some 10 then [10]
        else ([] : CText) := by
      by_cases hnil : lines.flatten = []
      · simp [hnil]
      · rw [List.getLast?_append_of_ne_nil _ hnil]
        simp [hnil]
    rw [List.map_cons, List.flatten_cons, hself, ih, List.flatten_cons, hlast]
    simp only [List.append_assoc]

theorem lines_filter (h : Lines 10 lines) (keep : CText → Bool) :
    Lines 10 (lines.filter keep) := by
  induction h with
  | nil => exact .nil
  | last hne hsep =>
    rename_i line
    by_cases hkeep : keep line = true
    · rw [List.filter_cons_of_pos hkeep]
      exact .last hne hsep
    · rw [List.filter_cons_of_neg hkeep]
      exact .nil
  | cons hsep _ ih =>
    rename_i line lines _
    by_cases hkeep : keep (line ++ [10]) = true
    · rw [List.filter_cons_of_pos hkeep]
      exact .cons hsep ih
    · rw [List.filter_cons_of_neg hkeep]
      exact ih

/-- **What is written for the resolver.** -/
theorem resolver_eq_some {input out : CText} :
    gatewayNetworkResolver input dns cap = some out ↔
      (input.length ≤ networkFileMax ∧ (∀ raw ∈ documentLines input, nextLine raw ≠ none) ∧
        ∀ i, dns i ≠ [] → dnsServer (dns i) = true) ∧
      out = (resolverLines input dns).flatten ∧ out.length < cap := by
  unfold gatewayNetworkResolver
  by_cases hsize : input.length > networkFileMax ∨ cap = 0
  · rw [if_pos hsize]
    refine iff_of_false (by simp) ?_
    rintro ⟨⟨hlength, -⟩, -, hfits⟩
    omega
  · obtain ⟨hlength, hcap⟩ := not_or.mp hsize
    have hempty : ([] : CText).length < cap := by simp only [List.length_nil]; omega
    -- what is kept, the line end it may lack, then a line for each server
    have hflat := flatten_ended (lines_filter (lines_splitLines input) resolverKeeps)
    have hlines : (resolverLines input dns).flatten =
        ((documentLines input).filter resolverKeeps).flatten ++
          (if ((documentLines input).filter resolverKeeps).flatten ≠ [] ∧
            ((documentLines input).filter resolverKeeps).flatten.getLast? ≠ some 10 then [10] else []) ++
          (([dns 0].filter (· ≠ [])).map nameserverText).flatten ++
          (([dns 1].filter (· ≠ [])).map nameserverText).flatten := by
      unfold resolverLines nameserverLines documentLines
      rw [List.flatten_append, hflat]
      by_cases h₀ : dns 0 = [] <;> by_cases h₁ : dns 1 = [] <;> simp [h₀, h₁]
    rw [if_neg hsize, hlines]
    simp only [Option.bind_eq_bind, Option.bind_eq_some_iff]
    constructor
    · rintro ⟨kept, hkept, joined, hjoined, first, hfirst, hsecond⟩
      obtain ⟨hreadable, rfl, hkfits⟩ := (resolver_kept hempty).mp hkept
      rw [List.nil_append] at hjoined hkfits
      have hjoin : joined = ((documentLines input).filter resolverKeeps).flatten ++
          (if ((documentLines input).filter resolverKeeps).flatten ≠ [] ∧
            ((documentLines input).filter resolverKeeps).flatten.getLast? ≠ some 10 then [10] else []) ∧
          joined.length < cap := by
        unfold endLine at hjoined
        split at hjoined
        · rw [appendTo_eq hkfits] at hjoined
          unfold room at hjoined
          split at hjoined
          · obtain rfl := Option.some.inj hjoined
            rw [if_pos ‹_›]
            exact ⟨rfl, ‹_›⟩
          · cases hjoined
        · obtain rfl := Option.some.inj hjoined
          rw [if_neg ‹_›, List.append_nil]
          exact ⟨rfl, hkfits⟩
      obtain ⟨hs₀, rfl, hffits⟩ := (resolverServer_eq_some hjoin.2).mp hfirst
      obtain ⟨hs₁, rfl, hsfits⟩ := (resolverServer_eq_some hffits).mp hsecond
      refine ⟨⟨by omega, hreadable, fun i => ?_⟩, by rw [hjoin.1], hsfits⟩
      rcases lan_cases i with rfl | rfl
      · exact hs₀
      · exact hs₁
    · rintro ⟨⟨-, hreadable, hservers⟩, rfl, hfits⟩
      simp only [List.length_append] at hfits
      have hkept : (((documentLines input).filter resolverKeeps).flatten).length < cap := by omega
      refine ⟨_, (resolver_kept hempty).mpr ⟨hreadable, rfl, by rw [List.nil_append]; omega⟩, ?_⟩
      rw [List.nil_append]
      have hjoined : (((documentLines input).filter resolverKeeps).flatten ++
          (if ((documentLines input).filter resolverKeeps).flatten ≠ [] ∧
            ((documentLines input).filter resolverKeeps).flatten.getLast? ≠ some 10 then [10] else [])).length <
            cap := by
        rw [List.length_append]
        omega
      refine ⟨_, ?_, _, (resolverServer_eq_some hjoined).mpr ⟨hservers 0, rfl, ?_⟩, ?_⟩
      · unfold endLine
        by_cases hopen : ((documentLines input).filter resolverKeeps).flatten ≠ [] ∧
            ((documentLines input).filter resolverKeeps).flatten.getLast? ≠ some 10
        · rw [if_pos hopen, if_pos hopen] at *
          rw [appendTo_eq hkept]
          exact room_of_lt hjoined
        · rw [if_neg hopen, if_neg hopen, List.append_nil]
      · simp only [List.length_append]
        omega
      · refine (resolverServer_eq_some ?_).mpr ⟨hservers 1, rfl, ?_⟩
        · simp only [List.length_append]
          omega
        · simp only [List.length_append]
          omega

theorem nextLine_ended {raw : CText} (hraw : Lines 10 [raw]) (h : nextLine raw ≠ none) :
    nextLine (ended raw) ≠ none := by
  unfold nextLine at h ⊢
  simp only [lineText_ended_eq hraw] at h ⊢
  split at h
  · exact absurd rfl h
  · rw [if_neg ‹_›]
    simp

theorem nextLine_nameserverText {server : CText} (h : dnsServer server = true) :
    nextLine (nameserverText server) =
      some { raw := nameserverText server, key := text "nameserver", value := server } := by
  have hw := addressText_of_server h
  have hindent : ∀ b ∈ ([] : CText), isBlank b = true := by simp
  have hkey : Word (text "nameserver") := by decide +kernel
  obtain ⟨hread, hvalue⟩ := line_words hindent hkey hw.word.lineValue
  have hwords : nameserverText server = ([] ++ text "nameserver" ++ text " " ++ server) ++ [10] := rfl
  rw [hwords]
  refine nextLine_eq ?_ ?_ hread hvalue
  · intro b hb
    simp only [List.nil_append, List.mem_append] at hb
    rcases hb with (hb | hb) | hb
    · revert b
      decide +kernel
    · revert b
      decide +kernel
    · exact hw.word.lineValue.plain b hb
  · have hlength := hw.length
    have hfixed : (text "nameserver").length + (text " ").length = 11 := rfl
    simp only [List.nil_append, List.length_append, lineMaxBytes]
    omega

theorem nameserverText_cases (h : ∀ i, dns i ≠ [] → dnsServer (dns i) = true) :
    ∀ line ∈ nameserverLines dns, ∃ server, dnsServer server = true ∧ line = nameserverText server := by
  intro line hline
  obtain ⟨server, hserver, rfl⟩ := List.mem_map.mp hline
  obtain ⟨hmem, hne⟩ := List.mem_filter.mp hserver
  have hne : server ≠ [] := by simpa using hne
  refine ⟨server, ?_, rfl⟩
  rcases List.mem_cons.mp hmem with rfl | hmem
  · exact h 0 hne
  · obtain rfl := List.mem_singleton.mp hmem
    exact h 1 hne

/-- **The resolver's document is written a second time as it is.** -/
theorem resolver_again {input out : CText} (hcap : cap ≤ networkFileMax)
    (h : gatewayNetworkResolver input dns cap = some out) :
    documentLines out = resolverLines input dns ∧ gatewayNetworkResolver out dns cap = some out := by
  obtain ⟨⟨-, hreadable, hservers⟩, hout, hfits⟩ := resolver_eq_some.mp h
  have hkept : ∀ raw ∈ (documentLines input).filter resolverKeeps, Lines 10 [raw] ∧ nextLine raw ≠ none ∧
      resolverKeeps raw = true := by
    intro raw hraw
    obtain ⟨hmem, hkeeps⟩ := List.mem_filter.mp hraw
    exact ⟨(lines_splitLines input).of_mem hmem, hreadable raw hmem, hkeeps⟩
  have hended : ∀ line ∈ resolverLines input dns, OneLine 10 line := by
    intro line hline
    rcases List.mem_append.mp hline with hline | hline
    · obtain ⟨raw, hraw, rfl⟩ := List.mem_map.mp hline
      exact ended_ended (hkept raw hraw).1
    · obtain ⟨server, hserver, rfl⟩ := nameserverText_cases hservers line hline
      have hw := addressText_of_server hserver
      refine ⟨text "nameserver " ++ server, ?_, rfl⟩
      simp only [List.mem_append, not_or]
      exact ⟨by decide, fun h10 => (hw.word.lineValue.plain 10 h10).1 rfl⟩
  have hlines : documentLines out = resolverLines input dns := by
    rw [hout]
    exact splitLines_flatten (Lines.of_ended hended)
  refine ⟨hlines, resolver_eq_some.mpr ⟨⟨by omega, ?_, hservers⟩, ?_, hfits⟩⟩
  · rw [hlines]
    intro line hline
    rcases List.mem_append.mp hline with hline | hline
    · obtain ⟨raw, hraw, rfl⟩ := List.mem_map.mp hline
      exact nextLine_ended (hkept raw hraw).1 (hkept raw hraw).2.1
    · obtain ⟨server, hserver, rfl⟩ := nameserverText_cases hservers line hline
      rw [nextLine_nameserverText hserver]
      simp
  · -- What is written again: the kept lines are kept, and the servers replaced by themselves.
    have hself : ((documentLines out).filter resolverKeeps).map ended =
        ((documentLines input).filter resolverKeeps).map ended := by
      rw [hlines]
      unfold resolverLines
      rw [List.filter_append]
      have hfront : (((documentLines input).filter resolverKeeps).map ended).filter resolverKeeps =
          ((documentLines input).filter resolverKeeps).map ended := by
        refine List.filter_eq_self.mpr fun line hline => ?_
        obtain ⟨raw, hraw, rfl⟩ := List.mem_map.mp hline
        unfold resolverKeeps
        rw [lineText_ended_eq (hkept raw hraw).1]
        exact (hkept raw hraw).2.2
      have hback : (nameserverLines dns).filter resolverKeeps = [] := by
        refine List.filter_eq_nil_iff.mpr fun line hline => ?_
        obtain ⟨server, hserver, rfl⟩ := nameserverText_cases hservers line hline
        have hread := nextLine_nameserverText hserver
        unfold nextLine at hread
        simp only [] at hread
        split at hread
        · cases hread
        · have hkey := congrArg Line.key (Option.some.inj hread)
          simp only at hkey
          simp [resolverKeeps, hkey]
      rw [hfront, hback, List.append_nil, List.map_map]
      refine List.map_congr_left fun raw hraw => ?_
      exact ended_of_ended (ended_ended (hkept raw hraw).1)
    have hsame : resolverLines out dns = resolverLines input dns := by
      unfold resolverLines
      rw [hself]
    rw [hsame]
    exact hout

/-! ## Both documents -/

/-- **Rendering changes only what it must.** A document is written with the settings it was read
    with as it is. With any settings the lines of the vendor's stay, in their order, and writing
    again changes nothing exactly when no line of name servers names one twice. The document of
    the resolver keeps its other lines, and writing it again changes nothing. -/
theorem rendering_keeps (p : Platform) :
    (∀ input resolver s cap, gatewayNetworkImport p input resolver = some s → input.length < cap →
      gatewayNetworkRender p input s cap = some input) ∧
    (∀ input s cap out, cap ≤ networkFileMax → gatewayNetworkRender p input s cap = some out →
      (vendorLines p none (documentLines input)).Sublist (documentLines out) ∧
        (gatewayNetworkRender p out s cap = some out ↔
          ¬ (NamedTwice s ∧ namesServers p none (documentLines input) = true))) ∧
    (∀ input dns cap out, cap ≤ networkFileMax → gatewayNetworkResolver input dns cap = some out →
      documentLines out =
          ((documentLines input).filter resolverKeeps).map ended ++ nameserverLines dns ∧
        gatewayNetworkResolver out dns cap = some out) := by
  refine ⟨fun input resolver s cap himport hcap => render_of_import himport hcap,
    fun input s cap out hcap h => ⟨?_, render_again hcap h⟩, fun input dns cap out hcap h => ?_⟩
  · obtain ⟨imported, hrendered⟩ := rendered_of_render h
    rw [hrendered.lines]
    exact vendorLines_sublist none (documentLines input)
  · exact resolver_again hcap h

/-! ## A document -/

/-- A static interface with a name server, and one that leases. -/
def vendorDocument : CText :=
  text ("auto eth0\niface eth0 inet static\n\taddress 10.0.0.1\n\tnetmask 255.255.255.0\n" ++
    "\tgateway 10.0.0.254\n\tdns-nameservers 1.1.1.1\n\tup true\niface eth1 inet dhcp\n")

/-- The settings of `vendorDocument`, with the given name servers. -/
def vendorSettings (dns : Fin 2 → CText) : NetworkSettings where
  lan i :=
    if i = 0 then
      { address := text "10.0.0.1", netmask := text "255.255.255.0", gateway := text "10.0.0.254" }
    else { mode := .dhcpClient }
  defaultLan := 1
  dns := dns

def twoServers : Fin 2 → CText := fun i => if i = 0 then text "9.9.9.9" else text "8.8.8.8"

theorem rendering_keeps_vendorDocument :
    (∃ s, gatewayNetworkImport .uc7420Plus vendorDocument (text "nameserver 1.1.1.1\n") = some s ∧
      gatewayNetworkRender .uc7420Plus vendorDocument s networkFileMax = some vendorDocument) ∧
    (∃ out, gatewayNetworkRender .uc7420Plus vendorDocument (vendorSettings twoServers)
        networkFileMax = some out ∧
      (vendorLines .uc7420Plus none (documentLines vendorDocument)).Sublist (documentLines out) ∧
      gatewayNetworkRender .uc7420Plus out (vendorSettings twoServers) networkFileMax = some out) ∧
    ∃ out, gatewayNetworkResolver (text "search home\nnameserver 1.1.1.1") twoServers networkFileMax =
        some out ∧
      gatewayNetworkResolver out twoServers networkFileMax = some out := by
  refine ⟨?_, ?_, ?_⟩
  · have himport : (gatewayNetworkImport .uc7420Plus vendorDocument
        (text "nameserver 1.1.1.1\n")).isSome = true := by decide +kernel
    obtain ⟨s, hs⟩ := Option.isSome_iff_exists.mp himport
    exact ⟨s, hs, (rendering_keeps .uc7420Plus).1 _ _ s networkFileMax hs (by decide +kernel)⟩
  · have hrender : (gatewayNetworkRender .uc7420Plus vendorDocument (vendorSettings twoServers)
        networkFileMax).isSome = true := by decide +kernel
    obtain ⟨out, hout⟩ := Option.isSome_iff_exists.mp hrender
    have hkeeps := (rendering_keeps .uc7420Plus).2.1 _ _ networkFileMax out le_rfl hout
    exact ⟨out, hout, hkeeps.1, hkeeps.2.mpr fun h => absurd h.1.2.1 (by decide +kernel)⟩
  · have hrender : (gatewayNetworkResolver (text "search home\nnameserver 1.1.1.1") twoServers
        networkFileMax).isSome = true := by decide +kernel
    obtain ⟨out, hout⟩ := Option.isSome_iff_exists.mp hrender
    exact ⟨out, hout, ((rendering_keeps .uc7420Plus).2.2 _ _ networkFileMax out le_rfl hout).2⟩

/-- The same server given twice passes the validation and is written, but a line that names it
    twice is not read again. -/
theorem same_server_twice :
    gatewayNetworkImport .uc7420Plus vendorDocument (text "nameserver 1.1.1.1\n") ≠ none ∧
      settingsValidate (vendorSettings fun _ => text "9.9.9.9") = .ok ∧
      ∃ out, gatewayNetworkRender .uc7420Plus vendorDocument (vendorSettings fun _ => text "9.9.9.9")
          networkFileMax = some out ∧
        gatewayNetworkRender .uc7420Plus out (vendorSettings fun _ => text "9.9.9.9")
          networkFileMax ≠ some out := by
  have hrender : ((gatewayNetworkRender .uc7420Plus vendorDocument
      (vendorSettings fun _ => text "9.9.9.9") networkFileMax).map fun out =>
        gatewayNetworkRender .uc7420Plus out (vendorSettings fun _ => text "9.9.9.9")
          networkFileMax) = some none := by decide +kernel
  have himport : (gatewayNetworkImport .uc7420Plus vendorDocument
      (text "nameserver 1.1.1.1\n")).isSome = true := by decide +kernel
  obtain ⟨out, hout, hagain⟩ := Option.map_eq_some_iff.mp hrender
  refine ⟨?_, by decide +kernel, out, hout, ?_⟩
  · intro hnone
    rw [hnone] at himport
    cases himport
  · rw [hagain]
    intro h
    cases h

end FourVrs.Network
