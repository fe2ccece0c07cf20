import FourVrs.Network.VendorInventory
import Mathlib.Data.List.Nodup

/-!
# All or nothing

What `gateway_network_unowned_checked` asks and does, told by the calls it makes and what they
return: it acts on no interface before the whole file is accepted and every question answered, and
then on each one that is there.

The program is cut where its calls are: the questions (`askPresent_answers`), then the actions
(`actAll_answers`). A refusal lies before the first action, so the list of what was done is empty.
-/

set_option autoImplicit false

namespace FourVrs.Network

open Config Lib

/-! ## The calls -/

/-- An action, or the loopback callback in the place of one. -/
def BootCall.acts : BootCall → Bool
  | .action _ _ | .loopback _ => true
  | .present _ | .diagnostic _ _ _ => false

def BootCall.asks : BootCall → Bool
  | .present _ => true
  | .action _ _ | .loopback _ | .diagnostic _ _ _ => false

abbrev BootCalls : Type := List ((_ : BootCall) × Int)

/-- The actions performed, with what they returned. -/
def performed (calls : BootCalls) : BootCalls := calls.filter fun call => call.1.acts

/-- The questions asked, with their answers. -/
def asked (calls : BootCalls) : BootCalls := calls.filter fun call => call.1.asks

/-- Every answer is yes or no. -/
def Answered (calls : BootCalls) : Prop := ∀ call ∈ asked calls, call.2 = 0 ∨ call.2 = 1

/-- An interface is there when the callback says so, or when there is no callback to ask. -/
def IsPresent (ops : BootOps) (calls : BootCalls) (name : CText) : Prop :=
  ops.present = true → ⟨.present name, 1⟩ ∈ calls

instance (calls : BootCalls) : Decidable (Answered calls) := by
  unfold Answered
  infer_instance

instance (ops : BootOps) (calls : BootCalls) (name : CText) : Decidable (IsPresent ops calls name) := by
  unfold IsPresent
  infer_instance

/-- The action for one interface. -/
def bootAction (ops : BootOps) (up : Nat) (name : CText) : BootCall :=
  if ops.loopback ∧ name = text "lo" then .loopback up else .action name up

/-- The file and the arguments are fit to be acted on. -/
structure BootReady (p : Platform) (ops : BootOps) (input : CText) (up : Nat) : Prop where
  action : ops.action = true
  direction : up ≤ 1
  file : FileAccepted p up input

@[simp] theorem performed_nil : performed [] = [] := rfl
@[simp] theorem asked_nil : asked [] = [] := rfl

@[simp] theorem performed_append (calls more : BootCalls) :
    performed (calls ++ more) = performed calls ++ performed more := List.filter_append ..

@[simp] theorem asked_append (calls more : BootCalls) :
    asked (calls ++ more) = asked calls ++ asked more := List.filter_append ..

/-! ## Asking -/

variable {p : Platform} {ops : BootOps} {up : Nat}

/-- The questions for a list of names, as they are answered. -/
def questions (ops : BootOps) (answers : List (CText × Int)) : BootCalls :=
  if ops.present then answers.map fun (name, r) => ⟨.present name, r⟩ else []

variable {calls : BootCalls} {name : CText}

/-- A diagnostic neither asks nor acts. -/
theorem diagnostic_answers {α : Type} {what : String} {r : Int} {a b : α} (h : (if ops.diagnostic then do
        let _ ← Prog.lift (.diagnostic name what r)
        pure a
      else pure a : BootProg α).Answers calls b) :
    b = a ∧ performed calls = [] ∧ asked calls = [] := by
  split at h
  · obtain ⟨_, rest, rfl, hrest⟩ := Prog.answers_call.mp h
    obtain ⟨rfl, rfl⟩ := Prog.answers_pure.mp hrest
    exact ⟨rfl, rfl, rfl⟩
  · obtain ⟨rfl, rfl⟩ := Prog.answers_pure.mp h
    exact ⟨rfl, rfl, rfl⟩

/-- How the questions end: with a bad answer, or with all of the answers. -/
def AskOutcome (ops : BootOps) (names : List CText) (calls : BootCalls) :
    Option (List (CText × Int)) → Prop
  | none => ¬ Answered calls
  | some answers => answers.map Prod.fst = names ∧ asked calls = questions ops answers ∧
      ∀ x ∈ answers, (x.2 = 0 ∨ x.2 = 1) ∧ (ops.present = false → x.2 = 1)

theorem askPresent_cons (name : CText) (rest : List CText) :
    askPresent ops (name :: rest) =
      (if ops.present then Prog.lift (.present name) else pure 1) >>= fun r =>
        if r < 0 ∨ r > 1 then
          if ops.diagnostic then do
            let _ ← Prog.lift (.diagnostic name "inventory" r)
            pure none
          else pure none
        else askPresent ops rest >>= fun asked => pure (asked.map fun asked => (name, r) :: asked) := by
  rw [askPresent]
  split <;> rfl

theorem askPresent_answers {names : List CText} {result : Option (List (CText × Int))}
    (h : (askPresent ops names).Answers calls result) :
    performed calls = [] ∧ AskOutcome ops names calls result := by
  induction names generalizing calls result with
  | nil =>
    obtain ⟨rfl, rfl⟩ := Prog.answers_pure.mp h
    refine ⟨rfl, rfl, ?_, by simp⟩
    simp [questions, asked]
  | cons name rest ih =>
    rw [askPresent_cons, Prog.answers_bind] at h
    obtain ⟨first, r, behind, rfl, hfirst, hbehind⟩ := h
    have hask : performed first = [] ∧ asked first = questions ops [(name, r)] ∧
        (ops.present = false → r = 1) := by
      cases hpresent : ops.present with
      | true =>
        rw [hpresent] at hfirst
        obtain ⟨_, nothing, rfl, hnothing⟩ := Prog.answers_call.mp hfirst
        obtain ⟨rfl, rfl⟩ := Prog.answers_pure.mp hnothing
        exact ⟨rfl, by simp [questions, hpresent, asked, BootCall.asks], by simp⟩
      | false =>
        rw [hpresent] at hfirst
        obtain ⟨rfl, rfl⟩ := Prog.answers_pure.mp hfirst
        exact ⟨rfl, by simp [questions, hpresent, asked], fun _ => rfl⟩
    by_cases hbad : r < 0 ∨ r > 1
    · rw [if_pos hbad] at hbehind
      obtain ⟨rfl, hperformed, hasked⟩ := diagnostic_answers hbehind
      refine ⟨by rw [performed_append, hask.1, hperformed, List.append_nil], ?_⟩
      intro hanswered
      have hpresent : ops.present = true := by
        by_contra hno
        have := hask.2.2 (by simpa using hno)
        omega
      have hgood := hanswered ⟨.present name, r⟩ (by simp [hask.2.1, questions, hpresent])
      simp only at hgood
      omega
    · rw [if_neg hbad, Prog.answers_bind] at hbehind
      obtain ⟨middle, answers, last, rfl, hmiddle, hlast⟩ := hbehind
      obtain ⟨rfl, rfl⟩ := Prog.answers_pure.mp hlast
      obtain ⟨hperformed, hanswers⟩ := ih hmiddle
      refine ⟨by simp [hask.1, hperformed], ?_⟩
      cases answers with
      | none =>
        intro hanswered
        exact hanswers fun call hcall => hanswered call (by simp [hcall])
      | some answers =>
        obtain ⟨hnames, hasked, hgood⟩ := hanswers
        refine ⟨by simp [hnames], ?_, ?_⟩
        · rw [asked_append, asked_append, hask.2.1, hasked]
          cases hpresent : ops.present <;> simp [questions, hpresent]
        · intro x hx
          rcases List.mem_cons.mp hx with rfl | hx
          · exact ⟨by simp only; omega, hask.2.2⟩
          · exact hgood x hx

/-! ## Acting -/

/-- The result for an interface that is not there. -/
def absentResult (p : Platform) (s : BootScan) (name : CText) : Int :=
  if name = optionalVendorInterface p ∧ bootStaticOnce s = true then 0 else -1

theorem absentResult_eq_zero {s : BootScan} :
    absentResult p s name = 0 ↔ name = optionalVendorInterface p ∧ bootStaticOnce s = true := by
  unfold absentResult
  split <;> simp_all

/-- Both callbacks are one call, told about alike. -/
theorem actOn_eq (s : BootScan) (name : CText) (present : Int) :
    actOn p ops up s name present =
      if present = 0 then
        if ops.diagnostic then do
          let _ ← Prog.lift (.diagnostic name
            (if absentResult p s name ≠ 0 then "missing-required" else "deferred-absent")
            (absentResult p s name))
          pure (absentResult p s name)
        else pure (absentResult p s name)
      else Prog.lift (bootAction ops up name) >>= fun r =>
        if ops.diagnostic then do
          let _ ← Prog.lift (.diagnostic name (if up = 1 then "ifup" else "ifdown") r)
          pure r
        else pure r := by
  unfold actOn bootAction
  by_cases hpresent : present = 0
  · rw [if_pos hpresent, if_pos hpresent]
    rfl
  · rw [if_neg hpresent, if_neg hpresent]
    by_cases hlo : ops.loopback ∧ name = text "lo"
    · simp only [if_pos hlo]
    · simp only [if_neg hlo]

theorem actOn_answers {s : BootScan} {present : Int} {r : Int}
    (h : (actOn p ops up s name present).Answers calls r) :
    asked calls = [] ∧
      if present = 0 then performed calls = [] ∧ r = absentResult p s name
      else performed calls = [⟨bootAction ops up name, r⟩] := by
  rw [actOn_eq] at h
  by_cases hpresent : present = 0
  · rw [if_pos hpresent] at h ⊢
    obtain ⟨hr, hperformed, hasked⟩ := diagnostic_answers h
    exact ⟨hasked, hperformed, hr⟩
  · rw [if_neg hpresent] at h ⊢
    obtain ⟨a, rest, rfl, hrest⟩ := Prog.answers_call.mp h
    obtain ⟨rfl, hperformed, hasked⟩ := diagnostic_answers hrest
    have hacts : (bootAction ops up name).acts = true ∧ (bootAction ops up name).asks = false := by
      unfold bootAction
      split <;> exact ⟨rfl, rfl⟩
    constructor
    · simpa [asked, hacts] using hasked
    · simpa [performed, hacts] using hperformed

theorem actAll_answers {s : BootScan} {answers : List (CText × Int)} {result r : Int}
    (h : (actAll p ops up s answers result).Answers calls r) :
    asked calls = [] ∧
      (performed calls).map Sigma.fst =
        (answers.filter fun x => decide (x.2 ≠ 0)).map (fun x => bootAction ops up x.1) ∧
      (r = 0 ↔ result = 0 ∧ (∀ call ∈ performed calls, call.2 = 0) ∧
        ∀ x ∈ answers, x.2 = 0 → absentResult p s x.1 = 0) := by
  induction answers generalizing result calls with
  | nil =>
    obtain ⟨rfl, rfl⟩ := Prog.answers_pure.mp h
    simp
  | cons x rest ih =>
    obtain ⟨name, present⟩ := x
    rw [actAll, Prog.answers_bind] at h
    obtain ⟨first, a, behind, rfl, hfirst, hbehind⟩ := h
    obtain ⟨hasked, hact⟩ := actOn_answers hfirst
    obtain ⟨haskedRest, hactRest, hresult⟩ := ih hbehind
    have hzero : (if a ≠ 0 then (-1 : Int) else result) = 0 ↔ a = 0 ∧ result = 0 := by
      by_cases ha : a = 0
      · simp [ha]
      · simp [ha]
    rw [hzero] at hresult
    refine ⟨by rw [asked_append, hasked, haskedRest, List.append_nil], ?_, ?_⟩
    · by_cases hpresent : present = 0
      · rw [if_pos hpresent] at hact
        simp [hact.1, hactRest, hpresent]
      · rw [if_neg hpresent] at hact
        simp [hact, hactRest, hpresent]
    · rw [hresult, performed_append]
      by_cases hpresent : present = 0
      · rw [if_pos hpresent] at hact
        simp only [hact, List.nil_append, List.forall_mem_cons, hpresent]
        tauto
      · rw [if_neg hpresent] at hact
        simp only [hact, List.singleton_append, List.forall_mem_cons, hpresent]
        tauto

/-! ## The whole boot -/

/-- Letters, digits and `_ . : -`, and first of all a letter or a digit. -/
structure PlainName (name : CText) : Prop where
  head : ∃ first rest, name = first :: rest ∧ isAlnum first = true
  bytes : ∀ b ∈ name, nameByte b = true

theorem plainName_of_nameValid (h : nameValid name = true) : PlainName name := by
  simp only [nameValid, Bool.and_eq_true, List.all_eq_true] at h
  refine ⟨?_, h.2⟩
  cases name with
  | nil => simp at h
  | cons first rest => exact ⟨first, rest, rfl, by simpa using h.1.2⟩

/-- Nothing is done unless the file was accepted and every question answered; otherwise there is
    one action for each interface that is there, in the order of the file, whatever the others
    return. -/
structure AllOrNothing (p : Platform) (ops : BootOps) (input : CText) (up : Nat)
    (calls : BootCalls) (r : Int) : Prop where
  refused : ¬ (BootReady p ops input up ∧ Answered calls) → performed calls = [] ∧ r ≠ 0
  performed : BootReady p ops input up → Answered calls →
    (performed calls).map Sigma.fst =
      ((vendorNames p up (bootLines input)).filter fun name => decide (IsPresent ops calls name)).map
        (bootAction ops up)
  once : ((Network.performed calls).map Sigma.fst).Nodup
  result : BootReady p ops input up → Answered calls →
    (r = 0 ↔ (∀ call ∈ Network.performed calls, call.2 = 0) ∧
      ∀ name ∈ vendorNames p up (bootLines input), ¬ IsPresent ops calls name →
        name = optionalVendorInterface p ∧ DeclaredOnce p (bootLines input))
  names : ∀ name direction r, ⟨.action name direction, r⟩ ∈ calls → PlainName name ∧ direction = up

theorem bootAction_injective (ops : BootOps) (up : Nat) : (bootAction ops up).Injective := by
  intro name name' h
  unfold bootAction at h
  split at h
  next hlo =>
    split at h
    next hlo' => exact hlo.2.trans hlo'.2.symm
    next => cases h
  next =>
    split at h
    next => cases h
    next => exact (BootCall.action.inj h).1

theorem bootAction_eq_action {name name' : CText} {direction : Nat}
    (h : bootAction ops up name = .action name' direction) : name = name' ∧ up = direction := by
  unfold bootAction at h
  split at h
  · cases h
  · exact BootCall.action.inj h

theorem nodup_vendorOf (names : List CText) : (vendorOf p names).Nodup := by
  induction names using List.reverseRecOn with
  | nil => simp [vendorOf]
  | append_singleton names name ih =>
    rw [vendorOf_snoc]
    split
    next hnew => exact ih.append (List.nodup_singleton name) (by simpa using hnew.2)
    next => exact ih

/-- What is there, by the answers to the questions about distinct names. -/
theorem isPresent_iff {answers : List (CText × Int)} (hnodup : (answers.map Prod.fst).Nodup)
    (hasked : asked calls = questions ops answers)
    (hgood : ∀ x ∈ answers, (x.2 = 0 ∨ x.2 = 1) ∧ (ops.present = false → x.2 = 1)) {x : CText × Int}
    (hx : x ∈ answers) : IsPresent ops calls x.1 ↔ x.2 ≠ 0 := by
  obtain ⟨name, r⟩ := x
  have hr := hgood (name, r) hx
  simp only at hr ⊢
  unfold IsPresent
  cases hpresent : ops.present with
  | false =>
    have hone := hr.2 hpresent
    simp [hone]
  | true =>
    have hmem : ⟨.present name, 1⟩ ∈ calls ↔ (name, (1 : Int)) ∈ answers := by
      have hfilter : (⟨.present name, 1⟩ : (_ : BootCall) × Int) ∈ calls ↔
          ⟨.present name, 1⟩ ∈ asked calls := by simp [asked, BootCall.asks]
      rw [hfilter, hasked, questions, if_pos hpresent, List.mem_map]
      simp
    rw [hmem]
    constructor
    · intro hone
      have hsame := List.inj_on_of_nodup_map hnodup (hone rfl) hx rfl
      rw [Prod.mk.injEq] at hsame
      omega
    · intro hne _
      obtain rfl : r = 1 := by tauto
      exact hx

/-- Nothing but the actions is left of the calls when none acts. -/
theorem no_action_of_performed_nil (h : performed calls = []) {direction : Nat} {r : Int} :
    ⟨.action name direction, r⟩ ∉ calls := by
  intro hmem
  have hacts := List.filter_eq_nil_iff.mp h _ hmem
  exact hacts rfl

theorem allOrNothing_of_refused {input : CText} {r : Int}
    (hnot : ¬ (BootReady p ops input up ∧ Answered calls)) (hperformed : performed calls = []) (hr : r ≠ 0) :
    AllOrNothing p ops input up calls r :=
  { refused := fun _ => ⟨hperformed, hr⟩
    performed := fun hready hanswered => absurd ⟨hready, hanswered⟩ hnot
    once := by simp [hperformed]
    result := fun hready hanswered => absurd ⟨hready, hanswered⟩ hnot
    names := fun _ _ _ hmem => absurd hmem (no_action_of_performed_nil hperformed) }

/-- **The vendor's inventory is all or nothing**, and complete. -/
theorem gatewayNetworkUnownedChecked_allOrNothing {input : CText} {calls : BootCalls} {r : Int}
    (h : (gatewayNetworkUnownedChecked p ops input up).Answers calls r) :
    AllOrNothing p ops input up calls r := by
  unfold gatewayNetworkUnownedChecked at h
  -- three refusals come before the first action: the arguments, the scan and the questions
  by_cases hargs : ops.action = false ∨ up > 1 ∨ input.length > networkFileMax ∨ 0 ∈ input
  · rw [if_pos hargs] at h
    obtain ⟨rfl, rfl⟩ := Prog.answers_pure.mp h
    refine allOrNothing_of_refused ?_ rfl (by decide)
    rintro ⟨⟨haction, hup, hsize, hbytes, -⟩, -⟩
    rcases hargs with hno | hno | hno | hno
    · simp [haction] at hno
    · omega
    · omega
    · exact hbytes hno
  rw [if_neg hargs] at h
  simp only [not_or] at hargs
  obtain ⟨haction, hup, hsize, hbytes⟩ := hargs
  have hscan := scanInventory_outcome p up input
  cases hinventory : scanInventory p up input with
  | none =>
    rw [hinventory] at h hscan
    obtain ⟨rfl, rfl⟩ := Prog.answers_pure.mp h
    exact allOrNothing_of_refused (fun hready => hscan hready.1.file.lines) rfl (by decide)
  | some s =>
    rw [hinventory] at h hscan
    obtain ⟨haccepted, hagrees⟩ := hscan
    have hready : BootReady p ops input up :=
      ⟨by simpa using haction, by omega, ⟨by omega, hbytes, haccepted⟩⟩
    -- all the questions come before the first action
    obtain ⟨first, answers, rest, rfl, hfirst, hrest⟩ := Prog.answers_bind.mp h
    obtain ⟨hquiet, houtcome⟩ := askPresent_answers hfirst
    cases answers with
    | none =>
      obtain ⟨rfl, rfl⟩ := Prog.answers_pure.mp hrest
      rw [List.append_nil]
      exact allOrNothing_of_refused (fun hok => houtcome hok.2) hquiet (by decide)
    | some answers =>
      obtain ⟨hnames, hasked, hgood⟩ := houtcome
      obtain ⟨hnone, hdone, hresult⟩ := actAll_answers hrest
      have hall : performed (first ++ rest) = performed rest := by
        rw [performed_append, hquiet, List.nil_append]
      have hquestions : asked (first ++ rest) = questions ops answers := by
        rw [asked_append, hnone, List.append_nil, hasked]
      have hvendor : answers.map Prod.fst = vendorNames p up (bootLines input) :=
        hnames.trans hagrees.names
      have hthere : ∀ x ∈ answers, IsPresent ops (first ++ rest) x.1 ↔ x.2 ≠ 0 := fun x hx =>
        isPresent_iff (hvendor ▸ nodup_vendorOf _) hquestions hgood hx
      have hexpected : (answers.filter fun x => decide (x.2 ≠ 0)).map (fun x => bootAction ops up x.1) =
          ((vendorNames p up (bootLines input)).filter fun name =>
            decide (IsPresent ops (first ++ rest) name)).map (bootAction ops up) := by
        rw [← hvendor, List.filter_map, List.map_map]
        congr 1
        exact List.filter_congr fun x hx => by simp [hthere x hx]
      have hanswered : Answered (first ++ rest) := by
        intro call hcall
        rw [hquestions, questions] at hcall
        split at hcall
        · obtain ⟨x, hx, rfl⟩ := List.mem_map.mp hcall
          exact (hgood x hx).1
        · cases hcall
      refine
        { refused := fun hno => absurd ⟨hready, hanswered⟩ hno
          performed := fun _ _ => by rw [hall, hdone, hexpected]
          once := ?_
          result := fun _ _ => ?_
          names := ?_ }
      · rw [hall, hdone, hexpected]
        exact ((nodup_vendorOf _).filter _).map (bootAction_injective ops up)
      · rw [hall, hresult]
        simp only [true_and]
        refine and_congr_right fun _ => ?_
        rw [← hvendor]
        simp only [List.forall_mem_map]
        refine forall₂_congr fun x hx => ?_
        rw [hthere x hx, not_not, absentResult_eq_zero, hagrees.once, decide_eq_true_iff]
      · intro name direction a hmem
        have hact : .action name direction ∈ (performed (first ++ rest)).map Sigma.fst :=
          List.mem_map.mpr ⟨_, List.mem_filter.mpr ⟨hmem, rfl⟩, rfl⟩
        rw [hall, hdone, hexpected, List.mem_map] at hact
        obtain ⟨name', hname', heq⟩ := hact
        obtain ⟨rfl, rfl⟩ := bootAction_eq_action heq
        have hnamed := (mem_vendorOf.mp (List.mem_of_mem_filter hname')).1
        obtain ⟨line, hline, hin⟩ := List.mem_flatMap.mp hnamed
        exact ⟨plainName_of_nameValid ((haccepted.line line hline).names name' hin), rfl⟩

/-- The wireless interface is not there and may be missing; the action after the failed one is
    still performed. -/
theorem gatewayNetworkUnownedChecked_allOrNothing_vendor :
    AllOrNothing .uc7420 ⟨true, true, false, true⟩
      (text "auto lo ixp0 # eth9\x0aiface eth0 inet static\x0aauto eth0 eth5 lo eth6\x0a") 1
      [⟨.present (text "lo"), 1⟩, ⟨.present (text "eth0"), 0⟩, ⟨.present (text "eth5"), 1⟩,
        ⟨.present (text "eth6"), 1⟩, ⟨.loopback 1, 0⟩, ⟨.action (text "eth5") 1, 7⟩,
        ⟨.action (text "eth6") 1, 0⟩] (-1) :=
  gatewayNetworkUnownedChecked_allOrNothing <| Prog.answers_of_replay <|
    show Prog.replay _ [1, 0, 1, 1, 0, 7, 0] = _ by decide +kernel

end FourVrs.Network
