import FourVrs.Network.ServiceWorld

/-!
# What the two channels carry

The messages on the way to the guardian are in the order of the applies: a cancel comes
after the apply it is sent for and before the next one, because the owner applies again
only when it has polled the result. `ChannelsAgree` is what every call of either process
keeps that obeys the law of its side.
-/

set_option autoImplicit false

namespace FourVrs.Network

open Lib
open Function (update update_of_ne update_self)

/-- The messages when `n` applies have been received before them, and `m` have with them. -/
def Pending : Nat → List (Nat × Order) → Nat → Prop
  | n, [], m => n = m
  | n, (_, .heartbeat) :: rest, m => Pending n rest m
  | n, (number, .cancel) :: rest, m => number + 1 = n ∧ Pending n rest m
  | n, (number, .apply _ _) :: rest, m => number = n ∧ Pending (n + 1) rest m

theorem Pending.le {n m : Nat} {up : List (Nat × Order)} (h : Pending n up m) : n ≤ m := by
  induction up generalizing n with
  | nil => exact Nat.le_of_eq h
  | cons message up ih =>
    obtain ⟨number, order⟩ := message
    cases order with
    | heartbeat => exact ih h
    | cancel => exact ih h.2
    | apply target resolver => exact Nat.le_of_succ_le (ih h.2)

/-- A message sent when all before it have been received. -/
theorem Pending.append {n m k : Nat} {up : List (Nat × Order)} {message : Nat × Order}
    (h : Pending n up m) (hlast : Pending m [message] k) : Pending n (up ++ [message]) k := by
  induction up generalizing n with
  | nil =>
    cases h
    exact hlast
  | cons first up ih =>
    obtain ⟨number, order⟩ := first
    cases order with
    | heartbeat => exact ih h
    | cancel | apply target resolver => exact ⟨h.1, ih h.2⟩

/-- An apply that has been sent and not received is on the way. -/
theorem Pending.mem {n m number : Nat} {up : List (Nat × Order)} (h : Pending n up m) (hle : n ≤ number)
    (hlt : number < m) : ∃ target resolver, (number, Order.apply target resolver) ∈ up := by
  induction up generalizing n with
  | nil =>
    have hnm : n = m := h
    omega
  | cons first up ih =>
    obtain ⟨k, order⟩ := first
    cases order with
    | heartbeat =>
      obtain ⟨target, resolver, hmem⟩ := ih h hle
      exact ⟨target, resolver, List.mem_cons_of_mem _ hmem⟩
    | cancel =>
      obtain ⟨target, resolver, hmem⟩ := ih h.2 hle
      exact ⟨target, resolver, List.mem_cons_of_mem _ hmem⟩
    | apply target resolver =>
      obtain ⟨rfl, hrest⟩ := h
      rcases Nat.eq_or_lt_of_le hle with rfl | hlt'
      · exact ⟨target, resolver, List.mem_cons_self⟩
      · obtain ⟨target, resolver, hmem⟩ := ih hrest hlt'
        exact ⟨target, resolver, List.mem_cons_of_mem _ hmem⟩

/-- The channels, the numbers and the children fit together. -/
structure ChannelsAgree (w : ServiceWorld) : Prop where
  /-- What is on the way to the guardian. -/
  up : Pending w.guardian.taken w.up w.owner.accepted
  /-- What is on the way to the owner: the answers it has not polled. -/
  down : w.down = w.guardian.answers.drop w.owner.polled
  polled : w.owner.polled ≤ w.guardian.answers.length
  /-- The answers are those of the applies, in their order, and none is 0. -/
  numbers : w.guardian.answers.map Prod.fst = List.range w.guardian.answers.length
  results : ∀ answer ∈ w.guardian.answers, answer.2 ≠ 0
  /-- One result is owed to the owner, or none. -/
  owed : w.owner.accepted ≤ w.owner.polled + 1
  job : w.guardian.channel = true →
    w.owner.accepted = w.owner.polled + (if w.owner.job then 1 else 0)
  /-- No two children write. -/
  writer : ∀ child child' kind kind', w.guardian.children child = some kind →
    w.guardian.children child' = some kind' → kind.Writes → kind'.Writes → child = child'
  /-- Only a child ends, and after the guardian last looked at it. -/
  ended : ∀ child, w.ended child ≠ none → w.guardian.children child ≠ none
  looked : ∀ child, w.guardian.looked child ≤ w.guardian.turns
  late : ∀ child status turn, w.ended child = some (status, turn) → w.guardian.looked child ≤ turn

theorem channelsAgree_start : ChannelsAgree {} := by
  constructor <;> simp [Pending]

/-! ## The owner's calls -/

/-- The owner applies with no job, and cancels and polls with one. -/
def ownerLaw : (call : ServiceCall) → call.Result → OwnerView → Prop
  | .owner (.apply _ _), _, v => v.job = false
  | .owner .cancel, _, v | .owner .poll, _, v => v.job = true
  | _, _, _ => True

variable {w : ServiceWorld}

theorem ChannelsAgree.sends {number k : Nat} {order : Order} (h : ChannelsAgree w)
    (hlast : Pending w.owner.accepted [(number, order)] k) :
    Pending w.guardian.taken (w.sends number order).up k :=
  h.up.append hlast

/-- The owner polls the answer to its last apply. -/
theorem ChannelsAgree.polls {number : Nat} {result : Int} {rest : List (Nat × Int)} (h : ChannelsAgree w)
    (hdown : w.down = (number, result) :: rest) :
    number = w.owner.polled ∧ result ≠ 0 ∧ w.owner.polled < w.guardian.answers.length ∧
      rest = w.guardian.answers.drop (w.owner.polled + 1) := by
  have hlt : w.owner.polled < w.guardian.answers.length := by
    by_contra hge
    rw [h.down, List.drop_eq_nil_of_le (by omega)] at hdown
    cases hdown
  rw [h.down, List.drop_eq_getElem_cons hlt] at hdown
  obtain ⟨hfirst, hrest⟩ := List.cons.inj hdown
  have hlt' : w.owner.polled < (w.guardian.answers.map Prod.fst).length := by simpa using hlt
  have hnumber : (w.guardian.answers.map Prod.fst)[w.owner.polled] = w.owner.polled := by
    simp [h.numbers]
  refine ⟨?_, ?_, hlt, hrest.symm⟩
  · rw [List.getElem_map, hfirst] at hnumber
    exact hnumber
  · have hmem := h.results _ (List.getElem_mem hlt)
    rw [hfirst] at hmem
    exact hmem

theorem ChannelsAgree.ownerSide {w w' : ServiceWorld} {call : ServiceCall} {r : call.Result}
    (h : ChannelsAgree w) (hstep : ownerSide call w r w') (hlaw : ownerLaw call r w.owner) :
    ChannelsAgree w' := by
  cases call with
  | owner call =>
    cases call with
    | apply target resolver =>
      obtain ⟨-, rfl⟩ | ⟨-, hopen, rfl⟩ := hstep
      · exact h
      · have hjob : w.owner.job = false := hlaw
        have haccepted : w.owner.accepted = w.owner.polled := by simpa [hjob] using h.job hopen
        exact { h with
          up := h.sends ⟨rfl, rfl⟩
          owed := Nat.succ_le_succ haccepted.le
          job := fun _ => congrArg (· + 1) haccepted }
    | cancel =>
      obtain ⟨-, rfl⟩ | ⟨-, hopen, rfl⟩ := hstep
      · exact h
      · have hjob : w.owner.job = true := hlaw
        have haccepted : w.owner.accepted = w.owner.polled + 1 := by simpa [hjob] using h.job hopen
        exact { h with up := h.sends ⟨by omega, rfl⟩ }
    | poll =>
      have hjob : w.owner.job = true := hlaw
      obtain ⟨-, rfl⟩ | ⟨number, rest, hdown, rfl⟩ | ⟨-, hclosed, rfl⟩ := hstep
      · exact h
      · obtain ⟨-, -, hlt, hrest⟩ := h.polls hdown
        exact { h with
          down := hrest
          polled := hlt
          owed := Nat.le_succ_of_le h.owed
          job := fun hopen => by simpa [hjob] using h.job hopen }
      · exact { h with job := fun hopen => absurd hopen (by simp [hclosed]) }
    | observe | «open» | close | receive | send | probe =>
      cases hstep
      exact h
  | heartbeat =>
    cases r with
    | false =>
      cases hstep
      exact h
    | true =>
      obtain ⟨-, rfl⟩ := hstep
      exact { h with up := h.sends rfl }
  | stopping | wall | clock | foreignClient | profile | listener | wait | client | accept =>
    cases hstep
    exact h

/-! ## The guardian's calls -/

/-- All children the guardian has are its owner, if it has any. -/
def GuardianView.idle (v : GuardianView) : Prop := ∀ child kind, v.children child = some kind → kind = .owner

/-- What the guardian may do.

    An owner and a recovery are started when no child is left, a later owner to bootstrap
    and after a recovery that has succeeded. An apply is received when no child writes,
    and its job is then started. A cancel kills the job of the apply it was sent for, and
    an answer reports that of the first apply not answered. -/
def guardianLaw : (call : GuardianCall) → call.Result → GuardianView → Prop
  | .forkOwner bootstrap, _, v =>
      (∀ child, v.children child = none) ∧
        (v.started = false ∧ bootstrap = false ∨
          v.reaped = some (.recovery, .exited 0) ∧ bootstrap = true)
  | .forkWriter .recoverConfirmed, _, v => (∀ child, v.children child = none) ∧ v.started = true
  | .forkWriter (.apply target resolver), _, v =>
      v.idle ∧ ∃ number, v.message = some (number, .apply target resolver) ∧ v.taken = number + 1
  | .receive, some (.apply _ _), v => v.idle
  | .kill child .cancel, _, v =>
      ∃ number target resolver, v.message = some (number, .cancel) ∧
        v.children child = some (.writer number target resolver)
  | .answer result, _, v =>
      ∃ target resolver status, v.reaped = some (.writer v.answers.length target resolver, status) ∧
        result = jobResult status
  | _, _, _ => True

theorem jobResult_ne_zero (status : ExitStatus) : jobResult status ≠ 0 := by
  unfold jobResult
  split <;> decide

/-- A new child, where none that writes was if it does. -/
theorem ChannelsAgree.fork {child : Nat} {kind : Child} (h : ChannelsAgree w)
    (hfree : w.guardian.children child = none) (hidle : kind.Writes → w.guardian.idle) :
    ChannelsAgree { w with guardian := w.guardian.fork child kind } where
  up := h.up
  down := h.down
  polled := h.polled
  numbers := h.numbers
  results := h.results
  owed := h.owed
  job := h.job
  writer := by
    intro a b first second ha hb hfirst hsecond
    have hother : ∀ {c : Nat} {k : Child}, (w.guardian.fork child kind).children c = some k → c ≠ child →
        w.guardian.children c = some k := by
      intro c k hc hne
      rwa [GuardianView.fork_children, update_of_ne hne] at hc
    have hself : ∀ {k : Child}, (w.guardian.fork child kind).children child = some k → k = kind := by
      intro k hc
      rw [GuardianView.fork_children, update_self] at hc
      exact (Option.some.inj hc).symm
    -- the new child is one of the two, both, or neither
    by_cases hac : a = child <;> by_cases hbc : b = child
    · rw [hac, hbc]
    · subst hac
      cases hself ha
      have hno := hidle hfirst b second (hother hb hbc)
      rw [hno] at hsecond
      exact hsecond.elim
    · subst hbc
      cases hself hb
      have hno := hidle hsecond a first (hother ha hac)
      rw [hno] at hfirst
      exact hfirst.elim
    · exact h.writer a b first second (hother ha hac) (hother hb hbc) hfirst hsecond
  ended := by
    intro c hc
    show update w.guardian.children child (some kind) c ≠ none
    by_cases hne : c = child
    · simp [hne]
    · rw [update_of_ne hne]
      exact h.ended c hc
  looked := by
    intro c
    show update w.guardian.looked child w.guardian.turns c ≤ w.guardian.turns
    by_cases hne : c = child
    · simp [hne]
    · rw [update_of_ne hne]
      exact h.looked c
  late := by
    intro c status turn hc
    show update w.guardian.looked child w.guardian.turns c ≤ turn
    have hne : c ≠ child := by
      rintro rfl
      exact h.ended c (by rw [hc]; simp) hfree
    rw [update_of_ne hne]
    exact h.late c status turn hc

/-- The first message is received. -/
theorem ChannelsAgree.take {number : Nat} {order : Order} {rest : List (Nat × Order)} (h : ChannelsAgree w)
    (hup : w.up = (number, order) :: rest) :
    ChannelsAgree { w with guardian := w.guardian.take number order, up := rest } := by
  have hpending := h.up
  rw [hup] at hpending
  refine { h with up := ?_ }
  cases order with
  | heartbeat => exact hpending
  | cancel | apply target resolver => exact hpending.2

/-- A child that had not ended when the guardian looked. -/
theorem ChannelsAgree.look {child : Nat} (h : ChannelsAgree w) (hruns : w.ended child = none) :
    ChannelsAgree { w with guardian :=
      { w.guardian with looked := update w.guardian.looked child w.guardian.turns } } := by
  refine { h with looked := ?_, late := ?_ }
  · intro c
    show update w.guardian.looked child w.guardian.turns c ≤ w.guardian.turns
    by_cases hne : c = child
    · simp [hne]
    · rw [update_of_ne hne]
      exact h.looked c
  · intro c status turn hc
    show update w.guardian.looked child w.guardian.turns c ≤ turn
    have hne : c ≠ child := by
      rintro rfl
      rw [hruns] at hc
      cases hc
    rw [update_of_ne hne]
    exact h.late c status turn hc

theorem ChannelsAgree.reap {child : Nat} {kind : Child} {status : ExitStatus} (h : ChannelsAgree w) :
    ChannelsAgree { w with guardian := w.guardian.reap child kind status
                           ended := update w.ended child none } := by
  have hleft : ∀ {c : Nat} {k : Child},
      (w.guardian.reap child kind status).children c = some k → w.guardian.children c = some k := by
    intro c k hc
    have hne : c ≠ child := by
      rintro rfl
      rw [GuardianView.reap_children, update_self] at hc
      cases hc
    rwa [GuardianView.reap_children, update_of_ne hne] at hc
  have hended : ∀ {c : Nat} {e : ExitStatus × Nat},
      update w.ended child none c = some e → c ≠ child ∧ w.ended c = some e := by
    intro c e hc
    have hne : c ≠ child := by
      rintro rfl
      rw [update_self] at hc
      cases hc
    rw [update_of_ne hne] at hc
    exact ⟨hne, hc⟩
  refine { h with writer := ?_, ended := ?_, late := ?_ }
  · intro a b first second ha hb
    exact h.writer a b first second (hleft ha) (hleft hb)
  · intro c hc
    obtain ⟨e, he⟩ := Option.ne_none_iff_exists'.1 hc
    obtain ⟨hne, hlate⟩ := hended he
    show update w.guardian.children child none c ≠ none
    rw [update_of_ne hne]
    exact h.ended c (by rw [hlate]; simp)
  · intro c s turn hc
    exact h.late c s turn (hended hc).2

/-- The answer to the first apply not answered. -/
theorem ChannelsAgree.answer {result : Int} (h : ChannelsAgree w)
    (hnumber : w.guardian.reapedNumber = w.guardian.answers.length) (hresult : result ≠ 0) :
    ChannelsAgree { w with
      guardian := { w.guardian with
                     answers := w.guardian.answers ++ [(w.guardian.reapedNumber, result)] }
      down := w.down ++ [(w.guardian.reapedNumber, result)] } := by
  refine { h with down := ?_, polled := ?_, numbers := ?_, results := ?_ }
  · show w.down ++ _ = List.drop _ (w.guardian.answers ++ _)
    rw [h.down, List.drop_append_of_le_length h.polled]
  · show w.owner.polled ≤ (w.guardian.answers ++ [_]).length
    rw [List.length_append]
    exact Nat.le_add_right_of_le h.polled
  · show (w.guardian.answers ++ [_]).map Prod.fst = List.range (w.guardian.answers ++ [_]).length
    rw [List.map_append, List.length_append, h.numbers, List.length_singleton, List.range_succ, hnumber]
    rfl
  · intro answer hanswer
    rcases List.mem_append.1 hanswer with hold | hnew
    · exact h.results answer hold
    · rw [List.mem_singleton.1 hnew]
      exact hresult

theorem ChannelsAgree.guardianSide {w w' : ServiceWorld} {call : GuardianCall} {r : call.Result}
    (h : ChannelsAgree w) (hstep : guardianSide call w r w') (hlaw : guardianLaw call r w.guardian) :
    ChannelsAgree w' := by
  cases call with
  | now | stopping | openPair | poll =>
    cases hstep
    exact h
  | kill child reason =>
    cases hstep
    exact { h with }
  | close =>
    cases hstep
    exact { h with job := nofun }
  | forkOwner bootstrap =>
    cases r with
    | none =>
      cases hstep
      exact h
    | some child =>
      obtain ⟨hfree, rfl⟩ := hstep
      have hidle : Child.owner.Writes → w.guardian.idle := fun hno => hno.elim
      have hfork := h.fork hfree hidle
      exact { hfork with
        up := rfl
        down := rfl
        polled := Nat.le_refl 0
        numbers := rfl
        results := nofun
        owed := Nat.zero_le 1
        job := fun _ => rfl }
  | receive =>
    cases r with
    | none =>
      cases hstep
      exact h
    | some order =>
      obtain ⟨number, rest, hup, rfl⟩ := hstep
      exact h.take hup
  | forkWriter writer =>
    cases r with
    | none =>
      cases hstep
      exact h
    | some child =>
      obtain ⟨hfree, rfl⟩ := hstep
      refine h.fork hfree fun _ => ?_
      cases writer with
      | apply target resolver => exact hlaw.1
      | recoverConfirmed =>
        intro child' kind hchild
        rw [hlaw.1 child'] at hchild
        cases hchild
  | wait child =>
    cases r with
    | none =>
      obtain ⟨hruns, rfl⟩ := hstep
      exact h.look hruns
    | some status =>
      obtain ⟨kind, turn, -, -, rfl⟩ := hstep
      exact h.reap
  | answer result =>
    cases r with
    | false =>
      cases hstep
      exact h
    | true =>
      cases hstep
      obtain ⟨target, resolver, status, hreaped, rfl⟩ := hlaw
      exact h.answer (by rw [GuardianView.reapedNumber, hreaped]) (jobResult_ne_zero status)

end FourVrs.Network
