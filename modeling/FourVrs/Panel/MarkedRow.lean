import FourVrs.Panel.Selection

/-!
# The row that is marked is the row that acts

The step and the runs on top of the keys: a run that takes no way back to a list too short
for the selection never shows a list without a mark, and what F3 does is what the marked row
says.
-/

set_option autoImplicit false

namespace FourVrs.Panel

open FourVrs.Core Config

variable {p p' : GatewayPanel} {w : PanelWorld}

/-! ## The step -/

theorem selects_pressRepeated {k : PanelKey} (hk : k ≠ .f1) (count : Nat) (h : Selects p) :
    Selects (pressRepeated w k count p).1 := by
  induction count generalizing p with
  | zero => exact h
  | succ count ih =>
    have hpressed := selects_pressKey (w := w) h k fun heq => absurd heq hk
    unfold pressRepeated
    dsimp only
    split
    · exact hpressed
    · exact ih hpressed

theorem pressRepeated_one (k : PanelKey) : (pressRepeated w k 1 p).1 = (pressKey w p k).1 := by
  unfold pressRepeated
  dsimp only
  split <;> rfl

/-- F1 is never repeated. -/
theorem panelPoll_f1 (hevent : 0 < (panelPoll w p).event) (hkey : panelKey (panelPoll w p).raw = some .f1) :
    0 < w.event ∧ w.raw = 0 ∧ (panelPoll w p).panel.repeatCount = 1 := by
  have hraw : ∀ raw, panelKey raw = some .f1 → raw = 0 := by
    intro raw hraw
    unfold panelKey at hraw
    split at hraw <;> simp_all
  unfold panelPoll at hevent hkey ⊢
  dsimp only at hevent hkey ⊢
  split at hevent
  · rename_i hkeys
    rw [if_pos hkeys] at hkey ⊢
    exact ⟨hevent, hraw _ hkey, rfl⟩
  · rename_i hkeys
    rw [if_neg hkeys] at hkey ⊢
    split at hevent
    · rename_i hnone
      rw [hnone] at hkey
      exact ⟨hevent, hraw _ hkey, rfl⟩
    · rename_i mask hsome
      rw [hsome] at hkey
      unfold pollSampled at hevent hkey ⊢
      dsimp only at hevent hkey ⊢
      split at hevent
      · rename_i hpress
        rw [if_pos hpress] at hkey ⊢
        exact ⟨hevent, hraw _ hkey, rfl⟩
      · rename_i hpress
        rw [if_neg hpress] at hkey
        split at hevent
        · rename_i hstep
          rw [if_pos hstep] at hkey
          have hnever := hraw _ hkey
          split at hnever <;> cases hnever
        · cases hevent

theorem selects_panelKeys (h : Selects p)
    (hback : p.keypadAvailable = true → 0 < w.event ∧ w.raw = 0 → slipsBack w p = false) :
    Selects (panelKeys w p).1 := by
  obtain ⟨held, armed, count, hpanel⟩ := panelPoll_panel w p
  have hpoll : Selects (panelPoll w p).panel := by
    rw [hpanel]
    exact h.stays ⟨rfl, rfl, rfl, rfl, rfl⟩ rfl rfl rfl
  unfold panelKeys
  split
  · rename_i hkeypad
    dsimp only
    split
    · exact hpoll.stays ⟨rfl, rfl, rfl, rfl, rfl⟩ rfl rfl rfl
    split
    · rename_i hevent
      split
      · rename_i k hkey
        by_cases hk : k = .f1
        · subst hk
          obtain ⟨hpress, hraw, hcount⟩ := panelPoll_f1 hevent hkey
          rw [hcount, pressRepeated_one]
          refine selects_pressKey hpoll .f1 fun _ => ?_
          have hsame : slipsBack w (panelPoll w p).panel = slipsBack w p := by rw [hpanel]; rfl
          rw [hsame]
          exact hback hkeypad ⟨hpress, hraw⟩
        · exact selects_pressRepeated hk _ hpoll
      · exact hpoll
    · exact hpoll
  · exact h

theorem selects_transactionResult (h : Selects p) : Selects (webTransactionResult w p) := by
  unfold webTransactionResult
  split
  · exact h
  split
  · exact h.stays ⟨rfl, rfl, rfl, rfl, rfl⟩ rfl rfl rfl
  split
  · exact h.stays ⟨rfl, rfl, rfl, rfl, rfl⟩ rfl rfl rfl
  · split
    · exact h
    · exact h.stays ⟨rfl, rfl, rfl, rfl, rfl⟩ rfl rfl rfl

/-- What the end of a prompt goes by. -/
theorem slipsPrompt_transactionResult (w : PanelWorld) (p : GatewayPanel) :
    slipsPrompt w (webTransactionResult w p) = slipsPrompt w p := by
  unfold webTransactionResult
  split
  · rfl
  split
  · rfl
  · split
    · rfl
    · split <;> rfl

theorem selects_endPrompt (h : Selects p) (hstop : w.stopRequested = false) (hslip : slipsPrompt w p = false) :
    Selects (endPrompt w p) := by
  unfold endPrompt
  split
  · rename_i hend
    refine h.backTo ⟨rfl, rfl, rfl, rfl, rfl⟩ rfl ?_ h.webReturn
    simpa [slipsPrompt, hstop, hend.1, hend.2] using hslip
  · exact h

theorem promptSafe_view (hsafe : promptSafe w p = true) :
    p.view ≠ .webUrl ∧ p.view ≠ .webCert ∧ p.view ≠ .webRecover := by
  simp only [promptSafe, Bool.and_eq_true, decide_eq_true_eq] at hsafe
  rcases hsafe.1.1.1.1 with hview | hview | hview | hview <;> simp [hview]

theorem selects_webPrompt (h : Selects p) (hstop : w.stopRequested = false) (hslip : slipsPrompt w p = false) :
    Selects (webPrompt w p) := by
  have hend := selects_endPrompt h hstop hslip
  unfold webPrompt
  dsimp only
  split
  · exact hend
  · rename_i hgoes
    have hprompt : Selects (if w.recoveryPrompt = 1 then
        { endPrompt w p with
          webReturn := (endPrompt w p).view, view := .webRecover, webRemote := true, webPromptReady := false }
        else endPrompt w p) := by
      split
      · rename_i hasked
        have hsafe : promptSafe w p = true := by
          by_contra hunsafe
          exact hgoes ⟨hasked, Or.inl (by simpa using hunsafe)⟩
        have hstays : endPrompt w p = p := by simp [endPrompt, hasked]
        rw [hstays]
        exact { h with selected := h.lt_eight, webReturn := promptSafe_view hsafe }
      · exact hend
    split
    · exact hprompt.leaves ⟨rfl, rfl, rfl, rfl, rfl⟩ rfl rfl
    · exact hprompt

theorem selects_panelReady (h : Selects p) (hslip : slipsPrompt w p = false) : Selects (panelReady w p) := by
  have hhome : Selects (if p.view = .startup ∧ w.startupOver then { p with view := .home } else p) := by
    split
    · exact h.leaves ⟨rfl, rfl, rfl, rfl, rfl⟩ rfl rfl
    · exact h
  unfold panelReady
  dsimp only
  split
  · exact hhome
  · rename_i hstop
    refine selects_webPrompt (selects_transactionResult hhome) (by simpa using hstop) ?_
    rw [slipsPrompt_transactionResult]
    split
    · exact hslip
    · exact hslip

theorem selects_gatewayPanelStep (h : Selects p) (hslips : slips w p = false) : Selects (gatewayPanelStep w p).1 := by
  simp only [slips, Bool.or_eq_false_iff] at hslips
  have hready := selects_panelReady h hslips.1
  have hkeys : Selects (panelKeys w (panelReady w p)).1 := by
    refine selects_panelKeys hready ?_
    intro hkeypad hpress
    simpa [hkeypad, hpress] using hslips.2
  have hstopping : Selects (stoppingView w (panelKeys w (panelReady w p)).1) := by
    unfold stoppingView
    split
    · exact hkeys.leaves ⟨rfl, rfl, rfl, rfl, rfl⟩ rfl rfl
    · exact hkeys
  have hscreen : Selects (makeScreen (stoppingView w (panelKeys w (panelReady w p)).1)) := by
    unfold makeScreen
    split
    · exact hstopping.stays ⟨rfl, rfl, rfl, rfl, rfl⟩ rfl rfl rfl
    · exact hstopping.stays ⟨rfl, rfl, rfl, rfl, rfl⟩ rfl rfl rfl
    · exact hstopping
  unfold gatewayPanelStep drawScreen
  dsimp only
  split
  · exact hscreen
  split
  · exact hscreen.stays ⟨rfl, rfl, rfl, rfl, rfl⟩ rfl rfl rfl
  · split
    · exact hscreen.stays ⟨rfl, rfl, rfl, rfl, rfl⟩ rfl rfl rfl
    · exact hscreen

theorem selects_init (display keypad hasKeyState : Bool) : Selects (gatewayPanelInit display keypad hasKeyState) := by
  refine ⟨?_, ?_, ?_, ?_, ?_, ?_⟩ <;> simp [gatewayPanelInit, room, fieldCount, gatewayNtpServerMax]

theorem selects_panelRun {history : List PanelMoment} (hrun : PanelRun history p)
    (hwell : ∀ m ∈ history, slips m.world m.before = false) :
    Selects p ∧ ∀ m ∈ history, Selects m.ready := by
  induction hrun with
  | init display keypad hasKeyState =>
    refine ⟨selects_init display keypad hasKeyState, ?_⟩
    intro m hm
    cases hm
  | step w next hrun hlater hclock ih =>
    obtain ⟨hp, hready⟩ := ih fun m hm => hwell m (List.mem_append_left _ hm)
    have hslips := hwell _ (List.mem_append_right _ (List.mem_singleton_self _))
    refine ⟨selects_gatewayPanelStep hp hslips, ?_⟩
    intro m hm
    rcases List.mem_append.mp hm with hm | hm
    · exact hready m hm
    · rw [List.mem_singleton.mp hm]
      simp only [slips, Bool.or_eq_false_iff] at hslips
      exact selects_panelReady hp hslips.1
  | stopResult error hrun ih =>
    obtain ⟨hp, hready⟩ := ih hwell
    exact ⟨selects_stopResult hp error, hready⟩

/-! ## The marked row -/

theorem makeScreen_selected (p : GatewayPanel) : (makeScreen p).selected = p.selected := by
  unfold makeScreen
  split <;> rfl

theorem menuItem_refused : ∀ n < 7, (menuItem n = .configuration ∨ menuItem n = .system ∨ menuItem n = .shutdown) ↔
    (n = 2 ∨ n = 4 ∨ n = 5) := by
  decide

theorem pressKey_menu (hview : p.view = .menu) (h : p.selected < 7) :
    pressKey w p .f3 = menuAct p w (menuItem p.selected) := by
  have hkey : (key w p .f3, []) = menuAct p w (menuItem p.selected) := by
    unfold key menuAct
    simp only [hview, menuItem_refused p.selected h, refusedItem, Bool.and_eq_true, decide_eq_true_eq, true_and]
    split
    · rfl
    · rfl
  unfold pressKey
  split
  · exact hkey
  · rw [← hkey]
    simp [webKey, networkKey, specialKey, ntpKey, hview, PanelView.isWeb]

theorem pressKey_ports (hview : p.view = .ports) : pressKey w p .f3 = (openPort p p.selected, []) := by
  unfold pressKey
  split
  · simp [key, hview, viewKey, portsKey]
  · simp [webKey, networkKey, specialKey, ntpKey, hview, PanelView.isWeb, key, viewKey, portsKey]

theorem pressKey_configPorts (hview : p.view = .configPorts) :
    pressKey w p .f3 = (openConfig p p.selected, []) := by
  unfold pressKey
  split
  · simp [key, hview, viewKey, configPortsKey]
  · simp [webKey, networkKey, specialKey, ntpKey, hview, PanelView.isWeb, key, viewKey, configPortsKey]

theorem pressKey_web (hview : p.view = .web) : pressKey w p .f3 = webAct p w (webItem p.selected) := by
  unfold pressKey webAct
  by_cases hstop : w.stopRequested = true
  · simp [key, hview, viewKey, hstop]
  · rw [if_neg hstop]
    by_cases hready : p.webRemote = true ∧ p.webPromptReady = false
    · simp [webKey, hview, PanelView.isWeb, hready]
    · have hready' : (p.webRemote && !p.webPromptReady) = false := by simpa using hready
      simp [webKey, hview, PanelView.isWeb, hready', hready, hstop, webPageKey]

theorem highlighted_of_selects (h : Selects p) : Highlighted p := by
  have hselected := h.selected
  unfold Highlighted
  split
  · rename_i hview
    rw [room, hview] at hselected
    refine ⟨hselected, menuItem p.selected, fun w => ⟨?_, pressKey_menu hview hselected⟩⟩
    unfold menuRows
    rw [makeScreen_selected]
    exact marked_itemRow _ _ List.nodup_range (List.mem_range.mpr hselected)
  · rename_i hview
    rw [room, hview] at hselected
    refine ⟨hselected, p.selected, fun w => ⟨?_, pressKey_ports hview⟩⟩
    have hscroll : makeScreen p = { p with scroll := scrolled p.selected p.scroll } := by simp [makeScreen, hview]
    rw [hscroll]
    exact marked_itemRow _ _ (nodup_visible _ _) (mem_visible_scrolled hselected)
  · rename_i hview
    rw [room, hview] at hselected
    refine ⟨hselected, p.selected, fun w => ⟨?_, pressKey_configPorts hview⟩⟩
    have hscroll : makeScreen p = { p with scroll := scrolled p.selected p.scroll } := by simp [makeScreen, hview]
    rw [hscroll]
    exact marked_itemRow _ _ (nodup_visible _ _) (mem_visible_scrolled hselected)
  · rename_i hview
    rw [room, hview] at hselected
    refine ⟨hselected, webItem p.selected, fun w => ⟨?_, pressKey_web hview⟩⟩
    unfold webRows
    rw [makeScreen_selected]
    exact marked_itemRow _ _ List.nodup_range (List.mem_range.mpr hselected)
  · trivial

theorem inRange_of_selects (h : Selects p) : InRange p := by
  intro w use huse
  have hport := h.portIndex
  have hfield := h.fieldIndex
  have hoctet := h.editOctet
  have hcursor := h.ntpCursor
  unfold indexed at huse
  split at huse
  · simp_all
  · simp only [List.mem_cons, List.not_mem_nil, or_false] at huse
    rcases huse with rfl | rfl
    · exact hport
    · exact hfield
  · simp only [List.mem_append, List.mem_cons, List.not_mem_nil, or_false] at huse
    rcases huse with (rfl | rfl) | huse
    · exact hport
    · exact hfield
    · split at huse
      · rw [List.mem_singleton.mp huse]
        exact hoctet
      · cases huse
  · split at huse
    · rename_i hpage
      rw [List.mem_singleton.mp huse]
      exact Nat.lt_of_lt_of_le hpage (Nat.min_le_right _ _)
    · cases huse
  · split at huse
    · rw [List.mem_singleton.mp huse]
      exact Nat.lt_of_succ_lt hcursor
    · cases huse
  · cases huse

/-- **The row that is marked is the row that acts**, in every state of a run that takes no way
    back to a list too short for the selection; and what the views index is there. -/
theorem highlighted_unless_slips {history : List PanelMoment} (hrun : PanelRun history p)
    (hwell : ∀ m ∈ history, slips m.world m.before = false) :
    (Highlighted p ∧ InRange p) ∧ ∀ m ∈ history, Highlighted m.ready ∧ InRange m.ready := by
  obtain ⟨hp, hready⟩ := selects_panelRun hrun hwell
  refine ⟨⟨highlighted_of_selects hp, inRange_of_selects hp⟩, ?_⟩
  intro m hm
  exact ⟨highlighted_of_selects (hready m hm), inRange_of_selects (hready m hm)⟩

/-! ## What a slip leads to -/

/-- A list that is too short for the selection has no marked row. -/
theorem not_highlighted (h : p.selected < 8) (hshort : p.view.rows ≤ p.selected) : ¬Highlighted p := by
  intro hhigh
  unfold Highlighted at hhigh
  unfold PanelView.rows at hshort
  split at hhigh
  · rename_i hview
    rw [hview] at hshort
    exact absurd hhigh.1 (Nat.not_lt.mpr hshort)
  · rename_i hview
    rw [hview] at hshort
    exact absurd h (Nat.not_lt.mpr hshort)
  · rename_i hview
    rw [hview] at hshort
    exact absurd h (Nat.not_lt.mpr hshort)
  · rename_i hview
    rw [hview] at hshort
    exact absurd hhigh.1 (Nat.not_lt.mpr hshort)
  split at hshort
  · simp_all
  · simp_all
  · omega

/-! ## A run -/

/-- To the list of ports and up to its last row. -/
theorem highlighted_lastPort :
    (Highlighted (pressedAll [2, 3, 2, 1]).2 ∧ InRange (pressedAll [2, 3, 2, 1]).2) ∧
      ∀ m ∈ (pressedAll [2, 3, 2, 1]).1, Highlighted m.ready ∧ InRange m.ready :=
  highlighted_unless_slips (panelRun_pressedAll [2, 3, 2, 1]).1 (by decide +kernel)

example : (pressedAll [2, 3, 2, 1]).2.view = .ports ∧ (pressedAll [2, 3, 2, 1]).2.selected = 7 := by
  decide +kernel

/-- From the last row of the ports back to the menu: no row has the mark. -/
theorem menu_without_mark : ¬∀ history p, PanelRun history p → Highlighted p ∧ InRange p := by
  intro h
  have hrun := panelRun_pressedAll [2, 3, 2, 1, 0]
  exact not_highlighted (by decide +kernel) (by decide +kernel) (h _ _ hrun.1).1

end FourVrs.Panel
