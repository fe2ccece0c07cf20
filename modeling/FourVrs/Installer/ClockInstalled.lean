import FourVrs.Installer.ClockGuard

/-!
# The clock stays guarded

What `install_clock_script` accepts is guarded, what it writes it accepts, and so it writes it only
once: `installClockScript_installed`.

A script with the marker is only looked at, and `guarded_of_accept` says check by check what that
finds. A script without it is changed in one place (`only_needle`) and then looked at like the
others, so both ways end with the same facts.
-/

set_option autoImplicit false

namespace FourVrs.Installer

open Lib

/-! ## Quoted messages -/

theorem skipOption_split (words : List UInt8) :
    ∃ option, words = option ++ skipOption words ∧
      (option = [] ∨ ∃ more, option = Config.text "-n " ++ more ∧ ∀ b ∈ more, isBlank b = true) := by
  unfold skipOption
  split
  next hoption =>
    obtain ⟨-, behind, rfl⟩ := hoption
    refine ⟨Config.text "-n " ++ behind.takeWhile isBlank, ?_,
      .inr ⟨_, rfl, fun b hb => List.mem_takeWhile_imp hb⟩⟩
    have hthree : (Config.text "-n ").length = 3 := by decide
    rw [← hthree, List.drop_left, List.append_assoc, List.takeWhile_append_dropWhile]
  next => exact ⟨[], rfl, .inl rfl⟩

/-- `literal_echo` knows nothing but quoted messages. -/
theorem quotedEcho_of_literalEcho {rest : List UInt8} (h : literalEcho rest = true) :
    QuotedEcho rest := by
  unfold literalEcho at h
  split at h
  · cases h
  next hhead =>
    simp only [not_or, not_not] at hhead
    obtain ⟨-, words, rfl⟩ := hhead
    have hfive : (Config.text "echo ").length = 5 := by decide
    rw [← hfive, List.drop_left] at h
    obtain ⟨option, hoption, hkind⟩ := skipOption_split (words.dropWhile isBlank)
    split at h
    · cases h
    next quote behind hquote =>
      rw [hquote] at hoption
      split at h
      · cases h
      next hmark =>
        split at h
        · cases h
        next hplain =>
          split at h
          · cases h
          next close after hclose =>
            have hend : close = quote := by
              have hnot := List.head?_dropWhile_not (fun b => decide (b ≠ quote)) behind
              rw [hclose] at hnot
              simpa using hnot
            have hbehind := @List.takeWhile_append_dropWhile _ (fun b => decide (b ≠ quote)) behind
            rw [hclose, hend] at hbehind
            refine ⟨words.takeWhile isBlank, option, quote,
              behind.takeWhile fun b => decide (b ≠ quote), after, ?_,
              fun b hb => List.mem_takeWhile_imp hb, hkind, ?_, ?_, ?_⟩
            · have hwords := @List.takeWhile_append_dropWhile _ isBlank words
              rw [hoption, ← hbehind] at hwords
              generalize behind.takeWhile (fun b => decide (b ≠ quote)) = message at hwords ⊢
              generalize words.takeWhile isBlank = blanks at hwords ⊢
              rw [← hwords]
              simp
            · by_contra hno
              exact hmark (by simpa [not_or] using hno)
            · intro b hb
              have hne := List.mem_takeWhile_imp hb
              simp only [Bool.not_eq_true, List.any_eq_false, Bool.or_eq_true, decide_eq_true_iff,
                not_or] at hplain
              exact ⟨by simpa using hne, (hplain b hb).1.1, (hplain b hb).1.2, (hplain b hb).2⟩
            · rw [decide_eq_true_iff, List.dropWhile_eq_nil_iff] at h
              exact h

/-! ## What is checked of a line -/

/-- Every line is checked where it stands. -/
theorem writersFrom_line {s : List UInt8} {guard length : Nat} {halt top : Bool} {limit : Option Nat}
    {p : Nat} {front back : List (List UInt8)} {line : List UInt8}
    (h : writersFrom s guard length halt top limit p (front ++ line :: back) = true) :
    writersLine s guard length halt top limit (p + front.flatten.length) line = true := by
  induction front generalizing p with
  | nil =>
    simp only [List.nil_append, writersFrom, Bool.and_eq_true] at h
    simpa using h.1.2
  | cons first front ih =>
    simp only [List.cons_append, writersFrom, Bool.and_eq_true] at h
    have hrest := ih h.2
    rwa [Nat.add_assoc, ← List.length_append, ← List.flatten_cons] at hrest

theorem clockWriter_ne_nil (halt : Bool) : clockWriter halt ≠ [] := by
  cases halt <;> decide

/-- What the check of a line says of the first place the writer stands at. -/
theorem writersLine_place {s : List UInt8} {guard length : Nat} {halt top : Bool}
    {limit : Option Nat} {before back line upTo found : List UInt8} (hline : OneLine 10 line)
    (hs : s = before ++ line ++ back)
    (h : writersLine s guard length halt top limit before.length line = true)
    (hcomment : ¬ CommentLine line) (hecho : ¬ QuotedEcho (lineRest line))
    (htest : ¬ LooksForNtpdate halt (lineRest line))
    (hfind : findText (clockWriter halt) (lineRest line) = some (upTo, found)) :
    let w := before.length + (lineIndent line).length + upTo.length
    if halt then guard ≤ w ∧ w < guard + length
    else guard + length ≤ w ∧ (top = true ∨ ∃ at' ∈ limit, w < at') := by
  obtain ⟨hrest, hwriter⟩ := findText_eq_some hfind
  have hfound : found ≠ [] := fun hnil =>
    clockWriter_ne_nil halt (List.prefix_nil.mp (hnil ▸ hwriter))
  have hne : lineRest line ≠ [] := by
    rw [hrest]
    simp [hfound]
  have hno : ¬ (lineRest line = [] ∨ isComment (lineRest line) = true ∨
      literalEcho (lineRest line) = true) := by
    rintro (hnil | hcom | hlit)
    · exact hne hnil
    · exact hcomment hcom
    · exact hecho (quotedEcho_of_literalEcho hlit)
  have hplace : strstr s (before.length + (lineIndent line).length) (clockWriter halt) =
      some (before.length + (lineIndent line).length + upTo.length) := by
    have hdrop : s.drop (before.length + (lineIndent line).length) = lineRest line ++ ([10] ++ back) := by
      have hparts : s = (before ++ lineIndent line) ++ (lineRest line ++ ([10] ++ back)) := by
        rw [hs]
        nth_rewrite 1 [line_rest hline]
        simp
      rw [hparts, ← List.length_append, List.drop_left]
    rw [strstr, hdrop, findText_append_right hfind, Option.map_some]
  have htext : (lineText line).length = (lineIndent line).length + (lineRest line).length := by
    rw [← List.length_append, lineIndent, lineRest, List.takeWhile_append_dropWhile]
  have hinside : before.length + (lineIndent line).length + upTo.length <
      before.length + (lineText line).length := by
    have hpos := List.length_pos_iff.mpr hfound
    rw [htext, hrest, List.length_append]
    omega
  unfold writersLine at h
  rw [if_neg hno, hplace] at h
  simp only at h
  rw [if_pos ⟨hinside, htest⟩] at h
  cases halt with
  | true => simpa using h
  | false =>
    simp only [Bool.false_eq_true, if_false, Bool.and_eq_true, Bool.or_eq_true, decide_eq_true_iff,
      Option.any_eq_true] at h ⊢
    exact h

/-! ## What is accepted is guarded -/

theorem findGuard_eq_some {s guard : List UInt8} {halt : Bool} {found : Nat}
    (h : findGuard s halt = some (found, guard)) :
    (guard = clockGuard halt ∨ guard = historicalGuard halt) ∧
      ∃ before behind, s = before ++ guard ++ behind ∧ found = before.length := by
  unfold findGuard at h
  split at h
  next at' hat =>
    obtain ⟨rfl, rfl⟩ := Prod.mk.inj (Option.some.inj h)
    obtain ⟨before, behind, hsplit, hlength, -⟩ := strstr_zero hat
    exact ⟨.inl rfl, before, behind, hsplit, hlength⟩
  next =>
    obtain ⟨at', hat, heq⟩ := Option.map_eq_some_iff.mp h
    obtain ⟨rfl, rfl⟩ := Prod.mk.inj heq
    obtain ⟨before, behind, hsplit, hlength, -⟩ := strstr_zero hat
    exact ⟨.inr rfl, before, behind, hsplit, hlength⟩

theorem guard_last {guard : List UInt8} {halt : Bool}
    (h : guard = clockGuard halt ∨ guard = historicalGuard halt) : guard.getLast? = some 10 := by
  rcases h with rfl | rfl <;> cases halt <;> decide

/-- A line between two cuts, when something of it is. -/
theorem line_in_block {front line back before guard behind : List UInt8} {w : Nat}
    (hline : OneLine 10 line) (hsplit : front ++ line ++ back = before ++ guard ++ behind)
    (hbefore : ∀ b ∈ before.getLast?, b = 10) (hguard : guard.getLast? = some 10)
    (hw : w < (front ++ line).length) (hfront : front.length ≤ w) (hlow : before.length ≤ w)
    (hhigh : w < before.length + guard.length) :
    ∃ start rest, guard = start ++ line ++ rest ∧ front = before ++ start := by
  have hcut : front ++ line ++ back = before ++ (guard ++ behind) := by rw [hsplit, List.append_assoc]
  have hlast : ∀ b ∈ (before ++ guard).getLast?, b = 10 := by
    have hne : guard ≠ [] := by
      rintro rfl
      cases hguard
    rw [List.getLast?_append_of_ne_nil _ hne, hguard]
    simp
  have hstart : before.length ≤ front.length := by
    rcases cut_outside_line hline hcut hbefore with h | h
    · exact h
    · omega
  have hend : (front ++ line).length ≤ (before ++ guard).length := by
    rcases cut_outside_line hline hsplit hlast with h | h
    · rw [List.length_append] at h
      omega
    · exact h
  obtain ⟨start, rfl⟩ : before <+: front :=
    List.prefix_of_prefix_length_le ⟨guard ++ behind, hcut.symm⟩
      (by rw [List.append_assoc]; exact List.prefix_append _ _) hstart
  have hinside : before ++ (start ++ line) <+: before ++ guard := by
    rw [← List.append_assoc]
    exact List.prefix_of_prefix_length_le (List.prefix_append _ back)
      (by rw [hsplit]; exact List.prefix_append _ _) hend
  obtain ⟨rest, hrest⟩ := (List.prefix_append_right_inj before).mp hinside
  exact ⟨start, rest, hrest.symm, rfl⟩

/-- A line behind a cut, when something of it is. -/
theorem line_behind {front line back before behind : List UInt8} {w : Nat} (hline : OneLine 10 line)
    (hsplit : front ++ line ++ back = before ++ behind) (hbefore : ∀ b ∈ before.getLast?, b = 10)
    (hw : w < (front ++ line).length) (hlow : before.length ≤ w) : ∃ between, front = before ++ between := by
  have hstart : before.length ≤ front.length := by
    rcases cut_outside_line hline hsplit hbefore with h | h
    · exact h
    · omega
  obtain ⟨between, rfl⟩ : before <+: front :=
    List.prefix_of_prefix_length_le ⟨behind, hsplit.symm⟩
      (by rw [List.append_assoc]; exact List.prefix_append _ _) hstart
  exact ⟨between, rfl⟩

/-- What stands before the first end of a branch is in the branch. -/
theorem branch_of_limit {s before upTo rest : List UInt8} {at' : Nat}
    (hs : s = before ++ (upTo ++ rest)) (hlimit : strstr s before.length (Config.text ";;") = some at')
    (hat : before.length + upTo.length < at') : BranchOpen upTo ∧ Config.text ";;" <:+: rest := by
  obtain ⟨front, found, hfind, hsplit, hfound, rfl⟩ := strstr_eq_some hlimit
  rw [hs, List.drop_left] at hfind hsplit
  have hshort : upTo.length < front.length := by omega
  constructor
  · rintro ⟨u, v, huv⟩
    have hother : upTo ++ rest = u ++ (Config.text ";;" ++ (v ++ rest)) := by
      rw [← huv]
      simp
    have hfirst := findText_first hfind hother (List.prefix_append _ _)
    have hlength := congrArg List.length huv
    rw [List.length_append, List.length_append] at hlength
    omega
  · obtain ⟨more, rfl⟩ : upTo <+: front :=
      List.prefix_of_prefix_length_le (List.prefix_append upTo rest) ⟨found, hsplit.symm⟩ hshort.le
    rw [List.append_assoc] at hsplit
    rw [List.append_cancel_left hsplit]
    obtain ⟨behind, rfl⟩ := hfound
    exact ⟨more, behind, by rw [List.append_assoc]⟩

theorem guarded_of_accept {s : List UInt8} {halt : Bool} (hended : AllEnded (splitLines 10 s))
    (h : acceptClock s halt = .ok ()) : Guarded halt (LooksForNtpdate halt) s := by
  have hflat : (splitLines 10 s).flatten = s := flatten_splitLines s
  unfold acceptClock at h
  split at h
  next => cases h
  next found guard hfound =>
    obtain ⟨hspelling, before, behind, hsplit, rfl⟩ := findGuard_eq_some hfound
    have hsplit' : s = before ++ (guard ++ behind) := by rw [hsplit, List.append_assoc]
    split at h
    · cases h
    split at h
    · cases h
    split at h
    · cases h
    next hplace =>
      split at h
      · cases h
      next hwriters =>
        rw [Bool.not_eq_false, writers] at hwriters
        have htop : preamble s before.length halt = true → TopLevel halt before :=
          topLevel_of_preamble hended hsplit'
        -- the guard stands at the top, or it is the first command of the `start)` branch
        have hplace' : TopLevel halt before ∨ halt = false ∧ FirstBranch before := by
          cases hpreamble : preamble s before.length halt with
          | true => exact .inl (htop hpreamble)
          | false =>
            simp only [hpreamble, true_and, not_or, Bool.not_eq_true, Bool.not_eq_false] at hplace
            exact .inr ⟨hplace.1, firstBranch_of_startGuard hended hsplit' hplace.2⟩
        refine ⟨before, guard, behind, hsplit, hspelling, hplace', ?_⟩
        intro front line back upTo rest hlines hcomment hecho htest hfind
        have hline : OneLine 10 line := hended line (by rw [hlines]; simp)
        have hs : s = front.flatten ++ line ++ back.flatten := by
          rw [← hflat, hlines]
          simp
        rw [hlines] at hwriters
        have hchecked := writersFrom_line hwriters
        rw [Nat.zero_add] at hchecked
        have hw := writersLine_place hline hs hchecked hcomment hecho htest hfind
        simp only at hw
        obtain ⟨hrest, hwriter⟩ := findText_eq_some hfind
        have hparts : line = lineIndent line ++ upTo ++ (rest ++ [10]) := by
          rw [List.append_assoc, ← List.append_assoc upTo, ← hrest, ← List.append_assoc]
          exact line_rest hline
        have hlength := congrArg List.length hparts
        simp only [List.length_append, List.length_singleton] at hlength
        -- `hwclock` must stand within its guard, `ntpdate` behind it and in its branch
        cases halt with
        | true =>
          have hbefore : TopLevel true before := by
            rcases hplace' with h | h
            · exact h
            · cases h.1
          refine line_in_block hline (hs.symm.trans hsplit) hbefore.last (guard_last hspelling)
            ?_ ?_ hw.1 hw.2
          · rw [List.length_append]
            omega
          · omega
        | false =>
          have hcut : ∀ b ∈ (before ++ guard).getLast?, b = 10 := by
            have hlast := guard_last hspelling
            have hne : guard ≠ [] := by
              rintro rfl
              cases hlast
            rw [List.getLast?_append_of_ne_nil _ hne, hlast]
            simp
          obtain ⟨between, hbetween⟩ := line_behind hline (hs.symm.trans hsplit) hcut
            (w := front.flatten.length + (lineIndent line).length + upTo.length)
            (by rw [List.length_append]; omega) (by rw [List.length_append]; exact hw.1)
          refine ⟨between, hbetween, ?_⟩
          rcases hw.2 with h | ⟨at', hlimit, hat⟩
          · exact .inl (htop h)
          · right
            cases hpreamble : preamble s before.length false with
            | true =>
              rw [hpreamble] at hlimit
              cases hlimit
            | false =>
              rw [hpreamble, ← List.length_append] at hlimit
              rw [List.append_assoc rest]
              refine branch_of_limit (s := s) ?_ hlimit ?_
              · rw [hs, hbetween]
                nth_rewrite 1 [hparts]
                simp
              · rw [hbetween] at hat
                simp only [List.length_append] at hat ⊢
                omega

/-! ## Running it -/

variable {memory : Nat → Bool} {halt : Bool} {f g : InstallFile}

theorem kind_of_text (h : text f = true) : f.kind = 1 ∧ AllEnded (splitLines 10 f.data) := by
  simp only [text, Bool.and_eq_true, decide_eq_true_iff] at h
  exact ⟨h.1.1.1.1.1, ended_splitLines h.1.2⟩

/-- A script with the marker is accepted or refused, and never changed. -/
theorem installClockScriptIn_marked {calls : Nat} (hmarker : clockMarker <:+: f.data) :
    installClockScriptIn memory halt (calls + 1) f = some (.ok g) ↔
      allocate (memory calls) f = true ∧ acceptClock f.data halt = .ok () ∧ g = f := by
  have hsome := strstr_isSome_iff.mpr hmarker
  rw [installClockScriptIn]
  cases hallocate : allocate (memory calls) f with
  | false => simp
  | true =>
    rw [if_neg (by simp), if_pos hsome, Option.some.injEq]
    have hkind : f.kind = 1 := by
      simp only [allocate, Bool.and_eq_true] at hallocate
      exact (kind_of_text hallocate.1).1
    have hsame : ({ kind := 1, mode := f.mode, data := f.data } : InstallFile) = f := by rw [← hkind]
    rw [hsame]
    cases acceptClock f.data halt with
    | error e => simp [Except.map]
    | ok u => simp [Except.map, eq_comm]

/-- The replacement has the marker. -/
theorem marker_in_replacement (halt : Bool) (before behind : List UInt8) :
    clockMarker <:+: before ++ clockReplacement halt ++ behind := by
  have hmarker : clockMarker <:+: clockReplacement halt := by
    cases halt <;> decide
  exact hmarker.trans (List.infix_append before _ behind)

/-- What is replaced does not stand in itself a second time, further on. -/
theorem needle_once (halt : Bool) {k : Nat} (hk : 0 < k) (hlt : k < (clockNeedle halt).length) :
    ¬ (clockNeedle halt).drop k <+: clockNeedle halt := by
  have hall : ∀ halt, ∀ k : Fin (clockNeedle halt).length, 0 < k.val →
      ¬ (clockNeedle halt).drop k.val <+: clockNeedle halt := by decide
  exact hall halt ⟨k, hlt⟩ hk

theorem only_needle {s before behind : List UInt8} {halt : Bool}
    (hs : s = before ++ clockNeedle halt ++ behind)
    (hfirst : ∀ front back, s = front ++ clockNeedle halt ++ back → before.length ≤ front.length)
    (hlast : (strstr s (before.length + (clockNeedle halt).length) (clockNeedle halt)).isSome = false) :
    ∀ front back, s = front ++ clockNeedle halt ++ back → front = before := by
  intro front back hother
  have hle := hfirst front back hother
  have hbefore : before <+: s := by
    rw [hs, List.append_assoc]
    exact List.prefix_append _ _
  have hfront : front <+: s := by
    rw [hother, List.append_assoc]
    exact List.prefix_append _ _
  obtain ⟨more, rfl⟩ := List.prefix_of_prefix_length_le hbefore hfront hle
  have htail : clockNeedle halt ++ behind = more ++ (clockNeedle halt ++ back) := by
    rw [hs] at hother
    simpa using hother
  rcases Nat.eq_zero_or_pos more.length with hzero | hpos
  · rw [List.length_eq_zero_iff.mp hzero, List.append_nil]
  · exfalso
    rcases Nat.lt_or_ge more.length (clockNeedle halt).length with hinside | hbeyond
    · -- it would stand in itself
      have hdrop := congrArg (List.drop more.length) htail
      rw [List.drop_left, List.drop_append_of_le_length hinside.le] at hdrop
      have htwice : (clockNeedle halt).drop more.length <+: clockNeedle halt ++ back := by
        rw [← hdrop]
        exact List.prefix_append _ _
      refine needle_once halt hpos hinside
        (List.prefix_of_prefix_length_le htwice (List.prefix_append _ _) ?_)
      rw [List.length_drop]
      omega
    · -- or again behind the first
      have hbehind : clockNeedle halt <:+: behind := by
        have hdrop := congrArg (List.drop (clockNeedle halt).length) htail
        rw [List.drop_left, List.drop_append_of_le_length hbeyond] at hdrop
        rw [hdrop, ← List.append_assoc]
        exact List.infix_append _ _ _
      have hdropped : s.drop (before.length + (clockNeedle halt).length) = behind := by
        rw [hs, ← List.length_append, List.drop_left]
      obtain ⟨u, v, huv⟩ := hbehind
      have hfound := findText_ne_none (List.prefix_append (clockNeedle halt) v) u
      rw [← List.append_assoc, huv, ← hdropped] at hfound
      rw [strstr, Option.isSome_map, Option.isSome_eq_false_iff] at hlast
      exact hfound (Option.isNone_iff_eq_none.mp hlast)

/-- A script without the marker is rewritten in one place, if what comes out is accepted. -/
theorem installClockScriptIn_unmarked {calls : Nat} (hmarker : ¬ clockMarker <:+: f.data)
    (h : installClockScriptIn memory halt (calls + 1) f = some (.ok g)) :
    ∃ before behind checked, f.data = before ++ clockNeedle halt ++ behind ∧
      g = { kind := 1, mode := f.mode, data := before ++ clockReplacement halt ++ behind } ∧
      (∀ front back, f.data = front ++ clockNeedle halt ++ back → front = before) ∧ f.kind = 1 ∧
      installClockScriptIn memory halt calls g = some (.ok checked) := by
  rw [installClockScriptIn] at h
  split at h
  · cases h
  next hallocate =>
    rw [if_neg (by rw [strstr_isSome_iff]; exact hmarker)] at h
    have hkind : f.kind = 1 := by
      simp only [Bool.not_eq_false, allocate, Bool.and_eq_true] at hallocate
      exact (kind_of_text hallocate.1).1
    split at h
    next => cases h
    next found hfound =>
      obtain ⟨before, behind, hs, rfl, hfirst⟩ := strstr_zero hfound
      simp only at h
      split at h
      · cases h
      next hlast =>
        obtain ⟨checked, hchecked, hmap⟩ := Option.map_eq_some_iff.mp h
        cases checked with
        | error e => cases hmap
        | ok checked =>
          obtain rfl := Except.ok.inj hmap
          have hparts : f.data.take before.length = before ∧
              f.data.drop (before.length + (clockNeedle halt).length) = behind := by
            constructor
            · rw [hs, List.append_assoc, List.take_left]
            · rw [hs, ← List.length_append, List.drop_left]
          rw [hparts.1, hparts.2] at hchecked ⊢
          exact ⟨before, behind, checked, hs, rfl, only_needle hs hfirst (by simpa using hlast), hkind,
            hchecked⟩

/-- Two calls are enough. -/
theorem installClockScript_ne_none : installClockScript memory halt f ≠ none := by
  by_cases hmarker : clockMarker <:+: f.data
  · rw [installClockScript, installClockScriptIn]
    split
    · simp
    · rw [if_pos (strstr_isSome_iff.mpr hmarker)]
      simp
  · rw [installClockScript, installClockScriptIn]
    split
    · simp
    rw [if_neg (by rw [strstr_isSome_iff]; exact hmarker)]
    split
    next => simp
    next found hfound =>
      simp only
      split
      · simp
      · rw [installClockScriptIn]
        split
        · simp
        · rw [if_pos (strstr_isSome_iff.mpr (marker_in_replacement halt _ _))]
          simp

/-- **The clock guard is stable and complete.** -/
theorem installClockScript_installed (h : installClockScript memory halt f = some (.ok g)) :
    ClockInstalled halt (LooksForNtpdate halt) f g := by
  have hagain : ∀ {m : Nat → Bool} {calls : Nat} {k l : InstallFile}, clockMarker <:+: k.data →
      installClockScriptIn m halt (calls + 1) k = some (.ok l) →
      l = k ∧ installClockScript (fun _ => true) halt k = some (.ok k) ∧
        Guarded halt (LooksForNtpdate halt) k.data := by
    intro m calls k l hmarker hrun
    obtain ⟨hallocate, haccept, rfl⟩ := (installClockScriptIn_marked hmarker).mp hrun
    simp only [allocate, Bool.and_eq_true] at hallocate
    refine ⟨rfl, (installClockScriptIn_marked hmarker).mpr ⟨?_, haccept, rfl⟩,
      guarded_of_accept (kind_of_text hallocate.1).2 haccept⟩
    simp [allocate, hallocate.1]
  by_cases hmarker : clockMarker <:+: f.data
  · obtain ⟨rfl, hfixed, hguarded⟩ := hagain hmarker h
    exact ⟨hfixed, fun _ => rfl, fun hno => absurd hmarker hno, hguarded⟩
  · obtain ⟨before, behind, checked, hs, rfl, honly, hkind, hchecked⟩ :=
      installClockScriptIn_unmarked hmarker h
    obtain ⟨-, hfixed, hguarded⟩ := hagain (marker_in_replacement halt before behind) hchecked
    exact ⟨hfixed, fun hyes => absurd hyes hmarker,
      fun _ => ⟨hkind.symm, rfl, before, behind, hs, rfl, honly⟩, hguarded⟩

theorem installClockScript_installed_halt :
    ClockInstalled true (LooksForNtpdate true)
      { kind := 1, mode := 0o755, data := Config.text "#!/bin/sh\nhwclock --systohc\n" }
      { kind := 1, mode := 0o755, data := Config.text "#!/bin/sh\n" ++ clockGuard true } :=
  @installClockScript_installed (fun _ => true) _ _ _ (by decide +kernel)

def guardedNtpdate : InstallFile where
  kind := 1
  mode := 0o755
  data := Config.text "#!/bin/sh\ntest -f /usr/sbin/ntpdate || exit 0\ncase $1 in\nstart)\n  " ++
    clockGuard false

theorem installClockScript_guardedNtpdate :
    installClockScript (fun _ => true) false guardedNtpdate = some (.ok guardedNtpdate) := by
  decide +kernel

/-- The line that looks for the program. -/
def vendorTest : List UInt8 := ntpdateTest ++ [10]

theorem lines_guardedNtpdate : splitLines 10 guardedNtpdate.data =
    [Config.text "#!/bin/sh\n"] ++ vendorTest :: (splitLines 10 guardedNtpdate.data).drop 2 := by
  decide

theorem findText_vendorTest : findText (clockWriter false) (lineRest vendorTest) =
    some (Config.text "test -f /usr/sbin/", Config.text "ntpdate || exit 0") := by
  decide

theorem not_quotedEcho_vendorTest : ¬ QuotedEcho (lineRest vendorTest) := by
  rintro ⟨blanks, option, quote, message, after, heq, -⟩
  have hhead := congrArg List.head? heq
  have he : (Config.text "echo ").head? = some 101 := by decide
  have ht : (lineRest vendorTest).head? = some 116 := by decide
  rw [ht] at hhead
  simp [List.head?_append, he] at hhead

/-- It names the program before the guard. -/
theorem not_clockInstalled_guardedNtpdate :
    ¬ ∀ (memory : Nat → Bool) (halt : Bool) (f g : InstallFile),
      installClockScript memory halt f = some (.ok g) → ClockInstalled halt (fun _ => False) f g := by
  intro hall
  obtain ⟨before, guard, behind, hguarded⟩ :=
    (hall _ _ _ _ installClockScript_guardedNtpdate).guarded
  have hcomment : ¬ CommentLine vendorTest := by
    unfold CommentLine
    decide
  have hshebang : ([Config.text "#!/bin/sh\n"] : List (List UInt8)).flatten.length = 10 := by
    decide
  have hplace := hguarded.lines _ _ _ _ _ lines_guardedNtpdate hcomment not_quotedEcho_vendorTest
    (fun h => h) findText_vendorTest
  rw [if_neg Bool.false_ne_true] at hplace
  generalize Config.text "#!/bin/sh\n" = shebang at hplace hshebang
  obtain ⟨between, hfront, -⟩ := hplace
  have hlength := congrArg List.length hfront
  have hguard : 42 ≤ guard.length := by
    rcases hguarded.spelling with h | h <;> rw [h] <;> decide
  rw [hshebang, List.length_append, List.length_append] at hlength
  omega

end FourVrs.Installer
