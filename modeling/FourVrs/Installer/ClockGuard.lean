import FourVrs.Installer.ClockScript

/-!
# What a guarded script is

A guard is a line or a block that keeps the script from writing the clock while the gateway manages
it. It is worth something only where it stands: at top level behind nothing but comments, or first
in the first branch of the one `case`. And what writes the clock has to stand behind it.
-/

set_option autoImplicit false

namespace FourVrs.Installer

open Lib

/-! ## Lines -/

def CommentLine (line : List UInt8) : Prop := isComment (lineRest line) = true

/-- A blank line or a comment. -/
def InertLine (line : List UInt8) : Prop := lineBody line = [] ∨ isComment (lineBody line) = true

/-- A message between two quotes that the shell prints as it is. -/
def QuotedEcho (words : List UInt8) : Prop :=
  ∃ blanks option quote message behind,
    words = Config.text "echo " ++ blanks ++ option ++ [quote] ++ message ++ [quote] ++ behind ∧
      (∀ b ∈ blanks, isBlank b = true) ∧
      (option = [] ∨ ∃ more, option = Config.text "-n " ++ more ∧ ∀ b ∈ more, isBlank b = true) ∧
      (quote = 34 ∨ quote = 39) ∧
      (∀ b ∈ message, b ≠ quote ∧ b ≠ 36 ∧ b ≠ 96 ∧ b ≠ 92) ∧ ∀ b ∈ behind, isBlank b = true

/-- A `PATH` that is plain text. -/
def PlainPath (body : List UInt8) : Prop :=
  ∃ value, body = Config.text "PATH=" ++ value ∧ ∀ b ∈ value, pathByte b = true

/-! ## Places for a guard -/

def AllEnded (lines : List (List UInt8)) : Prop := ∀ line ∈ lines, OneLine 10 line

/-- Behind the first line only comments, blank lines and, when halting, the vendor's path. -/
def TopLevel (halt : Bool) (before : List UInt8) : Prop :=
  ∃ first lines, before = first ++ lines.flatten ∧ OneLine 10 first ∧ AllEnded lines ∧
    ∀ line ∈ lines, lineRest line = [] ∨ CommentLine line ∨ halt = true ∧ lineRest line = haltPath

/-- First in the first branch of a `case` that nothing but settings stands before. -/
def FirstBranch (before : List UInt8) : Prop :=
  ∃ first prelude choice gap label gap' indent,
    before = first ++ prelude.flatten ++ choice ++ gap.flatten ++ label ++ gap'.flatten ++ indent ∧
      (∀ line ∈ prelude, InertLine line ∨ lineBody line = ntpdateTest ∨ PlainPath (lineBody line)) ∧
      lineBody choice ∈ caseLines ∧ (∀ line ∈ gap, InertLine line) ∧ lineBody label = startLabel ∧
      (∀ line ∈ gap', InertLine line) ∧ (∀ b ∈ indent, isBlank b = true) ∧
      AllEnded (first :: prelude ++ choice :: gap ++ label :: gap')

/-! ## Behind a guard -/

/-- No branch ends in the text. -/
def BranchOpen (s : List UInt8) : Prop := ¬ Config.text ";;" <:+: s

/-- A script with a guard: the lines `unguarded` may stand anywhere, every other line that writes
    the clock is in the guarded block or behind the guard, in the guarded branch if it stands in
    one. -/
structure GuardedBy (halt : Bool) (unguarded : List UInt8 → Prop) (s before guard behind : List UInt8) :
    Prop where
  split : s = before ++ guard ++ behind
  spelling : guard = clockGuard halt ∨ guard = historicalGuard halt
  place : TopLevel halt before ∨ halt = false ∧ FirstBranch before
  lines : ∀ front line back upTo found, splitLines 10 s = front ++ line :: back →
    ¬ CommentLine line → ¬ QuotedEcho (lineRest line) → ¬ unguarded (lineRest line) →
    -- the first place the writer stands at in the line
    findText (clockWriter halt) (lineRest line) = some (upTo, found) →
    if halt then ∃ start rest, guard = start ++ line ++ rest ∧ front.flatten = before ++ start
    else ∃ between, front.flatten = before ++ guard ++ between ∧
      (TopLevel halt before ∨
        BranchOpen (between ++ lineIndent line ++ upTo) ∧
          Config.text ";;" <:+: found ++ [10] ++ back.flatten)

def Guarded (halt : Bool) (unguarded : List UInt8 → Prop) (s : List UInt8) : Prop :=
  ∃ before guard behind, GuardedBy halt unguarded s before guard behind

/-- The line of the start script that only looks for the program. -/
def LooksForNtpdate (halt : Bool) (rest : List UInt8) : Prop := halt = false ∧ rest = ntpdateTest

/-- What the installer makes of a script: the script itself if it has the marker, else the script
    with the one place replaced; and running it again changes nothing. -/
structure ClockInstalled (halt : Bool) (unguarded : List UInt8 → Prop) (f g : InstallFile) : Prop where
  again : installClockScript (fun _ => true) halt g = some (.ok g)
  kept : clockMarker <:+: f.data → g = f
  replaced : ¬ clockMarker <:+: f.data → g.kind = f.kind ∧ g.mode = f.mode ∧
    ∃ before behind, f.data = before ++ clockNeedle halt ++ behind ∧
      g.data = before ++ clockReplacement halt ++ behind ∧
      ∀ front back, f.data = front ++ clockNeedle halt ++ back → front = before
  guarded : Guarded halt unguarded g.data

/-! ## Searching -/

theorem strstr_eq_some {s needle : List UInt8} {start at' : Nat} (h : strstr s start needle = some at') :
    ∃ before found, findText needle (s.drop start) = some (before, found) ∧
      s.drop start = before ++ found ∧ needle <+: found ∧ at' = start + before.length := by
  obtain ⟨⟨before, found⟩, hfind, rfl⟩ := Option.map_eq_some_iff.mp h
  obtain ⟨hsplit, hfound⟩ := findText_eq_some hfind
  exact ⟨before, found, hfind, hsplit, hfound, rfl⟩

theorem strstr_zero {s needle : List UInt8} {at' : Nat} (h : strstr s 0 needle = some at') :
    ∃ before behind, s = before ++ needle ++ behind ∧ at' = before.length ∧
      ∀ front back, s = front ++ needle ++ back → before.length ≤ front.length := by
  obtain ⟨before, found, hfind, hsplit, ⟨behind, rfl⟩, rfl⟩ := strstr_eq_some h
  rw [List.drop_zero] at hfind hsplit
  refine ⟨before, behind, by rw [hsplit, List.append_assoc], by rw [Nat.zero_add], ?_⟩
  intro front back hother
  rw [List.append_assoc] at hother
  exact findText_first hfind hother (List.prefix_append needle back)

theorem strstr_isSome_iff {s needle : List UInt8} : (strstr s 0 needle).isSome = true ↔ needle <:+: s := by
  constructor
  · intro h
    obtain ⟨at', hat⟩ := Option.isSome_iff_exists.mp h
    obtain ⟨before, behind, rfl, -⟩ := strstr_zero hat
    exact ⟨before, behind, rfl⟩
  · rintro ⟨before, behind, rfl⟩
    have hfound := findText_ne_none (List.prefix_append needle behind) before
    rw [Option.isSome_iff_ne_none, strstr, List.drop_zero, List.append_assoc]
    simpa using hfound

/-! ## Lines and cuts -/

variable {lines : List (List UInt8)}

theorem mem_ended (h : AllEnded lines) {line : List UInt8} (hline : line ∈ lines) :
    ∃ words, (10 : UInt8) ∉ words ∧ line = words ++ [10] ∧
      lineText line = words := by
  obtain ⟨words, hno, rfl⟩ := h line hline
  refine ⟨words, hno, rfl, ?_⟩
  unfold lineText
  rw [List.takeWhile_append_of_pos fun b hb => by simpa using fun heq : b = 10 => hno (heq ▸ hb)]
  simp

/-- A line is its indentation, the rest and the newline. -/
theorem line_rest {line : List UInt8} (hline : OneLine 10 line) :
    line = lineIndent line ++ lineRest line ++ [10] := by
  have hended : AllEnded [line] := by simpa [AllEnded] using hline
  obtain ⟨words, -, heq, htext⟩ := mem_ended hended (List.mem_singleton_self line)
  rw [lineIndent, lineRest, htext, List.takeWhile_append_dropWhile]
  exact heq

/-- A cut behind a newline does not cut a line. -/
theorem cut_outside_line {front line back before behind : List UInt8} (hline : OneLine 10 line)
    (hsplit : front ++ line ++ back = before ++ behind)
    (hcut : ∀ b ∈ before.getLast?, b = 10) :
    before.length ≤ front.length ∨ (front ++ line).length ≤ before.length := by
  by_contra hinside
  simp only [not_or, not_le] at hinside
  obtain ⟨words, hno, rfl⟩ := hline
  -- what of the line stands before the cut
  have hprefix : before <+: front ++ (words ++ [10]) :=
    List.prefix_of_prefix_length_le ⟨behind, hsplit.symm⟩ (List.prefix_append _ _) hinside.2.le
  have hfront : front <+: before :=
    List.prefix_of_prefix_length_le (by rw [hsplit.symm, List.append_assoc]; exact List.prefix_append _ _)
      (List.prefix_append _ _) hinside.1.le
  obtain ⟨part, rfl⟩ := hfront
  rw [List.prefix_append_right_inj] at hprefix
  have hshort : part.length ≤ words.length := by
    have hlt := hinside.2
    simp only [List.length_append, List.length_singleton] at hlt
    omega
  have hpart : part <+: words :=
    List.prefix_of_prefix_length_le hprefix (List.prefix_append _ _) hshort
  have hne : part ≠ [] := by
    rintro rfl
    simp at hinside
  have hlast := hcut (part.getLast hne) (by
    rw [List.getLast?_append_of_ne_nil _ hne, List.getLast?_eq_some_getLast hne]
    rfl)
  exact hno (hlast ▸ hpart.subset (List.getLast_mem hne))

theorem getLast_flatten_ended (h : AllEnded lines) :
    ∀ b ∈ lines.flatten.getLast?, b = 10 := by
  induction lines using List.reverseRecOn with
  | nil => simp
  | append_singleton lines line ih =>
    obtain ⟨words, -, rfl⟩ := h line (by simp)
    simp

theorem TopLevel.last {halt : Bool} {before : List UInt8} (h : TopLevel halt before) :
    ∀ b ∈ before.getLast?, b = 10 := by
  obtain ⟨first, lines, rfl, hfirst, hlines, -⟩ := h
  rw [← List.flatten_cons]
  apply getLast_flatten_ended
  simpa [AllEnded] using ⟨hfirst, hlines⟩

/-! ## The places are what is checked for -/

/-- A place found as an offset into the lines. -/
theorem front_of_length {s before behind front back : List UInt8} (hsplit : s = before ++ behind)
    (hlines : front ++ back = s) (hlength : front.length = before.length) : before = front :=
  (List.append_inj (hsplit.symm.trans hlines.symm) hlength.symm).1

theorem preambleFrom_split {halt : Bool} {stop p : Nat} (h : preambleFrom halt stop p lines = true) :
    ∃ front back, lines = front ++ back ∧ p + front.flatten.length = stop ∧
      ∀ line ∈ front, preambleLine halt line = true := by
  induction lines generalizing p with
  | nil =>
    rw [preambleFrom, decide_eq_true_iff] at h
    exact ⟨[], [], rfl, by simpa using h, by simp⟩
  | cons line rest ih =>
    rw [preambleFrom] at h
    split at h
    next =>
      simp only [Bool.and_eq_true] at h
      obtain ⟨front, back, rfl, hstop, hfront⟩ := ih h.2
      refine ⟨line :: front, back, rfl, ?_, by simpa using ⟨h.1.2, hfront⟩⟩
      rw [List.flatten_cons, List.length_append, ← hstop, Nat.add_assoc]
    next =>
      rw [decide_eq_true_iff] at h
      exact ⟨[], line :: rest, rfl, by simpa using h, by simp⟩

theorem topLevel_of_preamble {halt : Bool} {s before behind : List UInt8}
    (hended : AllEnded (splitLines 10 s)) (hsplit : s = before ++ behind)
    (h : preamble s before.length halt = true) : TopLevel halt before := by
  have hflat : (splitLines 10 s).flatten = s := flatten_splitLines s
  unfold preamble at h
  cases hlines : splitLines 10 s with
  | nil => simp [hlines] at h
  | cons first rest =>
    rw [hlines] at h hended hflat
    simp only [Bool.and_eq_true] at h
    obtain ⟨front, back, rfl, hstop, hfront⟩ := preambleFrom_split h.2
    have hbefore : before = (first :: front).flatten :=
      front_of_length hsplit (by rw [← hflat, ← List.cons_append, List.flatten_append])
        (by simp [← hstop])
    refine ⟨first, front, by rw [hbefore, List.flatten_cons], hended first (by simp),
      fun line hline => hended line (by simp [hline]), fun line hline => ?_⟩
    have hok := hfront line hline
    simp only [preambleLine, Bool.or_eq_true, Bool.and_eq_true, decide_eq_true_iff] at hok
    rw [CommentLine, ← or_assoc]
    exact hok

/-- What a line before the guard can do. -/
theorem startStep_cases {state state' : Nat} {body : List UInt8} (h : startStep state body = some state') :
    ((body = [] ∨ isComment body = true) ∧ state' = state) ∨
      (state = 0 ∧ body ∈ caseLines ∧ state' = 1) ∨
      (state = 0 ∧ (body = ntpdateTest ∨ PlainPath body) ∧ state' = 0) ∨
      (state = 1 ∧ body = startLabel ∧ state' = 2) := by
  unfold startStep at h
  split at h
  next hinert => exact .inl ⟨hinert, (Option.some.inj h).symm⟩
  next =>
    split at h
    next hzero =>
      split at h
      next hcase => exact .inr (.inl ⟨hzero, hcase, (Option.some.inj h).symm⟩)
      next =>
        split at h
        next htest => exact .inr (.inr (.inl ⟨hzero, .inl htest, (Option.some.inj h).symm⟩))
        next =>
          split at h
          next hpath =>
            split at h
            next hbytes =>
              obtain ⟨-, value, rfl⟩ := hpath
              have hplain : PlainPath (Config.text "PATH=" ++ value) :=
                ⟨value, rfl, by simpa [Config.text] using hbytes⟩
              exact .inr (.inr (.inl ⟨hzero, .inr hplain, (Option.some.inj h).symm⟩))
            next => cases h
          next => cases h
    next =>
      split at h
      next hlabel => exact .inr (.inr (.inr ⟨hlabel.1, hlabel.2, (Option.some.inj h).symm⟩))
      next => cases h

/-- The lines before the guard, state after state. -/
def branchStates (state : Nat) (lines : List (List UInt8)) : Option Nat :=
  lines.foldlM (fun state line => startStep state (lineBody line)) state

theorem startGuardFrom_split {guard state p : Nat} (h : startGuardFrom guard state p lines = true) :
    ∃ front line back, lines = front ++ line :: back ∧
      p + front.flatten.length + (lineIndent line).length = guard ∧
      branchStates state front = some 2 := by
  induction lines generalizing state p with
  | nil => cases h
  | cons line rest ih =>
    rw [startGuardFrom] at h
    split at h
    · split at h
      · cases h
      split at h
      next hhere =>
        rw [decide_eq_true_iff] at h
        exact ⟨[], line, rest, rfl, by simpa using hhere, by rw [h]; rfl⟩
      next =>
        split at h
        · cases h
        · cases hstep : startStep state (lineBody line) with
          | none => simp [hstep] at h
          | some state' =>
            rw [hstep] at h
            obtain ⟨front, next, back, rfl, hguard, hstates⟩ := ih h
            refine ⟨line :: front, next, back, rfl, ?_, ?_⟩
            · rw [List.flatten_cons, List.length_append, ← Nat.add_assoc]
              exact hguard
            · rw [branchStates, List.foldlM_cons, hstep]
              exact hstates
    · cases h

theorem branchStates_cons {state : Nat} {line : List UInt8} {last : Nat}
    (h : branchStates state (line :: lines) = some last) :
    ∃ next, startStep state (lineBody line) = some next ∧ branchStates next lines = some last := by
  rw [branchStates, List.foldlM_cons, Option.bind_eq_bind, Option.bind_eq_some_iff] at h
  exact h

/-- In the branch only comments and blank lines may stand before the guard. -/
theorem branchStates_two (h : branchStates 2 lines = some 2) :
    ∀ line ∈ lines, InertLine line := by
  induction lines with
  | nil => simp
  | cons line lines ih =>
    obtain ⟨next, hstep, hrest⟩ := branchStates_cons h
    rcases startStep_cases hstep with ⟨hinert, rfl⟩ | ⟨hzero, -⟩ | ⟨hzero, -⟩ | ⟨hone, -⟩
    · simpa using ⟨hinert, ih hrest⟩
    all_goals omega

theorem branchStates_one (h : branchStates 1 lines = some 2) :
    ∃ gap label gap', lines = gap ++ label :: gap' ∧ (∀ line ∈ gap, InertLine line) ∧
      lineBody label = startLabel ∧ ∀ line ∈ gap', InertLine line := by
  induction lines with
  | nil => cases h
  | cons line lines ih =>
    obtain ⟨next, hstep, hrest⟩ := branchStates_cons h
    rcases startStep_cases hstep with ⟨hinert, rfl⟩ | ⟨hzero, -⟩ | ⟨hzero, -⟩ | ⟨-, hlabel, rfl⟩
    · obtain ⟨gap, label, gap', rfl, hgap, hlabel, hgap'⟩ := ih hrest
      exact ⟨line :: gap, label, gap', rfl, by simpa using ⟨hinert, hgap⟩, hlabel, hgap'⟩
    · omega
    · omega
    · exact ⟨[], line, lines, rfl, by simp, hlabel, branchStates_two hrest⟩

theorem branchStates_zero (h : branchStates 0 lines = some 2) :
    ∃ prelude choice rest, lines = prelude ++ choice :: rest ∧
      (∀ line ∈ prelude, InertLine line ∨ lineBody line = ntpdateTest ∨ PlainPath (lineBody line)) ∧
      lineBody choice ∈ caseLines ∧ branchStates 1 rest = some 2 := by
  induction lines with
  | nil => cases h
  | cons line lines ih =>
    obtain ⟨next, hstep, hrest⟩ := branchStates_cons h
    have hkept : next = 0 → (InertLine line ∨ lineBody line = ntpdateTest ∨ PlainPath (lineBody line)) →
        ∃ prelude choice rest, line :: lines = prelude ++ choice :: rest ∧
          (∀ line ∈ prelude, InertLine line ∨ lineBody line = ntpdateTest ∨ PlainPath (lineBody line)) ∧
          lineBody choice ∈ caseLines ∧ branchStates 1 rest = some 2 := by
      rintro rfl hline
      obtain ⟨prelude, choice, rest, rfl, hprelude, hchoice⟩ := ih hrest
      exact ⟨line :: prelude, choice, rest, rfl, by simpa using ⟨hline, hprelude⟩, hchoice⟩
    rcases startStep_cases hstep with ⟨hinert, rfl⟩ | ⟨-, hcase, rfl⟩ | ⟨-, hset, rfl⟩ | ⟨hone, -⟩
    · exact hkept rfl (.inl hinert)
    · exact ⟨[], line, lines, rfl, by simp, hcase, hrest⟩
    · exact hkept rfl (.inr hset)
    · omega

theorem firstBranch_of_startGuard {s before behind : List UInt8}
    (hended : AllEnded (splitLines 10 s)) (hsplit : s = before ++ behind)
    (h : startGuard s before.length = true) : FirstBranch before := by
  have hflat : (splitLines 10 s).flatten = s := flatten_splitLines s
  unfold startGuard at h
  cases hlines : splitLines 10 s with
  | nil => simp [hlines] at h
  | cons first rest =>
    rw [hlines] at h hended hflat
    simp only [Bool.and_eq_true] at h
    obtain ⟨front, line, back, rfl, hguard, hstates⟩ := startGuardFrom_split h.2
    obtain ⟨prelude, choice, rest, rfl, hprelude, hchoice, hstates⟩ := branchStates_zero hstates
    obtain ⟨gap, label, gap', rfl, hgap, hlabel, hgap'⟩ := branchStates_one hstates
    have hline := line_rest (hended line (by simp))
    refine ⟨first, prelude, choice, gap, label, gap', lineIndent line, ?_, hprelude, hchoice, hgap,
      hlabel, hgap', fun b hb => List.mem_takeWhile_imp hb, fun l hl => hended l ?_⟩
    · -- the guard is indented by what its line begins with
      have hback : s = first ++ prelude.flatten ++ choice ++ gap.flatten ++ label ++ gap'.flatten ++
          lineIndent line ++ (lineRest line ++ [10] ++ back.flatten) := by
        rw [← hflat]
        simp only [List.flatten_cons, List.flatten_append, List.append_assoc, List.cons_append,
          List.nil_append]
        congr 6
        simpa using congrArg (· ++ back.flatten) hline
      refine front_of_length hsplit hback.symm ?_
      simp only [List.flatten_cons, List.flatten_append, List.length_append] at hguard ⊢
      omega
    · simp only [List.mem_append, List.mem_cons] at hl ⊢
      tauto

end FourVrs.Installer
