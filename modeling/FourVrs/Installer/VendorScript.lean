import FourVrs.Installer.Scripts

/-!
# What the start script becomes

`Rewritten` says what the rewrite is for: the lines that are one of the two commands but for
blanks around it are replaced, every other line is kept. The code does this as long as the output
fits; every replaced line is sixty bytes longer, and how many there are is counted only when all
of them are written (`vendorExact_iff`).
-/

set_option autoImplicit false

namespace FourVrs.Installer

open Lib

/-! ## The rewrite -/

def Blanks (bytes : List UInt8) : Prop := ∀ b ∈ bytes, isBlank b = true

/-- A line that is the command but for blanks around it. -/
def OfCommand (command line : List UInt8) : Prop :=
  ∃ indent behind, Blanks indent ∧ Blanks behind ∧ line = indent ++ command ++ behind ++ [10]

/-- The lines with `down` and `up` of them replaced. -/
inductive Rewritten : Nat → Nat → List (List UInt8) → List (List UInt8) → Prop where
  | nil : Rewritten 0 0 [] []
  | down {down up : Nat} {lines out : List (List UInt8)} {indent behind : List UInt8}
      (hindent : Blanks indent) (hbehind : Blanks behind) (h : Rewritten down up lines out) :
      Rewritten (down + 1) up ((indent ++ downCommand ++ behind ++ [10]) :: lines)
        ((indent ++ downReplacement ++ behind ++ [10]) :: out)
  | up {down up : Nat} {lines out : List (List UInt8)} {indent behind : List UInt8}
      (hindent : Blanks indent) (hbehind : Blanks behind) (h : Rewritten down up lines out) :
      Rewritten down (up + 1) ((indent ++ upCommand ++ behind ++ [10]) :: lines)
        ((indent ++ upReplacement ++ behind ++ [10]) :: out)
  | keep {down up : Nat} {lines out : List (List UInt8)} {line : List UInt8}
      (hdown : ¬ OfCommand downCommand line) (hup : ¬ OfCommand upCommand line)
      (h : Rewritten down up lines out) : Rewritten down up (line :: lines) (line :: out)

/-- Nothing is written outside the buffer, and the script is rewritten exactly when two lines are
    each of the commands. -/
def VendorExact (f : InstallFile) : Prop :=
  installVendorScript true f ≠ none ∧
    ∀ g, installVendorScript true f = some (.ok g) ↔
      ∃ out, Rewritten 2 2 (splitLines 10 f.data) out ∧
        g = { kind := 1, mode := f.mode, data := out.flatten }

/-- How many lines are replaced. -/
def commandLines (data : List UInt8) : Nat :=
  (splitLines 10 data).countP fun line =>
    decide (lineBody line = downCommand) || decide (lineBody line = upCommand)

/-! ## The parts of a line -/

theorem newline_notMem {bytes : List UInt8} (h : Blanks bytes) : (10 : UInt8) ∉ bytes := by
  intro hmem
  exact absurd (h 10 hmem) (by decide)

theorem lineText_append {txt : List UInt8} (h : (10 : UInt8) ∉ txt) : lineText (txt ++ [10]) = txt := by
  unfold lineText
  rw [List.takeWhile_append_of_pos]
  · simp
  · intro b hb
    have hne : b ≠ 10 := fun heq => h (heq ▸ hb)
    simpa using hne

variable {line : List UInt8}

/-- A line is its indentation, its body, the blanks behind it and the newline. -/
theorem line_parts (hline : OneLine 10 line) :
    ∃ behind, Blanks behind ∧ line = lineIndent line ++ lineBody line ++ behind ++ [10] := by
  obtain ⟨txt, hno, rfl⟩ := hline
  refine ⟨(txt.dropWhile isBlank).rtakeWhile isBlank, fun b hb => List.mem_rtakeWhile_imp hb, ?_⟩
  rw [lineIndent, lineBody, lineText_append hno, List.append_assoc (txt.takeWhile isBlank),
    List.rdropWhile_append_rtakeWhile, List.takeWhile_append_dropWhile]

theorem blanks_lineIndent (line : List UInt8) : Blanks (lineIndent line) :=
  fun _ hb => List.mem_takeWhile_imp hb

/-- A text that neither begins nor ends with a blank, in one line. -/
structure Solid (command : List UInt8) : Prop where
  newline : (10 : UInt8) ∉ command
  first : ∃ b rest, command = b :: rest ∧ isBlank b = false
  last : ∃ front b, command = front ++ [b] ∧ isBlank b = false

theorem solid_downCommand : Solid downCommand where
  newline := by decide
  first := ⟨_, _, rfl, by decide⟩
  last := ⟨Config.text "/sbin/ifdown -", 97, by decide, by decide⟩

theorem solid_upCommand : Solid upCommand where
  newline := by decide
  first := ⟨_, _, rfl, by decide⟩
  last := ⟨Config.text "/sbin/ifup -", 97, by decide, by decide⟩

variable {command indent behind : List UInt8}

/-- The parts of a line that was put together from them. -/
theorem line_of_parts (hsolid : Solid command) (hindent : Blanks indent) (hbehind : Blanks behind) :
    lineIndent (indent ++ command ++ behind ++ [10]) = indent ∧
      lineBody (indent ++ command ++ behind ++ [10]) = command := by
  have htext : lineText (indent ++ command ++ behind ++ [10]) = indent ++ command ++ behind := by
    apply lineText_append
    simp only [List.mem_append, not_or]
    exact ⟨⟨newline_notMem hindent, hsolid.newline⟩, newline_notMem hbehind⟩
  obtain ⟨b, rest, hfirst, hb⟩ := hsolid.first
  obtain ⟨front, c, hlast, hc⟩ := hsolid.last
  constructor
  · rw [lineIndent, htext, List.append_assoc, List.takeWhile_append_of_pos hindent, hfirst,
      List.cons_append, List.takeWhile_cons_of_neg (by simp [hb]), List.append_nil]
  · have hdrop : (indent ++ (command ++ behind)).dropWhile isBlank = command ++ behind := by
      rw [List.dropWhile_append_of_pos hindent, hfirst, List.cons_append,
        List.dropWhile_cons_of_neg (by simp [hb])]
    have hback : ∀ back : List UInt8, Blanks back →
        (front ++ [c] ++ back).rdropWhile isBlank = front ++ [c] := by
      intro back hblanks
      induction back using List.reverseRecOn with
      | nil => rw [List.append_nil, List.rdropWhile_concat_neg _ _ _ (by simp [hc])]
      | append_singleton back d ih =>
        rw [← List.append_assoc, List.rdropWhile_concat_pos _ _ _ (hblanks d (by simp))]
        exact ih fun b hb => hblanks b (by simp [hb])
    rw [lineBody, htext, List.append_assoc, hdrop, hlast]
    exact hback behind hbehind

/-- The code knows the commands by what stands between the blanks. -/
theorem ofCommand_iff {command line : List UInt8} (hsolid : Solid command)
    (hline : OneLine 10 line) : OfCommand command line ↔ lineBody line = command := by
  constructor
  · rintro ⟨indent, behind, hindent, hbehind, rfl⟩
    exact (line_of_parts hsolid hindent hbehind).2
  · intro hbody
    obtain ⟨behind, hbehind, hparts⟩ := line_parts hline
    rw [hbody] at hparts
    exact ⟨lineIndent line, behind, blanks_lineIndent line, hbehind, hparts⟩

/-! ## One line -/

/-- What a line becomes. -/
def rewriteLine (line : List UInt8) : List UInt8 :=
  let behind := line.drop ((lineIndent line).length + (lineBody line).length)
  if lineBody line = upCommand then lineIndent line ++ upReplacement ++ behind
  else if lineBody line = downCommand then lineIndent line ++ downReplacement ++ behind
  else line

def isDown (line : List UInt8) : Bool := decide (lineBody line = downCommand)
def isUp (line : List UInt8) : Bool := decide (lineBody line = upCommand)

theorem isDown_iff : isDown line = true ↔ lineBody line = downCommand :=
  decide_eq_true_iff

theorem isUp_iff : isUp line = true ↔ lineBody line = upCommand :=
  decide_eq_true_iff

theorem up_ne_down : upCommand ≠ downCommand := by decide

theorem copy_copy (out front back : List UInt8) :
    ((copy out front).bind fun out => copy out back) = copy out (front ++ back) := by
  unfold copy
  by_cases hfits : out.length + (front ++ back).length ≤ bufferSize
  · have hfront : out.length + front.length ≤ bufferSize := by
      rw [List.length_append] at hfits
      omega
    have hback : (out ++ front).length + back.length ≤ bufferSize := by
      rw [List.length_append] at hfits ⊢
      omega
    rw [if_pos hfront, if_pos hfits, Option.bind_some, if_pos hback, List.append_assoc]
  · rw [if_neg hfits]
    by_cases hfront : out.length + front.length ≤ bufferSize
    · rw [if_pos hfront, Option.bind_some, if_neg]
      rw [List.length_append] at hfits ⊢
      omega
    · rw [if_neg hfront, Option.bind_none]

/-- A pass copies the line as it becomes, and counts it. -/
theorem vendorPass_eq (s : VendorCopy) (line : List UInt8) :
    vendorPass s line = (copy s.out (rewriteLine line)).map fun out =>
      { out, up := s.up + (isUp line).toNat, down := s.down + (isDown line).toNat } := by
  have hcopies (front mid back : List UInt8) (f : List UInt8 → VendorCopy) :
      ((copy s.out front).bind fun out => (copy out mid).bind fun out => (copy out back).bind
        fun out => some (f out)) = (copy s.out (front ++ mid ++ back)).map f := by
    rw [← copy_copy s.out (front ++ mid), ← copy_copy s.out front]
    cases copy s.out front with
    | none => rfl
    | some out =>
      rw [Option.bind_some, Option.bind_some]
      cases copy out mid with
      | none => rfl
      | some out =>
        rw [Option.bind_some, Option.bind_some]
        cases copy out back <;> rfl
  by_cases hup : lineBody line = upCommand
  · simp only [vendorPass, rewriteLine, isUp, isDown, hup, up_ne_down, decide_true, decide_false,
      if_true, Option.bind_eq_bind, Option.pure_def]
    rw [hcopies]
    simp
  by_cases hdown : lineBody line = downCommand
  · simp only [vendorPass, rewriteLine, isUp, isDown, hdown, up_ne_down.symm, decide_true,
      decide_false, if_true, Bool.false_eq_true, if_false, Option.bind_eq_bind, Option.pure_def]
    rw [hcopies]
    simp
  · simp only [vendorPass, rewriteLine, isUp, isDown, hup, hdown, decide_false,
      Bool.false_eq_true, if_false, Option.bind_eq_bind, Option.pure_def, Option.map_eq_bind]
    rfl

/-- The loop, as long as what it has written fits. -/
theorem foldlM_vendorPass (lines : List (List UInt8)) {s : VendorCopy}
    (hs : s.out.length ≤ bufferSize) :
    lines.foldlM vendorPass s =
      if s.out.length + (lines.flatMap rewriteLine).length ≤ bufferSize then
        some
          { out := s.out ++ lines.flatMap rewriteLine, up := s.up + lines.countP isUp
            down := s.down + lines.countP isDown }
      else none := by
  induction lines generalizing s with
  | nil => simp [hs]
  | cons line lines ih =>
    rw [List.foldlM_cons, vendorPass_eq, List.flatMap_cons, List.length_append,
      List.countP_cons, List.countP_cons]
    by_cases hline : s.out.length + (rewriteLine line).length ≤ bufferSize
    · have hout : (s.out ++ rewriteLine line).length ≤ bufferSize := by
        rwa [List.length_append]
      rw [copy, if_pos hline, Option.map_some, Option.bind_eq_bind, Option.bind_some, ih hout]
      simp only [List.length_append, Nat.add_assoc, List.append_assoc]
      cases isUp line <;> cases isDown line <;> simp [Nat.add_comm 1]
    · rw [copy, if_neg hline, if_neg (by omega)]
      rfl

/-! ## All lines -/

theorem length_rewriteLine (hline : OneLine 10 line) :
    (rewriteLine line).length = line.length + 60 * (isDown line || isUp line).toNat := by
  obtain ⟨behind, -, hparts⟩ := line_parts hline
  have hlength : line.length =
      (lineIndent line).length + (lineBody line).length + behind.length + 1 := by
    conv => lhs; rw [hparts]
    simp only [List.length_append, List.length_singleton]
  have hup : upCommand.length = 13 := by decide
  have hdown : downCommand.length = 15 := by decide
  have hup' : upReplacement.length = 73 := by decide
  have hdown' : downReplacement.length = 75 := by decide
  unfold rewriteLine isDown isUp
  dsimp only
  split
  next h =>
    simp only [h, decide_true, Bool.or_true, Bool.toNat_true, List.length_append, List.length_drop]
    rw [h] at hlength
    omega
  next h =>
    split
    next h' =>
      simp only [h', decide_true, Bool.true_or, Bool.toNat_true, List.length_append,
        List.length_drop]
      rw [h'] at hlength
      omega
    next h' => simp [h, h']

theorem length_flatMap_rewriteLine {lines : List (List UInt8)}
    (hlines : ∀ line ∈ lines, OneLine 10 line) :
    (lines.flatMap rewriteLine).length =
      lines.flatten.length + 60 * lines.countP fun line => isDown line || isUp line := by
  induction lines with
  | nil => rfl
  | cons line lines ih =>
    have hrest := ih fun next hnext => hlines next (by simp [hnext])
    have hone := length_rewriteLine (hlines line (by simp))
    rw [List.flatMap_cons, List.flatten_cons, List.length_append, List.length_append, hrest, hone,
      List.countP_cons]
    cases isDown line || isUp line
    · simp
      omega
    · simp
      omega

/-- A line of a command, as it is replaced. -/
theorem rewriteLine_of_parts (hsolid : Solid command) (hindent : Blanks indent) (hbehind : Blanks behind) :
    rewriteLine (indent ++ command ++ behind ++ [10]) =
      if command = upCommand then indent ++ upReplacement ++ behind ++ [10]
      else if command = downCommand then indent ++ downReplacement ++ behind ++ [10]
      else indent ++ command ++ behind ++ [10] := by
  obtain ⟨hhead, hbody⟩ := line_of_parts hsolid hindent hbehind
  have hdrop : (indent ++ command ++ behind ++ [10]).drop (indent.length + command.length) =
      behind ++ [10] := by
    rw [List.append_assoc, ← List.length_append, List.drop_left]
  unfold rewriteLine
  rw [hhead, hbody, hdrop]
  simp only [List.append_assoc]

/-- The lines are rewritten in one way. -/
theorem rewritten_iff {lines out : List (List UInt8)} {down up : Nat}
    (hlines : ∀ line ∈ lines, OneLine 10 line) :
    Rewritten down up lines out ↔
      down = lines.countP isDown ∧ up = lines.countP isUp ∧ out = lines.map rewriteLine := by
  constructor
  · intro h
    -- one way by the derivation, the other by the lines
    induction h with
    | nil => exact ⟨rfl, rfl, rfl⟩
    | down hindent hbehind _ ih =>
      obtain ⟨rfl, rfl, rfl⟩ := ih fun line hline => hlines line (by simp [hline])
      have hbody := (line_of_parts solid_downCommand hindent hbehind).2
      refine ⟨?_, ?_, ?_⟩
      · rw [List.countP_cons_of_pos (isDown_iff.mpr hbody)]
      · rw [List.countP_cons_of_neg (by rw [isUp_iff, hbody]; exact up_ne_down.symm)]
      · rw [List.map_cons, rewriteLine_of_parts solid_downCommand hindent hbehind,
          if_neg up_ne_down.symm, if_pos rfl]
    | up hindent hbehind _ ih =>
      obtain ⟨rfl, rfl, rfl⟩ := ih fun line hline => hlines line (by simp [hline])
      have hbody := (line_of_parts solid_upCommand hindent hbehind).2
      refine ⟨?_, ?_, ?_⟩
      · rw [List.countP_cons_of_neg (by rw [isDown_iff, hbody]; exact up_ne_down)]
      · rw [List.countP_cons_of_pos (isUp_iff.mpr hbody)]
      · rw [List.map_cons, rewriteLine_of_parts solid_upCommand hindent hbehind, if_pos rfl]
    | @keep _ _ _ _ line hdown hup _ ih =>
      obtain ⟨rfl, rfl, rfl⟩ := ih fun line hline => hlines line (by simp [hline])
      have hline := hlines line (by simp)
      rw [ofCommand_iff solid_downCommand hline] at hdown
      rw [ofCommand_iff solid_upCommand hline] at hup
      refine ⟨?_, ?_, ?_⟩
      · rw [List.countP_cons_of_neg (isDown_iff.not.mpr hdown)]
      · rw [List.countP_cons_of_neg (isUp_iff.not.mpr hup)]
      · rw [List.map_cons, rewriteLine, if_neg hup, if_neg hdown]
  · rintro ⟨rfl, rfl, rfl⟩
    induction lines with
    | nil => exact .nil
    | cons line lines ih =>
      have hrest := ih fun next hnext => hlines next (by simp [hnext])
      have hline := hlines line (by simp)
      rw [List.map_cons]
      by_cases hup : OfCommand upCommand line
      · obtain ⟨indent, behind, hindent, hbehind, rfl⟩ := hup
        have hbody := (line_of_parts solid_upCommand hindent hbehind).2
        rw [List.countP_cons_of_neg (by rw [isDown_iff, hbody]; exact up_ne_down),
          List.countP_cons_of_pos (isUp_iff.mpr hbody),
          rewriteLine_of_parts solid_upCommand hindent hbehind, if_pos rfl]
        exact .up hindent hbehind hrest
      by_cases hdown : OfCommand downCommand line
      · obtain ⟨indent, behind, hindent, hbehind, rfl⟩ := hdown
        have hbody := (line_of_parts solid_downCommand hindent hbehind).2
        rw [List.countP_cons_of_pos (isDown_iff.mpr hbody),
          List.countP_cons_of_neg (by rw [isUp_iff, hbody]; exact up_ne_down.symm),
          rewriteLine_of_parts solid_downCommand hindent hbehind, if_neg up_ne_down.symm,
          if_pos rfl]
        exact .down hindent hbehind hrest
      · have hup' := hup
        have hdown' := hdown
        rw [ofCommand_iff solid_upCommand hline] at hup'
        rw [ofCommand_iff solid_downCommand hline] at hdown'
        rw [List.countP_cons_of_neg (isDown_iff.not.mpr hdown'),
          List.countP_cons_of_neg (isUp_iff.not.mpr hup'), rewriteLine, if_neg hup',
          if_neg hdown']
        exact .keep hdown hup hrest

/-! ## The script -/

/-- What the checks of `text` give the loop. -/
theorem ended_of_text {f : InstallFile} (h : text f = true) :
    ∀ line ∈ splitLines 10 f.data, OneLine 10 line := by
  apply ended_splitLines
  simp only [text, Bool.and_eq_true, decide_eq_true_iff] at h
  exact h.1.2

/-- The script as the loop leaves it. -/
theorem installVendorScript_eq {f : InstallFile} (h : text f = true) :
    installVendorScript true f =
      if f.data.length + 60 * commandLines f.data ≤ bufferSize then
        if (splitLines 10 f.data).countP isUp ≠ 2 ∨ (splitLines 10 f.data).countP isDown ≠ 2 then
          some (.error (-1))
        else
          some (.ok
            { kind := 1, mode := f.mode, data := (splitLines 10 f.data).flatMap rewriteLine })
      else none := by
  have hlength := length_flatMap_rewriteLine (ended_of_text h)
  rw [flatten_splitLines] at hlength
  have hcommands : commandLines f.data =
      (splitLines 10 f.data).countP fun line => isDown line || isUp line := rfl
  have hloop := foldlM_vendorPass (splitLines 10 f.data) (s := { out := [], up := 0, down := 0 })
    (Nat.zero_le _)
  rw [hlength, ← hcommands] at hloop
  simp only [List.length_nil, Nat.zero_add, List.nil_append] at hloop
  rw [installVendorScript, allocate, h, hloop]
  by_cases hfits : f.data.length + 60 * commandLines f.data ≤ bufferSize
  · simp only [if_pos hfits, Bool.and_self, Bool.not_true, Bool.false_eq_true, if_false]
  · simp only [if_neg hfits, Bool.and_self, Bool.not_true, Bool.false_eq_true, if_false]

/-- **When the rewrite is exact**: as long as the output of all the replacements fits. -/
theorem vendorExact_iff {f : InstallFile} (h : text f = true) :
    VendorExact f ↔ f.data.length + 60 * commandLines f.data ≤ bufferSize := by
  have hrun := installVendorScript_eq h
  constructor
  · intro hexact
    -- where the rewritten file does not fit, a write leaves the buffer
    by_contra hno
    rw [if_neg hno] at hrun
    exact hexact.1 hrun
  · intro hfits
    rw [if_pos hfits] at hrun
    refine ⟨?_, fun g => ?_⟩
    · rw [hrun]
      split <;> simp
    · simp only [rewritten_iff (ended_of_text h), hrun]
      constructor
      · intro hg
        split at hg
        next => cases hg
        next hcounts =>
          rw [not_or, not_not, not_not] at hcounts
          cases hg
          exact ⟨_, ⟨hcounts.2.symm, hcounts.1.symm, rfl⟩, by rw [List.flatMap_def]⟩
      · rintro ⟨out, ⟨hdown, hup, rfl⟩, rfl⟩
        rw [if_neg (by rw [← hdown, ← hup]; simp), List.flatMap_def]

/-- Each command twice, one of the lines between blanks. -/
def twoOfEach : InstallFile where
  kind := 1
  mode := 0o755
  data := Config.text
    "#! /bin/sh\n# down\n/sbin/ifdown -a\n\t/sbin/ifdown -a  \n/sbin/ifup -a\n/sbin/ifup -a\n"

theorem vendorExact_twoOfEach : VendorExact twoOfEach :=
  (vendorExact_iff (f := twoOfEach) (by decide +kernel)).mpr (by decide +kernel)

/-! ## Too many lines -/

/-- A script that brings the network up again and again. -/
def manyUps (n : Nat) : InstallFile where
  kind := 1
  mode := 0o755
  data := Config.text "#!/bin/sh\n" ++ (List.replicate n (upCommand ++ [10])).flatten

theorem length_manyUps (n : Nat) : (manyUps n).data.length = 10 + n * 14 := by
  have hup : (upCommand ++ [10]).length = 14 := by decide
  have hhead : (Config.text "#!/bin/sh\n").length = 10 := by decide
  simp only [manyUps, List.length_append, List.length_flatten, List.map_replicate, hhead,
    List.sum_replicate_nat, hup]

theorem text_manyUps {n : Nat} (hn : 0 < n) (hmax : n ≤ 1169) : text (manyUps n) = true := by
  obtain ⟨m, rfl⟩ : ∃ m, n = m + 1 := ⟨n - 1, by omega⟩
  have hlength := length_manyUps (m + 1)
  have hhead : (manyUps (m + 1)).data.take 10 = Config.text "#!/bin/sh\n" := by
    have hten : (10 : Nat) = (Config.text "#!/bin/sh\n").length := by decide
    rw [hten]
    exact List.take_left
  have hlast : (manyUps (m + 1)).data.getLast? = some 10 := by
    simp [manyUps, List.replicate_succ']
  have hall : ∀ b ∈ (manyUps (m + 1)).data,
      (decide (b ≠ 0) && decide (b ≠ 13) && decide (b ≤ 127)) = true := by
    intro b hb
    rcases List.mem_append.mp hb with hb | hb
    · have hhead : (Config.text "#!/bin/sh\n").all
          (fun b => decide (b ≠ 0) && decide (b ≠ 13) && decide (b ≤ 127)) = true := by decide
      exact List.all_eq_true.mp hhead b hb
    · obtain ⟨line, hline, hb⟩ := List.mem_flatten.mp hb
      have hup : (upCommand ++ [10]).all
          (fun b => decide (b ≠ 0) && decide (b ≠ 13) && decide (b ≤ 127)) = true := by decide
      rw [List.eq_of_mem_replicate hline] at hb
      exact List.all_eq_true.mp hup b hb
  simp only [text, hlength, hhead, hlast, List.all_eq_true.mpr hall, decide_true, Bool.true_or,
    Bool.and_true, Bool.and_eq_true, decide_eq_true_iff]
  refine ⟨⟨rfl, ?_⟩, ?_⟩ <;> omega

theorem commandLines_manyUps (n : Nat) : commandLines (manyUps n).data = n := by
  have hlines : splitLines 10 (manyUps n).data =
      Config.text "#!/bin/sh\n" :: List.replicate n (upCommand ++ [10]) := by
    have hdata : (manyUps n).data =
        (Config.text "#!/bin/sh\n" :: List.replicate n (upCommand ++ [10])).flatten := rfl
    rw [hdata]
    apply splitLines_flatten
    apply Lines.of_ended
    intro line hline
    rcases List.mem_cons.mp hline with rfl | hline
    · exact ⟨Config.text "#!/bin/sh", by decide, by decide⟩
    · rw [List.eq_of_mem_replicate hline]
      exact ⟨upCommand, by decide, rfl⟩
  rw [commandLines, hlines, List.countP_cons_of_neg (by decide), List.countP_replicate,
    if_pos (by decide)]

/-- Five hundred lines leave the buffer. -/
theorem not_vendorExact_manyUps :
    text (manyUps 500) = true ∧ installVendorScript true (manyUps 500) = none ∧
      ¬ ∀ f, text f = true → VendorExact f := by
  have htext : text (manyUps 500) = true := text_manyUps (by decide) (by decide)
  have hrun := installVendorScript_eq htext
  rw [commandLines_manyUps, length_manyUps, if_neg (by decide)] at hrun
  exact ⟨htext, hrun, fun h => (h _ htext).1 hrun⟩

end FourVrs.Installer
