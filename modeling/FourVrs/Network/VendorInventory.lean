import FourVrs.Network.BootInventory

/-!
# What the vendor's file names

A line without its comment is a list of words. It names interfaces when it is an `auto` line (to
bring them up) or an `iface` line (to take one down), and an `iface` line also declares a stanza.
The file is accepted when each of its lines is, and when it names no more than 32 interfaces that
the gateway does not own. `scanInventory` reads an accepted file and refuses any other.
-/

set_option autoImplicit false

namespace FourVrs.Network

open Config Lib

variable (p : Platform) (up : Nat)

/-! ## A line -/

def beforeComment (words : List CText) : List CText :=
  words.takeWhile fun word => decide (word.head? ≠ some (ascii '#'))

/-- The words of a line, without its comment. -/
def lineWords (line : CText) : List CText := beforeComment (words isBreak line)

/-- The interfaces a line names. -/
def named (line : CText) : List CText :=
  match lineWords line with
  | [] => []
  | first :: rest =>
      if up = 1 then if first = text "auto" then rest else []
      else if first = text "iface" then rest.take 1 else []

/-- The fields of the stanza a line opens. -/
def stanza (line : CText) : Option (List CText) :=
  match strtok isBreak line with
  | none => none
  | some (first, rest) => if first = text "iface" then some (words isSpace rest) else none

structure LineAccepted (line : CText) : Prop where
  short : line.length < 513
  plain : ∀ first ∈ (lineWords line).head?, first ∉ refusedWords
  stanza : stanza line ≠ some []
  names : ∀ name ∈ named up line, nameValid name = true

/-! ## The file -/

def vendorName (name : CText) : Bool := decide (name ≠ lan0Name p) && decide (name ≠ lan1Name p)

/-- The names the gateway does not own, in order of first appearance. -/
def vendorOf (names : List CText) : List CText := (names.filter (vendorName p)).eraseDups

def vendorNames (lines : List CText) : List CText := vendorOf p (lines.flatMap (named up))

def optionalStanzas (lines : List CText) : List (List CText) :=
  (lines.filterMap stanza).filter fun fields => decide (fields.head? = some (optionalVendorInterface p))

/-- One stanza, and a static one. -/
def DeclaredOnce (lines : List CText) : Prop :=
  optionalStanzas p lines = [[optionalVendorInterface p, text "inet", text "static"]]

instance (lines : List CText) : Decidable (DeclaredOnce p lines) := by
  unfold DeclaredOnce
  infer_instance

structure LinesAccepted (lines : List CText) : Prop where
  line : ∀ line ∈ lines, LineAccepted up line
  few : (vendorNames p up lines).length ≤ 32

structure FileAccepted (input : CText) : Prop where
  size : input.length ≤ networkFileMax
  bytes : 0 ∉ input
  lines : LinesAccepted p up (bootLines input)

/-! ## The fields of a stanza

`sscanf` cuts long words, but none it cuts is as short as the ones it is compared with. -/

section Fields

/-- `%s` finds what `strtok` finds, cut to its width. -/
theorem scanWord_of_strtok {width : Nat} {s word rest : CText} (hwidth : 0 < width)
    (h : strtok isSpace s = some (word, rest)) :
    ∃ behind, scanWord width s = some (word.take width, behind) ∧
      (word.length ≤ width → words isSpace behind = words isSpace rest) := by
  obtain ⟨behind, hdrop, hne, rfl, htake, hbehind⟩ := strtok_eq_some isSpace h
  refine ⟨(word ++ behind).drop (word.take width).length, ?_, ?_⟩
  · unfold scanWord
    simp only [hdrop, htake]
    rw [if_neg]
    intro hempty
    rcases List.take_eq_nil_iff.mp hempty with rfl | hnil
    · exact absurd hwidth (lt_irrefl 0)
    · exact hne hnil
  · intro hfits
    rw [List.take_of_length_le hfits, List.drop_left]
    exact (words_congr isSpace (strtok_drop_one isSpace hbehind)).symm

theorem scanWord_none {width : Nat} {s : CText} (h : strtok isSpace s = none) :
    scanWord width s = none := by
  unfold strtok at h
  split at h
  next hdrop => simp [scanWord, hdrop]
  next => cases h

/-- Short words are read exactly, with one more `%s` to see that they are all. -/
theorem scanWords_eq_iff {l : List CText} {widths : List Nat} {width : Nat} (s : CText)
    (hwidth : 0 < width)
    (hshort : List.Forall₂ (fun word width => word.length < width) l widths) :
    scanWords (widths ++ [width]) s = l ↔ words isSpace s = l := by
  induction hshort generalizing s with
  | nil =>
    cases hfirst : strtok isSpace s with
    | none => simp [scanWords, scanWord_none hfirst, words_of_none isSpace hfirst]
    | some found =>
      obtain ⟨behind, hscan, -⟩ := scanWord_of_strtok hwidth hfirst
      simp [scanWords, hscan, words_of_some isSpace hfirst]
  | @cons x widthX l widths hx _ ih =>
    cases hfirst : strtok isSpace s with
    | none => simp [scanWords, scanWord_none hfirst, words_of_none isSpace hfirst]
    | some found =>
      obtain ⟨behind, hscan, hrest⟩ := scanWord_of_strtok (Nat.zero_lt_of_lt hx) hfirst
      rw [List.cons_append, scanWords, hscan, words_of_some isSpace hfirst]
      simp only [List.cons.injEq]
      constructor
      · rintro ⟨rfl, htail⟩
        have hfits : found.1.length ≤ widthX := by
          rw [List.length_take] at hx
          omega
        exact ⟨(List.take_of_length_le hfits).symm, hrest hfits ▸ (ih behind).mp htail⟩
      · rintro ⟨rfl, htail⟩
        exact ⟨List.take_of_length_le hx.le, (ih behind).mpr ((hrest hx.le).trans htail)⟩

theorem head_scanWords {width : Nat} (widths : List Nat) (s : CText) {x : CText}
    (hx : x.length < width) :
    (scanWords (width :: widths) s).head? = some x ↔ (words isSpace s).head? = some x := by
  cases hfirst : strtok isSpace s with
  | none => simp [scanWords, scanWord_none hfirst, words_of_none isSpace hfirst]
  | some found =>
    obtain ⟨behind, hscan, -⟩ := scanWord_of_strtok (Nat.zero_lt_of_lt hx) hfirst
    rw [scanWords, hscan, words_of_some isSpace hfirst]
    simp only [List.head?_cons, Option.some.injEq]
    constructor
    · rintro rfl
      rw [List.length_take] at hx
      exact (List.take_of_length_le (by omega)).symm
    · rintro rfl
      exact List.take_of_length_le hx.le

theorem scanWords_eq_nil {width : Nat} (widths : List Nat) (s : CText) (hwidth : 0 < width) :
    scanWords (width :: widths) s = [] ↔ words isSpace s = [] := by
  cases hfirst : strtok isSpace s with
  | none => simp [scanWords, scanWord_none hfirst, words_of_none isSpace hfirst]
  | some found =>
    obtain ⟨behind, hscan, -⟩ := scanWord_of_strtok hwidth hfirst
    simp [scanWords, hscan, words_of_some isSpace hfirst]

end Fields

/-! ## The scan -/

section Scan

variable {p : Platform} {up : Nat}

theorem vendorOf_append (names more : List CText) :
    ∃ new, vendorOf p (names ++ more) = vendorOf p names ++ new := by
  refine ⟨((more.filter (vendorName p)).removeAll (names.filter (vendorName p))).eraseDups, ?_⟩
  rw [vendorOf, List.filter_append, List.eraseDups_append]
  rfl

variable {lines : List CText} {names : List CText}

theorem mem_vendorOf {name : CText} :
    name ∈ vendorOf p names ↔ name ∈ names ∧ vendorName p name = true := by
  simp [vendorOf, List.mem_eraseDups]

theorem vendorOf_snoc (names : List CText) (name : CText) :
    vendorOf p (names ++ [name]) =
      if vendorName p name = true ∧ name ∉ vendorOf p names then vendorOf p names ++ [name]
      else vendorOf p names := by
  rw [vendorOf, List.filter_append, List.eraseDups_append, ← vendorOf]
  by_cases hvendor : vendorName p name = true
  · by_cases hmem : name ∈ names
    · rw [if_neg fun h => h.2 (mem_vendorOf.mpr ⟨hmem, hvendor⟩)]
      simp [hvendor, hmem, List.removeAll]
    · rw [if_pos ⟨hvendor, fun h => hmem (mem_vendorOf.mp h).1⟩]
      simp [hvendor, hmem, List.removeAll, List.eraseDups_cons]
  · rw [if_neg fun h => hvendor h.1]
    simp [hvendor, List.removeAll]

theorem takeName_eq {name : CText} (hfew : (vendorOf p names).length ≤ 32) :
    takeName p (vendorOf p names) name =
      if nameValid name = true ∧ (vendorOf p (names ++ [name])).length ≤ 32
      then some (vendorOf p (names ++ [name])) else none := by
  unfold takeName
  cases hvalid : nameValid name with
  | false => simp
  | true =>
    rw [vendorOf_snoc]
    by_cases hown : name = lan0Name p ∨ name = lan1Name p
    · have hvendor : vendorName p name = false := by
        rcases hown with rfl | rfl <;> simp [vendorName]
      simp [hown, hvendor, hfew]
    · have hvendor : vendorName p name = true := by
        simp only [not_or] at hown
        simp [vendorName, hown]
      by_cases hmem : name ∈ vendorOf p names
      · simp [hown, hmem, hfew]
      by_cases hfull : (vendorOf p names).length = 32
      · simp [hown, hvendor, hmem, hfull]
      · have hroom : (vendorOf p names).length + 1 ≤ 32 := by omega
        simp [hown, hvendor, hmem, hfull, hroom]

/-- The loop over a line reads the names before the comment, or the first of them. -/
theorem takeNames_eq (ifaceLine : Bool) (hfew : (vendorOf p names).length ≤ 32) (line : List CText)
    {read : List CText} (hread : read = if ifaceLine then (beforeComment line).take 1 else beforeComment line) :
    takeNames p ifaceLine (vendorOf p names) line =
      if (∀ name ∈ read, nameValid name = true) ∧ (vendorOf p (names ++ read)).length ≤ 32
      then some (vendorOf p (names ++ read)) else none := by
  induction line generalizing names read with
  | nil =>
    have hnil : read = [] := by simpa [beforeComment] using hread
    simp [takeNames, hnil, hfew]
  | cons word rest ih =>
    by_cases hcomment : word.head? = some (ascii '#')
    · have hnil : read = [] := by simpa [beforeComment, hcomment] using hread
      simp [takeNames, hcomment, hnil, hfew]
    · have hbefore : beforeComment (word :: rest) = word :: beforeComment rest := by
        simp [beforeComment, hcomment]
      rw [hbefore] at hread
      rw [takeNames, if_neg hcomment, takeName_eq hfew]
      cases ifaceLine with
      | true =>
        have hone : read = [word] := by simpa using hread
        by_cases hok : nameValid word = true ∧ (vendorOf p (names ++ [word])).length ≤ 32
        · simp [hone, hok]
        · rw [if_neg hok, hone, if_neg (by simpa using hok)]
      | false =>
        obtain rfl : read = word :: beforeComment rest := by simpa using hread
        by_cases hok : nameValid word = true ∧ (vendorOf p (names ++ [word])).length ≤ 32
        · rw [if_pos hok]
          simp only [Bool.false_eq_true, if_false]
          rw [ih hok.2 rfl]
          simp [hok.1]
        · -- what is refused now is refused with the rest of the line
          rw [if_neg hok, if_neg]
          rintro ⟨hvalid, hlen⟩
          refine hok ⟨hvalid word (by simp), ?_⟩
          obtain ⟨new, hnew⟩ := vendorOf_append (p := p) (names ++ [word]) (beforeComment rest)
          rw [List.append_assoc, List.singleton_append] at hnew
          rw [hnew, List.length_append] at hlen
          omega

/-- What the scan has found of the lines it has read. -/
structure ScanAgrees (p : Platform) (up : Nat) (lines : List CText) (s : BootScan) : Prop where
  names : s.names = vendorNames p up lines
  few : (vendorNames p up lines).length ≤ 32
  stanzas : s.optionalStanzas = (optionalStanzas p lines).length
  last : s.optionalStatic = decide ((optionalStanzas p lines).getLast? =
    some [optionalVendorInterface p, text "inet", text "static"])

theorem vendorNames_snoc (lines : List CText) (line : CText) :
    vendorNames p up (lines ++ [line]) = vendorOf p (lines.flatMap (named up) ++ named up line) := by
  rw [vendorNames, List.flatMap_append, List.flatMap_singleton]

theorem optionalStanzas_snoc (lines : List CText) (line : CText) :
    optionalStanzas p (lines ++ [line]) = optionalStanzas p lines ++
      (stanza line).toList.filter fun fields =>
        decide (fields.head? = some (optionalVendorInterface p)) := by
  rw [optionalStanzas, List.filterMap_append, List.filter_append, ← optionalStanzas]
  cases hline : stanza line <;> simp [hline]

variable {s : BootScan}

/-- A line without a stanza of the optional interface leaves what the scan says of it. -/
theorem ScanAgrees.plain {line : CText} (h : ScanAgrees p up lines s)
    (hnames : names = vendorNames p up (lines ++ [line]))
    (hfew : (vendorNames p up (lines ++ [line])).length ≤ 32)
    (hstanza : ∀ fields ∈ stanza line, fields.head? ≠ some (optionalVendorInterface p)) :
    ScanAgrees p up (lines ++ [line]) { s with names } := by
  have hsame : optionalStanzas p (lines ++ [line]) = optionalStanzas p lines := by
    rw [optionalStanzas_snoc, List.filter_eq_nil_iff.mpr, List.append_nil]
    intro fields hfields
    simpa using hstanza fields (by simpa using hfields)
  exact ⟨hnames, hfew, by rw [hsame]; exact h.stanzas, by rw [hsame]; exact h.last⟩

/-- A line with one. -/
theorem ScanAgrees.stanza {line : CText} {rest : List CText} (h : ScanAgrees p up lines s)
    (hnames : names = vendorNames p up (lines ++ [line]))
    (hfew : (vendorNames p up (lines ++ [line])).length ≤ 32)
    (hstanza : stanza line = some (optionalVendorInterface p :: rest)) :
    ScanAgrees p up (lines ++ [line])
      { names
        optionalStanzas := s.optionalStanzas + 1
        optionalStatic := decide (rest = [text "inet", text "static"]) } := by
  have hmore : optionalStanzas p (lines ++ [line]) =
      optionalStanzas p lines ++ [optionalVendorInterface p :: rest] := by
    rw [optionalStanzas_snoc, hstanza]
    simp
  refine ⟨hnames, hfew, ?_, ?_⟩
  · rw [hmore, List.length_append, List.length_singleton, h.stanzas]
  · simp [hmore]

theorem length_optionalVendorInterface (p : Platform) : (optionalVendorInterface p).length = 4 := by
  cases p <;> rfl

/-- What `sscanf` makes of an `iface` line is what its fields say. -/
theorem takeStanza_eq (s : BootScan) (save : CText) :
    takeStanza p s save =
      match words isSpace save with
      | [] => none
      | name :: rest =>
          if name = optionalVendorInterface p then
            some { s with
              optionalStanzas := s.optionalStanzas + 1
              optionalStatic := decide (rest = [text "inet", text "static"]) }
          else some s := by
  have hname : (optionalVendorInterface p).length < 31 := by
    rw [length_optionalVendorInterface]
    decide
  have hhead := head_scanWords [31, 31, 1] save hname
  have hall : scanWords [31, 31, 31, 1] save =
      [optionalVendorInterface p, text "inet", text "static"] ↔ _ :=
    scanWords_eq_iff save Nat.one_pos (.cons hname (.cons (by decide) (.cons (by decide) .nil)))
  have hnil : scanWords [31, 31, 31, 1] save = [] ↔ _ :=
    scanWords_eq_nil [31, 31, 1] save (by decide)
  rw [takeStanza]
  generalize scanWords [31, 31, 31, 1] save = fields at *
  generalize words isSpace save = written at *
  cases written with
  | nil =>
    obtain rfl := hnil.mpr rfl
    rfl
  | cons name rest =>
    cases fields with
    | nil => exact absurd (hnil.mp rfl) (by simp)
    | cons name' rest' =>
      simp only [List.head?_cons, Option.some.injEq] at hhead
      simp only
      by_cases hname : name = optionalVendorInterface p
      · obtain rfl := hhead.mpr hname
        subst hname
        simp only [List.cons.injEq, true_and] at hall
        simp [hall]
      · rw [if_neg fun h => hname (hhead.mp h), if_neg hname]

/-- A line with nothing but blanks or a comment. -/
theorem plainLine_outcome {line : CText} (h : ScanAgrees p up lines s) (hshort : line.length < 513)
    (hwords : lineWords line = []) (hstanza : stanza line = none) :
    LineAccepted up line ∧ ScanAgrees p up (lines ++ [line]) s := by
  have hnamed : named up line = [] := by simp [named, hwords]
  have hnames : vendorNames p up (lines ++ [line]) = vendorNames p up lines := by
    rw [vendorNames_snoc, hnamed, List.append_nil, vendorNames]
  refine ⟨⟨hshort, by simp [hwords], by simp [hstanza], by simp [hnamed]⟩, ?_⟩
  exact h.plain (by rw [hnames, h.names]) (hnames ▸ h.few) (by simp [hstanza])

theorem stanza_outcome {line word save : CText} (h : ScanAgrees p up lines s)
    (hfirst : strtok isBreak line = some (word, save)) :
    match if word = text "iface" then takeStanza p s save else some s with
    | none => stanza line = some []
    | some t => stanza line ≠ some [] ∧ t.names = s.names ∧
        ((vendorNames p up (lines ++ [line])).length ≤ 32 →
          ScanAgrees p up (lines ++ [line]) { t with names := vendorNames p up (lines ++ [line]) }) := by
  have hline : stanza line = if word = text "iface" then some (words isSpace save) else none := by
    simp [stanza, hfirst]
  by_cases hiface : word = text "iface"
  · rw [if_pos hiface] at hline ⊢
    rw [takeStanza_eq]
    cases hfields : words isSpace save with
    | nil => rw [hline, hfields]
    | cons name rest =>
      rw [hfields] at hline
      by_cases hname : name = optionalVendorInterface p
      · subst hname
        simp only [if_true]
        exact ⟨by simp [hline], trivial, fun hfew => h.stanza rfl hfew hline⟩
      · simp only [if_neg hname]
        exact ⟨by simp [hline], trivial, fun hfew => h.plain rfl hfew (by simp [hline, hname])⟩
  · rw [if_neg hiface] at hline ⊢
    exact ⟨by simp [hline], rfl, fun hfew => h.plain rfl hfew (by simp [hline])⟩

theorem names_outcome {line word save : CText} (hnames : names = vendorNames p up lines)
    (hfew : names.length ≤ 32) (hfirst : lineWords line = word :: beforeComment (words isBreak save)) :
    (if (if up = 1 then word ≠ text "auto" else word ≠ text "iface") then some names
      else takeNames p (decide (word = text "iface")) names (strtokFor isBreak save.length save)) =
      if (∀ name ∈ named up line, nameValid name = true) ∧
          (vendorNames p up (lines ++ [line])).length ≤ 32
      then some (vendorNames p up (lines ++ [line])) else none := by
  subst hnames
  rw [strtokFor_eq isBreak (le_refl _), vendorNames_snoc]
  by_cases hskip : if up = 1 then word ≠ text "auto" else word ≠ text "iface"
  · have hnamed : named up line = [] := by
      by_cases hup : up = 1
      · rw [if_pos hup] at hskip
        simp [named, hfirst, hup, hskip]
      · rw [if_neg hup] at hskip
        simp [named, hfirst, hup, hskip]
    rw [if_pos hskip, hnamed, List.append_nil, ← vendorNames, if_pos ⟨by simp, hfew⟩]
  · rw [if_neg hskip, vendorNames]
    refine takeNames_eq (decide (word = text "iface")) hfew _ ?_
    by_cases hup : up = 1
    · rw [if_pos hup, not_not] at hskip
      have hauto : word ≠ text "iface" := by
        rw [hskip]
        decide
      simp [named, hfirst, hup, hskip, hskip ▸ hauto]
    · rw [if_neg hup, not_not] at hskip
      simp [named, hfirst, hup, hskip]

/-- The outcome of one line: taken, and then it was fit to be, or refused, and then it or the
    number of names was not. -/
theorem scanLine_outcome (h : ScanAgrees p up lines s) (line : CText) :
    match scanLine p up s line with
    | some t => LineAccepted up line ∧ ScanAgrees p up (lines ++ [line]) t
    | none => ¬ (LineAccepted up line ∧ (vendorNames p up (lines ++ [line])).length ≤ 32) := by
  unfold scanLine
  by_cases hlong : line.length ≥ 513
  · rw [if_pos hlong]
    exact fun hok => absurd hok.1.short (by omega)
  rw [if_neg hlong]
  have hshort : line.length < 513 := by omega
  cases hfirst : strtok isBreak line with
  | none =>
    refine plainLine_outcome h hshort ?_ ?_
    · simp [lineWords, words_of_none isBreak hfirst, beforeComment]
    · simp [stanza, hfirst]
  | some found =>
    obtain ⟨word, save⟩ := found
    simp only
    have hwords := words_of_some isBreak hfirst
    by_cases hcomment : word.head? = some (ascii '#')
    · rw [if_pos hcomment]
      refine plainLine_outcome h hshort ?_ ?_
      · simp [lineWords, hwords, beforeComment, hcomment]
      · have hiface : word ≠ text "iface" := by
          rintro rfl
          exact absurd hcomment (by decide)
        simp [stanza, hfirst, hiface]
    rw [if_neg hcomment]
    have hline : lineWords line = word :: beforeComment (words isBreak save) := by
      simp [lineWords, hwords, beforeComment, hcomment]
    by_cases hrefused : word ∈ refusedWords
    · rw [if_pos hrefused]
      exact fun hok => hok.1.plain word (by simp [hline]) hrefused
    rw [if_neg hrefused]
    have hstanza := stanza_outcome h hfirst
    generalize (if word = text "iface" then takeStanza p s save else some s) = taken at hstanza ⊢
    cases taken with
    | none => exact fun hok => hok.1.stanza hstanza
    | some t =>
      obtain ⟨hfields, hsame, hagrees⟩ := hstanza
      have hnames := names_outcome (hsame.trans h.names)
        (by rw [hsame, h.names]; exact h.few) hline
      simp only
      have hkept : ∀ (skip : Prop) [Decidable skip] (read : Option (List CText)),
          (if skip then some t else read.map fun names => { t with names }) =
            (if skip then some t.names else read).map fun names => { t with names } := by
        intro skip _ read
        split <;> rfl
      rw [hkept, hnames]
      by_cases hok : (∀ name ∈ named up line, nameValid name = true) ∧
          (vendorNames p up (lines ++ [line])).length ≤ 32
      · rw [if_pos hok]
        exact ⟨⟨hshort, by simpa [hline] using hrefused, hfields, hok.1⟩, hagrees hok.2⟩
      · rw [if_neg hok]
        exact fun haccepted => hok ⟨haccepted.1.names, haccepted.2⟩

/-- The whole file, line by line. -/
theorem foldlM_scanLine_outcome (h : ScanAgrees p up lines s) (rest : List CText) :
    match rest.foldlM (scanLine p up) s with
    | some t => (∀ line ∈ rest, LineAccepted up line) ∧ ScanAgrees p up (lines ++ rest) t
    | none => ¬ ((∀ line ∈ rest, LineAccepted up line) ∧
        (vendorNames p up (lines ++ rest)).length ≤ 32) := by
  induction rest generalizing lines s with
  | nil => simpa using h
  | cons line rest ih =>
    have hline := scanLine_outcome h line
    rw [List.foldlM_cons]
    cases hscan : scanLine p up s line with
    | none =>
      rw [hscan] at hline
      rintro ⟨hall, hfew⟩
      refine hline ⟨hall line (by simp), ?_⟩
      -- the names so far are among all of them
      obtain ⟨new, hnew⟩ := vendorOf_append (p := p) ((lines ++ [line]).flatMap (named up))
        (rest.flatMap (named up))
      rw [← List.flatMap_append, List.append_assoc, List.singleton_append] at hnew
      rw [vendorNames, hnew, List.length_append] at hfew
      exact (Nat.le_add_right _ _).trans hfew
    | some t =>
      rw [hscan] at hline
      have hrest := ih hline.2
      rw [List.append_assoc, List.singleton_append] at hrest
      simp only [Option.bind_eq_bind, Option.bind_some]
      generalize rest.foldlM (scanLine p up) t = outcome at hrest ⊢
      cases outcome with
      | none => exact fun hok => hrest ⟨fun l hl => hok.1 l (by simp [hl]), hok.2⟩
      | some u => exact ⟨by simpa using ⟨hline.1, hrest.1⟩, hrest.2⟩

theorem scanAgrees_nil (p : Platform) (up : Nat) : ScanAgrees p up []
    {} := ⟨rfl, by simp [vendorNames, vendorOf], rfl, rfl⟩

/-- The scan takes what is accepted, and nothing else. -/
theorem scanInventory_outcome (p : Platform) (up : Nat) (input : CText) :
    match scanInventory p up input with
    | some s => LinesAccepted p up (bootLines input) ∧ ScanAgrees p up (bootLines input) s
    | none => ¬ LinesAccepted p up (bootLines input) := by
  have hscan := foldlM_scanLine_outcome (scanAgrees_nil p up) (bootLines input)
  rw [← scanInventory] at hscan
  cases hinventory : scanInventory p up input with
  | none =>
    rw [hinventory] at hscan
    exact fun haccepted => hscan ⟨haccepted.line, haccepted.few⟩
  | some s =>
    rw [hinventory] at hscan
    exact ⟨⟨hscan.1, hscan.2.few⟩, hscan.2⟩

theorem ScanAgrees.once (h : ScanAgrees p up lines s) :
    bootStaticOnce s = decide (DeclaredOnce p lines) := by
  rw [bootStaticOnce, h.stanzas, h.last, ← Bool.decide_and, decide_eq_decide, DeclaredOnce]
  constructor
  · rintro ⟨hone, hlast⟩
    obtain ⟨fields, hfields⟩ := List.length_eq_one_iff.mp hone
    rw [hfields] at hlast ⊢
    simpa using hlast
  · intro hall
    simp [hall]

end Scan

end FourVrs.Network
