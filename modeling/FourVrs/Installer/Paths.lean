import Mathlib.Data.List.Infix
import FourVrs.Config.CText
import FourVrs.Installer.Files
import FourVrs.Lib.Words

/-!
# Paths below the root (`install_path` of `installer/install_files.c`)

The installer is given paths relative to a root, among them those of a journal it finds. It refuses
a dozen shapes of text one by one; together they leave the paths whose components are all plain
names (`installPath_iff`).
-/

set_option autoImplicit false

namespace FourVrs.Installer

open Config Lib

/-! ## The checks -/

/-- A letter, a digit or one of `/._-`. -/
def relativeByte (b : UInt8) : Bool :=
  (decide (97 ≤ b) && decide (b ≤ 122)) || (decide (65 ≤ b) && decide (b ≤ 90)) ||
    (decide (48 ≤ b) && decide (b ≤ 57)) || decide (b ∈ Config.text "/._-")

def slash : UInt8 := ascii '/'

/-- The shapes that are refused. -/
def escapes (rel : List UInt8) : Bool :=
  decide (rel = Config.text ".") || decide (rel = Config.text "..") ||
    decide (Config.text "//" <:+: rel) || decide (Config.text "/../" <:+: rel) ||
    decide (Config.text "/./" <:+: rel) || decide (Config.text "../" <+: rel) ||
    decide (Config.text "./" <+: rel) || decide (rel.getLast? = some slash) ||
    decide (Config.text "/.." <:+ rel) || decide (Config.text "/." <:+ rel)

/-- The loop over the slashes behind the root; `before` is the path so far. -/
def parentsTrusted (trusted : List UInt8 → Bool) : List UInt8 → List UInt8 → Bool
  | _, [] => true
  | before, b :: rest =>
      (decide (b ≠ slash) || trusted before) && parentsTrusted trusted (before ++ [b]) rest

/-- `install_path`; `trusted` is what `trusted_directory` finds. -/
def installPath (trusted : List UInt8 → Bool) (root rel : CString) : Option (List UInt8) :=
  if root.bytes.head? ≠ some slash ∨ rel.bytes = [] ∨ rel.bytes.head? = some slash ∨
      rel.length > installPathLimit then none
  else if root.length + rel.length + 2 ≥ 1024 ∨ trusted root.bytes = false then none
  else if (rel.bytes.all relativeByte) = false then none
  else if escapes rel.bytes = true then none
  else
    let start := root.bytes ++ if root.length = 1 then [] else [slash]
    if parentsTrusted trusted start rel.bytes then some (start ++ rel.bytes) else none

/-! ## Components -/

def components (rel : List UInt8) : List (List UInt8) := rel.splitOn slash

/-- A name that is neither the directory itself nor the one above. -/
structure PlainComponent (name : List UInt8) : Prop where
  nonempty : name ≠ []
  here : name ≠ Config.text "."
  above : name ≠ Config.text ".."

structure PlainRelative (rel : CString) : Prop where
  nonempty : rel.bytes ≠ []
  short : rel.length ≤ installPathLimit
  bytes : ∀ b ∈ rel.bytes, relativeByte b = true
  components : ∀ name ∈ components rel.bytes, PlainComponent name

/-- Names below a root, each behind a slash. -/
def below (root : List UInt8) (names : List (List UInt8)) : List UInt8 :=
  (if root = [slash] then [] else root) ++ names.flatMap (slash :: ·)

/-- The directories a path goes through. -/
def Through (root : List UInt8) (names : List (List UInt8)) (dir : List UInt8) : Prop :=
  dir = root ∨ ∃ front back, front ≠ [] ∧ back ≠ [] ∧ names = front ++ back ∧ dir = below root front

/-! ## The refused shapes are the bad components -/

theorem nil_mem_components {rel : List UInt8} :
    [] ∈ components rel ↔ rel = [] ∨ rel.head? = some slash ∨ rel.getLast? = some slash ∨
      Config.text "//" <:+: rel := by
  have hhead : [] ++ [slash] <+: rel ↔ rel.head? = some slash := by
    cases rel with
    | nil => simp
    | cons b rest => simp [eq_comm]
  have hlast : slash :: [] <:+ rel ↔ rel.getLast? = some slash := by
    rw [List.getLast?_eq_some_iff]
    constructor
    · rintro ⟨front, rfl⟩
      exact ⟨front, rfl⟩
    · rintro ⟨front, rfl⟩
      exact ⟨front, rfl⟩
  have hdouble : slash :: [] ++ [slash] = Config.text "//" := by decide
  rw [components, mem_splitOn_iff (by simp), hhead, hlast, hdouble]

/-- A path that begins with a name has no bad component exactly when no shape is refused. -/
theorem plainComponents_iff {rel : List UInt8} (hne : rel ≠ []) (hhead : rel.head? ≠ some slash) :
    (∀ name ∈ components rel, PlainComponent name) ↔ escapes rel = false := by
  have hdot : slash ∉ Config.text "." := by decide
  have hdots : slash ∉ Config.text ".." := by decide
  have hone := mem_splitOn_iff hdot rel
  have htwo := mem_splitOn_iff hdots rel
  have hnone := @nil_mem_components rel
  rw [← components] at hone htwo
  have hbad : (∀ name ∈ components rel, PlainComponent name) ↔
      [] ∉ components rel ∧ Config.text "." ∉ components rel ∧ Config.text ".." ∉ components rel := by
    constructor
    · intro h
      exact ⟨fun hmem => (h _ hmem).nonempty rfl, fun hmem => (h _ hmem).here rfl,
        fun hmem => (h _ hmem).above rfl⟩
    · rintro ⟨hempty, hhere, habove⟩ name hname
      exact ⟨fun heq => hempty (heq ▸ hname), fun heq => hhere (heq ▸ hname),
        fun heq => habove (heq ▸ hname)⟩
  rw [hbad, hone, htwo, hnone]
  unfold escapes
  have hshapes : Config.text "." ++ [slash] = Config.text "./" ∧
      slash :: Config.text "." = Config.text "/." ∧
      slash :: Config.text "." ++ [slash] = Config.text "/./" ∧
      Config.text ".." ++ [slash] = Config.text "../" ∧
      slash :: Config.text ".." = Config.text "/.." ∧
      slash :: Config.text ".." ++ [slash] = Config.text "/../" := by decide
  obtain ⟨h₁, h₂, h₃, h₄, h₅, h₆⟩ := hshapes
  rw [h₁, h₃, h₂, h₄, h₆, h₅]
  simp only [Bool.or_eq_false_iff, decide_eq_false_iff_not, not_or]
  constructor
  · rintro ⟨⟨-, -, hlast, hdouble⟩, ⟨hsole, hfront, hback, hinner⟩, ⟨hsole', hfront', hback', hinner'⟩⟩
    exact ⟨⟨⟨⟨⟨⟨⟨⟨⟨hsole, hsole'⟩, hdouble⟩, hinner'⟩, hinner⟩, hfront'⟩, hfront⟩, hlast⟩, hback'⟩, hback⟩
  · rintro ⟨⟨⟨⟨⟨⟨⟨⟨⟨hsole, hsole'⟩, hdouble⟩, hinner'⟩, hinner⟩, hfront'⟩, hfront⟩, hlast⟩, hback'⟩, hback⟩
    exact ⟨⟨hne, hhead, hlast, hdouble⟩, ⟨hsole, hfront, hback, hinner⟩, ⟨hsole', hfront', hback', hinner'⟩⟩

/-! ## The parents -/

/-- The loop asks for what stands before each slash. -/
theorem parentsTrusted_iff {trusted : List UInt8 → Bool} {before rel : List UInt8} :
    parentsTrusted trusted before rel = true ↔
      ∀ front back, rel = front ++ slash :: back → trusted (before ++ front) = true := by
  induction rel generalizing before with
  | nil => simp [parentsTrusted]
  | cons b rest ih =>
    rw [parentsTrusted, Bool.and_eq_true, ih]
    constructor
    · rintro ⟨hb, hrest⟩ front back hsplit
      cases front with
      | nil =>
        obtain ⟨rfl, -⟩ := List.cons.inj hsplit
        simpa using hb
      | cons c front =>
        obtain ⟨rfl, htail⟩ := List.cons.inj hsplit
        have htrust := hrest front back htail
        rwa [List.append_assoc, List.singleton_append] at htrust
    · intro hall
      constructor
      · by_cases hslash : b = slash
        · have htrust := hall [] rest (by rw [hslash]; rfl)
          simpa [hslash] using htrust
        · simp [hslash]
      · intro front back hsplit
        have htrust := hall (b :: front) back (by rw [hsplit]; rfl)
        rwa [List.append_assoc, List.singleton_append]

/-- What the loop starts with, and a slash. -/
theorem start_append (root : CString) (hroot : root.bytes.head? = some slash) (rel : List UInt8) :
    (root.bytes ++ if root.length = 1 then [] else [slash]) ++ rel = below root.bytes (components rel) := by
  have hone : root.length = 1 ↔ root.bytes = [slash] := by
    rw [CString.length, List.length_eq_one_iff]
    constructor
    · rintro ⟨b, hb⟩
      rw [hb] at hroot ⊢
      simpa using hroot
    · exact fun h => ⟨slash, h⟩
  rw [below, components, ← cons_eq_flatMap_splitOn]
  by_cases h : root.length = 1
  · rw [if_pos h, if_pos (hone.mp h), hone.mp h]
    rfl
  · rw [if_neg h, if_neg fun heq => h (hone.mpr heq)]
    simp

/-- The parents of a path are its components, one after the other. -/
theorem parents_iff {trusted : List UInt8 → Bool} (root : CString)
    (hroot : root.bytes.head? = some slash) (rel : List UInt8) :
    parentsTrusted trusted (root.bytes ++ if root.length = 1 then [] else [slash]) rel = true ↔
      ∀ front back, front ≠ [] → back ≠ [] → components rel = front ++ back →
        trusted (below root.bytes front) = true := by
  rw [parentsTrusted_iff]
  constructor
  · intro h front back hfront hback hsplit
    have hall : slash :: rel = (rel.splitOn slash).flatMap (slash :: ·) :=
      cons_eq_flatMap_splitOn rel
    rw [← components, hsplit, List.flatMap_append] at hall
    -- both parts begin with a slash
    obtain ⟨first, front, rfl⟩ := List.exists_cons_of_ne_nil hfront
    obtain ⟨next, back, rfl⟩ := List.exists_cons_of_ne_nil hback
    have htrust := h (first ++ front.flatMap (slash :: ·)) (next ++ back.flatMap (slash :: ·)) (by
      simpa using hall)
    have hcomponents : below root.bytes (components (first ++ front.flatMap (slash :: ·))) =
        below root.bytes (first :: front) := by
      rw [below, below, components, ← cons_eq_flatMap_splitOn]
      rfl
    rwa [start_append root hroot, hcomponents] at htrust
  · rintro h front back rfl
    rw [start_append root hroot]
    refine h (components front) (components back) ?_ ?_ ?_
    · exact List.splitOn_ne_nil _ _
    · exact List.splitOn_ne_nil _ _
    · exact List.splitOn_append_cons_self front back

/-- **Paths stay below the root.** -/
theorem installPath_iff (trusted : List UInt8 → Bool) (root rel : CString) (out : List UInt8) :
    installPath trusted root rel = some out ↔
      root.bytes.head? = some slash ∧ root.length + rel.length + 2 < 1024 ∧ PlainRelative rel ∧
        (∀ dir, Through root.bytes (components rel.bytes) dir → trusted dir = true) ∧
        out = below root.bytes (components rel.bytes) := by
  unfold installPath
  -- each check of the source refuses a path that the right side excludes
  by_cases hroot : root.bytes.head? = some slash
  swap
  · rw [if_pos (.inl hroot)]
    simp [hroot]
  by_cases hne : rel.bytes = []
  · rw [if_pos (.inr (.inl hne))]
    simp only [reduceCtorEq, false_iff]
    rintro ⟨-, -, hplain, -⟩
    exact hplain.nonempty hne
  by_cases hhead : rel.bytes.head? = some slash
  · rw [if_pos (.inr (.inr (.inl hhead)))]
    simp only [reduceCtorEq, false_iff]
    rintro ⟨-, -, hplain, -⟩
    exact (hplain.components [] (nil_mem_components.mpr (.inr (.inl hhead)))).nonempty rfl
  by_cases hlong : rel.length > installPathLimit
  · rw [if_pos (.inr (.inr (.inr hlong)))]
    simp only [reduceCtorEq, false_iff]
    rintro ⟨-, -, hplain, -⟩
    exact absurd hplain.short (by omega)
  rw [if_neg (by simp only [not_or]; exact ⟨not_not.mpr hroot, hne, hhead, hlong⟩)]
  by_cases hfits : root.length + rel.length + 2 ≥ 1024
  · rw [if_pos (.inl hfits)]
    simp only [reduceCtorEq, false_iff]
    rintro ⟨-, hshort, -⟩
    omega
  cases htrust : trusted root.bytes with
  | false =>
    rw [if_pos (.inr rfl)]
    simp only [reduceCtorEq, false_iff]
    rintro ⟨-, -, -, hall, -⟩
    rw [hall root.bytes (.inl rfl)] at htrust
    cases htrust
  | true =>
    rw [if_neg (by simpa using hfits)]
    cases hbytes : rel.bytes.all relativeByte with
    | false =>
      rw [if_pos rfl]
      simp only [reduceCtorEq, false_iff]
      rintro ⟨-, -, hplain, -⟩
      rw [List.all_eq_true.mpr hplain.bytes] at hbytes
      cases hbytes
    | true =>
      rw [if_neg (by simp)]
      have hshapes := plainComponents_iff hne hhead
      cases hescapes : escapes rel.bytes with
      | true =>
        rw [if_pos rfl]
        simp only [reduceCtorEq, false_iff]
        rintro ⟨-, -, hplain, -⟩
        rw [hshapes.mp hplain.components] at hescapes
        cases hescapes
      | false =>
        rw [if_neg (by simp)]
        -- all of its own checks passed; what is left is the trust in the directories above
        have hplain : PlainRelative rel :=
          ⟨hne, by omega, List.all_eq_true.mp hbytes, hshapes.mpr hescapes⟩
        have hparents := @parents_iff trusted root hroot rel.bytes
        have hthrough : (∀ dir, Through root.bytes (components rel.bytes) dir → trusted dir = true) ↔
            ∀ front back, front ≠ [] → back ≠ [] → components rel.bytes = front ++ back →
              trusted (below root.bytes front) = true := by
          constructor
          · exact fun h front back hfront hback hsplit =>
              h _ (.inr ⟨front, back, hfront, hback, hsplit, rfl⟩)
          · rintro h dir (rfl | ⟨front, back, hfront, hback, hsplit, rfl⟩)
            · exact htrust
            · exact h front back hfront hback hsplit
        rw [hthrough, ← hparents]
        simp only
        rw [start_append root hroot]
        by_cases hok : parentsTrusted trusted
            (root.bytes ++ if root.length = 1 then [] else [slash]) rel.bytes = true
        · rw [if_pos hok, Option.some.injEq]
          constructor
          · exact fun h => ⟨hroot, by omega, hplain, hok, h.symm⟩
          · exact fun h => h.2.2.2.2.symm
        · rw [if_neg hok]
          simp only [reduceCtorEq, false_iff]
          rintro ⟨-, -, -, hall, -⟩
          exact hok hall

example : (installPath (fun _ => true) ⟨Config.text "/etc", by decide +kernel⟩
    ⟨Config.text "a/..b/.c", by decide +kernel⟩) = some (Config.text "/etc/a/..b/.c") := by
  decide +kernel

end FourVrs.Installer
