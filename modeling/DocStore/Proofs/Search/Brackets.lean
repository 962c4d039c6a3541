import DocStore.Proofs.Search.Expansion
import DocStore.Proofs.Search.Groups
import Mathlib.Data.List.Forall2
import Mathlib.Tactic.Choose

/-!
# Brackets, option by option

A search string with brackets has the groups of the search strings with one of the options
in their place, and with a star after them those of the string without them as well. The
texts before and after may have brackets and quotes of their own, and an escape may begin
before the brackets and end in them or after them.
-/

namespace DocStore.Search

variable {choices partials others : List (List Char)} {raw before after part option : String}
  {options : List String}

theorem StandsFor.words_eq (hpart : StandsFor raw.toList choices) :
    ∃ found, words raw = .ok found ∧ counted found = groupsIn choices := by
  obtain ⟨segments, hscan, rfl⟩ := hpart.scan_eq
  simpa using words_of_scan hscan

/-! ## Texts around options -/

/-- The texts of options with texts before and after them. -/
def around (partials others options : List (List Char)) : List (List Char) :=
  extend partials (.options (extend options (.options others)))

theorem groupsIn_around_perm (partials others options : List (List Char)) :
    (groupsIn (around partials others options)).Perm
      (options.flatMap fun option => groupsIn (around partials others [option])) := by
  rw [← groupsIn_flatMap]
  exact groupsIn_perm (extend_options_perm partials options others)

theorem StandsFor.words_around (hbefore : StandsFor before.toList partials)
    (hpart : StandsFor part.toList choices) (hafter : StandsFor after.toList others)
    (hhead : part.toList.head? ≠ some '*') (hstar : after.toList.head? ≠ some '*') :
    ∃ found, words (before ++ part ++ after) = .ok found ∧
      counted found = groupsIn (around partials others choices) := by
  have hrest : (part.toList ++ after.toList).head? ≠ some '*' := by
    cases hpart : part.toList with
    | nil => exact hstar
    | cons c rest => rwa [hpart] at hhead
  apply StandsFor.words_eq
  rw [String.toList_append, String.toList_append, List.append_assoc]
  exact hbefore.append (hpart.append hafter hstar) hrest

/-- Options in brackets. -/
def bracketed (options : List String) : String :=
  "(" ++ ",".intercalate options ++ ")"

theorem toList_bracketed (options : List String) (optional : Bool) :
    (bracketed options ++ if optional then "*" else "").toList =
      '(' :: ([','].intercalate (options.map String.toList) ++ closing optional) := by
  cases optional <;> simp [bracketed, closing, String.toList_intercalate]

theorem StandsFor.words_option (hbefore : StandsFor before.toList partials)
    (hafter : StandsFor after.toList others) (hstar : after.toList.head? ≠ some '*')
    (hplain : ∀ c ∈ option.toList, c ∉ marks) :
    ∃ found, words (before ++ option ++ after) = .ok found ∧
      counted found = groupsIn (around partials others [option.toList]) := by
  refine hbefore.words_around (standsFor_plain hplain) hafter ?_ hstar
  intro hhead
  exact hplain '*' (List.mem_of_head? hhead) (by decide)

theorem StandsFor.words_brackets (hbefore : StandsFor before.toList partials)
    (hafter : StandsFor after.toList others) (hstar : after.toList.head? ≠ some '*')
    (hoptions : options ≠ []) (hplain : ∀ option ∈ options, ∀ c ∈ option.toList, c ∉ marks)
    (optional : Bool) :
    ∃ found,
      words (before ++ (bracketed options ++ if optional then "*" else "") ++ after) = .ok found ∧
      counted found = groupsIn (around partials others
        (options.map String.toList ++ if optional then [[]] else [])) := by
  refine hbefore.words_around ?_ hafter ?_ hstar
  · rw [toList_bracketed]
    exact standsFor_brackets (by simpa using hoptions) (by simpa using hplain) optional
  · rw [toList_bracketed]
    simp

/-- A search string with brackets has the groups of the search strings with one of the
options in their place. A star after the brackets adds those of the string without them. -/
theorem brackets_expand (before after : String) (options : List String)
    (hbefore : (words before).isOk = true) (hafter : (words after).isOk = true)
    (hcommas : outerCommas false false before.toList = 0)
    (hcommas' : outerCommas false false after.toList = 0)
    (hstar : after.toList.head? ≠ some '*') (hoptions : options ≠ [])
    (hplain : ∀ option ∈ options, ∀ c ∈ option.toList, c ∉ marks) :
    ∃ each found optional without,
      List.Forall₂ (fun option groups => words (before ++ option ++ after) = .ok groups)
        options each ∧
      words (before ++ bracketed options ++ after) = .ok found ∧
      (counted found).Perm (each.flatMap counted) ∧
      words (before ++ after) = .ok without ∧
      words (before ++ bracketed options ++ "*" ++ after) = .ok optional ∧
      (counted optional).Perm (each.flatMap counted ++ counted without) := by
  obtain ⟨_, hscan⟩ := scan_of_words hbefore
  obtain ⟨_, hscan'⟩ := scan_of_words hafter
  obtain ⟨segments, _, hbefore⟩ := standsFor_of_scan hscan hcommas
  obtain ⟨segments', _, hafter⟩ := standsFor_of_scan hscan' hcommas'
  -- The texts of the whole string are those of the brackets between those two lists of texts.
  generalize product segments = partials at hbefore
  generalize product segments' = others at hafter
  choose! each heach hcounted using fun option hmem =>
    hbefore.words_option hafter hstar (hplain option hmem)
  obtain ⟨found, hfound, hfoundIn⟩ :=
    hbefore.words_brackets hafter hstar hoptions hplain false
  obtain ⟨optional, hoptional, hoptionalIn⟩ :=
    hbefore.words_brackets hafter hstar hoptions hplain true
  have hempty : ∀ c ∈ "".toList, c ∉ marks := by simp
  obtain ⟨without, hwithout, hwithoutIn⟩ := hbefore.words_option hafter hstar hempty
  have hparts : (options.map String.toList).flatMap
      (fun option => groupsIn (around partials others [option])) =
      (options.map each).flatMap counted := by
    rw [List.flatMap_map, List.flatMap_map]
    exact List.flatMap_congr fun option hmem => (hcounted option hmem).symm
  refine ⟨options.map each, found, optional, without, ?_, ?_, ?_, ?_, ?_, ?_⟩
  · exact List.forall₂_map_right_iff.mpr (List.forall₂_same.mpr heach)
  · simpa using hfound
  · rw [hfoundIn, ← hparts]
    simpa using groupsIn_around_perm partials others (options.map String.toList)
  · simpa using hwithout
  · simpa [String.append_assoc] using hoptional
  · have hperm := groupsIn_around_perm partials others (options.map String.toList ++ [[]])
    rw [List.flatMap_append, hparts] at hperm
    rw [hoptionalIn, hwithoutIn]
    simpa using hperm

/-- The groups of a text with nothing in the place of its brackets: the text behind them completes
an escape. -/
def escapeGroups : List (List String) :=
  [["xéa ", "gh"], ["xf,a ", "gh"], ["xéa ", "h"], ["xf,a ", "h"]]

/-- The groups with a digit in the place of the brackets, which completes the escape. -/
def digitGroups : List (List String) :=
  [["xéa 0", "gh"], ["xf,a 0", "gh"], ["xéa 0", "h"], ["xf,a 0", "h"]]

/-- The groups with a letter that completes the escape and the beginning of another word. -/
def letterGroups : List (List String) :=
  [["xéa,", "b0", "gh"], ["xf,a,", "b0", "gh"], ["xéa,", "b0", "h"], ["xf,a,", "b0", "h"]]

/-- The groups with these three options in brackets. -/
def bracketGroups : List (List String) :=
  [["xéa ", "gh"], ["xf,a ", "gh"], ["xéa 0", "gh"], ["xf,a 0", "gh"], ["xéa,", "b0", "gh"],
    ["xf,a,", "b0", "gh"], ["xéa ", "h"], ["xf,a ", "h"], ["xéa 0", "h"], ["xf,a 0", "h"],
    ["xéa,", "b0", "h"], ["xf,a,", "b0", "h"]]

/-- The groups with the options in brackets and a star after them. -/
def starGroups : List (List String) :=
  [["xéa ", "gh"], ["xf,a ", "gh"], ["xéa 0", "gh"], ["xf,a 0", "gh"], ["xéa,", "b0", "gh"],
    ["xf,a,", "b0", "gh"], ["xéa ", "gh"], ["xf,a ", "gh"], ["xéa ", "h"], ["xf,a ", "h"],
    ["xéa 0", "h"], ["xf,a 0", "h"], ["xéa,", "b0", "h"], ["xf,a,", "b0", "h"], ["xéa ", "h"],
    ["xf,a ", "h"]]

/-- An escape that begins before the brackets, with options that complete it and an empty
one, between texts with brackets, a quote and a star of their own. -/
theorem brackets_expand_escape :
    words ("x(é,\"f,\")a%2" ++ bracketed ["", "0", "C b"] ++ "0 (g)*h") = .ok bracketGroups ∧
      bracketGroups.Perm (escapeGroups ++ (digitGroups ++ letterGroups)) ∧
      words ("x(é,\"f,\")a%2" ++ bracketed ["", "0", "C b"] ++ "*" ++ "0 (g)*h") =
        .ok starGroups ∧
      starGroups.Perm (escapeGroups ++ (digitGroups ++ letterGroups) ++ escapeGroups) := by
  have hescape : words ("x(é,\"f,\")a%2" ++ "" ++ "0 (g)*h") = .ok escapeGroups := by
    decide +kernel
  have hdigit : words ("x(é,\"f,\")a%2" ++ "0" ++ "0 (g)*h") = .ok digitGroups := by
    decide +kernel
  have hletter : words ("x(é,\"f,\")a%2" ++ "C b" ++ "0 (g)*h") = .ok letterGroups := by
    decide +kernel
  have hbracket : words ("x(é,\"f,\")a%2" ++ bracketed ["", "0", "C b"] ++ "0 (g)*h") =
      .ok bracketGroups := by
    decide +kernel
  have hstar : words ("x(é,\"f,\")a%2" ++ bracketed ["", "0", "C b"] ++ "*" ++ "0 (g)*h") =
      .ok starGroups := by
    decide +kernel
  obtain ⟨each, found, optional, without, heach, hfound, hperm, hwithout, hoptional, hpermStar⟩ :=
    brackets_expand "x(é,\"f,\")a%2" "0 (g)*h" ["", "0", "C b"] (by decide +kernel)
      (by decide +kernel) (by decide +kernel) (by decide +kernel) (by decide +kernel) (by decide)
      (by simp [marks])
  obtain rfl : bracketGroups = found := Except.ok.inj (hbracket.symm.trans hfound)
  obtain rfl : starGroups = optional := Except.ok.inj (hstar.symm.trans hoptional)
  obtain rfl : escapeGroups = without := Except.ok.inj (hescape.symm.trans hwithout)
  obtain _ | ⟨hfirst, _ | ⟨hsecond, _ | ⟨hthird, _ | _⟩⟩⟩ := heach
  obtain rfl := Except.ok.inj (hescape.symm.trans hfirst)
  obtain rfl := Except.ok.inj (hdigit.symm.trans hsecond)
  obtain rfl := Except.ok.inj (hletter.symm.trans hthird)
  exact ⟨hbracket, hperm, hstar, hpermStar⟩

end DocStore.Search
