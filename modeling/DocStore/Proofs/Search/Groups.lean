import DocStore.Search.Basic
import DocStore.Proofs.Search.Expansion
import DocStore.Proofs.Text.Parts
import DocStore.Proofs.Text.Utf8
import Mathlib.Data.List.Perm.Basic

/-!
# Terms and groups of texts

A blank parts the terms of a text. A search string has the groups of terms of the texts that
its alternatives stand for, in their order, apart from texts without terms.
-/

namespace DocStore

namespace Search

variable {text : List Char} {alternatives : List (List Segment)} {raw : String}
  {found groups : List (List String)}

/-! ## Terms -/

/-- The terms before and after a blank are those of the text. -/
theorem terms_append_blank (text rest : List Char) :
    terms (text ++ ' ' :: rest) = terms text ++ terms rest := by
  rw [terms, Text.split_append, List.filter_append, List.map_append]
  rfl

theorem terms_of_notMem (htext : ' ' ∉ text) (hne : text ≠ []) :
    terms text = [decodeTerm text] := by
  rw [terms, Text.split_of_notMem htext]
  simp [hne]

theorem terms_blanks_append (blanks : Nat) (text : List Char) :
    terms (List.replicate blanks ' ' ++ text) = terms text := by
  induction blanks with
  | zero => rfl
  | succ blanks ih =>
      rw [List.replicate_succ, List.cons_append]
      exact (terms_append_blank [] _).trans ih

/-! ## Terms that are not empty -/

theorem decodeBytes_ne_nil {bytes : List UInt8} (hbytes : bytes ≠ []) :
    decodeBytes bytes ≠ [] := by
  fun_cases decodeBytes bytes <;> simp_all

/-- Resolving escapes leaves no term empty. -/
theorem decodeTerm_ne_nil (hne : text ≠ []) : decodeTerm text ≠ [] := by
  obtain ⟨c, rest, rfl⟩ := List.exists_cons_of_ne_nil hne
  have hbytes : Text.encodeUtf8 (c :: rest) ≠ [] := by
    rw [Text.encodeUtf8, List.flatMap_cons]
    exact List.append_ne_nil_of_left_ne_nil (Text.encodeChar_ne_nil c) _
  obtain ⟨byte, bytes, hdecoded⟩ := List.exists_cons_of_ne_nil (decodeBytes_ne_nil hbytes)
  rw [decodeTerm, hdecoded, Text.decodeLossy, Text.decodeFrom]
  exact List.cons_ne_nil _ _

theorem ne_nil_of_mem_terms {term : List Char} (hterm : term ∈ terms text) : term ≠ [] := by
  obtain ⟨part, hpart, rfl⟩ := List.mem_map.mp hterm
  have hne : part ≠ [] := by simpa using (List.mem_filter.mp hpart).2
  exact decodeTerm_ne_nil hne

/-! ## Groups -/

/-- The groups that count. The single empty group of a string without terms counts for
none. -/
def counted (found : List (List String)) : List (List String) :=
  if found = [[]] then [] else found

/-- The groups of the texts that alternatives stand for. -/
def groupsIn (texts : List (List Char)) : List (List String) :=
  ((texts.map terms).filter fun group => !group.isEmpty).map fun group => group.map String.ofList

theorem groupsIn_perm {texts others : List (List Char)} (hperm : texts.Perm others) :
    (groupsIn texts).Perm (groupsIn others) :=
  ((hperm.map terms).filter _).map _

theorem groupsIn_append (texts others : List (List Char)) :
    groupsIn (texts ++ others) = groupsIn texts ++ groupsIn others := by
  simp [groupsIn]

theorem groupsIn_flatMap {α : Type} (items : List α) (texts : α → List (List Char)) :
    groupsIn (items.flatMap texts) = items.flatMap fun item => groupsIn (texts item) := by
  simp [groupsIn, List.map_flatMap, List.filter_flatMap]

/-- An alternative without segments expands to nothing and has the empty text for its product,
which has no groups either. -/
theorem groupsIn_expand {segments : List Segment} (hsegments : Choosable segments) :
    groupsIn (expand segments) = groupsIn (product segments) := by
  cases segments with
  | nil => rfl
  | cons first rest => rw [expand_eq_product (List.cons_ne_nil first rest) hsegments]

/-- A search string is accepted if it can be scanned, with the groups of its alternatives. -/
theorem words_of_scan (hscan : scan raw.toList = .ok alternatives) :
    ∃ found, words raw = .ok found ∧ counted found = groupsIn (alternatives.flatMap product) := by
  have hgroups : groupsIn (alternatives.flatMap product) =
      (groupsOf alternatives).map fun group => group.map String.ofList := by
    calc groupsIn (alternatives.flatMap product)
        = alternatives.flatMap fun segments => groupsIn (product segments) := groupsIn_flatMap ..
      _ = alternatives.flatMap fun segments => groupsIn (expand segments) := by
          apply List.flatMap_congr
          intro segments hmem
          exact (groupsIn_expand (choosable_of_scan hscan segments hmem)).symm
      _ = groupsIn (alternatives.flatMap expand) := (groupsIn_flatMap ..).symm
  rw [words, groups, hscan, hgroups]
  simp only [Except.map]
  cases hfound : groupsOf alternatives with
  | nil => exact ⟨_, rfl, rfl⟩
  | cons group others =>
      -- Groups without terms are dropped, so that a first group is not empty.
      refine ⟨_, rfl, if_neg ?_⟩
      intro hempty
      have hgroup : group = [] := by simpa using (List.cons.inj hempty).1
      have hmem : group ∈ groupsOf alternatives := by simp [hfound]
      simp [groupsOf, hgroup] at hmem

theorem scan_of_words (hwords : (words raw).isOk = true) :
    ∃ alternatives, scan raw.toList = .ok alternatives := by
  unfold words groups at hwords
  cases hscan : scan raw.toList with
  | ok alternatives => exact ⟨alternatives, rfl⟩
  | error fault => simp [hscan, Except.map, Except.isOk, Except.toBool] at hwords

theorem exists_scan_of_words (hwords : words raw = .ok found) :
    ∃ alternatives, scan raw.toList = .ok alternatives ∧
      counted found = groupsIn (alternatives.flatMap product) := by
  have hok : (words raw).isOk = true := by
    rw [hwords]
    rfl
  obtain ⟨alternatives, hscan⟩ := scan_of_words hok
  obtain ⟨other, hother, hcounted⟩ := words_of_scan hscan
  obtain rfl : found = other := Except.ok.inj (hwords.symm.trans hother)
  exact ⟨alternatives, hscan, hcounted⟩

theorem words_eq_error_iff {fault : SearchFault} :
    words raw = .error fault ↔ scan raw.toList = .error fault := by
  unfold words groups
  cases scan raw.toList <;> simp [Except.map]

/-- A search string without any term has a single empty group; the groups of any other one hold
terms, and none of these is empty. -/
theorem shape_of_words (hwords : words raw = .ok found) :
    found = [[]] ∨
      found ≠ [] ∧ ∀ group ∈ found, group ≠ [] ∧ ∀ term ∈ group, term ≠ "" := by
  unfold words groups at hwords
  cases hscan : scan raw.toList with
  | error fault => simp [hscan, Except.map] at hwords
  | ok alternatives =>
      simp only [hscan, Except.map, Except.ok.injEq] at hwords
      split at hwords
      next =>
        left
        simpa using hwords.symm
      next others hothers =>
        right
        subst hwords
        refine ⟨fun hnil => hothers (List.map_eq_nil_iff.mp hnil), ?_⟩
        intro group hgroup
        obtain ⟨chars, hchars, rfl⟩ := List.mem_map.mp hgroup
        obtain ⟨hfound, hne⟩ := List.mem_filter.mp hchars
        obtain ⟨text, _, rfl⟩ := List.mem_map.mp hfound
        refine ⟨by simpa using hne, ?_⟩
        intro term hterm
        obtain ⟨letters, hletters, rfl⟩ := List.mem_map.mp hterm
        simpa using ne_nil_of_mem_terms hletters

/-- Groups that count are the groups that were found. -/
theorem eq_of_counted_eq (hcounted : counted found = groups) (hgroups : groups ≠ []) :
    found = groups := by
  unfold counted at hcounted
  split at hcounted
  · exact absurd hcounted.symm hgroups
  · exact hcounted

/-- Groups as they are shown: where there is none, a single empty one. -/
def shown (groups : List (List String)) : List (List String) :=
  if groups = [] then [[]] else groups

/-- What is shown for the groups that count is what was found. -/
theorem shown_counted (hwords : words raw = .ok found) : shown (counted found) = found := by
  rcases shape_of_words hwords with rfl | ⟨hne, hgroups⟩
  · rfl
  · have hsome : found ≠ [[]] := by
      rintro rfl
      exact (hgroups [] List.mem_cons_self).1 rfl
    rw [counted, if_neg hsome, shown, if_neg hne]

end Search

end DocStore
