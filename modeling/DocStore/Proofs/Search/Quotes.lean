import DocStore.Proofs.Search.Commas
import DocStore.Proofs.Search.Percent

/-!
# Terms in quotes

Between quotes a blank, a comma and a bracket are escaped, so that they get through the steps after
the scanner, and every other character is left as it is. The escapes of a term are therefore
resolved whether they are its own or come from the quotes: a term without any is literal, and no
other one is.
-/

namespace DocStore.Search

variable {a : Position} {c : Char} {n : Nat} {term text rest others : List Char}
  {group parts texts : List (List Char)}

/-! ## Quoted characters -/

/-- The characters that part terms, groups and options. -/
def separators : List Char := [' ', ',', '(', ')']

theorem quotedChar_of_notMem (hc : c ∉ separators) : quotedChar c = [c] := by
  fun_cases quotedChar c with
  | case5 => rfl
  | _ => exact absurd (by decide) hc

theorem quotedChar_of_mem (hc : c ∈ separators) :
    ∃ high low, quotedChar c = ['%', high, low] ∧
      WrittenBytes (String.utf8EncodeChar c) ['%', high, low] := by
  fun_cases quotedChar c with
  | case1 => exact ⟨_, _, rfl, .cons (.inl (by decide)) (.inl (by decide)) .nil⟩
  | case2 => exact ⟨_, _, rfl, .cons (.inl (by decide)) (.inr (by decide)) .nil⟩
  | case3 => exact ⟨_, _, rfl, .cons (.inl (by decide)) (.inl (by decide)) .nil⟩
  | case4 => exact ⟨_, _, rfl, .cons (.inl (by decide)) (.inl (by decide)) .nil⟩
  | case5 => simp_all [separators]

theorem notMem_separators_of_hexValue? (hvalue : Text.hexValue? c = some n) :
    c ∉ separators ∧ c ≠ '%' := by
  have hnone : ∀ other ∈ '%' :: separators, Text.hexValue? other = none := by
    simp [separators, Text.hexValue?]
  constructor
  · intro hc
    rw [hnone c (List.mem_cons_of_mem _ hc)] at hvalue
    cases hvalue
  · rintro rfl
    cases hvalue

/-- A digit at the beginning of a quoted text is at the beginning of the text. -/
theorem eq_cons_of_quoted (hvalue : Text.hexValue? c = some n)
    (hquoted : text.flatMap quotedChar = c :: others) :
    ∃ rest, text = c :: rest ∧ rest.flatMap quotedChar = others := by
  cases text with
  | nil => simp at hquoted
  | cons first rest =>
      rw [List.flatMap_cons] at hquoted
      by_cases hfirst : first ∈ separators
      · obtain ⟨high, low, hescape, -⟩ := quotedChar_of_mem hfirst
        rw [hescape, List.cons_append] at hquoted
        exact absurd (List.cons.inj hquoted).1.symm (notMem_separators_of_hexValue? hvalue).2
      · rw [quotedChar_of_notMem hfirst, List.singleton_append] at hquoted
        obtain ⟨rfl, hrest⟩ := List.cons.inj hquoted
        exact ⟨rest, rfl, hrest⟩

/-- Quotes begin no escape before a character that is none of theirs. -/
theorem beginsEscape_quoted (hplain : beginsEscape (c :: rest) = false) :
    beginsEscape (c :: rest.flatMap quotedChar) = false := by
  rw [← Bool.not_eq_true, beginsEscape_iff] at hplain ⊢
  rintro ⟨high, low, h, l, others, htext, hhigh, hlow⟩
  obtain ⟨rfl, hdigits⟩ := List.cons.inj htext
  obtain ⟨more, rfl, hmore⟩ := eq_cons_of_quoted hhigh hdigits
  obtain ⟨last, rfl, -⟩ := eq_cons_of_quoted hlow hmore
  exact hplain ⟨high, low, h, l, last, rfl, hhigh, hlow⟩

/-- What the quotes escape is unescaped again, and nothing else happens to a term. -/
theorem decodeBytes_quoted (text : List Char) :
    decodeBytes (Text.encodeUtf8 (text.flatMap quotedChar)) =
      decodeBytes (Text.encodeUtf8 text) := by
  induction text using induction_escapes with
  | nil => rfl
  | escape high low h l rest hhigh hlow ih =>
      have hself : ('%' :: high :: low :: rest).flatMap quotedChar =
          '%' :: high :: low :: rest.flatMap quotedChar := by
        simp [quotedChar_of_notMem (notMem_separators_of_hexValue? hhigh).1,
          quotedChar_of_notMem (notMem_separators_of_hexValue? hlow).1,
          quotedChar_of_notMem (show '%' ∉ separators by decide)]
      have hquoted := decodeBytes_escape hhigh hlow (rest.flatMap quotedChar) []
      have hescape := decodeBytes_escape hhigh hlow rest []
      simp only [List.append_nil] at hquoted hescape
      rw [hself, hquoted, hescape, ih]
  | char c rest hplain ih =>
      rw [decodeBytes_char hplain, List.flatMap_cons, ← ih]
      by_cases hc : c ∈ separators
      · obtain ⟨high, low, hescape, hwritten⟩ := quotedChar_of_mem hc
        rw [hescape, Text.encodeUtf8_append, hwritten.decodeBytes_append, Text.encodeChar_eq]
      · rw [quotedChar_of_notMem hc, List.singleton_append,
          decodeBytes_char (beginsEscape_quoted hplain)]

theorem decodeTerm_quoted (text : List Char) :
    decodeTerm (text.flatMap quotedChar) = decodeTerm text := by
  rw [decodeTerm, decodeBytes_quoted, decodeTerm]

/-! ## Quoted terms -/

/-- A term between quotes. -/
def quotedTerm (term : List Char) : List Char :=
  '"' :: term ++ ['"']

theorem Steps.quoted (hquote : a.quote.isSome = true) (hterm : '"' ∉ term) :
    Steps a term []
      ((a.append (term.flatMap quotedChar)).advance (Text.encodeUtf8 term).length) := by
  induction term generalizing a with
  | nil => simpa [Position.append, Position.advance, Text.encodeUtf8] using Steps.refl
  | cons c term ih =>
      obtain ⟨hc, hterm⟩ := not_or.mp (mt List.mem_cons.mpr hterm)
      have hstep := Step.quoted hquote (Ne.symm hc)
      have hapart : Apart a [c] term := by
        intro hnone
        simp [hnone] at hquote
      have hrest := ih (a := (a.append (quotedChar c)).advance (Text.byteLength c)) hquote hterm
      simpa [Position.append, Position.advance, Text.encodeUtf8, Text.byteLength,
        Nat.add_assoc] using Steps.step hstep hapart hrest

theorem standsFor_quotedTerm (hterm : '"' ∉ term) :
    StandsFor (quotedTerm term) [term.flatMap quotedChar] := by
  intro a hquote hbracket
  have hopened : (a.toggleQuote.advance (Text.byteLength '"')).quote.isSome = true := by
    simp [Position.toggleQuote, Position.advance, hquote]
  have hclose := Step.single (.quote (a := (((a.toggleQuote.advance (Text.byteLength '"')).append
    (term.flatMap quotedChar)).advance (Text.encodeUtf8 term).length)))
  refine ⟨_,
    .step .quote (.of_ne (by decide)) ((Steps.quoted hopened hterm).trans hclose (by simp)), ?_,
    hbracket, Position.texts_append hbracket _⟩
  simp [Position.toggleQuote, Position.advance, Position.append, hquote]

theorem standsFor_quotedGroup (hgroup : group ≠ []) (hterms : ∀ term ∈ group, '"' ∉ term) :
    StandsFor ([' '].intercalate (group.map quotedTerm))
      [[' '].intercalate (group.map fun term => term.flatMap quotedChar)] := by
  induction group with
  | nil => exact absurd rfl hgroup
  | cons term group ih =>
      obtain ⟨hterm, hothers⟩ := List.forall_mem_cons.mp hterms
      cases group with
      | nil => simpa using standsFor_quotedTerm hterm
      | cons other group =>
          have hblank : StandsFor [' '] [[' ']] := standsFor_plain (by simp [marks])
          have hrest := hblank.append (ih (by simp) hothers) (by simp [quotedTerm])
          simpa [List.intercalate_cons_cons, extend, Segment.choices] using
            (standsFor_quotedTerm hterm).append hrest (by simp)

/-! ## Quoted search strings -/

theorem notMem_quoted (text : List Char) : ' ' ∉ text.flatMap quotedChar := by
  intro hmem
  obtain ⟨c, -, hc⟩ := List.mem_flatMap.mp hmem
  by_cases hseparator : c ∈ separators
  · obtain ⟨high, low, hescape, hwritten⟩ := quotedChar_of_mem hseparator
    rw [hescape] at hc
    exact hwritten.unmarked ' ' hc List.mem_cons_self
  · rw [quotedChar_of_notMem hseparator, List.mem_singleton] at hc
    exact hseparator (hc ▸ List.mem_cons_self)

theorem quoted_ne_nil (hterm : term ≠ []) : term.flatMap quotedChar ≠ [] := by
  obtain ⟨c, rest, rfl⟩ := List.exists_cons_of_ne_nil hterm
  rw [List.flatMap_cons]
  apply List.append_ne_nil_of_left_ne_nil
  by_cases hc : c ∈ separators
  · obtain ⟨high, low, hescape, -⟩ := quotedChar_of_mem hc
    simp [hescape]
  · simp [quotedChar_of_notMem hc]

theorem terms_quoted (hterm : term ≠ []) :
    terms (term.flatMap quotedChar) = [decodeTerm term] := by
  rw [terms_of_notMem (notMem_quoted term) (quoted_ne_nil hterm), decodeTerm_quoted]

theorem terms_quotedGroup (hgroup : group ≠ []) (hterms : ∀ term ∈ group, term ≠ []) :
    terms ([' '].intercalate (group.map fun term => term.flatMap quotedChar)) =
      group.map decodeTerm := by
  induction group with
  | nil => exact absurd rfl hgroup
  | cons term group ih =>
      obtain ⟨hterm, hothers⟩ := List.forall_mem_cons.mp hterms
      cases group with
      | nil => simpa using terms_quoted hterm
      | cons other group =>
          have hrest := ih (by simp) hothers
          rw [List.map_cons] at hrest ⊢
          rw [List.map_cons, List.intercalate_cons_cons, List.append_assoc,
            List.singleton_append, terms_append_blank, terms_quoted hterm, hrest]
          rfl

/-- Parts that stand for one text each, with commas between them, are alternatives of their own. -/
theorem scan_intercalate
    (hparts : List.Forall₂ (fun part text => StandsFor part [text]) parts texts)
    (hne : parts ≠ []) :
    ∃ alternatives, scan ([','].intercalate parts) = .ok alternatives ∧
      alternatives.flatMap product = texts := by
  induction hparts with
  | nil => exact absurd rfl hne
  | @cons part text parts texts hpart hothers ih =>
      obtain ⟨segments, hscan, hproduct⟩ := hpart.scan_eq
      cases hothers with
      | nil => exact ⟨[segments], by simpa using hscan, by simp [hproduct]⟩
      | cons =>
          obtain ⟨alternatives, hrest, htexts⟩ := ih (by simp)
          refine ⟨[segments] ++ alternatives, ?_, by simp [hproduct, htexts]⟩
          rw [List.intercalate_cons_cons, List.append_assoc, List.singleton_append,
            scan_append_comma _ hscan, hrest]
          rfl

/-- Groups of terms, each term between quotes. -/
def quoted (groups : List (List String)) : String :=
  ",".intercalate (groups.map fun group =>
    " ".intercalate (group.map fun term => "\"" ++ term ++ "\""))

/-- A term with its percent escapes resolved. -/
def resolved (term : String) : String :=
  String.ofList (decodeTerm term.toList)

theorem resolved_eq_self_iff (term : String) :
    resolved term = term ↔ ¬ HoldsEscape term.toList := by
  rw [← decodeTerm_eq_self_iff, resolved, ← String.toList_inj, String.toList_ofList]

theorem toList_quoted (groups : List (List String)) :
    (quoted groups).toList = [','].intercalate (groups.map fun group =>
      [' '].intercalate ((group.map String.toList).map quotedTerm)) := by
  simp [quoted, quotedTerm, String.toList_intercalate, Function.comp_def]

theorem map_resolved_eq_self_iff (groups : List (List String)) :
    (groups.map fun group => group.map resolved) = groups ↔
      ∀ group ∈ groups, ∀ term ∈ group, ¬ HoldsEscape term.toList := by
  have hgroup (group : List String) :
      group.map resolved = group ↔ ∀ term ∈ group, ¬ HoldsEscape term.toList := by
    induction group with
    | nil => simp
    | cons term rest ih => simp [ih, resolved_eq_self_iff]
  induction groups with
  | nil => simp
  | cons group rest ih => simp [ih, hgroup]

theorem groupsIn_quoted {groups : List (List String)}
    (hterms : ∀ group ∈ groups, group ≠ [] ∧ ∀ term ∈ group, term ≠ "" ∧ '"' ∉ term.toList) :
    groupsIn (groups.map fun group =>
      [' '].intercalate ((group.map String.toList).map fun term => term.flatMap quotedChar)) =
        groups.map fun group => group.map resolved := by
  induction groups with
  | nil => rfl
  | cons group groups ih =>
      obtain ⟨⟨hgroup, hgroupTerms⟩, hothers⟩ := List.forall_mem_cons.mp hterms
      have hread : terms ([' '].intercalate
          ((group.map String.toList).map fun term => term.flatMap quotedChar)) =
            (group.map String.toList).map decodeTerm := by
        apply terms_quotedGroup
        · simpa using hgroup
        · simpa using fun term hterm => (hgroupTerms term hterm).1
      rw [List.map_cons, List.map_cons, ← List.singleton_append, groupsIn_append, ih hothers,
        groupsIn, List.map_singleton, hread]
      simp [hgroup, resolved, Function.comp_def]

/-- Groups of quoted terms are read as these groups with the escapes of the terms resolved, and
hence as they were written exactly if no term holds an escape. -/
theorem quoted_literal_iff (groups : List (List String)) (hgroups : groups ≠ [])
    (hterms : ∀ group ∈ groups, group ≠ [] ∧ ∀ term ∈ group, term ≠ "" ∧ '"' ∉ term.toList) :
    words (quoted groups) = .ok (groups.map fun group => group.map resolved) ∧
      (words (quoted groups) = .ok groups ↔
        ∀ group ∈ groups, ∀ term ∈ group, ¬ HoldsEscape term.toList) := by
  have hparts : List.Forall₂ (fun part text => StandsFor part [text])
      (groups.map fun group => [' '].intercalate ((group.map String.toList).map quotedTerm))
      (groups.map fun group =>
        [' '].intercalate ((group.map String.toList).map fun term => term.flatMap quotedChar)) := by
    rw [List.forall₂_map_left_iff, List.forall₂_map_right_iff, List.forall₂_same]
    intro group hgroup
    obtain ⟨hne, hgroupTerms⟩ := hterms group hgroup
    apply standsFor_quotedGroup
    · simpa using hne
    · simpa using fun term hterm => (hgroupTerms term hterm).2
  obtain ⟨alternatives, hscan, htexts⟩ := scan_intercalate hparts (by simpa using hgroups)
  rw [← toList_quoted] at hscan
  obtain ⟨found, hwords, hfound⟩ := words_of_scan hscan
  rw [htexts, groupsIn_quoted hterms] at hfound
  rw [hwords, eq_of_counted_eq hfound (by simpa using hgroups)]
  refine ⟨rfl, ?_⟩
  rw [Except.ok.injEq, map_resolved_eq_self_iff]

/-- Separators, a star and percent signs that begin no escape, one of them since a blank stands
between its digits, beside a term with an escape. -/
theorem quoted_literal_iff_marks :
    words "\"a b\" \"(x,y)*\",\"100%\" \"%4 1é\"" = .ok [["a b", "(x,y)*"], ["100%", "%4 1é"]] ∧
      words "\"a, %c3%A9\"" = .ok [["a, é"]] ∧ words "\"a, %c3%A9\"" ≠ .ok [["a, %c3%A9"]] := by
  have hliteral := quoted_literal_iff [["a b", "(x,y)*"], ["100%", "%4 1é"]] (by decide) (by decide)
  have hescape := quoted_literal_iff [["a, %c3%A9"]] (by decide) (by decide)
  refine ⟨hliteral.2.mpr (by decide), ?_, mt hescape.2.mp (by decide)⟩
  exact hescape.1.trans (by decide +kernel)

/-- A percent sign that is not escaped by the quotes makes an escape with two digits after it. -/
theorem quoted_escape_resolved :
    (∀ group ∈ [["%41"]], group ≠ [] ∧ ∀ term ∈ group, term ≠ "" ∧ '"' ∉ term.toList) ∧
      quoted [["%41"]] = "\"%41\"" ∧ words (quoted [["%41"]]) = .ok [["A"]] ∧
        words (quoted [["%41"]]) ≠ .ok [["%41"]] := by
  decide +kernel

end DocStore.Search
