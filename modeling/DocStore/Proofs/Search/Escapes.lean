import DocStore.Proofs.Search.Expansion
import DocStore.Proofs.Search.Groups
import DocStore.Proofs.Text.Utf8

/-!
# Written search strings

A list of groups of terms is written as a search string with each character as itself or as
percent escapes of its bytes, and however it is written, the string means these groups. The
scanner finds the groups because nothing in a written term has a meaning of its own, and
escapes are resolved last, so that no blank that they stand for parts a term.
-/

namespace DocStore.Search

/-! ## Writing -/

/-- A hexadecimal digit, in either case. -/
def IsHexDigit (n : Nat) (digit : Char) : Prop :=
  digit = Text.hexDigit n ∨ digit = (Text.hexDigit n).toUpper

/-- Bytes are written as percent escapes. -/
inductive WrittenBytes : List UInt8 → List Char → Prop
  | nil : WrittenBytes [] []
  | cons {byte bytes high low text} (hhigh : IsHexDigit (byte.toNat / 16) high)
      (hlow : IsHexDigit (byte.toNat % 16) low) (hbytes : WrittenBytes bytes text) :
      WrittenBytes (byte :: bytes) ('%' :: high :: low :: text)

/-- A character is written as itself, unless it has a meaning of its own, or as the escapes
of its bytes. -/
inductive WrittenChar : Char → List Char → Prop
  | plain {c} (hplain : c ∉ '%' :: ' ' :: marks) : WrittenChar c [c]
  | escaped {c text} (hbytes : WrittenBytes (String.utf8EncodeChar c) text) : WrittenChar c text

/-- A term is written character by character. -/
inductive WrittenTerm : List Char → List Char → Prop
  | nil : WrittenTerm [] []
  | cons {c term text rest} (hc : WrittenChar c text) (hterm : WrittenTerm term rest) :
      WrittenTerm (c :: term) (text ++ rest)

/-- The terms of a group are written with blanks between them. -/
inductive WrittenGroup : List (List Char) → List Char → Prop
  | single {term text} (hterm : WrittenTerm term text) : WrittenGroup [term] text
  | cons {term group text rest} (hterm : WrittenTerm term text) (blanks : Nat)
      (hgroup : WrittenGroup group rest) :
      WrittenGroup (term :: group) (text ++ List.replicate (blanks + 1) ' ' ++ rest)

/-- Groups are written with commas between them. -/
inductive WrittenGroups : List (List (List Char)) → List Char → Prop
  | single {group text} (hgroup : WrittenGroup group text) : WrittenGroups [group] text
  | cons {group groups text rest} (hgroup : WrittenGroup group text)
      (hgroups : WrittenGroups groups rest) :
      WrittenGroups (group :: groups) (text ++ ',' :: rest)

variable {n : Nat} {digit c : Char} {bytes : List UInt8} {term text : List Char}
  {group : List (List Char)} {groups : List (List (List Char))}

/-! ## Escapes -/

theorem IsHexDigit.facts (hdigit : IsHexDigit n digit) (hn : n < 16) :
    Text.hexValue? digit = some n ∧ digit ∉ ' ' :: marks := by
  have hsmall : ∀ n : Fin 16, Text.hexValue? (Text.hexDigit n) = some n.val ∧
      Text.hexDigit n ∉ ' ' :: marks := by
    decide
  have hlarge : ∀ n : Fin 16, Text.hexValue? (Text.hexDigit n).toUpper = some n.val ∧
      (Text.hexDigit n).toUpper ∉ ' ' :: marks := by
    decide
  rcases hdigit with rfl | rfl
  · exact hsmall ⟨n, hn⟩
  · exact hlarge ⟨n, hn⟩

theorem toNat_lt_of_hexValue? (hvalue : Text.hexValue? digit = some n) : digit.toNat < 0x80 := by
  have hlast (c last : Char) (hle : c ≤ last) : c.toNat ≤ last.toNat := hle
  unfold Text.hexValue? at hvalue
  split_ifs at hvalue with hdecimal hsmall hlarge
  · exact Nat.lt_of_le_of_lt (hlast _ _ hdecimal.2) (by decide)
  · exact Nat.lt_of_le_of_lt (hlast _ _ hsmall.2) (by decide)
  · exact Nat.lt_of_le_of_lt (hlast _ _ hlarge.2) (by decide)

theorem hexByte?_of_hexValue? (hvalue : Text.hexValue? digit = some n) :
    Text.encodeChar digit = [UInt8.ofNat digit.toNat] ∧
      hexByte? (UInt8.ofNat digit.toNat) = some n := by
  have hlt := toNat_lt_of_hexValue? hvalue
  refine ⟨if_pos hlt, ?_⟩
  rw [hexByte?, Text.toNat_ofNat_of_lt (by omega), Char.ofNat_toNat, hvalue]

/-- An escape is the byte of its two digits, whatever follows. -/
theorem decodeBytes_escape {high low : Char} {h l : Nat} (hhigh : Text.hexValue? high = some h)
    (hlow : Text.hexValue? low = some l) (text : List Char) (rest : List UInt8) :
    decodeBytes (Text.encodeUtf8 ('%' :: high :: low :: text) ++ rest) =
      UInt8.ofNat (h * 16 + l) :: decodeBytes (Text.encodeUtf8 text ++ rest) := by
  have hpercent : Text.encodeChar '%' = [37] := rfl
  obtain ⟨hhigh, hhighValue⟩ := hexByte?_of_hexValue? hhigh
  obtain ⟨hlow, hlowValue⟩ := hexByte?_of_hexValue? hlow
  have hescaped : escapedByte? (UInt8.ofNat high.toNat) (UInt8.ofNat low.toNat) =
      some (UInt8.ofNat (h * 16 + l)) := by
    rw [escapedByte?, hhighValue, hlowValue]
  simp only [Text.encodeUtf8_cons, hpercent, hhigh, hlow, List.cons_append, List.nil_append]
  rw [decodeBytes, if_pos rfl, hescaped]

theorem decodeBytes_cons_of_ne {b : UInt8} (hb : b ≠ 37) (rest : List UInt8) :
    decodeBytes (b :: rest) = b :: decodeBytes rest := by
  match rest with
  | [] => rfl
  | [_] => rfl
  | _ :: _ :: _ => rw [decodeBytes, if_neg hb]

theorem decodeBytes_append_of_notMem (hbytes : 37 ∉ bytes) (rest : List UInt8) :
    decodeBytes (bytes ++ rest) = bytes ++ decodeBytes rest := by
  induction bytes with
  | nil => rfl
  | cons b bytes ih =>
      obtain ⟨hb, hbytes⟩ := not_or.mp (mt List.mem_cons.mpr hbytes)
      rw [List.cons_append, decodeBytes_cons_of_ne (Ne.symm hb), ih hbytes, List.cons_append]

/-- The byte of a percent sign is in no other character. -/
theorem notMem_encodeChar (hc : c ≠ '%') : 37 ∉ Text.encodeChar c := by
  intro hmem
  have hcode : (37 : UInt8).toNat = c.toNat := Text.toNat_of_mem_encodeChar hmem (by decide)
  exact hc (by rw [← Char.ofNat_toNat c, ← hcode]; rfl)

/-- The bytes of written bytes are these bytes, whatever follows. -/
theorem WrittenBytes.decodeBytes_append (hwritten : WrittenBytes bytes text) (rest : List UInt8) :
    decodeBytes (Text.encodeUtf8 text ++ rest) = bytes ++ decodeBytes rest := by
  induction hwritten with
  | nil => rfl
  | @cons byte bytes high low text hhigh hlow hbytes ih =>
      have hlt : byte.toNat < 256 := byte.toNat_lt
      rw [decodeBytes_escape (hhigh.facts (by omega)).1 (hlow.facts (by omega)).1, ih,
        Nat.div_add_mod', UInt8.ofNat_toNat]
      rfl

theorem WrittenTerm.decodeBytes_append (hwritten : WrittenTerm term text) (rest : List UInt8) :
    decodeBytes (Text.encodeUtf8 text ++ rest) = Text.encodeUtf8 term ++ decodeBytes rest := by
  induction hwritten with
  | nil => rfl
  | @cons c term written text hc hterm ih =>
      rw [Text.encodeUtf8_append, Text.encodeUtf8_cons, List.append_assoc, List.append_assoc,
        ← ih]
      -- What follows the character cannot complete an escape that begins in it.
      cases hc with
      | plain hplain =>
          have hne : c ≠ '%' := by
            rintro rfl
            exact hplain List.mem_cons_self
          rw [Text.encodeUtf8_cons, List.append_assoc]
          exact decodeBytes_append_of_notMem (notMem_encodeChar hne) _
      | escaped hbytes =>
          rw [Text.encodeChar_eq]
          exact hbytes.decodeBytes_append _

/-- A written term is read as the term. -/
theorem WrittenTerm.decodeTerm_eq (hwritten : WrittenTerm term text) :
    decodeTerm text = term := by
  have hdecode := hwritten.decodeBytes_append []
  rw [List.append_nil, decodeBytes, List.append_nil] at hdecode
  rw [decodeTerm, hdecode, Text.decodeLossy_encodeUtf8]

/-! ## Written texts -/

theorem WrittenBytes.unmarked (hwritten : WrittenBytes bytes text) :
    ∀ ch ∈ text, ch ∉ ' ' :: marks := by
  induction hwritten with
  | nil => simp
  | @cons byte _ _ _ _ hhigh hlow hbytes ih =>
      have hlt : byte.toNat < 256 := byte.toNat_lt
      simp only [List.forall_mem_cons]
      exact ⟨by decide, (hhigh.facts (by omega)).2, (hlow.facts (by omega)).2, ih⟩

theorem WrittenChar.unmarked (hwritten : WrittenChar c text) :
    ∀ ch ∈ text, ch ∉ ' ' :: marks := by
  cases hwritten with
  | plain hplain => simpa using fun h => hplain (List.mem_cons_of_mem _ h)
  | escaped hbytes => exact hbytes.unmarked

theorem WrittenTerm.unmarked (hwritten : WrittenTerm term text) :
    ∀ ch ∈ text, ch ∉ ' ' :: marks := by
  induction hwritten with
  | nil => simp
  | cons hc hterm ih => exact List.forall_mem_append.mpr ⟨hc.unmarked, ih⟩

theorem WrittenTerm.terms_eq (hwritten : WrittenTerm term text) (hterm : term ≠ []) :
    terms text = [term] := by
  have hblank : ' ' ∉ text := fun hmem => hwritten.unmarked ' ' hmem List.mem_cons_self
  have hne : text ≠ [] := by
    rintro rfl
    exact hterm hwritten.decodeTerm_eq.symm
  rw [terms_of_notMem hblank hne, hwritten.decodeTerm_eq]

theorem WrittenGroup.terms_eq (hwritten : WrittenGroup group text)
    (hterms : ∀ term ∈ group, term ≠ []) : terms text = group := by
  induction hwritten with
  | single hterm => exact hterm.terms_eq (hterms _ List.mem_cons_self)
  | cons hterm blanks hgroup ih =>
      obtain ⟨hne, hothers⟩ := List.forall_mem_cons.mp hterms
      rw [List.replicate_succ, List.append_assoc, List.cons_append, terms_append_blank,
        terms_blanks_append, hterm.terms_eq hne, ih hothers]
      rfl

theorem WrittenGroup.unmarked (hwritten : WrittenGroup group text) : ∀ ch ∈ text, ch ∉ marks := by
  induction hwritten with
  | single hterm =>
      exact fun ch hch hmark => hterm.unmarked ch hch (List.mem_cons_of_mem _ hmark)
  | cons hterm blanks hgroup ih =>
      refine List.forall_mem_append.mpr ⟨List.forall_mem_append.mpr ⟨?_, ?_⟩, ih⟩
      · exact fun ch hch hmark => hterm.unmarked ch hch (List.mem_cons_of_mem _ hmark)
      · intro ch hch
        rw [List.eq_of_mem_replicate hch]
        decide

theorem WrittenGroup.ne_nil (hwritten : WrittenGroup group text) : group ≠ [] := by
  cases hwritten <;> simp

theorem WrittenGroups.ne_nil (hwritten : WrittenGroups groups text) : groups ≠ [] := by
  cases hwritten <;> simp

theorem WrittenGroups.forall_ne_nil (hwritten : WrittenGroups groups text) :
    ∀ group ∈ groups, group ≠ [] := by
  induction hwritten with
  | single hgroup => simpa using hgroup.ne_nil
  | cons hgroup hgroups ih => exact List.forall_mem_cons.mpr ⟨hgroup.ne_nil, ih⟩

/-- The scanner finds the texts of the groups, with the terms of the groups. -/
theorem WrittenGroups.accepts (hwritten : WrittenGroups groups text)
    (hterms : ∀ group ∈ groups, ∀ term ∈ group, term ≠ []) (offset : Nat) :
    ∃ alternatives, Accepts (.start offset) text alternatives ∧
      (alternatives.flatMap product).map terms = groups := by
  induction hwritten generalizing offset with
  | single hgroup =>
      obtain ⟨b, hsteps, hquote, hbracket, hproduct⟩ :=
        (standsFor_plain hgroup.unmarked).steps_start offset
      refine ⟨[b.flushed], ⟨[], b, hsteps, hquote, hbracket, rfl⟩, ?_⟩
      simp [hproduct, hgroup.terms_eq (hterms _ List.mem_cons_self)]
  | cons hgroup hgroups ih =>
      obtain ⟨hgroupTerms, hothers⟩ := List.forall_mem_cons.mp hterms
      obtain ⟨b, hsteps, hquote, hbracket, hproduct⟩ :=
        (standsFor_plain hgroup.unmarked).steps_start offset
      obtain ⟨alternatives, haccepts, hfound⟩ := ih hothers (b.offset + Text.byteLength ',')
      -- The comma finishes the text of this group, and the others start afresh behind it.
      have hrest := haccepts.step (.comma hquote hbracket) (.of_ne (by decide))
      refine ⟨_, hrest.after hsteps (by simp), ?_⟩
      simp [hproduct, hgroup.terms_eq hgroupTerms, hfound]

/-- A written search string means the groups of terms that were written. -/
theorem words_of_written (groups : List (List String)) (raw : String)
    (hwritten : WrittenGroups (groups.map fun group => group.map String.toList) raw.toList)
    (hterms : ∀ group ∈ groups, ∀ term ∈ group, term ≠ "") :
    words raw = .ok groups := by
  have hterms' : ∀ group ∈ groups.map fun group => group.map String.toList,
      ∀ term ∈ group, term ≠ [] := by
    simpa using hterms
  obtain ⟨alternatives, haccepts, hfound⟩ := hwritten.accepts hterms' 0
  obtain ⟨found, hwords, hcounted⟩ := words_of_scan haccepts.scanFrom_eq
  have hgroups : groupsIn (alternatives.flatMap product) = groups := by
    rw [groupsIn, hfound, List.filter_eq_self.mpr]
    · simp [Function.comp_def]
    · exact fun group hmem => by simpa using hwritten.forall_ne_nil group hmem
  rw [hwords, eq_of_counted_eq (hcounted.trans hgroups) (by simpa using hwritten.ne_nil)]

/-- Escapes in either case beside characters that are written as themselves, and terms with
more than one blank between them. -/
theorem words_of_written_mixed :
    words "a%20b  %c3%A9%25,é%E2%82%aC" = .ok [["a b", "é%"], ["é€"]] := by
  have hblank : WrittenChar ' ' ['%', '2', '0'] :=
    .escaped (.cons (.inl (by decide)) (.inl (by decide)) .nil)
  have hpercent : WrittenChar '%' ['%', '2', '5'] :=
    .escaped (.cons (.inl (by decide)) (.inl (by decide)) .nil)
  have haccent : WrittenChar 'é' ['%', 'c', '3', '%', 'A', '9'] :=
    .escaped (.cons (.inl (by decide)) (.inl (by decide))
      (.cons (.inr (by decide)) (.inl (by decide)) .nil))
  have heuro : WrittenChar '€' ['%', 'E', '2', '%', '8', '2', '%', 'a', 'C'] :=
    .escaped (.cons (.inr (by decide)) (.inl (by decide))
      (.cons (.inl (by decide)) (.inl (by decide))
        (.cons (.inl (by decide)) (.inr (by decide)) .nil)))
  have hgroup : WrittenGroup [['a', ' ', 'b'], ['é', '%']] "a%20b  %c3%A9%25".toList :=
    .cons (.cons (.plain (by decide)) (.cons hblank (.cons (.plain (by decide)) .nil))) 1
      (.single (.cons haccent (.cons hpercent .nil)))
  have hother : WrittenGroup [['é', '€']] "é%E2%82%aC".toList :=
    .single (.cons (.plain (by decide)) (.cons heuro .nil))
  exact words_of_written _ _ (.cons hgroup (.single hother)) (by decide)

end DocStore.Search
