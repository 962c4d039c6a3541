import DocStore.Proofs.Text.Parts
import DocStore.Proofs.Text.UpperCase
import DocStore.Search.Reserved

/-!
# Taking reserved verbs out

A word is cleaned by taking the first occurrence of every reserved verb out of its upper case, one
verb after the other. A verb is left over exactly if it comes twice when its turn comes, or if a
verb that is taken out from then on leaves pieces beside each other that make it up. A word is free
of verbs, then, if none comes twice in it and none is followed at once by the ending of a verb.
-/

namespace DocStore

open Text

namespace Search

variable {verb other text before after : List Char}

/-! ## Reserved words -/

/-- In upper case a word starts with a reserved verb, perhaps after a mark of negation. -/
def Reserved (word : String) : Prop :=
  ∃ verb ∈ reservedVerbs,
    verb.toList <+: Text.upper word.toList ∨ negationMark :: verb.toList <+: Text.upper word.toList

theorem isReserved_iff {word : String} : isReserved word = true ↔ Reserved word := by
  have hverbs : ∀ verb ∈ reservedVerbs, ∃ c rest, verb.toList = c :: rest ∧ c ≠ negationMark := by
    simp [reservedVerbs, negationMark]
  unfold isReserved Reserved
  simp only [List.any_eq_true, List.isPrefixOf_iff_prefix]
  apply exists_congr
  intro verb
  apply and_congr_right
  intro hverb
  obtain ⟨c, rest, hc, hne⟩ := hverbs verb hverb
  rw [hc]
  cases Text.upper word.toList with
  | nil => simp [stripNegation]
  | cons first others =>
      by_cases hfirst : first = negationMark
      · simp [stripNegation, hfirst, List.cons_prefix_cons, hne]
      · simp [stripNegation, hfirst, List.cons_prefix_cons, Ne.symm hfirst]

theorem not_reserved_of_no_verb {word : String} (hupper : upper word.toList = word.toList)
    (hnone : ∀ verb ∈ reservedVerbs, ¬ verb.toList <:+: word.toList) : isReserved word = false := by
  rw [← Bool.not_eq_true, isReserved_iff]
  rintro ⟨verb, hverb, hstarts⟩
  rw [hupper] at hstarts
  rcases hstarts with hplain | hnegated
  · exact hnone verb hverb hplain.isInfix
  · exact hnone verb hverb ((List.suffix_cons _ _).isInfix.trans hnegated.isInfix)

/-! ## Occurrences of verbs

A verb ends in a colon and holds no other one. So no two verbs overlap, and an occurrence that
comes from joining two pieces ends at the first colon of the second piece. -/

/-- A text ends in a colon and holds no other one. -/
def EndsInColon (text : List Char) : Prop :=
  ∃ stem, text = stem ++ [':'] ∧ ':' ∉ stem

theorem endsInColon_of_mem : ∀ verb ∈ reservedVerbs, EndsInColon verb.toList := by
  have hshape : ∀ verb ∈ reservedVerbs,
      verb.toList = verb.toList.dropLast ++ [':'] ∧ ':' ∉ verb.toList.dropLast := by decide
  exact fun verb hverb => ⟨verb.toList.dropLast, hshape verb hverb⟩

theorem eq_of_suffix : ∀ verb ∈ reservedVerbs, ∀ other ∈ reservedVerbs,
    verb.toList <:+ other.toList → verb = other := by
  decide

theorem EndsInColon.ne_nil (hverb : EndsInColon verb) : verb ≠ [] := by
  obtain ⟨stem, rfl, -⟩ := hverb
  exact List.concat_ne_nil ':' stem

theorem EndsInColon.eq_nil_of_eq {front back : List Char} (hverb : EndsInColon verb)
    (heq : verb = front ++ ':' :: back) : back = [] := by
  obtain ⟨stem, rfl, hstem⟩ := hverb
  exact ((List.append_cons_inj_of_notMem hstem List.not_mem_nil).mp heq).2.2.symm

theorem EndsInColon.mem_of_eq {front back : List Char} (hverb : EndsInColon verb)
    (heq : verb = front ++ back) (hback : back ≠ []) : ':' ∈ back := by
  obtain ⟨stem, rfl, -⟩ := hverb
  obtain ⟨rest, c, rfl⟩ := (List.eq_nil_or_concat' back).resolve_left hback
  rw [← List.append_assoc] at heq
  obtain ⟨-, hlast⟩ := List.append_inj' heq rfl
  exact List.mem_append_right rest (hlast ▸ List.mem_cons_self)

/-- Pieces without a colon hold no end of a verb. -/
theorem EndsInColon.infix_left {left right : List Char} (hverb : EndsInColon verb)
    (hright : ':' ∉ right) (hoccurs : verb <:+: left ++ right) : verb <:+: left := by
  rcases List.infix_append_iff.mp hoccurs with hleft | hin | ⟨front, back, heq, hfront, hback⟩
  · exact hleft
  · exact absurd (hin.subset (hverb.mem_of_eq (List.nil_append verb).symm hverb.ne_nil)) hright
  · by_cases hnil : back = []
    · rw [heq, hnil, List.append_nil]
      exact hfront.isInfix
    · exact absurd (hback.subset (hverb.mem_of_eq heq hnil)) hright

/-- An occurrence ends before a colon, at it, or starts after it. -/
theorem EndsInColon.infix_colon {left right : List Char} (hverb : EndsInColon verb)
    (hoccurs : verb <:+: left ++ ':' :: right) :
    verb <:+: left ∨ verb <:+ left ++ [':'] ∨ verb <:+: right := by
  rcases List.infix_append_iff.mp hoccurs with hleft | hin | ⟨front, back, heq, hfront, hback⟩
  · exact .inl hleft
  · rcases List.infix_cons_iff.mp hin with hstart | hright
    · rcases List.prefix_cons_iff.mp hstart with hnil | ⟨back, heq, -⟩
      · exact absurd hnil hverb.ne_nil
      · have hcolon : verb = [] ++ ':' :: back := heq
        obtain rfl := hverb.eq_nil_of_eq hcolon
        rw [heq]
        exact .inr (.inl (List.suffix_append left [':']))
    · exact .inr (.inr hright)
  · rcases List.prefix_cons_iff.mp hback with rfl | ⟨rest, rfl, -⟩
    · rw [heq, List.append_nil]
      exact .inl hfront.isInfix
    · obtain rfl := hverb.eq_nil_of_eq heq
      obtain ⟨start, rfl⟩ := hfront
      rw [heq, List.append_assoc]
      exact .inr (.inl (List.suffix_append start _))

/-- A verb in a text with another verb in it stands on one side of it. -/
theorem infix_around_iff {verb other : String} (hverb : verb ∈ reservedVerbs)
    (hother : other ∈ reservedVerbs) (hne : other ≠ verb) :
    verb.toList <:+: before ++ (other.toList ++ after) ↔
      verb.toList <:+: before ∨ verb.toList <:+: after := by
  have hcolon := endsInColon_of_mem verb hverb
  constructor
  · obtain ⟨stem, hstem, hfree⟩ := endsInColon_of_mem other hother
    intro hoccurs
    rw [hstem, List.append_assoc, List.singleton_append, ← List.append_assoc] at hoccurs
    rcases hcolon.infix_colon hoccurs with hleft | hend | hright
    · exact .inl (hcolon.infix_left hfree hleft)
    · -- Both verbs end at the colon, so one is an ending of the other.
      rw [List.append_assoc, ← hstem] at hend
      rcases List.suffix_or_suffix_of_suffix hend (List.suffix_append before other.toList) with
        hshorter | hshorter
      · exact absurd (eq_of_suffix verb hverb other hother hshorter).symm hne
      · exact absurd (eq_of_suffix other hother verb hverb hshorter) hne
    · exact .inr hright
  · rintro (hleft | hright)
    · exact hleft.trans (List.prefix_append before _).isInfix
    · exact hright.trans ((List.suffix_append other.toList after).trans
        (List.suffix_append before _)).isInfix

/-- A text starts in one piece and ends in the next one. -/
def Joins (text before after : List Char) : Prop :=
  ∃ front back, front ≠ [] ∧ back ≠ [] ∧ text = front ++ back ∧ front <:+ before ∧ back <+: after

theorem infix_append_iff_joins :
    text <:+: before ++ after ↔ text <:+: before ∨ text <:+: after ∨ Joins text before after := by
  rw [List.infix_append_iff]
  constructor
  · rintro (hbefore | hafter | ⟨front, back, heq, hfront, hback⟩)
    · exact .inl hbefore
    · exact .inr (.inl hafter)
    · by_cases hstart : front = []
      · rw [heq, hstart, List.nil_append]
        exact .inr (.inl hback.isInfix)
      by_cases hend : back = []
      · rw [heq, hend, List.append_nil]
        exact .inl hfront.isInfix
      exact .inr (.inr ⟨front, back, hstart, hend, heq, hfront, hback⟩)
  · rintro (hbefore | hafter | ⟨front, back, -, -, hjoined⟩)
    · exact .inl hbefore
    · exact .inr (.inl hafter)
    · exact .inr (.inr ⟨front, back, hjoined⟩)

/-- What comes twice in two pieces comes twice when they stand apart, too, unless they join to
it. -/
theorem twice_apart {part : List Char} (middle : List Char) (htwice : Twice part (before ++ after))
    (hnot : ¬ Joins part before after) : Twice part (before ++ (middle ++ after)) := by
  obtain ⟨earlier, later, heq, hagain⟩ := htwice
  have hmiddle : after <:+: middle ++ after := (List.suffix_append middle after).isInfix
  rcases List.append_eq_append_iff.mp heq with ⟨gap, -, rfl⟩ | ⟨gap, rfl, hrest⟩
  · -- The first place lies in the second piece.
    exact ⟨before ++ (middle ++ gap), later, by simp only [List.append_assoc], hagain⟩
  rcases List.append_eq_append_iff.mp hrest with ⟨rest, rfl, rfl⟩ | ⟨rest, rfl, rfl⟩
  · -- It lies in the first piece, and the other place may lie in both.
    refine ⟨earlier, rest ++ (middle ++ after), by simp only [List.append_assoc], ?_⟩
    rcases infix_append_iff_joins.mp hagain with hleft | hright | ⟨front, back, hjoins⟩
    · exact hleft.trans (List.prefix_append rest _).isInfix
    · exact hright.trans (hmiddle.trans (List.suffix_append rest _).isInfix)
    · obtain ⟨hfront, hback, hpart, hends, hstarts⟩ := hjoins
      have hlonger : rest <:+ earlier ++ (part ++ rest) :=
        (List.suffix_append part rest).trans (List.suffix_append earlier _)
      exact absurd ⟨front, back, hfront, hback, hpart, hends.trans hlonger, hstarts⟩ hnot
  · by_cases hgap : gap = []
    · subst hgap
      exact ⟨earlier ++ middle, later, by simp only [List.append_assoc, List.nil_append], hagain⟩
    by_cases hrest : rest = []
    · subst hrest
      rw [List.append_nil] at hagain ⊢
      exact ⟨earlier, middle ++ later, by simp only [List.append_assoc, List.nil_append],
        hagain.trans hmiddle⟩
    exact absurd ⟨gap, rest, hgap, hrest, rfl, List.suffix_append earlier gap,
      List.prefix_append rest later⟩ hnot

/-! ## One verb taken out -/

/-- Taking the first occurrence of one text out of another puts a text together. -/
def JoinedBy (part text other : List Char) : Prop :=
  ∃ before after, FirstAt other before after text ∧ Joins part before after

theorem not_joinedBy_of_absent (hnot : ¬ other <:+: text) : ¬ JoinedBy verb text other := by
  rintro ⟨before, after, hfirst, -⟩
  exact hnot ⟨before, after, (List.append_assoc ..).trans hfirst.text_eq.symm⟩

/-- The first place is the only one, so that it decides what is joined. -/
theorem joinedBy_iff (hfirst : FirstAt other before after text) :
    JoinedBy verb text other ↔ Joins verb before after := by
  refine ⟨?_, fun hjoins => ⟨before, after, hfirst, hjoins⟩⟩
  rintro ⟨earlier, later, hother, hjoins⟩
  obtain ⟨rfl, rfl⟩ := hfirst.unique hother
  exact hjoins

/-- Taking another verb out leaves a verb where it is, and may put one together. -/
theorem infix_removeFirst_iff {verb other : String} (hverb : verb ∈ reservedVerbs)
    (hother : other ∈ reservedVerbs) (hne : other ≠ verb) :
    verb.toList <:+: removeFirst other.toList text ↔
      verb.toList <:+: text ∨ JoinedBy verb.toList text other.toList := by
  by_cases hin : other.toList <:+: text
  · obtain ⟨before, after, hfirst⟩ :=
      exists_firstAt (endsInColon_of_mem other hother).ne_nil hin
    rw [removeFirst_of_firstAt hfirst, joinedBy_iff hfirst, infix_append_iff_joins, hfirst.text_eq,
      infix_around_iff hverb hother hne, or_assoc]
  · rw [removeFirst_of_absent hin, or_iff_left (not_joinedBy_of_absent hin)]

/-- Taking a verb out leaves it if it comes twice, and may put it together. -/
theorem infix_removeFirst_self_iff {verb : String} (hverb : verb ∈ reservedVerbs) :
    verb.toList <:+: removeFirst verb.toList text ↔
      Twice verb.toList text ∨ JoinedBy verb.toList text verb.toList := by
  have hcolon := endsInColon_of_mem verb hverb
  by_cases hin : verb.toList <:+: text
  · obtain ⟨before, after, hfirst⟩ := exists_firstAt hcolon.ne_nil hin
    have hbefore : ¬ verb.toList <:+: before := fun hoccurs =>
      hfirst.fresh (hoccurs.trans (List.prefix_append before _).isInfix)
    rw [removeFirst_of_firstAt hfirst, joinedBy_iff hfirst, infix_append_iff_joins,
      hfirst.twice_iff, or_iff_right hbefore]
  · rw [removeFirst_of_absent hin, or_iff_left (not_joinedBy_of_absent hin)]
    refine iff_of_false hin ?_
    rintro ⟨before, after, htext, -⟩
    exact hin ⟨before, after, (List.append_assoc ..).trans htext.symm⟩

/-! ## All verbs taken out -/

/-- A text after some verbs have lost their first occurrence, one after the other. -/
def takeOut (verbs : List String) (text : List Char) : List Char :=
  verbs.foldl (fun cleaned verb => removeFirst verb.toList cleaned) text

/-- One of the verbs that are taken out, one after the other, puts a text together. -/
def PutTogether (part : List Char) : List String → List Char → Prop
  | [], _ => False
  | verb :: rest, text =>
      JoinedBy part text verb.toList ∨ PutTogether part rest (removeFirst verb.toList text)

theorem infix_takeOut_iff {verb : String} {verbs : List String} (hverb : verb ∈ reservedVerbs)
    (hverbs : ∀ other ∈ verbs, other ∈ reservedVerbs ∧ other ≠ verb) :
    verb.toList <:+: takeOut verbs text ↔
      verb.toList <:+: text ∨ PutTogether verb.toList verbs text := by
  induction verbs generalizing text with
  | nil => exact (or_iff_left id).symm
  | cons other rest ih =>
      obtain ⟨⟨hother, hne⟩, hrest⟩ := List.forall_mem_cons.mp hverbs
      change verb.toList <:+: takeOut rest (removeFirst other.toList text) ↔ _
      rw [ih hrest, infix_removeFirst_iff hverb hother hne, or_assoc]
      rfl

/-- A verb is left over exactly if it comes twice when its turn comes, or if it or a verb after it
puts it together by being taken out. -/
theorem infix_takeOut_reserved_iff {verb : String} {earlier later : List String}
    (hsplit : reservedVerbs = earlier ++ verb :: later) :
    verb.toList <:+: takeOut reservedVerbs text ↔
      Twice verb.toList (takeOut earlier text) ∨
        PutTogether verb.toList (verb :: later) (takeOut earlier text) := by
  have hverb : verb ∈ reservedVerbs := by
    rw [hsplit]
    exact List.mem_append_right _ List.mem_cons_self
  have hnodup : reservedVerbs.Nodup := by decide
  have hlater : ∀ other ∈ later, other ∈ reservedVerbs ∧ other ≠ verb := by
    intro other hother
    rw [hsplit] at hnodup ⊢
    refine ⟨List.mem_append_right _ (List.mem_cons_of_mem _ hother), ?_⟩
    rintro rfl
    exact (List.nodup_cons.mp (List.nodup_append.mp hnodup).2.1).1 hother
  have htakeOut : takeOut reservedVerbs text =
      takeOut later (removeFirst verb.toList (takeOut earlier text)) := by
    rw [hsplit]
    exact List.foldl_append
  rw [htakeOut, infix_takeOut_iff hverb hlater, infix_removeFirst_self_iff hverb, or_assoc]
  rfl

/-! ## Words without verbs close together -/

/-- What verbs end in: all their endings but the verbs themselves. -/
def verbEndings : List (List Char) :=
  reservedVerbs.flatMap fun verb => verb.toList.tail.tails.filter fun ending => !ending.isEmpty

/-- No verb comes twice in a text, and none is followed at once by the ending of a verb. -/
structure Spaced (text : List Char) : Prop where
  once : ∀ verb ∈ reservedVerbs, ¬ Twice verb.toList text
  apart : ∀ verb ∈ reservedVerbs, ∀ ending ∈ verbEndings, ¬ verb.toList ++ ending <:+: text

theorem mem_verbEndings_iff {ending : List Char} :
    ending ∈ verbEndings ↔
      ending ≠ [] ∧
        ∃ verb ∈ reservedVerbs, ∃ front, front ≠ [] ∧ verb.toList = front ++ ending := by
  have htail {verb : String} (hverb : verb ∈ reservedVerbs) :
      ending <:+ verb.toList.tail ↔ ∃ front, front ≠ [] ∧ verb.toList = front ++ ending := by
    obtain ⟨c, rest, heq⟩ :=
      List.exists_cons_of_ne_nil (endsInColon_of_mem verb hverb).ne_nil
    rw [heq, List.tail_cons]
    constructor
    · rintro ⟨front, rfl⟩
      exact ⟨c :: front, List.cons_ne_nil c front, rfl⟩
    · rintro ⟨front, hne, hfront⟩
      obtain ⟨c', front, rfl⟩ := List.exists_cons_of_ne_nil hne
      exact ⟨front, (List.cons.inj hfront).2.symm⟩
  simp only [verbEndings, List.mem_flatMap, List.mem_filter, List.mem_tails, Bool.not_eq_true',
    List.isEmpty_eq_false_iff]
  constructor
  · rintro ⟨verb, hverb, hsuffix, hne⟩
    exact ⟨hne, verb, hverb, (htail hverb).mp hsuffix⟩
  · rintro ⟨hne, verb, hverb, hfront⟩
    exact ⟨verb, hverb, (htail hverb).mpr hfront, hne⟩

theorem mem_verbEndings_of_append {front back : List Char} (hmem : front ++ back ∈ verbEndings)
    (hback : back ≠ []) : back ∈ verbEndings := by
  obtain ⟨-, verb, hverb, start, hstart, heq⟩ := mem_verbEndings_iff.mp hmem
  refine mem_verbEndings_iff.mpr ⟨hback, verb, hverb, start ++ front, ?_, ?_⟩
  · exact List.append_ne_nil_of_left_ne_nil hstart front
  · rw [heq, List.append_assoc]

namespace Spaced

variable {other : String} (hspaced : Spaced text) (hother : other ∈ reservedVerbs)
  (hfirst : FirstAt other.toList before after text)

include hspaced hother hfirst

theorem not_prefix {ending : List Char} (hending : ending ∈ verbEndings) : ¬ ending <+: after := by
  rintro ⟨rest, rfl⟩
  apply hspaced.apart other hother ending hending
  rw [hfirst.text_eq, ← List.append_assoc, ← List.append_assoc]
  exact ⟨before, rest, by simp only [List.append_assoc]⟩

theorem not_joins {verb : String} (hverb : verb ∈ reservedVerbs) :
    ¬ Joins verb.toList before after := by
  rintro ⟨front, back, hfront, hback, heq, -, hafter⟩
  exact hspaced.not_prefix hother hfirst
    (mem_verbEndings_iff.mpr ⟨hback, verb, hverb, front, hfront, heq⟩) hafter

theorem apart_append : ∀ verb ∈ reservedVerbs, ∀ ending ∈ verbEndings,
    ¬ verb.toList ++ ending <:+: before ++ after := by
  intro verb hverb ending hending hoccurs
  have hbefore : before <:+: text := hfirst.text_eq ▸ (List.prefix_append before _).isInfix
  have hafter : after <:+: text := hfirst.text_eq ▸
    ((List.suffix_append other.toList after).trans (List.suffix_append before _)).isInfix
  rcases infix_append_iff_joins.mp hoccurs with
    hin | hin | ⟨front, back, hfront, hback, heq, -, hin⟩
  · exact hspaced.apart verb hverb ending hending (hin.trans hbefore)
  · exact hspaced.apart verb hverb ending hending (hin.trans hafter)
  · -- What comes after the place where the pieces meet starts with an ending.
    rcases List.append_eq_append_iff.mp heq with ⟨gap, rfl, rfl⟩ | ⟨gap, hgap, rfl⟩
    · exact hspaced.not_prefix hother hfirst (mem_verbEndings_of_append hending hback) hin
    · by_cases hnil : gap = []
      · rw [hnil, List.nil_append] at hin
        exact hspaced.not_prefix hother hfirst hending hin
      · exact hspaced.not_prefix hother hfirst
          (mem_verbEndings_iff.mpr ⟨hnil, verb, hverb, front, hfront, hgap⟩)
          ((List.prefix_append gap ending).trans hin)

theorem once_append : ∀ verb ∈ reservedVerbs, ¬ Twice verb.toList (before ++ after) := by
  intro verb hverb htwice
  apply hspaced.once verb hverb
  rw [hfirst.text_eq]
  exact twice_apart other.toList htwice (hspaced.not_joins hother hfirst hverb)

end Spaced

theorem Spaced.removeFirst {other : String} (hspaced : Spaced text)
    (hother : other ∈ reservedVerbs) : Spaced (removeFirst other.toList text) := by
  by_cases hin : other.toList <:+: text
  · obtain ⟨before, after, hfirst⟩ := exists_firstAt (endsInColon_of_mem other hother).ne_nil hin
    rw [removeFirst_of_firstAt hfirst]
    exact ⟨hspaced.once_append hother hfirst, hspaced.apart_append hother hfirst⟩
  · rwa [removeFirst_of_absent hin]

theorem Spaced.takeOut {verbs : List String} (hspaced : Spaced text)
    (hverbs : ∀ other ∈ verbs, other ∈ reservedVerbs) : Spaced (takeOut verbs text) := by
  induction verbs generalizing text with
  | nil => exact hspaced
  | cons other rest ih =>
      obtain ⟨hother, hrest⟩ := List.forall_mem_cons.mp hverbs
      exact ih (hspaced.removeFirst hother) hrest

theorem Spaced.not_putTogether {verb : String} {verbs : List String} (hspaced : Spaced text)
    (hverb : verb ∈ reservedVerbs) (hverbs : ∀ other ∈ verbs, other ∈ reservedVerbs) :
    ¬ PutTogether verb.toList verbs text := by
  induction verbs generalizing text with
  | nil => exact id
  | cons other rest ih =>
      obtain ⟨hother, hrest⟩ := List.forall_mem_cons.mp hverbs
      rintro (⟨before, after, hfirst, hjoins⟩ | hlater)
      · exact hspaced.not_joins hother hfirst hverb hjoins
      · exact ih (hspaced.removeFirst hother) hrest hlater

/-! ## Cleaned words -/

theorem toList_cleanReserved (word : String) :
    (cleanReserved word).toList = takeOut reservedVerbs (upper word.toList) :=
  String.toList_ofList

theorem takeOut_subset (verbs : List String) (text : List Char) : takeOut verbs text ⊆ text := by
  induction verbs generalizing text with
  | nil => exact List.Subset.refl text
  | cons verb rest ih => exact List.Subset.trans (ih _) (removeFirst_subset verb.toList text)

theorem upper_cleanReserved (word : String) :
    upper (cleanReserved word).toList = (cleanReserved word).toList := by
  apply upper_eq_self
  intro c hc
  rw [toList_cleanReserved] at hc
  exact upperChar_of_mem_upper (takeOut_subset reservedVerbs _ hc)

/-- A cleaned word contains a verb exactly if the verb comes twice when its turn comes, or if the
verb or one after it puts it together by being taken out. A cleaned word without verbs is not
reserved. All verbs are gone if no verb comes twice in the word and none is followed at once by the
ending of a verb. -/
theorem verbs_of_cleaned (word : String) :
    (∀ (earlier later : List String) (verb : String), reservedVerbs = earlier ++ verb :: later →
      (verb.toList <:+: (cleanReserved word).toList ↔
        Twice verb.toList (takeOut earlier (upper word.toList)) ∨
          PutTogether verb.toList (verb :: later) (takeOut earlier (upper word.toList)))) ∧
    ((∀ verb ∈ reservedVerbs, ¬ verb.toList <:+: (cleanReserved word).toList) →
      isReserved (cleanReserved word) = false) ∧
    (Spaced (upper word.toList) →
      ∀ verb ∈ reservedVerbs, ¬ verb.toList <:+: (cleanReserved word).toList) := by
  refine ⟨?_, not_reserved_of_no_verb (upper_cleanReserved word), ?_⟩
  · intro earlier later verb hsplit
    rw [toList_cleanReserved, infix_takeOut_reserved_iff hsplit]
  · intro hspaced verb hverb
    obtain ⟨earlier, later, hsplit⟩ := List.append_of_mem hverb
    have hearlier : ∀ other ∈ earlier, other ∈ reservedVerbs := fun other hother =>
      hsplit ▸ List.mem_append_left _ hother
    have hrest : ∀ other ∈ verb :: later, other ∈ reservedVerbs := fun other hother =>
      hsplit ▸ List.mem_append_right _ hother
    rw [toList_cleanReserved, infix_takeOut_reserved_iff hsplit]
    rintro (htwice | htogether)
    · exact (hspaced.takeOut hearlier).once verb hverb htwice
    · exact (hspaced.takeOut hearlier).not_putTogether hverb hrest htogether

/-- A word with three verbs, one of them written with a long s, is cleaned of all of them. -/
theorem verbs_of_cleaned_clauses :
    cleanReserved "ſource:web -from:ann,TO:bob" = "WEB -ANN,BOB" ∧
      isReserved (cleanReserved "ſource:web -from:ann,TO:bob") = false := by
  have hspaced : Spaced (upper "ſource:web -from:ann,TO:bob".toList) :=
    ⟨by decide +kernel, by decide +kernel⟩
  obtain ⟨-, hreserved, hclean⟩ := verbs_of_cleaned "ſource:web -from:ann,TO:bob"
  exact ⟨by decide +kernel, hreserved (hclean hspaced)⟩

/-- A verb that comes twice is left, and a verb may be put together by taking another one out. -/
theorem cleaned_reserved :
    cleanReserved "from:from:x" = "FROM:X" ∧ isReserved (cleanReserved "from:from:x") = true ∧
      cleanReserved "frtype:om:x" = "FROM:X" ∧
      "FROM:".toList <:+: (cleanReserved "from:from:x").toList := by
  decide +kernel

end Search

end DocStore
