import DocStore.Search.Term
import DocStore.Proofs.Filter.Conditions
import DocStore.Proofs.Search.Groups
import DocStore.Proofs.Search.Reserved

/-!
# What a search finds

A search finds the documents that meet the conditions given beforehand and in which some searched
field holds what some group of the search string asks for: every term that is looked for, and no
term that is negated. The conditions given beforehand confine every search that has a field to
look at. One that has none is a filter without alternatives, which every document passes.
-/

namespace DocStore

/-! ## Terms -/

namespace Value

variable {value : Value} {text : String}

/-- A value is a string that contains a text, or an array with such a string. -/
def Mentions (value : Value) (text : String) : Prop :=
  ∃ content, (value = .string content ∨ ∃ items, value = .array items ∧ .string content ∈ items) ∧
    text.toList <:+: content.toList

end Value

namespace Document

/-- The value at a path is there and mentions a text. -/
def Mentions (d : Document) (path text : String) : Prop :=
  ∃ value, lookup? d path = some value ∧ value.Mentions text

end Document

/-! ## What a term asks of a field -/

namespace Value

theorem mentions_iff :
    value.Mentions text ↔ Condition.patternHolds .contains (some value) (.string text) = true := by
  unfold Mentions Condition.patternHolds
  simp only [anyPart_iff, Operator.findsIn]
  constructor
  · rintro ⟨content, rfl | ⟨items, rfl, hitem⟩, hoccurs⟩
    · exact .inl (Text.occursIn_iff.mpr hoccurs)
    · exact .inr ⟨items, rfl, _, hitem, Text.occursIn_iff.mpr hoccurs⟩
  · rintro (htest | ⟨items, rfl, item, hitem, htest⟩)
    · split at htest
      next content => exact ⟨content, .inl rfl, Text.occursIn_iff.mp htest⟩
      next => cases htest
    · split at htest
      next content => exact ⟨content, .inr ⟨items, rfl, hitem⟩, Text.occursIn_iff.mp htest⟩
      next => cases htest

end Value

namespace SearchTerm

variable {d : Document} {field : String}

theorem mentions_iff {path text : String} :
    Document.Mentions d path text ↔
      Condition.patternHolds .contains (Document.lookup? d path) (.string text) = true := by
  unfold Document.Mentions
  cases hlookup : Document.lookup? d path with
  | none => simp [Condition.patternHolds]
  | some value => simp [Value.mentions_iff]

/-- The condition of a term holds of a field that mentions its text, or of the others if the term
is negated. -/
theorem holds_condition (term : SearchTerm) :
    term.condition.holds (Document.lookup? d field) = true ↔
      (Document.Mentions d field term.text ↔ term.negated = false) := by
  rw [mentions_iff]
  cases hnegated : term.negated with
  | false => simp [condition, hnegated, Condition.of, Condition.holds]
  | true => simp [condition, hnegated, Condition.of, Condition.not, Condition.holds]

theorem mem_ofGroup_iff {group : List String} {term : SearchTerm} :
    term ∈ ofGroup group ↔
      ∃ word ∈ group, parse word = term ∧ term.text ≠ "" ∧ ¬ Search.Reserved term.text := by
  have hsought : term.isSought = true ↔ term.text ≠ "" ∧ ¬ Search.Reserved term.text := by
    rw [isSought, ← Search.isReserved_iff]
    simp
  unfold ofGroup
  rw [List.mem_filter, List.mem_map, hsought]
  constructor
  · rintro ⟨⟨word, hword, hparse⟩, hsought⟩
    exact ⟨word, hword, hparse, hsought⟩
  · rintro ⟨word, hword, hparse, hsought⟩
    exact ⟨⟨word, hword, hparse⟩, hsought⟩

end SearchTerm

/-! ## Searches -/

namespace SearchQuery

variable {query : SearchQuery} {raw : String} {fields : List String} {extra : Conjunction}
  {d : Document}

/-- A field of a document holds what a group of words asks for. -/
def FoundIn (group : List String) (field : String) (d : Document) : Prop :=
  ∀ word ∈ group,
    (SearchTerm.parse word).text ≠ "" → ¬ Search.Reserved (SearchTerm.parse word).text →
      (Document.Mentions d field (SearchTerm.parse word).text ↔
        (SearchTerm.parse word).negated = false)

theorem metBy_fieldConjunction (group : List String) (field : String) :
    (fieldConjunction extra (SearchTerm.ofGroup group) field).MetBy d ↔
      extra.MetBy d ∧ FoundIn group field d := by
  unfold fieldConjunction FoundIn
  rw [Conjunction.metBy_pushAll]
  apply and_congr_right
  intro _
  simp only [List.forall_mem_map, SearchTerm.holds_condition, SearchTerm.mem_ofGroup_iff]
  constructor
  · intro hall word hword htext hfree
    exact hall _ ⟨word, hword, rfl, htext, hfree⟩
  · rintro hall _ ⟨word, hword, rfl, htext, hfree⟩
    exact hall word hword htext hfree

theorem accepts_toFilter_iff :
    (query.toFilter fields extra).accepts d = true ↔
      (query.words = [] ∨ fields = []) ∨
        extra.MetBy d ∧ ∃ group ∈ query.words, ∃ field ∈ fields, FoundIn group field d := by
  rw [Filter.accepts_iff]
  apply or_congr
  · unfold toFilter
    simp only [List.flatMap_eq_nil_iff, List.map_eq_nil_iff]
    cases query.words with
    | nil => simp
    | cons group rest => simpa using fun hnone _ _ => hnone
  · unfold toFilter
    simp only [List.mem_flatMap, List.mem_map]
    constructor
    · rintro ⟨_, ⟨group, hgroup, field, hfield, rfl⟩, hmet⟩
      obtain ⟨hextra, hfound⟩ := (metBy_fieldConjunction group field).mp hmet
      exact ⟨hextra, group, hgroup, field, hfield, hfound⟩
    · rintro ⟨hextra, group, hgroup, field, hfield, hfound⟩
      exact ⟨_, ⟨group, hgroup, field, hfield, rfl⟩,
        (metBy_fieldConjunction group field).mpr ⟨hextra, hfound⟩⟩

theorem words_ne_nil_of_parse (hparse : parse raw = .ok query) : query.words ≠ [] := by
  unfold parse at hparse
  cases hwords : Search.words raw with
  | error fault => simp [hwords, Except.map] at hparse
  | ok found =>
      simp only [hwords, Except.map, Except.ok.injEq] at hparse
      subst hparse
      rcases Search.shape_of_words hwords with rfl | ⟨hne, _⟩
      · simp
      · exact hne

/-- A search in at least one field finds the documents that meet the conditions given beforehand
and of which some field holds what some group of the search string asks for. -/
theorem search_finds (raw : String) (query : SearchQuery) (hparse : parse raw = .ok query)
    (fields : List String) (hfields : fields ≠ []) (extra : Conjunction) (d : Document) :
    (query.toFilter fields extra).accepts d = true ↔
      extra.MetBy d ∧ ∃ group ∈ query.words, ∃ field ∈ fields, FoundIn group field d := by
  rw [accepts_toFilter_iff]
  apply or_iff_right
  rintro (hwords | hnone)
  · exact words_ne_nil_of_parse hparse hwords
  · exact hfields hnone

/-- A group with a negated term and a reserved one, and a group of its own. -/
def memberQuery : SearchQuery :=
  ⟨"ann -bot from:me,\"zo e\"", [["ann", "-bot", "from:me"], ["zo e"]]⟩

/-- The nickname is there, and the member is not blocked. -/
def visible : Conjunction :=
  Conjunction.pushAll ∅ [("nick", (Condition.of .null .null).not),
    ("state.blocked", (Condition.of .eq (.bool true)).not)]

/-- A member with two nicknames. -/
def member (first second : String) (blocked : Bool) : Document :=
  OrderedMap.ofList [("nick", .array [.string first, .string second]),
    ("state", .document [("blocked", .bool blocked)])]

theorem parse_memberQuery : parse memberQuery.raw = .ok memberQuery := by
  have hwords : Search.words memberQuery.raw = .ok memberQuery.words := by decide +kernel
  rw [parse, hwords]
  rfl

/-- One nickname is enough to be found, a negated term must be in neither of them, and the
searched field has a condition already. -/
theorem search_finds_member :
    (visible.MetBy (member "Joann" "Jo" false) ∧
        ∃ group ∈ memberQuery.words, ∃ field ∈ ["mail", "nick"],
          FoundIn group field (member "Joann" "Jo" false)) ∧
      ¬ (visible.MetBy (member "Joann" "robot" false) ∧
        ∃ group ∈ memberQuery.words, ∃ field ∈ ["nick"],
          FoundIn group field (member "Joann" "robot" false)) := by
  refine ⟨?_, ?_⟩
  · exact (search_finds memberQuery.raw memberQuery parse_memberQuery ["mail", "nick"] (by simp)
      visible (member "Joann" "Jo" false)).mp (by decide +kernel)
  · intro hfound
    have haccepts := (search_finds memberQuery.raw memberQuery parse_memberQuery ["nick"] (by simp)
      visible (member "Joann" "robot" false)).mpr hfound
    revert haccepts
    decide +kernel

/-- The conditions given beforehand confine a search exactly if there is a field to search, or if
they are conditions that every document meets. -/
theorem search_confined_iff (raw : String) (query : SearchQuery) (hparse : parse raw = .ok query)
    (fields : List String) (extra : Conjunction) :
    (∀ d, (query.toFilter fields extra).accepts d = true → extra.MetBy d) ↔
      fields ≠ [] ∨ ∀ d, extra.MetBy d := by
  simp only [accepts_toFilter_iff, words_ne_nil_of_parse hparse, false_or]
  constructor
  · intro hconfined
    by_cases hfields : fields = []
    · exact .inr fun d => hconfined d (.inl hfields)
    · exact .inl hfields
  · rintro hcause d (hnone | ⟨hextra, _⟩)
    · exact hcause.resolve_left (not_not.mpr hnone) d
    · exact hextra

/-- No search for members in their nicknames finds one that is blocked. -/
theorem search_confined_to_visible :
    parse memberQuery.raw = .ok memberQuery ∧
      ∀ d, (memberQuery.toFilter ["nick"] visible).accepts d = true → visible.MetBy d :=
  ⟨parse_memberQuery, (search_confined_iff memberQuery.raw memberQuery parse_memberQuery ["nick"]
    visible).mpr (.inl (by simp))⟩

/-- A search without fields finds a member that is blocked. -/
theorem search_without_fields_escapes :
    parse memberQuery.raw = .ok memberQuery ∧
      (memberQuery.toFilter [] visible).accepts (member "Joann" "Jo" true) = true ∧
      ¬ visible.MetBy (member "Joann" "Jo" true) := by
  refine ⟨parse_memberQuery, rfl, ?_⟩
  rw [← Conjunction.accepts_iff]
  decide +kernel

end SearchQuery

end DocStore
