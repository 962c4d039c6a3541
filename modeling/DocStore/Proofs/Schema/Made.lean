import DocStore.Proofs.Filter.Conditions
import DocStore.Proofs.Schema.Upsert

/-!
# The document that an upsert makes

A filter that asks for values, one for each of its fields, passes them on to the document that is
made when nothing meets it. Preparation changes such a value only where it is a string that the
field stores in lower case, so this is the only reason why the document may fail to meet the filter
that it was made for. Applied once more, the patch leaves the fields of the document as they are,
except for those that it appends to.
-/

namespace DocStore

/-! ## Filters that ask for values -/

/-- A filter asks every field of a document for the value that the document has there, by one plain
equality for each, and asks nothing else. -/
def Filter.AsksFor (filter : Filter) (values : Document) : Prop :=
  ∃ conjunction : Conjunction, filter.alternatives = [conjunction] ∧
    conjunction.entries = values.entries.map fun entry => (entry.1, [Condition.of .eq entry.2])

namespace Filter.AsksFor

variable {filter : Filter} {values : Document}

theorem equalities (hasks : filter.AsksFor values) : filter.equalities = values.entries := by
  obtain ⟨conjunction, hfilter, hentries⟩ := hasks
  unfold Filter.equalities Conjunction.conditions
  rw [hfilter]
  dsimp only
  rw [hentries, List.flatMap_map, List.filterMap_flatMap]
  exact List.flatMap_singleton' values.entries

theorem get?_equalities (hasks : filter.AsksFor values) (field : String) :
    (OrderedMap.ofList filter.equalities).get? field = values.get? field := by
  rw [hasks.equalities, OrderedMap.ofList, OrderedMap.get?_insertAll _ values.nodup]
  exact Option.or_none ..

theorem accepts_iff (hasks : filter.AsksFor values) {d : Document} :
    filter.accepts d = true ↔ ∀ field value, values.get? field = some value →
      Condition.equalHolds (Document.lookup? d field) value = true := by
  obtain ⟨conjunction, hfilter, hentries⟩ := hasks
  simp [Filter.accepts, Conjunction.accepts, hfilter, hentries, Condition.holds, Condition.of,
    OrderedMap.get?_eq_some_iff]

end Filter.AsksFor

/-! ## What it has been asked for -/

theorem Condition.equalHolds_self {value : Value} (hself : value.equates value = true) :
    equalHolds (some value) value = true := by
  unfold equalHolds
  exact Value.anyPart_iff.mpr (.inl hself)

/-- A field equals a value that is its own if case makes no difference. -/
theorem FieldRule.equalHolds_inCase_iff {rule : FieldRule} {value : Value}
    (hself : value.equates value = true) :
    Condition.equalHolds (some (rule.inCase value)) value = true ↔ rule.inCase value = value := by
  constructor
  · intro hholds
    unfold inCase at hholds ⊢
    cases value with
    | string text =>
        dsimp only at hholds ⊢
        split at hholds
        next hlowercase =>
          rw [if_pos hlowercase]
          simpa [Condition.equalHolds, Value.anyPart, Value.equates, Value.equalScalars,
            Value.number?, Value.same] using hholds
        next hlowercase => rw [if_neg hlowercase]
    | _ => rfl
  · intro hcase
    rw [hcase]
    exact Condition.equalHolds_self hself

namespace Schema

variable {schema : Schema} {now : Instant} {filter : Filter} {patch : Patch} {values d : Document}

/-- The strings of a document are in the case in which its fields are stored. -/
def KeepsCase (schema : Schema) (values : Document) : Prop :=
  ∀ field rule text, schema.get? field = some rule → rule.lowercase = true →
    values.get? field = some (.string text) → Text.toLowerCase text = text

theorem keepsCase_iff : schema.KeepsCase values ↔
    ∀ field rule value, schema.get? field = some rule → values.get? field = some value →
      rule.inCase value = value := by
  constructor
  · intro hcase field rule value hrule hvalue
    cases value with
    | string text =>
        unfold FieldRule.inCase
        dsimp only
        split
        next hlowercase => rw [hcase field rule text hrule hlowercase hvalue]
        next => rfl
    | _ => rfl
  · intro hcase field rule text hrule hlowercase hvalue
    exact FieldRule.toLowerCase_of_inCase hlowercase (hcase field rule _ hrule hvalue)

/-- A value that is asked for is stored, in the case of the field. -/
theorem get?_prepareSeed_of_asked (hseed : schema.prepareSeed now filter patch = .ok d)
    (hasks : filter.AsksFor values) {field : String} {value : Value}
    (hvalue : values.get? field = some value) (hpresent : value.isNull = false)
    (hfree : ¬ patch.Names field) :
    d.get? field = match schema.get? field with
      | none => some value
      | some rule => some (rule.inCase value) := by
  have hsource : (patch.seed filter).get? field = some value := by
    rw [Patch.seed, Patch.get?_apply_of_not_names hfree, hasks.get?_equalities, hvalue]
  have hunset : field ∉ patch.unset := fun hmem => hfree (.inr (.inl hmem))
  rw [get?_prepareSeed hseed, if_neg hunset, hsource]
  cases schema.get? field with
  | none => rfl
  | some rule =>
      dsimp only
      rw [FieldRule.settled, FieldRule.filled_of_not_isNull hpresent]
      rfl

/-- The document that was made for a filter meets it if its strings keep their case. -/
theorem accepts_prepareSeed_iff (hseed : schema.prepareSeed now filter patch = .ok d)
    (hasks : filter.AsksFor values)
    (hself : ∀ field value, values.get? field = some value →
      '.' ∉ field.toList ∧ value.isNull = false ∧ value.equates value = true)
    (hfree : ∀ field ∈ values.names, ¬ patch.Names field) :
    filter.accepts d = true ↔ schema.KeepsCase values := by
  have hfield : ∀ field value, values.get? field = some value →
      (Condition.equalHolds (Document.lookup? d field) value = true ↔
        ∀ rule, schema.get? field = some rule → rule.inCase value = value) := by
    intro field value hvalue
    obtain ⟨hdots, hpresent, hequates⟩ := hself field value hvalue
    rw [Document.lookup?_eq_get? d hdots, get?_prepareSeed_of_asked hseed hasks hvalue hpresent
      (hfree field (OrderedMap.mem_names_of_get? hvalue))]
    cases schema.get? field with
    | none =>
        refine iff_of_true (Condition.equalHolds_self hequates) fun rule hrule => ?_
        cases hrule
    | some rule =>
        dsimp only
        rw [FieldRule.equalHolds_inCase_iff hequates]
        simp
  rw [hasks.accepts_iff, keepsCase_iff]
  constructor
  · intro hholds field rule value hrule hvalue
    exact (hfield field value hvalue).mp (hholds field value hvalue) rule hrule
  · intro hcase field value hvalue
    exact (hfield field value hvalue).mpr fun rule hrule => hcase field rule value hrule hvalue

end Schema

/-! ## The patch once more -/

/-- A patch appends to a field without overwriting it first, or after taking it out. -/
def Patch.Grows (patch : Patch) (field : String) : Prop :=
  field ∈ patch.push.names ∧ (field ∈ patch.unset ∨ field ∉ patch.set.names)

namespace Schema

variable {schema : Schema} {now : Instant} {filter : Filter} {source patch : Patch}
  {values d : Document}

/-- A checked patch names the fields that the patch named. -/
theorem names_of_checkPatch (hcheck : schema.checkPatch source = .ok patch) :
    patch.unset = source.unset ∧ patch.push = source.push ∧
      ∀ field, field ∈ patch.set.names ↔ field ∈ source.set.names := by
  obtain ⟨set, hset, hcheck⟩ := Outcome.bind_eq_ok_iff.mp hcheck
  obtain ⟨_, _, hcheck⟩ := Outcome.bind_eq_ok_iff.mp hcheck
  obtain ⟨_, _, hcheck⟩ := Outcome.bind_eq_ok_iff.mp hcheck
  obtain rfl := Except.ok.inj hcheck
  refine ⟨rfl, rfl, fun field => ?_⟩
  have hstep {sofar after : Document} {entry : String × Value}
      (hstep : (schema.checkWritten entry).map (fun value => sofar.insert entry.1 value) =
        .ok after) : after.get? entry.1 ≠ none ∧
          ∀ name, name ≠ entry.1 → after.get? name = sofar.get? name := by
    obtain ⟨stored, _, rfl⟩ := Outcome.map_eq_ok_iff.mp hstep
    rw [OrderedMap.get?_insert_self]
    exact ⟨nofun, fun name hne => sofar.get?_insert_of_ne hne stored⟩
  obtain ⟨hwritten, hothers⟩ := Outcome.foldlM_entries (fun _ held => held ≠ none)
    (fun h => (hstep h).1) (fun h => (hstep h).2) source.set.nodup hset
  rw [← not_iff_not, ← OrderedMap.get?_eq_none_iff, ← OrderedMap.get?_eq_none_iff]
  constructor
  · intro hnone
    by_contra hsome
    obtain ⟨value, hvalue⟩ := Option.ne_none_iff_exists'.mp hsome
    exact hwritten (field, value) (OrderedMap.get?_eq_some_iff.mp hvalue) hnone
  · intro hnone
    rw [hothers field (OrderedMap.get?_eq_none_iff.mp hnone), hnone]

/-- A value that the patch leaves in a field of the document it has made was there before, unless
the patch appends to what the field held. -/
theorem get?_of_get?_apply (hpermits : schema.Permits patch)
    (hseed : schema.prepareSeed now filter patch = .ok d) {field : String} {value : Value}
    (hstays : ¬ patch.Grows field) (hvalue : (patch.apply d).get? field = some value)
    (hpresent : value.isNull = false) : d.get? field = some value := by
  rw [Patch.get?_apply] at hvalue
  by_cases hunset : field ∈ patch.unset
  · cases hpush : patch.push.get? field with
    | some item => exact absurd ⟨OrderedMap.mem_names_of_get? hpush, .inl hunset⟩ hstays
    | none =>
        rw [hpush] at hvalue
        dsimp only [Patch.kept] at hvalue
        rw [if_pos hunset] at hvalue
        cases hvalue
  cases hset : patch.set.get? field with
  | none =>
      cases hpush : patch.push.get? field with
      | some item =>
          exact absurd ⟨OrderedMap.mem_names_of_get? hpush,
            .inr (OrderedMap.get?_eq_none_iff.mp hset)⟩ hstays
      | none =>
          rw [hpush] at hvalue
          dsimp only [Patch.kept] at hvalue
          rwa [if_neg hunset, hset, Option.none_or] at hvalue
  | some stored =>
      -- What the field held does not matter, so that it comes out the same both times.
      have hkept (e : Document) : patch.kept e field = some stored := by
        rw [Patch.kept, if_neg hunset, hset, Option.some_or]
      have hsource : (patch.seed filter).get? field = some value := by
        rw [Patch.seed, Patch.get?_apply, hkept, ← hvalue, hkept]
      rw [get?_prepareSeed hseed, if_neg hunset, hsource]
      cases hrule : schema.get? field with
      | none => rfl
      | some rule =>
          have hallows : rule.Allows (some value) := by
            rw [hkept] at hvalue
            cases hpush : patch.push.get? field with
            | none =>
                rw [hpush] at hvalue
                obtain rfl := Option.some.inj hvalue
                exact hpermits.writes field rule hrule stored hset
            | some item =>
                rw [hpush] at hvalue
                obtain rfl := Option.some.inj hvalue
                obtain ⟨items, hitems⟩ := Document.exists_appended_eq_array (some stored) item
                rw [hitems]
                exact FieldRule.allows_array
                  (hpermits.pushes field rule hrule (OrderedMap.mem_names_of_get? hpush))
          refine FieldRule.settled_of_allows hallows fun hnull => ?_
          rw [hpresent] at hnull
          cases hnull

end Schema

end DocStore
