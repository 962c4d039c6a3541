import DocStore.Proofs.Document
import DocStore.Proofs.Outcome
import DocStore.Proofs.Text.LowerCase
import DocStore.Schema.Prepare

/-!
# Documents that conform to a schema

What a schema allows a document to hold, field by field. A prepared document conforms, and a
checked patch keeps a document conforming: what it overwrites is in stored form, what it
takes out is not required, and what it appends to holds an array, whatever it held before.
-/

namespace DocStore

/-! ## What a field may hold -/

namespace FieldRule

/-- What a declared field of a stored document may hold. -/
structure Allows (rule : FieldRule) (held : Option Value) : Prop where
  /-- A required field is there and not null. -/
  present : rule.required = true → ∃ value, held = some value ∧ value.isNull = false
  /-- A value that is not null is of the type of the field. -/
  typed : ∀ value, held = some value → value.isNull = false → rule.kind.accepts value = true
  /-- A string is in the case in which the field is stored. -/
  lowered : rule.lowercase = true →
    ∀ text, held = some (.string text) → Text.toLowerCase text = text

variable {rule : FieldRule}

theorem isNull_inCase (value : Value) : (rule.inCase value).isNull = value.isNull := by
  unfold inCase
  split
  · split <;> rfl
  · rfl

/-- A string in the case of a lowercase field is its own lower case. -/
theorem toLowerCase_of_inCase {value : Value} {text : String} (hlowercase : rule.lowercase = true)
    (hcase : rule.inCase value = .string text) : Text.toLowerCase text = text := by
  cases value with
  | string source =>
      simp only [inCase, hlowercase, if_true, Value.string.injEq] at hcase
      rw [← hcase, Text.toLowerCase_toLowerCase]
  | _ => cases hcase

theorem normalize_eq_ok_iff {field : String} {value stored : Value} :
    rule.normalize field value = .ok stored ↔
      stored = rule.inCase value ∧ rule.kind.accepts stored = true := by
  unfold normalize
  constructor
  · intro hnormalize
    split at hnormalize
    next haccepts =>
      obtain rfl := Except.ok.inj hnormalize
      exact ⟨rfl, haccepts⟩
    next => cases hnormalize
  · rintro ⟨rfl, haccepts⟩
    exact if_pos haccepts

theorem normalize_eq_error {field : String} {value : Value} {e : Failure}
    (hnormalize : rule.normalize field value = .error e) :
    ∃ violation, e = .validation violation := by
  unfold normalize at hnormalize
  split at hnormalize
  · cases hnormalize
  · exact ⟨_, (Except.error.inj hnormalize).symm⟩

/-- A field may hold what comes into stored form, null only if it is not required. -/
theorem allows_of_normalize {field : String} {value stored : Value}
    (hnormalize : rule.normalize field value = .ok stored)
    (hpresent : rule.required = true → value.isNull = false) : rule.Allows (some stored) := by
  obtain ⟨rfl, haccepts⟩ := normalize_eq_ok_iff.mp hnormalize
  refine ⟨?_, ?_, ?_⟩
  · intro hrequired
    exact ⟨_, rfl, (isNull_inCase value).trans (hpresent hrequired)⟩
  · rintro held hheld _
    rw [← Option.some.inj hheld]
    exact haccepts
  · intro hlowercase text htext
    exact toLowerCase_of_inCase hlowercase (Option.some.inj htext)

/-- A field that is not required may be missing, or null. -/
theorem allows_missing {held : Option Value} (hoptional : rule.required = false)
    (hmissing : held = none ∨ held = some .null) : rule.Allows held where
  present hrequired := by
    rw [hoptional] at hrequired
    cases hrequired
  typed value hheld hnull := by
    rcases hmissing with hnone | hsome
    · rw [hnone] at hheld
      cases hheld
    · rw [hsome, Option.some.injEq] at hheld
      rw [← hheld] at hnull
      cases hnull
  lowered _ text hheld := by
    rcases hmissing with hnone | hsome
    · rw [hnone] at hheld
      cases hheld
    · rw [hsome] at hheld
      cases hheld

/-- An array is never null, and there is no case in which it would be stored. -/
theorem allows_array {items : List Value} (hkind : rule.kind = .array ∨ rule.kind = .any) :
    rule.Allows (some (.array items)) where
  present _ := ⟨_, rfl, rfl⟩
  typed value hheld _ := by
    obtain rfl := Option.some.inj hheld
    rcases hkind with hkind | hkind
    · rw [hkind]
      rfl
    · rw [hkind]
      rfl
  lowered _ _ hheld := by cases hheld

end FieldRule

namespace Schema

/-- Every declared field of a document holds what it may. -/
def Conforms (schema : Schema) (d : Document) : Prop :=
  ∀ field rule, schema.get? field = some rule → rule.Allows (d.get? field)

/-! ## Prepared documents -/

variable {schema : Schema} {now : Instant}

theorem get?_withDefault_of_ne {d : Document} {field name : String} {rule : FieldRule}
    (hne : name ≠ field) : (withDefault now d field rule).get? name = d.get? name := by
  unfold withDefault
  split
  · exact d.get?_insert_of_ne hne _
  · rfl

/-- A field is settled by writing its value in stored form, or by leaving it without one. -/
theorem settle_cases {d after : Document} {field : String} {rule : FieldRule}
    (hsettle : settle d field rule = .ok after) :
    (∃ value stored, Document.present? d field = some value ∧
        rule.normalize field value = .ok stored ∧ after = d.insert field stored) ∨
      Document.present? d field = none ∧ rule.required = false ∧ after = d := by
  unfold settle at hsettle
  cases hpresent : Document.present? d field with
  | some value =>
      rw [hpresent] at hsettle
      obtain ⟨stored, hnormalize, rfl⟩ := Outcome.map_eq_ok_iff.mp hsettle
      exact .inl ⟨value, stored, rfl, hnormalize, rfl⟩
  | none =>
      rw [hpresent] at hsettle
      dsimp only at hsettle
      split at hsettle
      · cases hsettle
      next hoptional =>
        exact .inr ⟨rfl, Bool.not_eq_true _ ▸ hoptional, (Except.ok.inj hsettle).symm⟩

theorem settle_eq_ok {d after : Document} {field : String} {rule : FieldRule}
    (hsettle : settle d field rule = .ok after) :
    rule.Allows (after.get? field) ∧ ∀ name, name ≠ field → after.get? name = d.get? name := by
  rcases settle_cases hsettle with
    ⟨value, stored, hpresent, hnormalize, rfl⟩ | ⟨hmissing, hoptional, rfl⟩
  · obtain ⟨_, hnull⟩ := Document.present?_eq_some_iff.mp hpresent
    rw [OrderedMap.get?_insert_self]
    refine ⟨FieldRule.allows_of_normalize hnormalize fun _ => hnull, ?_⟩
    exact fun name hne => d.get?_insert_of_ne hne stored
  · refine ⟨?_, fun _ _ => rfl⟩
    exact FieldRule.allows_missing hoptional (Document.present?_eq_none_iff.mp hmissing)

theorem get?_prepareField_of_ne {d after : Document} {entry : String × FieldRule}
    (hstep : prepareField now d entry = .ok after) (name : String) (hne : name ≠ entry.1) :
    after.get? name = d.get? name :=
  ((settle_eq_ok hstep).2 name hne).trans (get?_withDefault_of_ne hne)

theorem conforms_of_prepare {source d : Document} (hprepare : schema.prepare now source = .ok d) :
    schema.Conforms d := by
  have hfields := (Outcome.foldlM_entries (fun entry held => entry.2.Allows held)
    (fun hstep => (settle_eq_ok hstep).1) get?_prepareField_of_ne schema.nodup hprepare).1
  intro field rule hrule
  exact hfields (field, rule) (OrderedMap.get?_eq_some_iff.mp hrule)

/-- A document that cannot be prepared violates its schema; nothing else can go wrong. -/
theorem prepare_eq_error {source : Document} {e : Failure}
    (hprepare : schema.prepare now source = .error e) : ∃ violation, e = .validation violation := by
  refine Outcome.foldlM_eq_error (fun e => ∃ violation, e = .validation violation) ?_ hprepare
  intro d entry e hstep
  unfold prepareField settle at hstep
  split at hstep
  · exact FieldRule.normalize_eq_error (Outcome.map_eq_error_iff.mp hstep)
  · split at hstep
    · exact ⟨_, (Except.error.inj hstep).symm⟩
    · cases hstep

/-! ## Checked patches -/

theorem allows_of_checkWritten {field : String} {rule : FieldRule} {value stored : Value}
    (hrule : schema.get? field = some rule)
    (hwritten : schema.checkWritten (field, value) = .ok stored) : rule.Allows (some stored) := by
  simp only [checkWritten, hrule] at hwritten
  split at hwritten
  · cases hwritten
  next hnull =>
    apply FieldRule.allows_of_normalize hwritten
    intro hrequired
    simpa [hrequired] using hnull

/-- What a checked patch writes into a field is in stored form. -/
theorem checkWritten_of_checkSet {fields set : Document} (hset : schema.checkSet fields = .ok set)
    {field : String} {stored : Value} (hstored : set.get? field = some stored) :
    ∃ value, schema.checkWritten (field, value) = .ok stored := by
  obtain ⟨hwritten, hkept⟩ := Outcome.foldlM_entries
    (fun entry held => ∃ stored, schema.checkWritten entry = .ok stored ∧ held = some stored)
    (fun hstep => by
      obtain ⟨stored, hstored, rfl⟩ := Outcome.map_eq_ok_iff.mp hstep
      exact ⟨stored, hstored, OrderedMap.get?_insert_self _ _ _⟩)
    (fun hstep name hne => by
      obtain ⟨stored, _, rfl⟩ := Outcome.map_eq_ok_iff.mp hstep
      exact OrderedMap.get?_insert_of_ne _ hne stored)
    fields.nodup hset
  cases hvalue : fields.get? field with
  | none =>
      rw [hkept field (OrderedMap.get?_eq_none_iff.mp hvalue), hvalue] at hstored
      cases hstored
  | some value =>
      obtain ⟨written, hcheck, hheld⟩ := hwritten (field, value)
        (OrderedMap.get?_eq_some_iff.mp hvalue)
      rw [hheld] at hstored
      exact ⟨value, Option.some.inj hstored ▸ hcheck⟩

/-- What a patch has to keep to for the documents to stay conforming. -/
structure Permits (schema : Schema) (patch : Patch) : Prop where
  /-- A field may hold what is written into it. -/
  writes : ∀ field rule, schema.get? field = some rule →
    ∀ stored, patch.set.get? field = some stored → rule.Allows (some stored)
  /-- Nothing required is taken out. -/
  unsets : ∀ field rule, schema.get? field = some rule → field ∈ patch.unset →
    rule.required = false
  /-- What is appended to may hold an array. -/
  pushes : ∀ field rule, schema.get? field = some rule → field ∈ patch.push.names →
    rule.kind = .array ∨ rule.kind = .any

theorem permits_of_checkPatch {patch checked : Patch}
    (hcheck : schema.checkPatch patch = .ok checked) : schema.Permits checked := by
  obtain ⟨set, hset, hcheck⟩ := Outcome.bind_eq_ok_iff.mp hcheck
  obtain ⟨_, hunset, hcheck⟩ := Outcome.bind_eq_ok_iff.mp hcheck
  obtain ⟨_, hpush, hcheck⟩ := Outcome.bind_eq_ok_iff.mp hcheck
  obtain rfl := Except.ok.inj hcheck
  refine ⟨?_, ?_, ?_⟩
  · intro field rule hrule stored hstored
    obtain ⟨value, hwritten⟩ := checkWritten_of_checkSet hset hstored
    exact allows_of_checkWritten hrule hwritten
  · intro field rule hrule hmem
    have hfield := Outcome.forM_eq_ok_iff.mp hunset field hmem
    simp only [checkUnset, requires, hrule, Option.any_some] at hfield
    split at hfield
    · cases hfield
    next hoptional => simpa using hoptional
  · intro field rule hrule hmem
    have hfield := Outcome.forM_eq_ok_iff.mp hpush field hmem
    simp only [checkPush, hrule] at hfield
    split at hfield
    next hkind => exact hkind
    next => cases hfield

/-- The three changes may name the same field: whatever is appended to ends as an array, and
otherwise the field keeps what was written or stays without what was taken out. -/
theorem Conforms.apply {patch : Patch} {d : Document} (hpermits : schema.Permits patch)
    (hd : schema.Conforms d) : schema.Conforms (patch.apply d) := by
  intro field rule hrule
  rw [Patch.get?_apply]
  cases hpush : patch.push.get? field with
  | some value =>
      have hmem : field ∈ patch.push.names := OrderedMap.mem_names_of_get? hpush
      obtain ⟨items, hitems⟩ := Document.exists_appended_eq_array (patch.kept d field) value
      dsimp only
      rw [hitems]
      exact FieldRule.allows_array (hpermits.pushes field rule hrule hmem)
  | none =>
      dsimp only [Patch.kept]
      split
      next hunset =>
        exact FieldRule.allows_missing (hpermits.unsets field rule hrule hunset) (.inl rfl)
      next =>
        cases hset : patch.set.get? field with
        | none => exact hd field rule hrule
        | some stored => exact hpermits.writes field rule hrule stored hset

theorem Conforms.eraseAll {patch : Patch} {d : Document} (hpermits : schema.Permits patch)
    (hd : schema.Conforms d) : schema.Conforms (Patch.eraseAll d patch.unset) := by
  intro field rule hrule
  rw [Patch.get?_eraseAll]
  split
  next hunset =>
    exact FieldRule.allows_missing (hpermits.unsets field rule hrule hunset) (.inl rfl)
  next => exact hd field rule hrule

theorem conforms_of_prepareSeed {filter : Filter} {patch : Patch} {d : Document}
    (hpermits : schema.Permits patch) (hseed : schema.prepareSeed now filter patch = .ok d) :
    schema.Conforms d := by
  obtain ⟨prepared, hprepare, rfl⟩ := Outcome.map_eq_ok_iff.mp hseed
  exact (conforms_of_prepare hprepare).eraseAll hpermits

end Schema

end DocStore
