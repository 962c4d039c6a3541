import DocStore.Proofs.Schema.Upsert

/-!
# What preparation makes of a document

The schema is gone through field by field, and a field is filled, put in case and checked
before the next one is looked at. Since no field looks at another one, the same document comes
out of filling all fields first, then putting all of them in case, and checking last. This is
the document that preparation returns, if it returns one, and it prepares to itself.
-/

namespace DocStore

/-! ## A single field -/

namespace FieldRule

/-- Null in a field is the same as nothing there. -/
theorem missing_or_present (held : Option Value) :
    (held = none ∨ held = some .null) ∨ ∃ value, held = some value ∧ value.isNull = false := by
  cases held with
  | none => exact .inl (.inl rfl)
  | some value =>
      cases value with
      | null => exact .inl (.inr rfl)
      | _ => exact .inr ⟨_, rfl, rfl⟩

/-- What a declared field of a document has to hold for preparation to succeed, once defaults and
cases are settled. -/
structure Fits (rule : FieldRule) (held : Option Value) : Prop where
  /-- A required field is there and not null. -/
  present : rule.required = true → ∃ value, held = some value ∧ value.isNull = false
  /-- A value that is not null is of the type of the field. -/
  typed : ∀ value, held = some value → value.isNull = false → rule.kind.accepts value = true

variable {rule : FieldRule} {now later : Instant}

theorem fits_some_iff {value : Value} (hvalue : value.isNull = false) :
    rule.Fits (some value) ↔ rule.kind.accepts value = true := by
  constructor
  · intro hfits
    exact hfits.typed value rfl hvalue
  · intro haccepts
    refine ⟨fun _ => ⟨value, rfl, hvalue⟩, ?_⟩
    rintro other hother _
    exact Option.some.inj hother ▸ haccepts

theorem fits_missing_iff {held : Option Value} (hmissing : held = none ∨ held = some .null) :
    rule.Fits held ↔ rule.required = false := by
  have hnull (value : Value) (hheld : held = some value) : value.isNull = true := by
    rcases hmissing with hnone | hsome
    · rw [hnone] at hheld
      cases hheld
    · rw [hsome, Option.some.injEq] at hheld
      rw [← hheld]
      rfl
  constructor
  · intro hfits
    rw [← Bool.not_eq_true]
    intro hrequired
    obtain ⟨value, hheld, hvalue⟩ := hfits.present hrequired
    rw [hnull value hheld] at hvalue
    cases hvalue
  · intro hoptional
    constructor
    · intro hrequired
      rw [hoptional] at hrequired
      cases hrequired
    · intro value hheld hvalue
      rw [hnull value hheld] at hvalue
      cases hvalue

theorem inCase_inCase (value : Value) : rule.inCase (rule.inCase value) = rule.inCase value := by
  cases value with
  | string text =>
      cases hlowercase : rule.lowercase with
      | true => simp [inCase, hlowercase, Text.toLowerCase_toLowerCase]
      | false => simp [inCase, hlowercase]
  | _ => rfl

theorem filled_of_default_none (hdefault : rule.default = none) (held : Option Value) :
    rule.filled now held = held := by
  simp [filled, hdefault]

theorem filled_of_missing {held : Option Value} {default : FieldDefault}
    (hmissing : held = none ∨ held = some .null) (hdefault : rule.default = some default) :
    rule.filled now held = some (default.resolve now) := by
  rcases hmissing with rfl | rfl
  · simp [filled, hdefault]
  · simp [filled, hdefault, Option.filter, Value.isNull]

theorem default_of_isNull {default : FieldDefault}
    (hnull : (default.resolve now).isNull = true) : default = .literal .null := by
  cases default with
  | literal value =>
      cases value with
      | null => rfl
      | _ => cases hnull
  | now => cases hnull

/-- Once a field is settled, its default has nothing left to fill. -/
theorem filled_settled (held : Option Value) :
    rule.filled later (rule.settled now held) = rule.settled now held := by
  cases hdefault : rule.default with
  | none => exact filled_of_default_none hdefault _
  | some default =>
      rcases missing_or_present held with hmissing | ⟨value, rfl, hvalue⟩
      · rw [settled, filled_of_missing hmissing hdefault, Option.map_some]
        cases hnull : (default.resolve now).isNull with
        | true =>
            -- A default that is null at some time is null at all times.
            obtain rfl := default_of_isNull hnull
            exact filled_of_missing (.inr rfl) hdefault
        | false =>
            apply filled_of_not_isNull
            rw [isNull_inCase, hnull]
      · rw [settled, filled_of_not_isNull hvalue, Option.map_some, filled_of_not_isNull]
        rw [isNull_inCase, hvalue]

theorem settled_settled (held : Option Value) :
    rule.settled later (rule.settled now held) = rule.settled now held := by
  rw [settled, filled_settled, settled, Option.map_map]
  congr 1
  funext value
  exact inCase_inCase value

theorem exists_normalize_iff {field : String} {value : Value} :
    (∃ stored, rule.normalize field value = .ok stored) ↔
      rule.kind.accepts (rule.inCase value) = true := by
  simp only [normalize_eq_ok_iff, exists_eq_left]

end FieldRule

/-! ## All fields at once -/

namespace Schema

/-- The default of a field, if the field is declared and has one. -/
def default? (schema : Schema) (now : Instant) (field : String) : Option Value :=
  (schema.get? field).bind fun rule => rule.default.map (FieldDefault.resolve now)

/-- A value of a document, or the default of its field in the place of null. -/
def fill (schema : Schema) (now : Instant) (field : String) (value : Value) : Value :=
  if value.isNull then (schema.default? now field).getD value else value

/-- A value in the case in which its field stores it, if the field is declared. -/
def inCase (schema : Schema) (field : String) (value : Value) : Value :=
  match schema.get? field with
  | some rule => rule.inCase value
  | none => value

/-- The defaults of fields that a document lacks, in the order in which they were declared. -/
def lacking (now : Instant) (d : Document) (rules : List (String × FieldRule)) :
    List (String × Value) :=
  rules.filterMap fun entry =>
    if d.contains entry.1 then none
    else entry.2.default.map fun default => (entry.1, default.resolve now)

/-- A document with its defaults: in the place of null where the field is there, at the end where
it is not. -/
def withDefaults (schema : Schema) (now : Instant) (d : Document) : List (String × Value) :=
  (d.entries.map fun entry => (entry.1, schema.fill now entry.1 entry.2)) ++
    lacking now d schema.entries

variable {schema : Schema} {now later : Instant} {d : Document}

theorem mem_lacking {rules : List (String × FieldRule)} {field : String} {value : Value} :
    (field, value) ∈ lacking now d rules ↔
      d.contains field = false ∧ ∃ rule, (field, rule) ∈ rules ∧
        rule.default.map (FieldDefault.resolve now) = some value := by
  unfold lacking
  rw [List.mem_filterMap]
  constructor
  · rintro ⟨⟨name, rule⟩, hentry, hdefault⟩
    split at hdefault
    · cases hdefault
    next hcontains =>
      obtain ⟨default, hrule, heq⟩ := Option.map_eq_some_iff.mp hdefault
      obtain ⟨rfl, rfl⟩ := Prod.mk.inj heq
      refine ⟨Bool.not_eq_true _ ▸ hcontains, rule, hentry, ?_⟩
      rw [hrule, Option.map_some]
  · rintro ⟨hcontains, rule, hentry, hdefault⟩
    refine ⟨(field, rule), hentry, ?_⟩
    obtain ⟨default, hrule, rfl⟩ := Option.map_eq_some_iff.mp hdefault
    simp [hcontains, hrule]

/-- Which fields a document lacks does not depend on the time. -/
theorem names_lacking (now : Instant) (d : Document) (rules : List (String × FieldRule)) :
    Entries.names (lacking now d rules) =
      Entries.names (rules.filter fun entry => !d.contains entry.1 && entry.2.default.isSome) := by
  induction rules with
  | nil => rfl
  | cons entry rest ih =>
      obtain ⟨field, rule⟩ := entry
      unfold lacking Entries.names at ih ⊢
      cases hcontains : d.contains field with
      | true => simp [hcontains, ih]
      | false =>
          cases hdefault : rule.default with
          | none => simp [hcontains, hdefault, ih]
          | some default => simp [hcontains, hdefault, ih]

theorem nodup_names_lacking {rules : List (String × FieldRule)}
    (hnodup : (Entries.names rules).Nodup) : (Entries.names (lacking now d rules)).Nodup := by
  rw [names_lacking]
  exact Entries.nodup_names_filter _ hnodup

theorem get?_lacking (schema : Schema) (now : Instant) (d : Document) (field : String) :
    Entries.get? (lacking now d schema.entries) field =
      if d.contains field then none else schema.default? now field := by
  apply Option.ext
  intro value
  rw [Entries.get?_eq_some_iff (nodup_names_lacking schema.nodup), mem_lacking]
  cases d.contains field with
  | true => simp
  | false => simp [default?, Option.bind_eq_some_iff, OrderedMap.get?_eq_some_iff]

theorem names_withDefaults (schema : Schema) (now : Instant) (d : Document) :
    Entries.names (schema.withDefaults now d) =
      d.names ++ Entries.names (lacking now d schema.entries) := by
  unfold withDefaults
  rw [Entries.names_append, Entries.names_map]
  rfl

theorem nodup_names_withDefaults (schema : Schema) (now : Instant) (d : Document) :
    (Entries.names (schema.withDefaults now d)).Nodup := by
  rw [names_withDefaults]
  refine List.Nodup.append d.nodup (nodup_names_lacking schema.nodup) ?_
  intro field hfield hlacking
  obtain ⟨⟨name, value⟩, hentry, rfl⟩ := List.mem_map.mp hlacking
  have hnone : d.get? name = none := by
    simpa [OrderedMap.contains] using (mem_lacking.mp hentry).1
  exact OrderedMap.get?_eq_none_iff.mp hnone hfield

/-- A document with its defaults and its strings in case. -/
def completed (schema : Schema) (now : Instant) (d : Document) : Document where
  entries := (schema.withDefaults now d).map fun entry => (entry.1, schema.inCase entry.1 entry.2)
  nodup := by
    rw [Entries.names_map]
    exact schema.nodup_names_withDefaults now d

theorem names_completed (schema : Schema) (now : Instant) (d : Document) :
    (schema.completed now d).names = d.names ++ Entries.names (lacking now d schema.entries) :=
  (Entries.names_map schema.inCase _).trans (schema.names_withDefaults now d)

/-- What is in a declared field and what is added for it make up what fills it. -/
theorem fill_or_default_eq_filled {field : String} {rule : FieldRule}
    (hrule : schema.get? field = some rule) (held : Option Value) :
    (held.map (schema.fill now field)).or
        (if held.isSome then none else schema.default? now field) = rule.filled now held := by
  cases hdefault : rule.default with
  | none =>
      rw [FieldRule.filled_of_default_none hdefault]
      cases held with
      | none => simp [default?, hrule, hdefault]
      | some value => simp [fill, default?, hrule, hdefault]
  | some default =>
      rcases FieldRule.missing_or_present held with hmissing | ⟨value, rfl, hpresent⟩
      · rw [FieldRule.filled_of_missing hmissing hdefault]
        rcases hmissing with rfl | rfl
        · simp [default?, hrule, hdefault]
        · simp [fill, default?, hrule, hdefault, Value.isNull]
      · rw [FieldRule.filled_of_not_isNull hpresent]
        simp [fill, hpresent]

/-- A declared field of the completed document is settled, and the others are as they were. -/
theorem get?_completed (schema : Schema) (now : Instant) (d : Document) (field : String) :
    (schema.completed now d).get? field =
      match schema.get? field with
      | none => d.get? field
      | some rule => rule.settled now (d.get? field) := by
  have hget : (schema.completed now d).get? field =
      (((d.get? field).map (schema.fill now field)).or
        (if (d.get? field).isSome then none else schema.default? now field)).map
          (schema.inCase field) := by
    rw [OrderedMap.get?, completed, Entries.get?_map, withDefaults, Entries.get?_append,
      Entries.get?_map, get?_lacking]
    rfl
  rw [hget]
  cases hrule : schema.get? field with
  | none =>
      cases d.get? field with
      | none => simp [default?, hrule]
      | some value => simp [fill, inCase, default?, hrule]
  | some rule =>
      have hcase : schema.inCase field = rule.inCase := by
        funext value
        simp only [inCase, hrule]
      rw [fill_or_default_eq_filled hrule, hcase]
      rfl

/-- Every declared field of a document fits. -/
def Fits (schema : Schema) (d : Document) : Prop :=
  ∀ field rule, schema.get? field = some rule → rule.Fits (d.get? field)

/-! ## The loop over the fields -/

theorem exists_settle_iff (d : Document) (field : String) (rule : FieldRule) :
    (∃ after, settle d field rule = .ok after) ↔ rule.Fits ((d.get? field).map rule.inCase) := by
  unfold settle
  cases hpresent : Document.present? d field with
  | some value =>
      obtain ⟨hvalue, hnull⟩ := Document.present?_eq_some_iff.mp hpresent
      rw [hvalue, Option.map_some, FieldRule.fits_some_iff ((rule.isNull_inCase value).trans hnull)]
      exact Outcome.exists_map_eq_ok_iff.trans FieldRule.exists_normalize_iff
  | none =>
      have hmissing : (d.get? field).map rule.inCase = none ∨
          (d.get? field).map rule.inCase = some .null := by
        rcases Document.present?_eq_none_iff.mp hpresent with hnone | hnull
        · exact .inl (by rw [hnone, Option.map_none])
        · exact .inr (by rw [hnull]; rfl)
      rw [FieldRule.fits_missing_iff hmissing]
      cases hrequired : rule.required with
      | true => simp
      | false => simp

theorem exists_prepareField_iff {entry : String × FieldRule} :
    (∃ after, prepareField now d entry = .ok after) ↔
      entry.2.Fits (entry.2.settled now (d.get? entry.1)) := by
  unfold prepareField
  rw [exists_settle_iff, get?_withDefault]
  rfl

theorem names_withDefault (now : Instant) (d : Document) (field : String) (rule : FieldRule) :
    (withDefault now d field rule).names =
      d.names ++ Entries.names (lacking now d [(field, rule)]) := by
  unfold withDefault
  cases hdefault : rule.default with
  | none => simp [lacking, Entries.names, hdefault]
  | some default =>
      cases hpresent : Document.present? d field with
      | none =>
          cases hcontains : d.contains field with
          | true => simp [lacking, Entries.names, hcontains, OrderedMap.names_insert]
          | false => simp [lacking, Entries.names, hcontains, hdefault, OrderedMap.names_insert]
      | some value => simp [lacking, Entries.names, Document.contains_of_present? hpresent]

theorem names_settle {after : Document} {field : String} {rule : FieldRule}
    (hsettle : settle d field rule = .ok after) : after.names = d.names := by
  rcases settle_cases hsettle with ⟨value, stored, hpresent, _, rfl⟩ | ⟨_, _, rfl⟩
  · rw [OrderedMap.names_insert, if_pos (Document.contains_of_present? hpresent)]
  · rfl

theorem names_prepare_entries {rules : List (String × FieldRule)}
    (hnodup : (Entries.names rules).Nodup) {after : Document}
    (hwork : rules.foldlM (prepareField now) d = .ok after) :
    after.names = d.names ++ Entries.names (lacking now d rules) := by
  induction rules generalizing d with
  | nil =>
      obtain rfl : d = after := Except.ok.inj hwork
      exact (List.append_nil _).symm
  | cons entry rest ih =>
      obtain ⟨hfresh, hrest⟩ := List.nodup_cons.mp hnodup
      obtain ⟨middle, hstep, hwork⟩ := Outcome.bind_eq_ok_iff.mp hwork
      -- The first field adds no name but its own, so the document still lacks the others.
      have hlacking : lacking now middle rest = lacking now d rest := by
        apply List.filterMap_congr
        intro later hlater
        rw [OrderedMap.contains, OrderedMap.contains,
          get?_prepareField_of_ne hstep later.1 (Entries.ne_of_notMem_names hfresh hlater)]
      rw [ih hrest hwork, hlacking, names_settle hstep, names_withDefault, List.append_assoc,
        ← Entries.names_append]
      exact congrArg _ (congrArg _ List.filterMap_append.symm)

theorem eq_completed_of_prepare {prepared : Document}
    (hprepare : schema.prepare now d = .ok prepared) : prepared = schema.completed now d := by
  apply OrderedMap.eq_of_names_eq
  · rw [names_completed]
    exact names_prepare_entries schema.nodup hprepare
  · intro field
    exact (get?_prepare hprepare field).trans (schema.get?_completed now d field).symm

theorem exists_prepare_iff (schema : Schema) (now : Instant) (d : Document) :
    (∃ prepared, schema.prepare now d = .ok prepared) ↔
      schema.Fits (schema.completed now d) := by
  have hentries := Outcome.exists_foldlM_entries_iff
    (fun entry held => entry.2.Fits (entry.2.settled now held)) exists_prepareField_iff
    get?_prepareField_of_ne schema.nodup d
  refine hentries.trans ⟨?_, ?_⟩
  · intro hfits field rule hrule
    rw [get?_completed, hrule]
    exact hfits (field, rule) (OrderedMap.get?_eq_some_iff.mp hrule)
  · rintro hfits ⟨field, rule⟩ hentry
    have hrule : schema.get? field = some rule := OrderedMap.get?_eq_some_iff.mpr hentry
    have hfield := hfits field rule hrule
    rwa [get?_completed, hrule] at hfield

/-- A completed document has everything that the schema has a default for. -/
theorem lacking_completed (schema : Schema) (now later : Instant) (d : Document) :
    lacking later (schema.completed now d) schema.entries = [] := by
  rw [List.eq_nil_iff_forall_not_mem]
  rintro ⟨field, value⟩ hmem
  obtain ⟨hcontains, rule, hentry, hdefault⟩ := mem_lacking.mp hmem
  obtain ⟨default, hrule, _⟩ := Option.map_eq_some_iff.mp hdefault
  have hsettled : rule.settled now (d.get? field) = none := by
    rw [OrderedMap.contains, get?_completed, OrderedMap.get?_eq_some_iff.mpr hentry] at hcontains
    simpa using hcontains
  -- What is settled cannot be filled, and a missing field with a default can.
  have hfilled : rule.filled later (rule.settled now (d.get? field)) = rule.settled now _ :=
    FieldRule.filled_settled _
  rw [hsettled, FieldRule.filled_of_missing (.inl rfl) hrule] at hfilled
  cases hfilled

/-- Completing a document a second time, at whatever time, changes nothing. -/
theorem completed_completed (schema : Schema) (now later : Instant) (d : Document) :
    schema.completed later (schema.completed now d) = schema.completed now d := by
  apply OrderedMap.eq_of_names_eq
  · rw [names_completed, lacking_completed]
    exact List.append_nil _
  · intro field
    rw [get?_completed, get?_completed]
    cases schema.get? field with
    | none => rfl
    | some rule => exact FieldRule.settled_settled (d.get? field)

/-- Preparation succeeds exactly if every declared field of the completed document fits, and then it
returns this document: the fields stand where they stood, what is not declared is as it was, and
preparing the document again, at whatever time, changes nothing. -/
theorem prepare_completes (schema : Schema) (now : Instant) (d : Document) :
    ((∃ prepared, schema.prepare now d = .ok prepared) ↔
        schema.Fits (schema.completed now d)) ∧
      ∀ prepared, schema.prepare now d = .ok prepared →
        prepared = schema.completed now d ∧
          d.names <+: prepared.names ∧
          (∀ field, schema.get? field = none → prepared.get? field = d.get? field) ∧
          ∀ later, schema.prepare later prepared = .ok prepared := by
  refine ⟨schema.exists_prepare_iff now d, ?_⟩
  intro prepared hprepare
  have hfits := (schema.exists_prepare_iff now d).mp ⟨prepared, hprepare⟩
  obtain rfl := eq_completed_of_prepare hprepare
  refine ⟨rfl, ?_, ?_, ?_⟩
  · rw [names_completed]
    exact List.prefix_append ..
  · intro field hfree
    rw [get?_completed, hfree]
  · intro later
    have hlater := completed_completed schema now later d
    obtain ⟨again, hagain⟩ := (schema.exists_prepare_iff later (schema.completed now d)).mpr
      (hlater.symm ▸ hfits)
    rw [hagain, eq_completed_of_prepare hagain, hlater]

/-- Visitors with the time of their arrival, a name, a rank and an address. -/
def visitorSchema : Schema :=
  OrderedMap.ofList
    [("arrived", { FieldRule.ofType .date with default := some .now }),
      ("name", { FieldRule.ofType .string with
        lowercase := true, default := some (.literal (.string "Guest")) }),
      ("rank", { FieldRule.ofType .number with default := some (.literal (.int32 0)) }),
      ("mail", { FieldRule.ofType .string with required := true, lowercase := true })]

/-- A visitor whose rank is null, with a note that is not declared. -/
def visitor : Document :=
  OrderedMap.ofList [("rank", .null), ("note", .string "Hi"), ("mail", .string "A@x")]

/-- The visitor at the first time, which is the same at the second one. -/
def preparedVisitor : Document :=
  OrderedMap.ofList
    [("rank", .int32 0), ("note", .string "Hi"), ("mail", .string "a@x"), ("arrived", .dateTime 1),
      ("name", .string "guest")]

/-- Without an address there is no visitor. -/
theorem prepare_completes_visitor :
    visitorSchema.prepare 1 visitor = .ok preparedVisitor ∧
      visitorSchema.completed 1 visitor = preparedVisitor ∧
      visitorSchema.Fits preparedVisitor ∧
      visitorSchema.prepare 2 preparedVisitor = .ok preparedVisitor ∧
      ¬ visitorSchema.Fits (visitorSchema.completed 1 ∅) := by
  have hprepare : visitorSchema.prepare 1 visitor = .ok preparedVisitor := rfl
  obtain ⟨hfits, hprepared⟩ := prepare_completes visitorSchema 1 visitor
  obtain ⟨hcompleted, _, _, hlater⟩ := hprepared preparedVisitor hprepare
  refine ⟨hprepare, hcompleted.symm, ?_, hlater 2, ?_⟩
  · rw [hcompleted]
    exact hfits.mp ⟨preparedVisitor, hprepare⟩
  · rw [← (prepare_completes visitorSchema 1 ∅).1]
    rintro ⟨prepared, hempty⟩
    cases hempty

end Schema

end DocStore
