import DocStore.Proofs.Schema.Conformity

/-!
# Two ways to make the document of an upsert

The document of an upsert is the prepared seed. It can also be made from what the patch leaves
of this document, by applying the patch to that once more. The two ways agree unless the patch
writes null into a field with a default: preparation takes null for a missing value, and the
patch does not.
-/

namespace DocStore

/-! ## What preparation does to a field -/

namespace FieldRule

/-- What a field holds once its default is applied. -/
def filled (rule : FieldRule) (now : Instant) (held : Option Value) : Option Value :=
  match held.filter fun value => !value.isNull, rule.default with
  | none, some default => some (default.resolve now)
  | _, _ => held

/-- What a declared field of a prepared document holds, by what it held before. -/
def settled (rule : FieldRule) (now : Instant) (held : Option Value) : Option Value :=
  (rule.filled now held).map rule.inCase

variable {rule : FieldRule} {now : Instant}

theorem filled_of_not_isNull {value : Value} (hvalue : value.isNull = false) :
    rule.filled now (some value) = some value := by
  simp [filled, Option.filter, hvalue]

/-- What a field may hold stands in the case of the field. -/
theorem Allows.inCase_eq {value : Value} (hallows : rule.Allows (some value)) :
    rule.inCase value = value := by
  unfold inCase
  split
  next text =>
    split
    next hlowercase => rw [hallows.lowered hlowercase text rfl]
    next => rfl
  next => rfl

/-- Preparation keeps what a field may hold, unless it is null and gives way to a default. -/
theorem settled_of_allows {value : Value} (hallows : rule.Allows (some value))
    (hkept : value.isNull = true → rule.default = none) :
    rule.settled now (some value) = some value := by
  have hfilled : rule.filled now (some value) = some value := by
    cases hnull : value.isNull with
    | false => exact filled_of_not_isNull hnull
    | true => simp [filled, hkept hnull]
  rw [settled, hfilled, Option.map_some, hallows.inCase_eq]

theorem settled_null {default : FieldDefault} (hdefault : rule.default = some default) :
    rule.settled now (some .null) = some (rule.inCase (default.resolve now)) := by
  simp [settled, filled, hdefault, Option.filter, Value.isNull]

/-- Preparation changes what a field may hold only if it is null and the default is not. -/
theorem settled_eq_self_iff {value : Value} (hallows : rule.Allows (some value)) :
    rule.settled now (some value) = some value ↔
      ¬ (value = .null ∧ ∃ default, rule.default = some default ∧
        (default.resolve now).isNull = false) := by
  by_cases hnull : value = .null
  · subst hnull
    cases hdefault : rule.default with
    | none =>
        refine iff_of_true (settled_of_allows hallows fun _ => hdefault) ?_
        rintro ⟨_, default, hsome, _⟩
        cases hsome
    | some default =>
        rw [settled_null hdefault, Option.some.injEq]
        constructor
        · rintro hcase ⟨_, other, hother, hpresent⟩
          obtain rfl := Option.some.inj hother
          rw [← rule.isNull_inCase, hcase] at hpresent
          cases hpresent
        · intro hnone
          cases hresolved : default.resolve now with
          | null => rfl
          | _ => exact absurd ⟨rfl, default, rfl, by rw [hresolved]; rfl⟩ hnone
  · refine iff_of_true (settled_of_allows hallows fun hisNull => ?_) fun h => hnull h.1
    cases value with
    | null => exact absurd rfl hnull
    | _ => cases hisNull

end FieldRule

namespace Schema

variable {schema : Schema} {now : Instant}

theorem get?_withDefault (d : Document) (field : String) (rule : FieldRule) :
    (withDefault now d field rule).get? field = rule.filled now (d.get? field) := by
  unfold withDefault FieldRule.filled Document.present?
  cases (d.get? field).filter fun value => !value.isNull with
  | none =>
      cases rule.default with
      | none => rfl
      | some default => exact d.get?_insert_self field _
  | some value => rfl

theorem get?_settle {d after : Document} {field : String} {rule : FieldRule}
    (hsettle : settle d field rule = .ok after) :
    after.get? field = (d.get? field).map rule.inCase := by
  rcases settle_cases hsettle with
    ⟨value, stored, hpresent, hnormalize, rfl⟩ | ⟨hmissing, _, rfl⟩
  · obtain ⟨rfl, _⟩ := FieldRule.normalize_eq_ok_iff.mp hnormalize
    rw [OrderedMap.get?_insert_self, (Document.present?_eq_some_iff.mp hpresent).1]
    rfl
  · rcases Document.present?_eq_none_iff.mp hmissing with hnone | hnull
    · rw [hnone]
      rfl
    · rw [hnull]
      rfl

/-- A declared field is settled, and the other fields stay as they are. -/
theorem get?_prepare {source d : Document} (hprepare : schema.prepare now source = .ok d)
    (field : String) :
    d.get? field = match schema.get? field with
      | none => source.get? field
      | some rule => rule.settled now (source.get? field) := by
  obtain ⟨hdeclared, hothers⟩ := Outcome.foldlM_updates
    (fun entry before held => held = entry.2.settled now before)
    (fun hstep => (get?_settle hstep).trans (by rw [get?_withDefault]; rfl))
    get?_prepareField_of_ne schema.nodup hprepare
  cases hrule : schema.get? field with
  | none => exact hothers field (OrderedMap.get?_eq_none_iff.mp hrule)
  | some rule => exact hdeclared (field, rule) (OrderedMap.get?_eq_some_iff.mp hrule)

end Schema

/-! ## Seeds -/

/-- A filter with a single alternative has a plain equality on a field. -/
def Filter.Fixes (filter : Filter) (field : String) : Prop :=
  ∃ conjunction conditions condition, filter.alternatives = [conjunction] ∧
    conjunction.get? field = some conditions ∧ condition ∈ conditions ∧
    condition.op = .eq ∧ condition.negated = false

theorem Filter.fixes_of_mem_equalities {filter : Filter} {field : String} {value : Value}
    (hmem : (field, value) ∈ filter.equalities) : filter.Fixes field := by
  unfold Filter.equalities at hmem
  split at hmem
  next conjunction hfilter =>
    obtain ⟨⟨name, condition⟩, hcondition, hequality⟩ := List.mem_filterMap.mp hmem
    dsimp only at hequality
    split at hequality
    next hplain =>
      obtain ⟨rfl, _⟩ := Prod.mk.inj (Option.some.inj hequality)
      obtain ⟨⟨other, conditions⟩, hentry, hpair⟩ := List.mem_flatMap.mp hcondition
      obtain ⟨found, hfound, heq⟩ := List.mem_map.mp hpair
      obtain ⟨rfl, rfl⟩ := Prod.mk.inj heq
      exact ⟨conjunction, conditions, found, hfilter, OrderedMap.get?_eq_some_iff.mpr hentry,
        hfound, hplain.1, hplain.2⟩
    next => cases hequality
  next => cases hmem

/-- What is not fixed is not in the seed before the patch. -/
theorem Filter.get?_equalities {filter : Filter} {field : String} (hfree : ¬ filter.Fixes field) :
    (OrderedMap.ofList filter.equalities).get? field = none := by
  unfold OrderedMap.ofList
  rw [OrderedMap.get?_insertAll_of_notMem]
  · rfl
  · intro hmem
    obtain ⟨⟨name, value⟩, hentry, rfl⟩ := List.mem_map.mp hmem
    exact hfree (Filter.fixes_of_mem_equalities hentry)

namespace Patch

variable {patch : Patch}

theorem get?_remainder (d : Document) (field : String) :
    (patch.remainder d).get? field =
      if patch.set.contains field || patch.push.contains field then none else d.get? field := by
  unfold remainder
  rw [OrderedMap.get?_filter d fun field => !patch.set.contains field && !patch.push.contains field]
  cases patch.set.contains field <;> cases patch.push.contains field <;> rfl

end Patch

namespace Schema

variable {schema : Schema} {now : Instant} {filter : Filter} {patch : Patch} {d : Document}

/-- A field of the document that an upsert makes: taken out, or settled from the seed. -/
theorem get?_prepareSeed (hseed : schema.prepareSeed now filter patch = .ok d) (field : String) :
    d.get? field =
      if field ∈ patch.unset then none
      else match schema.get? field with
        | none => (patch.seed filter).get? field
        | some rule => rule.settled now ((patch.seed filter).get? field) := by
  obtain ⟨prepared, hprepare, rfl⟩ := Outcome.map_eq_ok_iff.mp hseed
  rw [Patch.get?_eraseAll, get?_prepare hprepare]

/-- What the patch appends to is made by the patch alone, both times. -/
theorem get?_apply_remainder_of_push (hseed : schema.prepareSeed now filter patch = .ok d)
    {field : String} {value : Value} (hpush : patch.push.get? field = some value)
    (hunset : field ∉ patch.unset) (hfree : ¬ filter.Fixes field) :
    (patch.apply (patch.remainder d)).get? field = d.get? field := by
  have hkept (base : Document) (hbase : base.get? field = none) :
      patch.kept base field = patch.set.get? field := by
    rw [Patch.kept, if_neg hunset, hbase, Option.or_none]
  have hremainder : (patch.remainder d).get? field = none := by
    rw [Patch.get?_remainder]
    simp [OrderedMap.contains, hpush]
  obtain ⟨items, hitems⟩ := Document.exists_appended_eq_array (patch.set.get? field) value
  have hsource : (patch.seed filter).get? field = some (.array items) := by
    rw [Patch.seed, Patch.get?_apply, hpush]
    dsimp only
    rw [hkept _ (Filter.get?_equalities hfree), hitems]
  rw [get?_prepareSeed hseed, if_neg hunset, hsource, Patch.get?_apply, hpush]
  dsimp only
  rw [hkept _ hremainder, hitems]
  cases schema.get? field with
  | none => rfl
  | some rule => rfl

/-- What the patch does not append to is written by it, or comes from the document. -/
theorem get?_apply_remainder_of_not_push {field : String} (hpush : patch.push.get? field = none)
    (hunset : field ∉ patch.unset) :
    (patch.apply (patch.remainder d)).get? field = (patch.set.get? field).or (d.get? field) := by
  rw [Patch.get?_apply, hpush]
  dsimp only
  rw [Patch.kept, if_neg hunset, Patch.get?_remainder]
  cases hset : patch.set.get? field with
  | some value => rfl
  | none => simp [OrderedMap.contains, hset, hpush]

theorem get?_prepareSeed_of_set (hseed : schema.prepareSeed now filter patch = .ok d)
    {field : String} {value : Value} (hpush : patch.push.get? field = none)
    (hunset : field ∉ patch.unset) (hset : patch.set.get? field = some value) :
    d.get? field = match schema.get? field with
      | none => some value
      | some rule => rule.settled now (some value) := by
  have hsource : (patch.seed filter).get? field = some value := by
    rw [Patch.seed, Patch.get?_apply, hpush]
    dsimp only
    rw [Patch.kept, if_neg hunset, hset, Option.some_or]
  rw [get?_prepareSeed hseed, if_neg hunset, hsource]

/-- A patch writes null into a field, and leaves it there, for which the schema has a default
that is not null. -/
structure Overrides (schema : Schema) (now : Instant) (patch : Patch) (field : String) : Prop where
  nulled : patch.set.get? field = some .null
  kept : field ∉ patch.unset
  unpushed : field ∉ patch.push.names
  defaulted : ∃ rule default, schema.get? field = some rule ∧ rule.default = some default ∧
    (default.resolve now).isNull = false

/-- A field holds the same in both documents unless its default overrides what is written. -/
theorem get?_apply_remainder_eq_iff (hpermits : schema.Permits patch)
    (hseed : schema.prepareSeed now filter patch = .ok d) {field : String}
    (happart : field ∈ patch.push.names → field ∉ patch.unset ∧ ¬ filter.Fixes field) :
    (patch.apply (patch.remainder d)).get? field = d.get? field ↔
      ¬ schema.Overrides now patch field := by
  cases hpush : patch.push.get? field with
  | some value =>
      have hmem : field ∈ patch.push.names := OrderedMap.mem_names_of_get? hpush
      obtain ⟨hunset, hfree⟩ := happart hmem
      refine iff_of_true (get?_apply_remainder_of_push hseed hpush hunset hfree) ?_
      exact fun hoverrides => hoverrides.unpushed hmem
  | none =>
      by_cases hunset : field ∈ patch.unset
      · refine iff_of_true ?_ fun hoverrides => hoverrides.kept hunset
        rw [get?_prepareSeed hseed, if_pos hunset, Patch.get?_apply, hpush]
        exact if_pos hunset
      · rw [get?_apply_remainder_of_not_push hpush hunset]
        cases hset : patch.set.get? field with
        | none =>
            refine iff_of_true (Option.none_or ..) fun hoverrides => ?_
            have hnulled := hoverrides.nulled
            rw [hset] at hnulled
            cases hnulled
        | some value =>
            rw [Option.some_or, get?_prepareSeed_of_set hseed hpush hunset hset]
            cases hrule : schema.get? field with
            | none =>
                refine iff_of_true rfl fun hoverrides => ?_
                obtain ⟨rule, _, hdeclared, _⟩ := hoverrides.defaulted
                rw [hrule] at hdeclared
                cases hdeclared
            | some rule =>
                have hallows := hpermits.writes field rule hrule value hset
                rw [eq_comm, FieldRule.settled_eq_self_iff hallows, not_iff_not]
                constructor
                · rintro ⟨rfl, default, hdefault, hpresent⟩
                  exact ⟨hset, hunset, OrderedMap.get?_eq_none_iff.mp hpush, rule, default, hrule,
                    hdefault, hpresent⟩
                · rintro ⟨hnulled, _, _, other, default, hother, hdefault, hpresent⟩
                  obtain rfl : value = .null := Option.some.inj (hset.symm.trans hnulled)
                  obtain rfl : rule = other := Option.some.inj (hrule.symm.trans hother)
                  exact ⟨rfl, default, hdefault, hpresent⟩

/-- For a checked patch that appends to no field it takes out or the filter fixes, the two ways
of making the document of an upsert lead to the same fields with the same values exactly if no
default overrides a null that the patch writes. -/
theorem upsert_routes_agree_iff (schema : Schema) (now : Instant) (filter : Filter)
    (source patch : Patch) (d : Document) (hcheck : schema.checkPatch source = .ok patch)
    (hunset : ∀ field ∈ patch.push.names, field ∉ patch.unset)
    (hfree : ∀ field ∈ patch.push.names, ¬ filter.Fixes field)
    (hseed : schema.prepareSeed now filter patch = .ok d) :
    (patch.apply (patch.remainder d)).entries.Perm d.entries ↔
      ∀ field, ¬ schema.Overrides now patch field := by
  rw [OrderedMap.entries_perm_iff]
  apply forall_congr'
  intro field
  exact get?_apply_remainder_eq_iff (permits_of_checkPatch hcheck) hseed
    fun hmem => ⟨hunset field hmem, hfree field hmem⟩

/-! ## Members and ranks -/

/-- Members with an address in lower case, a rank that is zero unless it is given, a nickname
and tags. -/
def memberSchema : Schema :=
  OrderedMap.ofList
    [("mail", { FieldRule.ofType .string with required := true, lowercase := true }),
      ("rank", { FieldRule.ofType .number with default := some (.literal (.int32 0)) }),
      ("nick", { FieldRule.ofType .string with lowercase := true }),
      ("tags", FieldRule.ofType .array)]

/-- The filter for an address. -/
def byMail : Filter :=
  .single (Conjunction.push ∅ "mail" (.of .eq (.string "A@x")))

/-- Write a nickname and a null, take the rank out, and append a tag. -/
def joining (nick : String) : Patch :=
  ⟨OrderedMap.ofList [("nick", .string nick), ("left", .null)], ["rank"],
    OrderedMap.ofList [("tags", .string "New")]⟩

/-- A null is kept where there is no default, and a default stays away where the patch takes
the field out. -/
theorem upsert_routes_agree_iff_joining :
    memberSchema.checkPatch (joining "Al") = .ok (joining "al") ∧
      memberSchema.prepareSeed 0 byMail (joining "al") =
        .ok (OrderedMap.ofList [("mail", .string "a@x"), ("nick", .string "al"), ("left", .null),
          ("tags", .array [.string "New"])]) ∧
      ((joining "al").apply ((joining "al").remainder
        (OrderedMap.ofList [("mail", .string "a@x"), ("nick", .string "al"), ("left", .null),
          ("tags", .array [.string "New"])]))).entries.Perm
        [("mail", .string "a@x"), ("nick", .string "al"), ("left", .null),
          ("tags", .array [.string "New"])] := by
  have hcheck : memberSchema.checkPatch (joining "Al") = .ok (joining "al") := rfl
  have hseed : memberSchema.prepareSeed 0 byMail (joining "al") =
      .ok (OrderedMap.ofList [("mail", .string "a@x"), ("nick", .string "al"), ("left", .null),
        ("tags", .array [.string "New"])]) := rfl
  have hunset : ∀ field ∈ (joining "al").push.names, field ∉ (joining "al").unset := by decide
  have hfree : ∀ field ∈ (joining "al").push.names, ¬ byMail.Fixes field := by
    rintro field hmem ⟨conjunction, conditions, condition, hfilter, hconditions, _⟩
    obtain rfl : field = "tags" := List.mem_singleton.mp hmem
    obtain rfl : Conjunction.push ∅ "mail" (.of .eq (.string "A@x")) = conjunction :=
      List.singleton_inj.mp hfilter
    cases hconditions
  refine ⟨hcheck, hseed, ?_⟩
  refine (upsert_routes_agree_iff memberSchema 0 byMail (joining "Al") (joining "al") _ hcheck
    hunset hfree hseed).mpr ?_
  rintro field ⟨hnulled, _, _, rule, default, hrule, _, _⟩
  have hmem : (field, Value.null) ∈ [("nick", Value.string "al"), ("left", Value.null)] :=
    OrderedMap.get?_eq_some_iff.mp hnulled
  obtain rfl : field = "left" := by simpa using hmem
  cases hrule

/-- A schema with a number that is zero unless it is given. -/
def rankSchema : Schema :=
  OrderedMap.ofList
    [("rank", { FieldRule.ofType .number with default := some (.literal (.int32 0)) })]

/-- Write null for the number. -/
def nulling : Patch := ⟨OrderedMap.ofList [("rank", .null)], [], ∅⟩

/-- The document of the upsert has the default, and the patch makes it null. -/
theorem upsert_routes_differ :
    rankSchema.checkPatch nulling = .ok nulling ∧ nulling.push.names = [] ∧
      rankSchema.prepareSeed 0 .all nulling = .ok (OrderedMap.ofList [("rank", .int32 0)]) ∧
      nulling.apply (nulling.remainder (OrderedMap.ofList [("rank", .int32 0)])) =
        OrderedMap.ofList [("rank", .null)] ∧
      ¬ (nulling.apply (nulling.remainder (OrderedMap.ofList [("rank", .int32 0)]))).entries.Perm
        (OrderedMap.ofList [("rank", Value.int32 0)]).entries := by
  refine ⟨rfl, rfl, rfl, rfl, ?_⟩
  intro hperm
  have hrank := OrderedMap.entries_perm_iff.mp hperm "rank"
  cases hrank

end Schema

end DocStore
