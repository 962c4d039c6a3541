import DocStore.Proofs.Database.UniqueCheck

/-!
# What a conflict says

A document is refused with a conflict that names a unique field. The document that stands in the way
is found by the equality of conditions, but the field to name is looked for by sameness, type
included. As long as the found document shares one of the values in this finer sense, and no decimal
in it is not a number, the named field is one in which the documents collide. Otherwise the first
unique value is blamed, whether or not any document has it.
-/

namespace DocStore

namespace Entity

variable {entity : Entity} {store : Store} {now : Instant} {d stored : Document}
  {name field : String} {value : Value}

/-! ## The document in the way -/

/-- A stored document equals another one in a field of a list. -/
def equalIn (values : List (String × Value)) (stored : Document) : Bool :=
  values.any fun entry => Condition.equalHolds (Document.lookup? stored entry.1) entry.2

/-- Some live document has a value in a field, by a condition. -/
def Collides (entity : Entity) (store : Store) (now : Instant) (field : String) (value : Value) :
    Prop :=
  ∃ stored ∈ store.live entity now,
    (Filter.single (Conjunction.push ∅ field (.of .eq value))).accepts stored = true

theorem accepts_equal_iff :
    (Filter.single (Conjunction.push ∅ field (.of .eq value))).accepts stored = true ↔
      Condition.equalHolds (Document.lookup? stored field) value = true := by
  rw [Filter.accepts_iff]
  simp [Filter.single, Conjunction.metBy_single, Condition.of, Condition.holds]

theorem accepts_anyEqual_eq {values : List (String × Value)} (hvalues : values ≠ []) :
    (anyEqual values).accepts = equalIn values := by
  funext stored
  rw [Bool.eq_iff_iff, Filter.accepts_iff]
  simp [anyEqual, equalIn, hvalues, Conjunction.metBy_single, Condition.of, Condition.holds]

/-- A refused document has unique values, and the first live document that equals it in one of them
is the one by which the field is chosen. -/
theorem checkUnique_eq_conflict
    (hconflict : (entity.checkUnique store now d).1 = .error (.conflict name field)) :
    name = entity.name ∧ ∃ first rest stored, entity.uniqueValues d = first :: rest ∧
      (store.live entity now).find? (equalIn (first :: rest)) = some stored ∧
      field = collision (first :: rest) stored first.1 := by
  unfold checkUnique at hconflict
  cases hvalues : entity.uniqueValues d with
  | nil =>
      rw [hvalues] at hconflict
      cases hconflict
  | cons first rest =>
      rw [hvalues] at hconflict
      dsimp only at hconflict
      rw [first_eq, accepts_anyEqual_eq (List.cons_ne_nil first rest),
        List.head?_filter] at hconflict
      cases hfound : (store.live entity now).find? (equalIn (first :: rest)) with
      | none =>
          rw [hfound] at hconflict
          cases hconflict
      | some stored =>
          rw [hfound] at hconflict
          obtain ⟨rfl, rfl⟩ : entity.name = name ∧ _ = field := by
            simpa using hconflict
          exact ⟨rfl, first, rest, stored, rfl, hfound, rfl⟩

/-- The named field is one of a value that the stored document shares, or else the first of all. -/
theorem collision_cases (values : List (String × Value)) (stored : Document) (fallback : String) :
    (∃ entry ∈ values, Constraints.holds entry.1 entry.2 stored = true ∧
        collision values stored fallback = entry.1) ∨
      (∀ entry ∈ values, Constraints.holds entry.1 entry.2 stored = false) ∧
        collision values stored fallback = fallback := by
  unfold collision
  cases hfind : values.find? fun entry => Constraints.holds entry.1 entry.2 stored with
  | some entry =>
      refine .inl ⟨entry, List.mem_of_find?_eq_some hfind, ?_, rfl⟩
      simpa using List.find?_some hfind
  | none =>
      refine .inr ⟨fun entry hentry => ?_, rfl⟩
      simpa using List.find?_eq_none.mp hfind entry hentry

/-! ## The field that is named -/

/-- Why no document may collide in the field that is named, by the document that was found. -/
inductive Misnames (entity : Entity) (d stored : Document) (field : String) (value : Value) : Prop
  /-- The found document has the same value, but with a decimal in it that is not a number, so that
  it equals nothing. -/
  | unequal : Constraints.holds field value stored = true → value.HoldsDecimalNaN →
      Misnames entity d stored field value
  /-- The found document has none of the unique values, type included. It equals the refused one in
  later fields only, and still the first one is named. -/
  | first : (∀ entry ∈ entity.uniqueValues d, Constraints.holds entry.1 entry.2 stored = false) →
      (entity.uniqueValues d).head? = some (field, value) →
      Condition.equalHolds (Document.lookup? stored field) value = false →
      Misnames entity d stored field value

/-- What a conflict tells of the document that was checked and the one that was found. -/
structure Explains (entity : Entity) (store : Store) (now : Instant) (d : Document)
    (name field : String) (stored : Document) (value : Value) : Prop where
  /-- The conflict is one of this entity. -/
  entity_eq : name = entity.name
  /-- The named field is unique. -/
  unique : field ∈ entity.schema.uniqueFields
  /-- The refused document has a value there that is not null. -/
  present : Document.present? d field = some value
  /-- The found document is the first live one that equals the refused one in a unique field. -/
  found : (store.live entity now).find? (equalIn (entity.uniqueValues d)) = some stored
  /-- Some live document has the value in the named field, unless the field is misnamed. -/
  collides : entity.Collides store now field value ∨ entity.Misnames d stored field value

theorem explains_of_checkUnique (hdots : ∀ field ∈ entity.schema.uniqueFields, '.' ∉ field.toList)
    (hconflict : (entity.checkUnique store now d).1 = .error (.conflict name field)) :
    ∃ stored value, entity.Explains store now d name field stored value := by
  obtain ⟨hname, first, rest, stored, hvalues, hfound, hfield⟩ := checkUnique_eq_conflict hconflict
  have hlive : stored ∈ store.live entity now := List.mem_of_find?_eq_some hfound
  rw [← hvalues] at hfound hfield
  rcases collision_cases (entity.uniqueValues d) stored first.1 with
    ⟨entry, hentry, hholds, hblamed⟩ | ⟨hnone, hblamed⟩
  · obtain rfl : field = entry.1 := hfield.trans hblamed
    obtain ⟨hunique, hpresent⟩ := mem_uniqueValues_iff.mp hentry
    refine ⟨stored, entry.2, hname, hunique, hpresent, hfound, ?_⟩
    by_cases hnan : entry.2.HoldsDecimalNaN
    · exact .inr (.unequal hholds hnan)
    · have hequal := equalHolds_of_holds (hdots _ hunique) hnan hholds
      exact .inl ⟨stored, hlive, accepts_equal_iff.mpr hequal⟩
  · obtain rfl : field = first.1 := hfield.trans hblamed
    have hfirst : (first.1, first.2) ∈ entity.uniqueValues d := hvalues ▸ List.mem_cons_self
    obtain ⟨hunique, hpresent⟩ := mem_uniqueValues_iff.mp hfirst
    refine ⟨stored, first.2, hname, hunique, hpresent, hfound, ?_⟩
    cases hequal : Condition.equalHolds (Document.lookup? stored first.1) first.2 with
    | true => exact .inl ⟨stored, hlive, accepts_equal_iff.mpr hequal⟩
    | false => exact .inr (.first hnone (by rw [hvalues]; rfl) hequal)

/-- A unique insertion fails with a conflict only if the check of the prepared document does. -/
theorem checkUnique_of_insertUnique {source : Document}
    (hconflict : (entity.insertUnique store now source).1 = .error (.conflict name field)) :
    ∃ prepared, entity.schema.prepare now source = .ok prepared ∧
      (entity.checkUnique store now prepared).1 = .error (.conflict name field) := by
  cases hprepare : entity.schema.prepare now source with
  | error e =>
      obtain ⟨violation, rfl⟩ := Schema.prepare_eq_error hprepare
      simp [insertUnique, hprepare] at hconflict
  | ok prepared =>
      refine ⟨prepared, rfl, ?_⟩
      rw [fst_insertUnique hprepare] at hconflict
      cases hcheck : (entity.checkUnique store now prepared).1 with
      | error e =>
          rw [hcheck] at hconflict
          simpa [bind, Except.bind] using hconflict
      | ok _ =>
          -- What the store refuses is no conflict.
          rw [hcheck] at hconflict
          replace hconflict : (store.insert now entity prepared).1 = _ := hconflict
          rw [Store.fst_insert, Outcome.map_eq_error_iff] at hconflict
          obtain ⟨field, value, -, hfault⟩ := Constraints.checkUnique_eq_error hconflict
          cases hfault

/-- Where no unique field has a dot in its name, a conflict names a unique field in which the
checked document has a value that is not null. Some live document has this value there, unless the
first document that was found has the same value with a decimal that is not a number in it, or
shares no unique value, type included, so that the first one is named. -/
theorem conflict_names_collision (entity : Entity) (store : Store) (now : Instant)
    (hdots : ∀ field ∈ entity.schema.uniqueFields, '.' ∉ field.toList) :
    (∀ d name field, (entity.checkUnique store now d).1 = .error (.conflict name field) →
        ∃ stored value, entity.Explains store now d name field stored value) ∧
      ∀ source name field,
        (entity.insertUnique store now source).1 = .error (.conflict name field) →
          ∃ prepared, entity.schema.prepare now source = .ok prepared ∧
            ∃ stored value, entity.Explains store now prepared name field stored value := by
  refine ⟨fun d name field => explains_of_checkUnique hdots, fun source name field hconflict => ?_⟩
  obtain ⟨prepared, hprepare, hcheck⟩ := checkUnique_of_insertUnique hconflict
  exact ⟨prepared, hprepare, explains_of_checkUnique hdots hcheck⟩

/-! ## Users with a number -/

/-- Users with an address in lower case and a number, both of them unique. -/
def users : Entity where
  name := "users"
  schema := OrderedMap.ofList
    [("mail", { FieldRule.ofType .string with unique := true, lowercase := true }),
      ("number", { FieldRule.ofType .number with unique := true })]

/-- A user with an address and a number. -/
def user (mail : String) (number : Value) : Document :=
  OrderedMap.ofList [("mail", .string mail), ("number", number)]

/-- The store with the first user. -/
def userStore : Store :=
  Store.empty.afterAll [⟨0, users, .insert (user "a" (.int32 1))⟩]

/-- A user of the same address is refused with a conflict that names the address, which is that of
the first user. -/
theorem conflict_names_collision_address :
    (users.insertUnique userStore 0 (user "A" (.int64 1))).1 = .error (.conflict "users" "mail") ∧
      users.Collides userStore 0 "mail" (.string "a") := by
  have hconflict : (users.insertUnique userStore 0 (user "A" (.int64 1))).1 =
      .error (.conflict "users" "mail") := rfl
  have hprepare : users.schema.prepare 0 (user "A" (.int64 1)) = .ok (user "a" (.int64 1)) := rfl
  obtain ⟨prepared, hprepared, stored, value, hexplains⟩ :=
    (conflict_names_collision users userStore 0 (by decide)).2 _ _ _ hconflict
  obtain rfl := Except.ok.inj (hprepare.symm.trans hprepared)
  obtain rfl : Value.string "a" = value := Option.some.inj hexplains.present
  obtain rfl : user "a" (.int32 1) = stored := Option.some.inj hexplains.found
  refine ⟨hconflict, hexplains.collides.resolve_right ?_⟩
  rintro (⟨-, hnan⟩ | ⟨hnone, -, -⟩)
  · cases hnan
  · have hshared := hnone ("mail", .string "a") List.mem_cons_self
    revert hshared
    decide

/-- Items with a weight and a code, both of them unique. -/
def weighed : Entity where
  name := "weighed"
  schema := OrderedMap.ofList
    [("weight", { FieldRule.ofType .number with unique := true }),
      ("code", { FieldRule.ofType .string with unique := true })]

/-- An item whose weight is a decimal that is not a number. -/
def unweighed : Document :=
  OrderedMap.ofList [("weight", .decimal (.notANumber false false)), ("code", .string "x")]

/-- The store with such an item. -/
def weighedStore : Store :=
  Store.empty.afterAll [⟨0, weighed, .insert unweighed⟩]

/-- A user of another address with the same number, in another type, is refused with a conflict that
names the address, which nobody has. An item with the weight and the code of another one is refused
with a conflict that names the weight, which equals nothing. -/
theorem conflict_misnames_field :
    (users.checkUnique userStore 0 (user "b" (.int64 1))).1 = .error (.conflict "users" "mail") ∧
      ¬ users.Collides userStore 0 "mail" (.string "b") ∧
      (weighed.checkUnique weighedStore 0 unweighed).1 = .error (.conflict "weighed" "weight") ∧
      ¬ weighed.Collides weighedStore 0 "weight" (.decimal (.notANumber false false)) := by
  have hlive : userStore.live users 0 = [user "a" (.int32 1)] := rfl
  have hlive' : weighedStore.live weighed 0 = [unweighed] := rfl
  refine ⟨rfl, ?_, rfl, ?_⟩
  · rintro ⟨stored, hstored, haccepts⟩
    rw [hlive, List.mem_singleton] at hstored
    rw [accepts_equal_iff, hstored] at haccepts
    revert haccepts
    decide
  · rintro ⟨stored, hstored, haccepts⟩
    rw [hlive', List.mem_singleton] at hstored
    rw [accepts_equal_iff, hstored] at haccepts
    revert haccepts
    decide

end Entity

end DocStore
