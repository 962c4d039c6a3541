import DocStore.Proofs.Patch
import DocStore.Schema.Basic

/-!
# Hidden fields stay inside

A schema is put together from declarations, and the last declaration of a field decides whether it
is hidden. What is shown of a document depends on its other fields alone: two documents that differ
only in hidden fields look the same. Hiding one more field takes it out of what is shown, whether or
not it was declared before, and changes nothing else that is declared.
-/

namespace DocStore

/-! ## Declarations -/

/-- A step in putting a schema together. -/
inductive Declaration where
  /-- Declare a field, in the place of what was declared about it before. -/
  | field (name : String) (rule : FieldRule)
  /-- Hide a field. -/
  | hide (name : String)

namespace Declaration

/-- The field that is declared or hidden. -/
def name : Declaration → String
  | field name _ => name
  | hide name => name

/-- Is the field hidden from then on? -/
def hides : Declaration → Bool
  | field _ rule => rule.hide
  | hide _ => true

/-- The schema after one more declaration. -/
def extend (schema : Schema) : Declaration → Schema
  | field name rule => schema.insert name rule
  | hide name => schema.withHidden name

theorem hides_extend (schema : Schema) (declaration : Declaration) (field : String) :
    (declaration.extend schema).hides field =
      if declaration.name = field then declaration.hides else schema.hides field := by
  cases declaration with
  | field name rule =>
      by_cases heq : name = field
      · simp [extend, Schema.hides, Declaration.name, hides, heq]
      · simp [extend, Schema.hides, Declaration.name, heq, Ne.symm heq]
  | hide name =>
      by_cases heq : name = field
      · simp [extend, Schema.withHidden, Schema.hides, Declaration.name, hides, heq,
          FieldRule.hidden]
      · simp [extend, Schema.withHidden, Schema.hides, Declaration.name, heq, Ne.symm heq]

end Declaration

namespace Schema

/-- The schema that declarations make, one after the other. -/
def declared (history : List Declaration) : Schema :=
  history.foldl Declaration.extend ∅

/-- The last declaration of a field decides whether it is hidden. -/
theorem hides_declared (history : List Declaration) (field : String) :
    (declared history).hides field =
      (history.reverse.find? fun declaration => declaration.name = field).any
        Declaration.hides := by
  induction history using List.reverseRecOn with
  | nil => rfl
  | append_singleton earlier last ih =>
      have hlast : declared (earlier ++ [last]) = last.extend (declared earlier) :=
        List.foldl_append
      rw [hlast, Declaration.hides_extend, ih, List.reverse_append, List.reverse_singleton,
        List.singleton_append, List.find?_cons]
      by_cases heq : last.name = field
      · simp [heq]
      · simp [heq]

variable (schema : Schema)

theorem hides_withHidden (field other : String) :
    (schema.withHidden field).hides other = (schema.hides other || decide (other = field)) := by
  have hextend := Declaration.hides_extend schema (.hide field) other
  by_cases heq : other = field
  · simpa [Declaration.extend, Declaration.name, Declaration.hides, heq] using hextend
  · simpa [Declaration.extend, Declaration.name, heq, Ne.symm heq] using hextend

theorem hides_foldl_withHidden (fields : List String) (other : String) :
    (fields.foldl withHidden schema).hides other =
      (schema.hides other || decide (other ∈ fields)) := by
  induction fields generalizing schema with
  | nil => simp
  | cons field rest ih => simp [ih, hides_withHidden, Bool.or_assoc]

/-- Hiding a field leaves everything as it is that was declared, but for the field being hidden. -/
theorem get?_withHidden_of_declared {field other : String} {rule : FieldRule}
    (hdeclared : schema.get? other = some rule) :
    (schema.withHidden field).get? other =
      some { rule with hide := rule.hide || decide (other = field) } := by
  rw [withHidden, OrderedMap.get?_insert]
  by_cases heq : other = field
  · subst heq
    simp [hdeclared, FieldRule.hidden]
  · simp [heq, hdeclared]

/-! ## What is shown -/

/-- The fields that a schema hides, in the order of declaration. -/
def hiddenFields : List String :=
  (schema.entries.filter fun entry => entry.2.hide).map Prod.fst

theorem mem_hiddenFields_iff {field : String} :
    field ∈ schema.hiddenFields ↔ schema.hides field = true := by
  unfold hiddenFields hides
  simp only [List.mem_map, List.mem_filter, Option.any_eq_true]
  constructor
  · rintro ⟨⟨name, rule⟩, ⟨hmem, hhide⟩, rfl⟩
    exact ⟨rule, OrderedMap.get?_eq_some_iff.mpr hmem, hhide⟩
  · rintro ⟨rule, hget, hhide⟩
    exact ⟨(field, rule), ⟨OrderedMap.get?_eq_some_iff.mp hget, hhide⟩, rfl⟩

/-- Two documents have the same values in the same fields that are not hidden, and have these fields
in the same order. -/
structure ShownAlike (left right : Document) : Prop where
  names_eq : (left.names.filter fun field => !schema.hides field) =
    right.names.filter fun field => !schema.hides field
  values_eq : ∀ field, schema.hides field = false → left.get? field = right.get? field

theorem get?_sanitize (d : Document) (field : String) :
    (schema.sanitize d).get? field = if schema.hides field then none else d.get? field := by
  rw [sanitize, OrderedMap.get?_filter d fun field => !schema.hides field]
  by_cases hhides : schema.hides field = true
  · simp [hhides]
  · simp [hhides]

theorem names_sanitize (d : Document) :
    (schema.sanitize d).names = d.names.filter fun field => !schema.hides field :=
  OrderedMap.names_filter d fun field => !schema.hides field

theorem sanitize_eq_iff (left right : Document) :
    schema.sanitize left = schema.sanitize right ↔ schema.ShownAlike left right := by
  constructor
  · intro heq
    refine ⟨?_, ?_⟩
    · rw [← names_sanitize, ← names_sanitize, heq]
    · intro field hshown
      have hget := congrArg (fun shown : Document => shown.get? field) heq
      simpa [get?_sanitize, hshown] using hget
  · rintro ⟨hnames, hvalues⟩
    apply OrderedMap.eq_of_names_eq
    · rw [names_sanitize, names_sanitize, hnames]
    · intro field
      rw [get?_sanitize, get?_sanitize]
      by_cases hhides : schema.hides field = true
      · rw [if_pos hhides, if_pos hhides]
      · rw [if_neg hhides, if_neg hhides, hvalues field (Bool.not_eq_true _ ▸ hhides)]

theorem sanitize_foldl_withHidden (fields : List String) (d : Document) :
    (fields.foldl withHidden schema).sanitize d = Patch.eraseAll (schema.sanitize d) fields := by
  apply OrderedMap.ext
  rw [Patch.entries_eraseAll]
  simp only [sanitize, OrderedMap.filter, hides_foldl_withHidden, List.filter_filter]
  congr 1
  funext entry
  simp [Bool.and_comm]

/-- The hidden fields are taken out one after the other. -/
theorem sanitize_eq_eraseAll (d : Document) :
    schema.sanitize d = Patch.eraseAll d schema.hiddenFields := by
  apply OrderedMap.ext
  rw [Patch.entries_eraseAll]
  simp only [sanitize, OrderedMap.filter, mem_hiddenFields_iff]
  congr 1
  funext entry
  simp

/-- Whatever declarations make up a schema, the last one of a field decides whether it is hidden.
Two documents look the same exactly if they have the same fields that are not hidden, with the same
values in the same order; these fields are shown, and the hidden ones are taken out. Hiding more
fields takes them out of what is shown, in whatever order and however often they are hidden, and
leaves everything else as it was declared. -/
theorem shown_without_hidden (history : List Declaration) :
    (∀ field, (declared history).hides field =
      (history.reverse.find? fun declaration => declaration.name = field).any Declaration.hides) ∧
    (∀ left right : Document,
      (declared history).sanitize left = (declared history).sanitize right ↔
        (declared history).ShownAlike left right) ∧
    (∀ (d : Document) (field : String), ((declared history).sanitize d).get? field =
      if (declared history).hides field then none else d.get? field) ∧
    (∀ d : Document,
      (declared history).sanitize d = Patch.eraseAll d (declared history).hiddenFields) ∧
    (∀ (fields : List String) (d : Document),
      (fields.foldl withHidden (declared history)).sanitize d =
        Patch.eraseAll ((declared history).sanitize d) fields) ∧
    (∀ fields others : List String, (∀ field, field ∈ fields ↔ field ∈ others) →
      ∀ d : Document, (fields.foldl withHidden (declared history)).sanitize d =
        (others.foldl withHidden (declared history)).sanitize d) ∧
    (∀ (field other : String) (rule : FieldRule), (declared history).get? other = some rule →
      ((declared history).withHidden field).get? other =
        some { rule with hide := rule.hide || decide (other = field) }) ∧
    ∀ field, ((declared history).withHidden field).names =
      if field ∈ (declared history).names then (declared history).names
      else (declared history).names ++ [field] := by
  refine ⟨hides_declared history, sanitize_eq_iff _, get?_sanitize _,
    sanitize_eq_eraseAll _, sanitize_foldl_withHidden _, ?_,
    fun field other rule => get?_withHidden_of_declared _,
    fun field => OrderedMap.names_insert_eq_ite _ field _⟩
  intro fields others hsame d
  apply OrderedMap.ext
  rw [sanitize_foldl_withHidden, sanitize_foldl_withHidden, Patch.entries_eraseAll,
    Patch.entries_eraseAll]
  simp only [hsame]

/-! ## Accounts -/

/-- Accounts with a token that is hidden after its declaration, and a session that is hidden without
one. -/
def accounts : List Declaration :=
  [.field "token" { FieldRule.ofType .string with unique := true }, .field "mail" (.ofType .string),
    .hide "session", .hide "token"]

/-- An account with a token. -/
def tokenAccount : Document :=
  OrderedMap.ofList [("token", .string "t1"), ("mail", .string "a@x"), ("nick", .string "ann")]

/-- The account in a session, with another token. -/
def sessionAccount : Document :=
  OrderedMap.ofList [("mail", .string "a@x"), ("session", .int32 7), ("nick", .string "ann"),
    ("token", .string "t2")]

theorem shown_without_hidden_accounts :
    (declared accounts).sanitize tokenAccount =
        (declared accounts).sanitize sessionAccount ∧
      ((declared accounts).sanitize sessionAccount).get? "nick" = some (.string "ann") ∧
      ((declared accounts).withHidden "mail").get? "token" =
        some { FieldRule.ofType .string with unique := true, hide := true } := by
  obtain ⟨-, halike, hget, -, -, -, hkept, -⟩ := shown_without_hidden accounts
  refine ⟨(halike _ _).mpr ⟨by decide, ?_⟩, hget sessionAccount "nick", hkept "mail" "token" _ rfl⟩
  intro field hshown
  have htoken : field ≠ "token" := by
    rintro rfl
    exact absurd hshown (by decide)
  have hsession : field ≠ "session" := by
    rintro rfl
    exact absurd hshown (by decide)
  simp [tokenAccount, sessionAccount, OrderedMap.ofList, OrderedMap.insertAll, htoken, hsession]

end Schema

end DocStore
