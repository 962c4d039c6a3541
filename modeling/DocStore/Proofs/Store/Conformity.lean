import DocStore.Proofs.Database.Steps
import DocStore.Proofs.Schema.Conformity

/-!
# Stored documents conform

Documents reach a table in three ways: prepared, by a checked patch, or as the seed of an
upsert. Where all operations on an entity come with one schema, each way keeps all documents
of its table conforming to this schema.
-/

namespace DocStore

namespace Schema

variable {schema : Schema}

theorem Admits.conforms {d : Document} (hadmits : schema.Admits d) : schema.Conforms d := by
  cases hadmits with
  | prepared hprepare => exact conforms_of_prepare hprepare
  | seeded hcheck hseed => exact conforms_of_prepareSeed (permits_of_checkPatch hcheck) hseed

theorem Rewrites.conforms {d changed : Document} (hrewrites : schema.Rewrites d changed)
    (hd : schema.Conforms d) : schema.Conforms changed := by
  obtain ⟨patch, checked, hcheck, rfl⟩ := hrewrites
  exact hd.apply (permits_of_checkPatch hcheck)

end Schema

/-- Every document of a table conforms to a schema. -/
def Table.Conform (schema : Schema) (table : Table) : Prop :=
  ∀ d ∈ table, schema.Conforms d

namespace Constraints

theorem Edit.conform {constraints : Constraints} {schema : Schema} {table edited : Table}
    (hedit : constraints.Edit schema.Admits schema.Rewrites table edited)
    (htable : Table.Conform schema table) : Table.Conform schema edited := by
  cases hedit with
  | drop hsublist => exact fun d hd => htable d (hsublist.subset hd)
  | add hadmits _ =>
      intro other hother
      rcases List.mem_append.mp hother with hold | hnew
      · exact htable other hold
      · exact List.mem_singleton.mp hnew ▸ hadmits.conforms
  | @rewrite passed rest d changed hrewrites _ =>
      intro other hother
      have hchanged : schema.Conforms changed := hrewrites.conforms (htable d (by simp))
      rcases List.mem_append.mp hother with hpassed | hrest
      · exact htable other (List.mem_append_left _ hpassed)
      · rcases List.mem_cons.mp hrest with rfl | hrest
        · exact hchanged
        · exact htable other (List.mem_append_right _ (List.mem_cons_of_mem _ hrest))

end Constraints

namespace Store

theorem Used.conform {entity : Entity} {before after : Store} (hused : entity.Uses before after)
    (hbefore : Table.Conform entity.schema (before.table entity.name)) :
    Table.Conform entity.schema (after.table entity.name) :=
  hused.edits.preserves (Table.Conform entity.schema) (fun hedit => hedit.conform) hbefore

/-- A step on any entity keeps the table of an entity conforming, if it comes with the schema
of the table whenever it is on this entity. -/
theorem conform_after {schema : Schema} {name : String} {step : Step} {store : Store}
    (hschema : step.entity.name = name → step.entity.schema = schema)
    (hstore : Table.Conform schema (store.table name)) :
    Table.Conform schema ((step.after store).table name) := by
  by_cases heq : name = step.entity.name
  · subst heq
    obtain rfl := hschema rfl
    rcases step.after_uses store with hsame | huses
    · rw [hsame]
      exact hstore
    · exact huses.conform hstore
  · rw [step.table_after_of_ne store heq]
    exact hstore

/-- After any steps, whether they succeeded or failed, every document stored for an entity
conforms to the schema with which all steps on this entity come. -/
theorem stored_documents_conform (schema : Schema) (name : String) (steps : List Step)
    (hschema : ∀ step ∈ steps, step.entity.name = name → step.entity.schema = schema) :
    ∀ d ∈ (empty.afterAll steps).table name, schema.Conforms d := by
  refine afterAll_preserves (fun store => Table.Conform schema (store.table name)) steps empty
    ?_ (fun d hd => by cases hd)
  intro step hstep store hstore
  exact conform_after (hschema step hstep) hstore

/-! ## Three ways into a table -/

/-- A schema with a required field in lower case, a default, and a field for arrays. -/
def noteSchema : Schema :=
  OrderedMap.ofList
    [("title", { FieldRule.ofType .string with required := true, lowercase := true }),
      ("views", { FieldRule.ofType .number with default := some (.literal (.int64 0)) }),
      ("tags", FieldRule.ofType .array)]

/-- A document with a title. -/
def note (title : String) : Document :=
  OrderedMap.ofList [("title", .string title)]

/-- A document is stored, an update writes a title and appends a tag, an upsert makes a
second document, and an update that would take the titles out fails. -/
def noteSteps : List Step :=
  [⟨0, ⟨"notes", noteSchema⟩, .insert (note "Draft")⟩,
    ⟨0, ⟨"notes", noteSchema⟩,
      .update .all ⟨note "Final", [], OrderedMap.ofList [("tags", .string "A")]⟩ ⟨false⟩⟩,
    ⟨0, ⟨"notes", noteSchema⟩,
      .update ⟨[Conjunction.push ∅ "title" (.of .eq (.string "x"))]⟩ ⟨note "Other", ["views"], ∅⟩
        ⟨true⟩⟩,
    ⟨0, ⟨"notes", noteSchema⟩, .update .all ⟨∅, ["title"], ∅⟩ ⟨false⟩⟩]

/-- The titles are stored in lower case. -/
theorem stored_documents_conform_notes :
    (∀ step ∈ noteSteps, step.entity.name = "notes" → step.entity.schema = noteSchema) ∧
      (empty.afterAll noteSteps).table "notes" =
        [OrderedMap.ofList
          [("title", .string "final"), ("views", .int64 0), ("tags", .array [.string "A"])],
          note "other"] ∧
      ∀ d ∈ (empty.afterAll noteSteps).table "notes", noteSchema.Conforms d := by
  have hschema :
      ∀ step ∈ noteSteps, step.entity.name = "notes" → step.entity.schema = noteSchema := by
    simp [noteSteps]
  exact ⟨hschema, rfl, stored_documents_conform noteSchema "notes" noteSteps hschema⟩

end Store

end DocStore
