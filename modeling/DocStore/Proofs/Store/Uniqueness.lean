import DocStore.Proofs.Database.Steps
import DocStore.Proofs.Document
import DocStore.Proofs.Value.Sameness

/-!
# Unique values

In every state that operations lead to, no two documents of a table share a value of a
field that was declared unique when the entity was registered. Each edit compares one
document with all the others, so that the documents on either side of it stay apart; that
sameness is symmetric makes the comparison in one direction enough.
-/

namespace DocStore

/-! ## Documents that share a value -/

namespace Document

/-- Two documents hold the same value in a field, and it is not null. -/
def Shares (field : String) (left right : Document) : Prop :=
  ∃ value other, present? left field = some value ∧ present? right field = some other ∧
    value.same other = true

theorem Shares.symm {field : String} {left right : Document} (hshares : Shares field left right) :
    Shares field right left := by
  obtain ⟨value, other, hleft, hright, hsame⟩ := hshares
  exact ⟨other, value, hright, hleft, value.same_symm other hsame⟩

end Document

namespace Table

/-- No two documents of a table share a value of a field. -/
def Distinct (field : String) (table : Table) : Prop :=
  table.Pairwise fun left right => ¬ Document.Shares field left right

variable {field : String}

theorem distinct_perm {table other : Table} (hperm : table.Perm other) :
    Distinct field table ↔ Distinct field other :=
  hperm.pairwise_iff fun hnot hshares => hnot hshares.symm

/-- It makes no difference where among the others a document stands. -/
theorem distinct_middle {passed rest : Table} {d : Document} :
    Distinct field (passed ++ d :: rest) ↔
      (∀ other ∈ passed ++ rest, ¬ Document.Shares field d other) ∧
        Distinct field (passed ++ rest) := by
  rw [distinct_perm List.perm_middle]
  exact List.pairwise_cons

end Table

/-! ## Edits keep documents apart -/

namespace Constraints

/-- What a document that passes the check holds in a unique field is not held by the others. -/
theorem holds_eq_false_of_shared?_eq_none {constraints : Constraints} {others : Table}
    {d : Document} (hnone : constraints.shared? others d = none) {field : String}
    (hfield : field ∈ constraints.unique) {value : Value}
    (hvalue : Document.present? d field = some value) {other : Document} (hother : other ∈ others) :
    holds field value other = false := by
  have hfound := List.findSome?_eq_none_iff.mp hnone field hfield
  have hnot : ∀ other ∈ others, holds field value other = false := by
    simpa [hvalue] using hfound
  exact hnot other hother

/-- A document that passes the check shares no value of a unique field with the others. -/
theorem not_shares_of_shared?_eq_none {constraints : Constraints} {others : Table} {d : Document}
    (hnone : constraints.shared? others d = none) {field : String}
    (hfield : field ∈ constraints.unique) {other : Document} (hother : other ∈ others) :
    ¬ Document.Shares field d other := by
  rintro ⟨value, stored, hvalue, hstored, hsame⟩
  -- The check asks whether the other value is the same as this one, not the other way.
  have hholds : holds field value other = true :=
    holds_iff.mpr ⟨stored, (Document.present?_eq_some_iff.mp hstored).1,
      value.same_symm stored hsame⟩
  rw [holds_eq_false_of_shared?_eq_none hnone hfield hvalue hother] at hholds
  cases hholds

theorem Edit.distinct {constraints : Constraints} {Fresh : Document → Prop}
    {Change : Document → Document → Prop} {field : String} (hfield : field ∈ constraints.unique)
    {table edited : Table} (hedit : constraints.Edit Fresh Change table edited)
    (hdistinct : Table.Distinct field table) : Table.Distinct field edited := by
  cases hedit with
  | drop hsublist => exact List.Pairwise.sublist hsublist hdistinct
  | @add table d hfresh hnone =>
      apply (Table.distinct_perm (List.perm_append_singleton d table)).mpr
      refine List.pairwise_cons.mpr ⟨?_, hdistinct⟩
      intro other hother
      exact not_shares_of_shared?_eq_none hnone hfield hother
  | rewrite hchange hnone =>
      obtain ⟨_, hothers⟩ := Table.distinct_middle.mp hdistinct
      refine Table.distinct_middle.mpr ⟨?_, hothers⟩
      intro other hother
      exact not_shares_of_shared?_eq_none hnone hfield hother

end Constraints

/-! ## Stores -/

namespace Store

/-- An entity without constraints has an empty table, and the table of an entity with
constraints holds no value of a unique field twice. -/
def KeepsApart (store : Store) : Prop :=
  ∀ name, match store.registry.get? name with
    | none => store.table name = []
    | some constraints => ∀ field ∈ constraints.unique, Table.Distinct field (store.table name)

theorem keepsApart_empty : empty.KeepsApart :=
  fun _ => rfl

/-- The table of an entity is kept apart by the constraints that the entity has or will
have. -/
theorem KeepsApart.distinct {store : Store} (hstore : store.KeepsApart) (entity : Entity)
    {field : String} (hfield : field ∈ (store.constraints entity).unique) :
    Table.Distinct field (store.table entity.name) := by
  have hname := hstore entity.name
  unfold Store.constraints at hfield
  cases hget : store.registry.get? entity.name with
  | none =>
      rw [hget] at hname
      rw [hname]
      exact List.Pairwise.nil
  | some constraints =>
      rw [hget] at hname hfield
      exact hname field hfield

theorem Used.keepsApart {entity : Entity} {Fresh : Document → Prop}
    {Change : Document → Document → Prop} {before after : Store}
    (hused : Used entity Fresh Change before after) (hbefore : before.KeepsApart) :
    after.KeepsApart := by
  intro name
  rw [hused.registry, before.get?_registry_enter]
  by_cases heq : name = entity.name
  · rw [if_pos heq, heq]
    intro field hfield
    exact hused.edits.preserves (Table.Distinct field) (fun hedit => hedit.distinct hfield)
      (hbefore.distinct entity hfield)
  · rw [if_neg heq, hused.others name heq]
    exact hbefore name

theorem keepsApart_afterAll (steps : List Step) : (empty.afterAll steps).KeepsApart := by
  refine afterAll_preserves KeepsApart steps empty ?_ keepsApart_empty
  intro step _ store hstore
  rcases step.after_uses store with hsame | huses
  · rw [hsame]
    exact hstore
  · exact huses.keepsApart hstore

/-- In the state after any steps, whether they succeeded or failed, no two documents at
different places of a table hold the same value in a field that was declared unique when
the entity was registered, null apart. -/
theorem unique_values_not_shared (steps : List Step) (name : String) (schema : Schema)
    (hschema : empty.registeredSchema? name steps = some schema) (field : String)
    (rule : FieldRule) (hrule : schema.get? field = some rule) (hunique : rule.unique = true)
    (i j : Nat) (hi : i < ((empty.afterAll steps).table name).length)
    (hj : j < ((empty.afterAll steps).table name).length) (hne : i ≠ j) (value other : Value)
    (hvalue : ((empty.afterAll steps).table name)[i].get? field = some value)
    (hother : ((empty.afterAll steps).table name)[j].get? field = some other)
    (hpresent : value.isNull = false ∧ other.isNull = false) : value.same other = false := by
  have hname := keepsApart_afterAll steps name
  rw [get?_registry_afterAll (get?_registry_empty name) steps, hschema] at hname
  have hfield : field ∈ schema.uniqueFields :=
    List.mem_map.mpr ⟨(field, rule),
      List.mem_filter.mpr ⟨OrderedMap.get?_eq_some_iff.mp hrule, hunique⟩, rfl⟩
  have hdistinct : Table.Distinct field ((empty.afterAll steps).table name) := hname field hfield
  have hshares : ¬ Document.Shares field ((empty.afterAll steps).table name)[i]
      ((empty.afterAll steps).table name)[j] := by
    rcases Nat.lt_or_gt_of_ne hne with hlt | hgt
    · exact List.pairwise_iff_getElem.mp hdistinct i j hi hj hlt
    · exact fun hshares => List.pairwise_iff_getElem.mp hdistinct j i hj hi hgt hshares.symm
  by_contra hsame
  rw [Bool.not_eq_false] at hsame
  exact hshares ⟨value, other, Document.present?_eq_some_iff.mpr ⟨hvalue, hpresent.1⟩,
    Document.present?_eq_some_iff.mpr ⟨hother, hpresent.2⟩, hsame⟩

/-! ## An update that fails midway -/

/-- A schema with one unique field. -/
def mailSchema : Schema :=
  OrderedMap.ofList [("mail", { FieldRule.ofType .string with unique := true })]

/-- A document with an address. -/
def mail (address : String) : Document :=
  OrderedMap.ofList [("mail", .string address)]

/-- Two documents are stored, and an update gives both of them the same address. -/
def mailSteps : List Step :=
  [⟨0, ⟨"users", mailSchema⟩, .insert (mail "a")⟩,
    ⟨0, ⟨"users", mailSchema⟩, .insert (mail "b")⟩,
    ⟨0, ⟨"users", mailSchema⟩, .update .all ⟨mail "c", [], ∅⟩ ⟨false⟩⟩]

/-- The update fails at the second document, with the first one rewritten already. -/
theorem unique_values_not_shared_midway :
    empty.registeredSchema? "users" mailSteps = some mailSchema ∧
      (empty.afterAll mailSteps).table "users" = [mail "c", mail "b"] ∧
      Value.same (.string "c") (.string "b") = false :=
  ⟨rfl, rfl, unique_values_not_shared mailSteps "users" mailSchema rfl "mail"
    { FieldRule.ofType .string with unique := true } rfl rfl 0 1 (by decide) (by decide)
    (by decide) (.string "c") (.string "b") rfl rfl ⟨rfl, rfl⟩⟩

end Store

end DocStore
