import DocStore.Proofs.Filter.Grammar
import DocStore.Proofs.Filter.Pushes

/-!
# Filters written in JSON and read again

Writing a filter leaves some choices: the letter case of the tokens and the blanks around them, a
pair or an array with one pair for a single condition, and whether a test for absence has its null
written out. None of them can be told from what is read. The alternatives, the fields, the
conditions of a field, their operators and their negations are read as they were, and so is every
value in which no document spells another value.
-/

namespace DocStore

open Json (nullAlone)

/-! ## Conditions -/

namespace Condition

variable {condition : Condition} {json : Json}

/-- A condition is written as a pair of a text that names it and its value. The value may be left
out where it is null and absence is tested. -/
inductive WrittenAs (condition : Condition) : Json → Prop
  | pair {text : String} : condition.op.NamedBy condition.negated text →
      WrittenAs condition (.array [.string text, condition.value.toJson])
  | alone {text : String} : condition.op.NamedBy condition.negated text → condition.op = .null →
      condition.value = .null → WrittenAs condition (.array [.string text])

/-- The conditions of a field are written as an array of pairs, or as a pair if there is one. -/
inductive ListWrittenAs : List Condition → Json → Prop
  | single {condition : Condition} {json : Json} : condition.WrittenAs json →
      ListWrittenAs [condition] json
  | several {conditions : List Condition} {items : List Json} :
      List.Forall₂ WrittenAs conditions items → ListWrittenAs conditions (.array items)

/-- A condition with its value spelled out. -/
def spelledOut (condition : Condition) : Condition :=
  { condition with value := condition.value.spelledOut }

theorem spelledOut_eq_self_iff :
    condition.spelledOut = condition ↔ ¬ condition.value.HoldsSpelling := by
  rw [← Value.spelledOut_eq_self_iff]
  obtain ⟨op, value, negated⟩ := condition
  simp [spelledOut]

theorem WrittenAs.isCondition (hwritten : condition.WrittenAs json) :
    json.IsCondition nullAlone := by
  cases hwritten with
  | pair hnamed => exact .pair _ hnamed
  | alone hnamed hnull => exact .alone hnamed hnull

theorem ofJson_of_writtenAs (field : String) (hplain : condition.value.Plain)
    (hwritten : condition.WrittenAs json) : ofJson field json = .ok condition.spelledOut := by
  cases hwritten with
  | pair hnamed =>
      rw [ofJson_pair, Value.ofJson_toJson _ hplain, Outcome.bind_eq_ok_iff]
      exact ⟨_, rfl, parse_eq_ok_iff.mpr ⟨hnamed, rfl⟩⟩
  | alone hnamed _ hvalue =>
      rw [ofJson_alone, parse_eq_ok_iff]
      refine ⟨hnamed, ?_⟩
      rw [spelledOut, hvalue]
      rfl

theorem listOfJson_of_writtenAs (field : String) {conditions : List Condition}
    (hne : conditions ≠ []) (hplain : ∀ condition ∈ conditions, condition.value.Plain)
    (hwritten : ListWrittenAs conditions json) :
    listOfJson field json = .ok (conditions.map spelledOut) := by
  cases hwritten with
  | single hwritten =>
      have hread := ofJson_of_writtenAs field (hplain _ List.mem_cons_self) hwritten
      rw [listOfJson_of_isCondition field hwritten.isCondition, hread]
      rfl
  | several hwritten =>
      have hread := Outcome.mapM_of_forall₂ hwritten fun condition hmem _ =>
        ofJson_of_writtenAs field (hplain condition hmem)
      cases hwritten with
      | nil => exact absurd rfl hne
      | cons hfirst => rw [listOfJson_of_forall field _ hfirst.isCondition, hread]

end Condition

/-! ## Conjunctions -/

namespace Conjunction

variable {conjunction : Conjunction} {json : Json}

/-- A conjunction is written as an object with its fields. -/
def WrittenAs (conjunction : Conjunction) (json : Json) : Prop :=
  ∃ members, json = .object members ∧
    List.Forall₂ (fun entry member => member.1 = entry.1 ∧ Condition.ListWrittenAs entry.2 member.2)
      conjunction.entries members

/-- A conjunction with its values spelled out. -/
def spelledOut (conjunction : Conjunction) : Conjunction where
  entries := conjunction.entries.map fun entry => (entry.1, entry.2.map Condition.spelledOut)
  nodup := by
    have hnames : Entries.names (conjunction.entries.map fun entry =>
        (entry.1, entry.2.map Condition.spelledOut)) = conjunction.names :=
      Entries.names_map (fun _ => List.map Condition.spelledOut) conjunction.entries
    rw [hnames]
    exact conjunction.nodup

theorem spelledOut_eq_self_iff : conjunction.spelledOut = conjunction ↔
    ∀ pair ∈ conjunction.conditions, ¬ pair.2.value.HoldsSpelling := by
  have hentries : conjunction.spelledOut = conjunction ↔
      conjunction.entries.map (fun entry => (entry.1, entry.2.map Condition.spelledOut)) =
        conjunction.entries :=
    ⟨fun heq => congrArg OrderedMap.entries heq, fun heq => OrderedMap.ext heq⟩
  rw [hentries, map_eq_self_iff, forall_conditions_iff]
  refine forall₂_congr fun entry _ => ?_
  rw [Prod.ext_iff, and_iff_right rfl, map_eq_self_iff]
  exact forall₂_congr fun _ _ => Condition.spelledOut_eq_self_iff

/-- A conjunction is made by adding conditions one after the other. -/
def Pushed (conjunction : Conjunction) : Prop :=
  ∃ pairs, conjunction = pushAll ∅ pairs

/-- No field of a conjunction made in this way is without conditions. -/
theorem Pushed.ne_nil (hpushed : conjunction.Pushed) {entry : String × List Condition}
    (hentry : entry ∈ conjunction.entries) : entry.2 ≠ [] := by
  obtain ⟨pushes, rfl⟩ := hpushed
  exact (keeps_pushAll pushes).ne_nil hentry

theorem pushAll_insert (conjunction : Conjunction) (field : String) (held added : List Condition) :
    pushAll (conjunction.insert field held) (added.map fun condition => (field, condition)) =
      conjunction.insert field (held ++ added) := by
  induction added generalizing held with
  | nil => rw [List.append_nil]; rfl
  | cons condition rest ih =>
      have hpush : push (conjunction.insert field held) field condition =
          conjunction.insert field (held ++ [condition]) := by
        rw [push, OrderedMap.get?_insert_self, OrderedMap.insert_insert]
        rfl
      change pushAll (push (conjunction.insert field held) field condition) _ = _
      rw [hpush, ih, List.append_assoc]
      rfl

theorem pushAll_fresh (conjunction : Conjunction) {field : String} {added : List Condition}
    (hfresh : conjunction.get? field = none) (hne : added ≠ []) :
    conjunction.pushAll (added.map fun condition => (field, condition)) =
      conjunction.insert field added := by
  cases added with
  | nil => exact absurd rfl hne
  | cons condition rest =>
      change
        pushAll (conjunction.insert field ((conjunction.get? field).getD [] ++ [condition])) _ = _
      rw [hfresh, pushAll_insert]
      rfl

/-- The members that a conjunction is written with are read one by one, each as the next field. -/
theorem foldlM_addMember {entries : List (String × List Condition)} {members : List (String × Json)}
    (hwritten : List.Forall₂
      (fun entry member => member.1 = entry.1 ∧ Condition.ListWrittenAs entry.2 member.2)
      entries members)
    (hne : ∀ entry ∈ entries, entry.2 ≠ [])
    (hplain : ∀ entry ∈ entries, ∀ condition ∈ entry.2, condition.value.Plain)
    (hnodup : (Entries.names entries).Nodup) (sofar : Conjunction)
    (hfresh : ∀ name ∈ Entries.names entries, sofar.get? name = none) :
    members.foldlM addMember sofar = .ok
      (sofar.insertAll (entries.map fun entry => (entry.1, entry.2.map Condition.spelledOut))) := by
  -- The conditions of a member are pushed one by one, and end up together since no member before
  -- has the name: this is what has to hold of the fields that are still to come.
  induction hwritten generalizing sofar with
  | nil => rfl
  | @cons entry member entries members hfirst _ ih =>
      obtain ⟨hname, hspec⟩ := hfirst
      obtain ⟨hne, hrestne⟩ := List.forall_mem_cons.mp hne
      obtain ⟨hplain, hrestplain⟩ := List.forall_mem_cons.mp hplain
      obtain ⟨hnew, hnodup⟩ := List.nodup_cons.mp hnodup
      have hstep : addMember sofar member =
          .ok (sofar.insert entry.1 (entry.2.map Condition.spelledOut)) := by
        rw [addMember, Condition.listOfJson_of_writtenAs member.1 hne hplain hspec]
        change Except.ok _ = _
        rw [hname, pushAll_fresh sofar (hfresh _ List.mem_cons_self) (by simpa using hne)]
      rw [List.foldlM_cons, hstep]
      refine ih hrestne hrestplain hnodup _ fun name hmem => ?_
      have hother : name ≠ entry.1 := by
        rintro rfl
        exact hnew hmem
      rw [OrderedMap.get?_insert_of_ne _ hother]
      exact hfresh name (List.mem_cons_of_mem _ hmem)

theorem ofJson_of_writtenAs (hpushed : conjunction.Pushed)
    (hplain : ∀ pair ∈ conjunction.conditions, pair.2.value.Plain)
    (hwritten : conjunction.WrittenAs json) : ofJson json = .ok conjunction.spelledOut := by
  obtain ⟨members, rfl, hmembers⟩ := hwritten
  rw [ofJson, foldlM_addMember hmembers (fun _ => hpushed.ne_nil)
    (forall_conditions_iff.mp hplain) conjunction.nodup ∅ fun _ _ => rfl]
  congr 1
  exact OrderedMap.ext (OrderedMap.entries_ofList conjunction.spelledOut.nodup)

end Conjunction

/-! ## Filters -/

namespace Filter

/-- A filter is written as an array of its alternatives. -/
def WrittenAs (filter : Filter) (json : Json) : Prop :=
  ∃ items, json = .array items ∧ List.Forall₂ Conjunction.WrittenAs filter.alternatives items

/-- A filter with its values spelled out. -/
def spelledOut (filter : Filter) : Filter :=
  ⟨filter.alternatives.map Conjunction.spelledOut⟩

theorem ofJson_of_writtenAs {filter : Filter} {json : Json}
    (hpushed : ∀ conjunction ∈ filter.alternatives, conjunction.Pushed)
    (hplain : ∀ conjunction ∈ filter.alternatives, ∀ pair ∈ conjunction.conditions,
      pair.2.value.Plain)
    (hwritten : filter.WrittenAs json) : Filter.ofJson json = .ok filter.spelledOut := by
  obtain ⟨items, rfl, hitems⟩ := hwritten
  have hread := Outcome.mapM_of_forall₂ hitems fun conjunction hmem _ =>
    Conjunction.ofJson_of_writtenAs (hpushed conjunction hmem) (hplain conjunction hmem)
  rw [ofJson, hread]
  rfl

theorem spelledOut_eq_self_iff {filter : Filter} : filter.spelledOut = filter ↔
    ∀ conjunction ∈ filter.alternatives, ∀ pair ∈ conjunction.conditions,
      ¬ pair.2.value.HoldsSpelling := by
  obtain ⟨alternatives⟩ := filter
  rw [spelledOut, Filter.mk.injEq, map_eq_self_iff]
  exact forall₂_congr fun _ _ => Conjunction.spelledOut_eq_self_iff

/-- A filter that was built by adding conditions, and whose values are of the kinds that JSON has,
is read from everything it can be written as, with its values spelled out. It is read as it was
exactly if no document in its values spells another value. -/
theorem read_of_written (filter : Filter) (json : Json)
    (hpushed : ∀ conjunction ∈ filter.alternatives, conjunction.Pushed)
    (hplain : ∀ conjunction ∈ filter.alternatives, ∀ pair ∈ conjunction.conditions,
      pair.2.value.Plain)
    (hwritten : filter.WrittenAs json) :
    Filter.ofJson json = .ok filter.spelledOut ∧
      (Filter.ofJson json = .ok filter ↔
        ∀ conjunction ∈ filter.alternatives, ∀ pair ∈ conjunction.conditions,
          ¬ pair.2.value.HoldsSpelling) := by
  have hread := ofJson_of_writtenAs hpushed hplain hwritten
  refine ⟨hread, ?_⟩
  rw [hread, Except.ok.injEq]
  exact spelledOut_eq_self_iff

/-- Posts whose tags look like a condition, and which are not hidden, or any posts. -/
def tagged : Filter where
  alternatives :=
    [Conjunction.pushAll ∅
      [("tags", ⟨.eq, .array [.string "=", .string "a"], false⟩),
        ("hidden", ⟨.null, .null, true⟩),
        ("tags", ⟨.contains, .string "b", true⟩)],
      ∅]

/-- The filter as it is written by someone who is careless about letters and blanks. -/
def taggedJson : Json :=
  .array
    [.object
      [("tags", .array
        [.array [.string " = ", .array [.string "=", .string "a"]],
          .array [.string "!Contains", .string "b"]]),
        ("hidden", .array [.string "! null"])],
      .object []]

theorem read_of_written_tagged : Filter.ofJson taggedJson = .ok tagged := by
  have hequal : Operator.eq.NamedBy false " = " :=
    ⟨[' '], [], ['='], [' '], by decide, by decide, by decide, by decide, by decide⟩
  have hcontains : Operator.contains.NamedBy true "!Contains" :=
    ⟨[], [], "Contains".toList, [], by decide, by decide, by decide, by decide, by decide⟩
  have habsent : Operator.null.NamedBy true "! null" :=
    ⟨[], [' '], "null".toList, [], by decide, by decide, by decide, by decide, by decide⟩
  have hwritten : tagged.WrittenAs taggedJson := by
    refine ⟨_, rfl, .cons ⟨_, rfl, ?_⟩ (.cons ⟨_, rfl, .nil⟩ .nil)⟩
    refine .cons ⟨rfl, .several ?_⟩ (.cons ⟨rfl, .single ?_⟩ .nil)
    · exact .cons (.pair hequal) (.cons (.pair hcontains) .nil)
    · exact .alone habsent rfl rfl
  have hvalues (P : Value → Prop) (harray : P (.array [.string "=", .string "a"])) (hnull : P .null)
      (htext : P (.string "b")) :
      ∀ conjunction ∈ tagged.alternatives, ∀ pair ∈ conjunction.conditions, P pair.2.value := by
    simp [tagged, Conjunction.mem_conditions_pushAll, or_imp, forall_and, harray, hnull, htext]
  have hpushed : ∀ conjunction ∈ tagged.alternatives, conjunction.Pushed :=
    List.forall_mem_cons.mpr ⟨⟨_, rfl⟩, List.forall_mem_singleton.mpr ⟨[], rfl⟩⟩
  have hplain := hvalues Value.Plain (.array (by simp [Value.Plain.string])) .null (.string "b")
  have hkept (value : Value) (hself : value.spelledOut = value) : ¬ value.HoldsSpelling :=
    value.spelledOut_eq_self_iff.mp hself
  refine (read_of_written tagged taggedJson hpushed hplain hwritten).2.mpr ?_
  exact hvalues (fun value => ¬ value.HoldsSpelling) (hkept _ rfl) (hkept _ rfl) (hkept _ rfl)

/-- A filter that asks for a document in which an object id is spelled. -/
def marked : Filter :=
  .single (Conjunction.pushAll ∅
    [("a", ⟨.eq, .document [("$oid", .string "507f1f77bcf86cd799439011")], false⟩)])

/-- The filter in JSON. -/
def markedJson : Json :=
  .array [.object [("a",
    .array [.string "=", .object [("$oid", .string "507f1f77bcf86cd799439011")]])]]

theorem marked_not_read_back :
    (∀ conjunction ∈ marked.alternatives, conjunction.Pushed) ∧
      (∀ conjunction ∈ marked.alternatives, ∀ pair ∈ conjunction.conditions,
        pair.2.value.Plain) ∧
      marked.WrittenAs markedJson ∧
      Filter.ofJson markedJson = .ok (.single (Conjunction.pushAll ∅
        [("a", ⟨.eq, .objectId 0x507f1f77bcf86cd799439011, false⟩)])) ∧
      Filter.ofJson markedJson ≠ .ok marked := by
  have hpushed : ∀ conjunction ∈ marked.alternatives, conjunction.Pushed :=
    List.forall_mem_singleton.mpr ⟨_, rfl⟩
  have hplain : ∀ conjunction ∈ marked.alternatives, ∀ pair ∈ conjunction.conditions,
      pair.2.value.Plain := by
    simp [marked, single, Conjunction.mem_conditions_pushAll, Value.Plain.string,
      Value.Plain.document]
  have hwritten : marked.WrittenAs markedJson := by
    refine ⟨_, rfl, .cons ⟨_, rfl, .cons ⟨rfl, .single ?_⟩ .nil⟩ .nil⟩
    exact .pair (Condition.namedBy_token (.of .eq .null))
  refine ⟨hpushed, hplain, hwritten, by rfl, fun hread => ?_⟩
  rw [ofJson_of_writtenAs hpushed hplain hwritten, Except.ok.injEq, spelledOut_eq_self_iff] at hread
  exact hread _ (List.mem_singleton.mpr rfl) _ (List.mem_singleton.mpr rfl) (.spelled rfl)

end Filter

end DocStore
