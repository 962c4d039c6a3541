import DocStore.Schema.Json
import DocStore.Proofs.Value.Reading

/-!
# Schemas in JSON

A schema is read from JSON as it was written, provided that the values it gives to missing fields
are kept by JSON. The reader takes one declaration after the other. A field that is declared again
keeps its first place and gets its last descriptor.
-/

namespace DocStore

/-! ## Records -/

/-- A record that is written as an object, with no member that the reader does not know. -/
theorem JsonSource.members?_of_names {names : List String} {fields : List (String × JsonSource)}
    (hnodup : (Entries.names fields).Nodup) (hnames : ∀ name ∈ Entries.names fields, name ∈ names) :
    members? names (fields.map fun field => (some field.1, field.2)) = some fields := by
  induction fields with
  | nil => rfl
  | cons field rest ih =>
      obtain ⟨hfresh, hrest⟩ := List.nodup_cons.mp hnodup
      obtain ⟨hname, hnames⟩ := List.forall_mem_cons.mp hnames
      rw [List.map_cons, members?, ih hrest hnames, Option.bind_eq_bind, Option.bind_some,
        if_pos hname]
      exact if_neg hfresh

/-! ## Descriptors -/

theorem ValueType.ofSource?_toJson (kind : ValueType) :
    ofSource? kind.toJson.source = some kind := by
  cases kind <;> rfl

theorem JsonSource.uint64?_ofNat (n : UInt64) : uint64? (Json.ofNat n.toNat).source = some n := by
  have hfits := n.toNat_lt
  have hrange : (0 : Int) ≤ n.toNat ∧ (n.toNat : Int) ≤ 18446744073709551615 := by omega
  simp [uint64?, integer?, Json.ofNat, Json.source, Fixed.uint64?, hrange]

/-- A default is kept by JSON. -/
def FieldDefault.Portable : FieldDefault → Prop
  | literal value => value.Portable
  | now => True

theorem FieldDefault.nullable?_toJson {default : FieldDefault} (hportable : default.Portable) :
    JsonSource.nullable? ofSource? default.toJson.source = some (some default) := by
  cases default with
  | literal value =>
      have hread : (Value.ofSource? value.toJson.source).map literal = some (literal value) := by
        rw [Value.ofSource?_toJson hportable]
        rfl
      exact congrArg (Option.map some) hread
  | now => rfl

namespace FieldRule

/-- The members of a descriptor in JSON. -/
def members (rule : FieldRule) : List (String × Json) :=
  [("type", rule.kind.toJson), ("required", .bool rule.required), ("unique", .bool rule.unique),
    ("index", .bool rule.index), ("hide", .bool rule.hide), ("lowercase", .bool rule.lowercase)] ++
    (rule.default.map fun default => ("default", default.toJson)).toList ++
    (rule.expires.map fun seconds => ("expires", Json.ofNat seconds.toNat)).toList

theorem toJson_eq_object (rule : FieldRule) : rule.toJson = .object rule.members := by
  obtain ⟨kind, required, unique, index, hide, lowercase, default, expires⟩ := rule
  cases default <;> cases expires <;> rfl

theorem names_members_sublist (rule : FieldRule) :
    (Entries.names rule.members).Sublist fieldNames := by
  obtain ⟨kind, required, unique, index, hide, lowercase, default, expires⟩ := rule
  cases default <;> cases expires <;> simp [members, Entries.names, fieldNames]

/-- The fields of a descriptor, as they are read. -/
def record (rule : FieldRule) : JsonRecord :=
  ⟨false, rule.members.map fun member => (member.1, member.2.source)⟩

theorem record?_toJson (rule : FieldRule) :
    rule.toJson.source.record? fieldNames = some rule.record := by
  have hsub := rule.names_members_sublist
  have hnames : Entries.names (rule.members.map fun member => (member.1, member.2.source)) =
      Entries.names rule.members :=
    Entries.names_map (fun _ json => json.source) rule.members
  have hread := JsonSource.members?_of_names (hnames ▸ hsub.nodup (by decide))
    (hnames ▸ fun name hname => hsub.subset hname)
  rw [List.map_map] at hread
  rw [toJson_eq_object, Json.source, Json.memberSources_eq_map]
  exact congrArg (Option.map fun fields => (⟨false, fields⟩ : JsonRecord)) hread

theorem lookup_record (rule : FieldRule) (name : String) :
    rule.record.fields.lookup name = (Entries.get? rule.members name).map Json.source :=
  Entries.get?_map (fun (_ : String) (json : Json) => json.source) rule.members name

theorem read_flag {rule : FieldRule} {name : String} {flag : Bool}
    (hmember : Entries.get? rule.members name = some (.bool flag)) :
    rule.record.defaulted? name false JsonSource.bool? = some flag := by
  rw [JsonRecord.defaulted?, lookup_record, hmember]
  rfl

theorem read_default {rule : FieldRule}
    (hportable : ∀ default, rule.default = some default → default.Portable) :
    rule.record.defaulted? "default" none (JsonSource.nullable? FieldDefault.ofSource?) =
      some rule.default := by
  have hmember : Entries.get? rule.members "default" = rule.default.map FieldDefault.toJson := by
    obtain ⟨kind, required, unique, index, hide, lowercase, default, expires⟩ := rule
    cases default <;> cases expires <;> rfl
  rw [JsonRecord.defaulted?, lookup_record, hmember]
  cases hdefault : rule.default with
  | none => rfl
  | some default => exact FieldDefault.nullable?_toJson (hportable default hdefault)

theorem read_expires (rule : FieldRule) :
    rule.record.defaulted? "expires" none (JsonSource.nullable? JsonSource.uint64?) =
      some rule.expires := by
  have hmember : Entries.get? rule.members "expires" =
      rule.expires.map fun seconds => Json.ofNat seconds.toNat := by
    obtain ⟨kind, required, unique, index, hide, lowercase, default, expires⟩ := rule
    cases default <;> cases expires <;> rfl
  rw [JsonRecord.defaulted?, lookup_record, hmember]
  cases rule.expires with
  | none => rfl
  | some seconds => exact congrArg (Option.map some) (JsonSource.uint64?_ofNat seconds)

theorem ofSource?_toJson {rule : FieldRule}
    (hportable : ∀ default, rule.default = some default → default.Portable) :
    ofSource? rule.toJson.source = some rule := by
  have hkind : rule.record.required? "type" ValueType.ofSource? = some rule.kind :=
    ValueType.ofSource?_toJson rule.kind
  have hrequired : rule.record.defaulted? "required" false JsonSource.bool? = some rule.required :=
    read_flag rfl
  have hunique : rule.record.defaulted? "unique" false JsonSource.bool? = some rule.unique :=
    read_flag rfl
  have hindex : rule.record.defaulted? "index" false JsonSource.bool? = some rule.index :=
    read_flag rfl
  have hhide : rule.record.defaulted? "hide" false JsonSource.bool? = some rule.hide :=
    read_flag rfl
  have hlowercase : rule.record.defaulted? "lowercase" false JsonSource.bool? =
      some rule.lowercase :=
    read_flag rfl
  simp [ofSource?, record?_toJson, hkind, hrequired, hunique, hindex, hhide, hlowercase,
    read_default hportable, read_expires]

end FieldRule

/-! ## Schemas -/

namespace Schema

/-- A declaration in JSON: the name of a field and its descriptor. -/
def Declares (member : Option String × JsonSource) (entry : String × FieldRule) : Prop :=
  member.1 = some entry.1 ∧ FieldRule.ofSource? member.2 = some entry.2

theorem foldlM_addMember {members : List (Option String × JsonSource)}
    {entries : List (String × FieldRule)} (hdeclares : List.Forall₂ Declares members entries)
    (schema : Schema) : members.foldlM addMember schema = some (schema.insertAll entries) := by
  induction hdeclares generalizing schema with
  | nil => rfl
  | @cons member entry members entries hentry _ ih =>
      have hadd : schema.addMember member = some (schema.insert entry.1 entry.2) := by
        simp [addMember, hentry.1, hentry.2]
      rw [List.foldlM_cons, hadd]
      exact ih (schema.insert entry.1 entry.2)

theorem ofSource?_of_declares {members : List (Option String × JsonSource)}
    {entries : List (String × FieldRule)} (hdeclares : List.Forall₂ Declares members entries) :
    ofSource? (.object members) = some (OrderedMap.ofList entries) :=
  foldlM_addMember hdeclares ∅

/-- The values that a schema gives to missing fields are kept by JSON. -/
def Portable (schema : Schema) : Prop :=
  ∀ entry ∈ schema.entries, ∀ default, entry.2.default = some default → default.Portable

theorem ofSource?_toJson {schema : Schema} (hportable : schema.Portable) :
    ofSource? schema.toJson.source = some schema := by
  have hdeclares : List.Forall₂ Declares
      (schema.entries.map fun entry => (some entry.1, entry.2.toJson.source)) schema.entries := by
    rw [List.forall₂_map_left_iff, List.forall₂_same]
    intro entry hentry
    exact ⟨rfl, FieldRule.ofSource?_toJson (hportable entry hentry)⟩
  rw [toJson, Json.source, Json.memberSources_eq_map, List.map_map]
  exact (ofSource?_of_declares hdeclares).trans (congrArg some schema.ofList_entries)

/-- A schema whose defaults are kept by JSON is read from JSON as it was written. Whatever
declarations are read, every field is there once, in the order in which the fields were first
declared, and has the descriptor that was declared last. -/
theorem schemas_in_json :
    (∀ schema : Schema, schema.Portable → ofSource? schema.toJson.source = some schema) ∧
    ∀ (members : List (Option String × JsonSource)) (entries : List (String × FieldRule)),
      List.Forall₂ Declares members entries →
        ∃ read, ofSource? (.object members) = some read ∧
          read.names = (Entries.names entries).eraseDups ∧
          ∀ field, read.get? field = Entries.get? entries.reverse field := by
  constructor
  · intro schema hportable
    exact ofSource?_toJson hportable
  · intro members entries hdeclares
    refine ⟨_, ofSource?_of_declares hdeclares, ?_, ?_⟩
    · exact OrderedMap.names_ofList entries
    · exact OrderedMap.get?_ofList entries

/-- A default with other values inside. -/
def dimensions : Value :=
  .document [("count", .int32 5), ("shift", .int64 (-3)),
    ("ratio", .array [.double (.ofInt 2), .null, .bool true])]

theorem portable_dimensions : dimensions.Portable := by
  apply Value.Portable.document (by decide) (by decide)
  simp only [List.forall_mem_cons]
  refine ⟨.int32 (by decide), .int64 (by decide), .array ?_, nofun⟩
  simp only [List.forall_mem_cons]
  exact ⟨.double (by decide), .null, .bool true, nofun⟩

/-- Fields with a nested default, with null as a default, with the time as a default, and with no
default at all. -/
def catalogue : Schema :=
  withHidden (OrderedMap.ofList
    [("meta", { FieldRule.ofType .object with default := some (.literal dimensions) }),
      ("state", { FieldRule.ofType .any with default := some (.literal .null) }),
      ("seen", { FieldRule.ofType .date with
        default := some .now, expires := some 18446744073709551615 }),
      ("title", { FieldRule.ofType .string with required := true, lowercase := true })]) "token"

theorem portable_catalogue : catalogue.Portable := by
  have hdefaults : catalogue.entries.filterMap (fun entry => entry.2.default) =
      [.literal dimensions, .literal .null, .now] := rfl
  intro entry hentry default hdefault
  have hmem : default ∈ [FieldDefault.literal dimensions, .literal .null, .now] :=
    hdefaults ▸ List.mem_filterMap.mpr ⟨entry, hentry, hdefault⟩
  simp only [List.mem_cons, List.not_mem_nil, or_false] at hmem
  rcases hmem with rfl | rfl | rfl
  · exact portable_dimensions
  · exact Value.Portable.null
  · trivial

/-- Declarations as they are written by hand, one of them made twice. -/
def declarations : List (Option String × JsonSource) :=
  [(some "kind", .object [(some "type", .string "string")]),
    (some "seen", .object [(some "type", .string "date"), (some "default", .string "now")]),
    (some "kind", .object [(some "hide", .bool true), (some "type", .string "any")])]

theorem schemas_in_json_catalogue :
    ofSource? catalogue.toJson.source = some catalogue ∧
      ∃ read, ofSource? (.object declarations) = some read ∧ read.names = ["kind", "seen"] ∧
        read.get? "kind" = some (FieldRule.ofType .any).hidden := by
  have hdeclares : List.Forall₂ Declares declarations
      [("kind", .ofType .string), ("seen", { FieldRule.ofType .date with default := some .now }),
        ("kind", (FieldRule.ofType .any).hidden)] :=
    .cons ⟨rfl, rfl⟩ (.cons ⟨rfl, rfl⟩ (.cons ⟨rfl, rfl⟩ .nil))
  obtain ⟨read, hread, hnames, hget⟩ := schemas_in_json.2 _ _ hdeclares
  exact ⟨schemas_in_json.1 catalogue portable_catalogue, read, hread, hnames, hget "kind"⟩

end Schema

end DocStore
