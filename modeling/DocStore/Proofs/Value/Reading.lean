import DocStore.Proofs.Value.Conversion

/-!
# Values read from JSON

JSON knows one kind of integers only, and an object may spell a value of another kind. A value
comes back from JSON as it was written if its integers are of the size that the reader chooses for
them, and if no name in it looks like a mark.
-/

namespace DocStore

/-! ## What has been written, as it is read -/

namespace Json

theorem itemSources_eq_map (items : List Json) : itemSources items = items.map source := by
  induction items with
  | nil => rfl
  | cons item rest ih => rw [itemSources, ih, List.map_cons]

theorem memberSources_eq_map (members : List (String × Json)) :
    memberSources members = members.map fun member => (some member.1, member.2.source) := by
  induction members with
  | nil => rfl
  | cons member rest ih => rw [memberSources, ih, List.map_cons]

end Json

namespace Value

/-- A value that JSON keeps: null, truth values, texts, integers of thirty-two bits that are not
negative, integers of sixty-four bits that are negative or do not fit into the former, finite
doubles, and arrays and documents of such values. A document has distinct names, none of which
begins with a dollar sign. -/
inductive Portable : Value → Prop
  | null : Portable .null
  | bool (b : Bool) : Portable (.bool b)
  | string (s : String) : Portable (.string s)
  | int32 {n : Int32} : 0 ≤ n.toInt → Portable (.int32 n)
  | int64 {n : Int64} : n.toInt < 0 ∨ 2147483647 < n.toInt → Portable (.int64 n)
  | double {d : Double} : d.isFinite = true → Portable (.double d)
  | array {items : List Value} : (∀ item ∈ items, Portable item) → Portable (.array items)
  | document {entries : List (String × Value)} : (Entries.names entries).Nodup →
      (∀ name ∈ Entries.names entries, name.toList.head? ≠ some '$') →
      (∀ entry ∈ entries, Portable entry.2) → Portable (.document entries)

/-! ## Integers -/

theorem ofSourceInteger?_int32 {n : Int32} (hn : 0 ≤ n.toInt) :
    ofSourceInteger? n.toInt = some (.int32 n) := by
  have hhigh := n.toInt_lt
  have hfits : 0 ≤ n.toInt ∧ n.toInt ≤ 2147483647 := by omega
  have hrange : -2147483648 ≤ n.toInt ∧ n.toInt ≤ 2147483647 := by omega
  simp [ofSourceInteger?, int32?, Fixed.int32?, hfits, hrange]

theorem ofSourceInteger?_int64 {n : Int64} (hn : n.toInt < 0 ∨ 2147483647 < n.toInt) :
    ofSourceInteger? n.toInt = some (.int64 n) := by
  have hlow := n.le_toInt
  have hhigh := n.toInt_lt
  have hbeyond : ¬ (0 ≤ n.toInt ∧ n.toInt ≤ 2147483647) := by omega
  have hrange : -9223372036854775808 ≤ n.toInt ∧ n.toInt ≤ 9223372036854775807 := by omega
  simp [ofSourceInteger?, int64?, Fixed.int64?, hbeyond, hrange]

/-! ## Arrays and documents -/

theorem ofSourceItems?_map {items : List Value}
    (hread : ∀ item ∈ items, ofSource? item.toJson.source = some item) :
    ofSourceItems? (items.map fun item => item.toJson.source) = some items := by
  induction items with
  | nil => rfl
  | cons item rest ih =>
      obtain ⟨hitem, hrest⟩ := List.forall_mem_cons.mp hread
      simp [ofSourceItems?, hitem, ih hrest]

theorem head?_of_mem_marks {name : String} (hmark : name ∈ marks) :
    name.toList.head? = some '$' := by
  have hall : ∀ mark ∈ marks, mark.toList.head? = some '$' := by decide
  exact hall name hmark

/-- A member whose name is no mark is read as the next entry. -/
theorem ofSourceMembers?_cons_of_not_mem {name : String} (hplain : name ∉ marks) (sofar : Document)
    (member : JsonSource) (rest : List (Option String × JsonSource)) :
    ofSourceMembers? sofar ((some name, member) :: rest) =
      (ofSource? member).bind fun value => ofSourceMembers? (sofar.insert name value) rest := by
  rw [ofSourceMembers?.eq_def]
  exact if_neg hplain

/-- Members whose names are no marks are added to those that were read before. -/
theorem ofSourceMembers?_map {entries : List (String × Value)}
    (hnames : ∀ name ∈ Entries.names entries, name.toList.head? ≠ some '$')
    (hread : ∀ entry ∈ entries, ofSource? entry.2.toJson.source = some entry.2)
    (sofar : Document) :
    ofSourceMembers? sofar (entries.map fun entry => (some entry.1, entry.2.toJson.source)) =
      some (.document (sofar.insertAll entries).entries) := by
  induction entries generalizing sofar with
  | nil => rfl
  | cons entry rest ih =>
      obtain ⟨hname, hnames⟩ := List.forall_mem_cons.mp hnames
      obtain ⟨hentry, hrest⟩ := List.forall_mem_cons.mp hread
      have hplain : entry.1 ∉ marks := fun hmark => hname (head?_of_mem_marks hmark)
      rw [List.map_cons, ofSourceMembers?_cons_of_not_mem hplain, hentry]
      exact ih hnames hrest (sofar.insert entry.1 entry.2)

/-- Such a value is read as it was written. -/
theorem ofSource?_toJson {value : Value} (hportable : value.Portable) :
    ofSource? value.toJson.source = some value := by
  induction value using induction_parts with
  | scalar value hscalar =>
      cases hportable with
      | null | bool | string => rfl
      | int32 hn => exact ofSourceInteger?_int32 hn
      | int64 hn => exact ofSourceInteger?_int64 hn
      | double hfinite => simp [toJson, jsonDouble, hfinite, Json.source, ofSource?]
      | array => exact absurd (.array _) hscalar
      | document => exact absurd (.document _) hscalar
  | array items ih =>
      cases hportable with
      | array hitems =>
          have hread := ofSourceItems?_map fun item hitem => ih item hitem (hitems item hitem)
          rw [toJson, jsonItems_eq_map, Json.source, Json.itemSources_eq_map, List.map_map,
            ofSource?]
          exact congrArg (Option.map Value.array) hread
  | document entries ih =>
      cases hportable with
      | document hnodup hnames hentries =>
          have hread := ofSourceMembers?_map hnames
            (fun entry hentry => ih entry hentry (hentries entry hentry)) ∅
          rw [toJson, jsonMembers_eq_map, Json.source, Json.memberSources_eq_map, List.map_map,
            ofSource?]
          refine hread.trans ?_
          congr 2
          exact OrderedMap.entries_ofList hnodup
  | codeWithScope source scope _ => cases hportable

end Value

end DocStore
