import DocStore.Value.Conversion
import DocStore.Value.Json
import DocStore.Proofs.Outcome
import DocStore.Proofs.Value.Sameness

/-!
# Values in JSON

A JSON value can be read as a value unless one of its integers is too large. A value of the kinds
that JSON has is read as it was written, with one exception: a document that spells a value of
another kind, an object id for instance, is read as that value.
-/

namespace DocStore

theorem map_eq_self_iff {α : Type} {f : α → α} {items : List α} :
    items.map f = items ↔ ∀ item ∈ items, f item = item := by
  nth_rewrite 2 [← List.map_id items]
  exact List.map_inj_left

/-! ## Reading -/

namespace Json

/-- Induction over JSON values by their parts: the items of arrays and the members of objects. -/
@[elab_as_elim]
theorem induction_parts {motive : Json → Prop} (null : motive .null)
    (bool : ∀ b, motive (.bool b)) (number : ∀ n, motive (.number n))
    (string : ∀ s, motive (.string s))
    (array : ∀ items, (∀ item ∈ items, motive item) → motive (.array items))
    (object : ∀ members, (∀ member ∈ members, motive member.2) → motive (.object members)) :
    ∀ json, motive json
  | .null => null
  | .bool b => bool b
  | .number n => number n
  | .string s => string s
  | .array items => array items fun item hitem =>
      have _hsmaller := List.sizeOf_lt_of_mem hitem
      induction_parts null bool number string array object item
  | .object members => object members fun (name, member) hmember =>
      have _hsmaller := List.sizeOf_lt_of_mem hmember
      induction_parts null bool number string array object member
termination_by json => sizeOf json
decreasing_by
  · simp only [Json.array.sizeOf_spec]
    omega
  · simp only [Json.object.sizeOf_spec]
    simp only [Prod.mk.sizeOf_spec] at _hsmaller
    omega

/-- An integer in a JSON value, at any depth, needs more than sixty-four bits. -/
inductive Oversized : Json → Prop
  | integer {n : Int} : ¬ (-9223372036854775808 ≤ n ∧ n ≤ 9223372036854775807) →
      Oversized (.number (.integer n))
  | item {items : List Json} {item : Json} : item ∈ items → Oversized item →
      Oversized (.array items)
  | member {members : List (String × Json)} {name : String} {value : Json} :
      (name, value) ∈ members → Oversized value → Oversized (.object members)

@[simp] theorem not_oversized_string (s : String) : ¬ (string s).Oversized :=
  fun hoversized => nomatch hoversized

@[simp] theorem oversized_integer {n : Int} :
    (number (.integer n)).Oversized ↔
      ¬ (-9223372036854775808 ≤ n ∧ n ≤ 9223372036854775807) :=
  ⟨fun hoversized => by cases hoversized; assumption, .integer⟩

@[simp] theorem oversized_array {items : List Json} :
    (array items).Oversized ↔ ∃ item ∈ items, item.Oversized := by
  constructor
  · intro hoversized
    cases hoversized with
    | item hmem hitem => exact ⟨_, hmem, hitem⟩
  · intro ⟨item, hmem, hitem⟩
    exact .item hmem hitem

@[simp] theorem oversized_object {members : List (String × Json)} :
    (object members).Oversized ↔ ∃ member ∈ members, member.2.Oversized := by
  constructor
  · intro hoversized
    cases hoversized with
    | member hmem hvalue => exact ⟨_, hmem, hvalue⟩
  · intro ⟨member, hmem, hvalue⟩
    exact .member hmem hvalue

end Json

namespace Value

theorem ofJsonItems_eq_mapM (items : List Json) : ofJsonItems items = items.mapM ofJson := by
  induction items with
  | nil => rfl
  | cons item rest ih =>
      rw [ofJsonItems, ih, List.mapM_cons]
      cases ofJson item <;> rfl

theorem ofJsonMembers_eq_mapM (members : List (String × Json)) :
    ofJsonMembers members =
      members.mapM fun member => (ofJson member.2).map fun value => (member.1, value) := by
  induction members with
  | nil => rfl
  | cons member rest ih =>
      rw [ofJsonMembers, ih, List.mapM_cons]
      cases ofJson member.2 <;> rfl

theorem exists_ofJson_iff (json : Json) :
    (∃ value, ofJson json = .ok value) ↔ ¬ json.Oversized := by
  induction json using Json.induction_parts with
  | null | bool | string => exact iff_of_true ⟨_, rfl⟩ fun hoversized => nomatch hoversized
  | number n =>
      cases n with
      | integer n =>
          rw [Json.oversized_integer, not_not]
          by_cases hfits : -9223372036854775808 ≤ n ∧ n ≤ 9223372036854775807 <;>
            simp [ofJson, ofInteger, int64?, Fixed.int64?, hfits]
      | double d => exact iff_of_true ⟨_, rfl⟩ fun hoversized => nomatch hoversized
  | array items ih =>
      rw [ofJson, Outcome.exists_map_eq_ok_iff, ofJsonItems_eq_mapM,
        Outcome.exists_mapM_eq_ok_iff, Json.oversized_array]
      simp only [not_exists, not_and]
      exact forall₂_congr ih
  | object members ih =>
      rw [ofJson, Outcome.exists_map_eq_ok_iff, ofJsonMembers_eq_mapM,
        Outcome.exists_mapM_eq_ok_iff, Json.oversized_object]
      simp only [Outcome.exists_map_eq_ok_iff, not_exists, not_and]
      exact forall₂_congr ih

/-! ## Documents that spell a value -/

theorem ofMarkedText?_ne_document (mark text : String) (entries : List (String × Value)) :
    ofMarkedText? mark text ≠ some (.document entries) := by
  unfold ofMarkedText?
  split <;>
    simp [readObjectId?, readDouble?, int32?, int64?, instant?, Option.bind_eq_some_iff]

theorem binaryOfEntries?_ne_document (held entries : List (String × Value)) :
    binaryOfEntries? held ≠ some (.document entries) := by
  unfold binaryOfEntries?
  split
  case h_1 => simp [binary?, Option.bind_eq_some_iff]
  case h_3 => split <;> simp
  case h_2 | h_4 => simp

theorem ofMarkedEntries?_ne_document (mark : String) (held entries : List (String × Value)) :
    ofMarkedEntries? mark held ≠ some (.document entries) := by
  unfold ofMarkedEntries?
  split
  case h_1 | h_2 | h_4 =>
    split <;> simp [timestamp?, regex?, Option.bind_eq_some_iff]
  case h_3 => exact binaryOfEntries?_ne_document held entries
  case h_5 => simp

theorem ofMarkedNumber?_ne_document (mark : String) (n : Int) (entries : List (String × Value)) :
    ofMarkedNumber? mark n ≠ some (.document entries) := by
  unfold ofMarkedNumber?
  split <;> simp

theorem ofMarked?_ne_document (mark : String) (value : Value) (entries : List (String × Value)) :
    ofMarked? mark value ≠ some (.document entries) := by
  unfold ofMarked?
  split
  next text => exact ofMarkedText?_ne_document mark text entries
  next held => exact ofMarkedEntries?_ne_document mark held entries
  next n => exact ofMarkedNumber?_ne_document mark n.toInt entries
  next n =>
    split
    next => simp
    next => exact ofMarkedNumber?_ne_document mark n.toInt entries
  next => simp
  next => simp
  next => simp

/-- What a document spells is never a document. -/
theorem spelled?_ne_document (held entries : List (String × Value)) :
    spelled? held ≠ some (.document entries) := by
  unfold spelled?
  split
  next mark value => exact ofMarked?_ne_document mark value entries
  next =>
    unfold ofCodeEntries?
    split <;> simp
  next => simp

/-- A document stands for itself unless it spells something. -/
theorem ofEntries_eq_document_iff {entries others : List (String × Value)} :
    ofEntries entries = .document others ↔ entries = others ∧ spelled? entries = none := by
  unfold ofEntries
  cases hspelled : spelled? entries with
  | none => simp
  | some other =>
      have hother : other ≠ .document others := by
        rintro rfl
        exact spelled?_ne_document entries others hspelled
      simp [hother]

mutual

/-- A value in which every document that spells a value is that value, from the inside outwards. -/
def spelledOut : Value → Value
  | array items => .array (spelledOutItems items)
  | document entries => ofEntries (spelledOutEntries entries)
  | value => value

/-- The items of an array, spelled out. -/
def spelledOutItems : List Value → List Value
  | [] => []
  | item :: rest => item.spelledOut :: spelledOutItems rest

/-- The entries of a document, spelled out. -/
def spelledOutEntries : List (String × Value) → List (String × Value)
  | [] => []
  | (name, value) :: rest => (name, value.spelledOut) :: spelledOutEntries rest

end

theorem spelledOutItems_eq_map (items : List Value) :
    spelledOutItems items = items.map spelledOut := by
  induction items with
  | nil => rfl
  | cons item rest ih => rw [spelledOutItems, ih, List.map_cons]

theorem spelledOutEntries_eq_map (entries : List (String × Value)) :
    spelledOutEntries entries = entries.map fun entry => (entry.1, entry.2.spelledOut) := by
  induction entries with
  | nil => rfl
  | cons entry rest ih => rw [spelledOutEntries, ih, List.map_cons]

/-- A document in a value, at any depth, spells another value. -/
inductive HoldsSpelling : Value → Prop
  | spelled {entries : List (String × Value)} {other : Value} : spelled? entries = some other →
      HoldsSpelling (.document entries)
  | item {items : List Value} {item : Value} : item ∈ items → HoldsSpelling item →
      HoldsSpelling (.array items)
  | entry {entries : List (String × Value)} {name : String} {value : Value} :
      (name, value) ∈ entries → HoldsSpelling value → HoldsSpelling (.document entries)

theorem holdsSpelling_array {items : List Value} :
    (array items).HoldsSpelling ↔ ∃ item ∈ items, item.HoldsSpelling := by
  constructor
  · intro hholds
    cases hholds with
    | item hmem hitem => exact ⟨_, hmem, hitem⟩
  · intro ⟨item, hmem, hitem⟩
    exact .item hmem hitem

theorem holdsSpelling_document {entries : List (String × Value)} :
    (document entries).HoldsSpelling ↔
      (∃ other, spelled? entries = some other) ∨ ∃ entry ∈ entries, entry.2.HoldsSpelling := by
  constructor
  · intro hholds
    cases hholds with
    | spelled hspelled => exact .inl ⟨_, hspelled⟩
    | entry hmem hvalue => exact .inr ⟨_, hmem, hvalue⟩
  · rintro (⟨other, hspelled⟩ | ⟨entry, hmem, hvalue⟩)
    · exact .spelled hspelled
    · exact .entry hmem hvalue

/-- Spelling out changes exactly the values that hold a spelling. -/
theorem spelledOut_eq_self_iff (value : Value) :
    value.spelledOut = value ↔ ¬ value.HoldsSpelling := by
  induction value using induction_parts with
  | scalar value hscalar =>
      have hself : value.spelledOut = value := by
        cases value with
        | array items => exact absurd (.array items) hscalar
        | document entries => exact absurd (.document entries) hscalar
        | _ => rfl
      refine iff_of_true hself fun hholds => hscalar ?_
      cases hholds with
      | spelled => exact .document _
      | item => exact .array _
      | entry => exact .document _
  | array items ih =>
      rw [spelledOut, array.injEq, spelledOutItems_eq_map, map_eq_self_iff, holdsSpelling_array]
      simp only [not_exists, not_and]
      exact forall₂_congr ih
  | document entries ih =>
      have hkept : spelledOutEntries entries = entries ↔
          ∀ entry ∈ entries, ¬ entry.2.HoldsSpelling := by
        rw [spelledOutEntries_eq_map, map_eq_self_iff]
        refine forall₂_congr fun entry hentry => ?_
        rw [← ih entry hentry, Prod.ext_iff]
        exact and_iff_right rfl
      rw [spelledOut, ofEntries_eq_document_iff, holdsSpelling_document, hkept]
      -- Whether the document itself spells something is asked with its entries spelled out, which
      -- makes no difference once they are found to hold no spelling.
      constructor
      · rintro ⟨hparts, hnone⟩ (⟨other, hspelled⟩ | ⟨entry, hmem, hholds⟩)
        · rw [hkept.mpr hparts, hspelled] at hnone
          cases hnone
        · exact hparts entry hmem hholds
      · intro hnone
        have hparts : ∀ entry ∈ entries, ¬ entry.2.HoldsSpelling :=
          fun entry hmem hholds => hnone (.inr ⟨entry, hmem, hholds⟩)
        refine ⟨hparts, ?_⟩
        rw [hkept.mpr hparts, Option.eq_none_iff_forall_ne_some]
        exact fun other hother => hnone (.inl ⟨other, hother⟩)
  | codeWithScope source scope _ => exact iff_of_true rfl nofun

example : (document [("$scope", .document [("n", .int64 1)]), ("$code", .string "n")]).spelledOut =
    .codeWithScope "n" [("n", .int64 1)] :=
  rfl

/-! ## Writing -/

/-- A value of the kinds that JSON has: null, truth values, texts, integers of sixty-four bits,
finite doubles, and arrays and documents of such values. -/
inductive Plain : Value → Prop
  | null : Plain .null
  | bool (b : Bool) : Plain (.bool b)
  | string (s : String) : Plain (.string s)
  | int64 (n : Int64) : Plain (.int64 n)
  | double {d : Double} : d.isFinite = true → Plain (.double d)
  | array {items : List Value} : (∀ item ∈ items, Plain item) → Plain (.array items)
  | document {entries : List (String × Value)} : (∀ entry ∈ entries, Plain entry.2) →
      Plain (.document entries)

theorem jsonItems_eq_map (items : List Value) : jsonItems items = items.map toJson := by
  induction items with
  | nil => rfl
  | cons item rest ih => rw [jsonItems, ih, List.map_cons]

theorem jsonMembers_eq_map (entries : List (String × Value)) :
    jsonMembers entries = entries.map fun entry => (entry.1, entry.2.toJson) := by
  induction entries with
  | nil => rfl
  | cons entry rest ih => rw [jsonMembers, ih, List.map_cons]

/-- What is written in JSON is read with its spellings spelled out. -/
theorem ofJson_toJson (value : Value) (hplain : value.Plain) :
    ofJson value.toJson = .ok value.spelledOut := by
  induction value using induction_parts with
  | scalar value hscalar =>
      cases hplain with
      | null | bool | string => rfl
      | int64 n =>
          have hfits : -9223372036854775808 ≤ n.toInt ∧ n.toInt ≤ 9223372036854775807 := by
            have hlow := n.le_toInt
            have hhigh := n.toInt_lt
            omega
          simp [toJson, jsonInteger, ofJson, ofInteger, int64?, Fixed.int64?, hfits, spelledOut]
      | double hfinite => simp [toJson, jsonDouble, hfinite, ofJson, spelledOut]
      | array => exact absurd (.array _) hscalar
      | document => exact absurd (.document _) hscalar
  | array items ih =>
      cases hplain with
      | array hitems =>
          have hread : (items.map toJson).mapM ofJson = .ok (items.map spelledOut) :=
            Outcome.mapM_map_of_forall fun item hitem => ih item hitem (hitems item hitem)
          rw [toJson, jsonItems_eq_map, ofJson, ofJsonItems_eq_mapM, hread, spelledOut,
            spelledOutItems_eq_map]
          rfl
  | document entries ih =>
      cases hplain with
      | document hentries =>
          have hread : (entries.map fun entry => (entry.1, entry.2.toJson)).mapM
              (fun member => (ofJson member.2).map fun value => (member.1, value)) =
                .ok (entries.map fun entry => (entry.1, entry.2.spelledOut)) := by
            apply Outcome.mapM_map_of_forall
            intro entry hentry
            rw [ih entry hentry (hentries entry hentry)]
            rfl
          rw [toJson, jsonMembers_eq_map, ofJson, ofJsonMembers_eq_mapM, hread, spelledOut,
            spelledOutEntries_eq_map]
          rfl
  | codeWithScope source scope _ => cases hplain

end Value

end DocStore
