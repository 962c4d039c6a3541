import DocStore.Value.Order
import DocStore.Proofs.Number.Order
import Mathlib.Data.Option.Basic

/-!
# The order of fields for sorting

A value is sorted by a key: truth values, numbers, points in time, timestamps and texts have one,
and the keys of one class are linearly ordered. Values that have no key, or keys of two classes,
count as equal to each other, however their neighbours compare. This is why sorting is lawful in a
column of one class, and why one value that does not compare is enough to spoil it.
-/

namespace DocStore

/-! ## Keys -/

/-- The classes of values that have an order of their own. -/
inductive SortClass where
  | truth
  | number
  | instant
  | timestamp
  | text
deriving DecidableEq

/-- What a value is sorted by. A number is sorted by its exact value as a double, counted in the
least positive double. -/
inductive SortKey where
  | truth (b : Bool)
  | number (steps : Int)
  | instant (time : Instant)
  | timestamp (time increment : UInt32)
  | text (s : String)

namespace SortKey

/-- The class of a key. -/
def sortClass : SortKey → SortClass
  | truth _ => .truth
  | number _ => .number
  | instant _ => .instant
  | timestamp _ _ => .timestamp
  | text _ => .text

/-- A key comes before another one of its class. -/
inductive Precedes : SortKey → SortKey → Prop
  | truth : Precedes (truth false) (truth true)
  | number {steps others : Int} : steps < others → Precedes (number steps) (number others)
  | instant {time later : Instant} : time < later → Precedes (instant time) (instant later)
  | timestamp {time later increment other : UInt32} : time < later →
      Precedes (timestamp time increment) (timestamp later other)
  | increment {time increment other : UInt32} : increment < other →
      Precedes (timestamp time increment) (timestamp time other)
  | text {s t : String} : s < t → Precedes (text s) (text t)

/-- Comparison of keys. Keys of different classes count as equal. -/
def compare : SortKey → SortKey → Ordering
  | truth a, truth b => Ord.compare a b
  | number a, number b => Ord.compare a b
  | instant a, instant b => Ord.compare a b
  | timestamp a i, timestamp b j => Value.comparePairs a i b j
  | text a, text b => Ord.compare a b
  | _, _ => .eq

/-- Timestamps are compared as pairs, the time first. -/
def comparePair : UInt32 × UInt32 → UInt32 × UInt32 → Ordering :=
  compareLex (compareOn Prod.fst) (compareOn Prod.snd)

instance : Std.TransCmp comparePair := by
  unfold comparePair
  infer_instance

theorem comparePairs_eq_lt_iff {a i b j : UInt32} :
    Value.comparePairs a i b j = .lt ↔ a < b ∨ a = b ∧ i < j := by
  unfold Value.comparePairs
  rw [Ordering.then_eq_lt, Std.compare_eq_lt, Std.compare_eq_lt,
    Std.LawfulEqCmp.compare_eq_iff_eq]

theorem isLE_comparePairs_trans {a i b j c k : UInt32}
    (hle : (Value.comparePairs a i b j).isLE) (hle' : (Value.comparePairs b j c k).isLE) :
    (Value.comparePairs a i c k).isLE := by
  change (comparePair (a, i) (b, j)).isLE at hle
  change (comparePair (b, j) (c, k)).isLE at hle'
  change (comparePair (a, i) (c, k)).isLE
  exact Std.TransCmp.isLE_trans hle hle'

theorem compare_swap (key other : SortKey) : key.compare other = (other.compare key).swap := by
  cases key <;> cases other
  case truth.truth a b | number.number a b | instant.instant a b | text.text a b =>
    change Ord.compare a b = (Ord.compare b a).swap
    exact Std.OrientedOrd.eq_swap
  case timestamp.timestamp a i b j =>
    change comparePair (a, i) (b, j) = (comparePair (b, j) (a, i)).swap
    exact Std.OrientedCmp.eq_swap
  all_goals rfl

theorem compare_of_sortClass_ne {key other : SortKey} (hne : key.sortClass ≠ other.sortClass) :
    key.compare other = .eq := by
  unfold compare
  split
  case h_6 => rfl
  all_goals exact absurd rfl hne

theorem compare_eq_lt_iff {key other : SortKey} :
    key.compare other = .lt ↔ key.Precedes other := by
  constructor
  · intro hlt
    unfold compare at hlt
    split at hlt
    case h_1 a b =>
      cases a <;> cases b
      case false.true => exact .truth
      all_goals cases hlt
    case h_2 a b => exact .number (Std.compare_eq_lt.mp hlt)
    case h_3 a b => exact .instant (Std.compare_eq_lt.mp hlt)
    case h_4 a i b j =>
      rcases comparePairs_eq_lt_iff.mp hlt with htime | ⟨rfl, hincrement⟩
      · exact .timestamp htime
      · exact .increment hincrement
    case h_5 a b => exact .text (compareOfLessAndEq_eq_lt.mp hlt)
    case h_6 => cases hlt
  · intro hprecedes
    cases hprecedes with
    | truth => rfl
    | number hlt | instant hlt => exact Std.compare_eq_lt.mpr hlt
    | timestamp hlt => exact comparePairs_eq_lt_iff.mpr (.inl hlt)
    | increment hlt => exact comparePairs_eq_lt_iff.mpr (.inr ⟨rfl, hlt⟩)
    | text hlt => exact compareOfLessAndEq_eq_lt.mpr hlt

theorem Precedes.sortClass_eq {key other : SortKey} (hprecedes : key.Precedes other) :
    key.sortClass = other.sortClass := by
  cases hprecedes <;> rfl

/-- In one class no key comes before one that it does not come after. -/
theorem isLE_compare_trans {first second third : SortKey}
    (hfirst : first.sortClass = second.sortClass) (hsecond : second.sortClass = third.sortClass)
    (hle : (first.compare second).isLE) (hle' : (second.compare third).isLE) :
    (first.compare third).isLE := by
  cases first <;> cases second <;> cases third
  case truth.truth.truth | number.number.number | instant.instant.instant | text.text.text =>
    exact Std.TransOrd.isLE_trans hle hle'
  case timestamp.timestamp.timestamp => exact isLE_comparePairs_trans hle hle'
  all_goals simp [sortClass] at hfirst hsecond

end SortKey

/-! ## Values -/

/-- What a double is sorted by, if it is a number. -/
def Double.sortKey? (d : Double) : Option SortKey :=
  if d.isNaN then none else some (.number d.valueInSteps)

theorem Double.getD_compare? (d e : Double) :
    (d.compare? e).getD .eq =
      match d.sortKey?, e.sortKey? with
      | some key, some other => key.compare other
      | _, _ => .eq := by
  unfold Double.sortKey?
  cases hd : d.isNaN with
  | true => rw [compare?_eq_none (.inl hd)]; rfl
  | false =>
      cases he : e.isNaN with
      | true => rw [compare?_eq_none (.inr he)]; rfl
      | false => rw [compare?_eq_some hd he]; rfl

namespace Value

/-- What a value is sorted by, if it has an order. -/
def sortKey? : Value → Option SortKey
  | bool b => some (.truth b)
  | dateTime time => some (.instant time)
  | timestamp time increment => some (.timestamp time increment)
  | string s => some (.text s)
  | value => value.number?.bind Double.sortKey?

theorem compare?_eq_of_number {value other : Value} {d e : Double}
    (hvalue : value.number? = some d) (hother : other.number? = some e) :
    value.compare? other = d.compare? e := by
  unfold compare?
  split
  case h_9 => rw [hvalue, hother]
  all_goals cases hvalue

theorem sortKey?_of_number {value : Value} {d : Double} (hnumber : value.number? = some d) :
    value.sortKey? = d.sortKey? := by
  cases value with
  | int32 _ | int64 _ | double _ | decimal _ =>
      cases hnumber
      rfl
  | _ => cases hnumber

/-- The class of a key tells which values have it. -/
theorem eq_of_sortKey? {value : Value} {key : SortKey} (hkey : value.sortKey? = some key) :
    match key with
    | .truth b => value = bool b
    | .number _ => ∃ d, value.number? = some d
    | .instant time => value = dateTime time
    | .timestamp time increment => value = timestamp time increment
    | .text s => value = string s := by
  cases hnumber : value.number? with
  | some d =>
      rw [sortKey?_of_number hnumber] at hkey
      unfold Double.sortKey? at hkey
      split at hkey
      · cases hkey
      · obtain rfl := Option.some.inj hkey
        exact ⟨d, rfl⟩
  | none =>
      cases value with
      | bool _ | dateTime _ | timestamp _ _ | string _ =>
          obtain rfl := Option.some.inj hkey
          rfl
      | int32 _ | int64 _ | double _ | decimal _ => cases hnumber
      | _ => cases hkey

/-- Values are compared by their keys, and those that do not compare count as equal. -/
theorem getD_compare? (left right : Value) :
    (left.compare? right).getD .eq =
      match left.sortKey?, right.sortKey? with
      | some key, some other => key.compare other
      | _, _ => .eq := by
  unfold compare?
  split
  case h_9 hnull hright hleft hundefined htruth hinstant htimestamp htext =>
    split
    next d e hd he =>
      rw [sortKey?_of_number hd, sortKey?_of_number he]
      exact d.getD_compare? e
    next hnumbers =>
      cases hkey : left.sortKey? with
      | none => rfl
      | some key =>
          cases hother : right.sortKey? with
          | none => rfl
          | some other =>
              have hvalue := eq_of_sortKey? hkey
              have hvalue' := eq_of_sortKey? hother
              cases key <;> cases other
              case truth.truth => exact absurd hvalue' (htruth _ _ hvalue)
              case number.number =>
                obtain ⟨d, hd⟩ := hvalue
                obtain ⟨e, he⟩ := hvalue'
                exact absurd he (hnumbers d e hd)
              case instant.instant => exact absurd hvalue' (hinstant _ _ hvalue)
              case timestamp.timestamp => exact absurd hvalue' (htimestamp _ _ _ _ hvalue)
              case text.text => exact absurd hvalue' (htext _ _ hvalue)
              all_goals rfl
  all_goals rfl

/-! ## Fields -/

/-- A field is missing or holds null. -/
def Lacking (held : Option Value) : Prop :=
  held = none ∨ held = some .null

/-- A field comes before another one: it is the only one that is missing or null, or the key of its
value precedes the other key. -/
inductive FieldPrecedes : Option Value → Option Value → Prop
  | lacking {held : Option Value} {value : Value} : Lacking held → value ≠ .null →
      FieldPrecedes held (some value)
  | value {value other : Value} {key otherKey : SortKey} : value.sortKey? = some key →
      other.sortKey? = some otherKey → key.Precedes otherKey →
      FieldPrecedes (some value) (some other)

variable {left right : Option Value} {value other : Value}

theorem ne_null_of_sortKey? {key : SortKey} (hkey : value.sortKey? = some key) : value ≠ .null := by
  rintro rfl
  cases hkey

theorem filter_of_lacking (hlacking : Lacking left) :
    left.filter (fun value => !value.isNull) = none := by
  rcases hlacking with rfl | rfl <;> rfl

theorem filter_of_ne_null (hne : value ≠ .null) :
    (some value).filter (fun value => !value.isNull) = some value := by
  cases value with
  | null => exact absurd rfl hne
  | _ => rfl

theorem lacking_or_eq_some (held : Option Value) :
    Lacking held ∨ ∃ value, held = some value ∧ value ≠ .null := by
  cases held with
  | none => exact .inl (.inl rfl)
  | some value =>
      by_cases hnull : value = .null
      · exact .inl (.inr (congrArg some hnull))
      · exact .inr ⟨value, rfl, hnull⟩

theorem compareFields_of_lacking (hleft : Lacking left) (hright : Lacking right) :
    compareFields left right = .eq := by
  unfold compareFields
  rw [filter_of_lacking hleft, filter_of_lacking hright]

theorem compareFields_lacking_some (hleft : Lacking left) (hvalue : value ≠ .null) :
    compareFields left (some value) = .lt := by
  unfold compareFields
  rw [filter_of_lacking hleft, filter_of_ne_null hvalue]

theorem compareFields_some_lacking (hvalue : value ≠ .null) (hright : Lacking right) :
    compareFields (some value) right = .gt := by
  unfold compareFields
  rw [filter_of_ne_null hvalue, filter_of_lacking hright]

theorem compareFields_some_some (hvalue : value ≠ .null) (hother : other ≠ .null) :
    compareFields (some value) (some other) =
      match value.sortKey?, other.sortKey? with
      | some key, some otherKey => key.compare otherKey
      | _, _ => .eq := by
  rw [← getD_compare?]
  unfold compareFields
  rw [filter_of_ne_null hvalue, filter_of_ne_null hother]

theorem compareFields_swap (left right : Option Value) :
    compareFields left right = (compareFields right left).swap := by
  rcases lacking_or_eq_some left with hleft | ⟨value, rfl, hvalue⟩
  · rcases lacking_or_eq_some right with hright | ⟨other, rfl, hother⟩
    · rw [compareFields_of_lacking hleft hright, compareFields_of_lacking hright hleft]
      rfl
    · rw [compareFields_lacking_some hleft hother, compareFields_some_lacking hother hleft]
      rfl
  · rcases lacking_or_eq_some right with hright | ⟨other, rfl, hother⟩
    · rw [compareFields_some_lacking hvalue hright, compareFields_lacking_some hright hvalue]
      rfl
    · rw [compareFields_some_some hvalue hother, compareFields_some_some hother hvalue]
      cases value.sortKey? with
      | none => cases other.sortKey? <;> rfl
      | some key =>
          cases other.sortKey? with
          | none => rfl
          | some otherKey => exact key.compare_swap otherKey

theorem compareFields_eq_lt_iff :
    compareFields left right = .lt ↔ FieldPrecedes left right := by
  constructor
  · intro hlt
    rcases lacking_or_eq_some left with hleft | ⟨value, rfl, hvalue⟩
    · rcases lacking_or_eq_some right with hright | ⟨other, rfl, hother⟩
      · rw [compareFields_of_lacking hleft hright] at hlt
        cases hlt
      · exact .lacking hleft hother
    · rcases lacking_or_eq_some right with hright | ⟨other, rfl, hother⟩
      · rw [compareFields_some_lacking hvalue hright] at hlt
        cases hlt
      · rw [compareFields_some_some hvalue hother] at hlt
        split at hlt
        next key otherKey hkey hotherKey =>
          exact .value hkey hotherKey (SortKey.compare_eq_lt_iff.mp hlt)
        next => cases hlt
  · intro hprecedes
    cases hprecedes with
    | lacking hleft hother => exact compareFields_lacking_some hleft hother
    | value hkey hotherKey hbefore =>
        rw [compareFields_some_some (ne_null_of_sortKey? hkey) (ne_null_of_sortKey? hotherKey),
          hkey, hotherKey]
        exact SortKey.compare_eq_lt_iff.mpr hbefore

theorem isLE_compareFields_iff :
    (compareFields left right).isLE ↔ ¬ FieldPrecedes right left := by
  rw [← compareFields_eq_lt_iff, compareFields_swap left right]
  cases compareFields right left <;> decide

/-! ## Where the order is lawful -/

/-- A value between two others that do not have its class: it counts as equal to both, although the
first of them comes after the last. -/
inductive Bridges : Option Value → Option Value → Option Value → Prop
  | intro {value bridge other : Value} {key otherKey : SortKey} : bridge ≠ .null →
      value.sortKey? = some key → other.sortKey? = some otherKey → otherKey.Precedes key →
      (∀ bridgeKey, bridge.sortKey? = some bridgeKey → bridgeKey.sortClass ≠ key.sortClass) →
      Bridges (some value) (some bridge) (some other)

variable {first middle last : Option Value}

theorem compareFields_eq_of_apart {key : SortKey} (hkey : value.sortKey? = some key)
    (hother : other ≠ .null)
    (hapart : ∀ otherKey, other.sortKey? = some otherKey → otherKey.sortClass ≠ key.sortClass) :
    compareFields (some value) (some other) = .eq := by
  rw [compareFields_some_some (ne_null_of_sortKey? hkey) hother, hkey]
  cases hotherKey : other.sortKey? with
  | none => rfl
  | some otherKey => exact SortKey.compare_of_sortClass_ne (Ne.symm (hapart otherKey hotherKey))

theorem Bridges.not_trans (hbridges : Bridges first middle last) :
    (compareFields first middle).isLE ∧ (compareFields middle last).isLE ∧
      ¬ (compareFields first last).isLE := by
  obtain @⟨value, bridge, other, key, otherKey, hbridge, hkey, hotherKey, hbefore, hapart⟩ :=
    hbridges
  have hmiddle : compareFields (some value) (some bridge) = .eq :=
    compareFields_eq_of_apart hkey hbridge hapart
  have hmiddle' : compareFields (some other) (some bridge) = .eq := by
    refine compareFields_eq_of_apart hotherKey hbridge fun bridgeKey hbridgeKey => ?_
    rw [hbefore.sortClass_eq]
    exact hapart bridgeKey hbridgeKey
  refine ⟨by rw [hmiddle]; rfl, by rw [compareFields_swap, hmiddle']; rfl, ?_⟩
  rw [isLE_compareFields_iff, not_not]
  exact .value hotherKey hkey hbefore

theorem bridges_of_not_trans (hle : (compareFields first middle).isLE)
    (hle' : (compareFields middle last).isLE) (hnot : ¬ (compareFields first last).isLE) :
    Bridges first middle last := by
  rw [isLE_compareFields_iff, not_not] at hnot
  rw [isLE_compareFields_iff] at hle hle'
  cases hnot with
  | lacking hlast hvalue =>
      rcases lacking_or_eq_some middle with hmiddle | ⟨bridge, rfl, hbridge⟩
      · exact absurd (.lacking hmiddle hvalue) hle
      · exact absurd (.lacking hlast hbridge) hle'
  | @value other value otherKey key hotherKey hkey hbefore =>
      have hvalue := ne_null_of_sortKey? hkey
      rcases lacking_or_eq_some middle with hmiddle | ⟨bridge, rfl, hbridge⟩
      · exact absurd (.lacking hmiddle hvalue) hle
      refine .intro hbridge hkey hotherKey hbefore fun bridgeKey hbridgeKey hclass => ?_
      -- With a key of the same class in between the keys are ordered by transitivity.
      have hfirst : (key.compare bridgeKey).isLE := by
        have := isLE_compareFields_iff.mpr hle
        rwa [compareFields_some_some hvalue hbridge, hkey, hbridgeKey] at this
      have hsecond : (bridgeKey.compare otherKey).isLE := by
        have := isLE_compareFields_iff.mpr hle'
        rwa [compareFields_some_some hbridge (ne_null_of_sortKey? hotherKey), hbridgeKey,
          hotherKey] at this
      have hkeys := SortKey.isLE_compare_trans hclass.symm
        (hclass.trans hbefore.sortClass_eq.symm) hfirst hsecond
      rw [SortKey.compare_swap, SortKey.compare_eq_lt_iff.mpr hbefore] at hkeys
      cases hkeys

/-! ## One class -/

/-- A field is missing, or holds null or a value of one class. -/
def InClass (sortClass : SortClass) (held : Option Value) : Prop :=
  ∀ value, held = some value →
    value = .null ∨ ∃ key, value.sortKey? = some key ∧ key.sortClass = sortClass

variable {sortClass : SortClass}

theorem not_bridges_of_inClass (hfirst : InClass sortClass first)
    (hmiddle : InClass sortClass middle) : ¬ Bridges first middle last := by
  rintro ⟨hbridge, hkey, -, -, hapart⟩
  rcases hmiddle _ rfl with hnull | ⟨bridgeKey, hbridgeKey, hbridgeClass⟩
  · exact hbridge hnull
  rcases hfirst _ rfl with hnull | ⟨key', hkey', hclass⟩
  · exact ne_null_of_sortKey? hkey hnull
  obtain rfl := Option.some.inj (hkey.symm.trans hkey')
  exact hapart bridgeKey hbridgeKey (hbridgeClass.trans hclass.symm)

/-- Among values of one class, not to be preceded is passed on. -/
theorem not_fieldPrecedes_trans (hfirst : InClass sortClass first)
    (hmiddle : InClass sortClass middle) (hbefore : ¬ FieldPrecedes middle first)
    (hafter : ¬ FieldPrecedes last middle) : ¬ FieldPrecedes last first := by
  rw [← isLE_compareFields_iff] at hbefore hafter ⊢
  by_contra hnot
  exact not_bridges_of_inClass hfirst hmiddle (bridges_of_not_trans hbefore hafter hnot)

/-! ## Lawful triples -/

/-- Two fields are compared in both directions alike. That one does not come after a second and
the second not after a third implies that the first does not come after the third, except where
the second field counts as equal to the others only because it does not compare with them. -/
theorem compareFields_lawful_iff (first middle last : Option Value) :
    compareFields first middle = (compareFields middle first).swap ∧
      (((compareFields first middle).isLE → (compareFields middle last).isLE →
          (compareFields first last).isLE) ↔
        ¬ Bridges first middle last) := by
  refine ⟨compareFields_swap first middle, fun htrans hbridges => ?_, fun hbridges hle hle' => ?_⟩
  · obtain ⟨hle, hle', hnot⟩ := hbridges.not_trans
    exact hnot (htrans hle hle')
  · by_contra hnot
    exact hbridges (bridges_of_not_trans hle hle' hnot)

/-- Two is not after what is not a number, this is not after one, and yet two is after one; a truth
value and a number fail in the same way. -/
theorem compareFields_unlawful :
    (compareFields (some (int32 2)) (some (double .nan))).isLE ∧
      (compareFields (some (double .nan)) (some (int32 1))).isLE ∧
      compareFields (some (int32 2)) (some (int32 1)) = .gt ∧
      (compareFields (some (bool true)) (some (int32 1))).isLE ∧
      (compareFields (some (int32 1)) (some (bool false))).isLE ∧
      compareFields (some (bool true)) (some (bool false)) = .gt := by
  decide

end Value

end DocStore
