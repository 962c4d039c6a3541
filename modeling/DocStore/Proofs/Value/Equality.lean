import DocStore.Value.Order
import DocStore.Proofs.Value.Sameness

/-!
# Sameness is finer than equality

Values that are the same are equal for the purpose of a condition: numbers of one type through
the doubles they stand for, arrays item by item, and documents entry by entry, whatever the order
of their entries. What is not a number is the exception, and only among decimals. As a double it
is not even the same as itself; as a decimal it is, and yet it equals nothing.
-/

namespace DocStore

namespace Value

/-- A value is a decimal that is not a number, or has one among its parts at any depth. -/
inductive HoldsDecimalNaN : Value → Prop
  | decimal {d : Decimal128} : d.isNaN = true → HoldsDecimalNaN (.decimal d)
  | item {items : List Value} {item : Value} : item ∈ items → HoldsDecimalNaN item →
      HoldsDecimalNaN (.array items)
  | entry {entries : List (String × Value)} {name : String} {value : Value} :
      (name, value) ∈ entries → HoldsDecimalNaN value → HoldsDecimalNaN (.document entries)

@[simp] theorem holdsDecimalNaN_decimal {d : Decimal128} :
    (decimal d).HoldsDecimalNaN ↔ d.isNaN = true :=
  ⟨fun hholds => by cases hholds; assumption, .decimal⟩

@[simp] theorem holdsDecimalNaN_array {items : List Value} :
    (array items).HoldsDecimalNaN ↔ ∃ item ∈ items, item.HoldsDecimalNaN := by
  constructor
  · intro hholds
    cases hholds with
    | item hmem hitem => exact ⟨_, hmem, hitem⟩
  · rintro ⟨item, hmem, hitem⟩
    exact .item hmem hitem

@[simp] theorem holdsDecimalNaN_document {entries : List (String × Value)} :
    (document entries).HoldsDecimalNaN ↔ ∃ entry ∈ entries, entry.2.HoldsDecimalNaN := by
  constructor
  · intro hholds
    cases hholds with
    | entry hmem hvalue => exact ⟨_, hmem, hvalue⟩
  · rintro ⟨entry, hmem, hvalue⟩
    exact .entry hmem hvalue

/-! ## Values without parts -/

/-- Of two values that are the same, none is a number, or both are and stand for equal doubles. -/
theorem number?_of_same {value other : Value} (hfree : ¬ other.HoldsDecimalNaN)
    (hsame : value.same other = true) :
    (value.number? = none ∧ other.number? = none) ∨
      ∃ d e, value.number? = some d ∧ other.number? = some e ∧ d.same e = true := by
  cases value with
  | int32 n =>
      cases other with
      | int32 m =>
          rw [same, beq_iff_eq] at hsame
          subst hsame
          exact .inr ⟨_, _, rfl, rfl, Double.same_self (Double.isNaN_ofInt _)⟩
      | _ => simp [same] at hsame
  | int64 n =>
      cases other with
      | int64 m =>
          rw [same, beq_iff_eq] at hsame
          subst hsame
          exact .inr ⟨_, _, rfl, rfl, Double.same_self (Double.isNaN_ofInt _)⟩
      | _ => simp [same] at hsame
  | double d =>
      cases other with
      | double e =>
          rw [same] at hsame
          exact .inr ⟨_, _, rfl, rfl, hsame⟩
      | _ => simp [same] at hsame
  | decimal d =>
      cases other with
      | decimal e =>
          rw [same, beq_iff_eq] at hsame
          subst hsame
          have hnumber : d.toDouble.isNaN = false := by
            rw [Decimal128.isNaN_toDouble, ← Bool.not_eq_true]
            exact fun hnan => hfree (.decimal hnan)
          exact .inr ⟨_, _, rfl, rfl, Double.same_self hnumber⟩
      | _ => simp [same] at hsame
  | _ =>
      left
      cases other with
      | int32 _ | int64 _ | double _ | decimal _ => simp [same] at hsame
      | _ => exact ⟨rfl, rfl⟩

theorem equalScalars_of_same {value other : Value} (hfree : ¬ other.HoldsDecimalNaN)
    (hsame : value.same other = true) : value.equalScalars other = true := by
  unfold equalScalars
  rcases number?_of_same hfree hsame with ⟨hleft, hright⟩ | ⟨d, e, hleft, hright, hnumbers⟩
  · rw [hleft, hright]
    dsimp only
    split
    · rfl
    · rfl
    · exact hsame
  · rw [hleft, hright]
    exact hnumbers

/-! ## Arrays and documents -/

theorem equates_eq_of_number {value other : Value} {d e : Double} (hvalue : value.number? = some d)
    (hother : other.number? = some e) : value.equates other = d.same e := by
  unfold equates
  split
  · cases hvalue
  · cases hvalue
  · unfold equalScalars
    rw [hvalue, hother]

theorem equateItems_of_same {items others : List Value}
    (hparts : ∀ item ∈ items, ∀ other ∈ others, item.same other = true →
      item.equates other = true)
    (hsame : sameItems items others = true) : equateItems items others = true := by
  induction items generalizing others with
  | nil =>
      cases others with
      | nil => rfl
      | cons other rest => simp [sameItems] at hsame
  | cons item items ih =>
      cases others with
      | nil => simp [sameItems] at hsame
      | cons other rest =>
          simp only [sameItems, Bool.and_eq_true] at hsame
          simp only [equateItems, Bool.and_eq_true]
          refine ⟨hparts item List.mem_cons_self other List.mem_cons_self hsame.1, ?_⟩
          apply ih _ hsame.2
          intro item hitem other hother
          exact hparts item (List.mem_cons_of_mem _ hitem) other (List.mem_cons_of_mem _ hother)

theorem equateEntries_iff {entries others : List (String × Value)} :
    equateEntries entries others = true ↔
      ∀ entry ∈ entries, ∃ other,
        Entries.get? others entry.1 = some other ∧ entry.2.equates other = true := by
  induction entries with
  | nil => simp [equateEntries]
  | cons entry rest ih =>
      obtain ⟨name, value⟩ := entry
      rw [equateEntries, Bool.and_eq_true, ih, List.forall_mem_cons]
      cases Entries.get? others name <;> simp

/-- Values that are the same are equal, unless a decimal in them is not a number. -/
theorem equates_of_same (value : Value) :
    ∀ other : Value, ¬ other.HoldsDecimalNaN → value.same other = true →
      value.equates other = true := by
  induction value using induction_parts with
  | scalar value hscalar =>
      intro other hfree hsame
      unfold equates
      split
      · exact absurd (.array _) hscalar
      · exact absurd (.document _) hscalar
      · exact equalScalars_of_same hfree hsame
  | array items ih =>
      intro other hfree hsame
      cases other with
      | array others =>
          rw [same] at hsame
          rw [equates]
          apply equateItems_of_same _ hsame
          intro item hitem other hother
          exact ih item hitem other fun hholds => hfree (.item hother hholds)
      | _ => simp [same] at hsame
  | document entries ih =>
      intro other hfree hsame
      cases other with
      | document others =>
          simp only [same, Bool.and_eq_true, beq_iff_eq] at hsame
          obtain ⟨hlength, hsame⟩ := hsame
          obtain ⟨_, hpartner⟩ := sameEntries_iff.mp hsame
          simp only [equates, Bool.and_eq_true, beq_iff_eq]
          refine ⟨hlength, equateEntries_iff.mpr ?_⟩
          intro entry hentry
          obtain ⟨other, hget, hpair⟩ := hpartner entry hentry
          refine ⟨other, hget, ih entry hentry other ?_ hpair⟩
          exact fun hholds => hfree (.entry (Entries.mem_of_get?_eq_some hget) hholds)
      | _ => simp [same] at hsame
  | codeWithScope source scope _ =>
      intro other hfree hsame
      exact equalScalars_of_same hfree hsame

end Value

end DocStore
