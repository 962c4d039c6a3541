import DocStore.Proofs.Search.Expansion
import Mathlib.Algebra.BigOperators.Group.List.Basic
import Mathlib.Data.List.Forall2
import Mathlib.Data.List.Induction

/-!
# The order of the texts of an alternative

The choices of options are counted off like the digits of a number: every group has a digit, its
radix is the number of its options, and the first group has the fastest digit. The text at a place
is the one that takes from each group the option of its digit.
-/

namespace DocStore.Search

/-! ## Mixed radices -/

/-- The numeral of a place: its digits, the fastest first. -/
def digits : List Nat → Nat → List Nat
  | [], _ => []
  | radix :: radices, place => place % radix :: digits radices (place / radix)

/-- The place that a numeral stands for. -/
def placeOf : List Nat → List Nat → Nat
  | radix :: radices, digit :: numeral => digit + radix * placeOf radices numeral
  | _, _ => 0

variable {radices : List Nat} {place : Nat}

theorem digits_lt (hplace : place < radices.prod) :
    List.Forall₂ (· < ·) (digits radices place) radices := by
  induction radices generalizing place with
  | nil => exact .nil
  | cons radix radices ih =>
      rw [List.prod_cons] at hplace
      have hradix : 0 < radix := Nat.pos_of_mul_pos_right (Nat.zero_lt_of_lt hplace)
      exact .cons (Nat.mod_lt place hradix) (ih (Nat.div_lt_of_lt_mul hplace))

theorem placeOf_digits (hplace : place < radices.prod) :
    placeOf radices (digits radices place) = place := by
  induction radices generalizing place with
  | nil => exact (Nat.lt_one_iff.mp hplace).symm
  | cons radix radices ih =>
      rw [List.prod_cons] at hplace
      rw [digits, placeOf, ih (Nat.div_lt_of_lt_mul hplace)]
      exact Nat.mod_add_div place radix

/-! ## Choices -/

/-- The numbers of options of the groups. -/
def optionCounts : List Segment → List Nat
  | [] => []
  | .text _ :: rest => optionCounts rest
  | .options choices :: rest => choices.length :: optionCounts rest

/-- The text that takes from each group the option of its digit, if a numeral has a digit for each
group and the group an option for it. -/
def select? : List Segment → List Nat → Option (List Char)
  | [], [] => some []
  | .text content :: rest, numeral => (select? rest numeral).map (content ++ ·)
  | .options choices :: rest, digit :: numeral =>
      choices[digit]?.bind fun choice => (select? rest numeral).map (choice ++ ·)
  | _, _ => none

variable {partials choices : List (List Char)} {segments : List Segment} {segment : Segment}

theorem length_extend :
    (extend partials segment).length = partials.length * segment.choices.length := by
  simp [extend, Nat.mul_comm]

/-- The texts before a segment change fastest. -/
theorem getElem?_extend (partials choices : List (List Char)) (place : Nat) :
    (extend partials (.options choices))[place]? =
      partials[place % partials.length]?.bind fun sofar =>
        choices[place / partials.length]?.map (sofar ++ ·) := by
  by_cases hnil : partials = []
  · simp [hnil, extend]
  have hpos : 0 < partials.length := List.length_pos_of_ne_nil hnil
  -- The first choice fills as many places as there are texts before it.
  induction choices generalizing place with
  | nil => simp [extend, Segment.choices]
  | cons choice rest ih =>
      have hsplit : extend partials (.options (choice :: rest)) =
          partials.map (· ++ choice) ++ extend partials (.options rest) := rfl
      rw [hsplit]
      rcases Nat.lt_or_ge place partials.length with hplace | hplace
      · rw [List.getElem?_append_left (by simpa using hplace), List.getElem?_map,
          Nat.mod_eq_of_lt hplace, Nat.div_eq_of_lt hplace, List.getElem?_cons_zero,
          Option.map_eq_bind]
        rfl
      · rw [List.getElem?_append_right (by simpa using hplace), List.length_map, ih,
          Nat.mod_eq_sub_mod hplace, Nat.div_eq_sub_div hpos hplace, List.getElem?_cons_succ]

/-- The texts of a segment and of those after it do not depend on each other. -/
theorem product_cons (segment : Segment) (segments : List Segment) :
    product (segment :: segments) = extend segment.choices (.options (product segments)) := by
  -- Texts grow at their ends, so the induction is on the last segment.
  induction segments using List.reverseRecOn with
  | nil => simp [product, extend, Segment.choices]
  | append_singleton segments last ih =>
      rw [← List.cons_append, product_append_singleton, product_append_singleton, ih, extend_extend]

theorem length_product (segments : List Segment) :
    (product segments).length = (optionCounts segments).prod := by
  induction segments with
  | nil => rfl
  | cons segment rest ih =>
      rw [product_cons, length_extend]
      cases segment <;> simp [Segment.choices, optionCounts, ih]

theorem getElem?_product (hplace : place < (optionCounts segments).prod) :
    (product segments)[place]? = select? segments (digits (optionCounts segments) place) := by
  induction segments generalizing place with
  | nil =>
      obtain rfl : place = 0 := Nat.lt_one_iff.mp hplace
      rfl
  | cons segment rest ih =>
      rw [product_cons, getElem?_extend]
      cases segment with
      | text content =>
          have hrest := ih (by simpa [optionCounts] using hplace)
          simp [Segment.choices, optionCounts, select?, hrest, Nat.mod_one]
      | options choices =>
          rw [optionCounts, List.prod_cons] at hplace
          have hrest := ih (Nat.div_lt_of_lt_mul hplace)
          simp [Segment.choices, optionCounts, digits, select?, hrest]

theorem choosable_iff :
    Choosable segments ↔ ∀ choices, .options choices ∈ segments → choices ≠ [] := by
  constructor
  · intro hsegments choices hmem
    exact hsegments (.options choices) hmem
  · intro hoptions segment hmem
    cases segment with
    | text content => simp [Segment.choices]
    | options choices => exact hoptions choices hmem

/-- There are as many texts as choices of an option from every group. The text at a place takes
from each group the option of its digit in the numeral of the place, the first group with the
fastest. -/
theorem expand_in_mixed_radix (segments : List Segment) (hne : segments ≠ [])
    (hoptions : ∀ choices, .options choices ∈ segments → choices ≠ []) :
    (expand segments).length = (optionCounts segments).prod ∧
      ∀ place < (optionCounts segments).prod,
        List.Forall₂ (· < ·) (digits (optionCounts segments) place) (optionCounts segments) ∧
          placeOf (optionCounts segments) (digits (optionCounts segments) place) = place ∧
          (expand segments)[place]? = select? segments (digits (optionCounts segments) place) := by
  rw [expand_eq_product hne (choosable_iff.mpr hoptions)]
  refine ⟨length_product segments, ?_⟩
  intro place hplace
  exact ⟨digits_lt hplace, placeOf_digits hplace, getElem?_product hplace⟩

/-- A first group with an empty option, a text, and a group that may be left out. -/
def replays : List Segment :=
  [.options [[], ['r', 'e']], .text ['p', 'l', 'a', 'y'], .options [['e', 'd'], ['s'], []]]

theorem expand_in_mixed_radix_replays :
    replays ≠ [] ∧ (∀ choices, .options choices ∈ replays → choices ≠ []) ∧
      (expand replays).length = 6 ∧
      (expand replays)[3]? = select? replays [1, 1] ∧
      select? replays [1, 1] = some ['r', 'e', 'p', 'l', 'a', 'y', 's'] := by
  have hne : replays ≠ [] := by simp [replays]
  have hoptions : ∀ choices, .options choices ∈ replays → choices ≠ [] := by simp [replays]
  obtain ⟨hlength, htexts⟩ := expand_in_mixed_radix replays hne hoptions
  exact ⟨hne, hoptions, hlength, (htexts 3 (by decide)).2.2, rfl⟩

end DocStore.Search
