import DocStore.Value.Equality
import DocStore.Proofs.Number.Double
import DocStore.Proofs.OrderedMap
import Mathlib.Data.List.Perm.Subperm

/-!
# Sameness is symmetric

Sameness of documents looks the entries of one document up in the other, so that it is
not symmetric on the face of it. It is all the same: as many entries on both sides, with
a partner for each on one side, leave no entry of the other side without one.
-/

namespace DocStore

namespace Value

/-- A value is made of other values: an array, a document, or code with its variables. -/
inductive Composite : Value → Prop
  | array (items : List Value) : Composite (.array items)
  | document (entries : List (String × Value)) : Composite (.document entries)
  | codeWithScope (source : String) (scope : List (String × Value)) :
      Composite (.codeWithScope source scope)

/-- Induction over values by their parts: the items of arrays, the entries of documents and the
variables of code. -/
@[elab_as_elim]
theorem induction_parts {motive : Value → Prop}
    (scalar : ∀ value, ¬ value.Composite → motive value)
    (array : ∀ items, (∀ item ∈ items, motive item) → motive (.array items))
    (document : ∀ entries, (∀ entry ∈ entries, motive entry.2) → motive (.document entries))
    (codeWithScope : ∀ source scope, (∀ entry ∈ scope, motive entry.2) →
      motive (.codeWithScope source scope)) :
    ∀ value, motive value
  | .array items => array items fun item hitem =>
      have _hsmaller := List.sizeOf_lt_of_mem hitem
      induction_parts scalar array document codeWithScope item
  | .document entries => document entries fun (name, part) hentry =>
      have _hsmaller := List.sizeOf_lt_of_mem hentry
      induction_parts scalar array document codeWithScope part
  | .codeWithScope source scope => codeWithScope source scope fun (name, part) hentry =>
      have _hsmaller := List.sizeOf_lt_of_mem hentry
      induction_parts scalar array document codeWithScope part
  | .null | .undefined | .bool _ | .int32 _ | .int64 _ | .double _ | .decimal _ | .string _
  | .dateTime _ | .timestamp _ _ | .objectId _ | .binary _ _ | .regex _ _ | .code _ | .symbol _
  | .dbPointer _ _ | .minKey | .maxKey => scalar _ nofun
termination_by value => sizeOf value
decreasing_by
  · simp only [Value.array.sizeOf_spec]
    omega
  · simp only [Value.document.sizeOf_spec]
    simp only [Prod.mk.sizeOf_spec] at _hsmaller
    omega
  · simp only [Value.codeWithScope.sizeOf_spec]
    simp only [Prod.mk.sizeOf_spec] at _hsmaller
    omega

/-! ## Arrays -/

theorem sameItems_symm {items others : List Value}
    (hparts : ∀ item ∈ items, ∀ other, item.same other = true → other.same item = true)
    (hsame : sameItems items others = true) : sameItems others items = true := by
  induction items generalizing others with
  | nil =>
      cases others with
      | nil => rfl
      | cons other rest => simp [sameItems] at hsame
  | cons item items ih =>
      cases others with
      | nil => simp [sameItems] at hsame
      | cons other rest =>
          simp only [sameItems, Bool.and_eq_true] at hsame ⊢
          refine ⟨hparts item List.mem_cons_self other hsame.1, ?_⟩
          exact ih (fun item hitem => hparts item (List.mem_cons_of_mem _ hitem)) hsame.2

/-! ## Documents -/

theorem sameEntries_cons (name : String) (value : Value) (rest others : List (String × Value)) :
    sameEntries ((name, value) :: rest) others = true ↔
      (∃ other, Entries.get? others name = some other ∧ value.same other = true) ∧
        sameEntries rest (Entries.without name others) = true := by
  rw [sameEntries, Bool.and_eq_true]
  cases Entries.get? others name <;> simp

/-- The entries are met one by one in the others exactly when no name comes twice and each
entry is the same as the one of its name. -/
theorem sameEntries_iff {entries others : List (String × Value)} :
    sameEntries entries others = true ↔
      (Entries.names entries).Nodup ∧
        ∀ entry ∈ entries, ∃ other,
          Entries.get? others entry.1 = some other ∧ entry.2.same other = true := by
  induction entries generalizing others with
  | nil => simp [sameEntries, Entries.names]
  | cons entry rest ih =>
      obtain ⟨name, value⟩ := entry
      rw [sameEntries_cons, ih]
      constructor
      · rintro ⟨hfirst, hnodup, hrest⟩
        -- The others are searched without this name from here on, and still all are met.
        have hfresh : ∀ entry ∈ rest, entry.1 ≠ name := by
          intro entry hentry heq
          obtain ⟨other, hget, _⟩ := hrest entry hentry
          rw [Entries.get?_without, if_pos heq] at hget
          cases hget
        refine ⟨List.nodup_cons.mpr ⟨?_, hnodup⟩, ?_⟩
        · intro hmem
          obtain ⟨entry, hentry, heq⟩ := List.mem_map.mp hmem
          exact hfresh entry hentry heq
        · intro entry hentry
          rcases List.mem_cons.mp hentry with rfl | hentry
          · exact hfirst
          · obtain ⟨other, hget, hsame⟩ := hrest entry hentry
            rw [Entries.get?_without, if_neg (hfresh entry hentry)] at hget
            exact ⟨other, hget, hsame⟩
      · rintro ⟨hnodup, hall⟩
        obtain ⟨hfresh, hnodup⟩ := List.nodup_cons.mp hnodup
        refine ⟨hall _ List.mem_cons_self, hnodup, ?_⟩
        intro entry hentry
        obtain ⟨other, hget, hsame⟩ := hall entry (List.mem_cons_of_mem _ hentry)
        have hne : entry.1 ≠ name := by
          intro heq
          exact hfresh (List.mem_map.mpr ⟨entry, hentry, heq⟩)
        exact ⟨other, by rw [Entries.get?_without, if_neg hne, hget], hsame⟩

/-- A partner for every entry of one document, as many entries on both sides: every entry
of the other document is a partner. -/
theorem sameEntries_symm {entries others : List (String × Value)}
    (hparts : ∀ entry ∈ entries, ∀ other, entry.2.same other = true → other.same entry.2 = true)
    (hlength : entries.length = others.length) (hsame : sameEntries entries others = true) :
    sameEntries others entries = true := by
  obtain ⟨hnodup, hpartner⟩ := sameEntries_iff.mp hsame
  have hsubset : Entries.names entries ⊆ Entries.names others := by
    intro name hname
    obtain ⟨entry, hentry, rfl⟩ := List.mem_map.mp hname
    obtain ⟨other, hget, _⟩ := hpartner entry hentry
    exact List.mem_map.mpr ⟨_, Entries.mem_of_get?_eq_some hget, rfl⟩
  -- The names are distinct, and the others have no more of them.
  have hperm : (Entries.names entries).Perm (Entries.names others) := by
    apply (List.subperm_of_subset hnodup hsubset).perm_of_length_le
    simp only [Entries.names, List.length_map]
    omega
  have hnodup' : (Entries.names others).Nodup := hperm.nodup_iff.mp hnodup
  refine sameEntries_iff.mpr ⟨hnodup', ?_⟩
  intro other hother
  have hname : other.1 ∈ Entries.names entries :=
    hperm.mem_iff.mpr (List.mem_map.mpr ⟨other, hother, rfl⟩)
  obtain ⟨entry, hentry, heq⟩ := List.mem_map.mp hname
  obtain ⟨partner, hget, hpair⟩ := hpartner entry hentry
  have hvalue : partner = other.2 := by
    rw [heq, (Entries.get?_eq_some_iff hnodup').mpr hother, Option.some.injEq] at hget
    exact hget.symm
  refine ⟨entry.2, ?_, hvalue ▸ hparts entry hentry partner hpair⟩
  exact heq ▸ (Entries.get?_eq_some_iff hnodup).mpr hentry

/-! ## Values -/

/-- Values without parts are the same only within one type, and there by an equation. -/
theorem same_symm_of_scalar {value other : Value} (hscalar : ¬ value.Composite)
    (hsame : value.same other = true) : other.same value = true := by
  unfold same at hsame
  split at hsame
  all_goals first
    | exact absurd (Composite.array _) hscalar
    | exact absurd (Composite.document _) hscalar
    | exact absurd (Composite.codeWithScope _ _) hscalar
    | exact Bool.noConfusion hsame
    | skip
  all_goals simp only [same, Bool.and_eq_true, beq_iff_eq] at hsame ⊢
  all_goals first
    | exact hsame.symm
    | exact ⟨hsame.1.symm, hsame.2.symm⟩
    | exact Double.same_symm hsame

/-- Sameness is symmetric. -/
theorem same_symm (value : Value) : ∀ other, value.same other = true → other.same value = true := by
  induction value using induction_parts with
  | scalar value hscalar =>
      intro other hsame
      exact same_symm_of_scalar hscalar hsame
  | array items ih =>
      intro other hsame
      cases other with
      | array others =>
          rw [same] at hsame ⊢
          exact sameItems_symm ih hsame
      | _ => simp [same] at hsame
  | document entries ih =>
      intro other hsame
      cases other with
      | document others =>
          simp only [same, Bool.and_eq_true, beq_iff_eq] at hsame ⊢
          exact ⟨hsame.1.symm, sameEntries_symm ih hsame.1 hsame.2⟩
      | _ => simp [same] at hsame
  | codeWithScope source scope ih =>
      intro other hsame
      cases other with
      | codeWithScope otherSource others =>
          simp only [same, Bool.and_eq_true, beq_iff_eq] at hsame ⊢
          obtain ⟨hsource, hlength, hsame⟩ := hsame
          exact ⟨hsource.symm, hlength.symm, sameEntries_symm ih hlength hsame⟩
      | _ => simp [same] at hsame

end Value

end DocStore
