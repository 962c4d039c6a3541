import DocStore.Proofs.Store.Sorting

/-!
# The window of a native query

A native query takes its window from the same numbers as a selection, but reads its limit as a
number with a sign: zero stands for no limit, and a negative limit for its size. So the server
returns what the store would, except for a limit of zero and for limits that come out negative with
a size smaller than what there is to return.
-/

namespace DocStore

/-- What a server returns of the documents that match a query, in the order of the query. -/
def NativeOptions.window (options : NativeOptions) (found : Table) : Table :=
  let rest := found.drop (options.skip.getD 0).toNat
  match options.limit with
  | none => rest
  | some limit => if limit = 0 then rest else rest.take limit.toInt.natAbs

/-- The limit of a selection stands for another one in the native query, and this shows on a number
of documents. -/
inductive Selection.Misread (options : Selection) (found : Nat) : Prop
  /-- Nothing is asked for, and there is something to return. -/
  | zero : options.limit = some 0 → options.skipped < found → Misread options found
  /-- The limit comes out negative, and there is more to return than its size. -/
  | negative {limit : UInt64} : options.limit = some limit → twoTo 63 ≤ limit.toNat →
      twoTo 64 - limit.toNat < found - options.skipped → Misread options found

/-- A limit with a sign keeps its size up to `2 ^ 63`; from there on the size goes down. -/
theorem natAbs_toInt_toInt64 (limit : UInt64) :
    limit.toInt64.toInt.natAbs =
      if limit.toNat < twoTo 63 then limit.toNat else twoTo 64 - limit.toNat := by
  have hsigned : limit.toInt64.toInt = limit.toBitVec.toInt := rfl
  have hsize : limit.toBitVec.toNat = limit.toNat := rfl
  have hlt := limit.toNat_lt
  have hhalf : twoTo 63 = 9223372036854775808 := rfl
  have hwhole : twoTo 64 = 18446744073709551616 := rfl
  rw [hsigned, BitVec.toInt_eq_toNat_cond, hsize, hhalf, hwhole]
  split <;> split <;> omega

theorem toInt64_eq_zero_iff {limit : UInt64} : limit.toInt64 = 0 ↔ limit = 0 := by
  rw [← UInt64.toBitVec_inj, ← Int64.toBitVec_inj]
  exact Iff.rfl

namespace Selection

variable {options : Selection} {limit : UInt64}

/-- A limit of zero is none to the server. -/
theorem window_native_unlimited (hlimit : options.limit = none ∨ options.limit = some 0)
    (found : Table) : options.native.window found = found.drop options.skipped := by
  unfold NativeOptions.window native
  rcases hlimit with hnone | hzero
  · rw [hnone]
    rfl
  · rw [hzero]
    rfl

theorem window_native_some (hlimit : options.limit = some limit) (hne : limit ≠ 0)
    (found : Table) :
    options.native.window found = (found.drop options.skipped).take
      (if limit.toNat < twoTo 63 then limit.toNat else twoTo 64 - limit.toNat) := by
  unfold NativeOptions.window native
  rw [hlimit, ← natAbs_toInt_toInt64]
  exact if_neg (mt toInt64_eq_zero_iff.mp hne)

theorem misread_iff {found : Nat} (hlimit : options.limit = some limit) :
    options.Misread found ↔ limit.toNat = 0 ∧ options.skipped < found ∨
      twoTo 63 ≤ limit.toNat ∧ twoTo 64 - limit.toNat < found - options.skipped := by
  constructor
  · rintro (⟨hzero, hmore⟩ | ⟨hsome, hlarge, hmore⟩)
    · obtain rfl := Option.some.inj (hlimit.symm.trans hzero)
      exact .inl ⟨rfl, hmore⟩
    · obtain rfl := Option.some.inj (hlimit.symm.trans hsome)
      exact .inr ⟨hlarge, hmore⟩
  · rintro (⟨hzero, hmore⟩ | ⟨hlarge, hmore⟩)
    · obtain rfl : limit = 0 := UInt64.toNat_inj.mp hzero
      exact .zero hlimit hmore
    · exact .negative hlimit hlarge hmore

/-- On fewer than `2 ^ 63` documents the window of the native query is that of the store exactly if
the limit is not misread. -/
theorem native_window_eq_iff (options : Selection) (found listing : Table)
    (hlisting : Store.listing options.order found = .ok listing)
    (hlength : found.length < twoTo 63) :
    Store.arrange options found = .ok (options.native.window listing) ↔
      ¬ options.Misread found.length := by
  have hrest : (listing.drop options.skipped).length = found.length - options.skipped := by
    rw [List.length_drop, (Store.perm_of_listing hlisting).length_eq]
  rw [Store.arrange_of_listing hlisting, Except.ok.injEq, eq_comm, window_eq]
  cases hlimit : options.limit with
  | none =>
      refine iff_of_true (window_native_unlimited (.inl hlimit) _) ?_
      rintro (⟨hzero, -⟩ | ⟨hsome, -, -⟩)
      · rw [hlimit] at hzero
        cases hzero
      · rw [hlimit] at hsome
        cases hsome
  | some limit =>
      dsimp only
      rw [misread_iff hlimit]
      by_cases hzero : limit = 0
      · have hnone : limit.toNat = 0 := by
          rw [hzero]
          rfl
        rw [window_native_unlimited (.inr (hzero ▸ hlimit)), hnone, List.take_zero,
          ← List.length_eq_zero_iff, hrest]
        omega
      · have hpositive : limit.toNat ≠ 0 := fun heq => hzero (UInt64.toNat_inj.mp heq)
        rw [window_native_some hlimit hzero, List.take_eq_take_iff, hrest]
        split <;> omega

/-! ## Pages of notes -/

/-- A note with a text. -/
def note (text : String) : Document :=
  OrderedMap.ofList [("text", .string text)]

/-- Three notes. -/
def notes : Table :=
  [note "a", note "b", note "c"]

/-- The second page of two notes is the same on the server. -/
theorem native_window_eq_second_page :
    Store.arrange ⟨none, some 2, some 2⟩ notes =
      .ok ((Selection.mk none (some 2) (some 2)).native.window notes) :=
  (native_window_eq_iff ⟨none, some 2, some 2⟩ notes notes rfl (by decide)).mpr (by
    rintro (⟨hzero, -⟩ | ⟨hsome, hlarge, -⟩)
    · revert hzero
      decide
    · obtain rfl := Option.some.inj hsome
      revert hlarge
      decide)

/-- A page of no notes comes with all of them from the server, and a page of the greatest size with
one of them. -/
theorem native_window_ne :
    (Selection.mk none (some 0) (some 0)).native.window notes = notes ∧
      Store.arrange ⟨none, some 0, some 0⟩ notes = .ok [] ∧
      (Selection.mk none (some 18446744073709551615) (some 0)).native.window notes = [note "a"] ∧
      Store.arrange ⟨none, some 18446744073709551615, some 0⟩ notes = .ok notes :=
  ⟨rfl, rfl, rfl, rfl⟩

end Selection

end DocStore
