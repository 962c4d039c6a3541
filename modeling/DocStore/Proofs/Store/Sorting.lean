import DocStore.Proofs.Store.Selected
import DocStore.Proofs.Value.Order

/-!
# What a selection returns

A selection returns a window of the documents that have not expired and that its filter accepts. If
it asks for an order, these are sorted first. The comparison is not an order on all values, but it
is on missing fields, nulls and the values of one class. On such documents the sorting is the one
that is expected: nothing is lost, no document goes before the one ahead of it, and documents of
equal rank keep the order of the table, in both directions. There is but one listing of this kind,
whatever the way in which the documents are sorted.
-/

namespace DocStore

/-! ## Sorted documents -/

namespace SortOrder

variable (order : SortOrder)

/-- A document goes before another one. -/
def Before (d e : Document) : Prop :=
  match order.direction with
  | .ascending =>
      Value.FieldPrecedes (Document.lookup? d order.field) (Document.lookup? e order.field)
  | .descending =>
      Value.FieldPrecedes (Document.lookup? e order.field) (Document.lookup? d order.field)

/-- Neither of two documents goes before the other one. -/
def Tied (d e : Document) : Prop :=
  ¬ order.Before d e ∧ ¬ order.Before e d

/-- The documents of a table have values of one class where they are to be sorted, if they have
any but null. -/
def Sortable (table : Table) : Prop :=
  ∃ sortClass, ∀ d ∈ table, Value.InClass sortClass (Document.lookup? d order.field)

/-- A listing of a table in an order. -/
structure Sorts (table listing : Table) : Prop where
  /-- The listing has the documents of the table. -/
  perm : listing.Perm table
  /-- No document goes before one that stands ahead of it. -/
  sorted : listing.Pairwise fun d e => ¬ order.Before e d
  /-- Tied documents stand in the order of the table. -/
  stable : ∀ ties : Table, ties.Sublist table → ties.Pairwise order.Tied → ties.Sublist listing

variable {order} {table : Table} {d e f : Document}

theorem inOrder_iff : Store.inOrder order d e ↔ ¬ order.Before e d := by
  unfold Store.inOrder Before
  cases order.direction with
  | ascending => exact Value.isLE_compareFields_iff
  | descending =>
      dsimp only [Direction.orient]
      rw [← Value.compareFields_swap]
      exact Value.isLE_compareFields_iff

theorem inOrder_total (order : SortOrder) (d e : Document) :
    Store.inOrder order d e || Store.inOrder order e d := by
  unfold Store.inOrder
  rw [Value.compareFields_swap (Document.lookup? e order.field)]
  cases order.direction <;>
    cases Value.compareFields (Document.lookup? d order.field) (Document.lookup? e order.field) <;>
    rfl

theorem Sortable.inOrder_trans (hsortable : order.Sortable table) (hd : d ∈ table) (he : e ∈ table)
    (hf : f ∈ table) (hle : Store.inOrder order d e) (hle' : Store.inOrder order e f) :
    Store.inOrder order d f := by
  obtain ⟨sortClass, hclass⟩ := hsortable
  rw [inOrder_iff] at hle hle' ⊢
  unfold Before at hle hle' ⊢
  cases hdirection : order.direction with
  | ascending =>
      rw [hdirection] at hle hle'
      exact Value.not_fieldPrecedes_trans (hclass d hd) (hclass e he) hle hle'
  | descending =>
      rw [hdirection] at hle hle'
      exact Value.not_fieldPrecedes_trans (hclass f hf) (hclass e he) hle' hle

theorem Sortable.orderly (hsortable : order.Sortable table) : Store.Orderly order table :=
  fun _ hd _ he hle _ hf hle' => hsortable.inOrder_trans hd he hf hle hle'

end SortOrder

/-! ## Sorting by insertion -/

namespace Store

open SortOrder (inOrder_iff inOrder_total)

section Place

variable {order : SortOrder} {d e : Document} {sorted ties : Table}

theorem place_cons : place order (e :: sorted) d =
    if inOrder order e d then d :: e :: sorted else e :: place order sorted d := by
  unfold place
  rw [List.takeWhile_cons, List.dropWhile_cons]
  cases inOrder order e d <;> rfl

theorem perm_place : (place order sorted d).Perm (d :: sorted) := by
  unfold place
  refine List.perm_middle.trans (List.Perm.cons d ?_)
  rw [List.takeWhile_append_dropWhile]

theorem sublist_place : sorted.Sublist (place order sorted d) := by
  induction sorted with
  | nil => exact List.nil_sublist _
  | cons e sorted ih =>
      rw [place_cons]
      split
      · exact List.sublist_cons_self d _
      · exact List.Sublist.cons_cons e ih

/-- A document goes behind the documents that are in order with it. -/
theorem cons_sublist_place (hsub : ties.Sublist sorted)
    (hties : ∀ e ∈ ties, inOrder order e d) : (d :: ties).Sublist (place order sorted d) := by
  induction sorted with
  | nil =>
      rw [List.sublist_nil.mp hsub]
      exact List.Sublist.refl [d]
  | cons e sorted ih =>
      rw [place_cons]
      split
      next => exact List.Sublist.cons_cons d hsub
      next hrefused =>
        cases hsub with
        | cons _ hrest => exact List.Sublist.cons e (ih hrest)
        | cons_cons _ _ => exact absurd (hties e List.mem_cons_self) hrefused

/-- A sorted table is still sorted with one more document in its place. -/
theorem pairwise_place (hsorted : sorted.Pairwise fun e f => inOrder order f e)
    (htrans : ∀ f ∈ sorted, ∀ e ∈ sorted, inOrder order f e → inOrder order e d →
      inOrder order f d) :
    (place order sorted d).Pairwise fun e f => inOrder order f e := by
  induction sorted with
  | nil => exact List.pairwise_singleton _ d
  | cons e sorted ih =>
      obtain ⟨hahead, hrest⟩ := List.pairwise_cons.mp hsorted
      rw [place_cons]
      split
      next hle =>
        refine List.pairwise_cons.mpr ⟨fun f hf => ?_, hsorted⟩
        rcases List.mem_cons.mp hf with rfl | hf
        · exact hle
        · exact htrans f (List.mem_cons_of_mem e hf) e List.mem_cons_self (hahead f hf) hle
      next hrefused =>
        refine List.pairwise_cons.mpr ⟨fun f hf => ?_, ih hrest fun f hf g hg =>
          htrans f (List.mem_cons_of_mem e hf) g (List.mem_cons_of_mem e hg)⟩
        rcases List.mem_cons.mp (perm_place.mem_iff.mp hf) with rfl | hf
        · exact (Bool.or_eq_true _ _ ▸ inOrder_total order e f).resolve_left hrefused
        · exact hahead f hf

end Place

variable {order : SortOrder} {table listing : Table}

/-- The documents of a table are put in their places one after the other. -/
theorem reverse_insertionSort_concat (order : SortOrder) (table : Table) (d : Document) :
    (insertionSort order (table ++ [d])).reverse =
      place order (insertionSort order table).reverse d := by
  unfold insertionSort
  rw [List.foldl_append, List.reverse_reverse, List.reverse_reverse]
  rfl

theorem perm_insertionSort : (insertionSort order table).Perm table := by
  induction table using List.reverseRecOn with
  | nil => exact List.Perm.refl []
  | append_singleton table d ih =>
      refine (List.reverse_perm _).symm.trans ?_
      rw [reverse_insertionSort_concat]
      refine perm_place.trans (((List.reverse_perm _).trans ih).cons d |>.trans ?_)
      exact (List.perm_append_singleton d table).symm

/-- Documents that stand in order in a table are kept so, whatever the comparison says of others. -/
theorem sublist_insertionSort {ties : Table} (hsub : ties.Sublist table)
    (hties : ties.Pairwise fun d e => inOrder order d e) :
    ties.Sublist (insertionSort order table) := by
  rw [← List.reverse_sublist]
  induction table using List.reverseRecOn generalizing ties with
  | nil =>
      rw [List.sublist_nil.mp hsub]
      exact List.nil_sublist _
  | append_singleton table d ih =>
      rw [reverse_insertionSort_concat]
      obtain ⟨front, back, rfl, hfront, hback⟩ := List.sublist_append_iff.mp hsub
      obtain ⟨hfirst, -, hlast⟩ := List.pairwise_append.mp hties
      have hkept := ih hfront hfirst
      rcases List.sublist_singleton.mp hback with rfl | rfl
      · rw [List.append_nil]
        exact hkept.trans sublist_place
      · rw [List.reverse_append]
        refine cons_sublist_place hkept fun e he => ?_
        exact hlast e (List.mem_reverse.mp he) d List.mem_cons_self

theorem pairwise_insertionSort (horderly : Orderly order table) :
    (insertionSort order table).Pairwise fun d e => inOrder order d e := by
  rw [← List.pairwise_reverse]
  induction table using List.reverseRecOn with
  | nil => exact List.Pairwise.nil
  | append_singleton table d ih =>
      have hold : ∀ {e}, e ∈ table → e ∈ table ++ [d] := fun he => List.mem_append_left _ he
      have hmem : ∀ {e}, e ∈ (insertionSort order table).reverse → e ∈ table :=
        fun he => perm_insertionSort.mem_iff.mp (List.mem_reverse.mp he)
      have hnew : d ∈ table ++ [d] := List.mem_append_right _ List.mem_cons_self
      rw [reverse_insertionSort_concat]
      refine pairwise_place (ih fun e he f hf hle g hg => ?_) fun f hf e he hle hle' => ?_
      · exact horderly e (hold he) f (hold hf) hle g (hold hg)
      · exact horderly f (hold (hmem hf)) e (hold (hmem he)) hle d hnew hle'

theorem sorts_insertionSort (horderly : Orderly order table) :
    order.Sorts table (insertionSort order table) where
  perm := perm_insertionSort
  sorted := (pairwise_insertionSort horderly).imp inOrder_iff.mp
  stable _ hsub hties := sublist_insertionSort hsub
    (hties.imp fun htied => inOrder_iff.mpr htied.2)

/-! ## The only listing -/

/-- Each of two documents is in order with the other one. -/
def tied (order : SortOrder) (d e : Document) : Bool :=
  inOrder order d e && inOrder order e d

theorem tied_iff {d e : Document} : tied order d e ↔ order.Tied d e := by
  unfold tied SortOrder.Tied
  rw [Bool.and_eq_true, inOrder_iff, inOrder_iff]
  exact And.comm

theorem inOrder_refl (order : SortOrder) (d : Document) : inOrder order d d := by
  simpa using inOrder_total order d d

/-- Two sorted listings of the same documents are the same if tied documents stand alike. -/
theorem eq_of_filter_tied_eq {left right : Table} (hperm : left.Perm right)
    (hleft : left.Pairwise fun d e => inOrder order d e)
    (hright : right.Pairwise fun d e => inOrder order d e)
    (hties : ∀ d ∈ left, left.filter (tied order d) = right.filter (tied order d)) :
    left = right := by
  induction left generalizing right with
  | nil => exact hperm.nil_eq
  | cons d left ih =>
      obtain _ | ⟨e, right⟩ := right
      · exact absurd hperm.symm (List.not_perm_nil_cons d left)
      obtain ⟨hfirst, hrest⟩ := List.pairwise_cons.mp hleft
      obtain ⟨hsecond, hothers⟩ := List.pairwise_cons.mp hright
      -- Neither of the two first documents goes before the other one.
      have hde : inOrder order d e := by
        rcases List.mem_cons.mp (hperm.mem_iff.mpr List.mem_cons_self) with rfl | he
        · exact inOrder_refl order e
        · exact hfirst e he
      have hed : inOrder order e d := by
        rcases List.mem_cons.mp (hperm.mem_iff.mp List.mem_cons_self) with rfl | hd
        · exact inOrder_refl order d
        · exact hsecond d hd
      have hself : tied order d d := tied_iff.mpr ⟨inOrder_iff.mp (inOrder_refl order d),
        inOrder_iff.mp (inOrder_refl order d)⟩
      have htied : tied order d e := tied_iff.mpr ⟨inOrder_iff.mp hed, inOrder_iff.mp hde⟩
      have hheads := hties d List.mem_cons_self
      rw [List.filter_cons_of_pos hself, List.filter_cons_of_pos htied] at hheads
      obtain rfl : d = e := (List.cons.inj hheads).1
      refine congrArg (d :: ·) (ih hperm.cons_inv hrest hothers fun f hf => ?_)
      have htails := hties f (List.mem_cons_of_mem d hf)
      rw [List.filter_cons, List.filter_cons] at htails
      split at htails
      next => exact (List.cons.inj htails).2
      next => exact htails

theorem filter_tied_eq {d : Document} (horderly : Orderly order table)
    (hsorts : order.Sorts table listing) (hd : d ∈ table) :
    table.filter (tied order d) = listing.filter (tied order d) := by
  have hties : (table.filter (tied order d)).Pairwise order.Tied := by
    refine List.pairwise_of_forall_mem_list fun e he f hf => tied_iff.mp ?_
    obtain ⟨he, hde⟩ := List.mem_filter.mp he
    obtain ⟨hf, hdf⟩ := List.mem_filter.mp hf
    rw [tied, Bool.and_eq_true] at hde hdf ⊢
    exact ⟨horderly e he d hd hde.2 f hf hdf.1, horderly f hf d hd hdf.2 e he hde.1⟩
  have hkept := (hsorts.stable _ List.filter_sublist hties).filter (tied order d)
  rw [List.filter_filter] at hkept
  simp only [Bool.and_self] at hkept
  exact hkept.eq_of_length (hsorts.perm.filter _).length_eq.symm

/-- By an order on the documents of a table there is one sorted listing of them, and this is what
sorting comes to. -/
theorem sort_eq_ok_iff (horderly : Orderly order table) :
    sort order table = .ok listing ↔ order.Sorts table listing := by
  have hsort : sort order table = .ok (insertionSort order table) := if_pos (.inr horderly)
  have hsorts := sorts_insertionSort horderly
  rw [hsort]
  constructor
  · intro heq
    rwa [← Except.ok.inj heq]
  · intro hlisting
    refine congrArg Except.ok (eq_of_filter_tied_eq (hsorts.perm.trans hlisting.perm.symm)
      (hsorts.sorted.imp inOrder_iff.mpr) (hlisting.sorted.imp inOrder_iff.mpr) fun d hd => ?_)
    have hmem := hsorts.perm.mem_iff.mp hd
    exact (filter_tied_eq horderly hsorts hmem).symm.trans (filter_tied_eq horderly hlisting hmem)

end Store

/-! ## Windows -/

namespace Selection

variable (options : Selection)

/-- The number of documents that are passed over. -/
def skipped : Nat :=
  (options.skip.getD 0).toNat

/-- Is a place behind those passed over still below the limit? -/
def reaches (place : Nat) : Bool :=
  options.limit.all fun limit => place < limit.toNat

/-- The number of documents that are returned out of a number. -/
def returned (found : Nat) : Nat :=
  match options.limit with
  | none => found - options.skipped
  | some limit => min limit.toNat (found - options.skipped)

theorem window_eq (listing : Table) :
    options.window listing =
      match options.limit with
      | some limit => (listing.drop options.skipped).take limit.toNat
      | none => listing.drop options.skipped :=
  rfl

theorem length_window (listing : Table) :
    (options.window listing).length = options.returned listing.length := by
  rw [window_eq]
  unfold returned
  cases options.limit with
  | none => exact List.length_drop
  | some limit => rw [List.length_take, List.length_drop]

theorem getElem?_window (listing : Table) (place : Nat) :
    (options.window listing)[place]? =
      if options.reaches place then listing[options.skipped + place]? else none := by
  rw [window_eq]
  unfold reaches
  cases options.limit with
  | none => simp
  | some limit => simp [List.getElem?_take]

end Selection

namespace Store

open SortOrder (inOrder_iff)

variable {found listed : Table}

/-- A listing has the documents that were found, whether they could be sorted by an order or not. -/
theorem perm_of_listing {order : Option SortOrder} (hlisting : listing order found = .ok listed) :
    listed.Perm found := by
  cases order with
  | none => rw [← Except.ok.inj hlisting]
  | some order =>
      unfold listing sort at hlisting
      dsimp only at hlisting
      split at hlisting
      next =>
        rw [← Except.ok.inj hlisting]
        exact perm_insertionSort
      next => cases hlisting

theorem exists_listing {order : Option SortOrder}
    (horderly : ∀ asked ∈ order, Orderly asked found) :
    ∃ listed, listing order found = .ok listed ∧ (order = none → listed = found) ∧
      ∀ asked ∈ order, asked.Sorts found listed := by
  cases order with
  | none => exact ⟨found, rfl, fun _ => rfl, fun _ hasked => nomatch hasked⟩
  | some order =>
      have hsorts := sorts_insertionSort (horderly order rfl)
      refine ⟨insertionSort order found, (sort_eq_ok_iff (horderly order rfl)).mpr hsorts,
        fun hnone => absurd hnone (Option.some_ne_none order), fun asked hasked => ?_⟩
      rwa [← Option.some.inj hasked]

/-- Documents are listed if there are few of them, or if they are sorted by an order on them. -/
theorem exists_listing_of_sorted {order : Option SortOrder}
    (hsorted : ∀ asked ∈ order, found.length ≤ alwaysSorted ∨ Orderly asked found) :
    ∃ listed, listing order found = .ok listed := by
  cases order with
  | none => exact ⟨found, rfl⟩
  | some order => exact ⟨insertionSort order found, if_pos (hsorted order rfl)⟩

theorem arrange_of_listing {options : Selection}
    (hlisting : listing options.order found = .ok listed) :
    arrange options found = .ok (options.window listed) :=
  congrArg (Except.map options.window) hlisting

/-- Where an order is asked for and the field has values of one class, a selection returns the part
behind those passed over, and up to the limit, of a sorted listing of the documents that have not
expired and that the filter accepts. -/
theorem select_sorts_and_windows (store : Store) (now : Instant) (entity : Entity)
    (filter : Filter) (options : Selection)
    (hsortable : ∀ order ∈ options.order,
      order.Sortable ((store.live entity now).filter filter.accepts)) :
    ∃ listing result : Table,
      (store.select now entity filter options).1 = .ok result ∧
      (options.order = none → listing = (store.live entity now).filter filter.accepts) ∧
      (∀ order ∈ options.order,
        order.Sorts ((store.live entity now).filter filter.accepts) listing) ∧
      (∀ place : Nat, result[place]? =
        if options.reaches place then listing[options.skipped + place]? else none) ∧
      result.length = options.returned ((store.live entity now).filter filter.accepts).length := by
  obtain ⟨listed, hlisting, hnone, hsorts⟩ :=
    exists_listing fun order horder => (hsortable order horder).orderly
  refine ⟨listed, options.window listed, ?_, hnone, hsorts, options.getElem?_window listed, ?_⟩
  · rw [← arrange_of_listing hlisting, ← found_eq]
    rfl
  · rw [options.length_window, (perm_of_listing hlisting).length_eq]

/-! ## Tasks by rank -/

/-- Tasks that may have a date, ten seconds after which they expire. -/
def tasks : Entity where
  name := "tasks"
  schema := OrderedMap.ofList [("due", { FieldRule.ofType .date with expires := some 10 })]

/-- A task with a rank. -/
def task (title : String) (rank : Value) : Document :=
  OrderedMap.ofList [("title", .string title), ("rank", rank)]

/-- A task without a rank. -/
def unranked : Document := OrderedMap.ofList [("title", .string "b")]

/-- A task of the highest rank that has long been due. -/
def overdue : Document := (task "g" (.int32 9)).insert "due" (.dateTime 0)

/-- Tasks of which one has no rank, one has null and two have the same number in two types. -/
def unsortedTasks : Store :=
  empty.setTable "tasks"
    [overdue, task "a" (.int32 1), unranked, task "f" (.int32 7), task "c" (.int32 2),
      task "d" .null, task "e" (.double (.ofInt 2))]

/-- All tasks but the one with the title `f`. -/
def exceptOne : Filter :=
  .single (Conjunction.push ∅ "title" (Condition.of .eq (.string "f")).not)

/-- The highest rank first, from the second task on. -/
def rankedWindow : Selection := ⟨some ⟨"rank", .descending⟩, some 3, some 1⟩

theorem live_unsortedTasks :
    (unsortedTasks.live tasks 20000).filter exceptOne.accepts =
      [task "a" (.int32 1), unranked, task "c" (.int32 2), task "d" .null,
        task "e" (.double (.ofInt 2))] :=
  rfl

/-- Of seven tasks one has expired and one is not asked for. Among the others the two tasks of the
highest rank and the two without one keep their order, although the highest rank comes first. -/
theorem select_sorts_and_windows_tasks :
    (∀ order ∈ rankedWindow.order,
        order.Sortable ((unsortedTasks.live tasks 20000).filter exceptOne.accepts)) ∧
      ∃ listing result : Table,
        (unsortedTasks.select 20000 tasks exceptOne rankedWindow).1 = .ok result ∧
        listing.length = 5 ∧
        [task "c" (.int32 2), task "e" (.double (.ofInt 2))].Sublist listing ∧
        [unranked, task "d" .null].Sublist listing ∧
        result[2]? = listing[3]? ∧ result.length = 3 := by
  have hsortable : ∀ order ∈ rankedWindow.order,
      order.Sortable ((unsortedTasks.live tasks 20000).filter exceptOne.accepts) := by
    intro order horder
    obtain rfl := Option.some.inj horder
    refine ⟨.number, fun d hd value hvalue => ?_⟩
    rw [live_unsortedTasks] at hd
    simp only [List.mem_cons, List.not_mem_nil, or_false] at hd
    rcases hd with rfl | rfl | rfl | rfl | rfl
    case inr.inl => cases hvalue
    case inr.inr.inr.inl =>
      obtain rfl := Option.some.inj hvalue
      exact .inl rfl
    all_goals
      obtain rfl := Option.some.inj hvalue
      exact .inr ⟨_, rfl, rfl⟩
  obtain ⟨listing, result, hresult, -, hsorts, hitems, hlength⟩ :=
    select_sorts_and_windows unsortedTasks 20000 tasks exceptOne rankedWindow hsortable
  obtain ⟨hperm, -, hstable⟩ := hsorts ⟨"rank", .descending⟩ rfl
  rw [live_unsortedTasks] at hperm hstable hlength
  refine ⟨hsortable, listing, result, hresult, hperm.length_eq, hstable _ ?_ ?_, hstable _ ?_ ?_,
    hitems 2, hlength⟩
  · exact .cons _ (.cons _ (.cons_cons _ (.cons _ (.cons_cons _ .slnil))))
  · exact List.pairwise_pair.mpr ⟨inOrder_iff.mp (by decide), inOrder_iff.mp (by decide)⟩
  · exact .cons _ (.cons_cons _ (.cons _ (.cons_cons _ (.cons _ .slnil))))
  · exact List.pairwise_pair.mpr ⟨inOrder_iff.mp (by decide), inOrder_iff.mp (by decide)⟩

end Store

end DocStore
