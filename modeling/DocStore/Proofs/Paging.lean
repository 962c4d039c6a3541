import DocStore.Paging

/-!
# The pages of a list

A page request that names a page of a list is answered by a slice of the list and by the numbers of
its neighbours. Two numbers may turn out too large for sixty-four bits: that of the items before the
page, and that of the page after it, where there is one. Then no page comes back.
-/

namespace DocStore

universe u

/-- The page of a list with a number of pages before it. -/
def Page.nth {α : Type u} (items : List α) (size before : Nat) : Page α where
  items := (items.drop (before * size)).take size
  count := UInt64.ofNat items.length
  next := if (before + 1) * size < items.length then some (UInt64.ofNat (before + 2)) else none
  previous := if before = 0 then none else some (UInt64.ofNat before)

/-- The number of pages of a list; there is a first page even if the list is empty. -/
def pageTotal (size length : Nat) : Nat :=
  max 1 ((length + size - 1) / size)

/-- A page lies before the end as long as an item comes in it, and so does the first page. -/
theorem lt_pageTotal_iff {size length before : Nat} (hsize : 0 < size) :
    before < pageTotal size length ↔ before = 0 ∨ before * size < length := by
  have hquotient : before < (length + size - 1) / size ↔ before * size < length := by
    rw [← Nat.add_one_le_iff, Nat.le_div_iff_mul_le hsize, Nat.succ_mul]
    omega
  rw [pageTotal, ← hquotient]
  omega

theorem Page.next_nth {α : Type u} (items : List α) {size : Nat} (hsize : 0 < size)
    (before : Nat) :
    (Page.nth items size before).next =
      if before + 1 < pageTotal size items.length then some (UInt64.ofNat (before + 2))
      else none := by
  simp only [nth, lt_pageTotal_iff hsize, Nat.add_eq_zero_iff, Nat.one_ne_zero, and_false, false_or]

/-- An item comes in every page but the first one, so there are at most as many pages as items. -/
theorem lt_of_lt_pageTotal {size length before : Nat} (hsize : 0 < size)
    (hbefore : before < pageTotal size length) (hne : before ≠ 0) : before < length := by
  have hitem := ((lt_pageTotal_iff hsize).mp hbefore).resolve_left hne
  have hle : before * 1 ≤ before * size := Nat.mul_le_mul_left _ hsize
  omega

theorem toNat_following {size length before : Nat} (hsize : 0 < size) (hfits : length < UInt64.size)
    (hmore : before + 1 < pageTotal size length) :
    (UInt64.ofNat (before + 2)).toNat = before + 1 + 1 := by
  have hlt := lt_of_lt_pageTotal hsize hmore (Nat.succ_ne_zero before)
  have hsmall : before + 2 < UInt64.size := by omega
  exact UInt64.toNat_ofNat_of_lt' hsmall

theorem Page.map_toNat_previous_nth {α : Type u} {items : List α} {size before : Nat}
    (hsize : 0 < size) (hfits : items.length < UInt64.size)
    (hbefore : before < pageTotal size items.length) :
    (Page.nth items size before).previous.map UInt64.toNat =
      if before = 0 then none else some before := by
  by_cases hzero : before = 0
  · simp [nth, hzero]
  · have hlt := lt_of_lt_pageTotal hsize hbefore hzero
    have hsmall : before < UInt64.size := by omega
    simp only [nth, if_neg hzero, Option.map_some, UInt64.toNat_ofNat_of_lt' hsmall]

/-- Pages that follow each other hold what comes first. -/
theorem flatMap_items_nth {α : Type u} (items : List α) (size pages : Nat) :
    ((List.range pages).map (Page.nth items size)).flatMap Page.items =
      items.take (pages * size) := by
  induction pages with
  | zero => simp
  | succ pages ih =>
      rw [List.range_succ, List.map_append, List.flatMap_append, ih, Nat.succ_mul, List.take_add]
      simp [Page.nth]

/-- The pages of a list hold the whole list. -/
theorem flatMap_items_pages {α : Type u} (items : List α) {size : Nat} (hsize : 0 < size) :
    ((List.range (pageTotal size items.length)).map (Page.nth items size)).flatMap Page.items =
      items := by
  have hend := mt (lt_pageTotal_iff hsize).mpr (Nat.lt_irrefl (pageTotal size items.length))
  have hall : items.length ≤ pageTotal size items.length * size :=
    Nat.le_of_not_lt fun hlt => hend (.inr hlt)
  rw [flatMap_items_nth, List.take_of_length_le hall]

namespace PageRequest

/-! ## Whole numbers -/

/-- The number of the page, counted from one. -/
def number (request : PageRequest) : Nat :=
  max request.page.toNat 1

/-- The number of items that come before the page. -/
def itemsBefore (request : PageRequest) : Nat :=
  (request.number - 1) * request.perPage.toNat

/-- The number of items that come on the page and before it, if it is full. -/
def itemsThrough (request : PageRequest) : Nat :=
  request.number * request.perPage.toNat

variable {α : Type} (request : PageRequest)

theorem number_eq : request.number = request.number - 1 + 1 :=
  (Nat.sub_add_cancel (Nat.le_max_right request.page.toNat 1)).symm

theorem itemsThrough_eq_mul :
    request.itemsThrough = (request.number - 1 + 1) * request.perPage.toNat := by
  rw [← number_eq, itemsThrough]

theorem itemsThrough_eq :
    request.itemsThrough = request.itemsBefore + request.perPage.toNat := by
  rw [itemsThrough_eq_mul, Nat.succ_mul, itemsBefore]

theorem toNat_pagesBefore : request.pagesBefore.toNat = request.page.toNat - 1 := by
  unfold pagesBefore
  by_cases hzero : request.page = 0
  · rw [if_pos hzero, hzero]
    rfl
  · have hone : 1 ≤ request.page := by
      rw [UInt64.le_iff_toNat_le]
      have hne : request.page.toNat ≠ 0 := fun heq => hzero (UInt64.toNat_inj.mp heq)
      change 1 ≤ request.page.toNat
      omega
    rw [if_neg hzero, UInt64.toNat_sub_of_le _ _ hone]
    rfl

theorem toNat_max_page_one : (max request.page 1).toNat = request.number := by
  change (if request.page ≤ 1 then 1 else request.page).toNat = max request.page.toNat 1
  split
  next hone =>
    have hle : request.page.toNat ≤ 1 := UInt64.le_iff_toNat_le.mp hone
    exact (Nat.max_eq_right hle).symm
  next hmore =>
    have hlt : 1 < request.page.toNat :=
      Nat.lt_of_not_le fun hle => hmore (UInt64.le_iff_toNat_le.mpr hle)
    exact (Nat.max_eq_left (Nat.le_of_lt hlt)).symm

theorem offset_eq : request.offset = word request.itemsBefore := by
  have hbefore : request.page.toNat - 1 = request.number - 1 := by
    unfold number
    omega
  rw [offset, toNat_pagesBefore, hbefore, itemsBefore]

theorem word_of_lt {n : Nat} (hfits : n < UInt64.size) : word n = .ok (UInt64.ofNat n) :=
  if_pos hfits

theorem word_of_le {n : Nat} (hlarge : UInt64.size ≤ n) : word n = .error (.panic .overflow) :=
  if_neg (Nat.not_lt.mpr hlarge)

/-! ## Neighbours -/

section Neighbours

variable {n : UInt64} {before : Nat} (hn : n.toNat = before + 1)

include hn

theorem sub_one_eq : n - 1 = UInt64.ofNat before := by
  have hlt : n.toNat < UInt64.size := n.toNat_lt_size
  have hone : 1 ≤ n := by
    rw [UInt64.le_iff_toNat_le, hn]
    exact Nat.le_add_left 1 before
  have hsmall : before < UInt64.size := by omega
  apply UInt64.toNat_inj.mp
  rw [UInt64.toNat_sub_of_le _ _ hone, hn, UInt64.toNat_ofNat_of_lt' hsmall]
  rfl

theorem one_lt_iff : 1 < n ↔ before ≠ 0 := by
  rw [UInt64.lt_iff_toNat_lt, hn]
  change 1 < before + 1 ↔ before ≠ 0
  omega

end Neighbours

/-! ## Pages of a list -/

variable {items : List α}

/-- A slice of a list ends at a number of sixty-four bits, wherever it starts: one that starts past
the end of the list is empty. -/
theorem word_stop {start : Nat} (size : Nat) (hstart : start < UInt64.size)
    (hfits : items.length < UInt64.size) :
    ∃ stop, word (start + ((items.drop start).take size).length) = .ok stop ∧
      (stop < UInt64.ofNat items.length ↔ start + size < items.length) := by
  have hlength : ((items.drop start).take size).length = min size (items.length - start) := by
    rw [List.length_take, List.length_drop]
  have hsum : start + min size (items.length - start) < UInt64.size := by omega
  rw [hlength]
  refine ⟨_, word_of_lt hsum, ?_⟩
  rw [UInt64.lt_iff_toNat_lt, UInt64.toNat_ofNat_of_lt' hsum, UInt64.toNat_ofNat_of_lt' hfits]
  omega

/-- One of the numbers that are computed for a page of a list has more than sixty-four bits: that of
the items before the page, or that of the page after it, where there is one. -/
def Overflows (items : List α) : Prop :=
  UInt64.size ≤ request.itemsBefore ∨
    request.itemsThrough < items.length ∧ UInt64.size ≤ request.number + 1

instance : Decidable (request.Overflows items) :=
  inferInstanceAs (Decidable (_ ∨ _))

variable {request}

/-- No number is too large for a page on which there are items, or for the first page. -/
theorem not_overflows_of_lt_pageTotal {before : Nat} (hnumber : request.number = before + 1)
    (hsize : 0 < request.perPage.toNat) (hfits : items.length < UInt64.size)
    (hbefore : before < pageTotal request.perPage.toNat items.length) :
    ¬ request.Overflows items := by
  unfold Overflows itemsThrough itemsBefore
  rw [hnumber, Nat.add_sub_cancel]
  rintro (hlarge | ⟨hmore, hlarge⟩)
  · rcases (lt_pageTotal_iff hsize).mp hbefore with rfl | hitem
    · rw [Nat.zero_mul] at hlarge
      exact absurd hlarge (by decide)
    · omega
  · have hlt := lt_of_lt_pageTotal hsize ((lt_pageTotal_iff hsize).mpr (.inr hmore))
      (Nat.succ_ne_zero before)
    omega

theorem selection_of_lt (hproduct : request.itemsBefore < UInt64.size) (order : Option SortOrder) :
    request.selection order =
      .ok ⟨order, some request.perPage, some (UInt64.ofNat request.itemsBefore)⟩ := by
  unfold selection
  rw [offset_eq, word_of_lt hproduct]
  rfl

theorem selection_of_le (hlarge : UInt64.size ≤ request.itemsBefore) (order : Option SortOrder) :
    request.selection order = .error (.panic .overflow) := by
  unfold selection
  rw [offset_eq, word_of_le hlarge]
  rfl

theorem following_eq (request : PageRequest) :
    some <$> word (request.number + 1) =
      if UInt64.size ≤ request.number + 1 then .error (.panic .overflow)
      else .ok (some (UInt64.ofNat (request.number - 1 + 2))) := by
  have hfollowing : request.number + 1 = request.number - 1 + 2 :=
    congrArg Nat.succ request.number_eq
  split
  next hlarge =>
    rw [word_of_le hlarge]
    rfl
  next hsmall =>
    rw [word_of_lt (Nat.lt_of_not_le hsmall), hfollowing]
    rfl

/-- The page of a list that is made of the slice at its places, unless the page after it has no
number. -/
theorem pageOf_slice (hproduct : request.itemsBefore < UInt64.size)
    (hfits : items.length < UInt64.size) :
    request.pageOf ((items.drop request.itemsBefore).take request.perPage.toNat)
        (UInt64.ofNat items.length) =
      if request.Overflows items then .error (.panic .overflow)
      else .ok (Page.nth items request.perPage.toNat (request.number - 1)) := by
  obtain ⟨stop, hstop, hmore⟩ := word_stop request.perPage.toNat hproduct hfits
  rw [← itemsThrough_eq] at hmore
  have hnumber : (max request.page 1).toNat = request.number - 1 + 1 := by
    rw [toNat_max_page_one, ← number_eq]
  have hoverflows : request.Overflows items ↔
      request.itemsThrough < items.length ∧ UInt64.size ≤ request.number + 1 :=
    or_iff_right (Nat.not_le.mpr hproduct)
  unfold pageOf
  rw [offset_eq, word_of_lt hproduct]
  dsimp only [bind, Except.bind]
  rw [UInt64.toNat_ofNat_of_lt' hproduct, hstop]
  dsimp only
  simp only [hmore, one_lt_iff hnumber, sub_one_eq hnumber, ite_not, hoverflows]
  unfold Page.nth
  rw [← itemsThrough_eq_mul]
  by_cases hnext : request.itemsThrough < items.length
  · simp only [hnext, if_true, true_and]
    rw [toNat_max_page_one, following_eq]
    by_cases hlarge : UInt64.size ≤ request.number + 1
    · rw [if_pos hlarge, if_pos hlarge]
    · rw [if_neg hlarge, if_neg hlarge]
      rfl
  · simp only [hnext, if_false, false_and]
    rfl

end PageRequest

end DocStore
