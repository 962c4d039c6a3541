import DocStore.Proofs.Paging
import DocStore.Proofs.Store.Sorting

/-!
# Walks along the pages of a selection

A caller that starts at the first page and goes on to the next one, as long as there is one, comes
to an end. As long as no document is written and none expires on the way, the caller sees every
document of the selection once, in its order. But where the documents cannot be sorted there is
neither a selection nor a page.
-/

namespace DocStore

namespace Entity

variable (entity : Entity)

/-! ## One page -/

section Page

variable {entity} {store : Store} {now : Instant} {filter : Filter} {order : Option SortOrder}
  {items : List Document}

theorem found_enter :
    (store.enter entity).found now entity filter = store.found now entity filter := by
  rw [Store.found_eq, Store.found_eq, Store.live_enter]

theorem found_eq_of_live {later : Instant}
    (hlive : store.live entity later = store.live entity now) :
    store.found later entity filter = store.found now entity filter := by
  rw [Store.found_eq, Store.found_eq, hlive]

/-- A selection without a window returns the whole listing. -/
theorem fst_select_unwindowed :
    (entity.select store now filter ⟨order, none, none⟩).1 =
      Store.listing order (store.found now entity filter) := by
  change (Store.listing order (store.found now entity filter)).map _ = _
  cases Store.listing order (store.found now entity filter) <;> rfl

/-- Where the documents that are found can be listed, a page of the listing comes back, unless one
of the numbers that are computed for it is too large. -/
theorem page_eq {request : PageRequest}
    (hitems : Store.listing order (store.found now entity filter) = .ok items)
    (hfits : items.length < UInt64.size) :
    entity.page store now filter order request =
      (if request.Overflows items then .error (.panic .overflow)
        else .ok (Page.nth items request.perPage.toNat (request.number - 1)),
        store.enter entity) := by
  unfold page Store.count
  dsimp only
  by_cases hproduct : request.itemsBefore < UInt64.size
  · have hpage := PageRequest.pageOf_slice hproduct hfits
    have hwindow : Selection.window
        ⟨order, some request.perPage, some (UInt64.ofNat request.itemsBefore)⟩ items =
          (items.drop request.itemsBefore).take request.perPage.toNat := by
      rw [Selection.window_eq]
      dsimp only [Selection.skipped, Option.getD_some]
      rw [UInt64.toNat_ofNat_of_lt' hproduct]
    rw [PageRequest.selection_of_lt hproduct]
    dsimp only [Store.select]
    rw [found_enter, Store.enter_enter, Store.arrange_of_listing hitems, hwindow,
      ← (Store.perm_of_listing hitems).length_eq, ← hpage]
    rfl
  · have hlarge := Nat.le_of_not_lt hproduct
    rw [PageRequest.selection_of_le hlarge, if_pos (.inl hlarge)]

/-- No page comes back where the documents that are found cannot be listed. -/
theorem fst_page_ne_ok {e : Failure} (request : PageRequest) (page : Page Document)
    (hfailed : Store.listing order (store.found now entity filter) = .error e) :
    (entity.page store now filter order request).1 ≠ .ok page := by
  unfold Entity.page Store.count
  dsimp only
  by_cases hproduct : request.itemsBefore < UInt64.size
  · rw [PageRequest.selection_of_lt hproduct]
    dsimp only [Store.select, Store.arrange]
    rw [found_enter, hfailed]
    exact nofun
  · rw [PageRequest.selection_of_le (Nat.le_of_not_lt hproduct)]
    exact nofun

theorem page_eq_nth {request : PageRequest} {before : Nat}
    (hitems : Store.listing order (store.found now entity filter) = .ok items)
    (hfits : items.length < UInt64.size)
    (hpage : request.page.toNat = before + 1) (hsize : 0 < request.perPage.toNat)
    (hbefore : before < pageTotal request.perPage.toNat items.length) :
    entity.page store now filter order request =
      (.ok (Page.nth items request.perPage.toNat before), store.enter entity) := by
  have hnumber : request.number = before + 1 := by
    unfold PageRequest.number
    omega
  have hfitting := PageRequest.not_overflows_of_lt_pageTotal hnumber hsize hfits hbefore
  rw [page_eq hitems hfits, if_neg hfitting, hnumber, Nat.add_sub_cancel]

end Page

/-! ## One page after the other -/

/-- A walk from a page to the last one: the caller asks for a page when its clock has ticked so many
times, and goes on to the next page as long as the page that comes names one. There is no walk on
which a page does not come. -/
inductive Walk (filter : Filter) (order : Option SortOrder) (perPage : UInt64)
    (clock : Nat → Instant) : Nat → UInt64 → Store → List (Page Document) → Prop
  | last {ticks : Nat} {number : UInt64} {store after : Store} {page : Page Document} :
      entity.page store (clock ticks) filter order ⟨number, perPage⟩ = (.ok page, after) →
      page.next = none → Walk filter order perPage clock ticks number store [page]
  | onward {ticks : Nat} {number following : UInt64} {store after : Store} {page : Page Document}
      {rest : List (Page Document)} :
      entity.page store (clock ticks) filter order ⟨number, perPage⟩ = (.ok page, after) →
      page.next = some following →
      Walk filter order perPage clock (ticks + 1) following after rest →
      Walk filter order perPage clock ticks number store (page :: rest)

namespace Walk

variable {entity} {filter : Filter} {order : Option SortOrder} {perPage number : UInt64}
  {clock : Nat → Instant} {ticks : Nat} {store after : Store} {page : Page Document}
  {visited : List (Page Document)}

theorem page_inj {answer : Outcome (Page Document) × Store} {other : Page Document} {left : Store}
    (hpage : answer = (.ok page, after)) (hother : answer = (.ok other, left)) :
    page = other ∧ after = left := by
  obtain ⟨hsame, hafter⟩ := Prod.mk.inj (hpage.symm.trans hother)
  exact ⟨Except.ok.inj hsame, hafter⟩

theorem iff_of_last
    (hpage : entity.page store (clock ticks) filter order ⟨number, perPage⟩ = (.ok page, after))
    (hnext : page.next = none) :
    Walk entity filter order perPage clock ticks number store visited ↔ visited = [page] := by
  constructor
  · intro hwalk
    cases hwalk with
    | last hpage' _ =>
        obtain ⟨rfl, _⟩ := page_inj hpage' hpage
        rfl
    | onward hpage' hnext' _ =>
        obtain ⟨rfl, _⟩ := page_inj hpage' hpage
        rw [hnext] at hnext'
        cases hnext'
  · rintro rfl
    exact .last hpage hnext

theorem iff_of_next {following : UInt64}
    (hpage : entity.page store (clock ticks) filter order ⟨number, perPage⟩ = (.ok page, after))
    (hnext : page.next = some following) :
    Walk entity filter order perPage clock ticks number store visited ↔
      ∃ rest, visited = page :: rest ∧
        Walk entity filter order perPage clock (ticks + 1) following after rest := by
  constructor
  · intro hwalk
    cases hwalk with
    | last hpage' hnext' =>
        obtain ⟨rfl, _⟩ := page_inj hpage' hpage
        rw [hnext] at hnext'
        cases hnext'
    | onward hpage' hnext' hrest =>
        obtain ⟨rfl, rfl⟩ := page_inj hpage' hpage
        obtain rfl : _ = following := Option.some.inj (hnext'.symm.trans hnext)
        exact ⟨_, rfl, hrest⟩
  · rintro ⟨rest, rfl, hrest⟩
    exact .onward hpage hnext hrest

/-- There is no walk where the documents that are found cannot be listed. -/
theorem not_of_listing_eq_error {e : Failure}
    (hfailed : Store.listing order (store.found (clock ticks) entity filter) = .error e) :
    ¬ Walk entity filter order perPage clock ticks number store visited := by
  rintro (⟨hpage, -⟩ | ⟨hpage, -, -⟩)
  · exact fst_page_ne_ok _ _ hfailed (congrArg Prod.fst hpage)
  · exact fst_page_ne_ok _ _ hfailed (congrArg Prod.fst hpage)

/-- A walk from a page of an unchanging list visits the pages from there to the last one. -/
theorem iff_pages {items : List Document} {left before : Nat}
    (hsize : 0 < perPage.toNat) (hfits : items.length < UInt64.size)
    (hsame : ∀ ticks < pageTotal perPage.toNat items.length,
      Store.listing order (store.found (clock ticks) entity filter) = .ok items)
    (htotal : before + left + 1 = pageTotal perPage.toNat items.length)
    (hnumber : number.toNat = before + 1) :
    Walk entity filter order perPage clock before number store visited ↔
      visited = (List.range' before (left + 1)).map (Page.nth items perPage.toNat) := by
  have hbefore : before < pageTotal perPage.toNat items.length := by omega
  have hpage : entity.page store (clock before) filter order ⟨number, perPage⟩ =
      (.ok (Page.nth items perPage.toNat before), store.enter entity) :=
    page_eq_nth (hsame before hbefore) hfits hnumber hsize hbefore
  induction left generalizing before number store visited with
  | zero =>
      have hnext : (Page.nth items perPage.toNat before).next = none := by
        rw [Page.next_nth items hsize, if_neg (by omega)]
      exact iff_of_last hpage hnext
  | succ left ih =>
      have hmore : before + 1 < pageTotal perPage.toNat items.length := by omega
      have hnext : (Page.nth items perPage.toNat before).next =
          some (UInt64.ofNat (before + 2)) := by
        rw [Page.next_nth items hsize, if_pos hmore]
      have hfollowing := toNat_following hsize hfits hmore
      have hkept : ∀ ticks < pageTotal perPage.toNat items.length,
          Store.listing order ((store.enter entity).found (clock ticks) entity filter) =
            .ok items := by
        intro ticks hticks
        rw [found_enter]
        exact hsame ticks hticks
      have hrest : ∀ rest, Walk entity filter order perPage clock (before + 1)
          (UInt64.ofNat (before + 2)) (store.enter entity) rest ↔
            rest = (List.range' (before + 1) (left + 1)).map (Page.nth items perPage.toNat) :=
        fun rest => ih hkept (by omega) hfollowing hmore
          (page_eq_nth (hkept _ hmore) hfits hfollowing hsize hmore)
      rw [iff_of_next hpage hnext]
      simp only [hrest, exists_eq_right, List.range'_succ, List.map_cons]

end Walk

/-- A walk from the first page visits one page for every `perPage` documents that the filter
accepts, rounded up, and at least one. The pages together hold the whole selection; each has the
number of all documents and knows which page comes before it. A table has fewer documents than
there are numbers, and those that have not expired stay the same as long as pages are asked for.
Unless there are few of them, the comparison by which they are sorted has to be an order on them, as
it is on values of one class. -/
theorem pages_visit_everything (store : Store) (filter : Filter) (order : Option SortOrder)
    (perPage : UInt64) (clock : Nat → Instant) (hpositive : 1 ≤ perPage)
    (hfits : ((store.live entity (clock 0)).filter filter.accepts).length < UInt64.size)
    (hsorted : ∀ asked ∈ order,
      ((store.live entity (clock 0)).filter filter.accepts).length ≤ Store.alwaysSorted ∨
        Store.Orderly asked ((store.live entity (clock 0)).filter filter.accepts))
    (hsame : ∀ ticks <
      pageTotal perPage.toNat (entity.count store (clock 0) filter).1.toNat,
        store.live entity (clock ticks) = store.live entity (clock 0)) :
    ∃ (items : List Document) (pages : List (Page Document)),
      (entity.select store (clock 0) filter ⟨order, none, none⟩).1 = .ok items ∧
      (∀ visited, Walk entity filter order perPage clock 0 1 store visited ↔ visited = pages) ∧
      pages.length =
        pageTotal perPage.toNat (entity.count store (clock 0) filter).1.toNat ∧
      pages.flatMap Page.items = items ∧
      ∀ (before : Nat) (page : Page Document), pages[before]? = some page →
        page.count = (entity.count store (clock 0) filter).1 ∧
        page.previous.map UInt64.toNat = if before = 0 then none else some before := by
  have hsize : 0 < perPage.toNat := UInt64.le_iff_toNat_le.mp hpositive
  rw [← Store.found_eq] at hfits hsorted
  obtain ⟨items, hitems⟩ := Store.exists_listing_of_sorted hsorted
  have hlength : (store.found (clock 0) entity filter).length = items.length :=
    (Store.perm_of_listing hitems).length_eq.symm
  have hcount : (entity.count store (clock 0) filter).1 = UInt64.ofNat items.length := by
    rw [← hlength]
    rfl
  rw [hlength] at hfits
  have htoNat : (UInt64.ofNat items.length).toNat = items.length := UInt64.toNat_ofNat_of_lt' hfits
  rw [hcount, htoNat] at hsame ⊢
  have hlistings : ∀ ticks < pageTotal perPage.toNat items.length,
      Store.listing order (store.found (clock ticks) entity filter) = .ok items := by
    intro ticks hticks
    rw [found_eq_of_live (hsame ticks hticks), hitems]
  have hone : 0 < pageTotal perPage.toNat items.length := (lt_pageTotal_iff hsize).mpr (.inl rfl)
  refine ⟨items,
    (List.range (pageTotal perPage.toNat items.length)).map (Page.nth items perPage.toNat),
    fst_select_unwindowed.trans hitems, ?_, ?_, flatMap_items_pages items hsize, ?_⟩
  · intro visited
    have htotal : 0 + (pageTotal perPage.toNat items.length - 1) + 1 =
        pageTotal perPage.toNat items.length := by omega
    rw [Walk.iff_pages hsize hfits hlistings htotal rfl, Nat.sub_add_cancel hone,
      List.range_eq_range']
  · rw [List.length_map, List.length_range]
  · intro before page hpage
    rw [List.getElem?_map, Option.map_eq_some_iff] at hpage
    obtain ⟨index, hindex, rfl⟩ := hpage
    obtain ⟨hlt, rfl⟩ := List.getElem?_eq_some_iff.mp hindex
    rw [List.getElem_range]
    rw [List.length_range] at hlt
    exact ⟨rfl, Page.map_toNat_previous_nth hsize hfits hlt⟩

/-! ## Notes by rank -/

/-- A note with a title and a rank. -/
def rankedNote (title : String) (rank : Int32) : Document :=
  OrderedMap.ofList [("title", .string title), ("rank", .int32 rank)]

/-- Notes that come in no order. -/
def rankedNotes : Store :=
  Store.empty.setTable "notes"
    [rankedNote "b" 2, rankedNote "a" 1, rankedNote "e" 5, rankedNote "c" 3, rankedNote "d" 4]

/-- The notes of a rank above the first. -/
def aboveFirst : Filter :=
  .single (Conjunction.push ∅ "rank" (.of .gt (.int32 1)))

/-- Four notes of five, the highest rank first, come on two pages of three. -/
theorem pages_visit_everything_notes :
    ∃ (items : List Document) (pages : List (Page Document)),
      (Entity.select ⟨"notes", ∅⟩ rankedNotes 0 aboveFirst
        ⟨some ⟨"rank", .descending⟩, none, none⟩).1 = .ok items ∧
      Walk ⟨"notes", ∅⟩ aboveFirst (some ⟨"rank", .descending⟩) 3 (fun _ => 0) 0 1 rankedNotes
        pages ∧
      pages.length = 2 ∧ pages.flatMap Page.items = items ∧
      ∀ page, pages[1]? = some page → page.previous.map UInt64.toNat = some 1 := by
  have hfits : ((rankedNotes.live ⟨"notes", ∅⟩ 0).filter aboveFirst.accepts).length <
      UInt64.size := by decide
  obtain ⟨items, pages, hitems, hwalk, htotal, hall, hpages⟩ :=
    pages_visit_everything ⟨"notes", ∅⟩ rankedNotes aboveFirst (some ⟨"rank", .descending⟩) 3
      (fun _ => 0) (by decide) hfits (fun _ _ => .inl (by decide)) (fun _ _ => rfl)
  exact ⟨items, pages, hitems, (hwalk pages).mpr rfl, htotal, hall,
    fun page hpage => (hpages 1 page hpage).2⟩

/-- Eight times three notes, the first of which has a rank that is not a number. -/
def unorderedNotes : Table :=
  (List.replicate 8 [.double .nan, .int32 2, .int32 1]).flatten.map fun rank =>
    OrderedMap.ofList [("rank", rank)]

/-- Two is in order with what is not a number, and this with one, but two is not in order with
one. -/
theorem not_orderly_unorderedNotes : ¬ Store.Orderly ⟨"rank", .ascending⟩ unorderedNotes := by
  intro horderly
  have hmem : ∀ rank ∈ [Value.double .nan, .int32 2, .int32 1],
      OrderedMap.ofList [("rank", rank)] ∈ unorderedNotes := fun rank hrank =>
    List.mem_map_of_mem (List.mem_flatten.mpr ⟨_, List.mem_replicate.mpr ⟨by decide, rfl⟩, hrank⟩)
  have htwo := horderly _ (hmem (.int32 2) (by simp)) _ (hmem (.double .nan) (by simp)) (by decide)
    _ (hmem (.int32 1) (by simp)) (by decide)
  revert htwo
  decide

/-- The notes are not sorted by their ranks, so nothing is selected, and there is no walk along the
pages. -/
theorem no_walk_of_unordered_notes :
    (Entity.select ⟨"notes", ∅⟩ (Store.empty.setTable "notes" unorderedNotes) 0 .all
        ⟨some ⟨"rank", .ascending⟩, none, none⟩).1 = .error (.panic .unordered) ∧
      ∀ visited, ¬ Walk ⟨"notes", ∅⟩ .all (some ⟨"rank", .ascending⟩) 24 (fun _ => 0) 0 1
        (Store.empty.setTable "notes" unorderedNotes) visited := by
  have hfailed : Store.sort ⟨"rank", .ascending⟩ unorderedNotes = .error (.panic .unordered) :=
    if_neg (not_or.mpr ⟨by decide, not_orderly_unorderedNotes⟩)
  have hlisting : Store.listing (some ⟨"rank", .ascending⟩)
      ((Store.empty.setTable "notes" unorderedNotes).found 0 ⟨"notes", ∅⟩ .all) =
        .error (.panic .unordered) := hfailed
  exact ⟨fst_select_unwindowed.trans hlisting, fun _ => Walk.not_of_listing_eq_error hlisting⟩

end Entity

end DocStore
