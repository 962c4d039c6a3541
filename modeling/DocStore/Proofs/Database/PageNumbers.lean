import DocStore.Proofs.Database.Pages

/-!
# Pages of any number

A request may name any page and any number of items on it. The page that comes back holds the items
at its places of the selection, and knows whether more of them follow. But it does not always come
back: the number of items before the page and the number of the page after it are computed with
sixty-four bits, and where one of them has more, no page comes, although the page would often be
empty.
-/

namespace DocStore

namespace PageRequest

variable {α : Type} {request : PageRequest} {items : List α}

/-- The page holds the items of a list at its places, and it names the page after it exactly if an
item comes there. Nothing is said about a following number that does not have sixty-four bits. -/
structure Serves (request : PageRequest) (items : List α) (page : Page α) : Prop where
  items_eq : page.items = items.extract request.itemsBefore request.itemsThrough
  next_of_more : request.itemsThrough < items.length → request.number + 1 < UInt64.size →
    page.next.map UInt64.toNat = some (request.number + 1)
  next_of_end : items.length ≤ request.itemsThrough → page.next = none

/-- The slice at the places of a page serves the page. -/
theorem serves_nth (request : PageRequest) (items : List α) :
    request.Serves items (Page.nth items request.perPage.toNat (request.number - 1)) := by
  have hthrough := request.itemsThrough_eq
  refine ⟨?_, fun hmore hfollowing => ?_, fun hend => ?_⟩
  · rw [List.extract_eq_take_drop, hthrough, Nat.add_sub_cancel_left]
    rfl
  · have hnumber : request.number - 1 + 2 = request.number + 1 :=
      congrArg Nat.succ request.number_eq.symm
    rw [itemsThrough_eq_mul] at hmore
    dsimp only [Page.nth]
    rw [if_pos hmore, Option.map_some, hnumber, UInt64.toNat_ofNat_of_lt' hfollowing]
  · rw [itemsThrough_eq_mul] at hend
    exact if_neg (Nat.not_lt.mpr hend)

/-- The number of a page after the last number is too large only for pages of no items. -/
theorem overflows_iff (hfits : items.length < UInt64.size) :
    request.Overflows items ↔ UInt64.size ≤ request.itemsBefore ∨
      request.perPage = 0 ∧ items ≠ [] ∧ UInt64.size ≤ request.number + 1 := by
  refine or_congr_right ⟨fun ⟨hmore, hlarge⟩ => ?_, fun ⟨hzero, hne, hlarge⟩ => ⟨?_, hlarge⟩⟩
  · have hzero : request.perPage.toNat = 0 := by
      -- With an item on every page there are as many items as pages, and they are not fewer than
      -- there are numbers.
      by_contra hpositive
      have hle : request.number * 1 ≤ request.itemsThrough :=
        Nat.mul_le_mul_left _ (Nat.one_le_iff_ne_zero.mpr hpositive)
      omega
    refine ⟨UInt64.toNat_inj.mp hzero, ?_, hlarge⟩
    rintro rfl
    exact absurd hmore (Nat.not_lt_zero _)
  · rw [itemsThrough, hzero]
    exact List.length_pos_iff.mpr hne

end PageRequest

namespace Entity

variable (entity : Entity)

/-- Whatever page is asked for, either it comes with the documents at its places and with the number
of the page after it as it should be, or it does not come at all. This happens exactly if the number
of the documents before it has more than sixty-four bits, or if it has the last number and no
documents, and some are to follow. -/
theorem page_served_iff (store : Store) (now : Instant) (filter : Filter)
    (order : Option SortOrder) (request : PageRequest)
    (hfits : ((store.live entity now).filter filter.accepts).length < UInt64.size)
    (hsorted : ∀ asked ∈ order,
      ((store.live entity now).filter filter.accepts).length ≤ Store.alwaysSorted ∨
        Store.Orderly asked ((store.live entity now).filter filter.accepts)) :
    ∃ items : List Document,
      (entity.select store now filter ⟨order, none, none⟩).1 = .ok items ∧
      ((∃ page, (entity.page store now filter order request).1 = .ok page ∧
          request.Serves items page) ↔
        request.itemsBefore < UInt64.size ∧
          (request.perPage ≠ 0 ∨ items = [] ∨ request.number + 1 < UInt64.size)) ∧
      ((entity.page store now filter order request).1 = .error (.panic .overflow) ↔
        UInt64.size ≤ request.itemsBefore ∨
          request.perPage = 0 ∧ items ≠ [] ∧ UInt64.size ≤ request.number + 1) := by
  rw [← Store.found_eq] at hfits hsorted
  obtain ⟨items, hitems⟩ := Store.exists_listing_of_sorted hsorted
  rw [← (Store.perm_of_listing hitems).length_eq] at hfits
  have hfitting : request.itemsBefore < UInt64.size ∧
      (request.perPage ≠ 0 ∨ items = [] ∨ request.number + 1 < UInt64.size) ↔
        ¬ request.Overflows items := by
    rw [PageRequest.overflows_iff hfits, not_or, not_and_or, not_and_or, Nat.not_le, Nat.not_le,
      not_not]
  refine ⟨items, fst_select_unwindowed.trans hitems, ?_⟩
  rw [page_eq hitems hfits, hfitting, ← PageRequest.overflows_iff hfits]
  by_cases hoverflows : request.Overflows items
  · rw [if_pos hoverflows]
    refine ⟨iff_of_false ?_ (not_not_intro hoverflows), iff_of_true rfl hoverflows⟩
    rintro ⟨page, hpage, -⟩
    cases hpage
  · rw [if_neg hoverflows]
    exact ⟨iff_of_true ⟨_, rfl, request.serves_nth items⟩ hoverflows, iff_of_false nofun hoverflows⟩

/-- The page with the greatest number, of one note, lies far past the notes. It comes empty. -/
theorem page_served_iff_greatest :
    ∃ (items : List Document) (page : Page Document),
      (Entity.select ⟨"notes", ∅⟩ rankedNotes 0 aboveFirst ⟨none, none, none⟩).1 = .ok items ∧
      (Entity.page ⟨"notes", ∅⟩ rankedNotes 0 aboveFirst none ⟨18446744073709551615, 1⟩).1 =
        .ok page ∧
      (PageRequest.mk 18446744073709551615 1).Serves items page := by
  have hfits : ((rankedNotes.live ⟨"notes", ∅⟩ 0).filter aboveFirst.accepts).length <
      UInt64.size := by decide
  obtain ⟨items, hitems, hserved, -⟩ := page_served_iff ⟨"notes", ∅⟩ rankedNotes 0 aboveFirst none
    ⟨18446744073709551615, 1⟩ hfits nofun
  obtain ⟨page, hpage, hserves⟩ := hserved.mpr ⟨by decide, .inl (by decide)⟩
  exact ⟨items, page, hitems, hpage, hserves⟩

/-- With `2 ^ 32` pages of as many notes each before it, a page should come without any. It does not
come. -/
theorem far_page_overflows :
    (Entity.select ⟨"notes", ∅⟩ rankedNotes 0 aboveFirst ⟨none, none, none⟩).1 =
        .ok [rankedNote "b" 2, rankedNote "e" 5, rankedNote "c" 3, rankedNote "d" 4] ∧
      (PageRequest.mk 4294967297 4294967296).Serves
        [rankedNote "b" 2, rankedNote "e" 5, rankedNote "c" 3, rankedNote "d" 4]
        ⟨[], 4, none, some 4294967296⟩ ∧
      (Entity.page ⟨"notes", ∅⟩ rankedNotes 0 aboveFirst none ⟨4294967297, 4294967296⟩).1 =
        .error (.panic .overflow) := by
  refine ⟨by rfl, ⟨?_, fun hmore => ?_, fun _ => rfl⟩, by rfl⟩
  · rw [List.extract_eq_take_drop, List.drop_of_length_le (by decide), List.take_nil]
  · exact absurd hmore (by decide)

end Entity

end DocStore
