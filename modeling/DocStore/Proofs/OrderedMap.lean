import DocStore.OrderedMap
import Mathlib.Data.List.Induction
import Mathlib.Data.List.Nodup

/-!
# Reading ordered maps

What is found under a name after each way of writing to a map. Everything later is
said through `get?`; the list of entries is opened only here.
-/

namespace DocStore

universe u v

namespace Entries

variable {α : Type u} {β : Type v}

@[simp] theorem get?_nil (name : String) : get? ([] : List (String × α)) name = none :=
  rfl

theorem get?_cons (other : String) (value : α) (rest : List (String × α)) (name : String) :
    get? ((other, value) :: rest) name = if name = other then some value else get? rest name := by
  by_cases heq : name = other
  · simp [get?, heq]
  · have hbeq : (name == other) = false := by simpa using heq
    simp [get?, List.lookup_cons, hbeq, heq]

theorem get?_eq_none_iff {entries : List (String × α)} {name : String} :
    get? entries name = none ↔ name ∉ names entries := by
  induction entries with
  | nil => simp [names]
  | cons entry rest ih =>
      obtain ⟨other, value⟩ := entry
      rw [get?_cons]
      by_cases heq : name = other
      · simp [names, heq]
      · rw [if_neg heq, ih]
        simp [names, heq]

theorem ne_of_notMem_names {entries : List (String × α)} {name : String}
    (hfresh : name ∉ names entries) {entry : String × α} (hmem : entry ∈ entries) :
    entry.1 ≠ name := by
  intro heq
  exact hfresh (heq ▸ List.mem_map_of_mem hmem)

theorem mem_of_get?_eq_some {entries : List (String × α)} {name : String} {value : α}
    (hget : get? entries name = some value) : (name, value) ∈ entries := by
  induction entries with
  | nil => simp at hget
  | cons entry rest ih =>
      obtain ⟨other, old⟩ := entry
      rw [get?_cons] at hget
      by_cases heq : name = other
      · rw [if_pos heq, Option.some.injEq] at hget
        rw [heq, hget]
        exact List.mem_cons_self
      · rw [if_neg heq] at hget
        exact List.mem_cons_of_mem _ (ih hget)

/-- Where names are distinct, reading a name and listing the entries is the same. -/
theorem get?_eq_some_iff {entries : List (String × α)} (hnodup : (names entries).Nodup)
    {name : String} {value : α} : get? entries name = some value ↔ (name, value) ∈ entries := by
  refine ⟨mem_of_get?_eq_some, ?_⟩
  intro hmem
  induction entries with
  | nil => simp at hmem
  | cons entry rest ih =>
      obtain ⟨other, old⟩ := entry
      obtain ⟨hfresh, hrest⟩ := List.nodup_cons.mp hnodup
      rw [get?_cons]
      rcases List.mem_cons.mp hmem with heq | hmem
      · obtain ⟨rfl, rfl⟩ := Prod.mk.inj heq
        exact if_pos rfl
      · have hne : name ≠ other := by
          intro heq
          exact hfresh (List.mem_map.mpr ⟨(name, value), hmem, heq⟩)
        rw [if_neg hne]
        exact ih hrest hmem

theorem get?_put (name : String) (value : α) (entries : List (String × α)) (other : String) :
    get? (put name value entries) other =
      if other = name then some value else get? entries other := by
  induction entries with
  | nil => simp [put, get?_cons]
  | cons entry rest ih =>
      obtain ⟨head, old⟩ := entry
      unfold put
      by_cases hhead : head = name
      · rw [if_pos hhead, get?_cons, get?_cons, hhead]
        split <;> rfl
      · rw [if_neg hhead, get?_cons, get?_cons, ih]
        by_cases hother : other = head
        · rw [if_pos hother, if_pos hother, if_neg (fun h => hhead (hother ▸ h))]
        · rw [if_neg hother, if_neg hother]

/-- Of two values under one name the second stays. -/
theorem put_put (name : String) (value later : α) (entries : List (String × α)) :
    put name later (put name value entries) = put name later entries := by
  induction entries with
  | nil => simp [put]
  | cons entry rest ih =>
      by_cases hhead : entry.1 = name
      · simp [put, hhead]
      · simp [put, hhead, ih]

/-- A new name goes to the end. -/
theorem put_of_notMem {name : String} {entries : List (String × α)}
    (hfresh : name ∉ names entries) (value : α) :
    put name value entries = entries ++ [(name, value)] := by
  induction entries with
  | nil => rfl
  | cons entry rest ih =>
      obtain ⟨other, old⟩ := entry
      simp only [names, List.map_cons, List.mem_cons, not_or] at hfresh
      simp only [put, if_neg (Ne.symm hfresh.1), List.cons_append]
      rw [ih hfresh.2]

theorem get?_without (name : String) (entries : List (String × α)) (other : String) :
    get? (without name entries) other = if other = name then none else get? entries other := by
  induction entries with
  | nil => simp [without]
  | cons entry rest ih =>
      obtain ⟨head, value⟩ := entry
      simp only [without] at ih
      simp only [without, List.filter_cons, decide_eq_true_eq]
      by_cases hhead : head = name
      · rw [if_neg (fun hne => hne hhead), ih, get?_cons, hhead]
        by_cases hother : other = name
        · rw [if_pos hother, if_pos hother]
        · rw [if_neg hother, if_neg hother, if_neg hother]
      · rw [if_pos hhead, get?_cons, get?_cons, ih]
        by_cases hother : other = head
        · rw [if_pos hother, if_neg (fun h => hhead (hother ▸ h)), if_pos hother]
        · rw [if_neg hother, if_neg hother]

theorem names_append (left right : List (String × α)) :
    names (left ++ right) = names left ++ names right :=
  List.map_append

theorem get?_append (left right : List (String × α)) (name : String) :
    get? (left ++ right) name = (get? left name).or (get? right name) :=
  List.lookup_append

/-- Values that change where they are, each in a way that may depend on its name. -/
theorem get?_map (change : String → α → β) (entries : List (String × α)) (name : String) :
    get? (entries.map fun entry => (entry.1, change entry.1 entry.2)) name =
      (get? entries name).map (change name) := by
  induction entries with
  | nil => rfl
  | cons entry rest ih =>
      obtain ⟨other, value⟩ := entry
      rw [List.map_cons, get?_cons, get?_cons, ih]
      by_cases heq : name = other
      · rw [if_pos heq, if_pos heq, heq]
        rfl
      · rw [if_neg heq, if_neg heq]

theorem names_map (change : String → α → β) (entries : List (String × α)) :
    names (entries.map fun entry => (entry.1, change entry.1 entry.2)) = names entries := by
  unfold names
  rw [List.map_map]
  rfl

end Entries

namespace OrderedMap

variable {α : Type u} {β : Type v}

@[simp] theorem get?_empty (name : String) : (∅ : OrderedMap α).get? name = none :=
  rfl

theorem get?_eq_some_iff {map : OrderedMap α} {name : String} {value : α} :
    map.get? name = some value ↔ (name, value) ∈ map.entries :=
  Entries.get?_eq_some_iff map.nodup

theorem get?_eq_none_iff {map : OrderedMap α} {name : String} :
    map.get? name = none ↔ name ∉ map.names :=
  Entries.get?_eq_none_iff

theorem mem_names_of_get? {map : OrderedMap α} {name : String} {value : α}
    (hget : map.get? name = some value) : name ∈ map.names :=
  List.mem_map.mpr ⟨(name, value), get?_eq_some_iff.mp hget, rfl⟩

@[simp] theorem get?_insert (map : OrderedMap α) (name : String) (value : α) (other : String) :
    (map.insert name value).get? other = if other = name then some value else map.get? other :=
  Entries.get?_put name value map.entries other

theorem get?_insert_self (map : OrderedMap α) (name : String) (value : α) :
    (map.insert name value).get? name = some value := by
  rw [get?_insert, if_pos rfl]

theorem get?_insert_of_ne (map : OrderedMap α) {name other : String} (hne : other ≠ name)
    (value : α) : (map.insert name value).get? other = map.get? other := by
  rw [get?_insert, if_neg hne]

@[simp] theorem get?_erase (map : OrderedMap α) (name other : String) :
    (map.erase name).get? other = if other = name then none else map.get? other :=
  Entries.get?_without name map.entries other

theorem insert_insert (map : OrderedMap α) (name : String) (value later : α) :
    (map.insert name value).insert name later = map.insert name later :=
  ext (Entries.put_put name value later map.entries)

theorem names_insert_eq_ite (map : OrderedMap α) (name : String) (value : α) :
    (map.insert name value).names =
      if name ∈ map.names then map.names else map.names ++ [name] :=
  Entries.names_put name value map.entries

theorem names_insert (map : OrderedMap α) (name : String) (value : α) :
    (map.insert name value).names =
      if map.contains name then map.names else map.names ++ [name] := by
  rw [names_insert_eq_ite, contains]
  cases hget : map.get? name with
  | none => exact if_neg (get?_eq_none_iff.mp hget)
  | some old => exact if_pos (mem_names_of_get? hget)

theorem mem_names_insert {map : OrderedMap α} {name other : String} {value : α} :
    other ∈ (map.insert name value).names ↔ other = name ∨ other ∈ map.names := by
  rw [names_insert_eq_ite]
  split
  next hmem =>
    constructor
    · exact Or.inr
    · rintro (rfl | hother)
      · exact hmem
      · exact hother
  next => rw [List.mem_append, List.mem_singleton, or_comm]

/-- Writes that keep the place of a name or add it at the end: the new names follow the old ones,
in the order in which they are written. -/
theorem names_foldl {write : OrderedMap α → String × α → OrderedMap α}
    (hwrite : ∀ map entry, (write map entry).names =
      if entry.1 ∈ map.names then map.names else map.names ++ [entry.1])
    (map : OrderedMap α) {entries : List (String × α)} (hnodup : (Entries.names entries).Nodup) :
    (entries.foldl write map).names =
      map.names ++ (Entries.names entries).filter (· ∉ map.names) := by
  induction entries generalizing map with
  | nil => simp [Entries.names]
  | cons entry rest ih =>
      obtain ⟨hfresh, hrest⟩ := List.nodup_cons.mp hnodup
      change (rest.foldl write (write map entry)).names =
        map.names ++ (entry.1 :: Entries.names rest).filter (· ∉ map.names)
      rw [ih _ hrest, hwrite]
      split
      next hold => rw [List.filter_cons_of_neg (by simpa using hold)]
      next hnew =>
        rw [List.filter_cons_of_pos (by simpa using hnew), List.append_assoc,
          List.singleton_append]
        -- The name that has been written does not come again.
        congr 2
        apply List.filter_congr
        intro name hname
        have hne : name ≠ entry.1 := fun heq => hfresh (heq ▸ hname)
        simp [hne]

theorem names_insertAll (map : OrderedMap α) {entries : List (String × α)}
    (hnodup : (Entries.names entries).Nodup) :
    (map.insertAll entries).names =
      map.names ++ (Entries.names entries).filter (· ∉ map.names) :=
  names_foldl (fun before entry => names_insert_eq_ite before entry.1 entry.2) map hnodup

theorem entries_insert_of_notMem {map : OrderedMap α} {name : String} (hfresh : name ∉ map.names)
    (value : α) : (map.insert name value).entries = map.entries ++ [(name, value)] :=
  Entries.put_of_notMem hfresh value

theorem get?_insertAll_of_notMem (map : OrderedMap α) {entries : List (String × α)} {name : String}
    (hname : name ∉ Entries.names entries) :
    (map.insertAll entries).get? name = map.get? name := by
  induction entries generalizing map with
  | nil => rfl
  | cons entry rest ih =>
      obtain ⟨other, value⟩ := entry
      rw [Entries.names, List.map_cons, List.mem_cons, not_or] at hname
      change ((map.insert other value).insertAll rest).get? name = _
      rw [ih _ hname.2, get?_insert_of_ne map hname.1]

/-- Keeping entries by their names. -/
theorem get?_filter (map : OrderedMap α) (keep : String → Bool) (name : String) :
    (map.filter fun other _ => keep other).get? name =
      if keep name then map.get? name else none := by
  apply Option.ext
  intro value
  have hmem : (name, value) ∈ (map.filter fun other _ => keep other).entries ↔
      (name, value) ∈ map.entries ∧ keep name = true :=
    List.mem_filter
  rw [get?_eq_some_iff, hmem]
  by_cases hkeep : keep name = true
  · rw [if_pos hkeep, get?_eq_some_iff]
    exact and_iff_left hkeep
  · simp [hkeep]

theorem names_filter (map : OrderedMap α) (keep : String → Bool) :
    (map.filter fun name _ => keep name).names = map.names.filter keep :=
  List.filter_map.symm

/-- Two maps hold the same values under the same names exactly if they have the same entries up
to order. -/
theorem entries_perm_iff {left right : OrderedMap α} :
    left.entries.Perm right.entries ↔ ∀ name, left.get? name = right.get? name := by
  have hentries (map : OrderedMap α) : map.entries.Nodup := List.Nodup.of_map _ map.nodup
  rw [List.perm_ext_iff_of_nodup (hentries left) (hentries right)]
  constructor
  · intro hsame name
    apply Option.ext
    intro value
    rw [get?_eq_some_iff, get?_eq_some_iff]
    exact hsame (name, value)
  · rintro hsame ⟨name, value⟩
    rw [← get?_eq_some_iff, ← get?_eq_some_iff, hsame name]

/-- The entries of a map, from its names and what it holds under each of them. -/
theorem map_some_entries (map : OrderedMap α) :
    map.entries.map some = map.names.map fun name => (map.get? name).map (Prod.mk name) := by
  unfold names Entries.names
  rw [List.map_map]
  apply List.map_congr_left
  rintro ⟨name, value⟩ hmem
  simp [get?_eq_some_iff.mpr hmem]

/-- Maps that hold the same values under the same names in the same order are equal. -/
theorem eq_of_names_eq {left right : OrderedMap α} (hnames : left.names = right.names)
    (hget : ∀ name, left.get? name = right.get? name) : left = right := by
  apply ext
  apply List.map_injective_iff.mpr fun _ _ => Option.some.inj
  rw [map_some_entries, map_some_entries, hnames]
  apply List.map_congr_left
  intro name _
  rw [hget]

/-- Writing distinct names one after the other: a name that is written holds its new value,
the others hold what they held. -/
theorem get?_insertAll (map : OrderedMap α) {entries : List (String × α)}
    (hnodup : (Entries.names entries).Nodup) (name : String) :
    (map.insertAll entries).get? name = (Entries.get? entries name).or (map.get? name) := by
  induction entries generalizing map with
  | nil => rfl
  | cons entry rest ih =>
      obtain ⟨other, value⟩ := entry
      obtain ⟨hfresh, hrest⟩ := List.nodup_cons.mp hnodup
      change ((map.insert other value).insertAll rest).get? name = _
      rw [ih _ hrest, Entries.get?_cons, get?_insert]
      by_cases heq : name = other
      · have hnone : Entries.get? rest name = none :=
          Entries.get?_eq_none_iff.mpr (heq ▸ hfresh)
        rw [if_pos heq, if_pos heq, hnone]
        rfl
      · rw [if_neg heq, if_neg heq]

/-- Writing new names, each of them once, appends them as they come. -/
theorem entries_insertAll_of_fresh (map : OrderedMap α) {entries : List (String × α)}
    (hnodup : (Entries.names entries).Nodup)
    (hfresh : ∀ name ∈ Entries.names entries, name ∉ map.names) :
    (map.insertAll entries).entries = map.entries ++ entries := by
  induction entries generalizing map with
  | nil => exact (List.append_nil _).symm
  | cons entry rest ih =>
      obtain ⟨name, value⟩ := entry
      obtain ⟨hnew, hrest⟩ := List.nodup_cons.mp hnodup
      have hname : name ∉ map.names := hfresh name List.mem_cons_self
      change ((map.insert name value).insertAll rest).entries = _
      rw [ih _ hrest, entries_insert_of_notMem hname, List.append_assoc, List.singleton_append]
      intro other hother hmem
      rcases mem_names_insert.mp hmem with rfl | hmem
      · exact hnew hother
      · exact hfresh other (List.mem_cons_of_mem _ hother) hmem

/-- A list of entries with distinct names is the list of its map. -/
theorem entries_ofList {entries : List (String × α)} (hnodup : (Entries.names entries).Nodup) :
    (ofList entries).entries = entries :=
  entries_insertAll_of_fresh empty hnodup fun _ _ hmem => nomatch hmem

theorem ofList_entries (map : OrderedMap α) : ofList map.entries = map :=
  ext (entries_ofList map.nodup)

theorem ofList_append_singleton (entries : List (String × α)) (name : String) (value : α) :
    ofList (entries ++ [(name, value)]) = (ofList entries).insert name value :=
  List.foldl_append

/-- Of the values that a list has under a name the map takes the last. -/
theorem get?_ofList (entries : List (String × α)) (name : String) :
    (ofList entries).get? name = Entries.get? entries.reverse name := by
  induction entries using List.reverseRecOn with
  | nil => rfl
  | append_singleton entries entry ih =>
      obtain ⟨other, value⟩ := entry
      rw [ofList_append_singleton, get?_insert, ih, List.reverse_append, List.reverse_singleton,
        List.singleton_append, Entries.get?_cons]

/-- Where the names of a map are those of a list of entries, in the order in which they first
came, this stays so when one more entry is written and listed. -/
theorem names_insert_eq_eraseDups {map : OrderedMap α} {entries : List (String × β)}
    (hnames : map.names = (Entries.names entries).eraseDups) (entry : String × β) (value : α) :
    (map.insert entry.1 value).names = (Entries.names (entries ++ [entry])).eraseDups := by
  have happend : Entries.names (entries ++ [entry]) = Entries.names entries ++ [entry.1] :=
    Entries.names_append entries [entry]
  rw [names_insert_eq_ite, hnames, happend, List.eraseDups_append]
  by_cases hold : entry.1 ∈ Entries.names entries
  · simp [List.removeAll, hold]
  · simp [List.removeAll, List.eraseDups_cons, hold]

/-- The names of a map are those of the list it was made of, in the order in which they first
came. -/
theorem names_ofList (entries : List (String × α)) :
    (ofList entries).names = (Entries.names entries).eraseDups := by
  induction entries using List.reverseRecOn with
  | nil => rfl
  | append_singleton entries entry ih =>
      rw [ofList_append_singleton]
      exact names_insert_eq_eraseDups ih entry entry.2

end OrderedMap

end DocStore
