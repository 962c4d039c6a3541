/-!
# Ordered maps

A mapping from names to values which remembers the order in which its names
first came. Writing over a name keeps its place, a new name goes to the end, and
taking a name out leaves the others as they stand. Documents, schemas and
conjunctions of conditions are all read and written in this way.

The work is done on plain lists of entries, since the entries of a nested
document are such a list too; `OrderedMap` is a list of entries whose names are
distinct.
-/

namespace DocStore

universe u v

namespace Entries

variable {α : Type u} {β : Type v}

/-- The names of a list of entries, in order. -/
def names (entries : List (String × α)) : List String :=
  entries.map Prod.fst

/-- The value under a name. -/
def get? (entries : List (String × α)) (name : String) : Option α :=
  entries.lookup name

/-- Write a value under a name: in its place if the name is there, at the end
otherwise. -/
def put (name : String) (value : α) : List (String × α) → List (String × α)
  | [] => [(name, value)]
  | (other, old) :: rest =>
      if other = name then (other, value) :: rest
      else (other, old) :: put name value rest

/-- The entries under other names than the given one. -/
def without (name : String) (entries : List (String × α)) : List (String × α) :=
  entries.filter fun entry => entry.1 ≠ name

/-- Writing a value leaves the names as they are when the name is there, and
adds it at the end when it is not. -/
theorem names_put (name : String) (value : α) (entries : List (String × α)) :
    names (put name value entries) =
      if name ∈ names entries then names entries else names entries ++ [name] := by
  induction entries with
  | nil => simp [put, names]
  | cons entry rest ih =>
      obtain ⟨other, old⟩ := entry
      by_cases hother : other = name
      · simp [put, names, hother]
      · have hname : name ≠ other := fun h => hother h.symm
        simp only [names] at ih
        by_cases hmem : name ∈ rest.map Prod.fst
        · simp [put, names, hother, ih, hmem]
        · simp [put, names, hother, ih, hmem, hname]

/-- Distinct names stay distinct when a value is written. -/
theorem nodup_names_put (name : String) (value : α) {entries : List (String × α)}
    (hnodup : (names entries).Nodup) : (names (put name value entries)).Nodup := by
  rw [names_put]
  split
  · exact hnodup
  · next hmem =>
      rw [List.nodup_append]
      refine ⟨hnodup, by simp, ?_⟩
      intro other hother _ hname hequal
      rw [List.mem_singleton] at hname
      exact hmem (hname ▸ hequal ▸ hother)

/-- Distinct names stay distinct when entries are left out. -/
theorem nodup_names_filter (keep : String × α → Bool) {entries : List (String × α)}
    (hnodup : (names entries).Nodup) : (names (entries.filter keep)).Nodup :=
  (List.filter_sublist.map Prod.fst).nodup hnodup

end Entries

/-- A mapping from distinct names to values, in an order of its own. -/
structure OrderedMap (α : Type u) where
  /-- The entries, in order. -/
  entries : List (String × α)
  /-- No name comes twice. -/
  nodup : (Entries.names entries).Nodup

namespace OrderedMap

variable {α : Type u} {β : Type v}

/-- Two maps with the same entries in the same order are equal. -/
@[ext] theorem ext {left right : OrderedMap α} (h : left.entries = right.entries) :
    left = right := by
  cases left
  cases right
  cases h
  rfl

/-- The map without entries. -/
def empty : OrderedMap α := ⟨[], List.nodup_nil⟩

instance : EmptyCollection (OrderedMap α) := ⟨empty⟩

instance : Inhabited (OrderedMap α) := ⟨empty⟩

/-- The names, in order. -/
def names (map : OrderedMap α) : List String :=
  Entries.names map.entries

/-- The value under a name. -/
def get? (map : OrderedMap α) (name : String) : Option α :=
  Entries.get? map.entries name

/-- Is there a value under this name? -/
def contains (map : OrderedMap α) (name : String) : Bool :=
  (map.get? name).isSome

/-- Is the map without entries? -/
def isEmpty (map : OrderedMap α) : Bool :=
  map.entries.isEmpty

/-- The number of entries. -/
def size (map : OrderedMap α) : Nat :=
  map.entries.length

/-- Write a value under a name, in its place if the name is there, at the end
otherwise. -/
def insert (map : OrderedMap α) (name : String) (value : α) : OrderedMap α :=
  ⟨Entries.put name value map.entries, Entries.nodup_names_put name value map.nodup⟩

/-- Take a name out; the others keep their order. -/
def erase (map : OrderedMap α) (name : String) : OrderedMap α :=
  ⟨Entries.without name map.entries, Entries.nodup_names_filter _ map.nodup⟩

/-- Keep the entries that pass a test. -/
def filter (map : OrderedMap α) (keep : String → α → Bool) : OrderedMap α :=
  ⟨map.entries.filter fun entry => keep entry.1 entry.2,
    Entries.nodup_names_filter _ map.nodup⟩

/-- Write the entries of a list, one after the other. -/
def insertAll (map : OrderedMap α) (entries : List (String × α)) : OrderedMap α :=
  entries.foldl (fun sofar entry => sofar.insert entry.1 entry.2) map

/-- The map of a list of entries: a repeated name keeps its first place and
takes its last value. -/
def ofList (entries : List (String × α)) : OrderedMap α :=
  empty.insertAll entries

end OrderedMap

end DocStore
