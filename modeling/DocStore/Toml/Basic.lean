import DocStore.OrderedMap

/-!
# TOML documents

A TOML document is a tree of tables with values at its leaves. Tables come into being
in several ways, by headers, by dotted names, or in one piece, and which way it was
decides whether a later line may still add to a table. Nothing is ever written twice.
-/

namespace DocStore

/-- How a table came into being. -/
inductive TableOrigin where
  /-- A header named a table below it. -/
  | implied
  /-- A header named it. -/
  | header
  /-- A dotted name passed through it. -/
  | dotted
  /-- It was written in one piece. -/
  | inPlace
deriving DecidableEq, Repr, Inhabited

/-- A TOML value. Numbers with a point and points in time are kept as they were
written. -/
inductive Toml where
  | string (s : String)
  | integer (n : Int)
  | float (text : String)
  | bool (b : Bool)
  | moment (text : String)
  | array (items : List Toml)
  | table (origin : TableOrigin) (entries : List (String × Toml))
  /-- The tables of an array to which headers add. -/
  | tables (items : List (List (String × Toml)))
deriving Repr, Inhabited

namespace Toml

/-- Is this an array or a table with nothing in it? -/
def isEmpty : Toml → Bool
  | array [] => true
  | table _ [] => true
  | _ => false

/-- The entries of a table. -/
abbrev Members := List (String × Toml)

/-- Write a value under a name that is not there yet. -/
def Members.add? (members : Members) (name : String) (value : Toml) : Option Members :=
  if name ∈ Entries.names members then none else some (members ++ [(name, value)])

/-- Change the last of a list of tables. -/
def changeLast? (change : Members → Option Members) : List Members → Option (List Members)
  | [] => none
  | [last] => (change last).map ([·])
  | first :: rest => (changeLast? change rest).map (first :: ·)

/-- Change the table at the end of some names by which headers go down. Tables on the
way come into being if they are not there. -/
def Members.below? (change : Members → Option Members) :
    List String → Members → Option Members
  | [], members => change members
  | name :: rest, members =>
      match Entries.get? members name with
      | none => do
          let inner ← below? change rest []
          some (Entries.put name (.table .implied inner) members)
      | some (.table .inPlace _) => none
      | some (.table origin inner) => do
          let inner ← below? change rest inner
          some (Entries.put name (.table origin inner) members)
      | some (.tables items) => do
          let items ← changeLast? (below? change rest) items
          some (Entries.put name (.tables items) members)
      | some _ => none

/-- Write a value under a dotted name. The table that gets the value has to be made by
dotted names. On the way to it may also lie tables that headers have only implied and
arrays of tables, of which the last table counts. -/
def Members.addDotted? (value : Toml) : List String → Members → Option Members
  | [], _ => none
  | [name], members => members.add? name value
  | name :: next :: rest, members =>
      match Entries.get? members name with
      | none => do
          let inner ← addDotted? value (next :: rest) []
          some (Entries.put name (.table .dotted inner) members)
      | some (.table .dotted inner) => do
          let inner ← addDotted? value (next :: rest) inner
          some (Entries.put name (.table .dotted inner) members)
      | some (.table .implied inner) =>
          if rest.isEmpty then none
          else do
            let inner ← addDotted? value (next :: rest) inner
            some (Entries.put name (.table .implied inner) members)
      | some (.tables items) =>
          if rest.isEmpty then none
          else do
            let items ← changeLast? (addDotted? value (next :: rest)) items
            some (Entries.put name (.tables items) members)
      | some _ => none

/-- Open the table that a header names. A table that headers have only implied so far
may still be opened. -/
def Members.openTable? (members : Members) (name : String) : Option Members :=
  match Entries.get? members name with
  | none => some (members ++ [(name, .table .header [])])
  | some (.table .implied inner) => some (Entries.put name (.table .header inner) members)
  | some _ => none

/-- Open a further table of an array of tables. -/
def Members.openNext? (members : Members) (name : String) : Option Members :=
  match Entries.get? members name with
  | none => some (members ++ [(name, .tables [[]])])
  | some (.tables items) => some (Entries.put name (.tables (items ++ [[]])) members)
  | some _ => none

end Toml

end DocStore
