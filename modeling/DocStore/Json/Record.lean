import DocStore.Json.Basic
import DocStore.Number.Fixed

/-!
# Records in JSON texts

A record with fixed fields is written as an object, whose further members are of no
account, or as an array of the fields in their order. An object may leave out a
field that can be absent; an array may do so only at its end, and only with fields
that have a default. A choice between names is written as the name, or as an object
with this name alone.
-/

namespace DocStore

/-- The fields of a record as they were written. -/
structure JsonRecord where
  /-- Are the fields told by their places? -/
  byPlace : Bool
  /-- The fields that were written. -/
  fields : List (String × JsonSource)

namespace JsonSource

/-- The members of an object with one of some names. No name may be unreadable, and
none of these names may come twice. -/
def members? (names : List String) :
    List (Option String × JsonSource) → Option (List (String × JsonSource))
  | [] => some []
  | (none, _) :: _ => none
  | (some name, member) :: rest => do
      let others ← members? names rest
      if name ∈ names then
        if name ∈ others.map Prod.fst then none else some ((name, member) :: others)
      else some others

/-- The fields of a record with these names. -/
def record? (names : List String) : JsonSource → Option JsonRecord
  | object members => (members? names members).map fun fields => ⟨false, fields⟩
  | array items => if items.length ≤ names.length then some ⟨true, names.zip items⟩ else none
  | _ => none

/-- The fields of a record with these names, beside which nothing may be written. -/
def closedRecord? (names : List String) (source : JsonSource) : Option JsonRecord :=
  match source with
  | object members =>
      if members.all fun member => member.1.any (· ∈ names) then source.record? names else none
  | _ => source.record? names

/-- A truth value. -/
def bool? : JsonSource → Option Bool
  | bool b => some b
  | _ => none

/-- A string. -/
def string? : JsonSource → Option String
  | string s => some s
  | _ => none

/-- An integer. -/
def integer? : JsonSource → Option Int
  | number (.integer n) => some n
  | _ => none

/-- A natural number of 64 bits. -/
def uint64? (source : JsonSource) : Option UInt64 :=
  source.integer?.bind Fixed.uint64?

/-- A byte. -/
def byte? (source : JsonSource) : Option UInt8 :=
  source.integer?.bind Fixed.uint8?

/-- An integer of 32 bits. -/
def int32? (source : JsonSource) : Option Int32 :=
  source.integer?.bind Fixed.int32?

/-- Null, or what can be read otherwise. -/
def nullable? {α : Type} (read : JsonSource → Option α) (source : JsonSource) :
    Option (Option α) :=
  match source with
  | null => some none
  | other => (read other).map some

/-- The items of an array, each of which has to be readable. -/
def list? {α : Type} (read : JsonSource → Option α) (source : JsonSource) : Option (List α) :=
  match source with
  | array items => items.mapM read
  | _ => none

/-- A choice: its name, and what was written under it, if anything. -/
def choice? : JsonSource → Option (String × Option JsonSource)
  | string name => some (name, none)
  | object [(some name, content)] => some (name, some content)
  | _ => none

/-- A choice with nothing but null written under its name. -/
def plainChoice? (source : JsonSource) : Option String :=
  match source.choice? with
  | some (name, none) => some name
  | some (name, some .null) => some name
  | _ => none

end JsonSource

namespace JsonRecord

variable {α : Type}

/-- A field that has to be written. -/
def required? (record : JsonRecord) (name : String) (read : JsonSource → Option α) :
    Option α :=
  (record.fields.lookup name).bind read

/-- A field with a default. -/
def defaulted? (record : JsonRecord) (name : String) (default : α)
    (read : JsonSource → Option α) : Option α :=
  match record.fields.lookup name with
  | none => some default
  | some source => read source

/-- A field that may be null, and may be left out of an object. -/
def optional? (record : JsonRecord) (name : String) (read : JsonSource → Option α) :
    Option (Option α) :=
  match record.fields.lookup name with
  | none => if record.byPlace then none else some none
  | some source => JsonSource.nullable? read source

end JsonRecord

namespace Json

/-- A natural number in JSON. -/
def ofNat (n : Nat) : Json :=
  .number (.integer n)

/-- A value that may be absent, in JSON. -/
def ofOption {α : Type} (write : α → Json) : Option α → Json
  | none => .null
  | some a => write a

end Json

end DocStore
