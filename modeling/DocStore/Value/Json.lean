import DocStore.Json.Record
import DocStore.Text.Base64
import DocStore.Text.Utf8
import DocStore.Value.Display
import DocStore.Value.Extended

/-!
# Values as JSON

Values are written as plain JSON where there is a plain form: every integer as a
number, every finite double as a number, what is not finite as null. The others are
spelled by a document with a single entry, or with two for code with its variables.
Values are read back from a text, where the name of such an entry decides at once what
follows.
-/

namespace DocStore.Value

/-! ## Writing -/

/-- A number in a JSON text. -/
def jsonInteger (n : Int) : Json :=
  .number (.integer n)

/-- A double in a JSON text; null if it is not finite. -/
def jsonDouble (d : Double) : Json :=
  if d.isFinite then .number (.double d) else .null

/-- An object with a single member. -/
def jsonMarked (mark : String) (content : Json) : Json :=
  .object [(mark, content)]

/-- Bytes as an array of numbers. -/
def jsonBytes (bytes : List UInt8) : Json :=
  .array (bytes.map fun b => jsonInteger b.toNat)

/-- Bytes of a kind. -/
def jsonBinary (subtype : UInt8) (bytes : List UInt8) : Json :=
  if subtype = 0 then jsonBytes bytes
  else jsonMarked "$binary" (.object
    [("base64", .string (String.ofList (Text.base64 bytes))),
      ("subType", .string (String.ofList (Text.hexPadded subtype.toNat 2)))])

mutual

/-- A value in JSON. -/
def toJson : Value → Json
  | null => .null
  | undefined => jsonMarked "$undefined" (.bool true)
  | bool b => .bool b
  | int32 n => jsonInteger n.toInt
  | int64 n => jsonInteger n.toInt
  | double d => jsonDouble d
  | decimal d => jsonMarked "$numberDecimalBytes" (jsonBytes d.bytes)
  | string s => .string s
  | array items => .array (jsonItems items)
  | document entries => .object (jsonMembers entries)
  | dateTime time =>
      jsonMarked "$date" (jsonMarked "$numberLong" (.string (toString time.toInt)))
  | timestamp time increment =>
      jsonMarked "$timestamp" (.object
        [("t", jsonInteger time.toNat), ("i", jsonInteger increment.toNat)])
  | objectId id => jsonMarked "$oid" (.string (objectIdText id))
  | binary subtype bytes => jsonBinary subtype bytes
  | regex pattern options =>
      jsonMarked "$regularExpression" (.object
        [("pattern", .string pattern), ("options", .string options)])
  | code source => jsonMarked "$code" (.string source)
  | codeWithScope source scope =>
      .object [("$code", .string source), ("$scope", .object (jsonMembers scope))]
  | symbol name => jsonMarked "$symbol" (.string name)
  | dbPointer collection id =>
      jsonMarked "$dbPointer" (.object
        [("$ref", .string collection),
          ("$id", jsonMarked "$oid" (.string (objectIdText id)))])
  | minKey => jsonMarked "$minKey" (jsonInteger 1)
  | maxKey => jsonMarked "$maxKey" (jsonInteger 1)

/-- The items of an array in JSON. -/
def jsonItems : List Value → List Json
  | [] => []
  | item :: rest => item.toJson :: jsonItems rest

/-- The entries of a document in JSON. -/
def jsonMembers : List (String × Value) → List (String × Json)
  | [] => []
  | (name, value) :: rest => (name, value.toJson) :: jsonMembers rest

end

/-! ## Reading -/

/-- The value of an integer: of 32 bits if it is not negative and fits, else of 64
bits. -/
def ofSourceInteger? (n : Int) : Option Value :=
  if 0 ≤ n ∧ n ≤ 2147483647 then int32? n else int64? n

/-- The names that decide what follows them. -/
def marks : List String :=
  ["$oid", "$symbol", "$numberInt", "$numberLong", "$numberDouble", "$numberDecimal",
    "$numberDecimalBytes", "$binary", "$code", "$scope", "$timestamp", "$regularExpression",
    "$dbPointer", "$date", "$minKey", "$maxKey", "$undefined"]

/-- The point in time after the mark of a date: a text, or milliseconds since 1970 as a
number or as a record with a text. -/
def dateOfSource? : JsonSource → Option Value
  | .string text => ofMarkedText? "$date" text
  | .number (.integer n) => instant? n
  | source => do
      let record ← source.closedRecord? ["$numberLong"]
      let text ← record.required? "$numberLong" JsonSource.string?
      (Text.readInt? text.toList).bind instant?

/-- The decimal after the mark of its bytes, which are numbers or those of a text. -/
def decimalOfSource? (source : JsonSource) : Option Value :=
  (match source with
    | .string text => Decimal128.ofBytes? (Text.encodeUtf8 text.toList)
    | source => (source.list? JsonSource.byte?).bind Decimal128.ofBytes?).map .decimal

/-- The object id in a record. -/
def objectIdOfSource? (source : JsonSource) : Option (BitVec 96) := do
  let record ← source.closedRecord? ["$oid"]
  let text ← record.required? "$oid" JsonSource.string?
  readObjectId? text

/-- The value after a mark that a record follows. -/
def recordOfSource? (mark : String) (source : JsonSource) : Option Value :=
  match mark with
  | "$timestamp" => do
      let record ← source.closedRecord? ["t", "i"]
      let time ← record.required? "t" JsonSource.integer?
      let increment ← record.required? "i" JsonSource.integer?
      timestamp? time increment
  | "$regularExpression" => do
      let record ← source.closedRecord? ["pattern", "options"]
      let pattern ← record.required? "pattern" JsonSource.string?
      let options ← record.required? "options" JsonSource.string?
      regex? pattern options
  | "$binary" => do
      let record ← source.closedRecord? ["base64", "subType"]
      let base64 ← record.required? "base64" JsonSource.string?
      let subtype ← record.required? "subType" JsonSource.string?
      binary? base64 subtype
  | "$dbPointer" => do
      let record ← source.closedRecord? ["$ref", "$id"]
      let collection ← record.required? "$ref" JsonSource.string?
      let id ← record.required? "$id" objectIdOfSource?
      some (.dbPointer collection id)
  | _ => none

/-- The value of what follows a mark. -/
def ofMarkedSource? (mark : String) (source : JsonSource) : Option Value :=
  if mark = "$date" then dateOfSource? source
  else if mark = "$numberDecimalBytes" then decimalOfSource? source
  else match source with
    | .string text => ofMarkedText? mark text
    | .number (.integer n) => ofMarkedNumber? mark n
    | .bool true => if mark = "$undefined" then some .undefined else none
    | source => recordOfSource? mark source

/-- Code with its variables, which are read as a document. -/
def codeOfSources? (source : JsonSource) (scope : Option Value) : Option Value :=
  match source, scope with
  | .string source, some (.document entries) => some (.codeWithScope source entries)
  | _, _ => none

mutual

/-- Read a value. -/
def ofSource? : JsonSource → Option Value
  | .null => some .null
  | .bool b => some (.bool b)
  | .number (.integer n) => ofSourceInteger? n
  | .number (.double d) => some (.double d)
  | .string s => some (.string s)
  | .array items => (ofSourceItems? items).map .array
  | .object members => ofSourceMembers? ∅ members
  | .unreadable => none

/-- Read the items of an array. -/
def ofSourceItems? : List JsonSource → Option (List Value)
  | [] => some []
  | item :: rest => do
      let first ← ofSource? item
      let others ← ofSourceItems? rest
      some (first :: others)

/-- Read the members of an object, after those already read. A mark decides the value,
whatever came before it, but nothing may follow what it marks, except that code and its
variables follow each other. -/
def ofSourceMembers? (sofar : Document) : List (Option String × JsonSource) → Option Value
  | [] => some sofar.toValue
  | (none, _) :: _ => none
  | (some name, member) :: rest =>
      if name ∈ marks then
        match rest with
        | [] => ofMarkedSource? name member
        | [(some other, second)] =>
            if name = "$code" ∧ other = "$scope" then
              codeOfSources? member (ofSource? second)
            else if name = "$scope" ∧ other = "$code" then
              codeOfSources? second (ofSource? member)
            else none
        | _ => none
      else do
        let value ← ofSource? member
        ofSourceMembers? (sofar.insert name value) rest

end

end DocStore.Value
