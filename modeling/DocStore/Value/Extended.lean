import DocStore.Calendar.Reader
import DocStore.Number.Decimal128.Reader
import DocStore.Number.Fixed
import DocStore.Number.Reader
import DocStore.Text.Base64
import DocStore.Text.Hex
import DocStore.Value.Basic

/-!
# Values spelled as documents

JSON has no object ids, dates or integers of different sizes. A document with a
single entry whose name starts with a dollar sign can spell such a value, and one
with two entries can spell code with its variables. A document that spells nothing is
a document.
-/

namespace DocStore.Value

/-- The integer of 32 bits that a number is, if it is one. -/
def int32? (n : Int) : Option Value :=
  (Fixed.int32? n).map .int32

/-- The integer of 64 bits that a number is, if it is one. -/
def int64? (n : Int) : Option Value :=
  (Fixed.int64? n).map .int64

/-- The point in time so many milliseconds after 1970, if it can be told. -/
def instant? (millis : Int) : Option Value :=
  (Fixed.int64? millis).map .dateTime

/-- The object id of twenty-four digits. -/
def readObjectId? (text : String) : Option (BitVec 96) :=
  if text.length = 24 then (Text.readHex? text.toList).map (BitVec.ofNat 96) else none

/-- The double with this text. -/
def readDouble? (text : String) : Option Value :=
  (Double.ofText? text).map .double

/-- A regular expression. Its options come in order, and no part of it holds the
character zero. -/
def regex? (pattern options : String) : Option Value :=
  if (pattern ++ options).toList.contains '\x00' then none
  else some (.regex pattern
    (String.ofList (options.toList.mergeSort fun a b => a.toNat ≤ b.toNat)))

/-- Bytes of a kind, given in base 64 and by two hexadecimal digits. -/
def binary? (base64 subtype : String) : Option Value := do
  let bytes ← Text.readBase64? base64.toList
  let kind ← if subtype.length = 2 then Text.readHex? subtype.toList else none
  some (.binary (UInt8.ofNat kind) bytes)

/-- A timestamp of two numbers of 32 bits. -/
def timestamp? (time increment : Int) : Option Value := do
  some (.timestamp (← Fixed.uint32? time) (← Fixed.uint32? increment))

/-- The value that a text spells under a name. -/
def ofMarkedText? (mark text : String) : Option Value :=
  match mark with
  | "$oid" => (readObjectId? text).map .objectId
  | "$numberInt" => (Text.readInt? text.toList).bind int32?
  | "$numberLong" => (Text.readInt? text.toList).bind int64?
  | "$numberDouble" => readDouble? text
  | "$numberDecimal" => (Decimal128.ofText? text).map .decimal
  | "$date" => (Calendar.ofText? text).bind instant?
  | "$symbol" => some (.symbol text)
  | "$code" => some (.code text)
  | _ => none

/-- Bytes of a kind, both given by texts, or else both by values. -/
def binaryOfEntries? (entries : List (String × Value)) : Option Value :=
  match Entries.get? entries "base64", Entries.get? entries "subType" with
  | some (.string base64), some (.string subtype) => binary? base64 subtype
  | some (.string _), _ => none
  | _, some (.int32 subtype) =>
      match Entries.get? entries "bytes" with
      | some (.binary 0 bytes) => (Fixed.uint8? subtype.toInt).map fun kind => .binary kind bytes
      | _ => none
  | _, _ => none

/-- The value that a document spells under a name. -/
def ofMarkedEntries? (mark : String) (entries : List (String × Value)) : Option Value :=
  match mark with
  | "$timestamp" =>
      match Entries.get? entries "t", Entries.get? entries "i" with
      | some (.int64 time), some (.int64 increment) => timestamp? time.toInt increment.toInt
      | some (.int32 time), some (.int32 increment) =>
          some (.timestamp time.toUInt32 increment.toUInt32)
      | _, _ => none
  | "$regularExpression" =>
      match Entries.get? entries "pattern", Entries.get? entries "options" with
      | some (.string pattern), some (.string options) => regex? pattern options
      | _, _ => none
  | "$binary" => binaryOfEntries? entries
  | "$dbPointer" =>
      match Entries.get? entries "$ref", Entries.get? entries "$id" with
      | some (.string collection), some (.objectId id) => some (.dbPointer collection id)
      | _, _ => none
  | _ => none

/-- The value that a number spells under a name. -/
def ofMarkedNumber? (mark : String) (n : Int) : Option Value :=
  match mark with
  | "$minKey" => if n = 1 then some .minKey else none
  | "$maxKey" => if n = 1 then some .maxKey else none
  | _ => none

/-- The value that another value spells under a name. -/
def ofMarked? (mark : String) (value : Value) : Option Value :=
  match value with
  | string text => ofMarkedText? mark text
  | document entries => ofMarkedEntries? mark entries
  | int32 n => ofMarkedNumber? mark n.toInt
  | int64 n => if mark = "$date" then some (.dateTime n) else ofMarkedNumber? mark n.toInt
  | bool true => if mark = "$undefined" then some .undefined else none
  | binary 0 bytes =>
      if mark = "$numberDecimalBytes" then (Decimal128.ofBytes? bytes).map .decimal else none
  | _ => none

/-- The code with its variables that two entries spell, in whatever order. -/
def ofCodeEntries? (entries : List (String × Value)) : Option Value :=
  match Entries.get? entries "$code", Entries.get? entries "$scope" with
  | some (.string source), some (.document scope) => some (.codeWithScope source scope)
  | _, _ => none

/-- The value that the entries of a document spell, if they do. -/
def spelled? (entries : List (String × Value)) : Option Value :=
  match entries with
  | [(mark, value)] => ofMarked? mark value
  | [_, _] => ofCodeEntries? entries
  | _ => none

/-- The value with the entries of a document: what they spell, or the document
itself. -/
def ofEntries (entries : List (String × Value)) : Value :=
  (spelled? entries).getD (.document entries)

end DocStore.Value
