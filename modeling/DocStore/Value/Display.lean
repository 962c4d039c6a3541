import DocStore.Calendar
import DocStore.Number.Shortest
import DocStore.Text.Base64
import DocStore.Text.Hex
import DocStore.Value.Basic

/-!
# Values in messages

The text by which a value is shown in a message. Strings stand between quotes as
they are, without escapes.
-/

namespace DocStore.Value

/-- The digits of an object id. -/
def objectIdText (id : BitVec 96) : String :=
  String.ofList (Text.hexPadded id.toNat 24)

/-- A byte in hexadecimal, with its mark and without padding. -/
def byteText (b : UInt8) : String :=
  "0x" ++ String.ofList (Text.hexNat b.toNat)

mutual

/-- The text of a value. -/
def display : Value → String
  | null => "null"
  | undefined => "undefined"
  | bool b => if b then "true" else "false"
  | int32 n => toString n.toInt
  | int64 n => toString n.toInt
  | double d => NumberLayout.message.text d
  | decimal d => d.text
  | string s => "\"" ++ s ++ "\""
  | array items => "[" ++ ", ".intercalate (displayItems items) ++ "]"
  | document [] => "\x7b\x7d"
  | document (entry :: rest) =>
      "\x7b " ++ ", ".intercalate (displayEntries (entry :: rest)) ++ " \x7d"
  | dateTime time => "DateTime(\"" ++ Calendar.text time.toInt ++ "\")"
  | timestamp time increment =>
      "Timestamp(" ++ toString time.toNat ++ ", " ++ toString increment.toNat ++ ")"
  | objectId id => "ObjectId(\"" ++ objectIdText id ++ "\")"
  | binary subtype bytes =>
      "Binary(" ++ byteText subtype ++ ", " ++ String.ofList (Text.base64 bytes) ++ ")"
  | regex pattern options => "/" ++ pattern ++ "/" ++ options
  | code source => source
  | codeWithScope source _ => source
  | symbol name => "Symbol(\"" ++ name ++ "\")"
  | dbPointer collection id => "DbPointer(" ++ collection ++ ", " ++ objectIdText id ++ ")"
  | minKey => "MinKey"
  | maxKey => "MaxKey"

/-- The texts of the items of an array. -/
def displayItems : List Value → List String
  | [] => []
  | item :: rest => item.display :: displayItems rest

/-- The texts of the entries of a document. -/
def displayEntries : List (String × Value) → List String
  | [] => []
  | (name, value) :: rest => ("\"" ++ name ++ "\": " ++ value.display) :: displayEntries rest

end

end DocStore.Value
