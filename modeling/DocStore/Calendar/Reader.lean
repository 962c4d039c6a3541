import DocStore.Calendar

/-!
# Reading points in time

A point in time is written as a date, a separator of any kind, a time of day with
an optional fraction of a second, and the distance from universal time. A
sixtieth second is read only where a leap second can be: at the end of the last
day of a month in universal time.
-/

namespace DocStore.Calendar

/-- A number of exactly so many digits, and what follows it. -/
def takeNumber? (width : Nat) (text : List Char) : Option (Nat × List Char) :=
  let digits := text.take width
  if digits.length = width then (Text.readNat? digits).map fun n => (n, text.drop width)
  else none

/-- What follows a character. -/
def takeChar? (c : Char) : List Char → Option (List Char)
  | [] => none
  | first :: rest => if first = c then some rest else none

/-- What follows a separator, which is any character of a single byte. -/
def takeSeparator? : List Char → Option (List Char)
  | [] => none
  | c :: rest => if c.toNat < 128 then some rest else none

/-- A fraction of a second in nanoseconds, if there is one; further digits are of no
account. -/
def takeFraction? (text : List Char) : Option (Nat × List Char) :=
  match text with
  | '.' :: rest =>
      let (digits, rest) := Text.spanDigits rest
      if digits.isEmpty then none
      else some (Text.digitsToNat ((digits ++ List.replicate 9 '0').take 9), rest)
  | text => some (0, text)

/-- The distance from universal time in minutes. -/
def readOffset? (text : List Char) : Option Int :=
  match text with
  | ['Z'] => some 0
  | ['z'] => some 0
  | sign :: rest =>
      if sign = '+' ∨ sign = '-' then do
        let (hours, rest) ← takeNumber? 2 rest
        let rest ← takeChar? ':' rest
        let (minutes, rest) ← takeNumber? 2 rest
        if hours < 24 ∧ minutes < 60 ∧ rest = [] then
          some (if sign = '-' then -(hours * 60 + minutes : Int) else (hours * 60 + minutes : Int))
        else none
      else none
  | [] => none

/-- Read a date, and what follows it. -/
def takeDate? (text : List Char) : Option (CivilDate × List Char) := do
  let (year, rest) ← takeNumber? 4 text
  let rest ← takeChar? '-' rest
  let (month, rest) ← takeNumber? 2 rest
  let rest ← takeChar? '-' rest
  let (day, rest) ← takeNumber? 2 rest
  if 1 ≤ month ∧ month ≤ 12 ∧ 1 ≤ day ∧ day ≤ CivilDate.daysInMonth year month then
    some (⟨year, month, day⟩, rest)
  else none

/-- Is this second of universal time, counted from 1970, the last one of a month? -/
def endsMonth (seconds : Int) : Bool :=
  let date := CivilDate.ofDays (Int.fdiv seconds 86400)
  Int.fmod seconds 86400 = 86399 && date.day = CivilDate.daysInMonth date.year date.month

/-- Read a point in time, in milliseconds since 1970. What is below a millisecond is
cut off towards 1970. -/
def ofText? (text : String) : Option Int := do
  let (date, rest) ← takeDate? text.toList
  let rest ← takeSeparator? rest
  let (hour, rest) ← takeNumber? 2 rest
  let rest ← takeChar? ':' rest
  let (minute, rest) ← takeNumber? 2 rest
  let rest ← takeChar? ':' rest
  let (second, rest) ← takeNumber? 2 rest
  let (nanos, rest) ← takeFraction? rest
  let offset ← readOffset? rest
  if 24 ≤ hour ∨ 60 ≤ minute ∨ 60 < second then none
  else
    let leap := second = 60
    let seconds := date.toDays * 86400 + hour * 3600 + (minute - offset) * 60 +
      (if leap then 59 else second)
    if leap && !endsMonth seconds then none
    else
      let nanos := if leap then 999999999 else nanos
      some (Int.tdiv (seconds * 1000000000 + nanos) 1000000)

end DocStore.Calendar
